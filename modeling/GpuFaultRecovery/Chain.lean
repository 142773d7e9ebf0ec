import Mathlib.Data.Finset.Card
import Mathlib.Data.Finset.Range

/-!
# Chains of links

A link leads from an element to at most one other. A chain that stays in a finite set ends, or it comes back to an
element that it visited, and from then on it runs through the same loop.
-/

namespace Chain

variable {α : Type*} {next : α → Option α} {a b c : α}

/-- The element reached by `n` links. -/
def follow (next : α → Option α) : Nat → α → Option α
  | 0, a => some a
  | n + 1, a => (next a).bind (follow next n)

/-- The chain from an element comes back to it. -/
def OnLoop (next : α → Option α) (a : α) : Prop := ∃ n, 0 < n ∧ follow next n a = some a

private theorem follow_add (m n : Nat) : follow next (m + n) a = (follow next m a).bind (follow next n) := by
  induction m generalizing a with
  | zero => simp [follow]
  | succ m ih =>
    rw [Nat.succ_add, follow, follow, Option.bind_assoc]
    refine congrArg _ (funext fun b => ?_)
    exact ih

theorem follow_add_of {m n : Nat} (hm : follow next m a = some b) : follow next (m + n) a = follow next n b := by
  rw [follow_add, hm, Option.bind_some]

theorem follow_succ_of {n : Nat} (h : follow next n a = some b) : follow next (n + 1) a = next b := by
  rw [follow_add_of h, follow]
  cases next b <;> rfl

private theorem follow_le {m n : Nat} (hle : m ≤ n) (h : follow next n a = some b) :
    ∃ c, follow next m a = some c := by
  rw [← Nat.add_sub_cancel' hle, follow_add] at h
  obtain ⟨c, hc, _⟩ := Option.bind_eq_some_iff.1 h
  exact ⟨c, hc⟩

theorem OnLoop.follow_mul {n : Nat} (h : follow next n a = some a) (k : Nat) : follow next (k * n) a = some a := by
  induction k with
  | zero => simp [follow]
  | succ k ih => rw [Nat.succ_mul, follow_add_of ih, h]

private theorem OnLoop.exists_follow (h : OnLoop next a) (n : Nat) : ∃ b, follow next n a = some b := by
  obtain ⟨m, hpos, hm⟩ := h
  exact follow_le (Nat.le_mul_of_pos_right n hpos) (OnLoop.follow_mul hm n)

/-- Every element that a loop visits leads back to the start. -/
theorem OnLoop.exists_back (h : OnLoop next a) {n : Nat} (hb : follow next n a = some b) :
    ∃ m, follow next m b = some a := by
  obtain ⟨m, hpos, hm⟩ := h
  have hle : n ≤ n * m := Nat.le_mul_of_pos_right n hpos
  have hback := OnLoop.follow_mul hm n
  rw [← Nat.add_sub_cancel' hle, follow_add_of hb] at hback
  exact ⟨_, hback⟩

theorem OnLoop.of_follow (h : OnLoop next a) {n : Nat} (hb : follow next n a = some b) : OnLoop next b := by
  obtain ⟨m, hm⟩ := h.exists_back hb
  obtain ⟨k, hpos, hk⟩ := h
  refine ⟨m + (k + n), by omega, ?_⟩
  rw [follow_add_of hm, follow_add_of hk, hb]

/-- On a loop there is a next element, and it is on the loop. -/
theorem OnLoop.exists_next (h : OnLoop next a) : ∃ b, next a = some b ∧ OnLoop next b := by
  obtain ⟨b, hb⟩ := h.exists_follow 1
  refine ⟨b, ?_, h.of_follow hb⟩
  rw [← hb, follow]
  cases next a <;> rfl

/-- What each link keeps holds all along a chain. -/
theorem follow_induction {P : α → Prop} (hstep : ∀ a b, P a → next a = some b → P b) {n : Nat} (ha : P a)
    (hb : follow next n a = some b) : P b := by
  induction n generalizing a with
  | zero => exact Option.some.inj hb ▸ ha
  | succ n ih =>
    obtain ⟨c, hc, hrest⟩ := Option.bind_eq_some_iff.1 hb
    exact ih (hstep a c ha hc) hrest

/-- A chain that takes as many links as a list has elements, all in the list, visits one of them twice. -/
theorem exists_repeat {l : List α} (h : ∀ k ≤ l.length, ∃ b ∈ l, follow next k a = some b) :
    ∃ i j b, i < j ∧ j ≤ l.length ∧ follow next i a = some b ∧ follow next j a = some b := by
  classical
  have hcard : (l.map some).toFinset.card < (Finset.range (l.length + 1)).card := by
    have hle := List.toFinset_card_le (l.map some)
    rw [List.length_map] at hle
    rw [Finset.card_range]
    exact Nat.lt_succ_of_le hle
  obtain ⟨i, hi, j, hj, hne, heq⟩ := Finset.exists_ne_map_eq_of_card_lt_of_maps_to hcard
    (f := fun k => follow next k a) (by
      intro k hk
      obtain ⟨b, hb, hfollow⟩ := h k (by simpa [Nat.lt_succ_iff] using hk)
      simp [hfollow, hb])
  have hbound : ∀ k ∈ Finset.range (l.length + 1), k ≤ l.length := by
    intro k hk
    exact Nat.lt_succ_iff.1 (Finset.mem_range.1 hk)
  obtain ⟨b, _, hb⟩ := h i (hbound i hi)
  rcases Nat.lt_or_gt_of_ne hne with hlt | hlt
  · exact ⟨i, j, b, hlt, hbound j hj, hb, heq ▸ hb⟩
  · exact ⟨j, i, b, hlt, hbound i hi, heq ▸ hb, hb⟩

theorem onLoop_of_repeat {i j : Nat} (hlt : i < j) (hi : follow next i a = some b) (hj : follow next j a = some b) :
    OnLoop next b := by
  refine ⟨j - i, Nat.sub_pos_of_lt hlt, ?_⟩
  rw [← Nat.add_sub_cancel' (Nat.le_of_lt hlt), follow_add_of hi] at hj
  exact hj

end Chain
