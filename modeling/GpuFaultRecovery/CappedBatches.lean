import Mathlib.Data.List.Perm.Subperm
import Mathlib.Data.List.Nodup
import Mathlib.Logic.Function.Basic
import Mathlib.Order.Lattice

/-!
# Batches under two caps

A list is cut into batches, pass by pass. A pass goes through what is left, in order, and takes each element unless
the batch has as many as it may hold, or as many of the element's group as it may hold. If the caps are positive the
passes never come up empty (`cuts_cut`), and the batches are a partition of the list in which no element waits for a
later batch without need (`Cuts.perm`, `Cuts.waits`).
-/

namespace CappedBatches

variable {α γ : Type*} [DecidableEq α] [DecidableEq γ] (group : α → γ) (capacity limit : ℕ)

/-- A batch on the way, with the number of its elements from each group. -/
structure Filling (α γ : Type*) where
  batch : List α := []
  counts : γ → ℕ := fun _ => 0

/-- An element is taken, unless the batch or its group is full. -/
def Filling.take (f : Filling α γ) (a : α) : Filling α γ :=
  if capacity ≤ f.batch.length ∨ limit ≤ f.counts (group a) then f
  else
    { batch := f.batch ++ [a]
      counts := Function.update f.counts (group a) (f.counts (group a) + 1) }

/-- The batch of one pass over `l`. -/
def pass (l : List α) : List α := (l.foldl (Filling.take group capacity limit) {}).batch

/-! ### One pass -/

/-- What a pass has made of the elements it has seen. -/
structure Filled (seen : List α) (f : Filling α γ) : Prop where
  sublist : f.batch.Sublist seen
  counts : ∀ g, f.counts g = f.batch.countP (fun a => group a = g)
  size : f.batch.length ≤ capacity
  groups : ∀ g, f.batch.countP (fun a => group a = g) ≤ limit
  passed : ∀ a ∈ seen, a ∉ f.batch →
    f.batch.length = capacity ∨ f.batch.countP (fun b => group b = group a) = limit
  nonempty : seen ≠ [] → 0 < capacity → 0 < limit → f.batch ≠ []

variable {group capacity limit} {seen l : List α} {f : Filling α γ}

omit [DecidableEq α] in
private theorem Filled.start : Filled group capacity limit [] ({} : Filling α γ) where
  sublist := List.Sublist.refl _
  counts _ := rfl
  size := Nat.zero_le _
  groups _ := Nat.zero_le _
  passed _ h := by cases h
  nonempty h := absurd rfl h

omit [DecidableEq α] in
private theorem Filled.take (h : Filled group capacity limit seen f) (a : α) :
    Filled group capacity limit (seen ++ [a]) (f.take group capacity limit a) := by
  unfold Filling.take
  split
  · -- there is no room for it: the batch stays, and it is full for what it passes over
    rename_i hfull
    have hfull' : f.batch.length = capacity ∨ f.batch.countP (fun b => group b = group a) = limit := by
      rcases hfull with hfull | hfull
      · exact .inl (Nat.le_antisymm h.size hfull)
      · rw [h.counts] at hfull
        exact .inr (Nat.le_antisymm (h.groups _) hfull)
    refine ⟨h.sublist.trans (List.sublist_append_left _ _), h.counts, h.size, h.groups, ?_, ?_⟩
    · intro b hb hnot
      rcases List.mem_append.mp hb with hb | hb
      · exact h.passed b hb hnot
      · rw [List.mem_singleton.mp hb]
        exact hfull'
    · -- a batch that is full, in all or for one group, has something in it
      intro _ hcapacity hlimit hempty
      rw [hempty] at hfull'
      rcases hfull' with hfull' | hfull'
      · exact absurd hfull' hcapacity.ne
      · exact absurd hfull' hlimit.ne
  · rename_i hroom
    rw [not_or, not_le, not_le, h.counts] at hroom
    have hcount : ∀ g, (f.batch ++ [a]).countP (fun b => group b = g) =
        f.batch.countP (fun b => group b = g) + if group a = g then 1 else 0 := by
      intro g
      rw [List.countP_append, List.countP_singleton]
      simp only [decide_eq_true_eq]
    refine ⟨h.sublist.append_right _, ?_, ?_, ?_, ?_, fun _ _ _ => by simp⟩
    · intro g
      rw [hcount]
      change Function.update f.counts (group a) (f.counts (group a) + 1) g = _
      by_cases hg : g = group a
      · subst hg
        rw [Function.update_self, h.counts, if_pos rfl]
      · rw [Function.update_of_ne hg, h.counts, if_neg fun e => hg e.symm, Nat.add_zero]
    · rw [List.length_append, List.length_singleton]
      exact hroom.1
    · intro g
      rw [hcount]
      split
      · rename_i hg
        subst hg
        exact hroom.2
      · exact h.groups g
    · intro b hb hnot
      have hnot' : b ∉ f.batch ∧ b ≠ a := by simpa [not_or] using hnot
      have hseen : b ∈ seen := by
        rcases List.mem_append.mp hb with hb | hb
        · exact hb
        · exact absurd (List.mem_singleton.mp hb) hnot'.2
      rcases h.passed b hseen hnot'.1 with hfull | hfull
      · exact absurd hfull hroom.1.ne
      · -- a group that is full stays full: what is taken is of another
        refine .inr ?_
        have hother : group a ≠ group b := by
          intro e
          rw [e] at hroom
          exact absurd hfull hroom.2.ne
        rw [hcount, if_neg hother, Nat.add_zero, hfull]

omit [DecidableEq α] in
private theorem filled_foldl (h : Filled group capacity limit seen f) (l : List α) :
    Filled group capacity limit (seen ++ l) (l.foldl (Filling.take group capacity limit) f) := by
  induction l generalizing seen f with
  | nil => rwa [List.append_nil]
  | cons a l ih =>
    have hstep := ih (h.take a)
    rwa [List.append_assoc] at hstep

omit [DecidableEq α] in
private theorem filled_pass (l : List α) :
    Filled group capacity limit l (l.foldl (Filling.take group capacity limit) ({} : Filling α γ)) := by
  have h : Filled group capacity limit ([] ++ l) _ := filled_foldl Filled.start l
  rwa [List.nil_append] at h

omit [DecidableEq α] in
private theorem pass_sublist (l : List α) : (pass group capacity limit l).Sublist l := (filled_pass l).sublist

def leftOver (batch l : List α) : List α := l.filter fun a => a ∉ batch

private theorem length_leftOver_lt {batch : List α} (hsub : batch.Sublist l) (hne : batch ≠ []) :
    (leftOver batch l).length < l.length := by
  obtain ⟨a, ha⟩ := List.exists_mem_of_ne_nil batch hne
  exact List.length_filter_lt_length_iff_exists.mpr ⟨a, hsub.subset ha, by simpa using ha⟩

/-! ### All passes -/

variable (group limit) in
/-- The batches of a list, after those there are already: `none` if a pass takes nothing of what is left. What a batch
may hold depends on the batches before it. Every pass takes something, so there are no more passes than elements. -/
def cut (capacity : List (List α) → ℕ) : ℕ → List α → List (List α) → Option (List (List α))
  | _, [], batches => some batches
  | 0, _ :: _, _ => none
  | passes + 1, a :: l, batches =>
    let batch := pass group (capacity batches) limit (a :: l)
    if batch = [] then none else cut capacity passes (leftOver batch (a :: l)) (batches ++ [batch])

variable (group limit) in
/-- The batches after `batches` that cut up `remaining`, one pass after the other. -/
inductive Cuts (capacity : List (List α) → ℕ) : List (List α) → List α → List (List α) → Prop
  | nil (batches : List (List α)) : Cuts capacity batches [] []
  | cons {batches : List (List α)} {remaining : List α} {f : Filling α γ} {rest : List (List α)} :
    f.batch ≠ [] → Filled group (capacity batches) limit remaining f →
    Cuts capacity (batches ++ [f.batch]) (leftOver f.batch remaining) rest →
    Cuts capacity batches remaining (f.batch :: rest)

variable {capacity : List (List α) → ℕ} {batches rest : List (List α)} {remaining : List α}

variable (group) in
/-- With positive caps the cut succeeds. -/
theorem cuts_cut (hcapacity : ∀ batches, 0 < capacity batches) (hlimit : 0 < limit) {passes : ℕ} {remaining : List α}
    (hpasses : remaining.length ≤ passes) (batches : List (List α)) :
    ∃ rest, cut group limit capacity passes remaining batches = some (batches ++ rest) ∧
      Cuts group limit capacity batches remaining rest := by
  induction passes generalizing remaining batches with
  | zero =>
    have hempty : remaining = [] := List.eq_nil_of_length_eq_zero (by omega)
    subst hempty
    exact ⟨[], by simp [cut], .nil batches⟩
  | succ passes ih =>
    cases remaining with
    | nil => exact ⟨[], by simp [cut], .nil batches⟩
    | cons a l =>
      have hfilled : Filled group (capacity batches) limit (a :: l) _ := filled_pass (a :: l)
      have hne : pass group (capacity batches) limit (a :: l) ≠ [] :=
        hfilled.nonempty (by simp) (hcapacity batches) hlimit
      have hfewer := length_leftOver_lt (pass_sublist (a :: l)) hne
      have hleft : (leftOver (pass group (capacity batches) limit (a :: l)) (a :: l)).length ≤ passes := by omega
      obtain ⟨rest, heq, hcuts⟩ := ih hleft (batches ++ [pass group (capacity batches) limit (a :: l)])
      refine ⟨_ :: rest, ?_, .cons hne hfilled hcuts⟩
      rw [cut, if_neg hne, heq, List.append_assoc]
      rfl

private theorem perm_leftOver {batch : List α} (hsub : batch.Sublist l) (hl : l.Nodup) :
    (batch ++ leftOver batch l).Perm l := by
  have hsplit := List.filter_append_perm (fun a => decide (a ∈ batch)) l
  have hbatch : (l.filter fun a => decide (a ∈ batch)).Perm batch := by
    refine (List.perm_ext_iff_of_nodup (hl.filter _) (hl.sublist hsub)).mpr fun a => ?_
    simp only [List.mem_filter, decide_eq_true_eq]
    exact ⟨fun h => h.2, fun h => ⟨hsub.subset h, h⟩⟩
  have hrest : (l.filter fun a => !decide (a ∈ batch)) = leftOver batch l := by
    refine List.filter_congr fun a _ => ?_
    simp
  rw [hrest] at hsplit
  exact (hbatch.symm.append_right _).trans hsplit

/-- The batches are a partition of the list. -/
theorem Cuts.perm (h : Cuts group limit capacity batches remaining rest) (hnodup : remaining.Nodup) :
    rest.flatten.Perm remaining := by
  induction h with
  | nil => exact List.Perm.refl _
  | @cons batches remaining f rest hne hfilled hcuts ih =>
    rw [List.flatten_cons]
    exact ((ih (hnodup.filter _)).append_left f.batch).trans (perm_leftOver hfilled.sublist hnodup)

/-- What holds of every batch. -/
structure Capped (group : α → γ) (capacity limit : ℕ) (batch : List α) : Prop where
  nonempty : batch ≠ []
  size : batch.length ≤ capacity
  groups : ∀ g, batch.countP (fun a => group a = g) ≤ limit

theorem Cuts.capped (h : Cuts group limit capacity batches remaining rest) {i : ℕ} {batch : List α}
    (hi : rest[i]? = some batch) : Capped group (capacity (batches ++ rest.take i)) limit batch := by
  induction h generalizing i with
  | nil => simp at hi
  | @cons batches remaining f rest hne hfilled hcuts ih =>
    cases i with
    | zero =>
      rw [List.getElem?_cons_zero] at hi
      rw [← Option.some.inj hi, List.take_zero, List.append_nil]
      exact ⟨hne, hfilled.size, hfilled.groups⟩
    | succ i =>
      rw [List.getElem?_cons_succ] at hi
      have h := ih hi
      rwa [List.append_assoc] at h

/-- An element that waits for a later batch found no room: the batch was full, or full for its group. -/
theorem Cuts.waits (h : Cuts group limit capacity batches remaining rest) (hnodup : remaining.Nodup) {i j : ℕ}
    (hij : i < j) {batch later : List α} (hi : rest[i]? = some batch) (hj : rest[j]? = some later) {a : α}
    (ha : a ∈ later) :
    batch.length = capacity (batches ++ rest.take i) ∨ batch.countP (fun b => group b = group a) = limit := by
  induction h generalizing i j with
  | nil => simp at hi
  | @cons batches remaining f rest hne hfilled hcuts ih =>
    obtain ⟨j, rfl⟩ : ∃ j', j = j' + 1 := ⟨j - 1, by omega⟩
    rw [List.getElem?_cons_succ] at hj
    cases i with
    | zero =>
      rw [List.getElem?_cons_zero] at hi
      rw [← Option.some.inj hi, List.take_zero, List.append_nil]
      have hmem : a ∈ leftOver f.batch remaining :=
        (hcuts.perm (hnodup.filter _)).subset (List.mem_flatten.mpr ⟨later, List.mem_of_getElem? hj, ha⟩)
      obtain ⟨hseen, hnot⟩ := List.mem_filter.mp hmem
      exact hfilled.passed a hseen (of_decide_eq_true hnot)
    | succ i =>
      rw [List.getElem?_cons_succ] at hi
      have h := ih (hnodup.filter _) (Nat.lt_of_succ_lt_succ hij) hi hj
      rwa [List.append_assoc] at h

end CappedBatches
