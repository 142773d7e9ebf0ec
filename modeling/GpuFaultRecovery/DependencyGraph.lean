import Mathlib.Logic.Relation
import Mathlib.Data.Finset.Card
import Mathlib.Data.Finset.Lattice.Fold
import Mathlib.Order.WellFounded
import Mathlib.Order.Lattice.Nat

/-!
# Dependency graphs on indexes

A graph gives every index the list of indexes it waits for. `DependsOn` is the transitive relation, a rank that falls
along every edge shows that the graph has no cycle, and `resolvable` removes ready indexes layer by layer until none
is left, which it does on every finite graph without a cycle. `Settled` is the invariant under which a test of direct
dependencies speaks for all of them, when indexes are also resolved that never ran.
-/

namespace DependencyGraph

variable {deps deps' : Nat → List Nat} {n i j k : Nat}

/-- `i` waits for `j`, directly or through others. -/
def DependsOn (deps : Nat → List Nat) : Nat → Nat → Prop := Relation.TransGen fun i j => j ∈ deps i

/-- No index waits for itself. -/
def Acyclic (deps : Nat → List Nat) : Prop := ∀ i, ¬ DependsOn deps i i

/-- Every edge stays below `n` and lowers the rank. -/
def Ranked (deps : Nat → List Nat) (n : Nat) (rank : Nat → Nat) : Prop :=
  ∀ i, ∀ j ∈ deps i, j < n ∧ rank j < rank i

theorem DependsOn.single (h : j ∈ deps i) : DependsOn deps i j := Relation.TransGen.single h

theorem DependsOn.head (h : j ∈ deps i) (hrest : DependsOn deps j k) : DependsOn deps i k :=
  Relation.TransGen.head h hrest

theorem DependsOn.trans (h : DependsOn deps i j) (hrest : DependsOn deps j k) : DependsOn deps i k :=
  Relation.TransGen.trans h hrest

/-! ### Reaching -/

/-- `i` is `j` or waits for it. -/
def Reaches (deps : Nat → List Nat) : Nat → Nat → Prop := Relation.ReflTransGen fun i j => j ∈ deps i

/-- `i` is `j` or waits for it on a path on which no edge starts at `k`. -/
def ReachesAround (deps : Nat → List Nat) (k : Nat) : Nat → Nat → Prop :=
  Relation.ReflTransGen fun i j => i ≠ k ∧ j ∈ deps i

theorem dependsOn_iff : DependsOn deps i j ↔ ∃ d ∈ deps i, Reaches deps d j := Relation.TransGen.head'_iff

theorem ReachesAround.mono (hsub : ∀ i, i ≠ k → ∀ j ∈ deps i, j ∈ deps' i) (h : ReachesAround deps k i j) :
    ReachesAround deps' k i j :=
  Relation.ReflTransGen.mono (fun a b hab => ⟨hab.1, hsub a hab.1 b hab.2⟩) _ _ h

theorem ReachesAround.reaches (h : ReachesAround deps k i j) : Reaches deps i j :=
  Relation.ReflTransGen.mono (fun _ _ hab => hab.2) _ _ h

theorem ReachesAround.head (hne : i ≠ k) {d : Nat} (hd : d ∈ deps i) (h : ReachesAround deps k d j) :
    ReachesAround deps k i j :=
  Relation.ReflTransGen.head ⟨hne, hd⟩ h

theorem ReachesAround.trans {d : Nat} (h : ReachesAround deps k i d) (hrest : ReachesAround deps k d j) :
    ReachesAround deps k i j :=
  Relation.ReflTransGen.trans h hrest

/-- Whatever `k` waits for, it waits for on a path that does not come back to `k`. -/
theorem DependsOn.around (h : DependsOn deps k i) : ∃ d ∈ deps k, ReachesAround deps k d i := by
  induction h with
  | single hi => exact ⟨_, hi, .refl⟩
  | @tail a b _ hb ih =>
    by_cases ha : a = k
    · subst ha
      exact ⟨b, hb, .refl⟩
    · obtain ⟨d, hd, hpath⟩ := ih
      exact ⟨d, hd, hpath.tail ⟨ha, hb⟩⟩

/-- Nothing leaves a set that is closed under dependencies. -/
theorem DependsOn.mem_of_closed {S : List Nat} (hclosed : ∀ i ∈ S, ∀ j ∈ deps i, j ∈ S) (hi : i ∈ S)
    (h : DependsOn deps i j) : j ∈ S := by
  induction h with
  | single hj => exact hclosed i hi _ hj
  | tail _ hb ih => exact hclosed _ ih _ hb

/-- On a chain `n, n + 1, …` every index reaches the earlier ones. -/
theorem reaches_of_chain {count : Nat} (hchain : ∀ m, m + 1 < count → n + m ∈ deps (n + (m + 1))) {m m' : Nat}
    (hm : m < count) (hle : m' ≤ m) : Reaches deps (n + m) (n + m') := by
  induction m with
  | zero =>
    obtain rfl : m' = 0 := by omega
    exact .refl
  | succ m ih =>
    by_cases he : m' = m + 1
    · subst he
      exact .refl
    · exact .head (hchain m hm) (ih (by omega) (by omega))

/-- On a chain `n, n + 1, …` above `k` every index reaches the earlier ones. -/
theorem reachesAround_of_chain (hk : k < n) {count : Nat}
    (hchain : ∀ m, m + 1 < count → n + m ∈ deps (n + (m + 1))) {m m' : Nat} (hm : m < count) (hle : m' ≤ m) :
    ReachesAround deps k (n + m) (n + m') := by
  induction m with
  | zero =>
    obtain rfl : m' = 0 := by omega
    exact .refl
  | succ m ih =>
    by_cases he : m' = m + 1
    · subst he
      exact .refl
    · exact .head (by omega) (hchain m hm) (ih (by omega) (by omega))

/-! ### Ranks -/

private theorem Ranked.lt {rank : Nat → Nat} (h : Ranked deps n rank) (hij : DependsOn deps i j) :
    rank j < rank i := by
  induction hij with
  | single hj => exact (h _ _ hj).2
  | tail _ hk ih => exact lt_trans (h _ _ hk).2 ih

theorem Ranked.acyclic {rank : Nat → Nat} (h : Ranked deps n rank) : Acyclic deps := fun _ hi => lt_irrefl _ (h.lt hi)

/-- A bound on the ranks below `n`. -/
def rankBound (rank : Nat → Nat) (n : Nat) : Nat := (Finset.range n).sup rank

theorem rank_le_rankBound (rank : Nat → Nat) (h : i < n) : rank i ≤ rankBound rank n :=
  Finset.le_sup (Finset.mem_range.mpr h)

open Classical in
/-- The number of indexes below `n` that `i` waits for. -/
noncomputable def ancestorCount (deps : Nat → List Nat) (n i : Nat) : Nat :=
  ((Finset.range n).filter fun j => DependsOn deps i j).card

theorem Acyclic.ranked (h : Acyclic deps) (hrange : ∀ i, ∀ j ∈ deps i, j < n) :
    Ranked deps n (ancestorCount deps n) := by
  classical
  intro i j hj
  refine ⟨hrange i j hj, Finset.card_lt_card ?_⟩
  rw [Finset.ssubset_iff_of_subset]
  · refine ⟨j, ?_, ?_⟩
    · simp only [Finset.mem_filter, Finset.mem_range]
      exact ⟨hrange i j hj, .single hj⟩
    · simp only [Finset.mem_filter, not_and]
      exact fun _ => h j
  · intro k hk
    simp only [Finset.mem_filter] at hk ⊢
    exact ⟨hk.1, .head hj hk.2⟩

/-! ### Removing ready indexes -/

/-- The indexes below `n` that are not resolved and wait for resolved ones only. -/
def ready (deps : Nat → List Nat) (n : Nat) (resolved : List Nat) : List Nat :=
  (List.range n).filter fun i => !resolved.contains i && (deps i).all resolved.contains

/-- Whether resolving ready indexes in rounds reaches all of the `n` indexes. -/
def resolvable (deps : Nat → List Nat) (n : Nat) : Nat → List Nat → Bool
  | 0, resolved => decide (n ≤ resolved.length)
  | rounds + 1, resolved =>
    if n ≤ resolved.length then true
    else if (ready deps n resolved).isEmpty then false
    else resolvable deps n rounds (resolved ++ ready deps n resolved)

theorem mem_ready {resolved : List Nat} :
    i ∈ ready deps n resolved ↔ i < n ∧ i ∉ resolved ∧ ∀ j ∈ deps i, j ∈ resolved := by
  simp [ready]

private theorem Ranked.exists_ready {rank : Nat → Nat} (h : Ranked deps n rank) {resolved : List Nat}
    (hleft : ∃ i < n, i ∉ resolved) : ∃ i, i ∈ ready deps n resolved := by
  obtain ⟨i, ⟨hi, hnot⟩, hmin⟩ :=
    WellFounded.has_min (measure rank).wf {i | i < n ∧ i ∉ resolved} (by obtain ⟨i, hi⟩ := hleft; exact ⟨i, hi⟩)
  refine ⟨i, mem_ready.mpr ⟨hi, hnot, fun j hj => ?_⟩⟩
  by_contra hout
  exact hmin j ⟨(h i j hj).1, hout⟩ (h i j hj).2

private theorem exists_lt_not_mem {resolved : List Nat} (h : resolved.length < n) : ∃ i < n, i ∉ resolved := by
  by_contra hall
  push Not at hall
  have hsub : List.range n ⊆ resolved := fun i hi => hall i (List.mem_range.mp hi)
  have hlen := List.Nodup.length_le_of_subset List.nodup_range hsub
  rw [List.length_range] at hlen
  omega

theorem Ranked.resolvable {rank : Nat → Nat} (h : Ranked deps n rank) :
    ∀ (rounds : Nat) (resolved : List Nat), n ≤ resolved.length + rounds →
      DependencyGraph.resolvable deps n rounds resolved = true
  | 0, resolved, hlen => by
    simp only [DependencyGraph.resolvable, decide_eq_true_eq]
    omega
  | rounds + 1, resolved, hlen => by
    unfold DependencyGraph.resolvable
    split
    · rfl
    · rename_i hlt
      obtain ⟨i, hi⟩ := h.exists_ready (exists_lt_not_mem (by omega : resolved.length < n))
      have hpos : 0 < (ready deps n resolved).length := List.length_pos_of_mem hi
      have hne : (ready deps n resolved).isEmpty = false := by
        rw [List.isEmpty_eq_false_iff]
        exact List.ne_nil_of_mem hi
      rw [hne]
      refine h.resolvable rounds _ ?_
      rw [List.length_append]
      omega

/-! ### Resolving out of order -/

section Settled

variable {resolved retired : Set Nat}

/-- Everything `i` waits for is resolved. -/
def Covered (deps : Nat → List Nat) (resolved : Set Nat) (i : Nat) : Prop := ∀ k, DependsOn deps i k → k ∈ resolved

/-- Whatever is resolved and waited for directly by an index that is not, is covered. -/
def Settled (deps : Nat → List Nat) (resolved : Set Nat) : Prop :=
  ∀ i, i ∉ resolved → ∀ j ∈ deps i, j ∈ resolved → Covered deps resolved j

/-- Resolving `retired` as well leaves no index waiting directly for one of them that is not covered. -/
def Retirable (deps : Nat → List Nat) (resolved retired : Set Nat) : Prop :=
  ∀ i, i ∉ resolved → i ∉ retired → ∀ j ∈ deps i, j ∈ retired → Covered deps (resolved ∪ retired) j

theorem Covered.mono {resolved' : Set Nat} (hsub : resolved ⊆ resolved') (h : Covered deps resolved i) :
    Covered deps resolved' i := fun k hk => hsub (h k hk)

/-- While an index is unresolved, its direct dependencies speak for all of them. -/
theorem Settled.covered (h : Settled deps resolved) (hi : i ∉ resolved) (hdeps : ∀ j ∈ deps i, j ∈ resolved) :
    Covered deps resolved i := by
  intro k hk
  obtain ⟨d, hd, hreach⟩ := dependsOn_iff.mp hk
  rcases Relation.reflTransGen_iff_eq_or_transGen.mp hreach with rfl | hdk
  · exact hdeps _ hd
  · exact h i hi d hd (hdeps d hd) k hdk

theorem settled_of_closed (hclosed : ∀ i ∈ resolved, ∀ j ∈ deps i, j ∈ resolved) : Settled deps resolved := by
  intro i _ j _ hj k hk
  induction hk with
  | single hd => exact hclosed j hj _ hd
  | tail _ hd ih => exact hclosed _ ih _ hd

theorem Settled.retire (h : Settled deps resolved) (hretired : Retirable deps resolved retired) :
    Settled deps (resolved ∪ retired) := by
  intro i hi j hj hjr
  rw [Set.mem_union, not_or] at hi
  rcases hjr with hjr | hjr
  · exact (h i hi.1 j hj hjr).mono Set.subset_union_left
  · exact hretired i hi.1 hi.2 j hj hjr

theorem retirable_empty : Retirable deps resolved ∅ := fun _ _ _ _ _ hj => hj.elim

/-- An index that is resolved already, or covered, may be resolved. -/
theorem Settled.retirable_singleton (h : Settled deps resolved) (hi : i ∈ resolved ∨ Covered deps resolved i) :
    Retirable deps resolved {i} := by
  rintro l hl - j hj rfl
  rcases hi with hi | hi
  · exact (h l hl j hj hi).mono Set.subset_union_left
  · exact hi.mono Set.subset_union_left

/-- An index stays covered when the edges change, if its own do not and no resolved index that is waited for gets an
edge it did not have. -/
theorem Covered.rewire
    (hkept : ∀ x ∈ resolved, (∀ y ∈ deps x, y ∈ resolved) → (∃ i, x ∈ deps i) → ∀ y ∈ deps' x, y ∈ deps x)
    (hown : ∀ y ∈ deps' i, y ∈ deps i) (h : Covered deps resolved i) : Covered deps' resolved i := by
  have hold : ∀ k, DependsOn deps' i k → DependsOn deps i k := by
    intro k hk
    induction hk with
    | single hd => exact .single (hown _ hd)
    | @tail b c _ hd ih =>
      obtain ⟨l, hl⟩ : ∃ l, b ∈ deps l := by
        obtain ⟨l, -, hl⟩ := Relation.TransGen.tail'_iff.mp ih
        exact ⟨l, hl⟩
      have hnext : ∀ y ∈ deps b, y ∈ resolved := fun y hy => h y (Relation.TransGen.tail ih hy)
      exact Relation.TransGen.tail ih (hkept b (h b ih) hnext ⟨l, hl⟩ c hd)
  exact fun k hk => h k (hold k hk)

/-- New edges keep a settled graph settled if what an unresolved index now waits for directly was covered. -/
theorem settled_of_rewire
    (hkept : ∀ x ∈ resolved, (∀ y ∈ deps x, y ∈ resolved) → (∃ i, x ∈ deps i) → ∀ y ∈ deps' x, y ∈ deps x)
    (hlive : ∀ i, i ∉ resolved → ∀ j ∈ deps' i, j ∈ resolved →
      Covered deps resolved j ∧ ∀ y ∈ deps' j, y ∈ deps j) : Settled deps' resolved := by
  intro i hi j hj hjr
  obtain ⟨hcovered, hown⟩ := hlive i hi j hj hjr
  exact hcovered.rewire hkept hown

end Settled

end DependencyGraph
