import GpuFaultRecovery.Run
import GpuFaultRecovery.Table

/-!
# Compare and swap

A call reads the row of a key, computes from it what to write, and writes in a later step. A swap goes through only
while the row is still the one that was read, a save goes through in any case; a swap that fails is tried again as
often as the call may. However the calls interleave, a swap that goes through is one attempt made on the row as it
stands (`step_table`), so that what every attempt keeps is kept along every run (`rows_invariant`, `row_related`).
-/

namespace Optimistic

universe u v w

/-- What an attempt comes to, on the row it read: the call returns or raises, or it goes on to a write. -/
inductive Attempted (α : Type u)
  | stop
  | swap (row : α)
  | save (row : α)
deriving DecidableEq

def Attempted.settled {ε : Type v} {α : Type u} : Except ε (Attempted α) → Attempted α
  | .ok outcome => outcome
  | .error _ => .stop

theorem Attempted.settled_eq_swap {ε : Type v} {α : Type u} {e : Except ε (Attempted α)} {row : α} :
    settled e = .swap row ↔ e = .ok (.swap row) := by
  cases e with
  | ok outcome => simp [settled]
  | error message => simp [settled]

theorem Attempted.settled_eq_save {ε : Type v} {α : Type u} {e : Except ε (Attempted α)} {row : α} :
    settled e = .save row ↔ e = .ok (.save row) := by
  cases e with
  | ok outcome => simp [settled]
  | error message => simp [settled]

/-- A call between two of its steps. -/
inductive Call (κ : Type u) (ι : Type v) (α : Type w)
  | reading (k : κ) (request : ι) (tries : ℕ)
  | swapping (k : κ) (request : ι) (tries : ℕ) (expected : Option α) (row : α)
  | saving (row : α)

/-- The rows, and the calls in flight under their numbers. -/
structure World {κ : Type u} {α : Type w} [DecidableEq κ] (key : α → κ) (ι : Type v) where
  table : Table key := Table.empty
  calls : ℕ → Option (Call κ ι α) := fun _ => none

/-- A step: a call begins, reads and computes, or writes; or a row is deleted. -/
inductive Input (κ : Type u) (ι : Type v) (ε : Type w)
  | start (call : ℕ) (k : κ) (request : ι) (tries : ℕ)
  | read (call : ℕ) (env : ε)
  | write (call : ℕ)
  | remove (k : κ)

variable {κ α ι ε : Type*} [DecidableEq κ] {key : α → κ}

namespace World

/-- The world with one call moved on. A call that is over is `none`. -/
def goTo (w : World key ι) (call : ℕ) (phase : Option (Call κ ι α)) : World key ι :=
  { w with calls := fun other => if other = call then phase else w.calls other }

@[simp] theorem goTo_table (w : World key ι) (call : ℕ) (phase : Option (Call κ ι α)) :
    (w.goTo call phase).table = w.table := rfl

@[simp] theorem goTo_calls (w : World key ι) (call other : ℕ) (phase : Option (Call κ ι α)) :
    (w.goTo call phase).calls other = if other = call then phase else w.calls other := rfl

end World

variable [DecidableEq α] (attempt : ι → ε → Option α → Attempted α)

def proceed (k : κ) (request : ι) (tries : ℕ) (found : Option α) : Attempted α → Option (Call κ ι α)
  | .stop => none
  | .swap row => some (.swapping k request tries found row)
  | .save row => some (.saving row)

def step (w : World key ι) : Input κ ι ε → World key ι
  | .start call k request tries => w.goTo call (some (.reading k request tries))
  | .read call env =>
    match w.calls call with
    | some (.reading k request (tries + 1)) =>
      w.goTo call (proceed k request tries (w.table.get? k) (attempt request env (w.table.get? k)))
    | _ => w
  | .write call =>
    match w.calls call with
    | some (.swapping k request tries expected row) =>
      -- a swap that comes too late starts over with the tries that are left
      if w.table.get? (key row) = expected then { w.goTo call none with table := w.table.put row }
      else w.goTo call (some (.reading k request tries))
    | some (.saving row) => { w.goTo call none with table := w.table.put row }
    | _ => w
  | .remove k => { w with table := w.table.remove k }

/-- What a call is about to write was computed by an attempt: for a swap, on the row it expects to find. -/
def Call.Computed : Call κ ι α → Prop
  | .reading _ _ _ => True
  | .swapping _ request _ expected row => ∃ env, attempt request env expected = .swap row
  | .saving row => ∃ request env found, attempt request env found = .save row

/-- Every call in flight has computed what it is about to write. -/
def AllComputed (w : World key ι) : Prop := ∀ call phase, w.calls call = some phase → phase.Computed attempt

variable {attempt} {w : World key ι}

omit [DecidableEq α] in
private theorem AllComputed.goTo (h : AllComputed attempt w) {call : ℕ} {phase : Option (Call κ ι α)}
    (hphase : ∀ p, phase = some p → p.Computed attempt) : AllComputed attempt (w.goTo call phase) := by
  intro other p hp
  rw [World.goTo_calls] at hp
  split at hp
  · exact hphase p hp
  · exact h other p hp

private theorem AllComputed.step (h : AllComputed attempt w) (i : Input κ ι ε) :
    AllComputed attempt (step attempt w i) := by
  have hnone : ∀ call, AllComputed attempt (w.goTo call none) := fun call => h.goTo fun p hp => by cases hp
  cases i with
  | start call k request tries =>
    refine h.goTo fun p hp => ?_
    rw [← Option.some.inj hp]
    trivial
  | read call env =>
    simp only [Optimistic.step]
    split
    · rename_i k request tries _
      refine h.goTo fun p hp => ?_
      cases hout : attempt request env (w.table.get? k) with
      | stop =>
        rw [hout] at hp
        cases hp
      | swap row =>
        rw [hout] at hp
        rw [← Option.some.inj hp]
        exact ⟨env, hout⟩
      | save row =>
        rw [hout] at hp
        rw [← Option.some.inj hp]
        exact ⟨request, env, w.table.get? k, hout⟩
    · exact h
  | write call =>
    simp only [Optimistic.step]
    split
    · split
      · exact hnone call
      · refine h.goTo fun p hp => ?_
        rw [← Option.some.inj hp]
        trivial
    · exact hnone call
    · exact h
  | remove k => exact h

/-- What a step does to the rows. -/
private theorem step_table (h : AllComputed attempt w) (i : Input κ ι ε) :
    (step attempt w i).table = w.table ∨
      (∃ request env row, attempt request env (w.table.get? (key row)) = .swap row ∧
        (step attempt w i).table = w.table.put row) ∨
      (∃ call row, i = .write call ∧ w.calls call = some (.saving row) ∧
        (∃ request env found, attempt request env found = .save row) ∧ (step attempt w i).table = w.table.put row) ∨
      ∃ k, i = .remove k ∧ (step attempt w i).table = w.table.remove k := by
  cases i with
  | start call k request tries => exact .inl rfl
  | read call env =>
    refine .inl ?_
    simp only [step]
    split
    · rfl
    · rfl
  | write call =>
    cases hcall : w.calls call with
    | none => exact .inl (by simp only [step, hcall])
    | some phase =>
      cases phase with
      | reading k request tries => exact .inl (by simp only [step, hcall])
      | swapping k request tries expected row =>
        by_cases hfound : w.table.get? (key row) = expected
        · obtain ⟨env, hout⟩ := h call _ hcall
          rw [← hfound] at hout
          exact .inr (.inl ⟨request, env, row, hout, by simp only [step, hcall, if_pos hfound]⟩)
        · exact .inl (by simp only [step, hcall, if_neg hfound, World.goTo_table])
      | saving row => exact .inr (.inr (.inl ⟨call, row, rfl, hcall, h call _ hcall, by simp only [step, hcall]⟩))
  | remove k => exact .inr (.inr (.inr ⟨k, rfl, rfl⟩))

/-! ### Invariants of the rows -/

variable (attempt) in
/-- A property of rows that every attempt establishes on what it writes. -/
structure KeptBy (I : α → Prop) : Prop where
  fresh : ∀ request env row, attempt request env none = .swap row → I row
  swapped : ∀ request env old row, I old → attempt request env (some old) = .swap row → I row
  saved : ∀ request env found row, attempt request env found = .save row → I row

/-- A property holds of every row. -/
def AllRows (I : α → Prop) (w : World key ι) : Prop := ∀ k row, w.table.get? k = some row → I row

variable {I : α → Prop}

omit [DecidableEq α] in
private theorem AllRows.put (hall : AllRows I w) {row : α} (hrow : I row) {w' : World key ι}
    (hw : w'.table = w.table.put row) :
    AllRows I w' := by
  intro k a ha
  rw [hw, Table.get?_put] at ha
  split at ha
  · rwa [← Option.some.inj ha]
  · exact hall k a ha

private theorem AllRows.step (hkeeps : KeptBy attempt I) (h : AllComputed attempt w) (hall : AllRows I w)
    (i : Input κ ι ε) :
    AllRows I (step attempt w i) := by
  rcases step_table h i with heq | ⟨request, env, row, hout, heq⟩ | ⟨-, row, -, -, ⟨request, env, found, hout⟩, heq⟩ |
    ⟨k, -, heq⟩
  · intro k a ha
    rw [heq] at ha
    exact hall k a ha
  · refine hall.put ?_ heq
    cases hfound : w.table.get? (key row) with
    | none =>
      rw [hfound] at hout
      exact hkeeps.fresh request env row hout
    | some old =>
      rw [hfound] at hout
      exact hkeeps.swapped request env old row (hall _ old hfound) hout
  · exact hall.put (hkeeps.saved request env found row hout) heq
  · intro k' a ha
    rw [heq, Table.get?_remove] at ha
    split at ha
    · cases ha
    · exact hall k' a ha

/-- What every attempt keeps holds of the rows along every run. -/
theorem rows_invariant (hkeeps : KeptBy attempt I) (h : AllComputed attempt w) (hall : AllRows I w)
    (l : List (Input κ ι ε)) :
    AllComputed attempt (Run.exec (step attempt) w l) ∧ AllRows I (Run.exec (step attempt) w l) :=
  Run.invariant_exec (I := fun w => AllComputed attempt w ∧ AllRows I w) (P := fun _ _ => True)
    (fun _ i hw _ => ⟨hw.1.step i, hw.2.step hkeeps hw.1 i⟩) ⟨h, hall⟩ (Run.along_true w l)

omit [DecidableEq α] in
theorem allComputed_empty : AllComputed attempt ({} : World key ι) := fun _ _ h => by cases h

omit [DecidableEq α] in
theorem allRows_empty : AllRows I ({} : World key ι) := fun k row h => by
  rw [Table.get?_empty] at h
  cases h

/-! ### How a row changes -/

/-- A step that neither deletes the row under `k` nor saves over it. -/
def LeavesAlone (k : κ) (w : World key ι) (i : Input κ ι ε) : Prop :=
  i ≠ .remove k ∧ ∀ call row, i = .write call → w.calls call = some (.saving row) → key row ≠ k

/-- Where no attempt ever saves, only a deletion disturbs a row. -/
theorem along_leavesAlone (hsave : ∀ request env found row, attempt request env found ≠ .save row)
    (h : AllComputed attempt w) {k : κ} {l : List (Input κ ι ε)} (hl : ∀ i ∈ l, i ≠ .remove k) :
    Run.Along (step attempt) (LeavesAlone k) w l := by
  induction l generalizing w with
  | nil => trivial
  | cons i l ih =>
    refine ⟨⟨hl i (by simp), fun call row _ hcall => ?_⟩, ih (h.step i) fun j hj => hl j (List.mem_cons_of_mem _ hj)⟩
    obtain ⟨request, env, found, hout⟩ := h call _ hcall
    exact absurd hout (hsave request env found row)

/-- A relation that every attempt makes of the row it finds and the row it writes. -/
def Relates (attempt : ι → ε → Option α → Attempted α) (key : α → κ) (I : α → Prop) (R : α → α → Prop) : Prop :=
  ∀ request env old row, I old → key row = key old → attempt request env (some old) = .swap row → R old row

private theorem step_row {R : α → α → Prop} (hrel : Relates attempt key I R) (h : AllComputed attempt w)
    (hall : AllRows I w) {i : Input κ ι ε} {k : κ} (hi : LeavesAlone k w i) {old : α}
    (hold : w.table.get? k = some old) :
    (step attempt w i).table.get? k = some old ∨
      ∃ row, (step attempt w i).table.get? k = some row ∧ R old row := by
  rcases step_table h i with heq | ⟨request, env, row, hout, heq⟩ | ⟨call, row, hcall, hsave, -, heq⟩ | ⟨k', hk', heq⟩
  · exact .inl (by rw [heq, hold])
  · by_cases hk : k = key row
    · subst hk
      rw [hold] at hout
      have hkey : key row = key old := (Table.key_of_get? hold).symm
      exact .inr ⟨row, by rw [heq, Table.get?_put_self], hrel request env old row (hall _ old hold) hkey hout⟩
    · exact .inl (by rw [heq, Table.get?_put_ne hk, hold])
  · have hne : k ≠ key row := fun e => hi.2 call row hcall hsave e.symm
    exact .inl (by rw [heq, Table.get?_put_ne hne, hold])
  · have hne : k ≠ k' := fun e => hi.1 (by rw [hk', e])
    exact .inl (by rw [heq, Table.get?_remove, if_neg hne, hold])

/-- A preorder that every attempt respects relates the row under `k` to what stands there later. -/
theorem row_related {R : α → α → Prop} (hrefl : ∀ a, R a a) (htrans : ∀ a b c, R a b → R b c → R a c)
    (hkeeps : KeptBy attempt I) (hrel : Relates attempt key I R) (h : AllComputed attempt w) (hall : AllRows I w)
    {k : κ} {old : α} (hold : w.table.get? k = some old) {l : List (Input κ ι ε)}
    (hl : Run.Along (step attempt) (LeavesAlone k) w l) :
    ∃ row, (Run.exec (step attempt) w l).table.get? k = some row ∧ R old row := by
  -- on the run, for whatever row stands under `k` by now
  induction l generalizing w old with
  | nil => exact ⟨old, hold, hrefl old⟩
  | cons i l ih =>
    rcases step_row hrel h hall hl.1 hold with hsame | ⟨row, hrow, hR⟩
    · exact ih (h.step i) (hall.step hkeeps h i) hsame hl.2
    · obtain ⟨last, hlast, hR'⟩ := ih (h.step i) (hall.step hkeeps h i) hrow hl.2
      exact ⟨last, hlast, htrans _ _ _ hR hR'⟩

end Optimistic
