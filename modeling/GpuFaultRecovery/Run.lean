import Mathlib.Data.List.Basic

/-!
# Runs of a transition function

A run feeds a list of inputs to a transition function. `Along P s l` says that each step of the run of `l` from `s`
satisfies the relation `P` between the state it starts from and its input; the rules below carry an invariant along
a run, from the start or from any state on the way.
-/

namespace Run

variable {σ ι : Type*} (step : σ → ι → σ)

/-- The state reached from `s` by the inputs `l`. -/
def exec (s : σ) (l : List ι) : σ := l.foldl step s

@[simp] theorem exec_nil (s : σ) : exec step s [] = s := rfl

@[simp] theorem exec_cons (s : σ) (i : ι) (l : List ι) : exec step s (i :: l) = exec step (step s i) l := rfl

theorem exec_append (s : σ) (l l' : List ι) : exec step s (l ++ l') = exec step (exec step s l) l' :=
  List.foldl_append

/-- Every step of the run of `l` from `s` satisfies `P`. -/
def Along (P : σ → ι → Prop) : σ → List ι → Prop
  | _, [] => True
  | s, i :: l => P s i ∧ Along P (step s i) l

instance Along.decidable (P : σ → ι → Prop) [∀ s i, Decidable (P s i)] : ∀ s l, Decidable (Along step P s l)
  | _, [] => isTrue trivial
  | s, i :: l => @instDecidableAnd _ _ _ (Along.decidable P (step s i) l)

variable {step} {P Q : σ → ι → Prop} {I : σ → Prop}

theorem Along.split {s : σ} {l l' : List ι} (h : Along step P s (l ++ l')) :
    Along step P s l ∧ Along step P (exec step s l) l' := by
  induction l generalizing s with
  | nil => exact ⟨trivial, h⟩
  | cons i l ih => exact ⟨⟨h.1, (ih h.2).1⟩, (ih h.2).2⟩

theorem Along.mono (hpq : ∀ s i, P s i → Q s i) {s : σ} {l : List ι} (h : Along step P s l) : Along step Q s l := by
  induction l generalizing s with
  | nil => trivial
  | cons i l ih => exact ⟨hpq s i h.1, ih h.2⟩

theorem Along.and {s : σ} {l : List ι} (hp : Along step P s l) (hq : Along step Q s l) :
    Along step (fun s i => P s i ∧ Q s i) s l := by
  induction l generalizing s with
  | nil => trivial
  | cons i l ih => exact ⟨⟨hp.1, hq.1⟩, ih hp.2 hq.2⟩

theorem Along.snoc {s : σ} {l : List ι} {i : ι} (h : Along step P s l) (hi : P (exec step s l) i) :
    Along step P s (l ++ [i]) := by
  induction l generalizing s with
  | nil => exact ⟨hi, trivial⟩
  | cons j l ih => exact ⟨h.1, ih h.2 hi⟩

theorem along_of_forall_mem {s : σ} {l : List ι} (h : ∀ i ∈ l, ∀ s, P s i) : Along step P s l := by
  induction l generalizing s with
  | nil => trivial
  | cons i l ih => exact ⟨h i (by simp) s, ih fun j hj => h j (List.mem_cons_of_mem _ hj)⟩

/-- An invariant of every step that meets `P` holds at the end of a run whose steps all meet `P`. -/
theorem invariant_exec (hstep : ∀ s i, I s → P s i → I (step s i)) {s : σ} {l : List ι} (hs : I s)
    (h : Along step P s l) : I (exec step s l) := by
  induction l generalizing s with
  | nil => exact hs
  | cons i l ih => exact ih (hstep s i hs h.1) h.2

/-- What an invariant gives for one step, it gives for every step of a run. -/
theorem along_of_invariant (hstep : ∀ s i, I s → P s i → I (step s i)) (hq : ∀ s i, I s → P s i → Q s i) {s : σ}
    {l : List ι} (hs : I s) (h : Along step P s l) : Along step Q s l := by
  induction l generalizing s with
  | nil => trivial
  | cons i l ih => exact ⟨hq s i hs h.1, ih (hstep s i hs h.1) h.2⟩

theorem along_true (s : σ) (l : List ι) : Along step (fun _ _ => True) s l := by
  induction l generalizing s with
  | nil => trivial
  | cons i l ih => exact ⟨trivial, ih _⟩

end Run
