import Mathlib.Data.List.Basic

/-!
# Programs of fallible commands

A `Prog` performs commands one after the other on an outside world; each command answers or raises, and the program
goes on from the answer. The world decides how a command ends: `perform w e c` is the world after the command `e`
under the choice `c`, with the answer. A run consumes one choice a command and stops where the choices end, so that
the runs on all lists of choices are the prefixes of all executions: a list that ends early is a crash. `Holds I Q X p
w` says that every run of `p` from `w` keeps `I` at each point, returns in `Q` and raises in `X`; the rules follow the
shape of the program.
-/

/-- A program over commands `E`, the command `e` answering in `P e` or raising an `ε`. -/
inductive Prog (E : Type) (P : E → Type) (ε α : Type) : Type
  | ret (a : α)
  | raise (x : ε)
  | act (e : E) (k : Except ε (P e) → Prog E P ε α)

namespace Prog

variable {E : Type} {P : E → Type} {ε α β : Type}

/-- Perform one command, its failure propagating. -/
def call (e : E) : Prog E P ε (P e) :=
  .act e fun
    | .ok a => .ret a
    | .error x => .raise x

def bind : Prog E P ε α → (α → Prog E P ε β) → Prog E P ε β
  | .ret a, f => f a
  | .raise x, _ => .raise x
  | .act e k, f => .act e fun r => (k r).bind f

/-- `try p except x: handler x`. -/
def tryExcept : Prog E P ε α → (ε → Prog E P ε α) → Prog E P ε α
  | .ret a, _ => .ret a
  | .raise x, handler => handler x
  | .act e k, handler => .act e fun r => (k r).tryExcept handler

instance : Monad (Prog E P ε) where
  pure := .ret
  bind := .bind

/-- `for a in l: f a`. -/
def forEach (f : α → Prog E P ε Unit) : List α → Prog E P ε Unit
  | [] => pure ()
  | a :: l => do
    f a
    forEach f l

/-- `[f a for a in l]`. -/
def collect (f : α → Prog E P ε β) : List α → Prog E P ε (List β)
  | [] => pure []
  | a :: l => do
    let b ← f a
    let bs ← collect f l
    pure (b :: bs)

section World

variable {W C : Type} (perform : W → (e : E) → C → W × Except ε (P e))

/-- The world at the end of the choices or of the program, with the result when the program ended. -/
def run : Prog E P ε α → W → List C → W × Option (Except ε α)
  | .ret a, w, _ => (w, some (.ok a))
  | .raise x, w, _ => (w, some (.error x))
  | .act _ _, w, [] => (w, none)
  | .act e k, w, c :: cs => (k (perform w e c).2).run (perform w e c).1 cs

variable (I : W → Prop)

/-- Every run of the program from `w` keeps `I` at each point; `Q` holds where it returns and `X` where it raises. -/
def Holds : (α → W → Prop) → (ε → W → Prop) → Prog E P ε α → W → Prop
  | Q, _, .ret a, w => I w ∧ Q a w
  | _, X, .raise x, w => I w ∧ X x w
  | Q, X, .act e k, w => I w ∧ ∀ c, Holds Q X (k (perform w e c).2) (perform w e c).1

variable {perform I} {Q R : α → W → Prop} {X Y : ε → W → Prop} {p : Prog E P ε α} {w : W}

/-- What holds of a program holds of each of its runs. -/
theorem Holds.run (h : Holds perform I Q X p w) (cs : List C) :
    I (p.run perform w cs).1 ∧ (∀ a, (p.run perform w cs).2 = some (.ok a) → Q a (p.run perform w cs).1) ∧
      ∀ x, (p.run perform w cs).2 = some (.error x) → X x (p.run perform w cs).1 := by
  induction p generalizing w cs with
  | ret a => exact ⟨h.1, fun b hb => (by cases hb; exact h.2), fun x hx => (by cases hx)⟩
  | raise x => exact ⟨h.1, fun b hb => (by cases hb), fun y hy => by cases hy; exact h.2⟩
  | act e k ih =>
    cases cs with
    | nil => exact ⟨h.1, fun b hb => (by cases hb), fun x hx => (by cases hx)⟩
    | cons c cs => exact ih _ (h.2 c) cs

/-- Weaker conditions at each point and at the ends. -/
theorem Holds.mono {J : W → Prop} (h : Holds perform J Q X p w) (hi : ∀ w, J w → I w)
    (hq : ∀ a w, J w → Q a w → R a w) (hx : ∀ x w, J w → X x w → Y x w) : Holds perform I R Y p w := by
  induction p generalizing w with
  | ret a => exact ⟨hi _ h.1, hq _ _ h.1 h.2⟩
  | raise x => exact ⟨hi _ h.1, hx _ _ h.1 h.2⟩
  | act e k ih => exact ⟨hi _ h.1, fun c => ih _ (h.2 c)⟩

theorem holds_pure {a : α} (hi : I w) (hq : Q a w) : Holds perform I Q X (pure a) w := ⟨hi, hq⟩

theorem holds_raise {x : ε} (hi : I w) (hx : X x w) : Holds perform I Q X (.raise x) w := ⟨hi, hx⟩

/-- The rule of sequence: `M` holds between the two programs. -/
theorem holds_bind {f : β → Prog E P ε α} {q : Prog E P ε β} {M : β → W → Prop} (h : Holds perform I M X q w)
    (hf : ∀ b w, I w → M b w → Holds perform I Q X (f b) w) : Holds perform I Q X (q >>= f) w := by
  induction q generalizing w with
  | ret b => exact hf b w h.1 h.2
  | raise x => exact h
  | act e k ih => exact ⟨h.1, fun c => ih _ (h.2 c)⟩

/-- The rule of the handler: `Y` holds where the guarded program raised. -/
theorem holds_tryExcept {handler : ε → Prog E P ε α} (h : Holds perform I Q Y p w)
    (hh : ∀ x w, I w → Y x w → Holds perform I Q X (handler x) w) : Holds perform I Q X (p.tryExcept handler) w := by
  induction p generalizing w with
  | ret a => exact h
  | raise x => exact hh x w h.1 h.2
  | act e k ih => exact ⟨h.1, fun c => ih _ (h.2 c)⟩

theorem holds_call {e : E} {Q : P e → W → Prop} (hi : I w) (hstep : ∀ c, I (perform w e c).1)
    (hq : ∀ c a, (perform w e c).2 = .ok a → Q a (perform w e c).1)
    (hx : ∀ c x, (perform w e c).2 = .error x → X x (perform w e c).1) : Holds perform I Q X (call e) w := by
  refine ⟨hi, fun c => ?_⟩
  cases hr : (perform w e c).2 with
  | ok a => exact ⟨hstep c, hq c a hr⟩
  | error x => exact ⟨hstep c, hx c x hr⟩

/-- The rule of the loop: `M done` holds after the turns for `done`, and a turn that raises ends the loop. -/
theorem holds_forEach {f : β → Prog E P ε Unit} {M : List β → W → Prop} {l : List β}
    (hf : ∀ done b rest w, l = done ++ b :: rest → I w → M done w →
      Holds perform I (fun _ => M (done ++ [b])) X (f b) w)
    (hi : I w) (h : M [] w) : Holds perform I (fun _ => M l) X (forEach f l) w := by
  suffices ∀ rest done w, l = done ++ rest → I w → M done w → Holds perform I (fun _ => M l) X (forEach f rest) w from
    this l [] w rfl hi h
  intro rest
  induction rest with
  | nil =>
    intro done w hl hi hm
    rw [List.append_nil] at hl
    exact ⟨hi, hl ▸ hm⟩
  | cons b rest ih =>
    intro done w hl hi hm
    refine holds_bind (hf done b rest w hl hi hm) fun _ w' hi' hm' => ?_
    exact ih (done ++ [b]) w' (by simpa using hl) hi' hm'

/-- The rule of the comprehension: `M done answers` holds after the turns for `done`. -/
theorem holds_collect {γ : Type} {f : γ → Prog E P ε β} {M : List γ → List β → W → Prop} {l : List γ}
    (hf : ∀ done bs b rest w, l = done ++ b :: rest → I w → M done bs w →
      Holds perform I (fun a => M (done ++ [b]) (bs ++ [a])) X (f b) w)
    (hi : I w) (h : M [] [] w) : Holds perform I (fun bs => M l bs) X (collect f l) w := by
  suffices ∀ rest done bs w, l = done ++ rest → I w → M done bs w →
      Holds perform I (fun later => M l (bs ++ later)) X (collect f rest) w from this l [] [] w rfl hi h
  intro rest
  induction rest with
  | nil =>
    intro done bs w hl hi hm
    rw [List.append_nil] at hl
    exact ⟨hi, by simpa [hl] using hm⟩
  | cons b rest ih =>
    intro done bs w hl hi hm
    refine holds_bind (hf done bs b rest w hl hi hm) fun a w' hi' hm' => ?_
    refine holds_bind (ih (done ++ [b]) (bs ++ [a]) w' (by simpa using hl) hi' hm') fun later w'' hi'' hm'' => ?_
    exact ⟨hi'', by simpa using hm''⟩

/-! ### Programs of commands that a condition does not see -/

/-- Every command the program can perform satisfies `A`. -/
def Only (A : E → Prop) : Prog E P ε α → Prop
  | .ret _ => True
  | .raise _ => True
  | .act e k => A e ∧ ∀ r, Only A (k r)

variable {A : E → Prop}

theorem only_pure {a : α} : Only A (pure a : Prog E P ε α) := trivial

theorem only_call {e : E} (h : A e) : Only A (call e : Prog E P ε (P e)) := by
  refine ⟨h, fun r => ?_⟩
  cases r with
  | ok a => trivial
  | error x => trivial

theorem Only.bind {q : Prog E P ε β} {f : β → Prog E P ε α} (hq : Only A q) (hf : ∀ b, Only A (f b)) :
    Only A (q >>= f) := by
  induction q with
  | ret b => exact hf b
  | raise x => trivial
  | act e k ih => exact ⟨hq.1, fun r => ih r (hq.2 r)⟩

theorem only_ite {c : Prop} [Decidable c] {q : Prog E P ε α} (hp : Only A p) (hq : Only A q) :
    Only A (if c then p else q) := by
  split
  · exact hp
  · exact hq

theorem Only.tryExcept {handler : ε → Prog E P ε α} (h : Only A p) (hh : ∀ x, Only A (handler x)) :
    Only A (p.tryExcept handler) := by
  induction p with
  | ret a => trivial
  | raise x => exact hh x
  | act e k ih => exact ⟨h.1, fun r => ih r (h.2 r)⟩

theorem Only.mono {B : E → Prop} (h : Only A p) (hab : ∀ e, A e → B e) : Only B p := by
  induction p with
  | ret a => trivial
  | raise x => trivial
  | act e k ih => exact ⟨hab e h.1, fun r => ih r (h.2 r)⟩

theorem only_forEach {f : β → Prog E P ε Unit} {l : List β} (hf : ∀ b ∈ l, Only A (f b)) : Only A (forEach f l) := by
  induction l with
  | nil => trivial
  | cons b l ih =>
    exact (hf b List.mem_cons_self).bind fun _ => ih fun c hc => hf c (List.mem_cons_of_mem _ hc)

theorem only_collect {f : α → Prog E P ε β} {l : List α} (hf : ∀ a ∈ l, Only A (f a)) : Only A (collect f l) := by
  induction l with
  | nil => trivial
  | cons a l ih =>
    refine (hf a List.mem_cons_self).bind fun b => ?_
    exact (ih fun c hc => hf c (List.mem_cons_of_mem _ hc)).bind fun _ => trivial

/-- What no command of the program changes holds throughout it and of its result. -/
theorem Only.holds (h : Only A p) (hstep : ∀ w e c, A e → I w → I (perform w e c).1) (hi : I w) :
    Holds perform I (fun _ => I) (fun _ => I) p w := by
  induction p generalizing w with
  | ret a => exact ⟨hi, hi⟩
  | raise x => exact ⟨hi, hi⟩
  | act e k ih => exact ⟨hi, fun c => ih _ (h.2 _) (hstep w e c h.1 hi)⟩

end World

end Prog
