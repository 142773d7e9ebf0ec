import Mathlib.Data.List.MinMax
import Mathlib.Data.List.Perm.Basic

/-!
# Selections from a list

A selection takes an element of greatest key and, among several, the first. Its outcome does not depend on the order
of the list when the elements of greatest key look alike, and it does when two of them do not.
-/

namespace Selection

variable {α β γ : Type*} [LinearOrder β] {f : α → β} {g : α → γ} {l l' : List α} {a b : α}

/-- An element of greatest key. -/
def IsTop (f : α → β) (l : List α) (a : α) : Prop := a ∈ l ∧ ∀ b ∈ l, f b ≤ f a

private theorem isTop_of_argmax (h : l.argmax f = some a) : IsTop f l a :=
  ⟨List.argmax_mem h, fun _ hb => List.le_of_mem_argmax hb h⟩

private theorem isTop_perm (h : l.Perm l') : IsTop f l a ↔ IsTop f l' a := by
  simp only [IsTop, h.mem_iff]

/-- A look that all elements of greatest key share is the look of the selected one, in any order of the list. -/
theorem map_argmax_perm (h : l.Perm l') (hg : ∀ a b, IsTop f l a → IsTop f l b → g a = g b) :
    (l.argmax f).map g = (l'.argmax f).map g := by
  cases hl : l.argmax f with
  | none =>
    rw [List.argmax_eq_none] at hl
    subst hl
    rw [← h.nil_eq]
    rfl
  | some a =>
    cases hl' : l'.argmax f with
    | none =>
      rw [List.argmax_eq_none] at hl'
      subst hl'
      rw [h.eq_nil] at hl
      cases hl
    | some b =>
      have htop : IsTop f l b := (isTop_perm h).2 (isTop_of_argmax hl')
      simp [hg a b (isTop_of_argmax hl) htop]

/-- With keys that tell the elements apart the selection does not depend on the order of the list. -/
theorem argmax_perm (h : l.Perm l') (hf : ∀ a ∈ l, ∀ b ∈ l, f a = f b → a = b) : l.argmax f = l'.argmax f := by
  have hsame : ∀ a b, IsTop f l a → IsTop f l b → id a = id b := by
    intro a b ha hb
    exact hf a ha.1 b hb.1 (le_antisymm (hb.2 a ha.1) (ha.2 b hb.1))
  have hmap := map_argmax_perm h hsame
  simpa using hmap

theorem argmin_perm (h : l.Perm l') (hf : ∀ a ∈ l, ∀ b ∈ l, f a = f b → a = b) : l.argmin f = l'.argmin f :=
  @argmax_perm α βᵒᵈ _ f l l' h hf

private theorem argmax_cons_of_top (h : ∀ b ∈ l, f b ≤ f a) : (a :: l).argmax f = some a := by
  rw [List.argmax_cons]
  cases hl : l.argmax f with
  | none => rfl
  | some b =>
    have hle := h b (List.argmax_mem hl)
    simp [not_lt.2 hle]

/-- When every order of a list selects alike, all elements of greatest key look alike. -/
theorem look_eq_of_perm [DecidableEq α] {p : α → Bool}
    (h : ∀ l' : List α, l'.Perm l → ((l'.filter p).argmax f).map g = ((l.filter p).argmax f).map g)
    (ha : IsTop f (l.filter p) a) (hb : IsTop f (l.filter p) b) : g a = g b := by
  -- each of the two is put at the head of the list
  have hfirst : ∀ c, IsTop f (l.filter p) c → ((l.filter p).argmax f).map g = some (g c) := by
    intro c hc
    obtain ⟨hcl, hpc⟩ := List.mem_filter.1 hc.1
    have hperm : (c :: l.erase c).Perm l := (List.perm_cons_erase hcl).symm
    rw [← h _ hperm, List.filter_cons_of_pos hpc, argmax_cons_of_top]
    · rfl
    · intro d hd
      exact hc.2 d ((hperm.filter p).subset (by rw [List.filter_cons_of_pos hpc]; exact List.mem_cons_of_mem _ hd))
  have heq := (hfirst a ha).symm.trans (hfirst b hb)
  exact Option.some.inj heq

/-- A change of the elements that keeps their keys commutes with the selection. -/
theorem argmax_map (g : α → α) (hg : ∀ a, f (g a) = f a) (l : List α) : (l.map g).argmax f = (l.argmax f).map g := by
  induction l with
  | nil => rfl
  | cons a l ih =>
    rw [List.map_cons, List.argmax_cons, List.argmax_cons, ih]
    cases l.argmax f with
    | none => rfl
    | some b =>
      simp only [Option.map_some, hg]
      split <;> rfl

/-- Computing the elements of a list one by one in another order gives the same results in another order. -/
theorem exists_mapM_perm {F : α → Option γ} (h : l.Perm l') :
    ∀ results, l.mapM F = some results → ∃ results', l'.mapM F = some results' ∧ results.Perm results' := by
  induction h with
  | nil => exact fun results hresults => ⟨results, hresults, .refl _⟩
  | cons a h ih =>
    intro results hresults
    simp only [List.mapM_cons, Option.bind_eq_bind, Option.bind_eq_some_iff, Option.pure_def, Option.some.injEq]
      at hresults ⊢
    obtain ⟨r, hr, rs, hrs, rfl⟩ := hresults
    obtain ⟨rs', hrs', hperm⟩ := ih rs hrs
    exact ⟨r :: rs', ⟨r, hr, rs', hrs', rfl⟩, hperm.cons r⟩
  | swap a b l =>
    intro results hresults
    simp only [List.mapM_cons, Option.bind_eq_bind, Option.bind_eq_some_iff, Option.pure_def, Option.some.injEq]
      at hresults ⊢
    obtain ⟨rb, hrb, _, ⟨ra, hra, rs, hrs, rfl⟩, rfl⟩ := hresults
    exact ⟨ra :: rb :: rs, ⟨ra, hra, _, ⟨rb, hrb, rs, hrs, rfl⟩, rfl⟩, .swap ra rb rs⟩
  | trans h₁ h₂ ih₁ ih₂ =>
    intro results hresults
    obtain ⟨rs₁, hrs₁, hperm₁⟩ := ih₁ results hresults
    obtain ⟨rs₂, hrs₂, hperm₂⟩ := ih₂ rs₁ hrs₁
    exact ⟨rs₂, hrs₂, hperm₁.trans hperm₂⟩

theorem mapM_congr_of_mem {F F' : α → Option γ} (h : ∀ a ∈ l, F a = F' a) : l.mapM F = l.mapM F' := by
  induction l with
  | nil => rfl
  | cons a l ih =>
    rw [List.mapM_cons, List.mapM_cons, h a List.mem_cons_self, ih fun b hb => h b (List.mem_cons_of_mem a hb)]

/-- A change of the results may be made while they are computed. -/
theorem map_mapM {δ : Type*} (F : α → Option γ) (g : γ → δ) (l : List α) :
    (l.mapM F).map (List.map g) = l.mapM fun a => (F a).map g := by
  induction l with
  | nil => rfl
  | cons a l ih =>
    simp only [List.mapM_cons, Option.bind_eq_bind, Option.pure_def]
    rw [← ih]
    cases F a with
    | none => rfl
    | some r =>
      cases hl : l.mapM F with
      | none => simp
      | some rs => simp

end Selection
