import Mathlib.Order.Lattice
import Mathlib.Data.List.Basic

/-!
# Paging through an ordered list

A page holds the first rows behind a cursor, the last row of the page before. Asked for page after page until one is
empty, a reader gets every row once and in order, whatever the size of the pages.
-/

namespace CursorPaging

variable {α κ : Type*}

/-- The rows behind the cursor, up to `limit` of them. -/
def page [LinearOrder κ] (key : α → κ) (rows : List α) (limit : Nat) (after : Option α) : List α :=
  (rows.filter fun row => after.all fun cursor => decide (key cursor < key row)).take limit

/-- All pages together, asked for until one is empty; nothing if a page fails or the fuel runs out. -/
def scan (next : Option α → Option (List α)) : Nat → Option α → Option (List α)
  | 0, _ => none
  | fuel + 1, after => (next after).bind fun found =>
    match found.getLast? with
    | none => some []
    | some last => (scan next fuel (some last)).map (found ++ ·)

section Scan

variable [LinearOrder κ] {key : α → κ} {rows seen rest : List α} {limit fuel : Nat}
  {next : Option α → Option (List α)}

/-- What is behind the last row seen is the rest. -/
private theorem filter_behind (hsorted : (seen ++ rest).Pairwise fun a b => key a < key b) {cursor : α}
    (hcursor : seen.getLast? = some cursor) :
    ((seen ++ rest).filter fun row => (some cursor).all fun cursor => decide (key cursor < key row)) = rest := by
  obtain ⟨front, rfl⟩ := List.getLast?_eq_some_iff.mp hcursor
  obtain ⟨hseen, -, hbehind⟩ := List.pairwise_append.mp hsorted
  obtain ⟨-, -, hfront⟩ := List.pairwise_append.mp hseen
  have hnone : ((front ++ [cursor]).filter fun row => (some cursor).all fun cursor => decide (key cursor < key row)) =
      [] := by
    refine List.filter_eq_nil_iff.mpr fun row hrow => ?_
    simp only [Option.all_some, decide_eq_true_eq, not_lt]
    rcases List.mem_append.mp hrow with hin | hin
    · exact (hfront row hin cursor List.mem_cons_self).le
    · rw [List.mem_singleton.mp hin]
  have hall : (rest.filter fun row => (some cursor).all fun cursor => decide (key cursor < key row)) = rest := by
    refine List.filter_eq_self.mpr fun row hrow => ?_
    simpa using hbehind cursor (List.mem_append_right _ List.mem_cons_self) row hrow
  rw [List.filter_append, hnone, hall]
  rfl

/-- From any cursor on the way, the rest is read. -/
private theorem scan_rest (hnext : ∀ after, (∀ cursor ∈ after, cursor ∈ seen ++ rest) →
    next after = some (page key (seen ++ rest) limit after))
      (hsorted : (seen ++ rest).Pairwise fun a b => key a < key b)
    (hlimit : 1 ≤ limit) (hfuel : rest.length < fuel) : scan next fuel seen.getLast? = some rest := by
  induction fuel generalizing seen rest with
  | zero => omega
  | succ fuel ih =>
    have hpage : page key (seen ++ rest) limit seen.getLast? = rest.take limit := by
      unfold page
      cases hlast : seen.getLast? with
      | none =>
        rw [List.getLast?_eq_none_iff.mp hlast]
        simp
      | some cursor => rw [filter_behind hsorted hlast]
    have hcursor : ∀ cursor ∈ seen.getLast?, cursor ∈ seen ++ rest := fun cursor hmem =>
      List.mem_append_left _ (List.mem_of_getLast? hmem)
    unfold scan
    rw [hnext _ hcursor, hpage, Option.bind_some]
    cases hfound : (rest.take limit).getLast? with
    | none =>
      have hempty : rest = [] := by
        have htake := List.getLast?_eq_none_iff.mp hfound
        rw [List.take_eq_nil_iff] at htake
        exact htake.resolve_left (by omega)
      rw [hempty]
    | some last =>
      have hsplit : seen ++ rest.take limit ++ rest.drop limit = seen ++ rest := by
        rw [List.append_assoc, List.take_append_drop]
      have hlast : (seen ++ rest.take limit).getLast? = some last := by
        rw [List.getLast?_append, hfound]
        rfl
      have hpos : rest ≠ [] := by
        rintro rfl
        simp at hfound
      have hshorter : (rest.drop limit).length < fuel := by
        have hlength := List.length_pos_iff.mpr hpos
        rw [List.length_drop]
        omega
      have hread := ih (by rw [hsplit]; exact hnext) (by rw [hsplit]; exact hsorted) hshorter
      rw [hlast] at hread
      dsimp only
      rw [hread]
      simp

/-- Pages of at least one row, asked for until one is empty, are all rows. -/
theorem scan_eq (hnext : ∀ after, (∀ cursor ∈ after, cursor ∈ rows) → next after = some (page key rows limit after))
    (hsorted : rows.Pairwise fun a b => key a < key b) (hlimit : 1 ≤ limit) (hfuel : rows.length < fuel) :
    scan next fuel none = some rows := by
  have hread : scan next fuel ([] : List α).getLast? = some rows := scan_rest hnext hsorted hlimit hfuel
  exact hread

end Scan

end CursorPaging
