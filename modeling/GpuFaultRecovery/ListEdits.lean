import Mathlib.Data.List.Sort

/-!
# One element more, and the last element of a kind

`Inserted d xs ys` says that `ys` is `xs` with `d` somewhere in it. A stable sort of a list with one element appended
inserts it into the sorted list. The last element with a property splits a list into what comes before it and a rest
without the property. `Somewhere P` speaks of some element together with what follows it.
-/

namespace ListEdits

variable {α : Type*} {d : α} {xs ys : List α}

/-- `ys` is `xs` with `d` somewhere in it. -/
def Inserted (d : α) (xs ys : List α) : Prop := ∃ front back, xs = front ++ back ∧ ys = front ++ d :: back

theorem Inserted.mem_iff (h : Inserted d xs ys) (x : α) : x ∈ ys ↔ x = d ∨ x ∈ xs := by
  obtain ⟨front, back, rfl, rfl⟩ := h
  simp only [List.mem_append, List.mem_cons]
  exact or_left_comm

theorem Inserted.append (h : Inserted d xs ys) (zs : List α) : Inserted d (xs ++ zs) (ys ++ zs) := by
  obtain ⟨front, back, rfl, rfl⟩ := h
  exact ⟨front, back ++ zs, by simp, by simp⟩

theorem Inserted.left (h : Inserted d xs ys) (zs : List α) : Inserted d (zs ++ xs) (zs ++ ys) := by
  obtain ⟨front, back, rfl, rfl⟩ := h
  exact ⟨zs ++ front, back, by simp, by simp⟩

theorem Inserted.cons (h : Inserted d xs ys) (x : α) : Inserted d (x :: xs) (x :: ys) := h.left [x]

/-- An element is inserted before or after a given one. -/
theorem Inserted.around {x : α} {front back : List α} (h : Inserted d (front ++ x :: back) ys) :
    (∃ front', Inserted d front front' ∧ ys = front' ++ x :: back) ∨
      ∃ back', Inserted d back back' ∧ ys = front ++ x :: back' := by
  obtain ⟨before, after, hsplit, rfl⟩ := h
  rcases List.append_eq_append_iff.mp hsplit with ⟨between, rfl, hafter⟩ | ⟨between, rfl, rfl⟩
  · cases between with
    | nil =>
      rw [List.nil_append] at hafter
      exact .inl ⟨front ++ [d], ⟨front, [], by simp, rfl⟩, by simp [← hafter]⟩
    | cons item between =>
      rw [List.cons_append, List.cons.injEq] at hafter
      obtain ⟨rfl, rfl⟩ := hafter
      exact .inr ⟨between ++ d :: after, ⟨between, after, rfl, rfl⟩, by simp⟩
  · exact .inl ⟨before ++ d :: between, ⟨before, between, rfl, rfl⟩, by simp⟩

/-! ### Sorting -/

section Sorting

variable (key : α → ℕ)

/-- Where `a` goes in a list with `d` in it: `d` stays between what is not above it and what is. -/
private theorem orderedInsert_split (a : α) (front : List α) {back : List α} (hback : ∀ b ∈ back, key d < key b) :
    ∃ front' back', (front ++ back).orderedInsert (key · ≤ key ·) a = front' ++ back' ∧
      (front ++ d :: back).orderedInsert (key · ≤ key ·) a = front' ++ d :: back' ∧ ∀ b ∈ back', key d < key b := by
  induction front with
  | nil =>
    by_cases had : key a ≤ key d
    · refine ⟨[a], back, ?_, ?_, hback⟩
      · cases back with
        | nil => rfl
        | cons b back =>
          have hab : key a ≤ key b := had.trans (hback b (by simp)).le
          simp [hab]
      · simp [had]
    · refine ⟨[], back.orderedInsert (key · ≤ key ·) a, rfl, by simp [had], fun b hb => ?_⟩
      rw [List.mem_orderedInsert] at hb
      rcases hb with rfl | hb
      · omega
      · exact hback b hb
  | cons x front ih =>
    by_cases hax : key a ≤ key x
    · exact ⟨a :: x :: front, back, by simp [hax], by simp [hax], hback⟩
    · obtain ⟨front', back', hwithout, hwith, hback'⟩ := ih
      exact ⟨x :: front', back', by simp [hax, hwithout], by simp [hax, hwith], hback'⟩

private theorem insertionSort_split (l : List α) (d : α) :
    ∃ front back, l.insertionSort (key · ≤ key ·) = front ++ back ∧
      (l ++ [d]).insertionSort (key · ≤ key ·) = front ++ d :: back ∧ ∀ b ∈ back, key d < key b := by
  induction l with
  | nil => exact ⟨[], [], rfl, rfl, by simp⟩
  | cons a l ih =>
    obtain ⟨front, back, hwithout, hwith, hback⟩ := ih
    obtain ⟨front', back', h, h', hback'⟩ := orderedInsert_split key a front hback
    refine ⟨front', back', ?_, ?_, hback'⟩
    · rw [List.insertionSort_cons, hwithout, h]
    · rw [List.cons_append, List.insertionSort_cons, hwith, h']

/-- Sorting after an append is inserting into the sorted list. -/
theorem inserted_insertionSort (l : List α) (d : α) :
    Inserted d (l.insertionSort (key · ≤ key ·)) ((l ++ [d]).insertionSort (key · ≤ key ·)) := by
  obtain ⟨front, back, hwithout, hwith, -⟩ := insertionSort_split key l d
  exact ⟨front, back, hwithout, hwith⟩

end Sorting

/-! ### The last element with a property -/

section Last

variable {p : α → Bool}

/-- Where the elements with `p` stand. -/
def positions (p : α → Bool) (l : List α) : List ℕ := (l.zipIdx.filter fun entry => p entry.1).map Prod.snd

/-- A list has no element with `p`, or a last one. -/
theorem none_or_last (p : α → Bool) (l : List α) :
    (∀ x ∈ l, p x = false) ∨ ∃ front x back, l = front ++ x :: back ∧ p x = true ∧ ∀ y ∈ back, p y = false := by
  induction l with
  | nil => exact .inl (by simp)
  | cons a l ih =>
    rcases ih with hnone | ⟨front, x, back, rfl, hx, hback⟩
    · cases ha : p a with
      | false => exact .inl (by simpa [ha] using hnone)
      | true => exact .inr ⟨[], a, l, rfl, ha, hnone⟩
    · exact .inr ⟨a :: front, x, back, rfl, hx, hback⟩

theorem positions_eq_nil {l : List α} (h : ∀ x ∈ l, p x = false) : positions p l = [] := by
  rw [positions, List.map_eq_nil_iff, List.filter_eq_nil_iff]
  intro entry hentry
  rw [h entry.1 (List.fst_mem_of_mem_zipIdx hentry)]
  simp

theorem getLast?_positions (front : List α) {back : List α} {x : α} (hx : p x = true)
    (hback : ∀ y ∈ back, p y = false) :
    (positions p (front ++ x :: back)).getLast? = some front.length := by
  have hrest : (back.zipIdx (0 + front.length + 1)).filter (fun entry => p entry.1) = [] := by
    rw [List.filter_eq_nil_iff]
    intro entry hentry
    rw [hback entry.1 (List.fst_mem_of_mem_zipIdx hentry)]
    simp
  rw [positions, List.zipIdx_append, List.zipIdx_cons, List.filter_append, List.filter_cons, hrest]
  simp [hx]

end Last

/-! ### Some element and what follows it -/

section Somewhere

variable {P Q : α → List α → Prop}

/-- Some element has `P` together with what follows it. -/
def Somewhere (P : α → List α → Prop) : List α → Prop
  | [] => False
  | x :: rest => P x rest ∨ Somewhere P rest

theorem somewhere_iff (l : List α) : Somewhere P l ↔ ∃ front x back, l = front ++ x :: back ∧ P x back := by
  induction l with
  | nil => simp [Somewhere]
  | cons a l ih =>
    rw [Somewhere, ih]
    constructor
    · rintro (h | ⟨front, x, back, rfl, h⟩)
      · exact ⟨[], a, l, rfl, h⟩
      · exact ⟨a :: front, x, back, rfl, h⟩
    · rintro ⟨front, x, back, hl, h⟩
      cases front with
      | nil =>
        obtain ⟨rfl, rfl⟩ := List.cons.inj hl
        exact .inl h
      | cons b front => exact .inr ⟨front, x, back, (List.cons.inj hl).2, h⟩

theorem somewhere_append (xs ys : List α) :
    Somewhere P (xs ++ ys) ↔ Somewhere (fun x rest => P x (rest ++ ys)) xs ∨ Somewhere P ys := by
  induction xs with
  | nil => simp [Somewhere]
  | cons x xs ih =>
    rw [List.cons_append, Somewhere, Somewhere, ih]
    exact or_assoc.symm

theorem somewhere_congr {l : List α} (h : ∀ front x back, l = front ++ x :: back → (P x back ↔ Q x back)) :
    Somewhere P l ↔ Somewhere Q l := by
  rw [somewhere_iff, somewhere_iff]
  constructor
  · rintro ⟨front, x, back, rfl, hx⟩
    exact ⟨front, x, back, rfl, (h front x back rfl).mp hx⟩
  · rintro ⟨front, x, back, rfl, hx⟩
    exact ⟨front, x, back, rfl, (h front x back rfl).mpr hx⟩

end Somewhere

/-! ### One element changed -/

section Modify

variable {l : List α} {f : α → α} {i j : ℕ} {x y : α}

/-- An element of a list with one element changed is the changed one or an old one. -/
theorem getElem?_modify_cases (h : (l.modify i f)[j]? = some y) :
    (i = j ∧ ∃ x, l[i]? = some x ∧ y = f x) ∨ (i ≠ j ∧ l[j]? = some y) := by
  rw [List.getElem?_modify] at h
  obtain ⟨x, hx, hy⟩ := Option.map_eq_some_iff.mp h
  by_cases hij : i = j
  · subst hij
    rw [if_pos rfl] at hy
    exact .inl ⟨rfl, x, hx, hy.symm⟩
  · rw [if_neg hij] at hy
    exact .inr ⟨hij, hy ▸ hx⟩

/-- Changing one element changes a count by that element. -/
theorem countP_modify (p : α → Bool) (h : l[i]? = some x) :
    (l.modify i f).countP p + (if p x then 1 else 0) = l.countP p + if p (f x) then 1 else 0 := by
  induction l generalizing i with
  | nil => cases h
  | cons a l ih =>
    cases i with
    | zero =>
      obtain rfl := Option.some.inj h
      rw [List.modify_zero_cons, List.countP_cons, List.countP_cons]
      omega
    | succ i =>
      rw [List.getElem?_cons_succ] at h
      rw [List.modify_succ_cons, List.countP_cons, List.countP_cons]
      have := ih h
      omega

end Modify

/-! ### Repetitions -/

theorem nodup_eraseDups [BEq α] [LawfulBEq α] (l : List α) : l.eraseDups.Nodup := by
  induction h : l.length using Nat.strong_induction_on generalizing l with
  | _ n ih =>
    cases l with
    | nil => simp
    | cons a l =>
      rw [List.eraseDups_cons, List.nodup_cons]
      subst h
      refine ⟨?_, ih _ ?_ _ rfl⟩
      · simp [List.mem_eraseDups]
      · exact Nat.lt_succ_of_le (List.length_filter_le _ _)

/-- An element of a list without repetitions splits it, and filtering it out leaves the two sides. -/
theorem split_of_nodup [BEq α] [LawfulBEq α] {l : List α} {a : α} (hl : l.Nodup) (ha : a ∈ l) :
    ∃ before after, l = before ++ a :: after ∧ a ∉ before ∧ a ∉ after ∧ l.filter (· != a) = before ++ after := by
  obtain ⟨before, after, rfl⟩ := List.append_of_mem ha
  have hbefore : a ∉ before := by
    intro h
    exact (List.nodup_append.mp hl).2.2 a h a List.mem_cons_self rfl
  have hafter : a ∉ after := (List.nodup_cons.mp (List.nodup_append.mp hl).2.1).1
  refine ⟨before, after, rfl, hbefore, hafter, ?_⟩
  rw [List.filter_append, List.filter_cons_of_neg (by simp)]
  congr 1
  · exact List.filter_eq_self.mpr fun b h => by simpa using ne_of_mem_of_not_mem h hbefore
  · exact List.filter_eq_self.mpr fun b h => by simpa using ne_of_mem_of_not_mem h hafter

end ListEdits
