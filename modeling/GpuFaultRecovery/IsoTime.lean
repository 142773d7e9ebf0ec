import Mathlib.Algebra.Group.Nat.Defs
import Mathlib.Data.List.Lex
import Mathlib.Order.Basic

/-!
# The text of an instant

Instants are microseconds since the start of year 1 of the proleptic Gregorian calendar. A date comes from its ordinal
as in Python's `datetime`, by cycles of 400, 100, 4 and 1 years, and an instant is written with fields of fixed width.
On the years 1 to 9999 later instants have later texts (`isoText_lt`).
-/

namespace IsoTime

/-! ### Fixed-width numbers -/

/-- `n` in decimal, cut or filled with zeros to `width` digits. -/
def digits : Nat → Nat → List Char
  | 0, _ => []
  | width + 1, n => digits width (n / 10) ++ [Nat.digitChar (n % 10)]

theorem length_digits (width n : Nat) : (digits width n).length = width := by
  induction width generalizing n with
  | zero => rfl
  | succ width ih => simp [digits, ih]

/-- Texts of one length are compared before what follows them. -/
theorem append_lt_append {a a' : List Char} (b b' : List Char) (hlength : a.length = a'.length) (h : a < a') :
    a ++ b < a' ++ b' := by
  induction a generalizing a' with
  | nil =>
    rw [List.eq_nil_of_length_eq_zero hlength.symm] at h
    exact absurd h (List.not_lt_nil _)
  | cons c a ih =>
    cases a' with
    | nil => cases hlength
    | cons c' a' =>
      rw [List.cons_append, List.cons_append, List.cons_lt_cons_iff]
      rcases List.cons_lt_cons_iff.mp h with hlt | ⟨rfl, hlt⟩
      · exact .inl hlt
      · exact .inr ⟨rfl, ih (by simpa using hlength) hlt⟩

private theorem digitChar_lt {m n : Nat} (hn : n < 10) (h : m < n) : Nat.digitChar m < Nat.digitChar n := by
  have hall : ∀ n : Fin 10, ∀ m : Fin n.val, Nat.digitChar m.val < Nat.digitChar n.val := by decide
  exact hall ⟨n, hn⟩ ⟨m, h⟩

private theorem digits_lt {width m n : Nat} (hn : n < 10 ^ width) (h : m < n) : digits width m < digits width n := by
  induction width generalizing m n with
  | zero => omega
  | succ width ih =>
    rw [digits, digits]
    by_cases hhigh : m / 10 = n / 10
    · have hlow : m % 10 < n % 10 := by omega
      rw [hhigh]
      refine List.append_left_lt ?_
      exact List.cons_lt_cons_iff.mpr (.inl (digitChar_lt (Nat.mod_lt _ (by omega)) hlow))
    · have hlt : m / 10 < n / 10 := by omega
      have hbound : n / 10 < 10 ^ width := by
        rw [Nat.pow_succ] at hn
        omega
      refine append_lt_append _ _ ?_ (ih hbound hlt)
      rw [length_digits, length_digits]

/-- The fields in order, each after its separator. -/
def render : List (List Char × Nat) → List Nat → List Char
  | (separator, width) :: layout, value :: values => separator ++ (digits width value ++ render layout values)
  | _, _ => []

/-- Fields are compared one after the other, and so are their texts. -/
private theorem render_lt {layout : List (List Char × Nat)} {values values' : List Nat}
    (hvalues : values.length = layout.length)
    (hlength : values'.length = layout.length) (hbound : ∀ field ∈ layout.zip values', field.2 < 10 ^ field.1.2)
    (h : values < values') : render layout values < render layout values' := by
  induction layout generalizing values values' with
  | nil =>
    rw [List.eq_nil_of_length_eq_zero hlength] at h
    exact absurd h (List.not_lt_nil _)
  | cons entry layout ih =>
    obtain ⟨separator, width⟩ := entry
    cases values' with
    | nil => cases hlength
    | cons value' values' =>
      cases values with
      | nil => cases hvalues
      | cons value values =>
        have hvalue := hbound ((separator, width), value') (by simp)
        rw [render, render]
        refine List.append_left_lt ?_
        rcases List.cons_lt_cons_iff.mp h with hlt | ⟨rfl, hlt⟩
        · refine append_lt_append _ _ ?_ (digits_lt hvalue hlt)
          rw [length_digits, length_digits]
        · refine List.append_left_lt
            (ih (by simpa using hvalues) (by simpa using hlength) (fun field hfield => ?_) hlt)
          exact hbound field (List.mem_cons_of_mem _ hfield)

/-! ### Dates -/

def isLeap (year : Nat) : Bool := year % 4 == 0 && (year % 100 != 0 || year % 400 == 0)

def daysBeforeYear (year : Nat) : Nat := (year - 1) * 365 + (year - 1) / 4 - (year - 1) / 100 + (year - 1) / 400

/-- Year, leap year or not, and day of the year of the `n`-th day, all from zero but the year. -/
def yearDay (n : Nat) : Nat × Bool × Nat :=
  let n400 := n / 146097
  let n100 := n % 146097 / 36524
  let n4 := n % 146097 % 36524 / 1461
  let n1 := n % 146097 % 36524 % 1461 / 365
  let day := n % 146097 % 36524 % 1461 % 365
  let year := n400 * 400 + 1 + n100 * 100 + n4 * 4 + n1
  -- the last day of a leap year is one more than four years of 365 days
  if n1 = 4 ∨ n100 = 4 then (year - 1, true, 365) else (year, n1 == 3 && (n4 != 24 || n100 == 3), day)

def daysBeforeMonth : Nat → Nat
  | 1 => 0
  | 2 => 31
  | 3 => 59
  | 4 => 90
  | 5 => 120
  | 6 => 151
  | 7 => 181
  | 8 => 212
  | 9 => 243
  | 10 => 273
  | 11 => 304
  | 12 => 334
  | _ => 0

/-- Month and day of a day of the year: the estimate is right or one month too late. -/
def monthDay (leap : Bool) (day : Nat) : Nat × Nat :=
  let before := fun month => daysBeforeMonth month + if decide (2 < month) && leap then 1 else 0
  let month := (day + 50) / 32
  if day < before month then (month - 1, day - before (month - 1) + 1) else (month, day - before month + 1)

private theorem daysBeforeYear_succ {year : Nat} (h : 1 ≤ year) :
    daysBeforeYear (year + 1) = daysBeforeYear year + 365 + if isLeap year then 1 else 0 := by
  obtain ⟨p, rfl⟩ : ∃ p, year = p + 1 := ⟨year - 1, by omega⟩
  unfold daysBeforeYear isLeap
  simp only [Bool.and_eq_true, beq_iff_eq, Bool.or_eq_true, bne_iff_ne, Nat.add_sub_cancel]
  have hle : p / 100 ≤ p * 365 := by omega
  -- each count goes up by one when its period divides the year
  rw [Nat.succ_div, Nat.succ_div, Nat.succ_div]
  simp only [Nat.dvd_iff_mod_eq_zero]
  generalize p / 4 = fours
  generalize p / 100 = hundreds at hle
  generalize p / 400 = fourHundreds
  by_cases hfour : (p + 1) % 4 = 0
  · by_cases hundred : (p + 1) % 100 = 0
    · by_cases hfourhundred : (p + 1) % 400 = 0
      · simp [hfour, hundred, hfourhundred]
        omega
      · simp [hfour, hundred, hfourhundred]
        omega
    · have hnot : (p + 1) % 400 ≠ 0 := by omega
      simp [hfour, hundred, hnot]
      omega
  · have hnot : (p + 1) % 100 ≠ 0 := by omega
    have hnot' : (p + 1) % 400 ≠ 0 := by omega
    simp [hfour, hnot, hnot']
    omega

private theorem daysBeforeYear_mono {year year' : Nat} (hyear : 1 ≤ year) (h : year ≤ year') :
    daysBeforeYear year ≤ daysBeforeYear year' := by
  induction year', h using Nat.le_induction with
  | base => exact le_rfl
  | succ year' hle ih =>
    rw [daysBeforeYear_succ (hyear.trans hle)]
    omega

private theorem daysBeforeYear_cycles {a b c d : Nat} (hb : b ≤ 3) (hc : c ≤ 24) (hd : d ≤ 3) :
    daysBeforeYear (a * 400 + 1 + b * 100 + c * 4 + d) = a * 146097 + b * 36524 + c * 1461 + d * 365 := by
  have h4 : (a * 400 + b * 100 + c * 4 + d) / 4 = a * 100 + b * 25 + c := by omega
  have h100 : (a * 400 + b * 100 + c * 4 + d) / 100 = a * 4 + b := by omega
  have h400 : (a * 400 + b * 100 + c * 4 + d) / 400 = a := by omega
  have hyears : a * 400 + 1 + b * 100 + c * 4 + d - 1 = a * 400 + b * 100 + c * 4 + d := by omega
  unfold daysBeforeYear
  rw [hyears, h4, h100, h400]
  omega

private theorem isLeap_cycles {a b c d : Nat} (hb : b ≤ 3) (hc : c ≤ 24) (hd : d ≤ 3) :
    isLeap (a * 400 + 1 + b * 100 + c * 4 + d) = (d == 3 && (c != 24 || b == 3)) := by
  rw [Bool.eq_iff_iff]
  simp only [isLeap, Bool.and_eq_true, beq_iff_eq, Bool.or_eq_true, bne_iff_ne]
  omega

/-- What `yearDay` says about a day. -/
structure YearDay (n year : Nat) (leap : Bool) (day : Nat) : Prop where
  year_pos : 1 ≤ year
  ordinal : daysBeforeYear year + day = n
  leap : leap = isLeap year
  day_lt : day < 365 + if isLeap year then 1 else 0

private theorem yearDay_spec (n : Nat) : YearDay n (yearDay n).1 (yearDay n).2.1 (yearDay n).2.2 := by
  unfold yearDay
  dsimp only
  generalize ha : n / 146097 = a
  generalize hb : n % 146097 / 36524 = b
  generalize hc : n % 146097 % 36524 / 1461 = c
  generalize hd : n % 146097 % 36524 % 1461 / 365 = d
  generalize hday : n % 146097 % 36524 % 1461 % 365 = day
  have hn : n = a * 146097 + b * 36524 + c * 1461 + d * 365 + day := by omega
  have hlt : day < 365 := by omega
  have hb4 : b ≤ 4 := by omega
  have hc24 : c ≤ 24 := by omega
  have hd4 : d ≤ 4 := by omega
  split
  · rename_i hlast
    rcases hlast with rfl | rfl
    · have hb3 : b ≤ 3 := by omega
      have hc23 : c ≤ 23 := by omega
      have hyear : a * 400 + 1 + b * 100 + c * 4 + 4 - 1 = a * 400 + 1 + b * 100 + c * 4 + 3 := by omega
      have hleap : isLeap (a * 400 + 1 + b * 100 + c * 4 + 3) = true := by
        rw [isLeap_cycles hb3 hc24 le_rfl]
        simp only [beq_self_eq_true, Bool.true_and, Bool.or_eq_true, bne_iff_ne]
        omega
      rw [hyear]
      refine ⟨Nat.le_add_left _ _, ?_, hleap.symm, by simp [hleap]⟩
      dsimp only
      rw [daysBeforeYear_cycles hb3 hc24 le_rfl]
      omega
    · have hyear : a * 400 + 1 + 4 * 100 + c * 4 + d - 1 = a * 400 + 1 + 3 * 100 + 24 * 4 + 3 := by omega
      have hleap : isLeap (a * 400 + 1 + 3 * 100 + 24 * 4 + 3) = true := by
        rw [isLeap_cycles le_rfl le_rfl le_rfl]
        rfl
      rw [hyear]
      refine ⟨Nat.le_add_left _ _, ?_, hleap.symm, by simp [hleap]⟩
      dsimp only
      rw [daysBeforeYear_cycles le_rfl le_rfl le_rfl]
      omega
  · rename_i hlast
    have hb3 : b ≤ 3 := by omega
    have hd3 : d ≤ 3 := by omega
    refine ⟨?_, ?_, (isLeap_cycles hb3 hc24 hd3).symm, Nat.lt_add_right _ hlt⟩
    · dsimp only
      omega
    · dsimp only
      rw [daysBeforeYear_cycles hb3 hc24 hd3]
      omega

private theorem yearDay_lt {n n' : Nat} (h : n < n') : (yearDay n).1 < (yearDay n').1 ∨
    (yearDay n).1 = (yearDay n').1 ∧ (yearDay n).2.1 = (yearDay n').2.1 ∧ (yearDay n).2.2 < (yearDay n').2.2 := by
  have hspec := yearDay_spec n
  have hspec' := yearDay_spec n'
  rcases lt_trichotomy (yearDay n).1 (yearDay n').1 with hlt | heq | hgt
  · exact .inl hlt
  · refine .inr ⟨heq, ?_, ?_⟩
    · rw [hspec.leap, hspec'.leap, heq]
    · have hordinal := hspec.ordinal
      have hordinal' := hspec'.ordinal
      rw [heq] at hordinal
      omega
  · -- the later year starts after the earlier one has ended
    have hsucc := daysBeforeYear_succ hspec'.year_pos
    have hmono := daysBeforeYear_mono (Nat.le_add_left 1 _) (Nat.succ_le_of_lt hgt)
    have hordinal := hspec.ordinal
    have hordinal' := hspec'.ordinal
    have hday := hspec'.day_lt
    omega

private theorem year_le {n : Nat} (h : n < 3652059) : (yearDay n).1 ≤ 9999 := by
  by_contra hlate
  have hspec := yearDay_spec n
  have hmono : daysBeforeYear 10000 ≤ daysBeforeYear (yearDay n).1 := daysBeforeYear_mono (by omega) (by omega)
  have hstart : daysBeforeYear 10000 = 3652059 := rfl
  have hordinal := hspec.ordinal
  omega

/-! ### Months -/

def monthCode (leap : Bool) (day : Nat) : Nat := (monthDay leap day).1 * 32 + (monthDay leap day).2

private theorem monthDay_bounds {leap : Bool} {day : Nat} (h : day < 365 + if leap then 1 else 0) :
    (monthDay leap day).1 < 100 ∧ (monthDay leap day).2 < 32 := by
  have hall : ∀ leap : Bool, ∀ day : Fin (365 + if leap then 1 else 0),
      (monthDay leap day.val).1 < 100 ∧ (monthDay leap day.val).2 < 32 := by
    decide +kernel
  exact hall leap ⟨day, h⟩

private theorem monthCode_lt {leap : Bool} {day day' : Nat} (h' : day' < 365 + if leap then 1 else 0)
    (h : day < day') :
    monthCode leap day < monthCode leap day' := by
  have hnext : ∀ leap : Bool, ∀ day : Fin 365, monthCode leap day.val < monthCode leap (day.val + 1) := by
    decide +kernel
  have hsmall : day' < 366 := by
    split at h' <;> omega
  induction day', h using Nat.le_induction with
  | base => exact hnext leap ⟨day, by omega⟩
  | succ day' hle ih => exact (ih (by omega) (by omega)).trans (hnext leap ⟨day', by omega⟩)

private theorem monthDay_lt {leap : Bool} {day day' : Nat} (h' : day' < 365 + if leap then 1 else 0)
    (h : day < day') :
    (monthDay leap day).1 < (monthDay leap day').1 ∨
      (monthDay leap day).1 = (monthDay leap day').1 ∧ (monthDay leap day).2 < (monthDay leap day').2 := by
  have hcode := monthCode_lt h' h
  have hbound := (monthDay_bounds (h.trans h')).2
  have hbound' := (monthDay_bounds h').2
  unfold monthCode at hcode
  omega

/-! ### Instants -/

def microsPerDay : Nat := 86400000000

def instantEnd : Nat := 3652059 * microsPerDay

/-- Year, month, day, hour, minute, second and microsecond of an instant. -/
def fields (instant : Nat) : List Nat :=
  let (year, leap, day) := yearDay (instant / microsPerDay)
  let (month, dayOfMonth) := monthDay leap day
  let time := instant % microsPerDay
  [year, month, dayOfMonth, time / 3600000000, time / 60000000 % 60, time / 1000000 % 60, time % 1000000]

/-- `YYYY-MM-DDTHH:MM:SS.ffffff`. -/
def layout : List (List Char × Nat) :=
  [([], 4), (['-'], 2), (['-'], 2), (['T'], 2), ([':'], 2), ([':'], 2), (['.'], 6)]

def isoText (instant : Nat) : List Char := render layout (fields instant)

private theorem clock_lt {time time' : Nat} (h : time < time') :
    [time / 3600000000, time / 60000000 % 60, time / 1000000 % 60, time % 1000000] <
      [time' / 3600000000, time' / 60000000 % 60, time' / 1000000 % 60, time' % 1000000] := by
  have hseconds : ∀ t : Nat, t = t / 1000000 * 1000000 + t % 1000000 := fun t => by omega
  have hminutes : ∀ t : Nat, t / 1000000 = t / 60000000 * 60 + t / 1000000 % 60 := fun t => by omega
  have hhours : ∀ t : Nat, t / 60000000 = t / 3600000000 * 60 + t / 60000000 % 60 := fun t => by omega
  simp only [List.cons_lt_cons_iff, List.not_lt_nil, and_false, or_false]
  have hs := hseconds time
  have hs' := hseconds time'
  have hm := hminutes time
  have hm' := hminutes time'
  have hh := hhours time
  have hh' := hhours time'
  omega

/-- Later instants have later fields. -/
private theorem fields_lt {instant instant' : Nat} (h : instant < instant') : fields instant < fields instant' := by
  unfold fields
  dsimp only
  by_cases hday : instant / microsPerDay = instant' / microsPerDay
  · have htime : instant % microsPerDay < instant' % microsPerDay := by
      have hsplit := Nat.div_add_mod instant microsPerDay
      have hsplit' := Nat.div_add_mod instant' microsPerDay
      rw [hday] at hsplit
      omega
    rw [hday]
    exact List.cons_lt_cons_self.mpr (List.cons_lt_cons_self.mpr (List.cons_lt_cons_self.mpr (clock_lt htime)))
  · have hlt : instant / microsPerDay < instant' / microsPerDay :=
      lt_of_le_of_ne (Nat.div_le_div_right h.le) hday
    simp only [List.cons_lt_cons_iff]
    have hspec' := yearDay_spec (instant' / microsPerDay)
    rcases yearDay_lt hlt with hyear | ⟨hyear, hleap, hdays⟩
    · exact .inl hyear
    · refine .inr ⟨hyear, ?_⟩
      rw [hleap]
      have hbound : (yearDay (instant' / microsPerDay)).2.2 <
          365 + if (yearDay (instant' / microsPerDay)).2.1 then 1 else 0 := by
        rw [hspec'.leap]
        exact hspec'.day_lt
      rcases monthDay_lt hbound hdays with hmonth | ⟨hmonth, hdate⟩
      · exact .inl hmonth
      · exact .inr ⟨hmonth, .inl hdate⟩

private theorem fields_bound {instant : Nat} (h : instant < instantEnd) :
    ∀ field ∈ layout.zip (fields instant), field.2 < 10 ^ field.1.2 := by
  have hday : instant / microsPerDay < 3652059 := Nat.div_lt_of_lt_mul (by rw [Nat.mul_comm]; exact h)
  have htime : instant % microsPerDay < microsPerDay := Nat.mod_lt _ (by decide)
  have hspec := yearDay_spec (instant / microsPerDay)
  have hyear := year_le hday
  have hmonth := monthDay_bounds (hspec.leap ▸ hspec.day_lt)
  have hhour : instant % microsPerDay / 3600000000 < 100 := by
    refine Nat.div_lt_of_lt_mul (htime.trans ?_)
    decide
  unfold fields layout
  dsimp only
  intro field hfield
  simp only [List.zip_cons_cons, List.zip_nil_right, List.mem_cons, List.not_mem_nil, or_false] at hfield
  rcases hfield with rfl | rfl | rfl | rfl | rfl | rfl | rfl
  · exact Nat.lt_of_le_of_lt hyear (show 9999 < 10 ^ 4 by decide)
  · exact hmonth.1
  · exact hmonth.2.trans (show 32 < 10 ^ 2 by decide)
  · exact hhour
  · exact (Nat.mod_lt _ (by decide)).trans (show 60 < 10 ^ 2 by decide)
  · exact (Nat.mod_lt _ (by decide)).trans (show 60 < 10 ^ 2 by decide)
  · exact Nat.mod_lt _ (by decide)

/-- Later instants have later texts. -/
theorem isoText_lt {instant instant' : Nat} (h' : instant' < instantEnd) (h : instant < instant') :
    isoText instant < isoText instant' :=
  render_lt rfl rfl (fields_bound h') (fields_lt h)

end IsoTime
