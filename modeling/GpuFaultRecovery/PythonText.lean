import Mathlib.Data.List.Basic

/-!
# Texts as Python writes them

`str.strip`, `repr` of a string and `repr` of a float. Which characters `repr` prints as they are depends on the
Unicode tables of the interpreter, so `UnicodeTables` stands for any of them; of the ASCII characters it is fixed.
-/

/-- `str.isprintable`, by the Unicode tables of an interpreter. -/
class UnicodeTables where
  printable : Char → Bool
  ascii : ∀ c, c.toNat < 128 → (printable c = true ↔ 32 ≤ c.toNat ∧ c.toNat < 127)

/-- Tables that print ASCII only. -/
@[reducible] def UnicodeTables.asciiOnly : UnicodeTables where
  printable c := 32 ≤ c.toNat && c.toNat < 127
  ascii c _ := by simp

namespace PythonText

/-! ### White space -/

/-- `str.isspace` of one character. -/
def whitespace (c : Char) : Bool :=
  let n := c.toNat
  (9 ≤ n && n ≤ 13) || (28 ≤ n && n ≤ 32) || n == 0x85 || n == 0xa0 || n == 0x1680 || (0x2000 ≤ n && n ≤ 0x200a) ||
    n == 0x2028 || n == 0x2029 || n == 0x202f || n == 0x205f || n == 0x3000

/-- `str.strip`. -/
def strip (text : List Char) : List Char :=
  ((text.dropWhile whitespace).reverse.dropWhile whitespace).reverse

/-! ### Strings -/

/-- The last `width` hexadecimal digits of `n`. -/
def hexDigits (n : Nat) : Nat → List Char
  | 0 => []
  | width + 1 => hexDigits (n / 16) width ++ [(n % 16).digitChar]

/-- A character of a string between two `quote`s. -/
def escaped [UnicodeTables] (quote c : Char) : List Char :=
  let backslash := Char.ofNat 92
  let n := c.toNat
  if c = quote || c = backslash then [backslash, c]
  else if n = 10 then [backslash, 'n']
  else if n = 13 then [backslash, 'r']
  else if n = 9 then [backslash, 't']
  else if UnicodeTables.printable c then [c]
  else if n < 0x100 then backslash :: 'x' :: hexDigits n 2
  else if n < 0x10000 then backslash :: 'u' :: hexDigits n 4
  else backslash :: 'U' :: hexDigits n 8

/-- `repr` of a string: in single quotes, unless it has some and no double ones. -/
def repr [UnicodeTables] (text : String) : String :=
  let single := Char.ofNat 39
  let double := Char.ofNat 34
  let chars := text.toList
  let quote := if chars.contains single && !chars.contains double then double else single
  String.ofList (quote :: chars.flatMap (escaped quote) ++ [quote])

/-! ### Floats -/

/-- The digits of a number below one with its point moved by `point` places, a digit on either side of it. -/
def fixedPoint (digits : List Char) (point : Int) : List Char :=
  let whole := digits.take point.toNat ++ List.replicate (point.toNat - digits.length) '0'
  let fraction := List.replicate (-point).toNat '0' ++ digits.drop point.toNat
  (if whole = [] then ['0'] else whole) ++ '.' :: (if fraction = [] then ['0'] else fraction)

/-- The same number with its first digit before the point and an exponent of two digits or more. -/
def withExponent (digits : List Char) (point : Int) : List Char :=
  let exponent := point - 1
  let power := Nat.toDigits 10 exponent.natAbs
  digits.take 1 ++ (if digits.length = 1 then [] else '.' :: digits.drop 1) ++
    'e' :: (if exponent < 0 then '-' else '+') :: (List.replicate (2 - power.length) '0' ++ power)

/-- `repr` of the float `mantissa / 10 ^ places`, which has no shorter digits: with an exponent below `1e-4` and from
`1e16` on. -/
def reprFloat (mantissa : Int) (places : Nat) : String :=
  let written := Nat.toDigits 10 mantissa.natAbs
  let digits := (written.reverse.dropWhile (· = '0')).reverse
  let point : Int := written.length - places
  let sign := if mantissa < 0 then ['-'] else []
  if mantissa = 0 then "0.0"
  else if -4 < point ∧ point ≤ 16 then String.ofList (sign ++ fixedPoint digits point)
  else String.ofList (sign ++ withExponent digits point)

end PythonText
