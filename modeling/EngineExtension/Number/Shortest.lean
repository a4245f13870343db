import EngineExtension.Number.Binary64

/-!
# Shortest decimal text

The text of a binary number has the fewest digits that read back as that number, and of those the
digits nearest to it. Numbers of usual size are written out, with a point; very large and very
small ones have one digit in front of the point and an exponent.

* `Decimal.shortest` — the digits;
* `Decimal.text` — the notation.
-/

namespace EngineExtension

/-- The number `digits * 10 ^ exponent`. -/
structure Decimal where
  digits : Nat
  exponent : Int
  deriving DecidableEq, Repr

namespace Decimal

/-- A power of ten as a fraction. -/
def powerOfTen (e : Int) : Nat × Nat := (Nat.pow 10 e.toNat, Nat.pow 10 (-e).toNat)

/-- A decimal as a fraction. -/
def toRatio (d : Decimal) : Nat × Nat :=
  let (up, down) := powerOfTen d.exponent
  (d.digits * up, down)

/-- The distance of two fractions, as a fraction. -/
def distance (a b : Nat × Nat) : Nat × Nat :=
  (max (a.1 * b.2) (b.1 * a.2) - min (a.1 * b.2) (b.1 * a.2), a.2 * b.2)

/-- Whether a decimal reads back as a given binary number. -/
def readsAs (d : Decimal) (x : Binary64) : Bool :=
  let (num, den) := d.toRatio
  Binary64.ofRatio num den == x

/-- The two decimals next to a binary number with a given exponent. -/
def neighbours (x : Binary64) (e : Int) : List Decimal :=
  let (num, den) := x.toRatio
  let (up, down) := powerOfTen e
  let below := num * down / (den * up)
  [⟨below, e⟩, ⟨below + 1, e⟩]

/-- The nearer of two decimals; of two equally near ones the even one. -/
def nearer (x : Binary64) (a b : Decimal) : Decimal :=
  let da := distance a.toRatio x.toRatio
  let db := distance b.toRatio x.toRatio
  if da.1 * db.2 < db.1 * da.2 || (da.1 * db.2 == db.1 * da.2 && a.digits % 2 == 0) then a else b

/-- The nearest decimal with a given exponent that reads back, if there is one. -/
def candidate? (x : Binary64) (e : Int) : Option Decimal :=
  match (neighbours x e).filter (·.readsAs x) with
  | [] => none
  | d :: ds => some (ds.foldl (nearer x) d)

/-- The position of the first decimal digit of a positive fraction: the greatest `e` with
`10 ^ e` at most the fraction. -/
def leadingExponent (num den : Nat) : Int :=
  if num ≥ den then ((Nat.toDigits 10 (num / den)).length : Int) - 1
  else -((Nat.toDigits 10 ((den - 1) / num)).length : Int)

/-- The shortest decimal that reads back. Seventeen digits always do. The search starts with the
power of ten above the number, which is one digit if it reads back. -/
def shortest (x : Binary64) : Decimal :=
  if x.mantissa = 0 then ⟨0, 0⟩
  else
    let (num, den) := x.toRatio
    let top := leadingExponent num den
    let exponents : List Int := (List.range 18).map fun (k : Nat) => top + 1 - k
    (exponents.findSome? (candidate? x)).getD ⟨num / den, 0⟩

/-! ## Notation -/

/-- The greatest number of digits that are written out in front of the point. -/
def mostWholeDigits : Int := 16

/-- The greatest number of zeros that are written out behind the point, in front of the digits. -/
def mostLeadingZeros : Int := 4

/-- Digits written out, with a point before the last `places` of them. -/
def positional (digits : List Char) (places : Nat) : String :=
  let padded := List.replicate (places + 1 - digits.length) '0' ++ digits
  let whole := padded.length - places
  String.ofList (padded.take whole) ++ "." ++ String.ofList (padded.drop whole)

/-- The exponent of ten with its sign. -/
def exponentText (e : Int) : String :=
  (if e < 0 then "-" else "+") ++ toString e.natAbs

/-- Digits with a point behind the first, and an exponent. -/
def scientific (digits : List Char) (e : Int) : String :=
  String.ofList (digits.take 1) ++ (if digits.length ≤ 1 then "" else ".") ++
    String.ofList (digits.drop 1) ++ "e" ++ exponentText e

/-- The text of a decimal. -/
def text (d : Decimal) : String :=
  let digits := Nat.toDigits 10 d.digits
  let whole : Int := digits.length + d.exponent
  if whole < -mostLeadingZeros || mostWholeDigits < whole then scientific digits (whole - 1)
  else if 0 ≤ d.exponent then positional (digits ++ List.replicate (d.exponent.toNat + 1) '0') 1
  else positional digits (-d.exponent).toNat

end Decimal

/-- The shortest text of a binary number. -/
def Binary64.text (x : Binary64) : String := (Decimal.shortest x).text

end EngineExtension
