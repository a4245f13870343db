/-!
# Numbers of sixty-four bits

Binary floating point with 53 bits of precision, in exact arithmetic: a `Binary64` is a mantissa
and a power of two, and every operation rounds the exact result to the nearest number, a tie to
the even mantissa.
-/

namespace EngineExtension

/-- The number `mantissa * 2 ^ exponent`, without a sign. -/
structure Binary64 where
  mantissa : Nat
  exponent : Int
  deriving DecidableEq, Repr

namespace Binary64

/-- Number of bits of a full mantissa. -/
def precision : Nat := 53

/-- The least full mantissa. -/
def fullMantissa : Nat := Nat.pow 2 (precision - 1)

/-- The least exponent. -/
def leastExponent : Int := -1074

/-- The greatest exponent of a finite number. -/
def greatestExponent : Int := 971

/-- Whether a number is beyond all finite ones. -/
def isInfinite (x : Binary64) : Bool := x.exponent > greatestExponent

/-- A power of two as a fraction. -/
def powerOfTwo (e : Int) : Nat × Nat := (Nat.pow 2 e.toNat, Nat.pow 2 (-e).toNat)

/-- The whole number nearest to a fraction, the even one of two. -/
def roundDiv (num den : Nat) : Nat :=
  let q := num / den
  let r := num % den
  if 2 * r > den || (2 * r == den && q % 2 == 1) then q + 1 else q

/-- The number nearest to a fraction. -/
def ofRatio (num den : Nat) : Binary64 :=
  if num = 0 then ⟨0, leastExponent⟩
  else
    let scaled (e : Int) : Nat × Nat :=
      let (up, down) := powerOfTwo e
      (num * down, den * up)
    let guess : Int := num.log2 - den.log2 - (precision - 1)
    let (n, d) := scaled guess
    let e := max leastExponent (if n / d < fullMantissa then guess - 1 else guess)
    let (n, d) := scaled e
    let m := roundDiv n d
    if m = 2 * fullMantissa then ⟨fullMantissa, e + 1⟩ else ⟨m, e⟩

/-- The number nearest to a whole number. -/
def ofNat (n : Nat) : Binary64 := ofRatio n 1

/-- A number as a fraction. -/
def toRatio (x : Binary64) : Nat × Nat :=
  let (up, down) := powerOfTwo x.exponent
  (x.mantissa * up, down)

/-- The rounded product. -/
def mul (x y : Binary64) : Binary64 :=
  let (a, b) := x.toRatio
  let (c, d) := y.toRatio
  ofRatio (a * c) (b * d)

/-- The rounded quotient. -/
def div (x y : Binary64) : Binary64 :=
  let (a, b) := x.toRatio
  let (c, d) := y.toRatio
  ofRatio (a * d) (b * c)

/-- The number nearest to a power of ten. -/
def tenPow (n : Nat) : Binary64 := ofNat (Nat.pow 10 n)

end Binary64

end EngineExtension
