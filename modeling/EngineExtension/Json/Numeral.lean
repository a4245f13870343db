import EngineExtension.Json.Scan

/-!
# Numbers

A numeral has whole digits, and may have a fraction and an exponent. Its value is an integer if it
is written as one and fits in sixty-four bits; every other numeral is a binary number, or too large
for one.

The binary number is found in two roundings: as many leading digits as fit in sixty-four bits make
a whole number, which is then multiplied or divided by a power of ten.
-/

namespace EngineExtension.Json

/-- A written number without its sign. -/
structure Numeral where
  whole : List Char
  /-- digits after the point; none if there is no point -/
  fraction : List Char := []
  /-- whether the exponent is negative, and its digits -/
  exponent : Option (Bool × List Char) := none
  deriving DecidableEq, Repr

/-- Whether a character is a decimal digit. -/
def isDigit (c : Char) : Bool := '0' ≤ c && c ≤ '9'

/-- The value of a decimal digit. -/
def digitValue (c : Char) : Nat := c.toNat - '0'.toNat

/-! ## Reading -/

/-- Takes one digit or more. `atEnd` is the complaint about a text that ends instead. -/
def readDigits (atEnd : Cause) (cs : List Char) : Except Failure (List Char × List Char) :=
  match cs with
  | [] => fail atEnd []
  | c :: rest =>
    if isDigit c then .ok (c :: rest.takeWhile isDigit, rest.dropWhile isDigit)
    else failPast .invalidNumber (c :: rest)

/-- Takes the whole digits of a number. A zero is not followed by further digits. -/
def readWhole (atEnd : Cause) (cs : List Char) : Except Failure (List Char × List Char) :=
  match cs with
  | '0' :: d :: rest =>
    if isDigit d then failPast .invalidNumber (d :: rest) else .ok (['0'], d :: rest)
  | _ => readDigits atEnd cs

/-- Takes a fraction, if there is a point. -/
def readFraction (atEnd : Cause) (cs : List Char) : Except Failure (List Char × List Char) :=
  match cs with
  | '.' :: rest => readDigits atEnd rest
  | _ => .ok ([], cs)

/-- Takes the sign of an exponent, if there is one; the flag says whether it is a minus. -/
def readSign (cs : List Char) : Bool × List Char :=
  match cs with
  | '+' :: rest => (false, rest)
  | '-' :: rest => (true, rest)
  | _ => (false, cs)

/-- Takes an exponent, if there is one. -/
def readExponent (atEnd : Cause) (cs : List Char) :
    Except Failure (Option (Bool × List Char) × List Char) :=
  match cs with
  | [] => .ok (none, [])
  | c :: rest =>
    if c = 'e' ∨ c = 'E' then
      match readDigits atEnd (readSign rest).2 with
      | .error e => .error e
      | .ok (digits, after) => .ok (some ((readSign rest).1, digits), after)
    else .ok (none, c :: rest)

/-- Takes a number after its sign. -/
def readNumeral (atEnd : Cause) (cs : List Char) : Except Failure (Numeral × List Char) :=
  match readWhole atEnd cs with
  | .error e => .error e
  | .ok (whole, rest) =>
    match readFraction atEnd rest with
    | .error e => .error e
    | .ok (fraction, rest) =>
      match readExponent atEnd rest with
      | .error e => .error e
      | .ok (exponent, rest) => .ok (⟨whole, fraction, exponent⟩, rest)

/-! ## Lengths -/

theorem length_of_readDigits {atEnd : Cause} {cs ds rest : List Char}
    (h : readDigits atEnd cs = .ok (ds, rest)) : rest.length < cs.length := by
  unfold readDigits at h
  split at h
  · cases h
  · split at h
    · cases h
      exact Nat.lt_succ_of_le (List.dropWhile_sublist _).length_le
    · cases h

theorem length_of_readWhole {atEnd : Cause} {cs ds rest : List Char}
    (h : readWhole atEnd cs = .ok (ds, rest)) : rest.length < cs.length := by
  unfold readWhole at h
  split at h
  · split at h
    · cases h
    · cases h
      exact Nat.lt_succ_self _
  · exact length_of_readDigits h

theorem length_of_readFraction {atEnd : Cause} {cs ds rest : List Char}
    (h : readFraction atEnd cs = .ok (ds, rest)) : rest.length ≤ cs.length := by
  unfold readFraction at h
  split at h
  · exact Nat.le_succ_of_le (Nat.le_of_lt (length_of_readDigits h))
  · cases h
    exact Nat.le_refl _

theorem length_readSign (cs : List Char) : (readSign cs).2.length ≤ cs.length := by
  unfold readSign
  split <;> simp

theorem length_of_readExponent {atEnd : Cause} {cs rest : List Char}
    {e : Option (Bool × List Char)} (h : readExponent atEnd cs = .ok (e, rest)) :
    rest.length ≤ cs.length := by
  unfold readExponent at h
  split at h
  · cases h
    exact Nat.le_refl _
  · next c tail =>
    split at h
    · split at h
      · cases h
      · next hd =>
        cases h
        have := length_of_readDigits hd
        have := length_readSign tail
        simp only [List.length_cons]
        omega
    · cases h
      exact Nat.le_refl _

theorem length_of_readNumeral {atEnd : Cause} {cs rest : List Char} {n : Numeral}
    (h : readNumeral atEnd cs = .ok (n, rest)) : rest.length < cs.length := by
  unfold readNumeral at h
  split at h
  · cases h
  · next hw =>
    split at h
    · cases h
    · next hf =>
      split at h
      · cases h
      · next he =>
        cases h
        have := length_of_readWhole hw
        have := length_of_readFraction hf
        have := length_of_readExponent he
        omega

/-! ## Values -/

/-- The number that digits write. -/
def digitsValue (ds : List Char) : Nat := ds.foldl (fun n d => n * 10 + digitValue d) 0

/-- The least number that needs more than sixty-four bits. -/
def wordBound : Nat := 0x10000000000000000

/-- Appends digits to a number while it fits in sixty-four bits, and gives back those left over. -/
def appendFitting (n : Nat) : List Char → Nat × List Char
  | [] => (n, [])
  | d :: ds =>
    if n * 10 + digitValue d < wordBound then appendFitting (n * 10 + digitValue d) ds
    else (n, d :: ds)

/-- The greatest power of ten that a number is multiplied or divided by at once. -/
def greatestPower : Nat := 308

/-- Multiplies a number by a power of ten, unless the result is too large. -/
def scale (x : Binary64) (e : Int) : Option Binary64 :=
  if x.mantissa = 0 then some x
  else if 0 ≤ e then
    if e.toNat ≤ greatestPower then
      let y := x.mul (.tenPow e.toNat)
      if y.isInfinite then none else some y
    else none
  else if (-e).toNat ≤ greatestPower then some (x.div (.tenPow (-e).toNat))
  else scale (x.div (.tenPow greatestPower)) (e + greatestPower)
termination_by (-e).toNat
decreasing_by
  simp only [greatestPower] at *
  omega

namespace Numeral

/-- The power of ten that an exponent names. -/
def power (n : Numeral) : Int :=
  match n.exponent with
  | none => 0
  | some (true, ds) => -(digitsValue ds : Int)
  | some (false, ds) => digitsValue ds

/-- The binary number for a numeral, unless it is too large. -/
def toBinary? (n : Numeral) : Option Binary64 :=
  let (head, dropped) := appendFitting 0 n.whole
  let (significand, ignored) := appendFitting head n.fraction
  let places : Int := n.fraction.length - ignored.length
  scale (.ofNat significand) (dropped.length - places + n.power)

/-- The value of a numeral, unless it is too large. An integer needs sixty-four bits at most, and
a negative one is not zero. -/
def value? (n : Numeral) (negative : Bool) : Option Found :=
  let k := digitsValue n.whole
  let fits := if negative then 0 < k && 2 * k ≤ wordBound else k < wordBound
  if n.fraction.isEmpty && n.exponent.isNone && fits then
    some (.integer (if negative then -(k : Int) else k))
  else n.toBinary?.map (.real negative)

/-- The digits of an exponent behind the one that takes it beyond thirty-one bits. -/
def excess (n : Nat) : List Char → List Char
  | [] => []
  | d :: ds => if n * 10 + digitValue d < 0x80000000 then excess (n * 10 + digitValue d) ds else ds

/-- The digits that are not looked at when a numeral is found to be too large. -/
def unread (n : Numeral) : List Char :=
  match n.exponent with
  | none => []
  | some (_, ds) => excess 0 ds

end Numeral

/-- Reads a number after its sign. -/
def readNumber (negative : Bool) (cs : List Char) : Except Failure (Found × List Char) :=
  match readNumeral .endInValue cs with
  | .error e => .error e
  | .ok (n, rest) =>
    match n.value? negative with
    | some found => .ok (found, rest)
    | none => fail .numberTooLarge (n.unread ++ rest)

end EngineExtension.Json
