import EngineExtension.Json.Numeral
import EngineExtension.Json.Str

/-!
# Values that nobody asked for

The value of an unknown key is taken without being read, however deep it is nested: `skipItems`
keeps the brackets that are open in a list. `wrongType` looks at a value that stands where another
was expected, far enough to say what it is.
-/

namespace EngineExtension.Json

/-- The two kinds of brackets. -/
inductive Bracket where
  | list
  | object
  deriving DecidableEq, Repr

namespace Bracket

/-- The character that closes a bracket. -/
def closer : Bracket → Char
  | list => ']'
  | object => '\x7d'

/-- The complaint about a text that ends inside. -/
def atEnd : Bracket → Cause
  | list => .endInList
  | object => .endInObject

/-- The complaint about something else than a separator. -/
def expectedSeparator : Bracket → Cause
  | list => .expectedListSeparator
  | object => .expectedObjectSeparator

end Bracket

/-! ## Skipping a value -/

/-- Takes the start of a value: a whole scalar, or an opening bracket. -/
def skipStart (cs : List Char) : Except Failure (Option Bracket × List Char) :=
  match skipBlanks cs with
  | [] => fail .endInValue []
  | 'n' :: rest => (expect ['u', 'l', 'l'] rest).map (none, ·)
  | 't' :: rest => (expect ['r', 'u', 'e'] rest).map (none, ·)
  | 'f' :: rest => (expect ['a', 'l', 's', 'e'] rest).map (none, ·)
  | '-' :: rest => (readNumeral .invalidNumber rest).map (none, ·.2)
  | '"' :: rest => (skipChars rest).map (none, ·)
  | '[' :: rest => .ok (some .list, rest)
  | '\x7b' :: rest => .ok (some .object, rest)
  | c :: rest =>
    if isDigit c then (readNumeral .invalidNumber (c :: rest)).map (none, ·.2)
    else failPast .expectedValue (c :: rest)

theorem eq_ok_of_map_eq_ok {α β : Type} {f : α → β} {x : Except Failure α} {b : β}
    (h : x.map f = .ok b) : ∃ a, x = .ok a ∧ f a = b := by
  cases x with
  | error e => cases h
  | ok a => exact ⟨a, rfl, Except.ok.inj h⟩

theorem length_of_skipStart {cs rest : List Char} {b : Option Bracket}
    (h : skipStart cs = .ok (b, rest)) : rest.length < cs.length := by
  unfold skipStart at h
  split at h
  · cases h
  · next hc =>
    obtain ⟨r, hr, he⟩ := eq_ok_of_map_eq_ok h
    cases he
    exact Nat.lt_of_le_of_lt (length_of_expect hr) (length_of_skipBlanks_eq hc)
  · next hc =>
    obtain ⟨r, hr, he⟩ := eq_ok_of_map_eq_ok h
    cases he
    exact Nat.lt_of_le_of_lt (length_of_expect hr) (length_of_skipBlanks_eq hc)
  · next hc =>
    obtain ⟨r, hr, he⟩ := eq_ok_of_map_eq_ok h
    cases he
    exact Nat.lt_of_le_of_lt (length_of_expect hr) (length_of_skipBlanks_eq hc)
  · next hc =>
    obtain ⟨⟨n, r⟩, hr, he⟩ := eq_ok_of_map_eq_ok h
    cases he
    exact Nat.lt_trans (length_of_readNumeral hr) (length_of_skipBlanks_eq hc)
  · next hc =>
    obtain ⟨r, hr, he⟩ := eq_ok_of_map_eq_ok h
    cases he
    exact Nat.lt_trans (length_of_skipChars hr) (length_of_skipBlanks_eq hc)
  · next hc =>
    cases h
    exact length_of_skipBlanks_eq hc
  · next hc =>
    cases h
    exact length_of_skipBlanks_eq hc
  · next hc =>
    split at h
    · obtain ⟨⟨n, r⟩, hr, he⟩ := eq_ok_of_map_eq_ok h
      cases he
      have := length_of_readNumeral hr
      rw [← hc] at this
      exact Nat.lt_of_lt_of_le this (length_skipBlanks cs)
    · cases h

/-- Takes a key and its colon. -/
def skipKey (cs : List Char) : Except Failure (List Char) :=
  match skipBlanks cs with
  | [] => fail .endInObject []
  | '"' :: rest =>
    match skipChars rest with
    | .error e => .error e
    | .ok rest => readColon rest
  | c :: rest => failPast .keyNotString (c :: rest)

theorem length_of_skipKey {cs rest : List Char} (h : skipKey cs = .ok rest) :
    rest.length < cs.length := by
  unfold skipKey at h
  split at h
  · cases h
  · next hc =>
    split at h
    · cases h
    · next hs =>
      have := length_of_skipChars hs
      have := length_of_readColon h
      have := length_of_skipBlanks_eq hc
      omega
  · cases h

/-- Takes the start of an item inside a bracket. -/
def skipItem (b : Bracket) (cs : List Char) : Except Failure (Option Bracket × List Char) :=
  match b with
  | .list => skipStart cs
  | .object =>
    match skipKey cs with
    | .error e => .error e
    | .ok rest => skipStart rest

theorem length_of_skipItem {b : Bracket} {cs rest : List Char} {o : Option Bracket}
    (h : skipItem b cs = .ok (o, rest)) : rest.length < cs.length := by
  unfold skipItem at h
  split at h
  · exact length_of_skipStart h
  · split at h
    · cases h
    · next hk =>
      have := length_of_skipKey hk
      have := length_of_skipStart h
      omega

/-- Takes the comma in front of an item, unless the item is the first of its bracket. -/
def skipSeparator (b : Bracket) (isFirst : Bool) (cs : List Char) : Except Failure (List Char) :=
  if isFirst then .ok cs
  else match cs with
    | ',' :: rest => .ok rest
    | _ => failPast b.expectedSeparator cs

theorem length_of_skipSeparator {b : Bracket} {isFirst : Bool} {cs rest : List Char}
    (h : skipSeparator b isFirst cs = .ok rest) : rest.length ≤ cs.length := by
  unfold skipSeparator at h
  split at h
  · cases h
    exact Nat.le_refl _
  · split at h
    · cases h
      exact Nat.le_succ _
    · cases h

/-- Takes what is left of the brackets that are open, the innermost first. The flag says whether
the innermost has just been opened. -/
def skipItems (brackets : List Bracket) (isFirst : Bool) (cs : List Char) :
    Except Failure (List Char) :=
  match brackets with
  | [] => .ok cs
  | b :: outer =>
    match _hc : skipBlanks cs with
    | [] => fail b.atEnd []
    | c :: rest =>
      if c = b.closer then skipItems outer false rest
      else match _hs : skipSeparator b isFirst (c :: rest) with
        | .error e => .error e
        | .ok rest =>
          match _hi : skipItem b rest with
          | .error e => .error e
          | .ok (none, rest) => skipItems (b :: outer) false rest
          | .ok (some inner, rest) => skipItems (inner :: b :: outer) true rest
termination_by cs.length
decreasing_by
  · exact length_of_skipBlanks_eq _hc
  · have := length_of_skipItem _hi
    have := length_of_skipSeparator _hs
    have := length_of_skipBlanks_eq _hc
    simp only [List.length_cons] at *
    omega
  · have := length_of_skipItem _hi
    have := length_of_skipSeparator _hs
    have := length_of_skipBlanks_eq _hc
    simp only [List.length_cons] at *
    omega

theorem length_of_skipItems {brackets : List Bracket} {isFirst : Bool} {cs rest : List Char}
    (h : skipItems brackets isFirst cs = .ok rest) : rest.length ≤ cs.length := by
  fun_induction skipItems brackets isFirst cs with
  | case1 => cases h; exact Nat.le_refl _
  | case2 => cases h
  | case3 isFirst cs b outer r hc ih =>
    exact Nat.le_trans (ih h) (Nat.le_of_lt (length_of_skipBlanks_eq hc))
  | case4 => cases h
  | case5 => cases h
  | case6 isFirst cs b outer c r hc hne r' hs r'' hi ih =>
    have := ih h
    have := length_of_skipItem hi
    have := length_of_skipSeparator hs
    have := length_of_skipBlanks_eq hc
    simp only [List.length_cons] at *
    omega
  | case7 isFirst cs b outer c r hc hne r' hs inner r'' hi ih =>
    have := ih h
    have := length_of_skipItem hi
    have := length_of_skipSeparator hs
    have := length_of_skipBlanks_eq hc
    simp only [List.length_cons] at *
    omega

/-- Takes a value without reading it. -/
def skipValue : Reader Unit where
  read cs :=
    match skipStart cs with
    | .error e => .error e
    | .ok (b, rest) => (skipItems b.toList true rest).map ((), ·)
  shorter h := by
    split at h
    · cases h
    · next hs =>
      obtain ⟨r, hr, he⟩ := eq_ok_of_map_eq_ok h
      cases he
      exact Nat.lt_of_le_of_lt (length_of_skipItems hr) (length_of_skipStart hs)

/-! ## Values of the wrong type -/

/-- What a value is, and the text after it. A list or an object is only recognised. -/
def lookAt (cs : List Char) : Except Failure (Found × List Char) :=
  match cs with
  | [] => fail .endInValue []
  | 'n' :: rest => (expect ['u', 'l', 'l'] rest).map (.null, ·)
  | 't' :: rest => (expect ['r', 'u', 'e'] rest).map (.bool true, ·)
  | 'f' :: rest => (expect ['a', 'l', 's', 'e'] rest).map (.bool false, ·)
  | '-' :: rest => readNumber true rest
  | '"' :: rest => (readString rest).map fun (s, rest) => (.string s, rest)
  | '[' :: _ => .ok (.list, cs)
  | '\x7b' :: _ => .ok (.object, cs)
  | c :: _ => if isDigit c then readNumber false cs else failPast .expectedValue cs

/-- The failure to find a wanted value at the front of a text. -/
def wrongType {α : Type} (wanted : Wanted) (cs : List Char) : Except Failure α :=
  match lookAt cs with
  | .error e => .error e
  | .ok (found, rest) => fail (.wrongType found wanted) rest

theorem wrongType_ne_ok {α : Type} {wanted : Wanted} {cs : List Char} {a : α} :
    wrongType wanted cs ≠ .ok a := by
  intro h
  unfold wrongType at h
  split at h <;> cases h

end EngineExtension.Json
