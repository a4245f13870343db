import EngineExtension.Json.Scan

/-!
# Strings

A string stands between double quotes. Inside it a backslash starts an escape; characters beyond
the first plane are escaped as two halves, each of four hexadecimal digits. Control characters may
not stand in a string.

`readChars` reads a string for its content. `skipChars` only looks for its end, and so lets halves
without a partner pass.
-/

namespace EngineExtension.Json

/-! ## Escapes -/

/-- The value of a hexadecimal digit. -/
def hexValue? (c : Char) : Option Nat :=
  if '0' ≤ c ∧ c ≤ '9' then some (c.toNat - '0'.toNat)
  else if 'a' ≤ c ∧ c ≤ 'f' then some (c.toNat - 'a'.toNat + 10)
  else if 'A' ≤ c ∧ c ≤ 'F' then some (c.toNat - 'A'.toNat + 10)
  else none

/-- Stops at something that is not four hexadecimal digits: behind four bytes, or at the end of
the text if there are fewer. -/
def failHex {α : Type} (cs : List Char) : Except Failure α :=
  if byteCount cs < 4 then .error ⟨.endInString, 0⟩
  else .error ⟨.invalidEscape, byteCount cs - 4⟩

/-- Reads four hexadecimal digits. -/
def readHex4 (cs : List Char) : Except Failure (Nat × List Char) :=
  match cs with
  | a :: b :: c :: d :: rest =>
    match hexValue? a, hexValue? b, hexValue? c, hexValue? d with
    | some a, some b, some c, some d => .ok (((a * 16 + b) * 16 + c) * 16 + d, rest)
    | _, _, _, _ => failHex cs
  | _ => failHex cs

theorem length_of_readHex4 {cs rest : List Char} {n : Nat} (h : readHex4 cs = .ok (n, rest)) :
    rest.length < cs.length := by
  unfold readHex4 at h
  split at h
  · split at h
    · cases h
      simp only [List.length_cons]
      omega
    · unfold failHex at h
      split at h <;> cases h
  · unfold failHex at h
    split at h <;> cases h

/-- Whether a number is the first half of a character beyond the first plane. -/
def isHighSurrogate (n : Nat) : Bool := 0xD800 ≤ n && n ≤ 0xDBFF

/-- Whether a number is the second half of a character beyond the first plane. -/
def isLowSurrogate (n : Nat) : Bool := 0xDC00 ≤ n && n ≤ 0xDFFF

/-- The character with two given halves. -/
def combineSurrogates (high low : Nat) : Char :=
  Char.ofNat ((high - 0xD800) * 0x400 + (low - 0xDC00) + 0x10000)

/-- Reads the second half of a character, after its first half `high`. -/
def readLowSurrogate (high : Nat) (cs : List Char) : Except Failure (Char × List Char) :=
  match cs with
  | [] => fail .endInString []
  | '\\' :: [] => fail .endInString []
  | '\\' :: 'u' :: rest =>
    match readHex4 rest with
    | .error e => .error e
    | .ok (low, rest) =>
      if isLowSurrogate low then .ok (combineSurrogates high low, rest)
      else fail .loneSurrogate rest
  | '\\' :: c :: rest => failPast .brokenSurrogatePair (c :: rest)
  | c :: rest => failPast .brokenSurrogatePair (c :: rest)

/-- Reads the digits of a numeric escape. -/
def readCodePoint (cs : List Char) : Except Failure (Char × List Char) :=
  match readHex4 cs with
  | .error e => .error e
  | .ok (n, rest) =>
    if isLowSurrogate n then fail .loneSurrogate rest
    else if isHighSurrogate n then readLowSurrogate n rest
    else .ok (Char.ofNat n, rest)

/-- The character that a letter after a backslash stands for. -/
def shortEscape? : Char → Option Char
  | '"' => some '"'
  | '\\' => some '\\'
  | '/' => some '/'
  | 'b' => some '\x08'
  | 'f' => some '\x0c'
  | 'n' => some '\n'
  | 'r' => some '\r'
  | 't' => some '\t'
  | _ => none

/-- Reads an escape after its backslash. -/
def readEscape (cs : List Char) : Except Failure (Char × List Char) :=
  match cs with
  | [] => fail .endInString []
  | 'u' :: rest => readCodePoint rest
  | c :: rest =>
    match shortEscape? c with
    | some e => .ok (e, rest)
    | none => failPast .invalidEscape (c :: rest)

theorem length_of_readLowSurrogate {high : Nat} {cs rest : List Char} {c : Char}
    (h : readLowSurrogate high cs = .ok (c, rest)) : rest.length < cs.length := by
  unfold readLowSurrogate at h
  split at h
  · cases h
  · cases h
  · split at h
    · cases h
    · next hd =>
      have := length_of_readHex4 hd
      split at h
      · rw [Except.ok.injEq, Prod.mk.injEq] at h
        obtain ⟨_, rfl⟩ := h
        simp only [List.length_cons]
        omega
      · cases h
  · cases h
  · cases h

theorem length_of_readCodePoint {cs rest : List Char} {c : Char}
    (h : readCodePoint cs = .ok (c, rest)) : rest.length < cs.length := by
  unfold readCodePoint at h
  split at h
  · cases h
  · next hd =>
    have := length_of_readHex4 hd
    split at h
    · cases h
    · split at h
      · have := length_of_readLowSurrogate h
        omega
      · rw [Except.ok.injEq, Prod.mk.injEq] at h
        obtain ⟨_, rfl⟩ := h
        exact this

theorem length_of_readEscape {cs rest : List Char} {c : Char}
    (h : readEscape cs = .ok (c, rest)) : rest.length < cs.length := by
  unfold readEscape at h
  split at h
  · cases h
  · have := length_of_readCodePoint h
    simp only [List.length_cons]
    omega
  · split at h
    · cases h
      exact Nat.lt_succ_self _
    · cases h

/-! ## Whole strings -/

/-- Whether a character may not stand in a string as it is. -/
def isControl (c : Char) : Bool := c.toNat < 0x20

/-- Reads a string after its opening quote; `taken` has the characters so far, the last first. -/
def readChars (taken cs : List Char) : Except Failure (List Char × List Char) :=
  match cs with
  | [] => fail .endInString []
  | '"' :: rest => .ok (taken.reverse, rest)
  | '\\' :: rest =>
    match _h : readEscape rest with
    | .error e => .error e
    | .ok (c, rest) => readChars (c :: taken) rest
  | c :: rest =>
    if isControl c then failPast .controlCharacter (c :: rest) else readChars (c :: taken) rest
termination_by cs.length
decreasing_by
  · have := length_of_readEscape _h
    simp only [List.length_cons]
    omega
  · exact Nat.lt_succ_self _

theorem length_of_readChars {taken cs rest s : List Char}
    (h : readChars taken cs = .ok (s, rest)) : rest.length < cs.length := by
  fun_induction readChars taken cs with
  | case1 => cases h
  | case2 => cases h; exact Nat.lt_succ_self _
  | case3 => cases h
  | case4 taken rest' c rest'' he ih =>
    have := length_of_readEscape he
    have := ih h
    simp only [List.length_cons]
    omega
  | case5 => cases h
  | case6 taken c rest' _ _ _ ih =>
    have := ih h
    simp only [List.length_cons]
    omega

/-- Reads a string after its opening quote. -/
def readString (cs : List Char) : Except Failure (String × List Char) :=
  match readChars [] cs with
  | .error e => .error e
  | .ok (s, rest) => .ok (String.ofList s, rest)

theorem length_of_readString {cs rest : List Char} {s : String}
    (h : readString cs = .ok (s, rest)) : rest.length < cs.length := by
  unfold readString at h
  split at h
  · cases h
  · next hs =>
    cases h
    exact length_of_readChars hs

/-! ## Skipping -/

/-- Takes an escape after its backslash without reading it. -/
def skipEscape (cs : List Char) : Except Failure (List Char) :=
  match cs with
  | [] => fail .endInString []
  | 'u' :: rest =>
    match readHex4 rest with
    | .error e => .error e
    | .ok (_, rest) => .ok rest
  | c :: rest =>
    match shortEscape? c with
    | some _ => .ok rest
    | none => failPast .invalidEscape (c :: rest)

theorem length_of_skipEscape {cs rest : List Char} (h : skipEscape cs = .ok rest) :
    rest.length < cs.length := by
  unfold skipEscape at h
  split at h
  · cases h
  · split at h
    · cases h
    · next hd =>
      have := length_of_readHex4 hd
      cases h
      simp only [List.length_cons]
      omega
  · split at h
    · cases h
      exact Nat.lt_succ_self _
    · cases h

/-- Takes a string after its opening quote without reading it. -/
def skipChars (cs : List Char) : Except Failure (List Char) :=
  match cs with
  | [] => fail .endInString []
  | '"' :: rest => .ok rest
  | '\\' :: rest =>
    match _h : skipEscape rest with
    | .error e => .error e
    | .ok rest => skipChars rest
  | c :: rest => if isControl c then fail .controlCharacter (c :: rest) else skipChars rest
termination_by cs.length
decreasing_by
  · have := length_of_skipEscape _h
    simp only [List.length_cons]
    omega
  · exact Nat.lt_succ_self _

theorem length_of_skipChars {cs rest : List Char} (h : skipChars cs = .ok rest) :
    rest.length < cs.length := by
  fun_induction skipChars cs with
  | case1 => cases h
  | case2 => cases h; exact Nat.lt_succ_self _
  | case3 => cases h
  | case4 rest' rest'' he ih =>
    have := length_of_skipEscape he
    have := ih h
    simp only [List.length_cons]
    omega
  | case5 => cases h
  | case6 c rest' _ _ _ ih =>
    have := ih h
    simp only [List.length_cons]
    omega

end EngineExtension.Json
