import EngineExtension.Json.Quote
import EngineExtension.Json.Skip

/-!
# How values are written

A configuration comes as a text, and one and the same value can be written in many ways: with blanks
or without, with escapes or without. This module says which texts stand for which values, and it
says so without reading anything.

* `Value` — null, truth values, integers, strings, and lists and objects of any nesting;
* `Value.tokens` — the parts of a text for a value: brackets, commas, colons and scalars;
* `Spells` — the ways to write one character of a string; `Token.Written` — one token;
* `Spaced` — a text for a row of tokens, with any blanks around them;
* `spaced_spread` — every row of tokens has a text.
-/

namespace EngineExtension.Json

/-! ## Values and their tokens -/

/-- A value that a text can stand for. -/
inductive Value where
  | null
  | bool (b : Bool)
  | integer (n : Int)
  | string (s : String)
  | list (items : List Value)
  /-- keys and values, in the order in which they stand; a key may stand there twice -/
  | object (members : List (String × Value))

/-- A part of a text that no blank may divide. -/
inductive Token where
  | opens (b : Bracket)
  | closes (b : Bracket)
  | comma
  | colon
  | null
  | bool (b : Bool)
  | integer (n : Int)
  | string (s : String)

mutual

/-- The tokens of a value. -/
def Value.tokens : Value → List Token
  | .null => [.null]
  | .bool b => [.bool b]
  | .integer n => [.integer n]
  | .string s => [.string s]
  | .list items => .opens .list :: (itemTokens items).tail ++ [.closes .list]
  | .object members => .opens .object :: (memberTokens members).tail ++ [.closes .object]

/-- The tokens of the items of a list, each with a comma in front of it. The list itself has no
comma in front of its first item. -/
def itemTokens : List Value → List Token
  | [] => []
  | v :: items => .comma :: v.tokens ++ itemTokens items

/-- The tokens of the members of an object, each with a comma in front of it. -/
def memberTokens : List (String × Value) → List Token
  | [] => []
  | (key, v) :: members => .comma :: .string key :: .colon :: v.tokens ++ memberTokens members

end

/-- The tokens of parts, each with a comma in front of it. -/
def listed (parts : List (List Token)) : List Token := parts.flatMap (.comma :: ·)

theorem listed_cons (p : List Token) (parts : List (List Token)) (ts : List Token) :
    listed (p :: parts) ++ ts = .comma :: (p ++ (listed parts ++ ts)) := by
  simp [listed]

theorem tail_listed_cons (p : List Token) (parts : List (List Token)) (ts : List Token) :
    (listed (p :: parts)).tail ++ ts = p ++ (listed parts ++ ts) := by
  simp [listed]

/-- The tokens of a member of an object. -/
def memberPart (m : String × Value) : List Token := .string m.1 :: .colon :: m.2.tokens

/-- The items of a list are listed. -/
theorem itemTokens_eq (items : List Value) :
    itemTokens items = listed (items.map Value.tokens) := by
  induction items with
  | nil => rfl
  | cons v items ih =>
    rw [itemTokens, ih]
    rfl

/-- The members of an object are listed, each as a key, a colon and a value. -/
theorem memberTokens_eq (members : List (String × Value)) :
    memberTokens members = listed (members.map memberPart) := by
  induction members with
  | nil => rfl
  | cons m members ih =>
    rw [memberTokens, ih]
    rfl

/-- To show something of all values, show it of lists and objects whose parts have it. -/
theorem Value.induction {P : Value → Prop} (null : P .null) (bool : ∀ b, P (.bool b))
    (integer : ∀ n, P (.integer n)) (string : ∀ s, P (.string s))
    (list : ∀ items, (∀ v ∈ items, P v) → P (.list items))
    (object : ∀ members, (∀ m ∈ members, P m.2) → P (.object members)) : ∀ v, P v
  | .null => null
  | .bool b => bool b
  | .integer n => integer n
  | .string s => string s
  | .list items => list items fun v _ => Value.induction null bool integer string list object v
  | .object members =>
    object members fun m _ => Value.induction null bool integer string list object m.2
decreasing_by
  · next hv =>
    have := List.sizeOf_lt_of_mem hv
    simp only [Value.list.sizeOf_spec]
    omega
  · next hm =>
    have hsize := List.sizeOf_lt_of_mem hm
    obtain ⟨key, v⟩ := m
    simp only [Prod.mk.sizeOf_spec, Value.object.sizeOf_spec] at hsize ⊢
    omega

/-! ## How tokens are written -/

/-- A character that counts as a hexadecimal digit of value `n`. -/
def IsHexDigit (d : Char) (n : Nat) : Prop :=
  ['0', '1', '2', '3', '4', '5', '6', '7', '8', '9', 'a', 'b', 'c', 'd', 'e', 'f'][n]? = some d ∨
    ['0', '1', '2', '3', '4', '5', '6', '7', '8', '9', 'A', 'B', 'C', 'D', 'E', 'F'][n]? = some d

/-- Four hexadecimal digits that make up a number. -/
inductive IsHex4 : List Char → Nat → Prop where
  | digits {a b c d : Char} {i j k l : Nat} (ha : IsHexDigit a i) (hb : IsHexDigit b j)
    (hc : IsHexDigit c k) (hd : IsHexDigit d l) :
    IsHex4 [a, b, c, d] (i * 0x1000 + j * 0x100 + k * 0x10 + l)

/-- The letters that can follow a backslash, and what they then stand for. -/
def escapeLetters : List (Char × Char) :=
  [('"', '"'), ('\\', '\\'), ('/', '/'), ('b', '\x08'), ('f', '\x0c'), ('n', '\n'), ('r', '\r'),
    ('t', '\t')]

/-- The ways to write a character in a string. -/
inductive Spells : Char → List Char → Prop where
  /-- as it is, unless it is a quote, a backslash or a control character -/
  | plain {c : Char} (hquote : c ≠ '"') (hslash : c ≠ '\\') (hcontrol : 0x20 ≤ c.toNat) :
    Spells c [c]
  /-- by a letter -/
  | letter {l c : Char} (h : (l, c) ∈ escapeLetters) : Spells c ['\\', l]
  /-- by its number -/
  | number {c : Char} {ds : List Char} (h : IsHex4 ds c.toNat) : Spells c ('\\' :: 'u' :: ds)
  /-- by the numbers of its two halves, if it is beyond the first plane -/
  | halves {c : Char} {hs ls : List Char} {high low : Nat} (hh : IsHex4 hs high)
    (hl : IsHex4 ls low) (hhigh : 0xD800 ≤ high ∧ high ≤ 0xDBFF)
    (hlow : 0xDC00 ≤ low ∧ low ≤ 0xDFFF)
    (hc : c.toNat = (high - 0xD800) * 0x400 + (low - 0xDC00) + 0x10000) :
    Spells c ('\\' :: 'u' :: hs ++ '\\' :: 'u' :: ls)

/-- The ways to write the characters of a string. -/
inductive SpellsAll : List Char → List Char → Prop where
  | nil : SpellsAll [] []
  | cons {c : Char} {s w ws : List Char} (h : Spells c w) (rest : SpellsAll s ws) :
    SpellsAll (c :: s) (w ++ ws)

/-- The character that opens a bracket. -/
def Bracket.opener : Bracket → Char
  | list => '['
  | object => '\x7b'

/-- The ways to write a token. -/
inductive Token.Written : Token → List Char → Prop where
  | opens (b : Bracket) : Written (.opens b) [b.opener]
  | closes (b : Bracket) : Written (.closes b) [b.closer]
  | comma : Written .comma [',']
  | colon : Written .colon [':']
  | null : Written .null ['n', 'u', 'l', 'l']
  | yes : Written (.bool true) ['t', 'r', 'u', 'e']
  | no : Written (.bool false) ['f', 'a', 'l', 's', 'e']
  /-- in decimal digits -/
  | natural (n : Nat) : Written (.integer n) (Nat.toDigits 10 n)
  /-- in decimal digits after a minus, zero included -/
  | negative (n : Nat) : Written (.integer (-n)) ('-' :: Nat.toDigits 10 n)
  | string {s : String} {ws : List Char} (h : SpellsAll s.toList ws) :
    Written (.string s) ('"' :: ws ++ ['"'])

/-! ## How texts are written -/

/-- Nothing but blanks. -/
def AllBlank (cs : List Char) : Prop := ∀ c ∈ cs, c = ' ' ∨ c = '\t' ∨ c = '\n' ∨ c = '\r'

/-- The texts of a row of tokens: one token after the other, and blanks wherever there is none. -/
inductive Spaced : List Token → List Char → Prop where
  | nil {cs : List Char} (h : AllBlank cs) : Spaced [] cs
  | cons {t : Token} {ts : List Token} {blanks w rest : List Char} (hblanks : AllBlank blanks)
    (hw : t.Written w) (hrest : Spaced ts rest) : Spaced (t :: ts) (blanks ++ (w ++ rest))

/-- A text for a value. -/
def Value.WrittenAs (v : Value) (text : String) : Prop := Spaced v.tokens text.toList

/-! ## A text for every value -/

theorem isHexDigit_hexDigit {n : Nat} (h : n < 16) : IsHexDigit (hexDigit n) n := by
  revert n
  simp only [IsHexDigit]
  decide

/-- An escape is one of the ways to write a character. -/
theorem spells_escapeChar (c : Char) : Spells c (escapeChar c) := by
  rw [escapeChar]
  -- seven characters have a letter of their own
  iterate 7
    split
    · next h =>
      subst h
      exact .letter (by decide)
  split
  · next h =>
    have hzero : IsHexDigit '0' 0 := .inl rfl
    have hvalue : 0 * 0x1000 + 0 * 0x100 + c.toNat / 16 * 0x10 + c.toNat % 16 = c.toNat := by omega
    have hdigits := IsHex4.digits hzero hzero
      (isHexDigit_hexDigit (n := c.toNat / 16) (by omega))
      (isHexDigit_hexDigit (n := c.toNat % 16) (by omega))
    rw [hvalue] at hdigits
    exact .number hdigits
  · next hquote hslash _ _ _ _ _ hcontrol => exact .plain hquote hslash (by omega)

/-- Escaping each character spells the string. -/
theorem spellsAll_escape (cs : List Char) : SpellsAll cs (cs.flatMap escapeChar) := by
  induction cs with
  | nil => exact .nil
  | cons c cs ih => exact .cons (spells_escapeChar c) ih

/-- One way to write a token: strings with escapes only where they are needed. -/
def Token.text : Token → List Char
  | opens b => [b.opener]
  | closes b => [b.closer]
  | comma => [',']
  | colon => [':']
  | null => ['n', 'u', 'l', 'l']
  | bool true => ['t', 'r', 'u', 'e']
  | bool false => ['f', 'a', 'l', 's', 'e']
  | integer (.ofNat n) => Nat.toDigits 10 n
  | integer (.negSucc n) => '-' :: Nat.toDigits 10 (n + 1)
  | string s => quote s

theorem Token.written_text (t : Token) : t.Written t.text := by
  match t with
  | opens b => exact .opens b
  | closes b => exact .closes b
  | comma => exact .comma
  | colon => exact .colon
  | null => exact .null
  | bool true => exact .yes
  | bool false => exact .no
  | integer (.ofNat n) => exact .natural n
  | integer (.negSucc n) => exact .negative (n + 1)
  | string s => exact .string (spellsAll_escape s.toList)

/-- **Every row of tokens has a text**, for instance with the same blanks in front of each token. -/
theorem spaced_spread {blanks : List Char} (h : AllBlank blanks) (ts : List Token) :
    Spaced ts (ts.flatMap fun t => blanks ++ t.text) := by
  induction ts with
  | nil => exact .nil (List.forall_mem_nil _)
  | cons t ts ih =>
    rw [List.flatMap_cons, List.append_assoc]
    exact .cons h t.written_text ih

/-- The tokens of a value, each in its usual form behind the same blanks, are a text for it. -/
theorem Value.writtenAs_spread {blanks : List Char} (h : AllBlank blanks) (v : Value) :
    v.WrittenAs (String.ofList (v.tokens.flatMap fun t => blanks ++ t.text)) := by
  rw [WrittenAs, String.toList_ofList]
  exact spaced_spread h v.tokens

end EngineExtension.Json
