import EngineExtension.Json.Failure

/-!
# Reading off the front of a text

A reader takes characters off the front of a text and gives back a value and the rest. `Reader`
comes with the fact that something was taken, so that loops over readers end.
-/

namespace EngineExtension.Json

/-- Something that reads a value off the front of a text and takes at least one character. -/
structure Reader (α : Type) where
  read : List Char → Except Failure (α × List Char)
  shorter : ∀ {cs rest : List Char} {a : α}, read cs = .ok (a, rest) → rest.length < cs.length

/-! ## Blanks -/

/-- The characters that may stand between the parts of a text. -/
def isBlank (c : Char) : Bool := c == ' ' || c == '\n' || c == '\t' || c == '\r'

/-- A text without the blanks it starts with. -/
def skipBlanks (cs : List Char) : List Char := cs.dropWhile isBlank

theorem length_skipBlanks (cs : List Char) : (skipBlanks cs).length ≤ cs.length :=
  (List.dropWhile_sublist _).length_le

theorem length_of_skipBlanks_eq {cs rest : List Char} {c : Char} (h : skipBlanks cs = c :: rest) :
    rest.length < cs.length := by
  have := length_skipBlanks cs
  rw [h, List.length_cons] at this
  exact this

/-! ## Fixed characters -/

/-- Takes the given characters. -/
def expect : (wanted : List Char) → List Char → Except Failure (List Char)
  | [], cs => .ok cs
  | _ :: _, [] => fail .endInValue []
  | w :: ws, c :: cs => if c = w then expect ws cs else failPast .expectedLiteral (c :: cs)

theorem length_of_expect {wanted cs rest : List Char} (h : expect wanted cs = .ok rest) :
    rest.length ≤ cs.length := by
  induction wanted generalizing cs with
  | nil => cases h; exact Nat.le_refl _
  | cons w ws ih =>
    cases cs with
    | nil => cases h
    | cons c cs =>
      rw [expect] at h
      split at h
      · exact Nat.le_succ_of_le (ih h)
      · cases h

/-- Takes the colon between a key and its value. -/
def readColon (cs : List Char) : Except Failure (List Char) :=
  match skipBlanks cs with
  | [] => fail .endInObject []
  | ':' :: rest => .ok rest
  | c :: rest => failPast .expectedColon (c :: rest)

theorem length_of_readColon {cs rest : List Char} (h : readColon cs = .ok rest) :
    rest.length < cs.length := by
  unfold readColon at h
  split at h
  · cases h
  · next heq =>
    cases h
    exact length_of_skipBlanks_eq heq
  · cases h

end EngineExtension.Json
