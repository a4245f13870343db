import EngineExtension.Log.Severity
import EngineExtension.Number.Shortest
import EngineExtension.Text.Quoted

/-!
# Why a text cannot be read

A reader that stops says why, and how much of the text it had not taken yet. From the latter and
the text itself follows the place of the failure, a line and a column; columns count bytes.

* `Cause` — the reasons, with their kind and wording;
* `Failure` — a reason and the number of bytes left;
* `Position` — a place in a text;
* `ReadError` — a reason and its place.
-/

namespace EngineExtension.Json

/-- A value that stands where another was expected. -/
inductive Found where
  | null
  | bool (b : Bool)
  | integer (n : Int)
  | real (negative : Bool) (x : Binary64)
  | string (s : String)
  | list
  | object
  deriving DecidableEq, Repr

/-- How a value is called in a message. -/
def Found.describe : Found → String
  | null => "null"
  | bool true => "boolean `true`"
  | bool false => "boolean `false`"
  | integer n => "integer `" ++ toString n ++ "`"
  | real negative x => "floating point `" ++ (if negative then "-" else "") ++ x.text ++ "`"
  | string s => "string " ++ Text.quoted s
  | list => "sequence"
  | object => "map"

/-- What was expected instead. -/
inductive Wanted where
  | string
  | unit
  | record (name : String)
  deriving DecidableEq, Repr

/-- How an expected value is called in a message. -/
def Wanted.describe : Wanted → String
  | string => "a string"
  | unit => "unit"
  | record name => "struct " ++ name

/-- The three kinds of failure. -/
inductive ErrorKind where
  /-- the text ends too early -/
  | eof
  /-- the text is not well formed -/
  | syntactic
  /-- the text does not describe what is asked for -/
  | data
  deriving DecidableEq, Repr

/-- The reasons for which a text cannot be read. -/
inductive Cause where
  | endInValue
  | endInString
  | endInList
  | endInObject
  | expectedValue
  | expectedLiteral
  | expectedColon
  | expectedListSeparator
  | expectedObjectSeparator
  | keyNotString
  | trailingComma
  | trailingCharacters
  | invalidNumber
  | numberTooLarge
  | invalidEscape
  | loneSurrogate
  | brokenSurrogatePair
  | controlCharacter
  | wrongType (found : Found) (wanted : Wanted)
  | unknownFilter (name : String)
  | invalidLength (length : Nat) (record : String)
  | duplicateField (key : String)
  | missingField (key : String)
  deriving DecidableEq, Repr

namespace Cause

/-- The kind of a reason. -/
def kind : Cause → ErrorKind
  | endInValue | endInString | endInList | endInObject => .eof
  | wrongType .. | unknownFilter _ | invalidLength .. | duplicateField _ | missingField _ => .data
  | _ => .syntactic

/-- A text between two grave accents. -/
def ticked (s : String) : String := "`" ++ s ++ "`"

/-- The wording of a reason. -/
def message : Cause → String
  | endInValue => "EOF while parsing a value"
  | endInString => "EOF while parsing a string"
  | endInList => "EOF while parsing a list"
  | endInObject => "EOF while parsing an object"
  | expectedValue => "expected value"
  | expectedLiteral => "expected ident"
  | expectedColon => "expected `:`"
  | expectedListSeparator => "expected `,` or `]`"
  | expectedObjectSeparator => "expected `,` or `\x7d`"
  | keyNotString => "key must be a string"
  | trailingComma => "trailing comma"
  | trailingCharacters => "trailing characters"
  | invalidNumber => "invalid number"
  | numberTooLarge => "number out of range"
  | invalidEscape => "invalid escape"
  | loneSurrogate => "lone leading surrogate in hex escape"
  | brokenSurrogatePair => "unexpected end of hex escape"
  | controlCharacter => "control character (\\u0000-\\u001F) found while parsing a string"
  | wrongType found wanted =>
    "invalid type: " ++ found.describe ++ ", expected " ++ wanted.describe
  | unknownFilter name =>
    "unknown variant " ++ ticked name ++ ", expected one of " ++
      String.intercalate ", " (Log.Filter.all.map fun f => ticked f.name)
  | invalidLength length record =>
    "invalid length " ++ toString length ++ ", expected struct " ++ record ++ " with 2 elements"
  | duplicateField key => "duplicate field " ++ ticked key
  | missingField key => "missing field " ++ ticked key

end Cause

/-- A reason to stop, and the number of bytes not taken by then. -/
structure Failure where
  cause : Cause
  left : Nat
  deriving DecidableEq, Repr

/-- Number of bytes of a text. -/
def byteCount (cs : List Char) : Nat := cs.foldl (fun n c => n + c.utf8Size) 0

/-- Stops in front of the rest of a text. -/
def fail {α : Type} (cause : Cause) (rest : List Char) : Except Failure α :=
  .error ⟨cause, byteCount rest⟩

/-- Stops one byte into the rest of a text, if there is one. -/
def failPast {α : Type} (cause : Cause) (rest : List Char) : Except Failure α :=
  .error ⟨cause, byteCount rest - 1⟩

/-- A place in a text. -/
structure Position where
  /-- counted from one -/
  line : Nat
  /-- number of bytes before the place in its line -/
  column : Nat
  deriving DecidableEq, Repr

/-- The place a number of bytes further on. -/
def Position.advance (p : Position) (bytes : Nat) : List Char → Position
  | [] => p
  | c :: cs =>
    if bytes = 0 then p
    else if c = '\n' then advance ⟨p.line + 1, 0⟩ (bytes - 1) cs
    else advance ⟨p.line, p.column + min bytes c.utf8Size⟩ (bytes - c.utf8Size) cs

/-- A reason and its place. -/
structure ReadError where
  cause : Cause
  position : Position
  deriving DecidableEq, Repr

/-- The wording of an error. -/
def ReadError.message (e : ReadError) : String :=
  e.cause.message ++ " at line " ++ toString e.position.line ++ " column " ++
    toString e.position.column

/-- Places a failure in the text it happened in. -/
def Failure.locate (f : Failure) (text : List Char) : ReadError :=
  ⟨f.cause, Position.advance ⟨1, 0⟩ (byteCount text - f.left) text⟩

end EngineExtension.Json
