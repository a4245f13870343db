import EngineExtension.Text.Hidden

/-!
# Quoted text

A text between double quotes, with a backslash in front of quotes and backslashes, short forms for
the usual control characters, and the code point of every other character that does not show.
-/

namespace EngineExtension.Text

/-- A character as it stands between quotes. -/
def quotedChar (c : Char) : String :=
  match c with
  | '\x00' => "\\0"
  | '\t' => "\\t"
  | '\n' => "\\n"
  | '\r' => "\\r"
  | '"' => "\\\""
  | '\\' => "\\\\"
  | c =>
    if isHidden c then "\\u\x7b" ++ String.ofList (Nat.toDigits 16 c.toNat) ++ "\x7d"
    else String.singleton c

/-- A text between quotes. -/
def quoted (s : String) : String :=
  "\"" ++ String.join (s.toList.map quotedChar) ++ "\""

end EngineExtension.Text
