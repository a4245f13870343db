/-!
# Blanks

The characters with the Unicode property White_Space, and a text without the blanks at its ends.
-/

namespace EngineExtension.Text

/-- Whether a character has the property White_Space. -/
def isBlank (c : Char) : Bool :=
  let n := c.toNat
  (0x09 ≤ n && n ≤ 0x0D) || n == 0x20 || n == 0x85 || n == 0xA0 || n == 0x1680 ||
    (0x2000 ≤ n && n ≤ 0x200A) || n == 0x2028 || n == 0x2029 || n == 0x202F || n == 0x205F ||
    n == 0x3000

/-- A text without the blanks it starts with. -/
def trimStart (cs : List Char) : List Char := cs.dropWhile isBlank

/-- A text without the blanks it ends with. -/
def trimEnd (cs : List Char) : List Char := (trimStart cs.reverse).reverse

/-- A text without the blanks at either end. -/
def trim (s : String) : String := String.ofList (trimEnd (trimStart s.toList))

end EngineExtension.Text
