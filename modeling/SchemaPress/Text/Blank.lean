/-!
# Blank characters

The blanks are the characters with the Unicode property `White_Space`, and `trim` takes them off the
two ends of a text.
-/

set_option autoImplicit false

namespace SchemaPress.Text

/-- Says whether a character has the property `White_Space`. -/
def isBlank (c : Char) : Bool :=
  let code := c.toNat
  (0x09 ≤ code && code ≤ 0x0D) || code == 0x20 || code == 0x85 || code == 0xA0 || code == 0x1680 ||
    (0x2000 ≤ code && code ≤ 0x200A) || code == 0x2028 || code == 0x2029 || code == 0x202F ||
    code == 0x205F || code == 0x3000

/-- A text without the blanks at its two ends. -/
def trim (cs : List Char) : List Char :=
  ((cs.dropWhile isBlank).reverse.dropWhile isBlank).reverse

example : trim "\u00a0 text\t".toList = "text".toList := by decide

end SchemaPress.Text
