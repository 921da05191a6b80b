/-!
# Blank characters

The characters with the Unicode property `White_Space`, and the removal of leading and trailing
ones.  The class is wider than `Char.isWhitespace`, which knows four characters.
-/

namespace PodSizing.Text

/-- The character has the property `White_Space`. -/
def isBlank (c : Char) : Bool :=
  let code := c.toNat
  (0x09 ≤ code && code ≤ 0x0d) || code == 0x20 || code == 0x85 || code == 0xa0 ||
    code == 0x1680 || (0x2000 ≤ code && code ≤ 0x200a) || code == 0x2028 || code == 0x2029 ||
    code == 0x202f || code == 0x205f || code == 0x3000

/-- Without the blank characters at the front. -/
def trimStart (text : List Char) : List Char :=
  text.dropWhile isBlank

/-- Without the blank characters at both ends. -/
def trim (text : List Char) : List Char :=
  (trimStart (trimStart text).reverse).reverse

example : trim "\u00a0 2\t".toList = ['2'] := by decide +kernel

end PodSizing.Text
