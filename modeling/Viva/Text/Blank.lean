/-! # Blank characters

The characters that count as white space wherever text is trimmed: stream payloads, learner
messages and stored tokens. The class is the Unicode property `White_Space`, so it also holds
NEL, the no-break space and the ideographic space, and neither the zero width space nor the byte
order mark.
-/

namespace Viva.Text

/-- The character has the property `White_Space`. -/
def isBlank (c : Char) : Bool :=
  let n := c.toNat
  (0x09 ≤ n && n ≤ 0x0D) || n == 0x20 || n == 0x85 || n == 0xA0 || n == 0x1680
    || (0x2000 ≤ n && n ≤ 0x200A) || n == 0x2028 || n == 0x2029 || n == 0x202F || n == 0x205F
    || n == 0x3000

/-- What is left of some characters without the blanks at both ends. -/
def trimChars (cs : List Char) : List Char :=
  ((cs.dropWhile isBlank).reverse.dropWhile isBlank).reverse

/-- What is left of a text without the blanks at both ends. -/
def trim (s : String) : String :=
  String.ofList (trimChars s.toList)

/-- A text with nothing but blanks, or with nothing at all. -/
def isBlankText (s : String) : Bool :=
  s.toList.all isBlank

end Viva.Text
