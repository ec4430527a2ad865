/-!
# Blank characters

White space as Unicode's `White_Space` property has it, and trimming. A text
is blank when nothing is left of it after trimming.
-/

namespace RecordFilter.Text

/-- The characters with the property `White_Space`. Zero-width spaces, the
byte-order mark and the separators U+001C to U+001F are not among them. -/
def isBlankChar (c : Char) : Bool :=
  let n := c.toNat
  (0x09 ≤ n && n ≤ 0x0D) || n == 0x20 || n == 0x85 || n == 0xA0 || n == 0x1680 ||
  (0x2000 ≤ n && n ≤ 0x200A) || n == 0x2028 || n == 0x2029 || n == 0x202F ||
  n == 0x205F || n == 0x3000

/-- Drops the characters of the class from the end. -/
def dropEndWhile (p : Char → Bool) (cs : List Char) : List Char :=
  (cs.reverse.dropWhile p).reverse

/-- Drops blanks from both ends. -/
def trimChars (cs : List Char) : List Char :=
  dropEndWhile isBlankChar (cs.dropWhile isBlankChar)

/-- The text without the blanks at its two ends. -/
def trim (s : String) : String :=
  String.ofList (trimChars s.toList)

/-- A text of blanks only, the empty text included. -/
def isBlank (s : String) : Bool :=
  s.toList.all isBlankChar

end RecordFilter.Text
