import MarkupQuery.Text.Range

/-!
# Blank text

The characters with the Unicode property `White_Space`, and texts made of nothing else.
-/

namespace MarkupQuery.Text

/-- The code points with the property `White_Space`. -/
def whiteSpace : List Range :=
  [(0x9, 0xD), (0x20, 0x20), (0x85, 0x85), (0xA0, 0xA0), (0x1680, 0x1680), (0x2000, 0x200A),
   (0x2028, 0x2029), (0x202F, 0x202F), (0x205F, 0x205F), (0x3000, 0x3000)]

/-- Whether a character is white space. -/
def blankChar (c : Char) : Bool :=
  inRanges whiteSpace c

/-- Whether every character of a text is white space; the empty text is blank. -/
def blank (s : String) : Bool :=
  s.toList.all blankChar

end MarkupQuery.Text
