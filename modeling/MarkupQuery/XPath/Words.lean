import MarkupQuery.Text.Parts
import MarkupQuery.XPath.Lexer

/-!
# Words of texts

Texts cut at blanks. `oneSpaced` is the form of a text in which blanks make no difference.
-/

namespace MarkupQuery.XPath

/-- The words of a text. -/
def wordsOf (s : String) : List String :=
  ((Text.partsBetween Lexer.isBlank s.toList).filter fun w => !w.isEmpty).map String.ofList

/-- The words of a text with one space between them. -/
def oneSpaced (s : String) : String :=
  " ".intercalate (wordsOf s)

/-- A text with a space for each blank. -/
def blanksAsSpaces (s : String) : String :=
  s.map fun c => if Lexer.isBlank c then ' ' else c

end MarkupQuery.XPath
