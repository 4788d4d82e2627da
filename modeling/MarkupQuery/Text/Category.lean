import MarkupQuery.Text.Category.Letters
import MarkupQuery.Text.Category.Signs

/-!
# General categories

The general category of a character in Unicode. Patterns ask for it, and the case of letters rests
on it.
-/

namespace MarkupQuery.Text

/-- The characters of a general category; those of no listed one are unassigned. Names are the two
letters by which the standard knows a category. -/
def categories : List (String × (Char → Bool)) :=
  [("Lu", inStrides upperLetters), ("Ll", inStrides lowerLetters), ("Lt", inRanges titleLetters),
   ("Lm", inRanges modifierLetters), ("Lo", inRanges otherLetters), ("Mn", inRanges marks),
   ("Mc", inRanges spacingMarks), ("Me", inRanges enclosingMarks), ("Nd", inRanges digits),
   ("Nl", inRanges letterNumbers), ("No", inRanges otherNumbers), ("Pc", inRanges connectors),
   ("Pd", inRanges dashes), ("Ps", inRanges openings), ("Pe", inRanges closings),
   ("Pi", inRanges initialQuotes), ("Pf", inRanges finalQuotes), ("Po", inRanges otherPunctuation),
   ("Sm", inRanges mathSymbols), ("Sc", inRanges currencySymbols),
   ("Sk", inRanges modifierSymbols), ("So", inRanges otherSymbols), ("Zs", inRanges spaces),
   ("Zl", inRanges lineSeparators), ("Zp", inRanges paragraphSeparators),
   ("Cc", inRanges controls), ("Cf", inRanges formats), ("Co", inRanges privateUse)]

/-- Whether a character is of a category, or of one of a group of them that one letter stands for. A
name that stands for none has no such test. -/
def categoryTest? (name : String) : Option (Char → Bool) :=
  let assigned (c : Char) : Bool := categories.any fun k => k.2 c
  let listed := categories.filter fun k => k.1 == name || String.ofList (k.1.toList.take 1) == name
  if name == "Cn" then some fun c => !assigned c
  else if name == "C" then some fun c => !assigned c || listed.any fun k => k.2 c
  else if listed.isEmpty then none
  else some fun c => listed.any fun k => k.2 c

/-- Whether a character is a digit of a decimal number. -/
def isDecimalDigit (c : Char) : Bool :=
  inRanges digits c

/-- Whether a character belongs to a word: it is assigned, and neither punctuation nor a
separator. -/
def isWordChar (c : Char) : Bool :=
  (categories.any fun k => k.2 c) &&
    !categories.any fun k => ["P", "Z", "C"].contains (String.ofList (k.1.toList.take 1)) && k.2 c

end MarkupQuery.Text
