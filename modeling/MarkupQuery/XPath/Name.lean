import MarkupQuery.Text.Range

/-!
# Names in expressions

Which texts are names, the words that stand for something themselves, and the namespaces of the
prefixes that need no declaration.
-/

namespace MarkupQuery.XPath

/-- A name in a namespace. -/
structure QName where
  /-- The namespace; names in none have the empty text here. -/
  space : String := ""
  name : String
  deriving DecidableEq

/-! ## Characters -/

/-- The characters that a name may begin with, letters and the underscore of ASCII apart. -/
def nameStartRanges : List Text.Range :=
  [(0xC0, 0xD6), (0xD8, 0xF6), (0xF8, 0x2FF), (0x370, 0x37D), (0x37F, 0x1FFF), (0x200C, 0x200D),
   (0x2070, 0x218F), (0x2C00, 0x2FEF), (0x3001, 0xD7FF), (0xF900, 0xFFFD), (0x10000, 0xEFFFF)]

/-- The other characters beyond ASCII that a name may hold. -/
def nameRestRanges : List Text.Range :=
  [(0xB7, 0xB7), (0x300, 0x36F), (0x203F, 0x2040)]

/-- Whether a name may begin with a character. -/
def isNameStart (c : Char) : Bool :=
  c.isAlpha || c = '_' || Text.inRanges nameStartRanges c

/-- Whether a name may hold a character. -/
def isNameChar (c : Char) : Bool :=
  isNameStart c || c.isDigit || c = '-' || c = '.' || Text.inRanges nameRestRanges c

/-- Whether a text is a name without a prefix. -/
def isName (s : String) : Bool :=
  match s.toList with
  | [] => false
  | c :: cs => isNameStart c && cs.all isNameChar

/-! ## Words -/

/-- The words of the language. Each is a name, too, where a name without a prefix is expected, but
no part of a name with a prefix. -/
def keywords : List String :=
  ["ancestor", "ancestor-or-self", "and", "array", "as", "attribute", "cast", "castable", "child",
   "comment", "descendant", "descendant-or-self", "div", "document-node", "element", "else",
   "empty-sequence", "eq", "every", "except", "following", "following-sibling", "for", "function",
   "ge", "gt", "idiv", "if", "in", "instance", "intersect", "is", "item", "le", "let", "lt", "map",
   "mod", "namespace", "namespace-node", "ne", "node", "of", "or", "parent", "preceding",
   "preceding-sibling", "processing-instruction", "return", "satisfies", "schema-attribute",
   "schema-element", "self", "some", "switch", "text", "then", "to", "treat", "typeswitch",
   "union"]

/-- Whether a name can be the part of a name behind the prefix. -/
def isPlain (name : String) : Bool :=
  !keywords.contains name

/-- Whether a name can be a prefix: two words are declared as prefixes, and so can. -/
def isPrefix (name : String) : Bool :=
  isPlain name || name == "map" || name == "array"

/-! ## Namespaces -/

/-- The namespace of the functions that need no prefix. -/
def functionSpace : String :=
  "http://www.w3.org/2005/xpath-functions"

/-- The namespace of the types of values. -/
def schemaSpace : String :=
  "http://www.w3.org/2001/XMLSchema"

/-- The namespace of the functions on numbers of the `math` prefix. -/
def mathSpace : String :=
  "http://www.w3.org/2005/xpath-functions/math"

/-- The namespace of the functions on maps. -/
def mapSpace : String :=
  "http://www.w3.org/2005/xpath-functions/map"

/-- The namespace of the functions on arrays. -/
def arraySpace : String :=
  "http://www.w3.org/2005/xpath-functions/array"

/-- The namespace of the codes of faults. -/
def faultSpace : String :=
  "http://www.w3.org/2005/xqt-errors"

/-- The prefixes that are declared, with their namespaces. -/
def declaredPrefixes : List (String × String) :=
  [("xml", "http://www.w3.org/XML/1998/namespace"), ("xs", schemaSpace), ("fn", functionSpace),
   ("math", mathSpace), ("map", mapSpace), ("array", arraySpace), ("err", faultSpace),
   ("output", "http://www.w3.org/2010/xslt-xquery-serialization")]

end MarkupQuery.XPath
