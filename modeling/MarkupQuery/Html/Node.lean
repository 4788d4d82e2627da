import MarkupQuery.Html.Token

/-!
# Trees of markup

What reading markup results in: a tree of elements, texts and comments. The content of a `template`
element hangs below a fragment of its own.
-/

namespace MarkupQuery.Html

/-- A node of the tree that markup describes. -/
inductive Node
  | element (name : String) (attributes : List Attribute) (children : List Node)
  | text (text : String)
  | comment (text : String)
  /-- The content of a template. -/
  | fragment (children : List Node)
  /-- Any other node, such as a document type. -/
  | other

end MarkupQuery.Html
