/-!
# Loaded trees

The tree that queries see. Other than the tree that markup describes (`Html.Node`) it has no
fragments and no nodes beside elements, texts and comments.
-/

namespace MarkupQuery.Document

/-- A node of a loaded document. Attributes are pairs of a name and a value. -/
inductive Tree
  | element (name : String) (attributes : List (String × String)) (children : List Tree)
  | text (text : String)
  | comment (text : String)

namespace Tree

mutual

/-- All nodes of a tree in document order, with their depths. -/
def outline (depth : Nat) : Tree → List (Nat × Tree)
  | t@(.element _ _ children) => (depth, t) :: outlineAll (depth + 1) children
  | t@(.text _) => [(depth, t)]
  | t@(.comment _) => [(depth, t)]

/-- All nodes of a list of trees in document order, with their depths. -/
def outlineAll (depth : Nat) : List Tree → List (Nat × Tree)
  | [] => []
  | t :: ts => outline depth t ++ outlineAll depth ts

end

end Tree

end MarkupQuery.Document
