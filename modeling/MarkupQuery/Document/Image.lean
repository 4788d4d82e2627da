import MarkupQuery.Document.Loader

/-!
# The image of a tree

What a loaded tree is, said by recursion on the structure of the tree that markup describes: the
image of a node is the list of nodes that it becomes, and the image of a list of children is joined
where texts have become neighbours. The walk of `Document.load` arrives at the same tree.
-/

namespace MarkupQuery.Document

open MarkupQuery.Html (Node Attribute)

/-- Joins neighbouring texts. -/
def joinTexts : List Tree → List Tree
  | [] => []
  | t :: ts =>
    match t, joinTexts ts with
    | .text r, .text s :: rest => .text (r ++ s) :: rest
    | t, rest => t :: rest

mutual

/-- The nodes that a node becomes. -/
def image (o : Options) : Node → List Tree
  | .element name attributes children =>
    [.element name (joinAttributes attributes) (joinTexts (imageAll o children))]
  | .text text => if o.noBlanks && Text.blank text then [] else [.text text]
  | .comment text => if o.keepComments then [.comment text] else []
  | .fragment children => imageAll o children
  | .other => []

/-- The nodes that a list of nodes becomes, before neighbouring texts are joined. -/
def imageAll (o : Options) : List Node → List Tree
  | [] => []
  | n :: ns => image o n ++ imageAll o ns

end

/-- The image of a document element: an `html` element with its attributes and content. -/
def imageOf (o : Options) : Node → Tree
  | .element _ attributes children =>
    .element "html" (joinAttributes attributes) (joinTexts (imageAll o children))
  | _ => .element "html" [] []

mutual

/-- The number of elements of a tree. -/
def Tree.elementCount : Tree → Nat
  | .element _ _ children => Tree.elementCountAll children + 1
  | .text _ => 0
  | .comment _ => 0

/-- The number of elements of a list of trees. -/
def Tree.elementCountAll : List Tree → Nat
  | [] => 0
  | t :: ts => Tree.elementCount t + Tree.elementCountAll ts

end

mutual

/-- A tree without its comments, texts around them joined. -/
def Tree.dropComments : Tree → Tree
  | .element name attributes children =>
    .element name attributes (joinTexts (Tree.dropCommentsAll children))
  | .text s => .text s
  | .comment s => .comment s

/-- A list of trees without comments. -/
def Tree.dropCommentsAll : List Tree → List Tree
  | [] => []
  | .comment _ :: ts => Tree.dropCommentsAll ts
  | t :: ts => Tree.dropComments t :: Tree.dropCommentsAll ts

end

mutual

/-- A loaded tree as markup would describe it. -/
def Tree.toNode : Tree → Node
  | .element name attributes children =>
    .element name (attributes.map fun a => { name := a.1, value := a.2 }) (Tree.toNodeAll children)
  | .text s => .text s
  | .comment s => .comment s

/-- A list of loaded trees as markup would describe them. -/
def Tree.toNodeAll : List Tree → List Node
  | [] => []
  | t :: ts => Tree.toNode t :: Tree.toNodeAll ts

end

end MarkupQuery.Document
