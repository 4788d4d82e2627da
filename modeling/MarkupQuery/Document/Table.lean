import MarkupQuery.Document.Tree

/-!
# Nodes in document order

The nodes of a document are numbered in document order: the document node has number 0, an element
comes before its attributes, and these before its content. `Table.ofTree` lists the nodes of a tree
by number. Since a node's number is its rank, document order is the order of numbers, and what lies
below a node is a range: the numbers between the node's own and its `stop`.
-/

namespace MarkupQuery.Document

/-- What a node is. -/
inductive Kind
  | document
  | element (name : String)
  | attr (name value : String)
  | text (text : String)
  | comment (text : String)
  deriving DecidableEq

/-- A node with its place. -/
structure Row where
  kind : Kind
  /-- The number of the parent; the document node is its own. -/
  parent : Nat
  /-- The first number behind the node and all below it. -/
  stop : Nat
  deriving DecidableEq

/-- The nodes of a document by number. There is always a first one, the document node. -/
structure Table where
  rows : Array Row
  rows_pos : 0 < rows.size

namespace Table

/-- The rows of attributes whose first has number `rank`. -/
def attributeRows (parent : Nat) : Nat → List (String × String) → List Row
  | _, [] => []
  | rank, (name, value) :: rest =>
    { kind := .attr name value, parent := parent, stop := rank + 1 } ::
      attributeRows parent (rank + 1) rest

mutual

/-- The rows of a tree whose root has number `rank`. -/
def treeRows (parent rank : Nat) : Tree → List Row
  | .element name attributes children =>
    let content := treeRowsAll rank (rank + 1 + attributes.length) children
    { kind := .element name, parent := parent,
      stop := rank + 1 + attributes.length + content.length } ::
      (attributeRows rank (rank + 1) attributes ++ content)
  | .text text => [{ kind := .text text, parent := parent, stop := rank + 1 }]
  | .comment text => [{ kind := .comment text, parent := parent, stop := rank + 1 }]

/-- The rows of neighbouring trees, the first of which has number `rank`. -/
def treeRowsAll (parent rank : Nat) : List Tree → List Row
  | [] => []
  | t :: ts =>
    let first := treeRows parent rank t
    first ++ treeRowsAll parent (rank + first.length) ts

end

/-- The nodes of the document with a given document element. -/
def ofTree (root : Tree) : Table :=
  let below := treeRows 0 1 root
  { rows := ({ kind := .document, parent := 0, stop := below.length + 1 } :: below).toArray
    rows_pos := by simp }

/-- The number of nodes. -/
def size (t : Table) : Nat :=
  t.rows.size

/-- A node of the document. -/
abbrev Node (t : Table) : Type :=
  Fin t.size

/-- The document node. -/
def root (t : Table) : t.Node :=
  ⟨0, t.rows_pos⟩

/-- The node of a number, if there is one. -/
def node? (t : Table) (n : Nat) : Option t.Node :=
  if h : n < t.size then some ⟨n, h⟩ else none

/-- The row of a node; a number that no node has is taken for an empty text. -/
def row (t : Table) (n : Nat) : Row :=
  (t.rows[n]?).getD { kind := .text "", parent := 0, stop := n + 1 }

/-- What a node is. -/
def kind (t : Table) (n : Nat) : Kind :=
  (t.row n).kind

/-- The parent of a node. -/
def parent (t : Table) (n : Nat) : Nat :=
  (t.row n).parent

/-- The first number behind a node and all below it. -/
def stop (t : Table) (n : Nat) : Nat :=
  (t.row n).stop

/-- Whether a node is an attribute. -/
def isAttribute (t : Table) (n : Nat) : Bool :=
  match t.kind n with
  | .attr _ _ => true
  | _ => false

/-- Whether a node is an element. -/
def isElement (t : Table) (n : Nat) : Bool :=
  match t.kind n with
  | .element _ => true
  | _ => false

/-- The numbers from `first` up to, and without, `last`. -/
def between (first last : Nat) : List Nat :=
  List.range' first (last - first)

/-- The nodes below a node, attributes left out. -/
def descendants (t : Table) (n : Nat) : List Nat :=
  (between (n + 1) (t.stop n)).filter fun m => !t.isAttribute m

/-- The children of a node. -/
def children (t : Table) (n : Nat) : List Nat :=
  (t.descendants n).filter fun m => t.parent m = n

/-- The attributes of a node. -/
def attributeNodes (t : Table) (n : Nat) : List Nat :=
  (between (n + 1) (t.stop n)).filter fun m => t.isAttribute m && t.parent m = n

/-- The text of a node: its own, or that of all texts below it. -/
def text (t : Table) (n : Nat) : String :=
  match t.kind n with
  | .attr _ value => value
  | .text text => text
  | .comment text => text
  | .element _ | .document =>
    String.join ((t.descendants n).map fun m =>
      match t.kind m with
      | .text text => text
      | _ => "")

/-- The name of an element or an attribute. -/
def name? (t : Table) (n : Nat) : Option String :=
  match t.kind n with
  | .element name => some name
  | .attr name _ => some name
  | _ => none

/-- The attributes of a node with their values, in order; only elements have any. -/
def attributes (t : Table) (n : Nat) : List (String × String) :=
  (t.attributeNodes n).filterMap fun m =>
    match t.kind m with
    | .attr name value => some (name, value)
    | _ => none

/-- The names of elements and attributes, in document order. -/
def names (t : Table) : List String :=
  (List.range t.size).filterMap t.name?

/-- The number of a name, its first place among all names; what nothing is called has none. -/
def nameNumber? (t : Table) (name : String) : Option Nat :=
  t.names.idxOf? name

/-- The value of the attribute of a node whose name has a given number. -/
def attributeValue? (t : Table) (n number : Nat) : Option String :=
  ((t.attributes n).find? fun a => t.nameNumber? a.1 == some number).map (·.2)

end Table

end MarkupQuery.Document
