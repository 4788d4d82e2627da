import MarkupQuery.Html.Name
import MarkupQuery.Html.Node

/-!
# Trees under construction

While markup is read, nodes move: an element is taken out and put elsewhere, or its children pass to
another one. So the nodes of a tree under construction are kept in an arena, each with the numbers
of its parent and its children. Node 0 is the document. `Arena.node` reads off the finished tree.
-/

namespace MarkupQuery.Html

/-- What a node is. -/
inductive Content
  | document
  | element (name : ElementName) (attributes : List Attribute)
  | text (text : String)
  | comment (text : String)
  | fragment

/-- A node with its place in the tree. -/
structure Slot where
  content : Content
  parent : Option Nat := none
  children : List Nat := []

/-- The nodes of a tree under construction. -/
structure Arena where
  slots : Array Slot

namespace Arena

/-- The arena of an empty document. -/
def empty : Arena :=
  { slots := #[{ content := .document }] }

/-- The node of a number. -/
def slot? (a : Arena) (id : Nat) : Option Slot :=
  a.slots[id]?

/-- The name of an element; other nodes have a name that no element has. -/
def name (a : Arena) (id : Nat) : ElementName :=
  match a.slot? id with
  | some { content := .element name _, .. } => name
  | _ => { space := .html, name := "" }

/-- The parent of a node. -/
def parent? (a : Arena) (id : Nat) : Option Nat :=
  (a.slot? id).bind (·.parent)

/-- The children of a node. -/
def children (a : Arena) (id : Nat) : List Nat :=
  match a.slot? id with
  | some s => s.children
  | none => []

/-- Changes a node. -/
def update (a : Arena) (id : Nat) (f : Slot → Slot) : Arena :=
  { slots := a.slots.modify id f }

/-- Adds a node without a parent. -/
def add (a : Arena) (content : Content) : Nat × Arena :=
  (a.slots.size, { slots := a.slots.push { content := content } })

/-- Takes a node, with all below it, out of the tree. -/
def detach (a : Arena) (id : Nat) : Arena :=
  match a.parent? id with
  | some p =>
    (a.update p fun s => { s with children := s.children.filter (· != id) }).update id
      fun s => { s with parent := none }
  | none => a

/-- Makes a node the last child of another. -/
def append (a : Arena) (parent id : Nat) : Arena :=
  ((a.detach id).update parent fun s => { s with children := s.children ++ [id] }).update id
    fun s => { s with parent := some parent }

/-- Puts an element in front of a member of a list. -/
def insertBefore (sibling id : Nat) : List Nat → List Nat
  | [] => []
  | c :: cs => if c = sibling then id :: c :: cs else c :: insertBefore sibling id cs

/-- Puts a node before another one under the same parent. -/
def appendBefore (a : Arena) (sibling id : Nat) : Arena :=
  let a := a.detach id
  match a.parent? sibling with
  | some p =>
    (a.update p fun s => { s with children := insertBefore sibling id s.children }).update id
      fun s => { s with parent := some p }
  | none => a

/-- Appends to a text node; none if the node is no text. -/
def extendText? (a : Arena) (id : Nat) (text : String) : Option Arena :=
  match a.slot? id with
  | some { content := .text before, .. } =>
    some (a.update id fun s => { s with content := .text (before ++ text) })
  | _ => none

/-- Adds text at the end of a node: to its last child, if that is a text. -/
def appendText (a : Arena) (parent : Nat) (text : String) : Arena :=
  match (a.children parent).getLast?.bind (a.extendText? · text) with
  | some a => a
  | none =>
    let (id, a) := a.add (.text text)
    a.append parent id

/-- The member of a list that stands before another. -/
def before? (sibling : Nat) : List Nat → Option Nat
  | c :: d :: cs => if d = sibling then some c else before? sibling (d :: cs)
  | _ => none

/-- Adds text before a node: to the node before it, if that is a text. -/
def appendTextBefore (a : Arena) (sibling : Nat) (text : String) : Arena :=
  match a.parent? sibling with
  | some p =>
    match (before? sibling (a.children p)).bind (a.extendText? · text) with
    | some a => a
    | none =>
      let (id, a) := a.add (.text text)
      a.appendBefore sibling id
  | none => a

/-- Passes the children of a node on to another, behind those that it has. -/
def passChildren (a : Arena) (source target : Nat) : Arena :=
  (a.children source).foldl (fun a id => a.append target id) a

/-- Adds the attributes that an element does not have yet. -/
def addMissingAttributes (a : Arena) (id : Nat) (attributes : List Attribute) : Arena :=
  a.update id fun s =>
    match s.content with
    | .element name present =>
      let missing := attributes.filter fun b => !present.any fun c => c.name == b.name
      { s with content := .element name (present ++ missing) }
    | _ => s

/-- The tree below a node, to a depth of at most `fuel`. -/
def node (a : Arena) : Nat → Nat → Node
  | 0, _ => .other
  | fuel + 1, id =>
    match a.slot? id with
    | none => .other
    | some s =>
      match s.content with
      | .document => .other
      | .element name attributes =>
        .element name.name attributes (s.children.map (a.node fuel))
      | .text text => .text text
      | .comment text => .comment text
      | .fragment => .fragment (s.children.map (a.node fuel))

/-- The first element child of the document. -/
def documentElement? (a : Arena) : Option Nat :=
  (a.children 0).find? fun id =>
    match a.slot? id with
    | some { content := .element _ _, .. } => true
    | _ => false

/-- The tree below the document element. An arena without one describes an empty `html` element. -/
def root (a : Arena) : Node :=
  match a.documentElement? with
  | some id => a.node a.slots.size id
  | none => .element "html" [] []

end Arena

end MarkupQuery.Html
