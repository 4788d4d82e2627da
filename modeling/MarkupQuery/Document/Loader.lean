import MarkupQuery.Document.Tree
import MarkupQuery.Html.Node
import MarkupQuery.Text.Blank

/-!
# Loading a tree

`load` makes the tree that queries see from the tree that markup describes. Fragments are dissolved,
attributes of one name are joined, blank texts and comments are dropped where the options say so,
and texts that become neighbours become one. The walk keeps its own stack of elements whose content
is still to be loaded, so that its depth is not bounded by that of the tree: an element is attached
to its parent first and gets its attributes and content later.
-/

namespace MarkupQuery.Document

open MarkupQuery.Html (Node Attribute)

/-- How a document is loaded. -/
structure Options where
  /-- Texts of white space alone are dropped. -/
  noBlanks : Bool := false
  /-- Comments are kept. -/
  keepComments : Bool := true
  /-- Diagnostics are not recorded. -/
  noWarnings : Bool := false
  deriving DecidableEq

/-! ## Sizes -/

mutual

/-- The number of nodes of a tree. -/
def nodeCount : Node → Nat
  | .element _ _ children => nodeCountAll children + 1
  | .fragment children => nodeCountAll children + 1
  | .text _ => 1
  | .comment _ => 1
  | .other => 1

/-- The number of nodes of a list of trees. -/
def nodeCountAll : List Node → Nat
  | [] => 0
  | n :: ns => nodeCount n + nodeCountAll ns

end

/-! ## Attributes -/

/-- Sets an attribute: a name that is there keeps its place and gets the new value. -/
def setAttribute (attributes : List (String × String)) (name value : String) :
    List (String × String) :=
  if attributes.any (·.1 == name) then
    attributes.map fun a => if a.1 == name then (name, value) else a
  else attributes ++ [(name, value)]

/-- Sets attributes, one after the other. -/
def setAttributes (start : List (String × String)) (attributes : List Attribute) :
    List (String × String) :=
  attributes.foldl (fun set a => setAttribute set a.name a.value) start

/-- The attributes of an element, each name once. -/
def joinAttributes (attributes : List Attribute) : List (String × String) :=
  setAttributes [] attributes

/-! ## Content -/

/-- Takes children off a stack; a fragment on top gives way to its own children. -/
def contentLoop : Nat → List Node → List Node
  | 0, _ => []
  | _ + 1, [] => []
  | fuel + 1, .fragment children :: pending => contentLoop fuel (children ++ pending)
  | fuel + 1, n :: pending => n :: contentLoop fuel pending

/-- The children of an element, each fragment replaced by its own. -/
def content (children : List Node) : List Node :=
  contentLoop (nodeCountAll children + 1) children

/-! ## The walk -/

/-- A child of an element that is being loaded. -/
inductive Part
  | text (text : String)
  | comment (text : String)
  /-- An element, by its number. -/
  | element (number : Nat)

/-- An element that is being loaded. -/
structure Draft where
  name : String
  attributes : List (String × String) := []
  parts : List Part := []

/-- An element whose content is still to be loaded. -/
structure Task where
  /-- The number of the element that is being loaded. -/
  number : Nat
  attributes : List Attribute
  children : List Node

/-- The state of the walk. -/
structure Walk where
  drafts : Array Draft
  /-- The elements still to be loaded; the last one added comes first. -/
  tasks : List Task
  /-- The number of elements loaded. -/
  count : Nat := 0

/-- Adds a child behind others; a text joins a text before it. -/
def appendPart (before : List Part) (p : Part) : List Part :=
  match p, before.getLast? with
  | .text s, some (.text r) => before.dropLast ++ [.text (r ++ s)]
  | _, _ => before ++ [p]

/-- Attaches a child to an element. This is never refused: what gets a child is an element that is
being loaded, and the child is new, so that it stands nowhere yet. -/
def Walk.attach (w : Walk) (number : Nat) (p : Part) : Walk :=
  { w with drafts := w.drafts.modify number fun d => { d with parts := appendPart d.parts p } }

/-- Loads one child of an element. -/
def Walk.child (o : Options) (number : Nat) (w : Walk) : Node → Walk
  | .element name attributes children =>
    let new := w.drafts.size
    let task : Task := { number := new, attributes := attributes, children := children }
    let w : Walk :=
      { w with drafts := w.drafts.push { name := name }, tasks := task :: w.tasks }
    w.attach number (.element new)
  | .text text =>
    if o.noBlanks && Text.blank text then w else w.attach number (.text text)
  | .comment text => if o.keepComments then w.attach number (.comment text) else w
  | .fragment _ => w
  | .other => w

/-- Loads the attributes and the children of an element. -/
def Walk.task (o : Options) (w : Walk) (t : Task) : Walk :=
  let drafts := w.drafts.modify t.number fun d =>
    { d with attributes := setAttributes d.attributes t.attributes }
  (content t.children).foldl (Walk.child o t.number)
    { w with drafts := drafts, count := w.count + 1 }

/-- Loads elements until none is left. -/
def Walk.run (o : Options) : Nat → Walk → Walk
  | 0, w => w
  | fuel + 1, w =>
    match w.tasks with
    | [] => w
    | t :: tasks => Walk.run o fuel (Walk.task o { w with tasks := tasks } t)

/-- Reads off the element of a number, to a depth of at most `fuel`. -/
def Walk.element (w : Walk) : Nat → Nat → Tree
  | 0, _ => .element "" [] []
  | fuel + 1, number =>
    match w.drafts[number]? with
    | none => .element "" [] []
    | some d =>
      .element d.name d.attributes (d.parts.map fun p =>
        match p with
        | .text text => .text text
        | .comment text => .comment text
        | .element number => w.element fuel number)

/-- The loaded tree, and the number of its elements. The root is an `html` element, with the
attributes and the content of the given element. -/
def load (o : Options) (root : Node) : Tree × Nat :=
  match root with
  | .element _ attributes children =>
    let start : Walk :=
      { drafts := #[{ name := "html" }]
        tasks := [{ number := 0, attributes := attributes, children := children }] }
    let w := Walk.run o (nodeCount root) start
    (w.element w.drafts.size 0, w.count)
  | _ => (.element "html" [] [], 1)

end MarkupQuery.Document
