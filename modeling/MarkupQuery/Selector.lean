import MarkupQuery.Document.Query
import MarkupQuery.Query.Builder

/-!
# Selectors

A selector pairs a query under construction with a document. Its terminals build the query, which
leaves the builder empty, and run it: `Selector.select` gives the selected nodes, `Selector.length`
their number, and `Selector.toQuery` the text of the query alone. The first two are told what is
around them at the time.
-/

namespace MarkupQuery

open Query (Builder)
open XPath (Surroundings)

/-- A query under construction and the document it is for. -/
structure Selector where
  document : Document
  builder : Builder := .new

/-- The nodes that a query selected. -/
structure Selection where
  query : String
  nodes : List Document.NodeId
  deriving DecidableEq

/-- The number of nodes. -/
def Selection.len (s : Selection) : Nat :=
  s.nodes.length

/-- Whether nothing was selected. -/
def Selection.isEmpty (s : Selection) : Bool :=
  s.nodes.isEmpty

/-- The node at a place. -/
def Selection.get? (s : Selection) (i : Nat) : Option Document.NodeId :=
  s.nodes[i]?

/-- The first node. -/
def Selection.first? (s : Selection) : Option Document.NodeId :=
  s.get? 0

/-! ## Selected nodes -/

/-- The name of a selected element; other nodes have none. -/
def Document.elementName? (d : Document) (n : Document.NodeId) : Option String :=
  match d.table.kind n with
  | .element name => some name
  | _ => none

/-- The attributes of a selected element, in order. -/
def Document.attributes (d : Document) (n : Document.NodeId) : List (String × String) :=
  if d.table.isElement n then d.table.attributes n else []

/-- The value of an attribute of a selected node. A name that the document does not have is not
looked for. -/
def Document.attribute? (d : Document) (n : Document.NodeId) (name : String) : Option String := do
  d.table.attributeValue? n (← d.table.nameNumber? name)

/-- The text of a selected node. -/
def Document.text (d : Document) (n : Document.NodeId) : String :=
  d.table.text n

namespace Selector

/-- A selector for markup, with the given options. -/
def withOptions (o : Document.Options) (html : String) : Selector :=
  { document := .parseWith o html }

/-- A selector for markup, with the default options. -/
def new (html : String) : Selector :=
  withOptions {} html

/-- A selector for a document. -/
def ofDocument (d : Document) : Selector :=
  { document := d }

/-- Adds to the query. -/
def call (s : Selector) (c : Query.Call) : Selector :=
  { s with builder := s.builder.call c }

/-- Builds the query and evaluates it, in some surroundings. -/
def select (s : Selector) (w : Surroundings := {}) : Except SelectError Selection × Selector :=
  let (query, builder) := s.builder.build
  let answer := (s.document.evaluate query w).map fun nodes => { query := query, nodes := nodes }
  (answer, { s with builder := builder })

/-- Builds the query and counts the nodes that it selects; a query that fails selects none. -/
def length (s : Selector) (w : Surroundings := {}) : Nat × Selector :=
  let (answer, s) := s.select w
  (match answer with
    | .ok selection => selection.len
    | .error _ => 0, s)

/-- Builds the query. -/
def toQuery (s : Selector) : String × Selector :=
  let (query, builder) := s.builder.build
  (query, { s with builder := builder })

/-! ## Runs -/

/-- A step in the life of a selector. -/
inductive Step
  /-- A call that adds to the query. -/
  | call (c : Query.Call)
  /-- A step of the embedded builder. -/
  | builder (s : Builder.Step)
  /-- A query is evaluated in the surroundings of its moment. -/
  | select (w : Surroundings := {})
  | length (w : Surroundings := {})
  | toQuery

/-- What a step answers. -/
inductive Answer
  /-- The step only changes the query. -/
  | none
  | selection (result : Except SelectError Selection)
  | count (n : Nat)
  | query (text : String)

/-- The answer of a step, and the selector after it. -/
def step (s : Selector) : Step → Answer × Selector
  | .call c => (.none, s.call c)
  | .builder b =>
    let (text, builder) := s.builder.step b
    (match text with
      | some text => .query text
      | none => .none, { s with builder := builder })
  | .select w => (.selection (s.select w).1, (s.select w).2)
  | .length w => (.count (s.length w).1, (s.length w).2)
  | .toQuery => (.query s.toQuery.1, s.toQuery.2)

end Selector

end MarkupQuery
