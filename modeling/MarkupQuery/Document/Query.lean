import MarkupQuery.Document.Basic
import MarkupQuery.XPath.Eval
import MarkupQuery.XPath.Parser
import MarkupQuery.XPath.Scope

/-!
# Querying a document

`Document.evaluate` gives the nodes that an expression selects. An expression that is no expression,
or that names what does not exist, is rejected before it is evaluated; one whose value holds
anything but nodes has failed. An expression may ask for the present moment and for collations, so
that each evaluation is given its surroundings (`XPath.Surroundings`).
-/

namespace MarkupQuery.Document

/-- A node of a document, by its number in document order. -/
abbrev NodeId := Nat

/-- Reads an expression and checks its names. -/
def compile (query : String) : Except SelectError XPath.Expr :=
  match XPath.parse query with
  | .error f => .error (.compile query f.code)
  | .ok e =>
    match e.check {} with
    | .error f => .error (.compile query f.code)
    | .ok () => .ok e

/-- The nodes that an expression selects, starting at the document node. -/
def execute (d : Document) (w : XPath.Surroundings) (query : String) (e : XPath.Expr) :
    Except SelectError (List NodeId) :=
  match e.value { item := .node d.table.root, surroundings := w } with
  | .error f => .error (.evaluation query f.code)
  | .ok v =>
    match XPath.Value.nodes v with
    | .error f => .error (.evaluation query f.code)
    | .ok nodes => .ok (nodes.map fun n => n.val)

/-- The nodes that a query selects, in some surroundings. -/
def evaluate (d : Document) (query : String) (w : XPath.Surroundings := {}) :
    Except SelectError (List NodeId) :=
  if query.isEmpty then .error .emptyQuery
  else (compile query).bind (d.execute w query)

end MarkupQuery.Document
