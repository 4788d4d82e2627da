import MarkupQuery.Document.Table
import MarkupQuery.XPath.NodeTest

/-!
# Steps

The nodes that a step leads to from a node: those of an axis, in the order of the axis, that pass a
test.
-/

namespace MarkupQuery.XPath

open MarkupQuery.Document (Table)

namespace Axis

/-- The nodes above a node, the nearest first; at most `fuel` of them. -/
def above (t : Table) : Nat → Nat → List Nat
  | 0, _ => []
  | fuel + 1, n => if n = 0 then [] else t.parent n :: above t fuel (t.parent n)

/-- The nodes that follow a node and are not below it, attributes left out. -/
def followingNodes (t : Table) (n : Nat) : List Nat :=
  (Table.between (t.stop n) t.size).filter fun m => !t.isAttribute m

/-- The nodes before a node that are not above it, attributes left out, the nearest first. -/
def precedingNodes (t : Table) (n : Nat) : List Nat :=
  ((Table.between 0 n).filter fun m => !t.isAttribute m && t.stop m ≤ n).reverse

/-- The nodes beside a node: those with its parent, attributes beside attributes and others beside
others. -/
def beside (t : Table) (n : Nat) : List Nat :=
  if n = 0 then []
  else if t.isAttribute n then t.attributeNodes (t.parent n)
  else t.children (t.parent n)

/-- The nodes of an axis, in its order. From an attribute nothing leads down, not even to the
attribute itself. -/
def nodes (t : Table) (axis : Axis) (n : Nat) : List Nat :=
  match axis with
  | .child => t.children n
  | .descendant => t.descendants n
  | .attributes => t.attributeNodes n
  | .self => [n]
  | .descendantOrSelf => if t.isAttribute n then [] else n :: t.descendants n
  | .followingSibling => (beside t n).filter fun m => n < m
  | .following => followingNodes t n
  | .parent => if n = 0 then [] else [t.parent n]
  | .ancestor => above t t.size n
  | .precedingSibling => ((beside t n).filter fun m => m < n).reverse
  | .preceding => precedingNodes t n
  | .ancestorOrSelf => n :: above t t.size n
  | .namespaces => []

end Axis

namespace NodeTest

/-- Whether a node is of the kind that names along an axis stand for. -/
def isPrincipal (t : Table) (axis : Axis) (n : Nat) : Bool :=
  if axis = .attributes then t.isAttribute n else t.isElement n

/-- Whether a node has a name, if one is given. -/
def hasName (t : Table) (name : Option String) (n : Nat) : Bool :=
  match name with
  | some s => t.name? n = some s
  | none => true

/-- Whether a node passes a test. -/
def accepts (t : Table) (axis : Axis) (test : NodeTest) (n : Nat) : Bool :=
  match test with
  | .named name => isPrincipal t axis n && t.name? n = some name
  | .any => isPrincipal t axis n
  | .inNamespace => false
  | .node => true
  | .text => match t.kind n with
    | .text _ => true
    | _ => false
  | .comment => match t.kind n with
    | .comment _ => true
    | _ => false
  | .document => match t.kind n with
    | .document => true
    | _ => false
  | .documentOf name =>
    t.kind n = .document && (t.children n).any fun m => t.isElement m && hasName t name m
  | .element name => t.isElement n && hasName t name n
  | .attributeNode name => t.isAttribute n && hasName t name n
  | .absent => false

end NodeTest

/-- The nodes that a step leads to from a node, in the order of the axis. -/
def stepNodes {t : Table} (axis : Axis) (test : NodeTest) (n : t.Node) : List t.Node :=
  ((Axis.nodes t axis n).filter (NodeTest.accepts t axis test)).filterMap t.node?

end MarkupQuery.XPath
