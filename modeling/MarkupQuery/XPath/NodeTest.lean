/-!
# Axes and node tests

The two parts of a step: the direction in which it goes, and which of the nodes there it takes.
-/

namespace MarkupQuery.XPath

/-- The direction of a step. -/
inductive Axis
  | child
  | descendant
  | attributes
  | self
  | descendantOrSelf
  | followingSibling
  | following
  | parent
  | ancestor
  | precedingSibling
  | preceding
  | ancestorOrSelf
  | namespaces
  deriving DecidableEq

/-- Whether the nodes of an axis come in reverse document order. -/
def Axis.isReverse : Axis → Bool
  | .parent | .ancestor | .precedingSibling | .preceding | .ancestorOrSelf => true
  | _ => false

/-- Which nodes of an axis a step takes. -/
inductive NodeTest
  /-- The elements, or attributes, of a name. -/
  | named (name : String)
  /-- All elements, or attributes. -/
  | any
  /-- Names of a namespace; no node of a document has one. -/
  | inNamespace
  | node
  | text
  | comment
  | document
  /-- Documents whose element has a name, if one is given. -/
  | documentOf (name : Option String)
  /-- Elements, of a name if one is given. -/
  | element (name : Option String)
  /-- Attributes, of a name if one is given. -/
  | attributeNode (name : Option String)
  /-- Kinds of nodes that documents do not hold. -/
  | absent
  deriving DecidableEq

end MarkupQuery.XPath
