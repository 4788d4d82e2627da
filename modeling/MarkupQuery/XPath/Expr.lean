import MarkupQuery.XPath.Number

/-!
# Expressions

The expressions by which nodes of a document are selected.
-/

namespace MarkupQuery.XPath

/-- An operator between two expressions. -/
inductive Operator
  | or
  | and
  /-- A comparison that holds if it holds for some items. -/
  | general (c : Comparison)
  /-- A comparison of single items. -/
  | value (c : Comparison)
  /-- Whether two nodes are the same. -/
  | same
  | before
  | after
  | concat
  | range
  | arithmetic (a : Arithmetic)
  | union
  | intersect
  | except
  deriving DecidableEq

/-- A way to bind a variable to the items of a value. -/
inductive Binder
  /-- The results for all items, in order. -/
  | each
  /-- The result for the whole value. -/
  | whole
  /-- Whether a condition holds for an item. -/
  | some
  /-- Whether a condition holds for all items. -/
  | every
  deriving DecidableEq

/-- An expression. -/
inductive Expr
  | integer (n : Nat)
  | decimal (q : Rat)
  | double (x : Float)
  | string (s : String)
  /-- The context item. -/
  | context
  /-- The document node. -/
  | root
  | variable (name : QName)
  /-- A call of a function by its name. Where an argument is a hole the result is a function. -/
  | call (name : QName) (arguments : List Expr)
  /-- An argument that is left open. -/
  | hole
  /-- A call of the function that an expression gives. -/
  | apply (function : Expr) (arguments : List Expr)
  /-- The function of a name and a number of arguments. -/
  | reference (name : QName) (arity : Nat)
  /-- A function written out. -/
  | inline (parameters : List (QName × ValueType)) (result : ValueType) (body : Expr)
  /-- A step from the context node, filtered by predicates. -/
  | step (axis : Axis) (test : NodeTest) (predicates : List Expr)
  /-- A value filtered by predicates. -/
  | filter (base : Expr) (predicates : List Expr)
  /-- What stands under a key in maps, or in a place of arrays. -/
  | lookup (base key : Expr)
  /-- All that stands in maps or arrays. -/
  | lookupAll (base : Expr)
  /-- The right side evaluated for each node of the left; nodes in document order. -/
  | path (left right : Expr)
  /-- The right side evaluated for each item of the left. -/
  | map (left right : Expr)
  | binary (op : Operator) (left right : Expr)
  /-- A signed number. -/
  | sign (negative : Bool) (operand : Expr)
  /-- The values of the members, one after the other. -/
  | sequence (members : List Expr)
  /-- An array of the values of its members. -/
  | array (members : List Expr)
  /-- An array of the items of a value. -/
  | arrayOf (body : Expr)
  /-- A map; keys and what stands under them, in turn. -/
  | mapOf (entries : List Expr)
  | conditional (condition yes no : Expr)
  | bind (binder : Binder) (name : QName) (source body : Expr)
  | instanceOf (operand : Expr) (type : ValueType)
  | treat (operand : Expr) (type : ValueType)
  /-- Whether a value can be cast to a type; an empty one, only if this is allowed. -/
  | castable (operand : Expr) (type : AtomicType) (emptyToo : Bool)
  | cast (operand : Expr) (type : AtomicType) (emptyToo : Bool)

end MarkupQuery.XPath
