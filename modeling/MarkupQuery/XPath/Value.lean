import MarkupQuery.Document.Table
import MarkupQuery.XPath.Cast
import MarkupQuery.XPath.Expr

/-!
# Values

A value is a sequence of items: nodes, atoms, arrays, maps and functions. Most operations look at
the atoms of a value (`Value.atoms`); the atom of a node is its text, of no certain type.
-/

namespace MarkupQuery.XPath

open MarkupQuery.Document (Table)

mutual

/-- A member of a value, where nodes are those of a document. -/
inductive Item (t : Table)
  | node (n : t.Node)
  | atom (a : Atom)
  | array (members : List (List (Item t)))
  /-- A map: its keys with what stands under them. -/
  | map (entries : List (Atom × List (Item t)))
  | function (f : Function t)

/-- A function. -/
inductive Function (t : Table)
  /-- A function of the library, with the context that it was named in. -/
  | named (name : QName) (parameters : List ValueType) (result : ValueType) (item : Item t)
    (position size : Nat)
  /-- A function written out, with the variables that were bound around it. -/
  | inline (parameters : List (QName × ValueType)) (result : ValueType) (body : Expr)
    (bindings : List (QName × List (Item t)))
  /-- A function with some of its arguments given. -/
  | fixed (f : Function t) (arguments : List (Option (List (Item t))))

end

/-- A sequence of items. -/
abbrev Value (t : Table) := List (Item t)

/-- What an evaluation finds around it. It stays as it is until the evaluation ends. -/
structure Surroundings where
  /-- The present moment. -/
  now : Moment := { year := 1970, month := 1, day := 1, zone := some 0 }
  /-- The collations that are known beside those of the library, by address. Such a collation gives
  each text a key: texts with one key are alike, and the others are in the order of their keys. -/
  sortKey? : String → Option (String → String) := fun _ => none

/-- What an expression is evaluated for. -/
structure Context (t : Table) where
  item : Item t
  surroundings : Surroundings
  position : Nat := 1
  size : Nat := 1
  /-- The variables in scope, the innermost first. -/
  bindings : List (QName × Value t) := []

variable {t : Table}

namespace Value

/-- The value of one atom. -/
def ofAtom (a : Atom) : Value t :=
  [.atom a]

/-- The value of one truth value. -/
def ofBool (b : Bool) : Value t :=
  ofAtom (.boolean b)

/-- The value of one text. -/
def ofString (s : String) : Value t :=
  ofAtom (.ofString s)

/-- The value of one number. -/
def ofNumber (n : Number) : Value t :=
  ofAtom (.number n)

/-- The value of one integer. -/
def ofInt (n : Int) : Value t :=
  ofAtom (.ofInt n)

/-- The value of one natural number. -/
def ofNat (n : Nat) : Value t :=
  ofInt n

/-- The value of some atoms. -/
def ofAtoms (atoms : List Atom) : Value t :=
  atoms.map .atom

/-- The value of some nodes. -/
def ofNodes (nodes : List t.Node) : Value t :=
  nodes.map .node

end Value

/-! ## Atoms -/

/-- The atom of a node. -/
def nodeAtom (n : t.Node) : Atom :=
  .untyped (t.text n)

mutual

/-- The atoms of an item. Functions and maps have none. -/
def Item.atoms : Item t → Except Fault (List Atom)
  | .node n => .ok [nodeAtom n]
  | .atom a => .ok [a]
  | .array members => memberAtoms members
  | .map _ => .error .atomizedFunction
  | .function _ => .error .atomizedFunction

/-- The atoms of a value. -/
def Value.atoms : List (Item t) → Except Fault (List Atom)
  | [] => .ok []
  | i :: is => do
    let first ← Item.atoms i
    let rest ← Value.atoms is
    return first ++ rest

/-- The atoms of the members of an array. -/
def memberAtoms : List (List (Item t)) → Except Fault (List Atom)
  | [] => .ok []
  | m :: ms => do
    let first ← Value.atoms m
    let rest ← memberAtoms ms
    return first ++ rest

end

/-- The only atom of a value, if it has one at all. -/
def Value.atom? (v : Value t) : Except Fault (Option Atom) := do
  match ← Value.atoms v with
  | [] => return none
  | [a] => return some a
  | _ => throw .wrongType

/-- Whether an atom counts as true. -/
def Atom.truth : Atom → Except Fault Bool
  | .untyped s => .ok !s.isEmpty
  | .string _ s => .ok !s.isEmpty
  | .boolean b => .ok b
  | .number n => .ok n.isTrue
  | _ => .error .badArgument

/-- The truth value of a value. -/
def Value.truth : Value t → Except Fault Bool
  | [] => .ok false
  | .node _ :: _ => .ok true
  | [.atom a] => a.truth
  | _ => .error .badArgument

/-- The nodes of a value that holds nothing else. -/
def Value.nodes : Value t → Except Fault (List t.Node)
  | [] => .ok []
  | .node n :: rest => (Value.nodes rest).map (n :: ·)
  | _ :: _ => .error .wrongType

/-! ## Sets of nodes -/

/-- Puts a node before the nodes that `rest` adds to a list, in order. -/
def unionFrom (x : t.Node) (rest : List t.Node → List t.Node) : List t.Node → List t.Node
  | [] => x :: rest []
  | y :: ys =>
    if x < y then x :: rest (y :: ys)
    else if x = y then x :: rest ys
    else y :: unionFrom x rest ys

/-- The nodes of two lists in document order, each once. -/
def union : List t.Node → List t.Node → List t.Node
  | [] => id
  | x :: xs => unionFrom x (union xs)

/-- The nodes of a list in document order, each once. -/
def inOrder (nodes : List t.Node) : List t.Node :=
  nodes.foldr (fun n rest => union [n] rest) []

/-- The nodes of some lists in document order, each once. -/
def unionAll (parts : List (List t.Node)) : List t.Node :=
  parts.foldr (fun part rest => union (inOrder part) rest) []

/-- Whether an item is a node. -/
def Item.isNode : Item t → Bool
  | .node _ => true
  | _ => false

/-- The node that an item is; other items are none. -/
def Item.node? : Item t → Option t.Node
  | .node n => some n
  | _ => none

/-- What a path leads to from all its starting points: nodes in document order, each once, or other
items as they come, but not both. -/
def joinSteps (parts : List (Value t)) : Except Fault (Value t) :=
  if parts.all fun part => part.all Item.isNode then
    .ok (Value.ofNodes (unionAll (parts.map fun part => part.filterMap Item.node?)))
  else if parts.all fun part => part.all fun i => !i.isNode then .ok parts.flatten
  else .error .wrongType

end MarkupQuery.XPath
