import MarkupQuery.XPath.Library.Entry

/-!
# Functions on nodes

The names and places of nodes, and where the evaluation of an expression stands. Names are in no
namespace, documents have no address, and no attribute is known to identify its element.
-/

namespace MarkupQuery.XPath.Library

open MarkupQuery.Document (Table Kind)

/-- The name of a node; a node without one has an empty name. -/
def nameOf {t : Table} (v : Value t) : Except Fault (Value t) := do
  match ← v.toNode? with
  | some n => return Value.ofString ((t.name? n).getD "")
  | none => return Value.ofString ""

/-- The name of a node as an atom. -/
def nodeNameOf {t : Table} (v : Value t) : Except Fault (Value t) := do
  match ← v.toNode? with
  | some n => return ((t.name? n).map fun s => .atom (.qname "" { name := s })).toList
  | none => return []

/-- Whether two nodes count together where the place of a node among its like is told. -/
def isLike (t : Table) (m n : Nat) : Bool :=
  match t.kind m, t.kind n with
  | .element r, .element s => r == s
  | .text _, .text _ => true
  | .comment _, .comment _ => true
  | _, _ => false

/-- The last step of the path to a node. -/
def lastStep (t : Table) (n : Nat) : String :=
  let place := ((t.children (t.parent n)).filter fun m => m ≤ n && isLike t m n).length
  let placed (s : String) : String := s ++ "[" ++ toString place ++ "]"
  match t.kind n with
  | .document => ""
  | .element name => placed ("Q\x7b\x7d" ++ name)
  | .attr name _ => "@" ++ name
  | .text _ => placed "text()"
  | .comment _ => placed "comment()"

/-- The steps from the document node to a node, at most `fuel` of them. -/
def stepsTo (t : Table) : Nat → Nat → List String
  | 0, _ => []
  | fuel + 1, n => if n = 0 then [] else stepsTo t fuel (t.parent n) ++ [lastStep t n]

/-- The path to a node. -/
def pathTo (t : Table) (n : Nat) : String :=
  "/" ++ "/".intercalate (stepsTo t t.size n)

/-- Whether one node is below another. -/
def isBelow (t : Table) (n above : Nat) : Bool :=
  above < n && n < t.stop above

/-- The nodes of a list, in order, that no other of the list stands so to. -/
def without {t : Table} (related : t.Node → t.Node → Bool) (nodes : List t.Node) : Value t :=
  let nodes := inOrder nodes
  Value.ofNodes (nodes.filter fun n => !nodes.any fun m => related n m)

/-- A function of at most one node that may be the context item. -/
def nodeFunction (name : String) (result : ValueType)
    (run : {t : Table} → Value t → Except Fault (Value t)) : Entry :=
  entryOfContext name [optionalNode] result <| Run.one fun v => run v

/-- A function that finds nothing in any document. -/
def findsNothing (name : String) : List Entry :=
  [entryAtContext name [manyOf .string, .one (.node .node)] manyNodes fun _ args =>
    match args with
    | [_, [.node _]] => .ok []
    | _ => .error .wrongType]

/-- Functions on nodes. -/
def nodeFunctions : List Entry :=
  [nodeFunction "name" (oneOf .string) nameOf,
   nodeFunction "local-name" (oneOf .string) nameOf,
   nodeFunction "node-name" (optionalOf .qName) nodeNameOf,
   nodeFunction "namespace-uri" (oneOf .anyUri) fun v => do
    let _ ← v.toNode?
    return Value.ofAtom (.string .anyUri ""),
   nodeFunction "nilled" (optionalOf .boolean) fun {t} v => do
    match ← v.toNode? with
    | some n => return if t.isElement n then Value.ofBool false else []
    | none => return [],
   nodeFunction "base-uri" (optionalOf .anyUri) fun v => do
    let _ ← v.toNode?
    return [],
   nodeFunction "document-uri" (optionalOf .anyUri) fun v => do
    let _ ← v.toNode?
    return [],
   nodeFunction "root" optionalNode fun {t} v => do
    return if (← v.toNode?).isSome then [.node t.root] else [],
   nodeFunction "path" (optionalOf .string) fun {t} v => do
    match ← v.toNode? with
    | some n => return Value.ofString (pathTo t n)
    | none => return [],
   nodeFunction "generate-id" (oneOf .string) fun v => do
    match ← v.toNode? with
    | some n => return Value.ofString ("n" ++ toString n)
    | none => return Value.ofString "",
   nodeFunction "has-children" (oneOf .boolean) fun {t} v => do
    match ← v.toNode? with
    | some n => return Value.ofBool !(t.children n).isEmpty
    | none => return Value.ofBool false,
   entry "innermost" [manyNodes] manyNodes <| Run.one fun {t} v => do
    return without (fun n m => isBelow t m n) (← Value.nodes v),
   entry "outermost" [manyNodes] manyNodes <| Run.one fun {t} v => do
    return without (fun n m => isBelow t n m) (← Value.nodes v),
   entryOfContext "data" [.any] (manyOf .anyAtomic) <| Run.one fun v => do
    return Value.ofAtoms (← Value.atoms v),
   entryAtContext "lang" [optionalOf .string, .one (.node .node)] (oneOf .boolean) fun _ args =>
    match args with
    | [_, [.node _]] => .ok (Value.ofBool false)
    | _ => .error .wrongType] ++
  findsNothing "id" ++ findsNothing "element-with-id" ++ findsNothing "idref"

/-- Functions on the place of the evaluation. -/
def contextFunctions : List Entry :=
  let tell (name : String) (pick : {t : Table} → Context t → Nat) : Entry :=
    { entry name [] (oneOf .integer) (fun e _ => .ok (Value.ofNat (pick e.context))) with
      use := .place }
  [tell "position" (·.position), tell "last" (·.size)]

end MarkupQuery.XPath.Library
