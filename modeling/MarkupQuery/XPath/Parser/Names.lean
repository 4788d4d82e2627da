import MarkupQuery.XPath.Expr
import MarkupQuery.XPath.Fault
import MarkupQuery.XPath.Lexer

/-!
# Reading names and node tests

The parts of expressions that hold no expressions: names with their namespaces, kinds of nodes, and
the node tests of steps. Each reader takes a text's tokens and gives what it read with the tokens
behind it; the first fault from left to right is the fault of the text.
-/

namespace MarkupQuery.XPath

/-- A part of an expression that was read, and the tokens behind it. -/
abbrev Reading (α : Type) := α × List Token

/-- Takes a given token. -/
def expect (token : Token) (tokens : List Token) : Except Fault (List Token) :=
  match tokens with
  | t :: rest => if t = token then .ok rest else .error .grammar
  | [] => .error .grammar

/-- The namespace of a prefix. -/
def spaceOf (pre : String) : Except Fault String :=
  match declaredPrefixes.lookup pre with
  | some space => .ok space
  | none => .error .undeclaredPrefix

/-- Reads a name; one without a prefix is in a given namespace. -/
def qualifiedName (space : String) (tokens : List Token) : Except Fault (Reading QName) :=
  match tokens with
  | .name n :: rest => .ok ({ space := space, name := n }, rest)
  | .prefixed pre n :: rest => do
    let space ← spaceOf pre
    return ({ space := space, name := n }, rest)
  | .spaced space n :: rest => .ok ({ space := space, name := n }, rest)
  | _ => .error .grammar

/-! ## Axes -/

/-- The axis of a name. -/
def axis? : String → Option Axis
  | "child" => some .child
  | "descendant" => some .descendant
  | "attribute" => some .attributes
  | "self" => some .self
  | "descendant-or-self" => some .descendantOrSelf
  | "following-sibling" => some .followingSibling
  | "following" => some .following
  | "parent" => some .parent
  | "ancestor" => some .ancestor
  | "preceding-sibling" => some .precedingSibling
  | "preceding" => some .preceding
  | "ancestor-or-self" => some .ancestorOrSelf
  | "namespace" => some .namespaces
  | _ => none

/-! ## Kinds of nodes -/

/-- Whether a name with an opening parenthesis behind it begins a test of the kind of nodes. -/
def isKind (name : String) : Bool :=
  ["node", "text", "comment", "document-node", "element", "attribute", "processing-instruction",
    "namespace-node", "schema-element", "schema-attribute"].contains name

/-- Names that no function has. -/
def isReserved (name : String) : Bool :=
  isKind name || ["if", "item", "empty-sequence", "function", "switch", "typeswitch", "map",
    "array"].contains name

/-- Reads what stands between the parentheses of a test for elements or attributes, and behind them:
nothing, or a name or a star, perhaps with a type. The result is the name, and whether nodes can be
of that type. -/
def nameAndType (tokens : List Token) : Except Fault (Reading (Option QName × Bool)) := do
  let typed (name : Option QName) (tokens : List Token) :
      Except Fault (Reading (Option QName × Bool)) := do
    match tokens with
    | .comma :: rest =>
      let (type, rest) ← qualifiedName "" rest
      let admitted ← match admitsUntyped? type with
        | some admitted => pure admitted
        | none => throw .unknownType
      let rest := match rest with
        | .question :: rest => rest
        | rest => rest
      return ((name, admitted), ← expect .closeParen rest)
    | _ => return ((name, true), ← expect .closeParen tokens)
  match tokens with
  | .closeParen :: rest => return ((none, true), rest)
  | .star :: rest => typed none rest
  | _ =>
    let (name, rest) ← qualifiedName "" tokens
    typed (some name) rest

/-- The test for nodes of a kind that may have a name, given what was read of it. -/
def namedTest (make : Option String → NodeTest) (read : Option QName × Bool) : NodeTest :=
  match read with
  | (_, false) => .absent
  | (none, true) => make none
  | (some name, true) => if name.space.isEmpty then make (some name.name) else .absent

/-- Reads the rest of a kind test behind its opening parenthesis. -/
def kindTest (kind : String) (tokens : List Token) : Except Fault (Reading NodeTest) :=
  match kind, tokens with
  | "node", .closeParen :: rest => .ok (.node, rest)
  | "text", .closeParen :: rest => .ok (.text, rest)
  | "comment", .closeParen :: rest => .ok (.comment, rest)
  | "document-node", .closeParen :: rest => .ok (.document, rest)
  | "document-node", .name "element" :: .openParen :: rest => do
    let (read, rest) ← nameAndType rest
    return (namedTest .documentOf read, ← expect .closeParen rest)
  | "element", rest => do
    let (read, rest) ← nameAndType rest
    return (namedTest .element read, rest)
  | "attribute", rest => do
    let (read, rest) ← nameAndType rest
    return (namedTest .attributeNode read, rest)
  | "processing-instruction", .closeParen :: rest => .ok (.absent, rest)
  | "processing-instruction", .name _ :: .closeParen :: rest => .ok (.absent, rest)
  | "processing-instruction", .string _ :: .closeParen :: rest => .ok (.absent, rest)
  | "namespace-node", .closeParen :: rest => .ok (.absent, rest)
  | "schema-element", rest | "schema-attribute", rest => do
    let _ ← qualifiedName "" rest
    throw .grammar
  | _, _ => .error .grammar

/-- Reads a node test. -/
def nodeTest (tokens : List Token) : Except Fault (Reading NodeTest) :=
  match tokens with
  | .name n :: .openParen :: rest => if isKind n then kindTest n rest else .error .grammar
  | .name n :: rest => .ok (.named n, rest)
  | .star :: rest => .ok (.any, rest)
  | .anyPrefixed n :: rest => .ok (.named n, rest)
  | .prefixed pre _ :: rest => (spaceOf pre).map fun _ => (.inNamespace, rest)
  | .prefixedAny pre :: rest => (spaceOf pre).map fun _ => (.inNamespace, rest)
  | .spaced space n :: rest => .ok (if space.isEmpty then .named n else .inNamespace, rest)
  | .spacedAny space :: rest => .ok (if space.isEmpty then .any else .inNamespace, rest)
  | _ => .error .grammar

end MarkupQuery.XPath
