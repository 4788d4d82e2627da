import MarkupQuery.XPath.Library.Entry

/-!
# Functions on names

Making names, and taking them apart.
-/

namespace MarkupQuery.XPath.Library

/-- A name in a namespace, from the text that it is written as. -/
def expandedName (space written : String) : Except Fault Atom :=
  match (Text.partsBetween (· = ':') written.toList).map String.ofList with
  | [name] =>
    if isName name then .ok (.qname "" { space := space, name := name }) else .error .badName
  | [pre, name] =>
    if isName pre && isName name && !space.isEmpty then
      .ok (.qname pre { space := space, name := name })
    else .error .badName
  | _ => .error .badName

/-- A function of a name, if there is one. -/
def nameFunction (name : String) (result : ValueType) (run : String → QName → Option Atom) :
    Entry :=
  entry name [optionalOf .qName] result fun _ args =>
    match args with
    | [[]] => .ok []
    | [[.atom (.qname pre name)]] => .ok (Value.ofAtoms (run pre name).toList)
    | _ => .error .wrongType

/-- The namespace of a prefix on an element; names without a prefix are in none. -/
def namespaceOf? (pre : String) : Option String :=
  if pre == "xml" then declaredPrefixes.lookup pre else none

/-- Functions on names. -/
def nameFunctions : List Entry :=
  [entry "QName" [optionalOf .string, oneOf .string] (oneOf .qName) <| Run.two fun space name => do
      return Value.ofAtom (← expandedName (← space.toText) (← name.toText)),
   nameFunction "prefix-from-QName" (optionalOf .ncName) fun pre _ =>
    if pre.isEmpty then none else some (.string .ncName pre),
   nameFunction "local-name-from-QName" (optionalOf .ncName) fun _ name =>
    some (.string .ncName name.name),
   nameFunction "namespace-uri-from-QName" (optionalOf .anyUri) fun _ name =>
    some (.string .anyUri name.space),
   entry "resolve-QName" [optionalOf .string, .one (.node (.element none))] (optionalOf .qName) <|
    Run.two fun name _ => do
      match ← name.toText? with
      | none => return []
      | some s =>
        match (Text.partsBetween (· = ':') s.toList).map String.ofList with
        | [pre, _] =>
          match namespaceOf? pre with
          | some space => return Value.ofAtom (← expandedName space s)
          | none => throw .noNamespace
        | _ => return Value.ofAtom (← expandedName "" s),
   entry "namespace-uri-for-prefix" [optionalOf .string, .one (.node (.element none))]
    (optionalOf .anyUri) <| Run.two fun pre _ => do
      return ((namespaceOf? (← pre.toText)).map fun s => Item.atom (.string .anyUri s)).toList,
   entry "in-scope-prefixes" [.one (.node (.element none))] (manyOf .string) fun _ _ =>
    .ok (Value.ofString "xml")]

end MarkupQuery.XPath.Library
