import MarkupQuery.Text.Address
import MarkupQuery.XPath.Library.Entry

/-!
# Functions on what is around a document

Faults that an expression asks for, and questions about resources, of which there are none.
-/

namespace MarkupQuery.XPath.Library

open MarkupQuery.Document (Table)

/-- The fault of a name; without one it is the general fault. -/
def raisedBy {t : Table} : Value t → Except Fault (Value t)
  | [] => .error (.raised "FOER0000")
  | [.atom (.qname _ name)] => .error (.raised name.name)
  | _ => .error .wrongType

/-- The functions that end in a fault. -/
def faultFunctions : List Entry :=
  let code : ValueType := optionalOf .qName
  let run {t : Table} (args : List (Value t)) : Except Fault (Value t) := raisedBy (args.headD [])
  [entry "error" [] .any fun _ => run,
   entry "error" [code] .any fun _ => run,
   entry "error" [code, oneOf .string] .any fun _ => run,
   entry "error" [code, oneOf .string, .any] .any fun _ => run]

/-- A function that reads a resource, and the fault that it ends in. -/
def reading (name : String) (result : ValueType) (fault : Fault) : Entry :=
  entry name [optionalOf .string] result fun _ args =>
    match args with
    | [[]] => .ok []
    | _ => .error fault

/-- A function that reads a collection of resources, a standing one if none is named. -/
def collecting (name : String) : List Entry :=
  [entry name [] .any fun _ _ => .error .noResource,
   entry name [optionalOf .string] .any fun _ _ => .error .noResource]

/-- An address beside another one, which must be complete. -/
def resolved (given base : String) : Except Fault Atom :=
  match Text.Address.ofText? given, Text.Address.ofText? base with
  | some a, some b =>
    if a.scheme.isSome then .ok (.string .anyUri given)
    else if b.scheme.isNone || b.fragment.isSome then .error .badAddress
    else .ok (.string .anyUri (b.resolve a).text)
  | _, _ => .error .badAddress

/-- A function that asks whether a resource can be read. -/
def asking (name : String) : Entry :=
  entry name [optionalOf .string] (oneOf .boolean) fun _ _ => .ok (Value.ofBool false)

/-- Functions on what is around a document. -/
def surroundingFunctions : List Entry :=
  faultFunctions ++
  [entry "trace" [.any] .any fun _ args => .ok (args.headD []),
   entry "trace" [.any, oneOf .string] .any fun _ args => .ok (args.headD []),
   entry "default-collation" [] (oneOf .string) fun _ _ => .ok (Value.ofString codePointAddress),
   entry "default-language" [] (oneOf .language) fun _ _ =>
    .ok (Value.ofAtom (.string .language "en")),
   entry "static-base-uri" [] (optionalOf .anyUri) fun _ _ => .ok [],
   entry "available-environment-variables" [] (manyOf .string) fun _ _ => .ok [],
   entry "environment-variable" [oneOf .string] (optionalOf .string) fun _ _ => .ok [],
   reading "doc" optionalNode .noResource,
   asking "doc-available",
   reading "unparsed-text" (optionalOf .string) .noText,
   reading "unparsed-text-lines" (manyOf .string) .noText,
   asking "unparsed-text-available",
   entry "resolve-uri" [optionalOf .string] (optionalOf .anyUri) <| Run.one fun v => do
    match ← v.toText? with
    | none => return []
    | some s =>
      match Text.Address.ofText? s with
      | some a =>
        if a.scheme.isSome then return Value.ofAtom (.string .anyUri s) else throw .noBase
      | none => throw .badAddress,
   entry "resolve-uri" [optionalOf .string, oneOf .string] (optionalOf .anyUri) <|
    Run.two fun v w => do
      match ← v.toText? with
      | none => return []
      | some s => return Value.ofAtom (← resolved s (← w.toText))] ++
  collecting "collection" ++ collecting "uri-collection"

end MarkupQuery.XPath.Library
