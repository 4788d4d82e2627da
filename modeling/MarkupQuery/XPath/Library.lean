import MarkupQuery.XPath.Library.Arrays
import MarkupQuery.XPath.Library.Casts
import MarkupQuery.XPath.Library.Maps
import MarkupQuery.XPath.Library.Moments
import MarkupQuery.XPath.Library.Names
import MarkupQuery.XPath.Library.Node
import MarkupQuery.XPath.Library.Numeric
import MarkupQuery.XPath.Library.Surroundings
import MarkupQuery.XPath.Library.Text

/-!
# The library

All functions that expressions may call by name. `Library.find?` gives the entry of a name and a
number of arguments, `Entry.apply` its result.

No function of the library makes nodes: `parse-xml`, `parse-xml-fragment`, `json-to-xml` and
`analyze-string` are the names of no function (XPST0017), and so all nodes of a value are nodes of
the document. The other functions of the standard that are left out are `format-integer`,
`format-number`, `format-date`, `format-dateTime` and `format-time`, `serialize` and `xml-to-json`,
`parse-json`, `json-doc` and `parse-ietf-date`, `collation-key`, `random-number-generator`,
`transform` and `load-xquery-module`.
-/

namespace MarkupQuery.XPath

open MarkupQuery.Document (Table)

variable {t : Table}

namespace Entry

/-- The types of the parameters for a number of arguments, if there may be so many: the context item
may stand for one, and the last parameter may be given several times. -/
def parametersFor? (e : Entry) (arity : Nat) : Option (List ValueType) :=
  if arity = e.parameters.length then some e.parameters
  else if e.parameters.length < arity then
    if e.repeats then
      let more := arity - e.parameters.length
      some (e.parameters ++ List.replicate more (e.parameters.getLastD .any))
    else none
  else if arity + 1 = e.parameters.length then
    match e.use with
    | .first => some (e.parameters.drop 1)
    | .last => some e.parameters.dropLast
    | .unused | .place => none
  else none

/-- Whether a call with a number of arguments needs the context. -/
def asksContext (e : Entry) (arity : Nat) : Bool :=
  e.use = .place || arity < e.parameters.length

/-- All arguments: those given, and the context item where it stands for one. -/
def complete (e : Entry) (c : Context t) (arguments : List (Value t)) : List (Value t) :=
  if arguments.length < e.parameters.length then
    match e.use with
    | .first => [c.item] :: arguments
    | .last => arguments ++ [[c.item]]
    | .unused | .place => arguments
  else arguments

/-- Arguments as their parameters take them. -/
def convertAll : List ValueType → List (Value t) → Except Fault (List (Value t))
  | type :: types, v :: vs => do
    let first ← convert type v
    let rest ← convertAll types vs
    return first :: rest
  | [], [] => .ok []
  | _, _ => .error .wrongType

/-- The result of a function for its arguments. -/
def apply (e : Entry) (env : Env t) (arguments : List (Value t)) : Except Fault (Value t) := do
  match e.parametersFor? arguments.length with
  | some parameters =>
    let given ← convertAll parameters arguments
    e.run env (e.complete env.context given)
  | none => throw .wrongType

end Entry

namespace Library

/-- All functions of the library. -/
def all : List Entry :=
  contextFunctions ++ sequenceFunctions ++ nodeFunctions ++ textFunctions ++ textComparisons ++
    patternFunctions ++ numericFunctions ++ comparingFunctions ++ higherOrderFunctions ++
    mathFunctions ++ nameFunctions ++ mapFunctions ++ arrayFunctions ++ arrayMappers ++
    momentFunctions ++ castFunctions ++ surroundingFunctions

/-- The function of a name that takes a number of arguments. -/
def find? (name : QName) (arity : Nat) : Option Entry :=
  all.find? fun e => e.name = name && (e.parametersFor? arity).isSome

/-- The function of a name and a number of arguments as a value, named in a context. -/
def reference? (c : Context t) (name : QName) (arity : Nat) : Option (Function t) := do
  let e ← find? name arity
  let parameters ← e.parametersFor? arity
  some (.named name parameters e.result c.item c.position c.size)

end Library

end MarkupQuery.XPath
