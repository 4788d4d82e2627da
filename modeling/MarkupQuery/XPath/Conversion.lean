import MarkupQuery.XPath.Step
import MarkupQuery.XPath.Value

/-!
# Values of types

`ValueType.accepts` says whether a value is of a type. `convert` makes an argument into a value of
the type of its parameter: where atoms are asked for, nodes give theirs; text of no certain type is
read as what is asked for; numbers become floats or doubles.
-/

namespace MarkupQuery.XPath

open MarkupQuery.Document (Table)

variable {t : Table}

/-! ## Types of functions -/

/-- Whether every number of items that one occurrence allows another allows, too. -/
def Occurrence.within (o p : Occurrence) : Bool :=
  match o, p with
  | _, .many => true
  | .one, _ => true
  | .optional, .optional => true
  | .some, .some => true
  | _, _ => false

/-- Whether every node that one test accepts another accepts, too. -/
def NodeTest.within (s t : NodeTest) : Bool :=
  s = t || t = .node ||
    match s, t with
    | .element _, .element none => true
    | .attributeNode _, .attributeNode none => true
    | .documentOf _, .document => true
    | _, _ => false

mutual

/-- Whether every item of one type is of another. -/
def ItemType.within (s : ItemType) : ItemType → Bool
  | .item => true
  | .atomic t =>
    match s with
    | .atomic u => u.derives t
    | .numeric => t = .anyAtomic
    | _ => false
  | .numeric =>
    match s with
    | .numeric => true
    | .atomic u => u.derives .decimal || u = .float || u = .double
    | _ => false
  | .node t =>
    match s with
    | .node u => u.within t
    | _ => false
  | .anyFunction =>
    match s with
    | .anyFunction | .function _ _ | .anyMap | .map _ _ | .anyArray | .array _ => true
    | _ => false
  | .function parameters result =>
    match s with
    | .function given returned =>
      given.length = parameters.length && returned.within result
    | _ => false
  | .anyMap =>
    match s with
    | .anyMap | .map _ _ => true
    | _ => false
  | .map key value =>
    match s with
    | .map k v => k.derives key && v.within value
    | _ => false
  | .anyArray =>
    match s with
    | .anyArray | .array _ => true
    | _ => false
  | .array member =>
    match s with
    | .array m => m.within member
    | _ => false

/-- Whether every value of one type is of another. -/
def ValueType.within (s : ValueType) : ValueType → Bool
  | .empty =>
    match s with
    | .empty => true
    | _ => false
  | .of type occurrence =>
    match s with
    | .empty => occurrence = .optional || occurrence = .many
    | .of t o => o.within occurrence && t.within type

end

/-- Whether the types of one list take in those of another, one by one. -/
def parametersWithin : List ValueType → List ValueType → Bool
  | [], [] => true
  | p :: ps, q :: qs => p.within q && parametersWithin ps qs
  | _, _ => false

namespace Function

/-- The types of the parameters of a function, and of its result. -/
def signature : Function t → List ValueType × ValueType
  | named _ parameters result _ _ _ => (parameters, result)
  | inline parameters result _ _ => (parameters.map (·.2), result)
  | fixed f arguments =>
    let (parameters, result) := f.signature
    ((parameters.zip arguments).filterMap fun (p, a) => if a.isNone then some p else none, result)

/-- The name of a function of the library. -/
def name? : Function t → Option QName
  | named name _ _ _ _ _ => some name
  | _ => none

/-- The number of arguments that a function takes. -/
def arity (f : Function t) : Nat :=
  f.signature.1.length

end Function

/-! ## Types of values -/

mutual

/-- Whether an item is of a type. -/
def ItemType.accepts : ItemType → Item t → Bool
  | .item, _ => true
  | .atomic type, i =>
    match i with
    | .atom a => a.type.derives type
    | _ => false
  | .numeric, i =>
    match i with
    | .atom (.number _) => true
    | _ => false
  | .node test, i =>
    match i with
    | .node n => test.accepts t .child n
    | _ => false
  | .anyFunction, i =>
    match i with
    | .function _ | .map _ | .array _ => true
    | _ => false
  | .function parameters result, i =>
    match i with
    | .function f =>
      let (given, returned) := f.signature
      parametersWithin parameters given && returned.within result
    | .map entries => parameters.length = 1 && entries.all fun e => result.accepts e.2
    | .array members => parameters.length = 1 && members.all fun m => result.accepts m
    | _ => false
  | .anyMap, i =>
    match i with
    | .map _ => true
    | _ => false
  | .map key value, i =>
    match i with
    | .map entries => entries.all fun e => e.1.type.derives key && value.accepts e.2
    | _ => false
  | .anyArray, i =>
    match i with
    | .array _ => true
    | _ => false
  | .array member, i =>
    match i with
    | .array members => members.all fun m => member.accepts m
    | _ => false

/-- Whether a value is of a type. -/
def ValueType.accepts : ValueType → Value t → Bool
  | .empty, v => v.isEmpty
  | .of type occurrence, v => occurrence.admits v.length && v.all fun i => type.accepts i

end

/-! ## Conversion -/

/-- An atom as a parameter of a type of atoms takes it. -/
def convertAtom (type : AtomicType) (a : Atom) : Except Fault Atom :=
  match a with
  | .untyped s =>
    if type = .anyAtomic || type = .untyped then .ok a
    else if type = .qName || type = .notationName then .error .wrongType
    else Atom.ofText type s
  | .number n =>
    if a.type.derives type then .ok a
    else if type = .double then .ok (.number (.double n.toDouble))
    else if type = .float then
      match n with
      | .double _ => .error .wrongType
      | n => .ok (.number (.float n.toFloat))
    else .error .wrongType
  | .string source s =>
    if source.derives type then .ok a
    else if source = .anyUri && type = .string then .ok (.ofString s)
    else .error .wrongType
  | a => if a.type.derives type then .ok a else .error .wrongType

/-- An atom as a parameter for numbers takes it. -/
def convertNumeric (a : Atom) : Except Fault Atom :=
  match a with
  | .untyped s => Atom.ofText .double s
  | .number _ => .ok a
  | _ => .error .wrongType

/-- The items of a value as a parameter takes them, whatever their number. -/
def convertItems (type : ItemType) (v : Value t) : Except Fault (Value t) :=
  match type with
  | .atomic type => do
    return Value.ofAtoms (← (← Value.atoms v).mapM (convertAtom type))
  | .numeric => do
    return Value.ofAtoms (← (← Value.atoms v).mapM convertNumeric)
  | .function parameters _ =>
    if v.all fun i =>
        match i with
        | .function f => f.arity = parameters.length
        | .map _ | .array _ => parameters.length = 1
        | _ => false
      then .ok v else .error .wrongType
  | type => if v.all fun i => type.accepts i then .ok v else .error .wrongType

/-- An argument as its parameter takes it. -/
def convert (type : ValueType) (v : Value t) : Except Fault (Value t) :=
  match type with
  | .empty => if v.isEmpty then .ok v else .error .wrongType
  | .of type occurrence => do
    let converted ← convertItems type v
    if occurrence.admits converted.length then return converted else throw .wrongType

end MarkupQuery.XPath
