import MarkupQuery.XPath.Entries
import MarkupQuery.XPath.Library

/-!
# Evaluating expressions

`Expr.eval` gives the value of an expression for a context, by recursion on the expression; what it
does with functions that are values is given to it as `call`. `callWithin` calls such functions, so
many of them within each other; `Expr.value` puts the two together.
-/

namespace MarkupQuery.XPath

open MarkupQuery.Document (Table)

variable {t : Table}

/-! ## Operators -/

/-- The result of an operator on sets of nodes, in document order; any but `intersect` and `except`
unites. -/
def setOperation (op : Operator) (left right : List t.Node) : List t.Node :=
  match op with
  | .intersect => (inOrder left).filter right.contains
  | .except => (inOrder left).filter fun n => !right.contains n
  | _ => union (inOrder left) (inOrder right)

/-- A comparison of values of one atom; empty if one of them is. -/
def compareSingle (c : Comparison) (left right : Value t) : Except Fault (Value t) := do
  if left.isEmpty || right.isEmpty then return []
  match ← Value.atom? left, ← Value.atom? right with
  | some a, some b => return Value.ofBool (← Atom.compare c a b)
  | _, _ => return []

/-- A comparison of values of one node; empty if one of them is. -/
def compareNodes (test : t.Node → t.Node → Bool) (left right : Value t) : Except Fault (Value t) :=
  if left.isEmpty || right.isEmpty then .ok []
  else match left, right with
    | [.node a], [.node b] => .ok (Value.ofBool (test a b))
    | _, _ => .error .wrongType

/-- The integer that a bound of a range is. -/
def rangeBound (v : Value t) : Except Fault (Option Int) := do
  match ← Value.atom? v with
  | none => return none
  | some (.number (.integer _ n)) => return some n
  | some (.untyped s) =>
    match ← Atom.ofText .integer s with
    | .number (.integer _ n) => return some n
    | _ => throw .wrongType
  | some _ => throw .wrongType

/-- The integers from one bound to another. -/
def rangeOf (left right : Value t) : Except Fault (Value t) := do
  match ← rangeBound right, ← rangeBound left with
  | some b, some a =>
    return (List.range (b - a + 1).toNat).flatMap fun (i : Nat) => Value.ofInt (a + i)
  | _, _ => return []

/-- The text of an operand of a concatenation. -/
def concatText (v : Value t) : Except Fault String := do
  match ← Value.atom? v with
  | some a => return a.text
  | none => return ""

/-- Whether both operands are true. The right one decides alone where it is false. -/
def bothTrue (left right : Value t) : Except Fault Bool := do
  if ← Value.truth right then Value.truth left else return false

/-- Whether one of two operands is true. The right one decides alone where it is true. -/
def eitherTrue (left right : Value t) : Except Fault Bool := do
  if ← Value.truth right then return true else Value.truth left

/-- The value of an operator for the values of its operands. -/
def operate (op : Operator) (left right : Value t) : Except Fault (Value t) := do
  match op with
  | .or => return Value.ofBool (← eitherTrue left right)
  | .and => return Value.ofBool (← bothTrue left right)
  | .general c =>
    return Value.ofBool (← somePairCompares c (← Value.atoms right) (← Value.atoms left))
  | .value c => compareSingle c left right
  | .same => compareNodes (fun a b => a == b) left right
  | .before => compareNodes (fun a b => a < b) left right
  | .after => compareNodes (fun a b => b < a) left right
  | .concat => return Value.ofString ((← concatText left) ++ (← concatText right))
  | .range => rangeOf left right
  | .arithmetic a => arithmetic a left right
  | .union | .intersect | .except =>
    return Value.ofNodes (setOperation op (← Value.nodes left) (← Value.nodes right))

/-! ## Types -/

/-- A value cast to a type of atoms. An empty value is allowed only where it is said to be. -/
def castValue (type : AtomicType) (emptyToo : Bool) (v : Value t) :
    Except Fault (Value t) := do
  match ← Value.atom? v with
  | some a => return Value.ofAtom (← a.cast type)
  | none => if emptyToo then return [] else throw .wrongType

/-- Whether a computation comes to a result. -/
def succeeds (x : Except Fault (Value t)) : Bool :=
  match x with
  | .ok _ => true
  | .error _ => false

/-! ## Maps and arrays -/

/-- What stands in a place of an array, told by an atom. -/
def memberFor (members : List (Value t)) (key : Atom) : Except Fault (Value t) := do
  match ← convertAtom .integer key with
  | .number (.integer _ n) => Library.memberAt members n
  | _ => throw .wrongType

/-- What stands under a key of a map, or in a place of an array. -/
def lookupIn (i : Item t) (key : Atom) : Except Fault (Value t) :=
  match i with
  | .map entries => .ok ((Entries.get? entries key).getD [])
  | .array members => memberFor members key
  | _ => .error .wrongType

/-- All that stands in a map or an array. -/
def contentOf (i : Item t) : Except Fault (Value t) :=
  match i with
  | .map entries => .ok (entries.flatMap (·.2))
  | .array members => .ok members.flatten
  | _ => .error .wrongType

/-- The map of keys and values in turn. -/
def mapOfValues : List (Value t) → Except Fault (Entries t)
  | key :: v :: rest => do
    match ← Value.atom? key with
    | some key =>
      let entries ← mapOfValues rest
      if (Entries.get? entries key).isSome then throw .duplicateKey
      return (key, v) :: entries
    | none => throw .wrongType
  | _ => .ok []

/-! ## Predicates -/

/-- Whether an item at a place passes a predicate of a value: a number must be the place, any other
value must be true. A value of several atoms is no predicate. -/
def passes (place : Nat) (v : Value t) : Except Fault Bool := do
  match ← Value.atom? v with
  | some (.number n) => return n.compares .eq (.ofNat place)
  | _ => Value.truth v

/-- Keeps the items for which a test holds; a test may fail. -/
def keepItems (test : Item t → Nat → Except Fault Bool) : Nat → Value t → Except Fault (Value t)
  | _, [] => .ok []
  | place, i :: is => do
    let kept ← test i place
    let rest ← keepItems test (place + 1) is
    return if kept then i :: rest else rest

/-- The values of an expression for all items of a value, one after the other. -/
def forItems (f : Item t → Nat → Except Fault (Value t)) :
    Nat → Value t → Except Fault (List (Value t))
  | _, [] => .ok []
  | place, i :: is => do
    let first ← f i place
    let rest ← forItems f (place + 1) is
    return first :: rest

/-- Whether a condition holds for some item, or for all, the items taken in order. -/
def quantify (every : Bool) (f : Item t → Except Fault (Value t)) : Value t → Except Fault (Value t)
  | [] => .ok (Value.ofBool every)
  | i :: is => do
    let holds ← Value.truth (← f i)
    if holds = every then quantify every f is else return Value.ofBool holds

/-! ## Calls -/

/-- The values of the arguments of a call, none for those left open. -/
abbrev Arguments (t : Table) := List (Option (Value t))

/-- The arguments of a call, if none is left open. -/
def allGiven (arguments : Arguments t) : Option (List (Value t)) :=
  arguments.mapM id

/-- A function with some of its arguments given. -/
def fixArguments (f : Item t) (arguments : Arguments t) : Except Fault (Value t) :=
  match f with
  | .function f =>
    if f.arity = arguments.length then .ok [.function (.fixed f arguments)] else .error .wrongType
  | .map _ | .array _ => if arguments.length = 1 then .ok [f] else .error .wrongType
  | _ => .error .wrongType

/-- The arguments of a function some of whose arguments were given before. -/
def fillIn : Arguments t → List (Value t) → List (Value t)
  | [], more => more
  | some v :: rest, more => v :: fillIn rest more
  | none :: rest, v :: more => v :: fillIn rest more
  | none :: rest, [] => fillIn rest []

/-! ## Expressions -/

/-- How functions that are values are called. -/
abbrev Call (t : Table) := Item t → List (Value t) → Except Fault (Value t)

/-- What a function of the library may use. -/
def envOf (call : Call t) (c : Context t) : Env t :=
  { context := c, call := call, find := Library.reference? c }

mutual

/-- The value of an expression. -/
def Expr.eval (call : Call t) (c : Context t) : Expr → Except Fault (Value t)
  | .integer n => .ok (Value.ofNat n)
  | .decimal q => .ok (Value.ofNumber (.decimal q))
  | .double x => .ok (Value.ofNumber (.double x))
  | .string s => .ok (Value.ofString s)
  | .hole => .error .wrongType
  | .context => .ok [c.item]
  | .root =>
    match c.item with
    | .node _ => .ok [.node t.root]
    | _ => .error .wrongType
  | .variable name =>
    match c.bindings.lookup name with
    | some v => .ok v
    | none => .error .unknownVariable
  | .call name arguments => do
    let given ← Expr.evalArguments call c arguments
    match Library.find? name arguments.length, allGiven given with
    | some e, some values => e.apply (envOf call c) values
    | some _, none =>
      match Library.reference? c name arguments.length with
      | some f => fixArguments (.function f) given
      | none => throw .unknownFunction
    | none, _ => throw .unknownFunction
  | .apply function arguments => do
    let f ← function.eval call c
    let given ← Expr.evalArguments call c arguments
    match f, allGiven given with
    | [f], some values => call f values
    | [f], none => fixArguments f given
    | _, _ => throw .wrongType
  | .reference name arity =>
    match Library.reference? c name arity with
    | some f => .ok [.function f]
    | none => .error .unknownFunction
  | .inline parameters result body => .ok [.function (.inline parameters result body c.bindings)]
  | .step axis test predicates =>
    match c.item with
    | .node n => do
      let found ← Expr.select call c (Value.ofNodes (stepNodes axis test n)) predicates
      return if axis.isReverse then found.reverse else found
    | _ => .error .wrongType
  | .filter base predicates => do
    Expr.select call c (← base.eval call c) predicates
  | .lookup base key => do
    let v ← base.eval call c
    let keys ← Value.atoms (← key.eval call c)
    let parts ← forItems (fun i _ => do return (← keys.mapM (lookupIn i)).flatten) 1 v
    return parts.flatten
  | .lookupAll base => do
    let parts ← forItems (fun i _ => contentOf i) 1 (← base.eval call c)
    return parts.flatten
  | .path left right => do
    let start ← left.eval call c
    joinSteps (← forItems (fun i place =>
      right.eval call { c with item := i, position := place, size := start.length }) 1 start)
  | .map left right => do
    let start ← left.eval call c
    let parts ← forItems (fun i place =>
      right.eval call { c with item := i, position := place, size := start.length }) 1 start
    return parts.flatten
  | .binary op left right => do
    let a ← left.eval call c
    operate op a (← right.eval call c)
  | .sign negative operand => do
    signed negative (← operand.eval call c)
  | .sequence members => do
    return (← Expr.evalAll call c members).flatten
  | .array members => do
    return [.array (← Expr.evalAll call c members)]
  | .arrayOf body => do
    return [.array ((← body.eval call c).map fun i => [i])]
  | .mapOf entries => do
    return [.map (← mapOfValues (← Expr.evalAll call c entries))]
  | .conditional condition yes no => do
    if ← Value.truth (← condition.eval call c) then yes.eval call c else no.eval call c
  | .bind .whole name source body => do
    let v ← source.eval call c
    body.eval call { c with bindings := (name, v) :: c.bindings }
  | .bind .each name source body => do
    let v ← source.eval call c
    let parts ← forItems (fun i _ =>
      body.eval call { c with bindings := (name, [i]) :: c.bindings }) 1 v
    return parts.flatten
  | .bind .some name source body => do
    let v ← source.eval call c
    quantify false (fun i => body.eval call { c with bindings := (name, [i]) :: c.bindings }) v
  | .bind .every name source body => do
    let v ← source.eval call c
    quantify true (fun i => body.eval call { c with bindings := (name, [i]) :: c.bindings }) v
  | .instanceOf operand type => do
    return Value.ofBool (type.accepts (← operand.eval call c))
  | .treat operand type => do
    let v ← operand.eval call c
    if type.accepts v then return v else throw .wrongTreat
  | .castable operand type emptyToo => do
    let v ← operand.eval call c
    return Value.ofBool (succeeds (castValue type emptyToo v))
  | .cast operand type emptyToo => do
    castValue type emptyToo (← operand.eval call c)

/-- The values of some expressions. -/
def Expr.evalAll (call : Call t) (c : Context t) :
    List Expr → Except Fault (List (Value t))
  | [] => .ok []
  | e :: es => do
    let first ← e.eval call c
    let rest ← Expr.evalAll call c es
    return first :: rest

/-- The values of the arguments of a call. -/
def Expr.evalArguments (call : Call t) (c : Context t) :
    List Expr → Except Fault (Arguments t)
  | [] => .ok []
  | .hole :: es => do
    let rest ← Expr.evalArguments call c es
    return none :: rest
  | e :: es => do
    let first ← e.eval call c
    let rest ← Expr.evalArguments call c es
    return some first :: rest

/-- The items of a value that pass predicates, one predicate after the other. Each sees the place of
an item among those that passed before, and their number. -/
def Expr.select (call : Call t) (c : Context t) (v : Value t) :
    List Expr → Except Fault (Value t)
  | [] => .ok v
  | p :: ps => do
    let kept ← keepItems (fun i place => do
      passes place (← p.eval call { c with item := i, position := place, size := v.length }))
      1 v
    Expr.select call c kept ps

end

/-! ## Functions that are values -/

/-- Binds arguments to parameters, each as its parameter takes it. -/
def bindAll (bindings : List (QName × Value t)) :
    List (QName × ValueType) → List (Value t) → Except Fault (List (QName × Value t))
  | (name, type) :: parameters, v :: vs => do
    let first ← convert type v
    return (name, first) :: (← bindAll bindings parameters vs)
  | [], [] => .ok bindings
  | _, _ => .error .wrongType

/-- The result of a function for its arguments. -/
def Function.run (w : Surroundings) (call : Call t) :
    Function t → List (Value t) → Except Fault (Value t)
  | .named name _ _ item position size, arguments =>
    let c : Context t :=
      { item := item, surroundings := w, position := position, size := size }
    match Library.find? name arguments.length with
    | some e => e.apply (envOf call c) arguments
    | none => .error .wrongType
  | .inline parameters result body bindings, arguments => do
    let bindings ← bindAll bindings parameters arguments
    let c : Context t := { item := .node t.root, surroundings := w, bindings := bindings }
    convert result (← body.eval call c)
  | .fixed f given, arguments => Function.run w call f (fillIn given arguments)

/-- Calls a function, a map or an array. At most `fuel` calls may be open at a time. -/
def callWithin (w : Surroundings) : Nat → Call t
  | 0, _, _ => .error .tooDeep
  | fuel + 1, .function f, arguments =>
    if f.arity = arguments.length then f.run w (callWithin w fuel) arguments
    else .error .wrongType
  | _ + 1, .map entries, arguments =>
    match arguments with
    | [key] => do
      match ← Value.atom? key with
      | some key => return (Entries.get? entries key).getD []
      | none => throw .wrongType
    | _ => .error .wrongType
  | _ + 1, .array members, arguments =>
    match arguments with
    | [key] => do
      match ← Value.atom? key with
      | some key => memberFor members key
      | none => throw .wrongType
    | _ => .error .wrongType
  | _ + 1, _, _ => .error .wrongType

/-- How many calls of functions that are values may be open at a time. -/
def callDepth : Nat :=
  64

/-- The value of an expression, with functions that are values called as they are. -/
def Expr.value (c : Context t) (e : Expr) : Except Fault (Value t) :=
  e.eval (callWithin c.surroundings callDepth) c

end MarkupQuery.XPath
