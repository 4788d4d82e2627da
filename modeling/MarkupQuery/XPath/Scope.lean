import MarkupQuery.XPath.Library

/-!
# Names in scope

Before an expression is evaluated its names are checked: each function that it calls must exist,
each variable must be bound around it, and where a function is written out there is no context item.
Of two faults the one further left counts; a call comes before its arguments.
-/

namespace MarkupQuery.XPath

/-- What is known around an expression. -/
structure Scope where
  /-- The variables that are bound. -/
  bound : List QName := []
  /-- Whether there is a context item. -/
  hasContext : Bool := true

namespace Scope

/-- The scope within the binding of a variable. -/
def bind (s : Scope) (name : QName) : Scope :=
  { s with bound := name :: s.bound }

/-- The scope of an expression that is evaluated for each item of a value. -/
def focus (s : Scope) : Scope :=
  { s with hasContext := true }

/-- The scope within a function that is written out. -/
def within (s : Scope) (parameters : List QName) : Scope :=
  { bound := parameters ++ s.bound, hasContext := false }

/-- Checks that there is a context item. -/
def requireContext (s : Scope) : Except Fault Unit :=
  if s.hasContext then .ok () else .error .noContext

end Scope

/-- Whether no name of a list comes twice. -/
def distinctNames : List QName → Bool
  | [] => true
  | name :: rest => !rest.contains name && distinctNames rest

/-- Checks that the library has a function of a name and a number of arguments. The functions of
which the context is all that they ask for need one. -/
def checkFunction (s : Scope) (name : QName) (arity : Nat) : Except Fault Unit :=
  match Library.find? name arity with
  | none => .error .unknownFunction
  | some e => if e.asksContext arity then s.requireContext else .ok ()

mutual

/-- Checks the names of an expression. -/
def Expr.check (s : Scope) : Expr → Except Fault Unit
  | .integer _ | .decimal _ | .double _ | .string _ | .hole => .ok ()
  | .context | .root => s.requireContext
  | .variable name => if s.bound.contains name then .ok () else .error .unknownVariable
  | .call name arguments => do
    checkFunction s name arguments.length
    Expr.checkAll s arguments
  | .apply function arguments => do
    function.check s
    Expr.checkAll s arguments
  | .reference name arity => checkFunction s name arity
  | .inline parameters _ body =>
    if distinctNames (parameters.map (·.1)) then body.check (s.within (parameters.map (·.1)))
    else .error .duplicateParameter
  | .step axis _ predicates => do
    s.requireContext
    if axis = .namespaces then throw .unsupportedAxis
    Expr.checkAll s.focus predicates
  | .filter base predicates => do
    base.check s
    Expr.checkAll s.focus predicates
  | .lookup base key => do
    base.check s
    key.check s
  | .lookupAll base => base.check s
  | .path left right => do
    left.check s
    right.check s.focus
  | .map left right => do
    left.check s
    right.check s.focus
  | .binary _ left right => do
    left.check s
    right.check s
  | .sign _ operand => operand.check s
  | .sequence members => Expr.checkAll s members
  | .array members => Expr.checkAll s members
  | .arrayOf body => body.check s
  | .mapOf entries => Expr.checkAll s entries
  | .conditional condition yes no => do
    condition.check s
    yes.check s
    no.check s
  | .bind _ name source body => do
    source.check s
    body.check (s.bind name)
  | .instanceOf operand _ => operand.check s
  | .treat operand _ => operand.check s
  | .castable operand _ _ => operand.check s
  | .cast operand _ _ => operand.check s

/-- Checks the names of some expressions. -/
def Expr.checkAll (s : Scope) : List Expr → Except Fault Unit
  | [] => .ok ()
  | e :: es => do
    e.check s
    Expr.checkAll s es

end

end MarkupQuery.XPath
