import MarkupQuery.XPath.Library.Sequence

/-!
# Functions that apply functions

Mapping, filtering, folding and sorting with functions that are values.
-/

namespace MarkupQuery.XPath.Library

open MarkupQuery.Document (Table)

variable {t : Table}

/-! ## Sorting -/

/-- The truth value that a function must have for a result. -/
def truthOf : Value t → Except Fault Bool
  | [.atom (.boolean b)] => .ok b
  | _ => .error .wrongType

/-- The collation that an argument names, if it is there. -/
def optionalCollation (w : Surroundings) (v : Value t) : Except Fault Collation := do
  match ← v.toText? with
  | some address => collationOf w address
  | none => return .codePoints

/-- Whether one atom of a key comes before another. What is no number comes before all numbers. -/
def keyAtomBefore (c : Collation) (a b : Atom) : Except Fault Bool :=
  match a, b with
  | .number m, .number n => .ok (if m.isNaN then !n.isNaN else !n.isNaN && m.compares .lt n)
  | a, b => Atom.compare .lt (c.viewAtom a) (c.viewAtom b)

/-- Whether one key comes before another. -/
def keyBefore (c : Collation) : List Atom → List Atom → Except Fault Bool
  | [], [] => .ok false
  | [], _ :: _ => .ok true
  | _ :: _, [] => .ok false
  | a :: as, b :: bs => do
    if (c.viewAtom a).alike (c.viewAtom b) then keyBefore c as bs else keyAtomBefore c a b

/-- Puts an entry with its key before the first one that must not stand before it. -/
def insertByKey {α : Type} (c : Collation) (key : List Atom) (a : α) :
    List (List Atom × α) → Except Fault (List (List Atom × α))
  | [] => .ok [(key, a)]
  | (k, b) :: rest => do
    if ← keyBefore c k key then return (k, b) :: (← insertByKey c key a rest)
    else return (key, a) :: (k, b) :: rest

/-- Values in the order of their keys; values of one key stay as they are. -/
def sortBy (c : Collation) (key : Value t → Except Fault (Value t)) (values : List (Value t)) :
    Except Fault (List (Value t)) := do
  let keyed ← values.mapM fun v => do return (← Value.atoms (← key v), v)
  let sorted ← keyed.foldrM (fun (k, v) done => insertByKey c k v done) []
  return sorted.map (·.2)

/-! ## Functions as values -/

/-- The number of arguments that an item takes as a function. -/
def arityOf : Item t → Except Fault Nat
  | .function f => .ok f.arity
  | .map _ | .array _ => .ok 1
  | _ => .error .wrongType

/-! ## The functions -/

/-- The items of a value in the order of their keys. -/
def sortedItems (v : Value t) (c : Collation) (key : Value t → Except Fault (Value t)) :
    Except Fault (Value t) := do
  return (← sortBy c key (v.map fun i => [i])).flatten

/-- Functions that apply functions. -/
def higherOrderFunctions : List Entry :=
  [entry "for-each" [.any, functionOf 1] .any fun e args =>
    match args with
    | [v, f] => do
      let f ← f.toItem
      return (← v.mapM fun i => e.call f [[i]]).flatten
    | _ => .error .wrongType,
   entry "filter" [.any, functionOf 1] .any fun e args =>
    match args with
    | [v, f] => do
      let f ← f.toItem
      v.filterM fun i => do truthOf (← e.call f [[i]])
    | _ => .error .wrongType,
   entry "fold-left" [.any, .any, functionOf 2] .any fun e args =>
    match args with
    | [v, zero, f] => do
      let f ← f.toItem
      v.foldlM (fun done i => e.call f [done, [i]]) zero
    | _ => .error .wrongType,
   entry "fold-right" [.any, .any, functionOf 2] .any fun e args =>
    match args with
    | [v, zero, f] => do
      let f ← f.toItem
      v.foldrM (fun i done => e.call f [[i], done]) zero
    | _ => .error .wrongType,
   entry "for-each-pair" [.any, .any, functionOf 2] .any fun e args =>
    match args with
    | [v, w, f] => do
      let f ← f.toItem
      return (← (v.zip w).mapM fun (i, j) => e.call f [[i], [j]]).flatten
    | _ => .error .wrongType,
   entry "apply" [.one .anyFunction, .one .anyArray] .any fun e args =>
    match args with
    | [f, w] => do
      let f ← f.toItem
      let given ← w.toArray
      if (← arityOf f) = given.length then e.call f given else throw .wrongApply
    | _ => .error .wrongType,
   entry "sort" [.any] .any <| Run.one fun v => sortedItems v .codePoints .ok,
   entry "sort" [.any, optionalOf .string] .any fun e args =>
    match args with
    | [v, collation] => do
      sortedItems v (← optionalCollation e.context.surroundings collation) .ok
    | _ => .error .wrongType,
   entry "sort" [.any, optionalOf .string, functionOf 1] .any fun e args =>
    match args with
    | [v, collation, f] => do
      let f ← f.toItem
      let c ← optionalCollation e.context.surroundings collation
      sortedItems v c fun i => e.call f [i]
    | _ => .error .wrongType,
   entry "function-name" [.one .anyFunction] (optionalOf .qName) fun _ args =>
    match args with
    | [[.function f]] => .ok (f.name?.map fun name => Item.atom (.qname "" name)).toList
    | [[_]] => .ok []
    | _ => .error .wrongType,
   entry "function-lookup" [oneOf .qName, oneOf .integer] (.optional .anyFunction) fun e args =>
    match args with
    | [[.atom (.qname _ name)], arity] => do
      return ((e.find name (← arity.toInt).toNat).map Item.function).toList
    | _ => .error .wrongType,
   entry "function-arity" [.one .anyFunction] (oneOf .integer) <| Run.one fun f => do
    return Value.ofNat (← arityOf (← f.toItem))]

end MarkupQuery.XPath.Library
