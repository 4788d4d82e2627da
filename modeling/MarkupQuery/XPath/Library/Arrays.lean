import MarkupQuery.XPath.Library.HigherOrder

/-!
# Functions on arrays

Reading and changing arrays. The members of an array are counted from one; a place that an array
does not have is a fault.
-/

namespace MarkupQuery.XPath.Library

open MarkupQuery.Document (Table)

variable {t : Table}

/-- The array of some members. -/
def arrayOf (members : List (Value t)) : Value t :=
  [.array members]

/-- The number of members before a place, which must be one of the first `most`. -/
def placeWithin (place : Int) (most : Nat) : Except Fault Nat :=
  if 1 ≤ place && place ≤ most then .ok (place - 1).toNat else .error .noMember

/-- A member of an array. -/
def memberAt (members : List (Value t)) (place : Int) : Except Fault (Value t) := do
  return (members[← placeWithin place members.length]?).getD []

/-- The members of a list without those at some places. -/
def withoutPlaces (members : List (Value t)) (places : List Nat) : List (Value t) :=
  atPlaces (fun place => !places.contains (place - 1)) members

mutual

/-- An item, or the items of its members if it is an array. -/
def flattenedItem : Item t → Value t
  | .array members => flattenedMembers members
  | i => [i]

/-- A value with the items of its arrays in place of these, and so for arrays among them. -/
def flattened : List (Item t) → Value t
  | [] => []
  | i :: is => flattenedItem i ++ flattened is

/-- The items of the members of an array, and of arrays among them. -/
def flattenedMembers : List (List (Item t)) → Value t
  | [] => []
  | m :: ms => flattened m ++ flattenedMembers ms

end

/-- One array. -/
def oneArray : ValueType :=
  .one .anyArray

/-- A function in the namespace of functions on arrays. -/
def arrayEntry (name : String) (parameters : List ValueType) (result : ValueType)
    (run : Run) : Entry :=
  entryIn arraySpace name parameters result run

/-- Part of an array: so many members from a place on. -/
def part (members : List (Value t)) (start : Int) (length : Nat) : Except Fault (Value t) := do
  let n ← placeWithin start (members.length + 1)
  if n + length ≤ members.length then return arrayOf ((members.drop n).take length)
  else throw .noMember

/-- Functions that read and change arrays. -/
def arrayFunctions : List Entry :=
  [arrayEntry "size" [oneArray] (oneOf .integer) <| Run.one fun v => do
    return Value.ofNat (← v.toArray).length,
   arrayEntry "get" [oneArray, oneOf .integer] .any <| Run.two fun v place => do
    memberAt (← v.toArray) (← place.toInt),
   arrayEntry "put" [oneArray, oneOf .integer, .any] oneArray <| Run.three fun v place w => do
      let members ← v.toArray
      return arrayOf (members.set (← placeWithin (← place.toInt) members.length) w),
   arrayEntry "append" [oneArray, .any] oneArray <| Run.two fun v w => do
    return arrayOf ((← v.toArray) ++ [w]),
   arrayEntry "subarray" [oneArray, oneOf .integer] oneArray <| Run.two fun v start => do
      let members ← v.toArray
      let n ← placeWithin (← start.toInt) (members.length + 1)
      return arrayOf (members.drop n),
   arrayEntry "subarray" [oneArray, oneOf .integer, oneOf .integer] oneArray <|
    Run.three fun v start length => do
      let length ← length.toInt
      if length < 0 then throw .negativeLength
      part (← v.toArray) (← start.toInt) length.toNat,
   arrayEntry "remove" [oneArray, manyOf .integer] oneArray <| Run.two fun v places => do
      let members ← v.toArray
      let places ← places.mapM fun i => do placeWithin (← Value.toInt [i]) members.length
      return arrayOf (withoutPlaces members places),
   arrayEntry "insert-before" [oneArray, oneOf .integer, .any] oneArray <|
    Run.three fun v place w => do
      let members ← v.toArray
      let n ← placeWithin (← place.toInt) (members.length + 1)
      return arrayOf (members.take n ++ [w] ++ members.drop n),
   arrayEntry "head" [oneArray] .any <| Run.one fun v => do memberAt (← v.toArray) 1,
   arrayEntry "tail" [oneArray] oneArray <| Run.one fun v => do
      match ← v.toArray with
      | [] => throw .noMember
      | _ :: members => return arrayOf members,
   arrayEntry "reverse" [oneArray] oneArray <| Run.one fun v => do
    return arrayOf (← v.toArray).reverse,
   arrayEntry "join" [.many .anyArray] oneArray <| Run.one fun v => do
    return arrayOf (← v.mapM fun i => Value.toArray [i]).flatten,
   arrayEntry "flatten" [.any] .any <| Run.one fun v => .ok (flattened v)]

/-- An array with its members in the order of their keys. -/
def sortedMembers (v : Value t) (c : Collation) (key : Value t → Except Fault (Value t)) :
    Except Fault (Value t) := do
  return arrayOf (← sortBy c key (← v.toArray))

/-- Functions that apply functions to the members of arrays. -/
def arrayMappers : List Entry :=
  [arrayEntry "for-each" [oneArray, functionOf 1] oneArray fun e args =>
    match args with
    | [v, f] => do
      let f ← f.toItem
      return arrayOf (← (← v.toArray).mapM fun m => e.call f [m])
    | _ => .error .wrongType,
   arrayEntry "filter" [oneArray, functionOf 1] oneArray fun e args =>
    match args with
    | [v, f] => do
      let f ← f.toItem
      return arrayOf (← (← v.toArray).filterM fun m => do truthOf (← e.call f [m]))
    | _ => .error .wrongType,
   arrayEntry "fold-left" [oneArray, .any, functionOf 2] .any fun e args =>
    match args with
    | [v, zero, f] => do
      let f ← f.toItem
      (← v.toArray).foldlM (fun done m => e.call f [done, m]) zero
    | _ => .error .wrongType,
   arrayEntry "fold-right" [oneArray, .any, functionOf 2] .any fun e args =>
    match args with
    | [v, zero, f] => do
      let f ← f.toItem
      (← v.toArray).foldrM (fun m done => e.call f [m, done]) zero
    | _ => .error .wrongType,
   arrayEntry "for-each-pair" [oneArray, oneArray, functionOf 2] oneArray fun e args =>
    match args with
    | [v, w, f] => do
      let f ← f.toItem
      return arrayOf (← ((← v.toArray).zip (← w.toArray)).mapM fun (m, n) => e.call f [m, n])
    | _ => .error .wrongType,
   arrayEntry "sort" [oneArray] oneArray <| Run.one fun v => sortedMembers v .codePoints .ok,
   arrayEntry "sort" [oneArray, optionalOf .string] oneArray fun e args =>
    match args with
    | [v, collation] => do
      sortedMembers v (← optionalCollation e.context.surroundings collation) .ok
    | _ => .error .wrongType,
   arrayEntry "sort" [oneArray, optionalOf .string, functionOf 1] oneArray fun e args =>
    match args with
    | [v, collation, f] => do
      let f ← f.toItem
      let c ← optionalCollation e.context.surroundings collation
      sortedMembers v c fun m => e.call f [m]
    | _ => .error .wrongType]

end MarkupQuery.XPath.Library
