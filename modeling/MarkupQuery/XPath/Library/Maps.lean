import MarkupQuery.XPath.Entries
import MarkupQuery.XPath.Library.Entry

/-!
# Functions on maps

Reading, changing and merging maps.
-/

namespace MarkupQuery.XPath.Library

open MarkupQuery.Document (Table)

variable {t : Table}

/-- What counts where a key stands in several maps that are merged. -/
inductive Merge
  | first
  | last
  | all
  | refuse

/-- The way to merge maps that a text names. -/
def mergeOf (name : String) : Except Fault Merge :=
  if name == "use-first" || name == "use-any" then .ok .first
  else if name == "use-last" then .ok .last
  else if name == "combine" then .ok .all
  else if name == "reject" then .ok .refuse
  else .error .badOption

/-- Puts an entry into a map into which others are merged. -/
def Merge.put (m : Merge) (entries : Entries t) (e : Atom × Value t) :
    Except Fault (Entries t) :=
  match entries.get? e.1 with
  | none => .ok (Entries.put entries e.1 e.2)
  | some before =>
    match m with
    | .first => .ok entries
    | .last => .ok (Entries.put entries e.1 e.2)
    | .all => .ok (Entries.put entries e.1 (before ++ e.2))
    | .refuse => .error .duplicateEntry

/-- The entries of all maps of a value. -/
def entriesOf : Value t → Except Fault (Entries t)
  | [] => .ok []
  | .map entries :: rest => (entriesOf rest).map (entries ++ ·)
  | _ => .error .wrongType

/-- The map of some entries. -/
def mapOf (entries : Entries t) : Value t :=
  [.map entries]

mutual

/-- What stands under a key in an item and all within it. -/
def findInItem (key : Atom) : Item t → List (Value t)
  | .map entries => (Entries.get? entries key).toList ++ findInEntries key entries
  | .array members => findInMembers key members
  | _ => []

/-- What stands under a key in the maps of a value, the outer ones first, whatever holds them. -/
def findKey (key : Atom) : List (Item t) → List (Value t)
  | [] => []
  | i :: is => findInItem key i ++ findKey key is

/-- What stands under a key within the members of an array. -/
def findInMembers (key : Atom) : List (List (Item t)) → List (Value t)
  | [] => []
  | m :: ms => findKey key m ++ findInMembers key ms

/-- What stands under a key within the values of a map. -/
def findInEntries (key : Atom) : List (Atom × List (Item t)) → List (Value t)
  | [] => []
  | (_, v) :: rest => findKey key v ++ findInEntries key rest

end

/-- One map. -/
def oneMap : ValueType :=
  .one .anyMap

/-- A function in the namespace of functions on maps. -/
def mapEntry (name : String) (parameters : List ValueType) (result : ValueType)
    (run : Run) : Entry :=
  entryIn mapSpace name parameters result run

/-- The map into which all maps of a value are merged. -/
def merged (m : Merge) (v : Value t) : Except Fault (Value t) := do
  return mapOf (← (← entriesOf v).foldlM m.put [])

/-- Functions on maps. -/
def mapFunctions : List Entry :=
  [mapEntry "merge" [.many .anyMap] oneMap <| Run.one fun v => merged .first v,
   mapEntry "merge" [.many .anyMap, oneMap] oneMap <| Run.two fun v options => do
      match Entries.get? (← options.toMap) (.ofString "duplicates") with
      | some name => merged (← mergeOf (← name.toText)) v
      | none => merged .first v,
   mapEntry "size" [oneMap] (oneOf .integer) <| Run.one fun v => do
    return Value.ofNat (← v.toMap).length,
   mapEntry "keys" [oneMap] (manyOf .anyAtomic) <| Run.one fun v => do
    return Value.ofAtoms ((← v.toMap).map (·.1)),
   mapEntry "contains" [oneMap, oneOf .anyAtomic] (oneOf .boolean) <| Run.two fun v key => do
      return Value.ofBool (Entries.get? (← v.toMap) (← key.toAtom)).isSome,
   mapEntry "get" [oneMap, oneOf .anyAtomic] .any <| Run.two fun v key => do
    return (Entries.get? (← v.toMap) (← key.toAtom)).getD [],
   mapEntry "find" [.any, oneOf .anyAtomic] (.one .anyArray) <| Run.two fun v key => do
    return [.array (findKey (← key.toAtom) v)],
   mapEntry "put" [oneMap, oneOf .anyAtomic, .any] oneMap <| Run.three fun v key w => do
    return mapOf (Entries.put (← v.toMap) (← key.toAtom) w),
   mapEntry "entry" [oneOf .anyAtomic, .any] oneMap <| Run.two fun key w => do
    return mapOf [(← key.toAtom, w)],
   mapEntry "remove" [oneMap, manyOf .anyAtomic] oneMap <| Run.two fun v keys => do
    return mapOf ((← keys.toAtoms).foldl Entries.erase (← v.toMap)),
   mapEntry "for-each" [oneMap, functionOf 2] .any fun e args =>
    match args with
    | [v, f] => do
      let f ← f.toItem
      let parts ← (← v.toMap).mapM fun (key, w) => e.call f [Value.ofAtom key, w]
      return parts.flatten
    | _ => .error .wrongType]

end MarkupQuery.XPath.Library
