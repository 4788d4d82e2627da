import MarkupQuery.XPath.Arithmetic
import MarkupQuery.XPath.Compare
import MarkupQuery.XPath.Library.Entry

/-!
# Functions on sequences

Truth, counting, cutting and joining sequences, and what can be said of all their items at once.
-/

namespace MarkupQuery.XPath.Library

open MarkupQuery.Document (Table)

/-! ## Equality of items -/

/-- Whether two lists agree item by item. -/
def agree {α : Type} (test : α → α → Bool) : List α → List α → Bool
  | [], [] => true
  | a :: as, b :: bs => test a b && agree test as bs
  | _, _ => false

/-- The children of a node that count where nodes are compared: all but comments. -/
def solidChildren (t : Table) (n : Nat) : List Nat :=
  (t.children n).filter fun m =>
    match t.kind m with
    | .comment _ => false
    | _ => true

/-- Whether two nodes describe the same; `fuel` bounds the depth. -/
def alikeNodes (t : Table) : Nat → Nat → Nat → Bool
  | 0, _, _ => false
  | fuel + 1, m, n =>
    match t.kind m, t.kind n with
    | .text r, .text s => r == s
    | .comment r, .comment s => r == s
    | .attr name r, .attr other s => name == other && r == s
    | .document, .document =>
      agree (alikeNodes t fuel) (solidChildren t m) (solidChildren t n)
    | .element name, .element other =>
      let as := t.attributes m
      let bs := t.attributes n
      name == other && as.length = bs.length && (as.all fun a => bs.contains a) &&
        agree (alikeNodes t fuel) (solidChildren t m) (solidChildren t n)
    | _, _ => false

section

variable {t : Table}

mutual

/-- Whether two items are deeply equal. -/
def alikeItems (c : Collation) : Item t → Item t → Except Fault Bool
  | .function _, _ => .error .comparedFunction
  | .node m, j =>
    match j with
    | .node n => .ok (alikeNodes t (t.size + 1) m n)
    | .function _ => .error .comparedFunction
    | _ => .ok false
  | .atom a, j =>
    match j with
    | .atom b => .ok ((c.viewAtom a).alike (c.viewAtom b))
    | .function _ => .error .comparedFunction
    | _ => .ok false
  | .array as, j =>
    match j with
    | .array bs => alikeMembers c as bs
    | .function _ => .error .comparedFunction
    | _ => .ok false
  | .map as, j =>
    match j with
    | .map bs => do
      if as.length = bs.length then alikeEntries c as bs else return false
    | .function _ => .error .comparedFunction
    | _ => .ok false

/-- Whether two values are deeply equal. -/
def alikeValues (c : Collation) : List (Item t) → List (Item t) → Except Fault Bool
  | [], [] => .ok true
  | i :: is, j :: js => do
    if ← alikeItems c i j then alikeValues c is js else return false
  | [], _ :: _ => .ok false
  | _ :: _, [] => .ok false

/-- Whether two lists of members are deeply equal. -/
def alikeMembers (c : Collation) :
    List (List (Item t)) → List (List (Item t)) → Except Fault Bool
  | [], [] => .ok true
  | m :: ms, n :: ns => do
    if ← alikeValues c m n then alikeMembers c ms ns else return false
  | [], _ :: _ => .ok false
  | _ :: _, [] => .ok false

/-- Whether what stands under the keys of a list stands deeply equal in another. -/
def alikeEntries (c : Collation) :
    List (Atom × List (Item t)) → List (Atom × List (Item t)) → Except Fault Bool
  | [], _ => .ok true
  | (key, v) :: rest, others => do
    match others.find? fun e => e.1.sameKey key with
    | some (_, w) => if ← alikeValues c v w then alikeEntries c rest others else return false
    | none => return false

end

/-! ## Sums and bounds -/

/-- An atom of a sum or a list whose greatest is sought. -/
def summand : Atom → Except Fault Atom
  | .untyped s => Atom.ofText .double s
  | a => .ok a

/-- Whether atoms can be added to each other: all numbers, or durations of one type. -/
def addable (atoms : List Atom) : Bool :=
  let durations (type : AtomicType) : Bool := atoms.all fun a =>
    match a with
    | .duration t _ => t = type
    | _ => false
  (atoms.all fun a =>
    match a with
    | .number _ => true
    | _ => false) || durations .yearMonthDuration || durations .dayTimeDuration

/-- The sum of atoms. -/
def sumFrom (first : Atom) (rest : List Atom) : Except Fault Atom :=
  rest.foldlM (fun sum a => Atom.arithmetic .add sum a) first

/-- The atoms of a sum, which must be addable. -/
def summands (v : Value t) : Except Fault (List Atom) := do
  let atoms ← (← v.toAtoms).mapM summand
  if addable atoms then return atoms else throw .badArgument

/-- The kind of number that all numbers of a list become where they are compared. -/
def commonNumber (numbers : List Number) (n : Number) : Number :=
  if numbers.any fun m => m.type = .double then .double n.toDouble
  else if numbers.any fun m => m.type = .float then .float n.toFloat
  else n

/-- The numbers of atoms that are all numbers. -/
def numbersOf? (atoms : List Atom) : Option (List Number) :=
  atoms.mapM fun a =>
    match a with
    | .number n => some n
    | _ => none

/-- The first of some atoms that no other exceeds, in the sense of a comparison. -/
def extreme (c : Comparison) (collation : Collation) (v : Value t) :
    Except Fault (Value t) := do
  match ← (← v.toAtoms).mapM summand with
  | [] => return []
  | first :: rest =>
    match numbersOf? (first :: rest) with
    | some numbers =>
      let numbers := numbers.map (commonNumber numbers)
      match numbers.find? Number.isNaN with
      | some n => return Value.ofNumber n
      | none =>
        let found := numbers.drop 1 |>.foldl (fun best n => if n.compares c best then n else best)
          (commonNumber numbers (numbers.headD (.ofNat 0)))
        return Value.ofNumber found
    | none =>
      let best ← rest.foldlM (fun best a => do
        match Atom.compare c (collation.viewAtom a) (collation.viewAtom best) with
        | .ok better => return if better then a else best
        | .error _ => throw Fault.badArgument) first
      match Atom.compare c best best with
      | .ok _ => return Value.ofAtom best
      | .error _ => throw .badArgument

end

/-! ## Cutting -/

/-- The items of a list at places that pass a test; places count from one. -/
def atPlaces {α : Type} (test : Nat → Bool) (items : List α) : List α :=
  ((items.zipIdx 1).filter fun (_, place) => test place).map (·.1)

/-- Rounds to the nearest whole number, a half away from zero. -/
def roundAway (x : Float) : Float :=
  x.round

/-- The places from one double on, and up to another; both are rounded. -/
def withinPlaces (start : Float) (length : Float) (place : Nat) : Bool :=
  let first := roundAway start
  let stop := first + roundAway length
  first ≤ Float.ofNat place && Float.ofNat place < stop

/-- The atoms of a list without those alike to one before them. -/
def distinct (c : Collation) : List Atom → List Atom → List Atom
  | _, [] => []
  | seen, a :: as =>
    let view := c.viewAtom a
    if seen.any fun b => b.alike view then distinct c seen as
    else a :: distinct c (view :: seen) as

/-! ## The functions -/

/-- Functions on truth values and sequences. -/
def sequenceFunctions : List Entry :=
  [entry "true" [] (oneOf .boolean) fun _ _ => .ok (Value.ofBool true),
   entry "false" [] (oneOf .boolean) fun _ _ => .ok (Value.ofBool false),
   entry "not" [.any] (oneOf .boolean) <| Run.one fun v => do return Value.ofBool !(← v.truth),
   entry "boolean" [.any] (oneOf .boolean) <| Run.one fun v => do return Value.ofBool (← v.truth),
   entry "count" [.any] (oneOf .integer) <| Run.one fun v => .ok (Value.ofNat v.length),
   entry "empty" [.any] (oneOf .boolean) <| Run.one fun v => .ok (Value.ofBool v.isEmpty),
   entry "exists" [.any] (oneOf .boolean) <| Run.one fun v => .ok (Value.ofBool !v.isEmpty),
   entry "head" [.any] (.optional .item) <| Run.one fun v => .ok (v.take 1),
   entry "tail" [.any] .any <| Run.one fun v => .ok (v.drop 1),
   entry "reverse" [.any] .any <| Run.one fun v => .ok v.reverse,
   entry "unordered" [.any] .any <| Run.one fun v => .ok v,
   entry "insert-before" [.any, oneOf .integer, .any] .any <| Run.three fun v place more => do
      let n := ((← place.toInt) - 1).toNat
      return v.take n ++ more ++ v.drop n,
   entry "remove" [.any, oneOf .integer] .any <| Run.two fun v place => do
      let n ← place.toInt
      return atPlaces (fun p => (p : Int) != n) v,
   entry "subsequence" [.any, oneOf .double] .any <| Run.two fun v start => do
      return atPlaces (withinPlaces (← start.toDouble) (Double.infinite false)) v,
   entry "subsequence" [.any, oneOf .double, oneOf .double] .any <|
    Run.three fun v start length => do
      return atPlaces (withinPlaces (← start.toDouble) (← length.toDouble)) v,
   entry "zero-or-one" [.any] (.optional .item) <| Run.one fun v =>
    if v.length ≤ 1 then .ok v else .error .tooMany,
   entry "one-or-more" [.any] (.of .item .some) <| Run.one fun v =>
    if v.isEmpty then .error .noItem else .ok v,
   entry "exactly-one" [.any] (.one .item) <| Run.one fun v =>
    if v.length = 1 then .ok v else .error .notOne]

/-- How a function that compares texts comes to its result. -/
abbrev CollatedRun : Type :=
  {t : Table} → Collation → List (Value t) → Except Fault (Value t)

/-- The result of a function whose last argument names a collation and may be left out. -/
def collated (arity : Nat) (run : CollatedRun) : Run := fun e args => do
  run (← collationArgument e.context.surroundings (args.drop arity)) (args.take arity)

/-- A function with and without a collation as its last argument. -/
def collatedEntries (name : String) (parameters : List ValueType) (result : ValueType)
    (run : CollatedRun) : List Entry :=
  [entry name parameters result (collated parameters.length run),
   entry name (parameters ++ [oneOf .string]) result (collated parameters.length run)]

/-- Functions that compare the items of sequences. -/
def comparingFunctions : List Entry :=
  (collatedEntries "distinct-values" [manyOf .anyAtomic] (manyOf .anyAtomic) fun c args =>
    match args with
    | [v] => do return Value.ofAtoms (distinct c [] (← v.toAtoms))
    | _ => .error .wrongType) ++
  (collatedEntries "index-of" [manyOf .anyAtomic, oneOf .anyAtomic] (manyOf .integer)
    fun c args =>
      match args with
      | [v, sought] => do
        let sought := c.viewAtom (← sought.toAtom)
        let found := ((← v.toAtoms).zipIdx 1).filter fun (a, _) => (c.viewAtom a).equals sought
        return found.flatMap fun (_, place) => Value.ofNat place
      | _ => .error .wrongType) ++
  (collatedEntries "deep-equal" [.any, .any] (oneOf .boolean) fun c args =>
    match args with
    | [v, w] => do return Value.ofBool (← alikeValues c v w)
    | _ => .error .wrongType) ++
  (collatedEntries "max" [manyOf .anyAtomic] (optionalOf .anyAtomic) fun c args =>
    match args with
    | [v] => extreme .gt c v
    | _ => .error .wrongType) ++
  (collatedEntries "min" [manyOf .anyAtomic] (optionalOf .anyAtomic) fun c args =>
    match args with
    | [v] => extreme .lt c v
    | _ => .error .wrongType) ++
  [entry "sum" [manyOf .anyAtomic] (oneOf .anyAtomic) <| Run.one fun v => do
      match ← summands v with
      | [] => return Value.ofNat 0
      | first :: rest => return Value.ofAtom (← sumFrom first rest),
   entry "sum" [manyOf .anyAtomic, optionalOf .anyAtomic] (optionalOf .anyAtomic) <|
    Run.two fun v zero => do
      match ← summands v with
      | [] => return zero
      | first :: rest => return Value.ofAtom (← sumFrom first rest),
   entry "avg" [manyOf .anyAtomic] (optionalOf .anyAtomic) <| Run.one fun v => do
      match ← summands v with
      | [] => return []
      | first :: rest =>
        let count : Atom := .ofInt (rest.length + 1 : Nat)
        return Value.ofAtom (← Atom.arithmetic .div (← sumFrom first rest) count)]

end MarkupQuery.XPath.Library
