import MarkupQuery.XPath.Value

/-!
# Comparing atoms

`Atom.compare` compares two atoms of comparable types, where text of no certain type is a string;
`Atom.compareLoosely` gives such text the type of the other atom first. Keys of maps are the same
where `Atom.sameKey` holds.
-/

namespace MarkupQuery.XPath

/-- The order of two texts, by code points. -/
def textOrder (r s : String) : Ordering :=
  if r = s then .eq else if r < s then .lt else .gt

/-- Whether two texts compare so, by code points. -/
def compareText (c : Comparison) (r s : String) : Bool :=
  match c with
  | .eq => r == s
  | .ne => r != s
  | c => c.holds (textOrder r s)

/-- The order of two truth values; false comes before true. -/
def booleanOrder (a b : Bool) : Ordering :=
  if a = b then .eq else if b then .lt else .gt

/-- The order of two fractions. -/
def ratOrder (p q : Rat) : Ordering :=
  if p < q then .lt else if p = q then .eq else .gt

/-- The order of two lists of bytes. -/
def bytesOrder : List UInt8 → List UInt8 → Ordering
  | [], [] => .eq
  | [], _ :: _ => .lt
  | _ :: _, [] => .gt
  | a :: as, b :: bs => if a < b then .lt else if b < a then .gt else bytesOrder as bs

/-- Whether a comparison asks for equality only. -/
def Comparison.isEquality (c : Comparison) : Bool :=
  c = .eq || c = .ne

/-- The text of an atom that is compared as a text. -/
def Atom.asText? : Atom → Option String
  | .untyped s => some s
  | .string _ s => some s
  | _ => none

/-- Whether moments of a type are ordered. -/
def AtomicType.isOrderedMoment (t : AtomicType) : Bool :=
  [AtomicType.date, .time, .dateTime, .dateTimeStamp].contains t

/-- Whether two atoms of certain types compare so. Text of no certain type is a string here. -/
def Atom.compare (c : Comparison) (a b : Atom) : Except Fault Bool :=
  match a.asText?, b.asText? with
  | some r, some s => .ok (compareText c r s)
  | some _, none | none, some _ => .error .wrongType
  | none, none =>
    match a, b with
    | .number m, .number n => .ok (m.compares c n)
    | .boolean p, .boolean q => .ok (c.holds (booleanOrder p q))
    | .qname _ m, .qname _ n =>
      if c.isEquality then .ok (c.holds (if m = n then .eq else .lt)) else .error .wrongType
    | .binary t m, .binary u n =>
      if t = u then .ok (c.holds (bytesOrder m n)) else .error .wrongType
    | .moment t m, .moment u n =>
      if (t.derives .dateTime && u.derives .dateTime || t = u) &&
          (c.isEquality || t.isOrderedMoment) then
        .ok (c.holds (ratOrder m.instant n.instant))
      else .error .wrongType
    | .duration t m, .duration u n =>
      if c.isEquality then .ok (c.holds (if m = n then .eq else .lt))
      else if t = u && t = .yearMonthDuration then
        .ok (c.holds (ratOrder (m.months : Rat) (n.months : Rat)))
      else if t = u && t = .dayTimeDuration then .ok (c.holds (ratOrder m.seconds n.seconds))
      else .error .wrongType
    | _, _ => .error .wrongType

/-- The type that text of no certain type takes where it is compared with an atom. -/
def Atom.typeForOther (a : Atom) : AtomicType :=
  match a with
  | .number _ => .double
  | .untyped _ => .string
  | .string _ _ => .string
  | a => a.type

/-- Whether two atoms compare so, where text of no certain type takes the type of the other. -/
def Atom.compareLoosely (c : Comparison) (a b : Atom) : Except Fault Bool :=
  match a, b with
  | .untyped r, .untyped s => .ok (compareText c r s)
  | .untyped r, .string _ s => .ok (compareText c r s)
  | .string _ r, .untyped s => .ok (compareText c r s)
  | .untyped r, b => do Atom.compare c (← Atom.ofText b.typeForOther r) b
  | a, .untyped s => do Atom.compare c a (← Atom.ofText a.typeForOther s)
  | a, b => Atom.compare c a b

/-- Whether an atom compares so with one of some atoms. -/
def anyCompares (c : Comparison) (a : Atom) : List Atom → Except Fault Bool
  | [] => .ok false
  | b :: bs => do
    if ← Atom.compareLoosely c a b then return true
    else anyCompares c a bs

/-- Whether some atom of one list compares so with one of another. -/
def somePairCompares (c : Comparison) (bs : List Atom) : List Atom → Except Fault Bool
  | [] => .ok false
  | a :: as => do
    if ← anyCompares c a bs then return true
    else somePairCompares c bs as

/-! ## Equality without faults -/

/-- Whether two atoms are equal; atoms that cannot be compared differ. -/
def Atom.equals (a b : Atom) : Bool :=
  match Atom.compare .eq a b with
  | .ok holds => holds
  | .error _ => false

/-- Whether two atoms are equal, or both are no number. -/
def Atom.alike (a b : Atom) : Bool :=
  match a, b with
  | .number m, .number n => (m.isNaN && n.isNaN) || m.compares .eq n
  | a, b => a.equals b

/-- Whether two atoms are one key of a map. Numbers are compared by their exact values. -/
def Atom.sameKey (a b : Atom) : Bool :=
  match a, b with
  | .number m, .number n =>
    match m.toRat?, n.toRat? with
    | some p, some q => p = q
    | none, none => (m.isNaN && n.isNaN) || m.compares .eq n
    | _, _ => false
  | .moment _ m, .moment _ n => m.zone.isSome = n.zone.isSome && a.equals b
  | a, b => a.equals b

end MarkupQuery.XPath
