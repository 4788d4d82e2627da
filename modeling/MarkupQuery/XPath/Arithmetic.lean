import MarkupQuery.XPath.Value

/-!
# Arithmetic

The results of operators on atoms. Text of no certain type is a double; beside a double, a float or
a decimal any atom is cast to that kind of number; dates and durations have operations of their own.
-/

namespace MarkupQuery.XPath

/-- An atom as a number of a type. -/
def Atom.toNumberOf (type : AtomicType) (a : Atom) : Except Fault Number := do
  match ← a.cast type with
  | .number n => return n
  | _ => throw .wrongType

/-- An operand of arithmetic: text of no certain type is a double. -/
def Atom.operand : Atom → Except Fault Atom
  | .untyped s => Atom.ofText .double s
  | a => .ok a

/-- The kind of number that a number makes of an atom beside it; integers make none. -/
def Atom.draws? : Atom → Option AtomicType
  | .number (.double _) => some .double
  | .number (.float _) => some .float
  | .number (.decimal _) => some .decimal
  | _ => none

/-- The fault of operands that an operator is not for. -/
def Arithmetic.mismatch (op : Arithmetic) : Fault :=
  if op = .idiv then .noQuotient else .wrongType

/-- Two operands as numbers. -/
def numbersOf (op : Arithmetic) (a b : Atom) : Except Fault (Number × Number) := do
  match a, b with
  | .number m, .number n => return (m, n)
  | .number m, b =>
    match a.draws? with
    | some type => return (m, ← b.toNumberOf type)
    | none => throw op.mismatch
  | a, .number n =>
    match b.draws? with
    | some type => return (← a.toNumberOf type, n)
    | none => throw op.mismatch
  | _, _ => throw op.mismatch

/-- A duration multiplied by a fraction. Months are rounded. -/
def Duration.scaled (d : Duration) (q : Rat) : Duration :=
  { months := Decimal.nearestUp (d.months * q), seconds := d.seconds * q }

/-- A number by which a duration is multiplied or divided. -/
def durationFactor (n : Number) : Except Fault Rat :=
  match n.toRat? with
  | some q => .ok q
  | none => .error (if n.isNaN then .badDurationFactor else .dateOverflow)

/-- The quotient of two durations of one type. -/
def durationQuotient (p q : Rat) : Except Fault Atom :=
  if q = 0 then .error .divisionByZero else do return .number (← Number.fit (p / q))

/-- Whether moments of a type can be moved by durations. -/
def AtomicType.isMovable (t : AtomicType) : Bool :=
  t.derives .dateTime || t = .date || t = .time

/-- The result of an operator on dates and durations; none if it is not for them. -/
def momentArithmetic (op : Arithmetic) (a b : Atom) : Option (Except Fault Atom) :=
  let dated (t : AtomicType) (m : Moment) : Atom :=
    match t with
    | .date => .moment t { m with seconds := 0 }
    | .time => .moment t { seconds := m.seconds, zone := m.zone }
    | _ => .moment .dateTime m
  let movable (t u : AtomicType) : Bool :=
    (t.isMovable && u != .duration) && (t != .time || u = .dayTimeDuration)
  match op, a, b with
  | .add, .moment t m, .duration u d =>
    if movable t u then some (.ok (dated t (m.add d))) else none
  | .add, .duration u d, .moment t m =>
    if movable t u then some (.ok (dated t (m.add d))) else none
  | .sub, .moment t m, .duration u d =>
    if movable t u then some (.ok (dated t (m.add d.neg))) else none
  | .sub, .moment t m, .moment u n =>
    if t.isMovable && (t = u || (t.derives .dateTime && u.derives .dateTime)) then
      some (.ok (.duration .dayTimeDuration { seconds := m.instant - n.instant }))
    else none
  | .add, .duration t c, .duration u d =>
    if t = u && t != .duration then some (.ok (.duration t (c.add d))) else none
  | .sub, .duration t c, .duration u d =>
    if t = u && t != .duration then some (.ok (.duration t (c.add d.neg))) else none
  | .mul, .duration t d, .number n =>
    if t != .duration then some ((durationFactor n).map fun q => .duration t (d.scaled q))
    else none
  | .mul, .number n, .duration t d =>
    if t != .duration then some ((durationFactor n).map fun q => .duration t (d.scaled q))
    else none
  | .div, .duration t d, .number n =>
    if t != .duration then
      some (match n.toRat? with
        | some q =>
          if q = 0 then .error .dateOverflow else .ok (.duration t (d.scaled (1 / q)))
        | none => if n.isNaN then .error .badDurationFactor else .ok (.duration t {}))
    else none
  | .div, .duration t c, .duration u d =>
    if t = u && t = .yearMonthDuration then some (durationQuotient c.months d.months)
    else if t = u && t = .dayTimeDuration then some (durationQuotient c.seconds d.seconds)
    else none
  | _, _, _ => none

/-- The result of an operator on two atoms. -/
def Atom.arithmetic (op : Arithmetic) (a b : Atom) : Except Fault Atom := do
  let a ← a.operand
  let b ← b.operand
  match momentArithmetic op a b with
  | some result => result
  | none =>
    let (m, n) ← numbersOf op a b
    return .number (← Number.combine op m n)

/-- The result of an operator on two values, each of one atom. It is empty if an operand is. -/
def arithmetic {t : Document.Table} (op : Arithmetic) (left right : Value t) :
    Except Fault (Value t) := do
  if left.isEmpty || right.isEmpty then return []
  match ← Value.atom? left, ← Value.atom? right with
  | some a, some b => return Value.ofAtom (← Atom.arithmetic op a b)
  | _, _ => return []

/-- A number with a sign. -/
def signed {t : Document.Table} (negative : Bool) (v : Value t) : Except Fault (Value t) := do
  match ← Value.atom? v with
  | none => return []
  | some (.number n) => return Value.ofNumber (if negative then n.neg else n)
  | some _ => throw .wrongType

end MarkupQuery.XPath
