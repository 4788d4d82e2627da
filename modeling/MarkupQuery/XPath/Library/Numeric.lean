import MarkupQuery.XPath.Library.Entry

/-!
# Functions on numbers

Rounding, and the functions of mathematics on doubles.
-/

namespace MarkupQuery.XPath.Library

/-- A function that makes a number out of a number. -/
def numberChange (name : String) (f : Number → Number) : Entry :=
  entry name [optionalNumber] optionalNumber <| Run.one fun v => do
      match ← v.toNumber? with
      | some n => return Value.ofNumber (f n)
      | none => return []

/-- A function that rounds a number to places behind the point. -/
def rounding (name : String) (nearest : Rat → Int) : List Entry :=
  [numberChange name (·.round fun q => (nearest q : Int)),
   entry name [optionalNumber, oneOf .integer] optionalNumber <| Run.two fun v places => do
      match ← v.toNumber? with
      | some n => return Value.ofNumber (n.round (Number.toPlaces nearest (← places.toInt)))
      | none => return []]

/-- The number that an atom is taken for; what stands for none is no number. -/
def numberOfAtom (a : Atom) : Number :=
  match a.cast .double with
  | .ok (.number n) => n
  | _ => .double Double.nan

/-- Functions on numbers of all kinds. -/
def numericFunctions : List Entry :=
  [entryOfContext "number" [optionalOf .anyAtomic] (oneOf .double) <| Run.one fun v => do
      match ← Value.atom? v with
      | some a => return Value.ofNumber (numberOfAtom a)
      | none => return Value.ofNumber (.double Double.nan),
   numberChange "abs" Number.absolute,
   numberChange "ceiling" (·.round fun q => (q.ceil : Int)),
   numberChange "floor" (·.round fun q => (q.floor : Int))] ++
  rounding "round" Decimal.nearestUp ++
  rounding "round-half-to-even" Decimal.nearestEven

/-- A function of mathematics on a double. -/
def mathFunction (name : String) (f : Float → Float) : Entry :=
  entryIn mathSpace name [optionalOf .double] (optionalOf .double) <| Run.one fun v => do
      match ← v.toNumber? with
      | some n => return Value.ofNumber (.double (f n.toDouble))
      | none => return []

/-- The ratio of the circumference of a circle to its diameter. -/
def pi : Float :=
  3.141592653589793

/-- Functions of mathematics. -/
def mathFunctions : List Entry :=
  [entryIn mathSpace "pi" [] (oneOf .double) fun _ _ => .ok (Value.ofNumber (.double pi)),
   mathFunction "exp" Float.exp,
   mathFunction "exp10" (Float.pow 10.0),
   mathFunction "log" Float.log,
   mathFunction "log10" Float.log10,
   mathFunction "sqrt" Float.sqrt,
   mathFunction "sin" Float.sin,
   mathFunction "cos" Float.cos,
   mathFunction "tan" Float.tan,
   mathFunction "asin" Float.asin,
   mathFunction "acos" Float.acos,
   mathFunction "atan" Float.atan,
   entryIn mathSpace "pow" [optionalOf .double, .one .numeric] (optionalOf .double) <|
    Run.two fun v w => do
      match ← v.toNumber? with
      | some n => return Value.ofNumber (.double (Float.pow n.toDouble (← w.toDouble)))
      | none => return [],
   entryIn mathSpace "atan2" [oneOf .double, oneOf .double] (oneOf .double) <| Run.two fun v w => do
      return Value.ofNumber (.double (Float.atan2 (← v.toDouble) (← w.toDouble)))]

end MarkupQuery.XPath.Library
