import MarkupQuery.XPath.Fault
import MarkupQuery.XPath.Number.Double
import MarkupQuery.XPath.Type

/-!
# Numbers

Integers, decimals, floats and doubles, and how they are combined: two numbers of different kinds
are first brought to the later of their kinds in this order. Division of integers gives a decimal.
-/

namespace MarkupQuery.XPath

/-- A number. -/
inductive Number
  /-- An integer, of one of the types of integers. -/
  | integer (type : AtomicType) (n : Int)
  | decimal (q : Rat)
  | float (x : Float32)
  | double (x : Float)
  deriving DecidableEq

/-- How two numbers are combined. -/
inductive Arithmetic
  | add
  | sub
  | mul
  | div
  | idiv
  | mod
  deriving DecidableEq

/-- How two values are compared. -/
inductive Comparison
  | eq
  | ne
  | lt
  | le
  | gt
  | ge
  deriving DecidableEq

/-- Whether an order of two values makes a comparison true. -/
def Comparison.holds (c : Comparison) (o : Ordering) : Bool :=
  match c with
  | .eq => o == .eq
  | .ne => o != .eq
  | .lt => o == .lt
  | .le => o != .gt
  | .gt => o == .gt
  | .ge => o != .lt

namespace Number

/-- The number of a natural number. -/
def ofNat (n : Nat) : Number :=
  integer .integer n

/-- The number of an integer. -/
def ofInt (n : Int) : Number :=
  integer .integer n

/-- The type of a number. -/
def type : Number → AtomicType
  | integer type _ => type
  | decimal _ => .decimal
  | float _ => .float
  | double _ => .double

/-- The text of a number. -/
def text : Number → String
  | integer _ n => toString n
  | decimal q => Decimal.text q
  | float x => Double.floatText x
  | double x => Double.text x

/-- The double for an integer. -/
def doubleOfInt (n : Int) : Float :=
  if n < 0 then -(Float.ofNat n.natAbs) else Float.ofNat n.natAbs

/-- The number as a double. -/
def toDouble : Number → Float
  | integer _ n => doubleOfInt n
  | decimal q => Double.ofDecimal q
  | float x => x.toFloat
  | double x => x

/-- The number as a float. -/
def toFloat : Number → Float32
  | float x => x
  | n => n.toDouble.toFloat32

/-- The exact value of a number that is finite. -/
def toRat? : Number → Option Rat
  | integer _ n => some n
  | decimal q => some q
  | float x => Double.toRat? x.toFloat
  | double x => Double.toRat? x

/-- Whether a number is none. -/
def isNaN : Number → Bool
  | float x => x.isNaN
  | double x => x.isNaN
  | _ => false

/-- Whether a number counts as true: all but zero and what is no number. -/
def isTrue : Number → Bool
  | integer _ n => n != 0
  | decimal q => q != 0
  | float x => !(x == 0.0 || x.isNaN)
  | double x => !(x == 0.0 || x.isNaN)

/-- The opposite of a number. -/
def neg : Number → Number
  | integer _ n => ofInt (-n)
  | decimal q => decimal (-q)
  | float x => float (-x)
  | double x => double (-x)

/-! ## Comparing -/

/-- The order of two numbers. Doubles have an order in which what is no number comes last. -/
def order (x y : Number) : Ordering :=
  match x, y with
  | integer _ m, integer _ n => compare m n
  | integer _ m, decimal q => if (m : Rat) < q then .lt else if (m : Rat) = q then .eq else .gt
  | decimal p, integer _ n => if p < (n : Rat) then .lt else if p = (n : Rat) then .eq else .gt
  | decimal p, decimal q => if p < q then .lt else if p = q then .eq else .gt
  | double _, _ | _, double _ => Double.order x.toDouble y.toDouble
  | _, _ => Double.order x.toFloat.toFloat y.toFloat.toFloat

/-- Whether two numbers compare so. What is no number is not equal to any, itself included. -/
def compares (c : Comparison) (x y : Number) : Bool :=
  match c with
  | .eq => !x.isNaN && !y.isNaN && order x y == .eq
  | .ne => x.isNaN || y.isNaN || order x y != .eq
  | c => c.holds (order x y)

/-! ## Combining -/

/-- The decimal for a fraction, if none is too large. -/
def fit (q : Rat) : Except Fault Number :=
  match Decimal.fit? q with
  | some q => .ok (decimal q)
  | none => .error .overflow

/-- Combines two integers. -/
def integers (op : Arithmetic) (m n : Int) : Except Fault Number :=
  match op with
  | .add => .ok (ofInt (m + n))
  | .sub => .ok (ofInt (m - n))
  | .mul => .ok (ofInt (m * n))
  | .div => if n = 0 then .error .divisionByZero else fit (mkRat 1 1 * m / n)
  | .idiv => if n = 0 then .error .divisionByZero else .ok (ofInt (m.tdiv n))
  | .mod => if n = 0 then .error .divisionByZero else .ok (ofInt (m.tmod n))

/-- Combines two decimals. -/
def decimals (op : Arithmetic) (p q : Rat) : Except Fault Number :=
  match op with
  | .add => fit (p + q)
  | .sub => fit (p - q)
  | .mul => fit (p * q)
  | .div => if q = 0 then .error .divisionByZero else fit (p / q)
  | .idiv => if q = 0 then .error .divisionByZero else .ok (ofInt (Decimal.truncate (p / q)))
  | .mod => if q = 0 then .error .divisionByZero else fit (p - q * Decimal.truncate (p / q))

/-- The remainder of two doubles, exact, with the sign of the first. -/
def remainder (x y : Float) : Float :=
  match Double.toRat? x, Double.toRat? y with
  | some p, some q =>
    if q = 0 then Double.nan
    else
      let r := p - q * Decimal.truncate (p / q)
      let size := Float.ofNat r.num.natAbs / Float.ofNat r.den
      if Double.isNegative x then -size else size
  | some _, none => if y.isNaN then Double.nan else x
  | none, _ => Double.nan

/-- The whole part of the quotient of two doubles. It must be one that 64 bits can hold. -/
def wholeQuotient (x y : Float) : Except Fault Number :=
  if y == 0.0 then .error .divisionByZero
  else match Double.toRat? (x / y) with
    | none => .error .overflow
    | some q =>
      let n := Decimal.truncate q
      if n.natAbs < Nat.pow 2 63 then .ok (ofInt n) else .error .overflow

/-- Combines two doubles. -/
def doubles (op : Arithmetic) (x y : Float) : Except Fault Number :=
  match op with
  | .add => .ok (double (x + y))
  | .sub => .ok (double (x - y))
  | .mul => .ok (double (x * y))
  | .div => .ok (double (x / y))
  | .idiv => wholeQuotient x y
  | .mod => .ok (double (remainder x y))

/-- Combines two floats. -/
def floats (op : Arithmetic) (x y : Float32) : Except Fault Number :=
  match op with
  | .add => .ok (float (x + y))
  | .sub => .ok (float (x - y))
  | .mul => .ok (float (x * y))
  | .div => .ok (float (x / y))
  | .idiv => wholeQuotient x.toFloat y.toFloat
  | .mod => .ok (float (remainder x.toFloat y.toFloat).toFloat32)

/-- Combines two numbers. -/
def combine (op : Arithmetic) (x y : Number) : Except Fault Number :=
  match x, y with
  | double x, y => doubles op x y.toDouble
  | x, double y => doubles op x.toDouble y
  | float x, y => floats op x y.toFloat
  | x, float y => floats op x.toFloat y
  | integer _ m, integer _ n => integers op m n
  | integer _ m, decimal q => decimals op m q
  | decimal p, integer _ n => decimals op p n
  | decimal p, decimal q => decimals op p q

/-! ## Rounding -/

/-- The double for a fraction, with a given sign if it is zero. -/
def doubleOfRat (negative : Bool) (q : Rat) : Float :=
  let size := Float.ofNat q.num.natAbs / Float.ofNat q.den
  if negative then -size else size

/-- A number with an integer in place of the fraction that it is. -/
def round (f : Rat → Rat) (n : Number) : Number :=
  let change (x : Float) : Float :=
    match Double.toRat? x with
    | some q => doubleOfRat (Double.isNegative x) (f q)
    | none => x
  match n with
  | integer type m => integer type (f m).floor
  | decimal q => decimal (f q)
  | float x => float (change x.toFloat).toFloat32
  | double x => double (change x)

/-- The size of a number. -/
def absolute (n : Number) : Number :=
  match n with
  | integer type m => integer type m.natAbs
  | decimal q => decimal (if q < 0 then -q else q)
  | float x => float x.abs
  | double x => double x.abs

/-- Rounds to so many places behind the point, by a way to find the nearest integer. -/
def toPlaces (nearest : Rat → Int) (places : Int) (q : Rat) : Rat :=
  if 0 ≤ places then
    let unit := Decimal.tenTo (min places.toNat 1000)
    mkRat (nearest (q * unit)) unit
  else
    let unit := Decimal.tenTo (min (-places).toNat 1000)
    (nearest (q / unit) * unit : Int)

end Number

end MarkupQuery.XPath
