import MarkupQuery.XPath.Lexer
import MarkupQuery.XPath.Number.Decimal

/-!
# Binary floating point

Doubles and floats as texts and as fractions. A double has the exact value `m * 2 ^ e` (`parts?`).
Its text is that of a decimal where it is neither very large nor very small, and else the shortest
digits that read back, with an exponent.
-/

namespace MarkupQuery.XPath.Double

/-! ## Exact values -/

/-- A number that is none. -/
def nan : Float :=
  0.0 / 0.0

/-- The number beyond all others, or below them. -/
def infinite (negative : Bool) : Float :=
  if negative then -1.0 / 0.0 else 1.0 / 0.0

/-- The parts of a finite double: whether it is below zero, and `m` and `e` of its size
`m * 2 ^ e`. -/
def parts? (x : Float) : Option (Bool × Nat × Int) :=
  let bits := x.toBits.toNat
  let exponent := bits / Nat.pow 2 52 % 2048
  let fraction := bits % Nat.pow 2 52
  let negative : Bool := bits / Nat.pow 2 63 = 1
  if exponent = 2047 then none
  else if exponent = 0 then some (negative, fraction, -1074)
  else some (negative, fraction + Nat.pow 2 52, exponent - 1075)

/-- A binary fraction as a fraction. -/
def binary (m : Nat) (e : Int) : Rat :=
  if 0 ≤ e then mkRat (m * Nat.pow 2 e.toNat) 1 else mkRat m (Nat.pow 2 (-e).toNat)

/-- The value of a finite double. -/
def toRat? (x : Float) : Option Rat :=
  (parts? x).map fun (negative, m, e) => if negative then -(binary m e) else binary m e

/-- Whether a double has a sign, be it zero. -/
def isNegative (x : Float) : Bool :=
  x.toBits.toNat / Nat.pow 2 63 = 1

/-- The decimal for a double, of which 52 bits are trusted. -/
def toDecimal? (x : Float) : Option Rat :=
  match parts? x with
  | none => none
  | some (negative, m, e) =>
    (Decimal.ofBinary? 52 m e).map fun q => if negative then -q else q

/-- The decimal for a float, of which 24 bits are trusted. -/
def floatToDecimal? (x : Float32) : Option Rat :=
  match parts? x.toFloat with
  | none => none
  | some (negative, m, e) =>
    (Decimal.ofBinary? 24 m e).map fun q => if negative then -q else q

/-- The double for a decimal: the whole part and the fraction are taken for themselves, and the sum
is rounded to as many places as the decimal has. -/
def ofDecimal (q : Rat) : Float :=
  let size := if q < 0 then -q else q
  let places := (Decimal.fractionDigits Decimal.places (size - size.floor)).length
  let whole := Float.ofNat size.floor.toNat
  let x :=
    if places = 0 then whole
    else
      let scale := Float.ofNat (Decimal.tenTo places)
      let part := Float.ofNat ((size - size.floor) * Decimal.tenTo places).floor.toNat / scale
      ((whole + part) * scale).round / scale
  if q < 0 then -x else x

/-! ## Texts -/

/-- A text without the blanks around it. -/
def trim (s : String) : List Char :=
  ((s.toList.dropWhile Lexer.isBlank).reverse.dropWhile Lexer.isBlank).reverse

/-- The double of an unsigned number: digits with or without a point, and an exponent, which may
lack its digits. -/
def unsigned? (cs : List Char) : Option Float :=
  let (whole, rest) := Lexer.span Char.isDigit cs
  let (fraction, rest) := match rest with
    | '.' :: more => Lexer.span Char.isDigit more
    | _ => ([], rest)
  let digits := whole ++ fraction
  let places : Int := fraction.length
  if digits.isEmpty then none
  else match rest with
    | [] => some (Lexer.double digits (-places))
    | c :: more =>
      if c = 'e' || c = 'E' then
        let (negative, more) := match more with
          | '-' :: more => (true, more)
          | '+' :: more => (false, more)
          | more => (false, more)
        if more.all Char.isDigit then
          let e : Int := Decimal.digitsValue more
          some (Lexer.double digits ((if negative then -e else e) - places))
        else none
      else none

/-- The double that a text stands for, blanks around it aside. -/
def ofText? (s : String) : Option Float :=
  let finite (cs : List Char) : Option Float :=
    if cs = ['I', 'N', 'F'] then some (infinite false) else unsigned? cs
  match trim s with
  | ['N', 'a', 'N'] => some nan
  | '-' :: cs => (finite cs).map fun x => -x
  | '+' :: cs => finite cs
  | cs => finite cs

/-- Whether a decimal fraction reads back as a double that is `m * 2 ^ e`. Where `m` is the least of
its exponent the gap below is half that above. -/
def readsBack (m : Nat) (e : Int) (q : Rat) : Bool :=
  let value := binary m e
  let above := binary 1 (e - 1)
  let below := if m = Nat.pow 2 52 && e != -1074 then binary 1 (e - 2) else above
  if m % 2 = 0 then value - below ≤ q && q ≤ value + above
  else value - below < q && q < value + above

/-- The decimal grid with `10 ^ e` between its points. -/
def gridUnit (e : Int) : Rat :=
  if 0 ≤ e then mkRat (Decimal.tenTo e.toNat) 1 else mkRat 1 (Decimal.tenTo (-e).toNat)

/-- The least digits of a positive double that read back, as a whole number with the exponent of its
last digit. Grids are tried from coarse to fine; on one grid the nearer neighbour is taken. `n` is
how many grids are left. -/
def shortest (m : Nat) (e : Int) : Nat → Int → Nat × Int
  | 0, grid => (m, grid)
  | n + 1, grid =>
    let value := binary m e
    let unit := gridUnit grid
    let below := (value / unit).floor
    let nearer := if value / unit - below ≤ mkRat 1 2 then below else below + 1
    let other := if nearer = below then below + 1 else below
    if readsBack m e (nearer * unit) then (nearer.toNat, grid)
    else if readsBack m e (other * unit) then (other.toNat, grid)
    else shortest m e n (grid - 1)

/-- The exponent of the first digit of a positive fraction, found by counting down from `e`. -/
def magnitude (q : Rat) : Nat → Int → Int
  | 0, e => e
  | n + 1, e => if gridUnit e ≤ q then e else magnitude q n (e - 1)

/-- Digits in scientific notation: one digit before the point and at least one behind it. The last
digit has the exponent `e`. -/
def scientific (digits : Nat) (e : Int) : String :=
  let cs := (toString digits).toList
  let kept := (cs.reverse.dropWhile (· = '0')).reverse
  let exponent := e + (cs.length - 1 : Nat)
  let tail := kept.drop 1
  String.ofList (kept.take 1) ++ "." ++ (if tail.isEmpty then "0" else String.ofList tail) ++ "E" ++
    toString exponent

/-- The bounds between which numbers are written without an exponent. -/
def isMiddling (size : Float) : Bool :=
  0.000001 ≤ size && size < 1000000.0

/-- The text of a number that is not written as a decimal. -/
def specialText (x : Float) (digits : Nat → Int → Nat × Int) : String :=
  match parts? x with
  | none => if x.isNaN then "NaN" else if isNegative x then "-INF" else "INF"
  | some (negative, m, e) =>
    let sign := if negative then "-" else ""
    if m = 0 then sign ++ "0"
    else
      let (whole, last) := digits m e
      sign ++ scientific whole last

/-- The text of a double. -/
def text (x : Float) : String :=
  let middling := if isMiddling x.abs then toDecimal? x else none
  match middling with
  | some q => Decimal.text q
  | none => specialText x fun m e =>
    shortest m e 800 (magnitude (binary m e) 700 310)

/-- Whether a decimal fraction reads back as a float. -/
def readsBackFloat (x : Float32) (digits : Nat) (e : Int) : Bool :=
  (Float32.ofScientific digits (e < 0) e.natAbs).toBits == x.abs.toBits

/-- The least digits of a float that read back. -/
def shortestFloat (x : Float32) (value : Rat) : Nat → Int → Nat × Int
  | 0, grid => (0, grid)
  | n + 1, grid =>
    let below := (value / gridUnit grid).floor
    let nearer := if value / gridUnit grid - below ≤ mkRat 1 2 then below else below + 1
    let other := if nearer = below then below + 1 else below
    if readsBackFloat x nearer.toNat grid then (nearer.toNat, grid)
    else if readsBackFloat x other.toNat grid then (other.toNat, grid)
    else shortestFloat x value n (grid - 1)

/-- The text of a float. -/
def floatText (x : Float32) : String :=
  let middling := if isMiddling x.toFloat.abs then floatToDecimal? x else none
  match middling with
  | some q => Decimal.text q
  | none => specialText x.toFloat fun m e =>
    shortestFloat x (binary m e) 100 (magnitude (binary m e) 100 40)

/-! ## Order -/

/-- The order of doubles in which what is no number equals itself and comes last. -/
def order (x y : Float) : Ordering :=
  if x.isNaN then (if y.isNaN then .eq else .gt)
  else if y.isNaN then .lt
  else if x < y then .lt
  else if x == y then .eq
  else .gt

end MarkupQuery.XPath.Double
