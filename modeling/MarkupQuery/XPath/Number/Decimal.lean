/-!
# Decimal numbers

A decimal is a whole number of at most 96 bits, divided by a power of ten of at most 28. `fit?`
rounds a fraction to the nearest decimal; what is too large for any has none.
-/

namespace MarkupQuery.XPath.Decimal

/-- The largest whole number of a decimal. -/
def limit : Nat :=
  79228162514264337593543950335

/-- How many digits behind the point a decimal has at most. -/
def places : Nat :=
  28

/-- The value of decimal digits. -/
def digitsValue (digits : List Char) : Nat :=
  digits.foldl (fun n c => 10 * n + (c.toNat - '0'.toNat)) 0

/-- A power of ten. -/
def tenTo (n : Nat) : Nat :=
  Nat.pow 10 n

/-- The integer nearest to a fraction; a half goes to the even neighbour. -/
def nearestEven (q : Rat) : Int :=
  let below := q.floor
  let part := q - below
  let half := mkRat 1 2
  if part < half then below
  else if half < part then below + 1
  else if below % 2 = 0 then below else below + 1

/-- The integer nearest to a fraction; a half goes up. -/
def nearestUp (q : Rat) : Int :=
  (q + mkRat 1 2).floor

/-- The whole part of a fraction, toward zero. -/
def truncate (q : Rat) : Int :=
  if q < 0 then -(-q).floor else q.floor

/-- The decimal nearest to a fraction among those with at most so many places that are not too
large. -/
def fitPlaces? : Nat → Rat → Option Rat
  | n, q =>
    let whole := nearestEven (q * tenTo n)
    if whole.natAbs ≤ limit then some (mkRat whole (tenTo n))
    else match n with
      | 0 => none
      | n + 1 => fitPlaces? n q

/-- The decimal nearest to a fraction. -/
def fit? (q : Rat) : Option Rat :=
  fitPlaces? places q

/-- Reads digits behind a point onto a whole number as long as a decimal can hold them; the first
that it cannot hold rounds the last one read. `n` is the number of places read. -/
def readFraction (whole n : Nat) : List Char → Rat
  | [] => mkRat whole (tenTo n)
  | c :: cs =>
    let next := digitsValue [c]
    if n < places && 10 * whole + next ≤ limit then readFraction (10 * whole + next) (n + 1) cs
    else mkRat (if 5 ≤ next then whole + 1 else whole) (tenTo n)

/-- The decimal of the digits before and behind a point. -/
def ofDigits? (whole fraction : List Char) : Option Rat :=
  let n := digitsValue whole
  if n ≤ limit then some (readFraction n 0 fraction) else none

/-- Drops digits behind the point, one at a time, until a number has at most so many bits and no
more places than a decimal; each drop rounds, a half going up. -/
def shorten (bits : Nat) : Nat → Nat → Rat
  | whole, 0 => whole
  | whole, n + 1 =>
    if places ≤ n || Nat.pow 2 bits ≤ whole then shorten bits ((whole + 5) / 10) n
    else mkRat whole (tenTo (n + 1))

/-- The decimal for a binary fraction, `m * 2 ^ e`, of which only so many bits are to be trusted. -/
def ofBinary? (bits : Nat) (m : Nat) (e : Int) : Option Rat :=
  if 0 ≤ e then
    let whole := m * Nat.pow 2 e.toNat
    if whole ≤ limit then some whole else none
  else
    let n := (-e).toNat
    some (shorten bits (m * Nat.pow 5 n) n)

/-! ## Text -/

/-- The digits of a fraction below one behind the point, at most `n` of them. -/
def fractionDigits : Nat → Rat → List Char
  | 0, _ => []
  | n + 1, q =>
    if q = 0 then []
    else
      let digit := (q * 10).floor
      Nat.digitChar digit.toNat :: fractionDigits n (q * 10 - digit)

/-- The text of a decimal: its digits, without zeros at the end of the fraction. -/
def text (q : Rat) : String :=
  let size := if q < 0 then -q else q
  let digits := fractionDigits places (size - size.floor)
  (if q < 0 then "-" else "") ++ toString size.floor ++
    (if digits.isEmpty then "" else "." ++ String.ofList digits)

end MarkupQuery.XPath.Decimal
