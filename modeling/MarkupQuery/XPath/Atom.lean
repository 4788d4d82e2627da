import MarkupQuery.XPath.Moment
import MarkupQuery.XPath.Number

/-!
# Atoms

Values without parts, each with its type, and the texts that stand for them.
-/

namespace MarkupQuery.XPath

/-- A value without parts. -/
inductive Atom
  /-- Text of no certain type. -/
  | untyped (s : String)
  /-- Text of a type of texts, or an address. -/
  | string (type : AtomicType) (s : String)
  | boolean (b : Bool)
  | number (n : Number)
  /-- A name, with the prefix that it was written with. -/
  | qname (pre : String) (name : QName)
  | binary (type : AtomicType) (bytes : List UInt8)
  | moment (type : AtomicType) (m : Moment)
  | duration (type : AtomicType) (d : Duration)
  deriving DecidableEq

/-! ## Bytes -/

/-- The digits of bytes in base sixteen. -/
def hexText (bytes : List UInt8) : String :=
  String.ofList (bytes.flatMap fun b =>
    [Nat.digitChar (b.toNat / 16), Nat.digitChar (b.toNat % 16)].map Char.toUpper)

/-- The value of a digit in base sixteen. -/
def hexDigit? (c : Char) : Option Nat :=
  if c.isDigit then some (c.toNat - '0'.toNat)
  else if 'a' ≤ c ∧ c ≤ 'f' then some (c.toNat - 'a'.toNat + 10)
  else if 'A' ≤ c ∧ c ≤ 'F' then some (c.toNat - 'A'.toNat + 10)
  else none

/-- The bytes of digits in base sixteen. -/
def hexBytes? : List Char → Option (List UInt8)
  | [] => some []
  | c :: d :: rest => do
    let high ← hexDigit? c
    let low ← hexDigit? d
    return UInt8.ofNat (16 * high + low) :: (← hexBytes? rest)
  | [_] => none

/-- The digits of base sixty-four. -/
def base64Digits : List Char :=
  "ABCDEFGHIJKLMNOPQRSTUVWXYZabcdefghijklmnopqrstuvwxyz0123456789+/".toList

/-- The digit of base sixty-four with a value. -/
def base64Digit (n : Nat) : Char :=
  (base64Digits[n % 64]?).getD 'A'

/-- The digits of bytes in base sixty-four. -/
def base64Text : List UInt8 → List Char
  | [] => []
  | [a] =>
    let n := a.toNat * 16
    [base64Digit (n / 64), base64Digit n, '=', '=']
  | [a, b] =>
    let n := (a.toNat * 256 + b.toNat) * 4
    [base64Digit (n / 4096), base64Digit (n / 64), base64Digit n, '=']
  | a :: b :: c :: rest =>
    let n := (a.toNat * 256 + b.toNat) * 256 + c.toNat
    base64Digit (n / 262144) :: base64Digit (n / 4096) :: base64Digit (n / 64) :: base64Digit n ::
      base64Text rest

/-- The value of a digit in base sixty-four. -/
def base64Value? (c : Char) : Option Nat :=
  base64Digits.idxOf? c

/-- The bytes of digits in base sixty-four. -/
def base64Bytes? : List Char → Option (List UInt8)
  | [] => some []
  | [a, b, '=', '='] => do
    let n := (← base64Value? a) * 64 + (← base64Value? b)
    if n % 16 = 0 then return [UInt8.ofNat (n / 16)] else none
  | [a, b, c, '='] => do
    let n := ((← base64Value? a) * 64 + (← base64Value? b)) * 64 + (← base64Value? c)
    if n % 4 = 0 then return [UInt8.ofNat (n / 1024), UInt8.ofNat (n / 4)] else none
  | a :: b :: c :: d :: rest => do
    let n := (((← base64Value? a) * 64 + (← base64Value? b)) * 64 + (← base64Value? c)) * 64 +
      (← base64Value? d)
    return UInt8.ofNat (n / 65536) :: UInt8.ofNat (n / 256) :: UInt8.ofNat n ::
      (← base64Bytes? rest)
  | _ => none

/-! ## Atoms -/

namespace Atom

/-- The atom of an ordinary text. -/
def ofString (s : String) : Atom :=
  string .string s

/-- The atom of an integer. -/
def ofInt (n : Int) : Atom :=
  number (.ofInt n)

/-- The type of an atom. -/
def type : Atom → AtomicType
  | untyped _ => .untyped
  | string type _ => type
  | boolean _ => .boolean
  | number n => n.type
  | qname _ _ => .qName
  | binary type _ => type
  | moment type _ => type
  | duration type _ => type

/-- The text of an atom. -/
def text : Atom → String
  | untyped s => s
  | string _ s => s
  | boolean b => if b then "true" else "false"
  | number n => n.text
  | qname pre name => if pre.isEmpty then name.name else pre ++ ":" ++ name.name
  | binary type bytes =>
    if type = .hexBinary then hexText bytes else String.ofList (base64Text bytes)
  | moment type m => m.text type
  | duration type d => d.text type

end Atom

end MarkupQuery.XPath
