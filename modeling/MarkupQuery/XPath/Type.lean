import MarkupQuery.XPath.Name
import MarkupQuery.XPath.NodeTest

/-!
# Types

The types of values that expressions may name: types of atoms, kinds of nodes, functions, maps and
arrays, each with the number of items that a value of the type has.
-/

namespace MarkupQuery.XPath

/-- The type of an atom. -/
inductive AtomicType
  | anyAtomic
  | untyped
  | string
  | normalizedString
  | token
  | language
  | nmtoken
  | name
  | ncName
  | id
  | idref
  | entity
  | anyUri
  | boolean
  | decimal
  | integer
  | nonPositiveInteger
  | negativeInteger
  | long
  | int
  | short
  | byte
  | nonNegativeInteger
  | unsignedLong
  | unsignedInt
  | unsignedShort
  | unsignedByte
  | positiveInteger
  | float
  | double
  | qName
  | notationName
  | hexBinary
  | base64Binary
  | duration
  | yearMonthDuration
  | dayTimeDuration
  | dateTime
  | dateTimeStamp
  | date
  | time
  | gYearMonth
  | gYear
  | gMonthDay
  | gDay
  | gMonth
  deriving DecidableEq

namespace AtomicType

/-- The types of atoms by their names. -/
def named : List (String × AtomicType) :=
  [("anyAtomicType", anyAtomic), ("untypedAtomic", untyped), ("string", string),
   ("normalizedString", normalizedString), ("token", token), ("language", language),
   ("NMTOKEN", nmtoken), ("Name", name), ("NCName", ncName), ("ID", id), ("IDREF", idref),
   ("ENTITY", entity), ("anyURI", anyUri), ("boolean", boolean), ("decimal", decimal),
   ("integer", integer), ("nonPositiveInteger", nonPositiveInteger),
   ("negativeInteger", negativeInteger), ("long", long), ("int", int), ("short", short),
   ("byte", byte), ("nonNegativeInteger", nonNegativeInteger), ("unsignedLong", unsignedLong),
   ("unsignedInt", unsignedInt), ("unsignedShort", unsignedShort), ("unsignedByte", unsignedByte),
   ("positiveInteger", positiveInteger), ("float", float), ("double", double), ("QName", qName),
   ("NOTATION", notationName), ("hexBinary", hexBinary), ("base64Binary", base64Binary),
   ("duration", duration), ("yearMonthDuration", yearMonthDuration),
   ("dayTimeDuration", dayTimeDuration), ("dateTime", dateTime),
   ("dateTimeStamp", dateTimeStamp), ("date", date), ("time", time), ("gYearMonth", gYearMonth),
   ("gYear", gYear), ("gMonthDay", gMonthDay), ("gDay", gDay), ("gMonth", gMonth)]

/-- The type that a type is a restriction of. -/
def base : AtomicType → AtomicType
  | normalizedString => string
  | token => normalizedString
  | language | nmtoken | name => token
  | ncName => name
  | id | idref | entity => ncName
  | integer => decimal
  | nonPositiveInteger | long | nonNegativeInteger => integer
  | negativeInteger => nonPositiveInteger
  | int => long
  | short => int
  | byte => short
  | unsignedLong | positiveInteger => nonNegativeInteger
  | unsignedInt => unsignedLong
  | unsignedShort => unsignedInt
  | unsignedByte => unsignedShort
  | yearMonthDuration | dayTimeDuration => duration
  | dateTimeStamp => dateTime
  | _ => anyAtomic

/-- The types that a type is a restriction of, itself first; at most `n` of them. -/
def chain : Nat → AtomicType → List AtomicType
  | 0, t => [t]
  | n + 1, t => if t = anyAtomic then [t] else t :: chain n t.base

/-- Whether every atom of one type is one of another. -/
def derives (t u : AtomicType) : Bool :=
  (chain 9 t).contains u

/-- The bounds of a type of integers. -/
def bounds : AtomicType → Option Int × Option Int
  | nonPositiveInteger => (none, some 0)
  | negativeInteger => (none, some (-1))
  | long => (some (-9223372036854775808), some 9223372036854775807)
  | int => (some (-2147483648), some 2147483647)
  | short => (some (-32768), some 32767)
  | byte => (some (-128), some 127)
  | nonNegativeInteger => (some 0, none)
  | unsignedLong => (some 0, some 18446744073709551615)
  | unsignedInt => (some 0, some 4294967295)
  | unsignedShort => (some 0, some 65535)
  | unsignedByte => (some 0, some 255)
  | positiveInteger => (some 1, none)
  | _ => (none, none)

/-- Whether an integer is one of a type of integers. -/
def admits (t : AtomicType) (n : Int) : Bool :=
  t.bounds.1.all (fun least => least ≤ n) && t.bounds.2.all fun most => n ≤ most

end AtomicType

/-- How many items a value has. -/
inductive Occurrence
  | one
  | optional
  | many
  | some
  deriving DecidableEq

/-- Whether so many items are as many as there may be. -/
def Occurrence.admits (o : Occurrence) (n : Nat) : Bool :=
  match o with
  | .one => n == 1
  | .optional => n ≤ 1
  | .many => true
  | .some => 1 ≤ n

mutual

/-- The type of an item. -/
inductive ItemType
  | item
  | atomic (type : AtomicType)
  /-- Numbers of all kinds. -/
  | numeric
  | node (test : NodeTest)
  | anyFunction
  | function (parameters : List ValueType) (result : ValueType)
  | anyMap
  | map (key : AtomicType) (value : ValueType)
  | anyArray
  | array (member : ValueType)

/-- The type of a value. -/
inductive ValueType
  | empty
  | of (type : ItemType) (occurrence : Occurrence)

end

namespace ValueType

/-- Values of one item. -/
def one (type : ItemType) : ValueType :=
  .of type .one

/-- Values of at most one item. -/
def optional (type : ItemType) : ValueType :=
  .of type .optional

/-- All values of items of a type. -/
def many (type : ItemType) : ValueType :=
  .of type .many

/-- All values. -/
def any : ValueType :=
  .of .item .many

end ValueType

/-- What a name of a type says about elements and attributes, none of which has a type of its own:
whether all of them are of that type, or none; no such type may exist. -/
def admitsUntyped? (type : QName) : Option Bool :=
  if type.space != schemaSpace then none
  else if ["anyType", "anySimpleType", "anyAtomicType", "untypedAtomic"].contains type.name then
    some true
  else if (AtomicType.named.lookup type.name).isSome ||
      ["untyped", "numeric", "error", "NMTOKENS", "IDREFS", "ENTITIES"].contains type.name then
    some false
  else none

end MarkupQuery.XPath
