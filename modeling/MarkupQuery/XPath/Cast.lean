import MarkupQuery.XPath.Atom
import MarkupQuery.XPath.Words

/-!
# Casts

`Atom.cast` makes an atom of one type into one of another. Any atom has a text; from a text an atom
of most types can be read (`ofText`); other types are cast to each other where one has a value in
the other.
-/

namespace MarkupQuery.XPath.Atom

/-! ## Reading texts -/

/-- Whether a text is one or more characters of a kind. -/
def isAll (p : Char → Bool) (cs : List Char) : Bool :=
  !cs.isEmpty && cs.all p

/-- Whether a text is the tag of a language. -/
def isLanguage (cs : List Char) : Bool :=
  match Text.partsBetween (· = '-') cs with
  | first :: rest =>
    isAll Char.isAlpha first && first.length ≤ 8 &&
      rest.all fun part => isAll Char.isAlphanum part && part.length ≤ 8
  | [] => false

/-- Whether a text is a name, which may hold colons. -/
def isColonName (cs : List Char) : Bool :=
  match cs with
  | [] => false
  | c :: cs => (isNameStart c || c = ':') && cs.all fun c => isNameChar c || c = ':'

/-- The text of a type of texts for a text, if there is one. -/
def textOfType? (type : AtomicType) (s : String) : Option String :=
  let word := oneSpaced s
  let checked (test : List Char → Bool) : Option String :=
    if test word.toList then some word else none
  match type with
  | .string => some s
  | .normalizedString => some (blanksAsSpaces s)
  | .token | .anyUri => some word
  | .language => checked isLanguage
  | .nmtoken => checked (isAll fun c => isNameChar c || c = ':')
  | .name => checked isColonName
  | .ncName | .id | .idref | .entity => checked fun cs => isName (String.ofList cs)
  | _ => none

/-- The integer of a text: digits, perhaps behind a sign. -/
def integerOfText? (s : String) : Option Int :=
  let digits (cs : List Char) : Option Int :=
    if isAll Char.isDigit cs then some (Decimal.digitsValue cs) else none
  match s.toList with
  | '-' :: cs => (digits cs).map fun n => -n
  | '+' :: cs => digits cs
  | cs => digits cs

/-- The decimal of a text: digits with or without a point, perhaps behind a sign. -/
def decimalOfText? (s : String) : Option Rat :=
  let unsigned (cs : List Char) : Option Rat :=
    let (whole, rest) := Lexer.span Char.isDigit cs
    let fraction? : Option (List Char) := match rest with
      | [] => some []
      | '.' :: more => if more.all Char.isDigit then some more else none
      | _ => none
    fraction?.bind fun fraction =>
      if whole.isEmpty && fraction.isEmpty then none else Decimal.ofDigits? whole fraction
  match s.toList with
  | '-' :: cs => (unsigned cs).map fun q => -q
  | '+' :: cs => unsigned cs
  | cs => unsigned cs

/-- The truth value of a text. -/
def booleanOfText? (s : String) : Option Bool :=
  if s == "true" || s == "1" then some true
  else if s == "false" || s == "0" then some false
  else none

/-- The name of a text. -/
def nameOfText (s : String) : Except Fault Atom := do
  let parts := (Text.partsBetween (· = ':') (oneSpaced s).toList).map String.ofList
  if !parts.all isName then throw .badCast
  match parts with
  | [name] => return .qname "" { name := name }
  | [pre, name] =>
    match declaredPrefixes.lookup pre with
    | some space => return .qname pre { space := space, name := name }
    | none => throw .noNamespace
  | _ => throw .badCast

/-- The atom of a type that a text stands for. -/
def ofText (type : AtomicType) (s : String) : Except Fault Atom :=
  let made (a : Option Atom) : Except Fault Atom :=
    match a with
    | some a => .ok a
    | none => .error .badCast
  match type with
  | .untyped | .anyAtomic => .ok (.untyped s)
  | .boolean => made ((booleanOfText? s).map .boolean)
  | .decimal => made ((decimalOfText? s).map fun q => .number (.decimal q))
  | .double => made ((Double.ofText? s).map fun x => .number (.double x))
  | .float => made ((Double.ofText? s).map fun x => .number (.float x.toFloat32))
  | .qName => nameOfText s
  | .notationName => .error .wrongType
  | .hexBinary => made ((hexBytes? (Double.trim s)).map (.binary .hexBinary))
  | .base64Binary =>
    made ((base64Bytes? (s.toList.filter fun c => !Lexer.isBlank c)).map (.binary .base64Binary))
  | .duration | .yearMonthDuration | .dayTimeDuration =>
    made ((Duration.ofText? type (Double.trim s)).map (.duration type))
  | .dateTime | .dateTimeStamp | .date | .time | .gYearMonth | .gYear | .gMonthDay | .gDay
  | .gMonth => made ((Moment.ofText? type (Double.trim s)).map (.moment type))
  | _ =>
    if type.derives .integer then
      made (((integerOfText? s).filter type.admits).map fun n => .number (.integer type n))
    else made ((textOfType? type s).map (.string type))

/-! ## Other casts -/

/-- The integer of a type of integers for an integer. -/
def integerOfType (type : AtomicType) (n : Int) : Except Fault Atom :=
  if type.admits n then .ok (.number (.integer type n)) else .error .castOverflow

/-- A number cast to a type. -/
def castNumber (type : AtomicType) (n : Number) : Except Fault Atom :=
  match type with
  | .boolean => .ok (.boolean n.isTrue)
  | .double => .ok (.number (.double n.toDouble))
  | .float => .ok (.number (.float n.toFloat))
  | .decimal =>
    let made (q : Option Rat) : Except Fault Atom :=
      match q with
      | some q => .ok (.number (.decimal q))
      | none => .error (if n.toRat?.isSome then .decimalOverflow else .castInvalid)
    match n with
    | .integer _ m => made (Decimal.fit? m)
    | .decimal q => .ok (.number (.decimal q))
    | .float x => made (Double.floatToDecimal? x)
    | .double x => made (Double.toDecimal? x)
  | _ =>
    if type.derives .integer then
      match n.toRat? with
      | some q => integerOfType type (Decimal.truncate q)
      | none => .error .castInvalid
    else .error .wrongType

/-- A moment cast to another type of moments. -/
def castMoment (type source : AtomicType) (m : Moment) : Except Fault Atom :=
  let free : Moment := { zone := m.zone }
  match source, type with
  | _, .date =>
    if source = .date || source = .dateTime || source = .dateTimeStamp then
      .ok (.moment .date { m with seconds := 0 })
    else .error .wrongType
  | .date, .dateTime => .ok (.moment .dateTime { m with seconds := 0 })
  | .date, .gYearMonth | .dateTime, .gYearMonth | .dateTimeStamp, .gYearMonth =>
    .ok (.moment type { free with year := m.year, month := m.month, day := 1 })
  | .date, .gYear | .dateTime, .gYear | .dateTimeStamp, .gYear =>
    .ok (.moment type { free with year := m.year, month := 1, day := 1 })
  | .date, .gMonthDay | .dateTime, .gMonthDay | .dateTimeStamp, .gMonthDay =>
    .ok (.moment type { free with month := m.month, day := m.day })
  | .date, .gDay | .dateTime, .gDay | .dateTimeStamp, .gDay =>
    .ok (.moment type { free with month := 1, day := m.day })
  | .date, .gMonth | .dateTime, .gMonth | .dateTimeStamp, .gMonth =>
    .ok (.moment type { free with month := m.month, day := 1 })
  | .dateTime, .time | .dateTimeStamp, .time =>
    .ok (.moment type { free with seconds := m.seconds })
  | .dateTime, .dateTimeStamp =>
    if m.zone.isSome then .ok (.moment type m) else .error .badCast
  | .dateTimeStamp, .dateTime => .ok (.moment type m)
  | _, _ => if source = type then .ok (.moment type m) else .error .wrongType

/-- A duration cast to another type of durations, of which only a part may be kept. -/
def castDuration (type : AtomicType) (d : Duration) : Except Fault Atom :=
  match type with
  | .duration => .ok (.duration type d)
  | .yearMonthDuration => .ok (.duration type { months := d.months })
  | .dayTimeDuration => .ok (.duration type { seconds := d.seconds })
  | _ => .error .wrongType

/-- The atom of another type that has the value of an atom. -/
def cast (type : AtomicType) (a : Atom) : Except Fault Atom :=
  if a.type = type then .ok a
  else if type = .untyped then .ok (.untyped a.text)
  else if type.derives .string then ofText type a.text
  else match a with
    | untyped s => ofText type s
    | string source s => if source = .anyUri then .error .wrongType else ofText type s
    | boolean b =>
      if type = .boolean then .ok a else castNumber type (.ofNat (if b then 1 else 0))
    | number n => castNumber type n
    | qname _ _ => .error .wrongType
    | binary _ bytes =>
      if type = .hexBinary || type = .base64Binary then .ok (.binary type bytes)
      else .error .wrongType
    | moment source m => castMoment type source m
    | duration _ d => castDuration type d

end MarkupQuery.XPath.Atom
