import MarkupQuery.XPath.Conversion

/-!
# Entries of the library

What the library says about a function: its name, the types of its parameters and of its result, and
how it comes to its result. Arguments are converted to the types of the parameters first, so that
most functions can take them apart with the readers below.
-/

namespace MarkupQuery.XPath

open MarkupQuery.Document (Table)

/-- What a function of the library may use: the context, a way to call functions that are values,
and a way to find the function of a name and a number of arguments. -/
structure Env (t : Table) where
  context : Context t
  call : Item t → List (Value t) → Except Fault (Value t)
  find : QName → Nat → Option (Function t)

/-- How a function of the library comes to its result: from its arguments, in any document. -/
abbrev Run : Type :=
  {t : Table} → Env t → List (Value t) → Except Fault (Value t)

namespace Run

/-- A function of one argument. -/
def one (f : {t : Table} → Value t → Except Fault (Value t)) : Run := fun _ args =>
  match args with
  | [v] => f v
  | _ => .error .wrongType

/-- A function of two arguments. -/
def two (f : {t : Table} → Value t → Value t → Except Fault (Value t)) : Run := fun _ args =>
  match args with
  | [v, w] => f v w
  | _ => .error .wrongType

/-- A function of three arguments. -/
def three (f : {t : Table} → Value t → Value t → Value t → Except Fault (Value t)) : Run :=
  fun _ args =>
    match args with
    | [u, v, w] => f u v w
    | _ => .error .wrongType

end Run

/-- What a function asks the context for. -/
inductive ContextUse
  | unused
  /-- The context item stands for the first argument if that is left out. It is not converted. -/
  | first
  /-- The context item stands for the last argument if that is left out. -/
  | last
  /-- The function tells the place of the context item. -/
  | place
  deriving DecidableEq

/-- A function of the library. -/
structure Entry where
  name : QName
  parameters : List ValueType
  result : ValueType
  use : ContextUse := .unused
  /-- Whether the last parameter may be given any number of times. -/
  repeats : Bool := false
  run : Run

/-! ## Types -/

/-- One atom of a type. -/
def oneOf (type : AtomicType) : ValueType :=
  .one (.atomic type)

/-- At most one atom of a type. -/
def optionalOf (type : AtomicType) : ValueType :=
  .optional (.atomic type)

/-- Atoms of a type. -/
def manyOf (type : AtomicType) : ValueType :=
  .many (.atomic type)

/-- At most one number. -/
def optionalNumber : ValueType :=
  .optional .numeric

/-- At most one node. -/
def optionalNode : ValueType :=
  .optional (.node .node)

/-- Some nodes. -/
def manyNodes : ValueType :=
  .many (.node .node)

/-- One function of so many parameters. -/
def functionOf (arity : Nat) : ValueType :=
  .one (.function (List.replicate arity .any) .any)

/-- A function in the namespace that needs no prefix. -/
def entry (name : String) (parameters : List ValueType) (result : ValueType)
    (run : Run) : Entry :=
  { name := { space := functionSpace, name := name }, parameters := parameters, result := result,
    run := run }

/-- A function in a namespace. -/
def entryIn (space name : String) (parameters : List ValueType) (result : ValueType)
    (run : Run) : Entry :=
  { name := { space := space, name := name }, parameters := parameters, result := result,
    run := run }

/-- A function whose first argument may be the context item. -/
def entryOfContext (name : String) (parameters : List ValueType) (result : ValueType)
    (run : Run) : Entry :=
  { name := { space := functionSpace, name := name }, parameters := parameters, result := result,
    use := .first, run := run }

/-- A function whose last argument may be the context item. -/
def entryAtContext (name : String) (parameters : List ValueType) (result : ValueType)
    (run : Run) : Entry :=
  { name := { space := functionSpace, name := name }, parameters := parameters, result := result,
    use := .last, run := run }

/-! ## Arguments -/

section

variable {t : Table}

namespace Value

/-- A text; none has no characters. -/
def toText : Value t → Except Fault String
  | [] => .ok ""
  | [.atom (.string _ s)] => .ok s
  | _ => .error .wrongType

/-- A text, if there is one. -/
def toText? : Value t → Except Fault (Option String)
  | [] => .ok none
  | [.atom (.string _ s)] => .ok (some s)
  | _ => .error .wrongType

/-- An integer. -/
def toInt : Value t → Except Fault Int
  | [.atom (.number (.integer _ n))] => .ok n
  | _ => .error .wrongType

/-- A double. -/
def toDouble : Value t → Except Fault Float
  | [.atom (.number n)] => .ok n.toDouble
  | _ => .error .wrongType

/-- A number, if there is one. -/
def toNumber? : Value t → Except Fault (Option Number)
  | [] => .ok none
  | [.atom (.number n)] => .ok (some n)
  | _ => .error .wrongType

/-- An item. -/
def toItem : Value t → Except Fault (Item t)
  | [i] => .ok i
  | _ => .error .wrongType

/-- A node, if there is one. -/
def toNode? : Value t → Except Fault (Option t.Node)
  | [] => .ok none
  | [.node n] => .ok (some n)
  | _ => .error .wrongType

/-- An atom. -/
def toAtom : Value t → Except Fault Atom
  | [.atom a] => .ok a
  | _ => .error .wrongType

/-- Atoms. -/
def toAtoms : Value t → Except Fault (List Atom)
  | [] => .ok []
  | .atom a :: rest => (toAtoms rest).map (a :: ·)
  | _ => .error .wrongType

/-- The entries of a map. -/
def toMap : Value t → Except Fault (List (Atom × Value t))
  | [.map entries] => .ok entries
  | _ => .error .wrongType

/-- The members of an array. -/
def toArray : Value t → Except Fault (List (Value t))
  | [.array members] => .ok members
  | _ => .error .wrongType

end Value

/-! ## Texts of items -/

/-- The text of an item that has one. -/
def itemText : Item t → Except Fault String
  | .node n => .ok (t.text n)
  | .atom a => .ok a.text
  | _ => .error .functionText

/-- The text of a value of at most one item; an empty value has an empty text. -/
def textOf : Value t → Except Fault String
  | [] => .ok ""
  | [i] => itemText i
  | _ => .error .wrongType

/-! ## Collations -/

/-- How texts are compared. -/
inductive Collation
  | codePoints
  /-- Capital and small letters of ASCII are alike. -/
  | smallLetters
  /-- Texts are known by their keys alone. -/
  | keyed (sortKey : String → String)

/-- The address of the collation by code points. -/
def codePointAddress : String :=
  "http://www.w3.org/2005/xpath-functions/collation/codepoint"

/-- The collation of an address. -/
def collationOf (w : Surroundings) (address : String) : Except Fault Collation :=
  if address == codePointAddress then .ok .codePoints
  else if address ==
      "http://www.w3.org/2005/xpath-functions/collation/html-ascii-case-insensitive" then
    .ok .smallLetters
  else
    match w.sortKey? address with
    | some sortKey => .ok (.keyed sortKey)
    | none => .error .unknownCollation

/-- The collation that an optional last argument names. -/
def collationArgument (w : Surroundings) (arguments : List (Value t)) :
    Except Fault Collation := do
  match arguments with
  | [] => return .codePoints
  | v :: _ => collationOf w (← v.toText)

end

/-- A text as a collation sees it. -/
def Collation.view (c : Collation) (s : String) : String :=
  match c with
  | .codePoints => s
  | .smallLetters => s.map Char.toLower
  | .keyed sortKey => sortKey s

/-- The characters that a collation compares one by one. A collation that knows texts by their keys
has none, so that it cannot look for one text in another. -/
def Collation.units (c : Collation) (s : String) : Except Fault (List Char) :=
  match c with
  | .codePoints | .smallLetters => .ok (c.view s).toList
  | .keyed _ => .error .noCollationUnits

/-- An atom as a collation sees it. -/
def Collation.viewAtom (c : Collation) (a : Atom) : Atom :=
  match a with
  | .string type s => .string type (c.view s)
  | .untyped s => .untyped (c.view s)
  | a => a

end MarkupQuery.XPath
