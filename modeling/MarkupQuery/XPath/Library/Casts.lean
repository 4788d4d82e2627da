import MarkupQuery.XPath.Library.Entry

/-!
# Functions that make atoms of types

For each type of atoms that values can have there is a function of its name, which casts to it.
-/

namespace MarkupQuery.XPath.Library

/-- Whether an atom can be of a type that no other restricts it to. -/
def isConcrete (type : AtomicType) : Bool :=
  type != .anyAtomic && type != .notationName

/-- The function that casts to a type. -/
def castFunction (name : String) (type : AtomicType) : Entry :=
  entryIn schemaSpace name [optionalOf .anyAtomic] (optionalOf type) fun _ args =>
    match args with
    | [[]] => .ok []
    | [[.atom a]] => do return Value.ofAtom (← a.cast type)
    | _ => .error .wrongType

/-- The functions that cast. -/
def castFunctions : List Entry :=
  (AtomicType.named.filter fun (_, type) => isConcrete type).map fun (name, type) =>
    castFunction name type

end MarkupQuery.XPath.Library
