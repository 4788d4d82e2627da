import MarkupQuery.XPath.Parser.Names

/-!
# Reading types

The types of values as expressions write them, behind `as` and `of` and in functions written out.
-/

namespace MarkupQuery.XPath

/-- The type of a name that stands for a type of items. -/
def typeOfName (name : QName) : Except Fault ItemType :=
  if name.space != schemaSpace then .error .unknownType
  else if name.name == "numeric" then .ok .numeric
  else match AtomicType.named.lookup name.name with
    | some t => .ok (.atomic t)
    | none => .error .unknownType

/-- Reads the type that a value is cast to. It must be one of atoms that can be made. -/
def castType (tokens : List Token) : Except Fault (Reading (AtomicType × Bool)) := do
  let (name, rest) ← qualifiedName "" tokens
  if name.space == schemaSpace && name.name == "anySimpleType" then throw .abstractCast
  match ← typeOfName name with
  | .atomic .anyAtomic | .atomic .notationName => throw .abstractCast
  | .atomic t =>
    match rest with
    | .question :: rest => return ((t, true), rest)
    | _ => return ((t, false), rest)
  | _ => throw .unknownType

/-- Reads how many items there may be, behind the type of one. -/
def occurrence (tokens : List Token) : Reading Occurrence :=
  match tokens with
  | .question :: rest => (.optional, rest)
  | .star :: rest => (.many, rest)
  | .plus :: rest => (.some, rest)
  | _ => (.one, tokens)

mutual

/-- Reads the type of a value. -/
def valueType : Nat → List Token → Except Fault (Reading ValueType)
  | 0, _ => .error .grammar
  | fuel + 1, tokens =>
    match tokens with
    | .name "empty-sequence" :: .openParen :: rest => do
      return (.empty, ← expect .closeParen rest)
    | _ => do
      let (type, rest) ← itemType fuel tokens
      let (count, rest) := occurrence rest
      return (.of type count, rest)

/-- Reads the type of an item. -/
def itemType : Nat → List Token → Except Fault (Reading ItemType)
  | 0, _ => .error .grammar
  | fuel + 1, tokens =>
    match tokens with
    | .name "item" :: .openParen :: rest => do
      return (.item, ← expect .closeParen rest)
    | .name "function" :: .openParen :: .star :: rest => do
      return (.anyFunction, ← expect .closeParen rest)
    | .name "function" :: .openParen :: rest => do
      let (parameters, rest) ← match rest with
        | .closeParen :: rest => pure ([], rest)
        | _ => do
          let (first, rest) ← valueType fuel rest
          let (more, rest) ← valueTypes fuel rest
          pure (first :: more, ← expect .closeParen rest)
      let (result, rest) ← valueType fuel (← expect (.name "as") rest)
      return (.function parameters result, rest)
    | .name "map" :: .openParen :: .star :: rest => do
      return (.anyMap, ← expect .closeParen rest)
    | .name "map" :: .openParen :: rest => do
      let (name, rest) ← qualifiedName "" rest
      let key ← match ← typeOfName name with
        | .atomic t => pure t
        | _ => throw .unknownType
      let (value, rest) ← valueType fuel (← expect .comma rest)
      return (.map key value, ← expect .closeParen rest)
    | .name "array" :: .openParen :: .star :: rest => do
      return (.anyArray, ← expect .closeParen rest)
    | .name "array" :: .openParen :: rest => do
      let (member, rest) ← valueType fuel rest
      return (.array member, ← expect .closeParen rest)
    | .openParen :: rest => do
      let (type, rest) ← itemType fuel rest
      return (type, ← expect .closeParen rest)
    | .name n :: .openParen :: rest => do
      if isKind n then
        let (test, rest) ← kindTest n rest
        return (.node test, rest)
      else throw .grammar
    | _ => do
      let (name, rest) ← qualifiedName "" tokens
      return (← typeOfName name, rest)

/-- Reads further types, each behind a comma. -/
def valueTypes : Nat → List Token → Except Fault (Reading (List ValueType))
  | 0, _ => .error .grammar
  | fuel + 1, tokens =>
    match tokens with
    | .comma :: rest => do
      let (first, rest) ← valueType fuel rest
      let (more, rest) ← valueTypes fuel rest
      return (first :: more, rest)
    | _ => .ok ([], tokens)

end

end MarkupQuery.XPath
