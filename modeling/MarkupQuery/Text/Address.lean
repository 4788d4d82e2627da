import MarkupQuery.Text.Parts

/-!
# Addresses

The parts of an address, and what an address means beside another one: `Address.resolve` takes what
the one leaves out from the other, and drops steps within a path that lead nowhere.
-/

namespace MarkupQuery.Text

/-- The parts of an address. -/
structure Address where
  scheme : Option String := none
  authority : Option String := none
  path : List Char := []
  query : Option String := none
  fragment : Option String := none
  deriving DecidableEq

namespace Address

/-- What stands before the first character of a kind, and what stands from it on. -/
def cut (stop : Char → Bool) (cs : List Char) : List Char × List Char :=
  (cs.takeWhile fun c => !stop c, cs.dropWhile fun c => !stop c)

/-- The scheme of an address, if it begins with one, and the rest. -/
def readScheme (cs : List Char) : Option String × List Char :=
  match cut (fun c => c = ':' || c = '/' || c = '?' || c = '#') cs with
  | (name, ':' :: rest) =>
    if name.head?.any Char.isAlpha &&
        name.all fun c => c.isAlphanum || c = '+' || c = '-' || c = '.' then
      (some (String.ofList name), rest)
    else (none, cs)
  | _ => (none, cs)

/-- Whether a character may stand in an address. -/
def isAllowed (c : Char) : Bool :=
  0x20 < c.toNat && c.toNat != 0x7F && c.toNat != 0x60 &&
    !("<>\"\x7b\x7d|\\^".toList.contains c)

/-- The address of a text. -/
def ofText? (s : String) : Option Address :=
  if !s.toList.all isAllowed then none
  else
    let (scheme, rest) := readScheme s.toList
    let (rest, fragment) := cut (· = '#') rest
    let (rest, query) := cut (· = '?') rest
    let (authority, path) : Option String × List Char := match rest with
      | '/' :: '/' :: more =>
        let (name, path) := cut (· = '/') more
        (some (String.ofList name), path)
      | path => (none, path)
    let behind (cs : List Char) : Option String :=
      match cs with
      | [] => none
      | _ :: cs => some (String.ofList cs)
    if scheme.isNone && (cut (· = '/') path).1.contains ':' then none
    else some { scheme := scheme, authority := authority, path := path, query := behind query,
                fragment := behind fragment }

/-- The text of an address. -/
def text (a : Address) : String :=
  (a.scheme.map (· ++ ":")).getD "" ++ (a.authority.map ("//" ++ ·)).getD "" ++
    String.ofList a.path ++ (a.query.map ("?" ++ ·)).getD "" ++ (a.fragment.map ("#" ++ ·)).getD ""

/-- The segments of a path. -/
def segments (cs : List Char) : List (List Char) :=
  partsBetween (· = '/') cs

/-- Segments without those that stand for the place itself or for the one above. `before` holds,
backwards, those that are kept. -/
def withoutDots (before : List (List Char)) : List (List Char) → List (List Char)
  | [] => before.reverse
  | [['.']] => ([] :: before).reverse
  | [['.', '.']] => ([] :: before.drop 1).reverse
  | ['.'] :: rest => withoutDots before rest
  | ['.', '.'] :: rest => withoutDots (before.drop 1) rest
  | part :: rest => withoutDots (part :: before) rest

/-- A path with slashes between its segments. -/
def joined (parts : List (List Char)) : List Char :=
  ['/'].intercalate parts

/-- A path without steps that lead nowhere. -/
def clean (path : List Char) : List Char :=
  match path with
  | '/' :: rest => '/' :: joined (withoutDots [] (segments rest))
  | path => joined (withoutDots [] (segments path))

/-- A path beside another: the last segment of that gives way to it. -/
def merge (base : Address) (path : List Char) : List Char :=
  if base.authority.isSome && base.path.isEmpty then '/' :: path
  else joined ((segments base.path).dropLast ++ segments path)

/-- What an address means beside another one. -/
def resolve (base a : Address) : Address :=
  if a.scheme.isSome then { a with path := clean a.path }
  else if a.authority.isSome then { a with scheme := base.scheme, path := clean a.path }
  else
    let path := match a.path with
      | [] => base.path
      | '/' :: _ => clean a.path
      | path => clean (merge base path)
    { scheme := base.scheme, authority := base.authority, path := path,
      query := if a.path.isEmpty then a.query.or base.query else a.query, fragment := a.fragment }

end Address

end MarkupQuery.Text
