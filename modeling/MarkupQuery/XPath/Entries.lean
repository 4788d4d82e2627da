import MarkupQuery.XPath.Compare

/-!
# What maps hold

A map is a list of entries, each a key with a value under it, in the order in which the keys came.
No two entries have the same key in the sense of `Atom.sameKey`.
-/

namespace MarkupQuery.XPath

open MarkupQuery.Document (Table)

/-- What a map holds: its keys with what stands under them. -/
abbrev Entries (t : Table) := List (Atom × Value t)

namespace Entries

variable {t : Table}

/-- What stands under a key. -/
def get? (entries : Entries t) (key : Atom) : Option (Value t) :=
  (entries.find? fun e => e.1.sameKey key).map (·.2)

/-- Puts a value under a key. -/
def put (entries : Entries t) (key : Atom) (v : Value t) : Entries t :=
  match entries with
  | [] => [(key, v)]
  | e :: rest => if e.1.sameKey key then (key, v) :: rest else e :: put rest key v

/-- Drops what stands under a key. -/
def erase (entries : Entries t) (key : Atom) : Entries t :=
  entries.filter fun e => !e.1.sameKey key

end Entries

end MarkupQuery.XPath
