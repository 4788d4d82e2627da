import MarkupQuery.Html.Construction.Insertion

/-!
# Formatting elements

Formatting elements (`b`, `i`, `a` and others) may be closed in any order. Where one is cut off by
the end of another element it is opened again behind it (`reopenFormatting`), and where it is closed
across the border of a block the tree is rearranged (`adopt`), as the standard prescribes.
-/

namespace MarkupQuery.Html.Build

/-- The entries behind the last marker, the last one first. -/
def sinceMarker : List FormatEntry → List (Nat × Tag)
  | .element id tag :: rest => (id, tag) :: sinceMarker rest
  | _ => []

/-- Forgets the formatting element of a node. -/
def forget (id : Nat) : Build Unit :=
  modify fun c => { c with formatting := c.formatting.eraseP (FormatEntry.isFor id) }

/-- Changes the list of formatting elements. -/
def modifyFormatting (f : List FormatEntry → List FormatEntry) : Build Unit :=
  modify fun c => { c with formatting := f c.formatting }

/-- Whether a node is in the list of formatting elements. -/
def isFormatting (id : Nat) : Build Bool := do
  return (← get).formatting.any (FormatEntry.isFor id)

/-! ## Opening again -/

/-- The entries that are neither a marker nor open, back to the first that is; the last one
first. -/
def closedEntries (opened : List Nat) : List FormatEntry → List (Nat × Tag)
  | .element id tag :: rest =>
    if opened.contains id then [] else (id, tag) :: closedEntries opened rest
  | _ => []

/-- Opens a formatting element again, under its old place in the list. -/
def reopen (id : Nat) (t : Tag) : Build Unit := do
  let new ← insertElement true { space := .html, name := t.name } t.attributes
  modifyFormatting fun entries => entries.map fun e =>
    if FormatEntry.isFor id e then .element new t else e

/-- Opens again the formatting elements that were cut off. -/
def reopenFormatting : Build Unit := do
  let c ← get
  (closedEntries c.opened c.formatting).reverse.forM fun (id, t) => reopen id t

/-! ## New formatting elements -/

/-- Whether two lists hold the same attributes. -/
def sameAttributes (xs ys : List Attribute) : Bool :=
  xs.length = ys.length && xs.all ys.contains

/-- Opens the formatting element of a tag. Of four alike the first is forgotten. -/
def openFormatting (t : Tag) : Build Unit := do
  let alike := (sinceMarker (← get).formatting).filter fun (_, u) =>
    u.name == t.name && sameAttributes u.attributes t.attributes
  if 3 ≤ alike.length then
    if let some (id, _) := alike.getLast? then forget id
  let id ← insertElement true { space := .html, name := t.name } t.attributes
  modifyFormatting (.element id t :: ·)

/-! ## Closing -/

/-- Where a generic closing tag leads: to the number of elements around its element, or to a special
element that stands in the way. -/
def matchingOpen (name : String) : List ElementName → Option Nat
  | [] => none
  | n :: rest =>
    if n.isHtml [name] then some rest.length
    else if n.isSpecial then none
    else matchingOpen name rest

/-- Closes the element of a closing tag that no other rule concerns. -/
def closeGeneric (name : String) : Build Unit := do
  match matchingOpen name ((← openNames).map (·.2)) with
  | none => note .specialTagInTheWay
  | some outside =>
    closeImpliedExcept name
    if (← get).opened.length != outside + 1 then note .unexpectedToken
    keepOutermost outside

/-- Inserts a number in front of a member of a list. -/
def insertInFront (member new : Nat) : List Nat → List Nat
  | [] => []
  | x :: xs => if x = member then new :: x :: xs else x :: insertInFront member new xs

/-- Puts an entry behind that of an element; in a list whose last entry comes first, in front. -/
def insertEntryBehind (id : Nat) (entry : FormatEntry) : List FormatEntry → List FormatEntry
  | [] => []
  | e :: es =>
    if FormatEntry.isFor id e then entry :: e :: es else e :: insertEntryBehind id entry es

/-- Moves the block and what is around it, inside the formatting element, out of that element: each
formatting element between them gets a copy, at most three, and other elements are closed. The
argument lists the elements between, the innermost first. Results in the outermost moved node and
the element behind which the new formatting element is to be listed. -/
def moveOut (block : Nat) (count last : Nat) (behind : Option Nat) :
    List Nat → Build (Nat × Option Nat)
  | [] => return (last, behind)
  | node :: rest => do
    let entry := (← get).formatting.find? (FormatEntry.isFor node)
    match entry with
    | some (.element _ t) =>
      if 3 < count then
        forget node
        closeElement node
        moveOut block (count + 1) last behind rest
      else
        let copy ← createElement { space := .html, name := t.name } t.attributes
        modify fun c => { c with
          opened := c.opened.map fun id => if id = node then copy else id
          formatting := c.formatting.map fun e =>
            if FormatEntry.isFor node e then .element copy t else e }
        let behind := if last = block then some copy else behind
        change fun a => a.append copy last
        moveOut block (count + 1) copy behind rest
    | _ =>
      closeElement node
      moveOut block (count + 1) last behind rest

/-- The innermost entries of the stack up to an element, that one left out, and those around it. -/
def splitAt (id : Nat) (opened : List Nat) : List Nat × List Nat :=
  (opened.takeWhile (· != id), (opened.dropWhile (· != id)).tail)

/-- One round of closing a formatting element across blocks. Tells whether another round follows. -/
def adoptRound (name : String) : Build Bool := do
  let entries := sinceMarker (← get).formatting
  match entries.find? fun (_, t) => t.name == name with
  | none =>
    closeGeneric name
    return false
  | some (element, t) =>
    unless (← get).opened.contains element do
      note .formattingNotOpen
      forget element
      return false
    unless ← inScope (·.endsScope) fun id _ => id = element do
      note .formattingNotInScope
      return false
    unless (← currentNode) = element do
      note .formattingNotCurrent
    let c ← get
    let (inside, outside) := splitAt element c.opened
    match inside.reverse.find? fun id => (c.arena.name id).isSpecial with
    | none =>
      modify fun c => { c with opened := outside }
      forget element
      return false
    | some block =>
      let ancestor := outside.headD 0
      let between := (splitAt block inside).2
      let (last, behind) ← moveOut block 1 block none between
      change (·.detach last)
      insertAt (← placeFor ancestor) last
      let copy ← createElement { space := .html, name := t.name } t.attributes
      change fun a => (a.passChildren block copy).append block copy
      match behind with
      | none => modifyFormatting fun es => es.map fun e =>
          if FormatEntry.isFor element e then .element copy t else e
      | some id =>
        modifyFormatting (insertEntryBehind id (.element copy t))
        forget element
      closeElement element
      modify fun c => { c with opened := insertInFront block copy c.opened }
      return true

/-- Rounds of closing a formatting element, at most `n`. -/
def adoptRounds (name : String) : Nat → Build Unit
  | 0 => return
  | n + 1 => do
    if ← adoptRound name then adoptRounds name n

/-- Closes a formatting element. -/
def adopt (name : String) : Build Unit := do
  if (← currentNamed name) && !(← isFormatting (← currentNode)) then pop
  else adoptRounds name 8

/-- Closes a link that a new link meets open. -/
def closeOpenLink : Build Unit := do
  let c ← get
  match (sinceMarker c.formatting).find? fun (id, _) => (c.arena.name id).isHtml ["a"] with
  | none => return
  | some (id, _) =>
    note .unexpectedToken
    adopt "a"
    forget id
    closeElement id

end MarkupQuery.Html.Build
