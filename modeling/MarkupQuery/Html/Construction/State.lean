import MarkupQuery.Html.Arena

/-!
# The state of tree construction

Tokens build a tree under the rules of an *insertion mode*. The state holds the tree so far, the
stack of open elements, the list of formatting elements that are to be opened again where they were
cut off, and the mode. Rules are programs in the state monad `Build`; each ends in an `Outcome`.
-/

namespace MarkupQuery.Html

/-- The insertion modes of the standard. -/
inductive Mode
  | initial
  | beforeHtml
  | beforeHead
  | inHead
  | afterHead
  | inBody
  | text
  | inTable
  | inTableText
  | inCaption
  | inColumnGroup
  | inTableBody
  | inRow
  | inCell
  | inSelect
  | inSelectInTable
  | inTemplate
  | afterBody
  | inFrameset
  | afterFrameset
  | afterAfterBody
  | afterAfterFrameset
  deriving DecidableEq

/-- What is known of a run of characters. -/
inductive TextClass
  /-- Not looked at yet. -/
  | unsplit
  /-- White space only. -/
  | white
  /-- No white space. -/
  | solid
  deriving DecidableEq

/-- A token as the rules see it. -/
inductive Item
  | tag (t : Tag)
  | comment (text : String)
  | chars (kind : TextClass) (text : List Char)
  | null
  | eof

/-- Whether an item is an opening tag of one of these names. -/
def Item.opens (i : Item) (names : List String) : Bool :=
  match i with
  | .tag t => t.kind = .opening && names.contains t.name
  | _ => false

/-- Whether an item is a closing tag of one of these names. -/
def Item.closes (i : Item) (names : List String) : Bool :=
  match i with
  | .tag t => t.kind = .closing && names.contains t.name
  | _ => false

/-- Whether an item is a closing tag of none of these names. -/
def Item.closesOther (i : Item) (names : List String) : Bool :=
  match i with
  | .tag t => t.kind = .closing && !names.contains t.name
  | _ => false

/-- How a rule ends. -/
inductive Outcome
  /-- The token is dealt with. -/
  | done
  /-- So is the `/` that closes the tag itself. -/
  | doneSelfClosing
  /-- Another mode is to deal with the token. -/
  | again (mode : Mode) (item : Item)
  /-- The text is to be dealt with in runs of white space and of other characters. -/
  | split (text : List Char)
  /-- The token is dealt with, and the lexer is to change the kind of text. -/
  | enter (mode : TextMode)

/-- An entry of the list of formatting elements. -/
inductive FormatEntry
  /-- A border: elements before it are not opened again behind it. -/
  | marker
  | element (id : Nat) (tag : Tag)

/-- Whether an entry is the one of an element. -/
def FormatEntry.isFor (id : Nat) : FormatEntry → Bool
  | .element id' _ => id' = id
  | .marker => false

/-- The state of tree construction. -/
structure Construction where
  arena : Arena := .empty
  /-- The issues so far, the last one first. -/
  issues : List Issue := []
  mode : Mode := .initial
  /-- The mode to go back to behind raw text or the text of a table. -/
  backMode : Mode := .initial
  /-- The modes of the open templates, the innermost first. -/
  templateModes : List Mode := []
  /-- The open elements, the innermost first. -/
  opened : List Nat := []
  /-- The formatting elements, the last one first. -/
  formatting : List FormatEntry := []
  head : Option Nat := none
  form : Option Nat := none
  framesetOk : Bool := true
  /-- The document is one in the old layout mode. -/
  legacy : Bool := false
  /-- A line feed right after the tag just read is dropped. -/
  skipLineFeed : Bool := false
  /-- What is inserted in a table goes before the table. -/
  fostering : Bool := false
  /-- The text met in a table so far, the last piece first. -/
  tableText : List (TextClass × List Char) := []

/-- Programs that build a tree. -/
abbrev Build := StateM Construction

namespace Build

/-- Notes an issue. -/
def note (i : Issue) : Build Unit :=
  modify fun c => { c with issues := i :: c.issues }

/-- Notes that a token may not stand here. -/
def unexpected : Build Outcome := do
  note .unexpectedToken
  return .done

/-- Changes the tree. -/
def change (f : Arena → Arena) : Build Unit :=
  modify fun c => { c with arena := f c.arena }

/-- Goes on in another mode. -/
def setMode (m : Mode) : Build Unit :=
  modify fun c => { c with mode := m }

/-- No frameset can take the place of the body any more. -/
def framesetNotOk : Build Unit :=
  modify fun c => { c with framesetOk := false }

/-- The name of a node. -/
def nameOf (id : Nat) : Build ElementName := do
  return (← get).arena.name id

/-- Reads raw text of a kind until the element is closed, and goes back to the present mode then. -/
def enterRaw (kind : RawText) : Build Outcome := do
  modify fun c => { c with backMode := c.mode, mode := .text }
  return .enter (.raw kind)

end Build

end MarkupQuery.Html
