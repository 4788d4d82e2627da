import MarkupQuery.Html.Construction.Stack

/-!
# Inserting nodes

Where a new node goes: usually to the end of the innermost open element, into the content of a
template if that is one, and before the table where a table cannot hold it.
-/

namespace MarkupQuery.Html.Build

/-- A place in the tree. -/
inductive Place
  | lastChild (parent : Nat)
  /-- Before a table; if the table stands nowhere, at the end of another element. -/
  | beforeTable (table fallback : Nat)

/-- The fragment that holds the content of a template. -/
def templateContent (id : Nat) : Build Nat := do
  return ((← get).arena.children id).headD id

/-- The place for a node that a table cannot hold: before the innermost table, or in the template
around it. -/
def fosterPlace (html : Nat) : List (Nat × ElementName) → Build Place
  | [] => return .lastChild html
  | (id, n) :: rest => do
    if n.isHtml ["template"] then return .lastChild (← templateContent id)
    else if n.isHtml ["table"] then return .beforeTable id ((rest.map (·.1)).headD html)
    else fosterPlace html rest

/-- The place for a node that is meant for `target`. -/
def placeFor (target : Nat) : Build Place := do
  let n ← nameOf target
  if (← get).fostering && n.isTablePart then
    fosterPlace (← htmlElement) (← openNames)
  else if n.isHtml ["template"] then return .lastChild (← templateContent target)
  else return .lastChild target

/-- Puts a node in a place. -/
def insertAt (place : Place) (id : Nat) : Build Unit :=
  match place with
  | .lastChild parent => change (·.append parent id)
  | .beforeTable table fallback =>
    change fun a =>
      if (a.parent? table).isSome then a.appendBefore table id else a.append fallback id

/-- Puts text in a place. -/
def insertTextAt (place : Place) (text : String) : Build Unit :=
  match place with
  | .lastChild parent => change (·.appendText parent text)
  | .beforeTable table fallback =>
    change fun a =>
      if (a.parent? table).isSome then a.appendTextBefore table text
      else a.appendText fallback text

/-- Inserts text. -/
def insertText (text : List Char) : Build Outcome := do
  insertTextAt (← placeFor (← currentNode)) (String.ofList text)
  return .done

/-- Makes a node without a parent. -/
def create (content : Content) : Build Nat :=
  modifyGet fun c =>
    let (id, arena) := c.arena.add content
    (id, { c with arena := arena })

/-- Makes an element without a parent. A template gets a fragment for its content. -/
def createElement (name : ElementName) (attributes : List Attribute) : Build Nat := do
  let id ← create (.element name attributes)
  if name.isHtml ["template"] then
    let content ← create .fragment
    change (·.append id content)
  return id

/-- Inserts a comment. -/
def insertComment (text : String) : Build Outcome := do
  insertAt (← placeFor (← currentNode)) (← create (.comment text))
  return .done

/-- Appends a comment to a given node. -/
def appendComment (parent : Nat) (text : String) : Build Outcome := do
  let id ← create (.comment text)
  change (·.append parent id)
  return .done

/-- Inserts an element; it is opened or left closed. -/
def insertElement (opens : Bool) (name : ElementName) (attributes : List Attribute) :
    Build Nat := do
  let id ← createElement name attributes
  insertAt (← placeFor (← currentNode)) id
  if opens then push id
  return id

/-- Inserts the HTML element of a tag and opens it. -/
def openTag (t : Tag) : Build Unit := do
  let _ ← insertElement true { space := .html, name := t.name } t.attributes

/-- Inserts the HTML element of a tag, without opening it. -/
def insertVoid (t : Tag) : Build Outcome := do
  let _ ← insertElement false { space := .html, name := t.name } t.attributes
  return .doneSelfClosing

/-- Inserts an HTML element for which there is no tag, and opens it. -/
def openPhantom (name : String) : Build Nat :=
  insertElement true { space := .html, name := name } []

/-- Inserts the element of a tag and reads its raw text. -/
def openRaw (t : Tag) (kind : RawText) : Build Outcome := do
  openTag t
  enterRaw kind

end MarkupQuery.Html.Build
