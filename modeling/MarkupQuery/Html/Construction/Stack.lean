import MarkupQuery.Html.Construction.State

/-!
# The stack of open elements

Searches in the stack, and the ways to close elements.
-/

namespace MarkupQuery.Html.Build

/-! ## Looking at the stack -/

/-- The innermost open element; before there is any, the document. -/
def currentNode : Build Nat := do
  return (← get).opened.headD 0

/-- Whether the name of the innermost open element has a property. -/
def currentIs (p : ElementName → Bool) : Build Bool := do
  return p (← nameOf (← currentNode))

/-- Whether the innermost open element is an HTML element of this name. -/
def currentNamed (name : String) : Build Bool :=
  currentIs (·.isHtml [name])

/-- The open elements with their names, the innermost first. -/
def openNames : Build (List (Nat × ElementName)) := do
  let c ← get
  return c.opened.map fun id => (id, c.arena.name id)

/-- Whether an open element has a property, no element that ends the scope being inside it. -/
def reaches (ends : ElementName → Bool) (p : Nat → ElementName → Bool) :
    List (Nat × ElementName) → Bool
  | [] => false
  | (id, n) :: rest => p id n || (!ends n && reaches ends p rest)

/-- Whether an element with a property is in scope. -/
def inScope (ends : ElementName → Bool) (p : Nat → ElementName → Bool) : Build Bool := do
  return reaches ends p (← openNames)

/-- Whether an HTML element of this name is in scope. -/
def inScopeNamed (ends : ElementName → Bool) (name : String) : Build Bool :=
  inScope ends fun _ n => n.isHtml [name]

/-- Whether an HTML element of this name is open. -/
def isOpen (name : String) : Build Bool := do
  return (← openNames).any fun (_, n) => n.isHtml [name]

/-- The outermost open element, the `html` element. -/
def htmlElement : Build Nat := do
  return (← get).opened.getLastD 0

/-- The `body` element, if it is the second of the open elements. -/
def bodyElement? : Build (Option Nat) := do
  match (← openNames).reverse with
  | _ :: (id, n) :: _ => return if n.isHtml ["body"] then some id else none
  | _ => return none

/-! ## Opening and closing -/

/-- Opens an element. -/
def push (id : Nat) : Build Unit :=
  modify fun c => { c with opened := id :: c.opened }

/-- Closes the innermost open element. -/
def pop : Build Unit :=
  modify fun c => { c with opened := c.opened.tail }

/-- Takes an element out of the stack, at its innermost place. -/
def closeElement (id : Nat) : Build Unit :=
  modify fun c => { c with opened := c.opened.erase id }

/-- Closes all but the outermost `n` elements. -/
def keepOutermost (n : Nat) : Build Unit :=
  modify fun c => { c with opened := c.opened.drop (c.opened.length - n) }

/-- Closes elements while they have a property. -/
def popWhile (p : ElementName → Bool) : Build Unit :=
  modify fun c => { c with opened := c.opened.dropWhile fun id => p (c.arena.name id) }

/-- Closes elements until the innermost one has a property. -/
def popUntilCurrent (p : ElementName → Bool) : Build Unit :=
  popWhile fun n => !p n

/-- Closes elements up to and with the first that has a property; tells whether it was the
innermost. -/
def popThrough (p : ElementName → Bool) : Build Bool := do
  let first ← currentIs p
  popUntilCurrent p
  pop
  return first

/-- Closes elements up to and with an HTML element of this name. -/
def popThroughNamed (name : String) : Build Unit := do
  let _ ← popThrough (·.isHtml [name])

/-- Closes elements up to and with an HTML element of this name, which should be the innermost. -/
def expectToClose (name : String) : Build Unit := do
  unless ← popThrough (·.isHtml [name]) do
    note .unexpectedOpenElement

/-- Closes elements whose closing tags may be left out. -/
def closeImplied : Build Unit :=
  popWhile (·.impliesEnd)

/-- Closes elements whose closing tags may be left out, up to one of this name. -/
def closeImpliedExcept (name : String) : Build Unit :=
  popWhile fun n => n.impliesEnd && !n.isHtml [name]

/-- Closes the open paragraph. -/
def closeParagraph : Build Unit := do
  closeImpliedExcept "p"
  expectToClose "p"

/-- Closes the open paragraph, if there is one. -/
def closeOpenParagraph : Build Unit := do
  if ← inScopeNamed (·.endsButtonScope) "p" then closeParagraph

/-- Notes the first element that should not be open where the document ends. -/
def checkOpenAtEnd : Build Unit := do
  if (← openNames).any fun (_, n) => !n.mayStayOpen then note .openTagAtEndOfBody

/-- Forgets the formatting elements behind the last marker, and the marker. -/
def clearFormatting : Build Unit :=
  modify fun c => { c with
    formatting := (c.formatting.dropWhile fun e => match e with
      | .marker => false
      | .element _ _ => true).tail }

/-- Sets a border in the list of formatting elements. -/
def pushMarker : Build Unit :=
  modify fun c => { c with formatting := .marker :: c.formatting }

/-- Closes the open cell of a table. -/
def closeCell : Build Unit := do
  closeImplied
  unless ← popThrough (·.isCell) do
    note .cellNotClosed
  clearFormatting

/-! ## The mode that the stack calls for -/

/-- The mode for an open selection list, given the elements around it, the innermost first. -/
def selectMode : List ElementName → Mode
  | [] => .inSelect
  | n :: rest =>
    if n.isHtml ["template"] then .inSelect
    else if n.isHtml ["table"] then .inSelectInTable
    else selectMode rest

/-- The mode that the innermost telling element calls for. -/
def modeFor (templateMode : Option Mode) (headSeen : Bool) : List ElementName → Mode
  | [] => .inBody
  | n :: rest =>
    if n.isHtml ["select"] then selectMode rest
    else if n.isHtml ["td", "th"] && !rest.isEmpty then .inCell
    else if n.isHtml ["tr"] then .inRow
    else if n.isHtml ["tbody", "thead", "tfoot"] then .inTableBody
    else if n.isHtml ["caption"] then .inCaption
    else if n.isHtml ["colgroup"] then .inColumnGroup
    else if n.isHtml ["table"] then .inTable
    else if n.isHtml ["template"] then templateMode.getD .inTemplate
    else if n.isHtml ["head"] && !rest.isEmpty then .inHead
    else if n.isHtml ["body"] then .inBody
    else if n.isHtml ["frameset"] then .inFrameset
    else if n.isHtml ["html"] then (if headSeen then .afterHead else .beforeHead)
    else modeFor templateMode headSeen rest

/-- The mode that the stack of open elements calls for. -/
def resetMode : Build Mode := do
  let c ← get
  return modeFor c.templateModes.head? c.head.isSome (c.opened.map c.arena.name)

end MarkupQuery.Html.Build
