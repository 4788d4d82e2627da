import MarkupQuery.Html.Construction.Head
import MarkupQuery.Html.Foreign

/-!
# Rules of the body

The rules for what stands in the body of a document, wherever no special mode applies.
-/

namespace MarkupQuery.Html.Build

/-! ## Groups of elements -/

/-- Blocks that end a paragraph. -/
def blocks : List String :=
  ["address", "article", "aside", "blockquote", "center", "details", "dialog", "dir", "div", "dl",
   "fieldset", "figcaption", "figure", "footer", "header", "hgroup", "main", "menu", "nav", "ol",
   "p", "search", "section", "summary", "ul"]

/-- Elements whose closing tags close all inside them. -/
def closableBlocks : List String :=
  ["address", "article", "aside", "blockquote", "button", "center", "details", "dialog", "dir",
   "div", "dl", "fieldset", "figcaption", "figure", "footer", "header", "hgroup", "listing", "main",
   "menu", "nav", "ol", "pre", "search", "section", "summary", "ul"]

/-- The headings. -/
def headings : List String :=
  ["h1", "h2", "h3", "h4", "h5", "h6"]

/-- Formatting elements that need no further care. -/
def formats : List String :=
  ["b", "big", "code", "em", "font", "i", "s", "small", "strike", "strong", "tt", "u"]

/-- Tags of parts of tables, documents and framesets, which mean nothing in the body. -/
def strayTags : List String :=
  ["caption", "col", "colgroup", "frame", "head", "tbody", "td", "tfoot", "th", "thead", "tr"]

/-! ## Rules for single tags -/

/-- Inserts an element without content, after opening formatting elements again. -/
def insertPhrasingVoid (t : Tag) : Build Outcome := do
  let hidden := t.name == "input" &&
    (t.attributes.find? fun a => a.name == "type").any fun a => Foreign.small a.value == "hidden"
  reopenFormatting
  let outcome ← insertVoid t
  unless hidden do framesetNotOk
  return outcome

/-- Opens a foreign element inside HTML. -/
def openForeign (t : Tag) (space : Namespace) : Build Outcome := do
  let _ ← insertElement (!t.selfClosing) { space := space, name := t.name }
    (Foreign.attributes space t.attributes)
  return if t.selfClosing then .doneSelfClosing else .done

/-- The innermost open element of one of these names, unless a special element is inside it that no
item of a list can reach across. -/
def openItem? (names : List String) : List (Nat × ElementName) → Option String
  | [] => none
  | (_, n) :: rest =>
    if n.isHtml names then some n.name
    else if n.isSpecial && !n.isHtml ["address", "div", "p"] then none
    else openItem? names rest

/-- Closes the item of a list that a new item meets open. -/
def closeItem (t : Tag) : Build Unit := do
  let names := if t.name == "li" then ["li"] else ["dd", "dt"]
  match openItem? names (← openNames) with
  | some name =>
    closeImpliedExcept name
    expectToClose name
  | none => return

/-- Opens a form, unless one is open. -/
def openForm (t : Tag) : Build Outcome := do
  let inTemplate ← isOpen "template"
  if (← get).form.isSome && !inTemplate then
    note .nestedForms
  else
    closeOpenParagraph
    let id ← insertElement true { space := .html, name := t.name } t.attributes
    unless inTemplate do
      modify fun c => { c with form := some id }
  return .done

/-- Closes the form. -/
def closeForm : Build Outcome := do
  if ← isOpen "template" then
    unless ← inScopeNamed (·.endsScope) "form" do
      note .formNotInScope
      return .done
    closeImplied
    unless ← currentNamed "form" do
      note .openElementInForm
    popThroughNamed "form"
    return .done
  else
    match (← get).form with
    | none =>
      note .noFormToClose
      return .done
    | some form =>
      modify fun c => { c with form := none }
      unless ← inScope (·.endsScope) fun id _ => id = form do
        note .formNotInScope
        return .done
      closeImplied
      let current ← currentNode
      closeElement form
      unless current = form do
        note .openElementInForm
      return .done

/-- Replaces the body by a frameset, while that is possible. -/
def lateFrameset (t : Tag) : Build Outcome := do
  note .unexpectedToken
  if (← get).framesetOk then
    if let some body ← bodyElement? then
      change (·.detach body)
      keepOutermost 1
      openTag t
      setMode .inFrameset
  return .done

/-- The attributes of a second `body` tag go to the body. -/
def lateBodyTag (t : Tag) : Build Outcome := do
  note .unexpectedToken
  if let some body ← bodyElement? then
    unless ← isOpen "template" do
      framesetNotOk
      change (·.addMissingAttributes body t.attributes)
  return .done

/-- The end of the document inside a template: the template is closed, and the end met again. -/
def endInTemplate : Build Outcome := do
  if ← isOpen "template" then
    note .unexpectedToken
    popThroughNamed "template"
    clearFormatting
    modify fun c => { c with templateModes := c.templateModes.tail }
    let mode ← resetMode
    setMode mode
    return .again mode .eof
  else return .done

/-- The end of the document. -/
def endOfDocument : Build Outcome := do
  if (← get).templateModes.isEmpty then
    checkOpenAtEnd
    return .done
  else endInTemplate

/-! ## Opening and closing tags -/

/-- The mode of a selection list that is opened. -/
def selectModeIn : Mode → Mode
  | .inTable | .inCaption | .inTableBody | .inRow | .inCell => .inSelectInTable
  | _ => .inSelect

/-- An opening tag in the body. -/
def openInBody (t : Tag) : Build Outcome := do
  let is (names : List String) : Bool := names.contains t.name
  if is ["html"] then lateHtmlTag t
  else if is headElements then inHead (.tag t)
  else if is ["body"] then lateBodyTag t
  else if is ["frameset"] then lateFrameset t
  else if is blocks then
    closeOpenParagraph
    openTag t
    return .done
  else if is headings then
    closeOpenParagraph
    if ← currentIs (·.isHeading) then
      note .nestedHeadings
      pop
    openTag t
    return .done
  else if is ["pre", "listing"] then
    closeOpenParagraph
    openTag t
    modify fun c => { c with skipLineFeed := true, framesetOk := false }
    return .done
  else if is ["form"] then openForm t
  else if is ["li", "dd", "dt"] then
    framesetNotOk
    closeItem t
    closeOpenParagraph
    openTag t
    return .done
  else if is ["plaintext"] then
    closeOpenParagraph
    openTag t
    return .enter .plaintext
  else if is ["button"] then
    if ← inScopeNamed (·.endsScope) "button" then
      note .nestedButtons
      closeImplied
      popThroughNamed "button"
    reopenFormatting
    openTag t
    framesetNotOk
    return .done
  else if is ["a"] then
    closeOpenLink
    reopenFormatting
    openFormatting t
    return .done
  else if is formats then
    reopenFormatting
    openFormatting t
    return .done
  else if is ["nobr"] then
    reopenFormatting
    if ← inScopeNamed (·.endsScope) "nobr" then
      note .nestedNobr
      adopt "nobr"
      reopenFormatting
    openFormatting t
    return .done
  else if is ["applet", "marquee", "object"] then
    reopenFormatting
    openTag t
    pushMarker
    framesetNotOk
    return .done
  else if is ["table"] then
    unless (← get).legacy do closeOpenParagraph
    openTag t
    framesetNotOk
    setMode .inTable
    return .done
  else if is ["area", "br", "embed", "img", "keygen", "wbr", "input"] then insertPhrasingVoid t
  else if is ["param", "source", "track"] then insertVoid t
  else if is ["hr"] then
    closeOpenParagraph
    let outcome ← insertVoid t
    framesetNotOk
    return outcome
  else if is ["image"] then
    note .unexpectedToken
    insertPhrasingVoid { t with name := "img" }
  else if is ["textarea"] then
    modify fun c => { c with skipLineFeed := true, framesetOk := false }
    openRaw t .rcdata
  else if is ["xmp"] then
    closeOpenParagraph
    reopenFormatting
    framesetNotOk
    openRaw t .rawtext
  else if is ["iframe"] then
    framesetNotOk
    openRaw t .rawtext
  else if is ["noembed", "noscript"] then openRaw t .rawtext
  else if is ["select"] then
    reopenFormatting
    openTag t
    framesetNotOk
    setMode (selectModeIn (← get).mode)
    return .done
  else if is ["optgroup", "option"] then
    if ← currentNamed "option" then pop
    reopenFormatting
    openTag t
    return .done
  else if is ["rb", "rtc"] then
    if ← inScopeNamed (·.endsScope) "ruby" then closeImplied
    unless ← currentNamed "ruby" do note .unexpectedToken
    openTag t
    return .done
  else if is ["rp", "rt"] then
    if ← inScopeNamed (·.endsScope) "ruby" then closeImpliedExcept "rtc"
    unless ← currentIs (·.isHtml ["rtc", "ruby"]) do note .unexpectedToken
    openTag t
    return .done
  else if is ["math"] then openForeign t .mathml
  else if is ["svg"] then openForeign t .svg
  else if is strayTags then unexpected
  else
    reopenFormatting
    openTag t
    return .done

/-- A closing tag in the body. -/
def closeInBody (t : Tag) : Build Outcome := do
  let is (names : List String) : Bool := names.contains t.name
  if is ["template"] then closeTemplate
  else if is ["body"] then
    if ← inScopeNamed (·.endsScope) "body" then
      checkOpenAtEnd
      setMode .afterBody
    else note .bodyEndWithoutBody
    return .done
  else if is ["html"] then
    if ← inScopeNamed (·.endsScope) "body" then
      checkOpenAtEnd
      return .again .afterBody (.tag t)
    else
      note .htmlEndWithoutBody
      return .done
  else if is closableBlocks then
    if ← inScopeNamed (·.endsScope) t.name then
      closeImplied
      expectToClose t.name
      return .done
    else unexpected
  else if is ["form"] then closeForm
  else if is ["p"] then
    unless ← inScopeNamed (·.endsButtonScope) "p" do
      note .noParagraphToClose
      let _ ← openPhantom "p"
    closeParagraph
    return .done
  else if is ["li", "dd", "dt"] then
    let ends := if t.name == "li" then ElementName.endsListScope else ElementName.endsScope
    if ← inScopeNamed ends t.name then
      closeImpliedExcept t.name
      expectToClose t.name
    else note .noTagToClose
    return .done
  else if is headings then
    if ← inScope (·.endsScope) fun _ n => n.isHeading then
      closeImplied
      unless ← currentNamed t.name do note .wrongHeadingClosed
      let _ ← popThrough (·.isHeading)
    else note .noHeadingToClose
    return .done
  else if is (["a", "nobr"] ++ formats) then
    adopt t.name
    return .done
  else if is ["applet", "marquee", "object"] then
    if ← inScopeNamed (·.endsScope) t.name then
      closeImplied
      expectToClose t.name
      clearFormatting
      return .done
    else unexpected
  else if is ["br"] then
    note .unexpectedToken
    insertPhrasingVoid { t with kind := .opening, attributes := [] }
  else
    closeGeneric t.name
    return .done

/-- Whether a text has characters other than white space. -/
def hasSolid (text : List Char) : Bool :=
  text.any fun c => !c.isWhitespace && c != '\x0c'

/-- The rules of the body. -/
def inBody (item : Item) : Build Outcome := do
  match item with
  | .null => unexpected
  | .chars _ text =>
    reopenFormatting
    if hasSolid text then framesetNotOk
    insertText text
  | .comment text => insertComment text
  | .tag t => if t.kind = .opening then openInBody t else closeInBody t
  | .eof => endOfDocument

/-- The rules of raw text. -/
def inText (item : Item) : Build Outcome := do
  match item with
  | .chars _ text => insertText text
  | .tag t =>
    pop
    setMode (← get).backMode
    if t.name == "script" then return .enter .scriptEnd
    return .done
  | .eof =>
    note .unexpectedToken
    pop
    return .again (← get).backMode .eof
  | _ => return .done

end MarkupQuery.Html.Build
