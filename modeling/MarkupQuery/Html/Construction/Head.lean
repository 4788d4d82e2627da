import MarkupQuery.Html.Construction.Formatting

/-!
# Rules up to the body

The rules before the `html` element, before and in the `head`, and behind it; with them the rules
for tags that mean the same in many modes.
-/

namespace MarkupQuery.Html.Build

/-- The attributes of a second `html` tag go to the `html` element, unless a template is open. -/
def lateHtmlTag (t : Tag) : Build Outcome := do
  note .unexpectedToken
  unless ← isOpen "template" do
    let html ← htmlElement
    change (·.addMissingAttributes html t.attributes)
  return .done

/-- Elements of the head that have no content. -/
def headVoids : List String :=
  ["base", "basefont", "bgsound", "link", "meta"]

/-- Elements that belong into the head wherever their tags stand. -/
def headElements : List String :=
  headVoids ++ ["noframes", "script", "style", "template", "title"]

/-- A closing tag of a template. -/
def closeTemplate : Build Outcome := do
  if ← isOpen "template" then
    popWhile (·.impliesEndInTemplate)
    expectToClose "template"
    clearFormatting
    modify fun c => { c with templateModes := c.templateModes.tail }
    setMode (← resetMode)
    return .done
  else unexpected

/-- Whether a template is declared to be the shadow tree of the element that it stands in. -/
def declaresShadow (t : Tag) : Bool :=
  t.attributes.any fun a =>
    a.name == "shadowrootmode" && (a.value == "open" || a.value == "closed")

/-- Opens a template. One that declares a shadow tree gets no element, except right below the
outermost open one, but what stands in it is read as the content of a template. -/
def openTemplate (t : Tag) : Build Outcome := do
  unless declaresShadow t && 1 < (← get).opened.length do openTag t
  pushMarker
  framesetNotOk
  modify fun c => { c with mode := .inTemplate, templateModes := .inTemplate :: c.templateModes }
  return .done

/-- The rules of the head. -/
def inHead (item : Item) : Build Outcome := do
  match item with
  | .chars .unsplit text => return .split text
  | .chars .white text => insertText text
  | .comment text => insertComment text
  | .tag t =>
    if item.opens ["html"] then lateHtmlTag t
    else if item.opens headVoids then insertVoid t
    else if item.opens ["title"] then openRaw t .rcdata
    else if item.opens ["noframes", "style", "noscript"] then openRaw t .rawtext
    else if item.opens ["script"] then openRaw t .script
    else if item.closes ["head"] then
      pop
      setMode .afterHead
      return .done
    else if item.opens ["template"] then openTemplate t
    else if item.closes ["template"] then closeTemplate
    else if item.opens ["head"] then unexpected
    else if item.closesOther ["body", "html", "br"] then unexpected
    else
      pop
      return .again .afterHead item
  | _ =>
    pop
    return .again .afterHead item

/-- The rules before anything but comments. A document type is dealt with elsewhere. -/
def initial (item : Item) : Build Outcome := do
  match item with
  | .chars .unsplit text => return .split text
  | .chars .white _ => return .done
  | .comment text => appendComment 0 text
  | _ =>
    note .unexpectedToken
    modify fun c => { c with legacy := true }
    return .again .beforeHtml item

/-- Makes the `html` element. -/
def createRoot (attributes : List Attribute) : Build Unit := do
  let id ← createElement { space := .html, name := "html" } attributes
  push id
  change (·.append 0 id)

/-- The rules before the `html` element. -/
def beforeHtml (item : Item) : Build Outcome := do
  match item with
  | .chars .unsplit text => return .split text
  | .chars .white _ => return .done
  | .comment text => appendComment 0 text
  | .tag t =>
    if item.opens ["html"] then
      createRoot t.attributes
      setMode .beforeHead
      return .done
    else if item.closesOther ["head", "body", "html", "br"] then unexpected
    else
      createRoot []
      return .again .beforeHead item
  | _ =>
    createRoot []
    return .again .beforeHead item

/-- Opens the `head` element. -/
def openHead (t : Tag) : Build Unit := do
  let id ← insertElement true { space := .html, name := "head" } t.attributes
  modify fun c => { c with head := some id }

/-- The rules before the head. -/
def beforeHead (item : Item) : Build Outcome := do
  let implied : Build Outcome := do
    openHead { kind := .opening, name := "head" }
    return .again .inHead item
  match item with
  | .chars .unsplit text => return .split text
  | .chars .white _ => return .done
  | .comment text => insertComment text
  | .tag t =>
    if item.opens ["html"] then lateHtmlTag t
    else if item.opens ["head"] then
      openHead t
      setMode .inHead
      return .done
    else if item.closesOther ["head", "body", "html", "br"] then unexpected
    else implied
  | _ => implied

/-- The rules between head and body. -/
def afterHead (item : Item) : Build Outcome := do
  let implied : Build Outcome := do
    let _ ← openPhantom "body"
    return .again .inBody item
  match item with
  | .chars .unsplit text => return .split text
  | .chars .white text => insertText text
  | .comment text => insertComment text
  | .tag t =>
    if item.opens ["html"] then lateHtmlTag t
    else if item.opens ["body"] then
      openTag t
      framesetNotOk
      setMode .inBody
      return .done
    else if item.opens ["frameset"] then
      openTag t
      setMode .inFrameset
      return .done
    else if item.opens headElements then
      note .unexpectedToken
      match (← get).head with
      | some head =>
        push head
        let outcome ← inHead item
        closeElement head
        return outcome
      | none => inHead item
    else if item.closes ["template"] then inHead item
    else if item.opens ["head"] then unexpected
    else if item.closesOther ["body", "html", "br"] then unexpected
    else implied
  | _ => implied

end MarkupQuery.Html.Build
