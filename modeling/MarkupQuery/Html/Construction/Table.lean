import MarkupQuery.Html.Construction.Body

/-!
# Rules of tables

The rules inside `table` elements. What a table cannot hold is put before it.
-/

namespace MarkupQuery.Html.Build

/-- Deals with a token as in the body, putting what it inserts before the table. -/
def fosterInBody (item : Item) : Build Outcome := do
  modify fun c => { c with fostering := true }
  let outcome ← inBody item
  modify fun c => { c with fostering := false }
  return outcome

/-- Text in a table is gathered first; elsewhere in it, it goes before the table at once. -/
def textInTable (item : Item) : Build Outcome := do
  if ← currentIs (·.isTablePart) then
    modify fun c => { c with backMode := c.mode }
    return .again .inTableText item
  else
    note .charactersInTable
    fosterInBody item

/-- The rules of a table. -/
def inTable (item : Item) : Build Outcome := do
  match item with
  | .null | .chars _ _ => textInTable item
  | .comment text => insertComment text
  | .eof => endOfDocument
  | .tag t =>
    if item.opens ["caption"] then
      popUntilCurrent (·.endsTableScope)
      pushMarker
      openTag t
      setMode .inCaption
      return .done
    else if item.opens ["colgroup"] then
      popUntilCurrent (·.endsTableScope)
      openTag t
      setMode .inColumnGroup
      return .done
    else if item.opens ["col"] then
      popUntilCurrent (·.endsTableScope)
      let _ ← openPhantom "colgroup"
      return .again .inColumnGroup item
    else if item.opens ["tbody", "tfoot", "thead"] then
      popUntilCurrent (·.endsTableScope)
      openTag t
      setMode .inTableBody
      return .done
    else if item.opens ["td", "th", "tr"] then
      popUntilCurrent (·.endsTableScope)
      let _ ← openPhantom "tbody"
      return .again .inTableBody item
    else if item.opens ["table"] then
      note .unexpectedToken
      if ← inScopeNamed (·.endsTableScope) "table" then
        popThroughNamed "table"
        return .again (← resetMode) item
      else return .done
    else if item.closes ["table"] then
      if ← inScopeNamed (·.endsTableScope) "table" then
        popThroughNamed "table"
        setMode (← resetMode)
        return .done
      else unexpected
    else if item.closes ["body", "caption", "col", "colgroup", "html", "tbody", "td", "tfoot", "th",
        "thead", "tr"] then unexpected
    else if item.opens ["style", "script", "template"] || item.closes ["template"] then inHead item
    else if item.opens ["input"] then
      note .unexpectedToken
      let hidden := (t.attributes.find? fun a => a.name == "type").any fun a =>
        Foreign.small a.value == "hidden"
      if hidden then insertVoid t else fosterInBody item
    else if item.opens ["form"] then
      note .unexpectedToken
      unless (← isOpen "template") || (← get).form.isSome do
        let id ← insertElement false { space := .html, name := "form" } t.attributes
        modify fun c => { c with form := some id }
      return .done
    else
      note .unexpectedToken
      fosterInBody item

/-- Whether a piece of text has characters other than white space. -/
def isSolid : TextClass × List Char → Bool
  | (.white, _) => false
  | (.solid, _) => true
  | (.unsplit, text) => hasSolid text

/-- The rules of text that stands in a table. It goes before the table unless it is white space. -/
def inTableText (item : Item) : Build Outcome := do
  match item with
  | .null => unexpected
  | .chars kind text =>
    modify fun c => { c with tableText := (kind, text) :: c.tableText }
    return .done
  | _ =>
    let pieces := (← get).tableText.reverse
    modify fun c => { c with tableText := [] }
    if pieces.any isSolid then
      note .textInTable
      pieces.forM fun (kind, text) => do
        let _ ← fosterInBody (.chars kind text)
    else
      pieces.forM fun (_, text) => do
        let _ ← insertText text
    return .again (← get).backMode item

/-- The rules of a caption. -/
def inCaption (item : Item) : Build Outcome := do
  if item.opens ["caption", "col", "colgroup", "tbody", "td", "tfoot", "th", "thead", "tr"] ||
      item.closes ["table", "caption"] then
    if ← inScopeNamed (·.endsTableScope) "caption" then
      closeImplied
      expectToClose "caption"
      clearFormatting
      if item.closes ["caption"] then
        setMode .inTable
        return .done
      else return .again .inTable item
    else unexpected
  else if item.closes ["body", "col", "colgroup", "html", "tbody", "td", "tfoot", "th", "thead",
      "tr"] then unexpected
  else inBody item

/-- The rules of a group of columns. -/
def inColumnGroup (item : Item) : Build Outcome := do
  let leave : Build Outcome := do
    if ← currentNamed "colgroup" then
      pop
      return .again .inTable item
    else unexpected
  match item with
  | .chars .unsplit text => return .split text
  | .chars .white text => insertText text
  | .comment text => insertComment text
  | .eof => endOfDocument
  | .tag t =>
    if item.opens ["html"] then lateHtmlTag t
    else if item.opens ["col"] then insertVoid t
    else if item.closes ["colgroup"] then
      if ← currentNamed "colgroup" then
        pop
        setMode .inTable
        return .done
      else unexpected
    else if item.closes ["col"] then unexpected
    else if item.opens ["template"] || item.closes ["template"] then inHead item
    else leave
  | _ => leave

/-- The rules of a group of rows. -/
def inTableBody (item : Item) : Build Outcome := do
  match item with
  | .tag t =>
    if item.opens ["tr"] then
      popUntilCurrent (·.isRowGroupContext)
      openTag t
      setMode .inRow
      return .done
    else if item.opens ["th", "td"] then
      note .unexpectedToken
      popUntilCurrent (·.isRowGroupContext)
      let _ ← openPhantom "tr"
      return .again .inRow item
    else if item.closes ["tbody", "tfoot", "thead"] then
      if ← inScopeNamed (·.endsTableScope) t.name then
        popUntilCurrent (·.isRowGroupContext)
        pop
        setMode .inTable
        return .done
      else unexpected
    else if item.opens ["caption", "col", "colgroup", "tbody", "tfoot", "thead"] ||
        item.closes ["table"] then
      if ← inScope (·.endsTableScope) fun _ n => n.isHtml ["table", "tbody", "tfoot"] then
        popUntilCurrent (·.isRowGroupContext)
        pop
        return .again .inTable item
      else unexpected
    else if item.closes ["body", "caption", "col", "colgroup", "html", "td", "th", "tr"] then
      unexpected
    else inTable item
  | _ => inTable item

/-- Closes the open row. -/
def closeRow : Build Unit := do
  popUntilCurrent (·.isRowContext)
  pop

/-- The rules of a row. -/
def inRow (item : Item) : Build Outcome := do
  match item with
  | .tag t =>
    if item.opens ["th", "td"] then
      popUntilCurrent (·.isRowContext)
      openTag t
      setMode .inCell
      pushMarker
      return .done
    else if item.closes ["tr"] then
      if ← inScopeNamed (·.endsTableScope) "tr" then
        closeRow
        setMode .inTableBody
        return .done
      else unexpected
    else if item.opens ["caption", "col", "colgroup", "tbody", "tfoot", "thead", "tr"] ||
        item.closes ["table"] then
      if ← inScopeNamed (·.endsTableScope) "tr" then
        closeRow
        return .again .inTableBody item
      else unexpected
    else if item.closes ["tbody", "tfoot", "thead"] then
      if ← inScopeNamed (·.endsTableScope) t.name then
        if ← inScopeNamed (·.endsTableScope) "tr" then closeRow
        return .again .inTableBody item
      else unexpected
    else if item.closes ["body", "caption", "col", "colgroup", "html", "td", "th"] then unexpected
    else inTable item
  | _ => inTable item

/-- The rules of a cell. -/
def inCell (item : Item) : Build Outcome := do
  match item with
  | .tag t =>
    if item.closes ["td", "th"] then
      if ← inScopeNamed (·.endsTableScope) t.name then
        closeImplied
        expectToClose t.name
        clearFormatting
        setMode .inRow
        return .done
      else unexpected
    else if item.opens ["caption", "col", "colgroup", "tbody", "td", "tfoot", "th", "thead",
        "tr"] then
      if ← inScope (·.endsTableScope) fun _ n => n.isCell then
        closeCell
        return .again .inRow item
      else unexpected
    else if item.closes ["body", "caption", "col", "colgroup", "html"] then unexpected
    else if item.closes ["table", "tbody", "tfoot", "thead", "tr"] then
      if ← inScopeNamed (·.endsTableScope) t.name then
        closeCell
        return .again .inRow item
      else unexpected
    else inBody item
  | _ => inBody item

end MarkupQuery.Html.Build
