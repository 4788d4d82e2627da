import MarkupQuery.Html.Construction.Table

/-!
# Rules of selection lists and templates
-/

namespace MarkupQuery.Html.Build

/-- The rules of a selection list. -/
def inSelect (item : Item) : Build Outcome := do
  match item with
  | .null => unexpected
  | .chars _ text => insertText text
  | .comment text => insertComment text
  | .eof => endOfDocument
  | .tag t =>
    if item.opens ["html"] then lateHtmlTag t
    else if item.opens ["option"] then
      if ← currentNamed "option" then pop
      openTag t
      return .done
    else if item.opens ["optgroup"] then
      if ← currentNamed "option" then pop
      if ← currentNamed "optgroup" then pop
      openTag t
      return .done
    else if item.opens ["hr"] then
      if ← currentNamed "option" then pop
      if ← currentNamed "optgroup" then pop
      insertVoid t
    else if item.closes ["optgroup"] then
      match ← openNames with
      | (_, inner) :: (_, outer) :: _ =>
        if inner.isHtml ["option"] && outer.isHtml ["optgroup"] then pop
      | _ => pure ()
      if ← currentNamed "optgroup" then
        pop
        return .done
      else unexpected
    else if item.closes ["option"] then
      if ← currentNamed "option" then
        pop
        return .done
      else unexpected
    else if t.name == "select" then
      let found ← inScopeNamed (·.endsSelectScope) "select"
      if !found || t.kind = .opening then note .unexpectedToken
      if found then
        popThroughNamed "select"
        setMode (← resetMode)
      return .done
    else if item.opens ["input", "keygen", "textarea"] then
      note .unexpectedToken
      if ← inScopeNamed (·.endsSelectScope) "select" then
        popThroughNamed "select"
        return .again (← resetMode) item
      else return .done
    else if item.opens ["script", "template"] || item.closes ["template"] then inHead item
    else unexpected

/-- The rules of a selection list in a table. -/
def inSelectInTable (item : Item) : Build Outcome := do
  let parts := ["caption", "table", "tbody", "tfoot", "thead", "tr", "td", "th"]
  match item with
  | .tag t =>
    if item.opens parts then
      note .unexpectedToken
      popThroughNamed "select"
      return .again (← resetMode) item
    else if item.closes parts then
      note .unexpectedToken
      if ← inScopeNamed (·.endsTableScope) t.name then
        popThroughNamed "select"
        return .again (← resetMode) item
      else return .done
    else inSelect item
  | _ => inSelect item

/-- Goes on in the mode that the content of the open template turns out to call for. -/
def templateTurns (mode : Mode) (item : Item) : Build Outcome := do
  modify fun c => { c with templateModes := mode :: c.templateModes.tail }
  return .again mode item

/-- The rules of a template. -/
def inTemplate (item : Item) : Build Outcome := do
  match item with
  | .chars _ _ | .comment _ => inBody item
  | .eof => endInTemplate
  | .null => unexpected
  | .tag t =>
    if item.opens headElements || item.closes ["template"] then inHead item
    else if item.opens ["caption", "colgroup", "tbody", "tfoot", "thead"] then
      templateTurns .inTable item
    else if item.opens ["col"] then templateTurns .inColumnGroup item
    else if item.opens ["tr"] then templateTurns .inTableBody item
    else if item.opens ["td", "th"] then templateTurns .inRow item
    else if t.kind = .opening then templateTurns .inBody item
    else unexpected

end MarkupQuery.Html.Build
