import MarkupQuery.Html.Construction.Select

/-!
# Rules behind the body and of framesets
-/

namespace MarkupQuery.Html.Build

/-- Goes on in the body with what may not stand behind it. -/
def backToBody (item : Item) : Build Outcome := do
  note .unexpectedToken
  return .again .inBody item

/-- The rules behind the body. -/
def afterBody (item : Item) : Build Outcome := do
  match item with
  | .chars .unsplit text => return .split text
  | .chars .white _ => inBody item
  | .comment text => appendComment (← htmlElement) text
  | .eof => return .done
  | .tag t =>
    if item.opens ["html"] then lateHtmlTag t
    else if item.closes ["html"] then
      setMode .afterAfterBody
      return .done
    else backToBody item
  | _ => backToBody item

/-- The rules behind the document. -/
def afterAfterBody (item : Item) : Build Outcome := do
  match item with
  | .chars .unsplit text => return .split text
  | .chars .white _ => inBody item
  | .comment text => appendComment 0 text
  | .eof => return .done
  | .tag t => if item.opens ["html"] then lateHtmlTag t else backToBody item
  | _ => backToBody item

/-- The rules of a frameset. -/
def inFrameset (item : Item) : Build Outcome := do
  match item with
  | .chars .unsplit text => return .split text
  | .chars .white text => insertText text
  | .comment text => insertComment text
  | .eof =>
    if (← get).opened.length != 1 then note .unexpectedToken
    return .done
  | .tag t =>
    if item.opens ["html"] then lateHtmlTag t
    else if item.opens ["frameset"] then
      openTag t
      return .done
    else if item.closes ["frameset"] then
      if (← get).opened.length = 1 then unexpected
      else
        pop
        unless ← currentNamed "frameset" do setMode .afterFrameset
        return .done
    else if item.opens ["frame"] then insertVoid t
    else if item.opens ["noframes"] then inHead item
    else unexpected
  | _ => unexpected

/-- The rules behind a frameset. -/
def afterFrameset (item : Item) : Build Outcome := do
  match item with
  | .chars .unsplit text => return .split text
  | .chars .white text => insertText text
  | .comment text => insertComment text
  | .eof => return .done
  | .tag t =>
    if item.opens ["html"] then lateHtmlTag t
    else if item.closes ["html"] then
      setMode .afterAfterFrameset
      return .done
    else if item.opens ["noframes"] then inHead item
    else unexpected
  | _ => unexpected

/-- The rules behind a document with framesets. -/
def afterAfterFrameset (item : Item) : Build Outcome := do
  match item with
  | .chars .unsplit text => return .split text
  | .chars .white _ => inBody item
  | .comment text => appendComment 0 text
  | .eof => return .done
  | .tag t =>
    if item.opens ["html"] then lateHtmlTag t
    else if item.opens ["noframes"] then inHead item
    else unexpected
  | _ => unexpected

/-! ## All modes -/

/-- The rules of a mode. -/
def inMode : Mode → Item → Build Outcome
  | .initial => initial
  | .beforeHtml => beforeHtml
  | .beforeHead => beforeHead
  | .inHead => inHead
  | .afterHead => afterHead
  | .inBody => inBody
  | .text => inText
  | .inTable => inTable
  | .inTableText => inTableText
  | .inCaption => inCaption
  | .inColumnGroup => inColumnGroup
  | .inTableBody => inTableBody
  | .inRow => inRow
  | .inCell => inCell
  | .inSelect => inSelect
  | .inSelectInTable => inSelectInTable
  | .inTemplate => inTemplate
  | .afterBody => afterBody
  | .inFrameset => inFrameset
  | .afterFrameset => afterFrameset
  | .afterAfterBody => afterAfterBody
  | .afterAfterFrameset => afterAfterFrameset

end MarkupQuery.Html.Build
