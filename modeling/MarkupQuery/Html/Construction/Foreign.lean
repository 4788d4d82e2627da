import MarkupQuery.Html.Construction.Outside

/-!
# Rules of foreign elements

The rules inside `svg` and `math`, which hold wherever the innermost open element is foreign and
does not hold HTML.
-/

namespace MarkupQuery.Html.Build

/-- The tags that end foreign content. -/
def foreignBreakers : List String :=
  ["b", "big", "blockquote", "body", "br", "center", "code", "dd", "div", "dl", "dt", "em", "embed",
   "h1", "h2", "h3", "h4", "h5", "h6", "head", "hr", "i", "img", "li", "listing", "menu", "meta",
   "nobr", "ol", "p", "pre", "ruby", "s", "small", "span", "strong", "strike", "sub", "sup",
   "table", "tt", "u", "ul", "var"]

/-- Whether a tag ends foreign content. -/
def breaksForeign (t : Tag) : Bool :=
  match t.kind with
  | .opening =>
    foreignBreakers.contains t.name ||
      (t.name == "font" && t.attributes.any fun a => ["color", "face", "size"].contains a.name)
  | .closing => ["br", "p"].contains t.name

/-- The tags that stay foreign where text of MathML may hold HTML. -/
def mathTags : List String :=
  ["mglyph", "malignmark"]

/-- Whether the rules of foreign elements apply to a token inside an element. -/
def foreignApply (n : ElementName) (item : Item) : Bool :=
  if n.space = .html then false
  else match item with
    | .eof => false
    | .chars _ _ | .null => !n.holdsMathText && !n.holdsHtml
    | .comment _ => true
    | .tag t =>
      match t.kind with
      | .closing => true
      | .opening =>
        !(n.holdsMathText && !mathTags.contains t.name) && !n.holdsHtml &&
          !(n.space = .mathml && n.name == "annotation-xml" && t.name == "svg")

/-- Opens an element inside a foreign one. -/
def openInForeign (t : Tag) : Build Outcome := do
  let space := (← nameOf (← currentNode)).space
  let _ ← insertElement (!t.selfClosing)
    { space := space, name := Foreign.elementName space t.name }
    (Foreign.attributes space t.attributes)
  return if t.selfClosing then .doneSelfClosing else .done

/-- A closing tag inside foreign elements: closes the innermost open element of its name, capitals
aside, unless an HTML element comes first; then the rules of the mode apply. The list holds the open
elements but the outermost, the innermost first. -/
def closeInForeign (t : Tag) (first : Bool) : List ElementName → Build Outcome
  | [] => return .done
  | n :: rest => do
    if !first && n.space = .html then inMode (← get).mode (.tag t)
    else if Foreign.small n.name == Foreign.small t.name then
      keepOutermost (rest.length + 1)
      return .done
    else
      if first then note .unexpectedToken
      closeInForeign t false rest

/-- The rules of foreign elements. -/
def inForeign (item : Item) : Build Outcome := do
  match item with
  | .null =>
    note .unexpectedToken
    insertText ['\ufffd']
  | .chars _ text =>
    if hasSolid text then framesetNotOk
    insertText text
  | .comment text => insertComment text
  | .eof => return .done
  | .tag t =>
    if breaksForeign t then
      note .unexpectedToken
      popUntilCurrent fun n => n.space = .html || n.holdsMathText || n.holdsHtml
      inMode (← get).mode item
    else match t.kind with
      | .opening => openInForeign t
      | .closing => closeInForeign t true ((← openNames).map (·.2)).dropLast

end MarkupQuery.Html.Build
