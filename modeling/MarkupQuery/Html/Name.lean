/-!
# Names of elements

Elements of HTML, MathML and SVG are told apart by namespace. The sets of names on which the
construction of a tree depends are listed here.
-/

namespace MarkupQuery.Html

/-- The vocabulary that an element belongs to. -/
inductive Namespace
  | html
  | mathml
  | svg
  deriving DecidableEq, Inhabited

/-- The name of an element with its vocabulary. -/
structure ElementName where
  space : Namespace
  name : String
  deriving DecidableEq, Inhabited

namespace ElementName

/-- Whether this is one of the named elements of HTML. -/
def isHtml (n : ElementName) (names : List String) : Bool :=
  n.space = .html && names.contains n.name

/-- Whether a MathML element holds text as HTML has it. -/
def holdsMathText (n : ElementName) : Bool :=
  n.space = .mathml && ["mi", "mo", "mn", "ms", "mtext"].contains n.name

/-- Whether an SVG element holds HTML. -/
def holdsHtml (n : ElementName) : Bool :=
  n.space = .svg && ["foreignObject", "desc", "title"].contains n.name

/-- The elements that stop the search for an open element. -/
def endsScope (n : ElementName) : Bool :=
  n.isHtml ["applet", "caption", "html", "table", "td", "th", "marquee", "object", "template"] ||
    n.holdsMathText || n.holdsHtml

/-- The elements that stop the search for an open list item. -/
def endsListScope (n : ElementName) : Bool :=
  n.endsScope || n.isHtml ["ol", "ul"]

/-- The elements that stop the search for an open paragraph. -/
def endsButtonScope (n : ElementName) : Bool :=
  n.endsScope || n.isHtml ["button"]

/-- The elements that stop the search for an open part of a table. -/
def endsTableScope (n : ElementName) : Bool :=
  n.isHtml ["html", "table", "template"]

/-- The elements that stop the search for an open selection list: all but its parts. -/
def endsSelectScope (n : ElementName) : Bool :=
  !n.isHtml ["optgroup", "option"]

/-- The elements that a closing tag may leave out where another element is closed. -/
def impliesEnd (n : ElementName) : Bool :=
  n.isHtml ["dd", "dt", "li", "option", "optgroup", "p", "rb", "rp", "rt", "rtc"]

/-- The elements that may be left open where a template is closed. -/
def impliesEndInTemplate (n : ElementName) : Bool :=
  n.impliesEnd ||
    n.isHtml ["caption", "colgroup", "tbody", "td", "tfoot", "th", "thead", "tr"]

/-- The headings. -/
def isHeading (n : ElementName) : Bool :=
  n.isHtml ["h1", "h2", "h3", "h4", "h5", "h6"]

/-- The elements that a stray closing tag cannot pass. -/
def isSpecial (n : ElementName) : Bool :=
  n.isHtml ["address", "applet", "area", "article", "aside", "base", "basefont", "bgsound",
    "blockquote", "body", "br", "button", "caption", "center", "col", "colgroup", "dd", "details",
    "dir", "div", "dl", "dt", "embed", "fieldset", "figcaption", "figure", "footer", "form",
    "frame", "frameset", "h1", "h2", "h3", "h4", "h5", "h6", "head", "header", "hgroup", "hr",
    "html", "iframe", "img", "input", "isindex", "li", "link", "listing", "main", "marquee", "menu",
    "meta", "nav", "noembed", "noframes", "noscript", "object", "ol", "p", "param", "plaintext",
    "pre", "script", "section", "select", "source", "style", "summary", "table", "tbody", "td",
    "template", "textarea", "tfoot", "th", "thead", "title", "tr", "track", "ul", "wbr", "xmp"]

/-- The elements that may be open where the document ends. -/
def mayStayOpen (n : ElementName) : Bool :=
  n.isHtml ["dd", "dt", "li", "optgroup", "option", "p", "rp", "rt", "tbody", "td", "tfoot", "th",
    "thead", "tr", "body", "html"]

/-- The elements in which text of a table may not stand. -/
def isTablePart (n : ElementName) : Bool :=
  n.isHtml ["table", "tbody", "tfoot", "thead", "tr"]

/-- The elements that a row group may stand in. -/
def isRowGroupContext (n : ElementName) : Bool :=
  n.isHtml ["tbody", "tfoot", "thead", "template", "html"]

/-- The elements that a row may stand in. -/
def isRowContext (n : ElementName) : Bool :=
  n.isHtml ["tr", "template", "html"]

/-- The cells of a table. -/
def isCell (n : ElementName) : Bool :=
  n.isHtml ["td", "th"]

end ElementName

end MarkupQuery.Html
