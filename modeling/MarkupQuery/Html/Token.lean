import MarkupQuery.Html.Issue

/-!
# Tokens of markup

Markup is first cut into tokens: tags, comments, document types and runs of characters. How a run
of characters is cut shows in the issues that text in a wrong place gives rise to, so a token keeps
the run as it was cut. Issues travel among the tokens, in the order in which they arise.
-/

namespace MarkupQuery.Html

/-- An attribute of a tag. -/
structure Attribute where
  name : String
  value : String
  deriving DecidableEq

/-- Whether a tag opens or closes an element. -/
inductive TagKind
  | opening
  | closing
  deriving DecidableEq, Inhabited

/-- A tag. -/
structure Tag where
  kind : TagKind
  name : String
  selfClosing : Bool := false
  attributes : List Attribute := []
  deriving DecidableEq

/-- A document type. -/
structure Doctype where
  name : Option String := none
  publicId : Option String := none
  systemId : Option String := none
  /-- The document type is so broken that the document counts as one in the old layout mode. -/
  forceLegacy : Bool := false
  deriving DecidableEq

/-- One token of markup. -/
inductive Token
  | doctype (d : Doctype)
  | tag (t : Tag)
  | comment (text : String)
  | chars (text : List Char)
  | null
  | issue (i : Issue)
  | eof
  deriving DecidableEq

/-- The kinds of text that end at a certain closing tag only. -/
inductive RawText
  /-- Character references are resolved (`title`, `textarea`). -/
  | rcdata
  | rawtext
  | script
  /-- Inside a comment in a script. -/
  | scriptEscaped
  /-- Inside a script tag in a comment in a script. -/
  | scriptDoubleEscaped
  deriving DecidableEq

/-- What the tag just read means for the reading of the text that follows it. -/
inductive TextMode
  /-- Nothing changes. -/
  | unchanged
  /-- Raw text follows. -/
  | raw (kind : RawText)
  /-- All that follows is text. -/
  | plaintext
  /-- A script ended; the input after it is taken up anew. -/
  | scriptEnd
  deriving DecidableEq

end MarkupQuery.Html
