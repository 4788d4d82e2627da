import MarkupQuery.Html.Input
import MarkupQuery.Html.Token

/-!
# The state of the lexer

The lexer is the tokenization machine of the HTML standard: a state, the input, and the tag, comment
or document type under construction. Texts under construction are kept backwards. Tokens that a step
gives out are collected in `Lexer.out`, the last one first.
-/

namespace MarkupQuery.Html

/-- How the value of an attribute is delimited. -/
inductive ValueQuote
  | double
  | single
  | unquoted
  deriving DecidableEq

/-- The two identifiers of a document type. -/
inductive DoctypeId
  | publicId
  | systemId
  deriving DecidableEq

/-- The states of the lexer, as the standard names them. -/
inductive LexState
  | data
  | plaintext
  | raw (kind : RawText)
  | rawLessThan (kind : RawText)
  | rawEndTagOpen (kind : RawText)
  | rawEndTagName (kind : RawText)
  | scriptEscapeStart
  | scriptEscapeStartDash
  | scriptEscapedDash (kind : RawText)
  | scriptEscapedDashDash (kind : RawText)
  | scriptDoubleEscapeStart
  | scriptDoubleEscapeEnd
  | tagOpen
  | endTagOpen
  | tagName
  | beforeAttributeName
  | attributeName
  | afterAttributeName
  | beforeAttributeValue
  | attributeValue (quote : ValueQuote)
  | afterAttributeValue
  | selfClosingStartTag
  | bogusComment
  | markupDeclarationOpen
  | commentStart
  | commentStartDash
  | comment
  | commentLessThan
  | commentLessThanBang
  | commentLessThanBangDash
  | commentLessThanBangDashDash
  | commentEndDash
  | commentEnd
  | commentEndBang
  | doctype
  | beforeDoctypeName
  | doctypeName
  | afterDoctypeName
  | afterDoctypeKeyword (id : DoctypeId)
  | beforeDoctypeId (id : DoctypeId)
  | doctypeId (id : DoctypeId) (quote : Char)
  | afterDoctypeId (id : DoctypeId)
  | betweenDoctypeIds
  | bogusDoctype
  | cdata
  | cdataBracket
  | cdataEnd
  deriving DecidableEq

/-- A tag under construction. -/
structure TagDraft where
  kind : TagKind := .opening
  name : List Char := []
  selfClosing : Bool := false
  /-- The finished attributes, the last one first. -/
  attributes : List Attribute := []
  attributeName : List Char := []
  attributeValue : List Char := []

/-- A document type under construction. -/
structure DoctypeDraft where
  name : Option (List Char) := none
  publicId : Option (List Char) := none
  systemId : Option (List Char) := none
  forceLegacy : Bool := false

/-- The lexer. -/
structure Lexer where
  input : Input
  state : LexState := .data
  tag : TagDraft := {}
  comment : List Char := []
  doctype : DoctypeDraft := {}
  /-- Text that belongs to the markup or to the text, as what follows decides. -/
  pending : List Char := []
  /-- The name of the opening tag last read; only its closing tag ends raw text. -/
  lastOpened : Option (List Char) := none
  out : List Token := []

namespace Lexer

/-- The string of a text kept backwards. -/
def spell (text : List Char) : String :=
  String.ofList text.reverse

/-- The small form of a letter. -/
def letter? (c : Char) : Option Char :=
  if 'a' ≤ c ∧ c ≤ 'z' then some c
  else if 'A' ≤ c ∧ c ≤ 'Z' then some c.toLower
  else none

/-- Whether a character separates the parts of a tag. -/
def isSpace (c : Char) : Bool :=
  c = '\t' || c = '\n' || c = '\x0c' || c = ' '

/-! ## Moves -/

/-- Goes on in another state. -/
def goto (l : Lexer) (s : LexState) : Lexer :=
  { l with state := s }

/-- Goes on in another state, where the character just read is read again. -/
def reread (l : Lexer) (c : Char) (s : LexState) : Lexer :=
  { l with input := { l.input with again := some c }, state := s }

/-! ## Tokens -/

/-- Gives out a token. -/
def emit (l : Lexer) (t : Token) : Lexer :=
  { l with out := t :: l.out }

/-- Notes an issue. -/
def issue (l : Lexer) (i : Issue) : Lexer :=
  l.emit (.issue i)

/-- Notes a character in a place where it may not stand. -/
def bad (l : Lexer) : Lexer :=
  l.issue .badCharacter

/-- Gives out a single character. -/
def emitChar (l : Lexer) (c : Char) : Lexer :=
  l.emit (if c = '\x00' then .null else .chars [c])

/-- Gives out a text. -/
def emitText (l : Lexer) (text : List Char) : Lexer :=
  l.emit (.chars text)

/-- Gives out the pending text. -/
def emitPending (l : Lexer) : Lexer :=
  { l.emitText l.pending.reverse with pending := [] }

/-- Appends to the pending text. -/
def pushPending (l : Lexer) (c : Char) : Lexer :=
  { l with pending := c :: l.pending }

/-- Discards the pending text. -/
def clearPending (l : Lexer) : Lexer :=
  { l with pending := [] }

/-! ## Tags -/

/-- Begins a tag whose name begins with a character. -/
def beginTag (l : Lexer) (kind : TagKind) (c : Char) : Lexer :=
  { l with tag := { l.tag with kind := kind, name := [c], selfClosing := false, attributes := [] } }

/-- Discards the tag under construction. -/
def discardTag (l : Lexer) : Lexer :=
  { l with tag := { l.tag with name := [], selfClosing := false, attributes := [] } }

/-- Appends to the name of the tag. -/
def pushTagName (l : Lexer) (c : Char) : Lexer :=
  { l with tag := { l.tag with name := c :: l.tag.name } }

/-- Appends to the name of the attribute. -/
def pushAttributeName (l : Lexer) (c : Char) : Lexer :=
  { l with tag := { l.tag with attributeName := c :: l.tag.attributeName } }

/-- Appends to the value of the attribute. -/
def pushValue (l : Lexer) (c : Char) : Lexer :=
  { l with tag := { l.tag with attributeValue := c :: l.tag.attributeValue } }

/-- Appends a text to the value of the attribute. -/
def pushValueText (l : Lexer) (text : List Char) : Lexer :=
  { l with tag := { l.tag with attributeValue := text.reverse ++ l.tag.attributeValue } }

/-- Ends the attribute under construction. The first attribute of a name counts. -/
def finishAttribute (l : Lexer) : Lexer :=
  if l.tag.attributeName.isEmpty then l
  else
    let name := spell l.tag.attributeName
    let value := spell l.tag.attributeValue
    if l.tag.attributes.any fun a => a.name == name then
      { l.issue .duplicateAttribute with
        tag := { l.tag with attributeName := [], attributeValue := [] } }
    else
      { l with tag := { l.tag with
          attributeName := [], attributeValue := [],
          attributes := { name := name, value := value } :: l.tag.attributes } }

/-- Begins an attribute whose name begins with a character. -/
def beginAttribute (l : Lexer) (c : Char) : Lexer :=
  let l := l.finishAttribute
  { l with tag := { l.tag with attributeName := [c] } }

/-- Gives out the tag. -/
def emitTag (l : Lexer) : Lexer :=
  let l := l.finishAttribute
  let tag : Tag :=
    { kind := l.tag.kind, name := spell l.tag.name, selfClosing := l.tag.selfClosing,
      attributes := l.tag.attributes.reverse }
  let l := match l.tag.kind with
    | .opening => { l with lastOpened := some l.tag.name }
    | .closing =>
      let l := if l.tag.attributes.isEmpty then l else l.issue .attributesOnEndTag
      if l.tag.selfClosing then l.issue .selfClosingEndTag else l
  let l := { l with tag := { l.tag with name := [], attributes := [] } }
  (l.goto .data).emit (.tag tag)

/-- Whether the tag closes the element that was opened last. -/
def closesLastOpened (l : Lexer) : Bool :=
  l.tag.kind = .closing && l.lastOpened = some l.tag.name

/-! ## Comments -/

/-- Begins a comment with a text. -/
def beginComment (l : Lexer) (text : List Char) : Lexer :=
  { l with comment := text.reverse }

/-- Appends to the comment. -/
def pushComment (l : Lexer) (text : List Char) : Lexer :=
  { l with comment := text.reverse ++ l.comment }

/-- Gives out the comment. -/
def emitComment (l : Lexer) : Lexer :=
  ({ l with comment := [] } : Lexer).emit (.comment (spell l.comment))

/-! ## Document types -/

/-- Begins a document type. -/
def beginDoctype (l : Lexer) : Lexer :=
  { l with doctype := {} }

/-- Appends to the name of the document type. -/
def pushDoctypeName (l : Lexer) (c : Char) : Lexer :=
  { l with doctype := { l.doctype with name := some (c :: l.doctype.name.getD []) } }

/-- Begins an identifier of the document type. -/
def beginDoctypeId (l : Lexer) : DoctypeId → Lexer
  | .publicId => { l with doctype := { l.doctype with publicId := some [] } }
  | .systemId => { l with doctype := { l.doctype with systemId := some [] } }

/-- Appends to an identifier of the document type. -/
def pushDoctypeId (l : Lexer) (c : Char) : DoctypeId → Lexer
  | .publicId =>
    { l with doctype := { l.doctype with publicId := some (c :: l.doctype.publicId.getD []) } }
  | .systemId =>
    { l with doctype := { l.doctype with systemId := some (c :: l.doctype.systemId.getD []) } }

/-- Marks the document type as broken. -/
def forceLegacy (l : Lexer) : Lexer :=
  { l with doctype := { l.doctype with forceLegacy := true } }

/-- Gives out the document type. -/
def emitDoctype (l : Lexer) : Lexer :=
  let d := l.doctype
  ({ l with doctype := {} } : Lexer).emit (.doctype
    { name := d.name.map spell, publicId := d.publicId.map spell,
      systemId := d.systemId.map spell, forceLegacy := d.forceLegacy })

end Lexer

end MarkupQuery.Html
