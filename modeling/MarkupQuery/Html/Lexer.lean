import MarkupQuery.Html.Lexer.Declaration
import MarkupQuery.Html.Lexer.Tag

/-!
# The lexer

`Lexer.step` reads on until something is given out or the state changes; `Lexer.endStep` goes on
where the input has ended. Both are told, or do not depend on, what the document looks like so far:
a step is told whether the current element is foreign (`svg`, `math`), and `Lexer.enter` switches to
the kind of text that a tag announces.
-/

namespace MarkupQuery.Html.Lexer

/-- The lexer at the beginning of a text. A byte order mark in front is dropped. -/
def ofString (text : String) : Lexer :=
  { input := (Input.ofList text.toList).dropMark }

/-- The step of a state that reads one character. -/
def charStep (l : Lexer) (f : Lexer → Char → Lexer) : Option Lexer :=
  l.input.next?.map fun (c, rest) => f { l with input := rest } c

/-- One step; none if the input has ended. -/
def step (l : Lexer) (foreign : Bool) : Option Lexer :=
  match l.state with
  | .data => l.dataStep
  | .plaintext => l.plaintextStep
  | .raw kind => l.rawStep kind
  | .rawLessThan kind => l.charStep (·.rawLessThanStep kind)
  | .rawEndTagOpen kind => l.charStep (·.rawEndTagOpenStep kind)
  | .rawEndTagName kind => l.charStep (·.rawEndTagNameStep kind)
  | .scriptEscapeStart => l.charStep fun l c =>
    if c = '-' then (l.emitChar c).goto .scriptEscapeStartDash else l.reread c (.raw .script)
  | .scriptEscapeStartDash => l.charStep fun l c =>
    if c = '-' then (l.emitChar c).goto (.scriptEscapedDashDash .scriptEscaped)
    else l.reread c (.raw .script)
  | .scriptEscapedDash kind => l.charStep (·.scriptDashStep kind false)
  | .scriptEscapedDashDash kind => l.charStep (·.scriptDashStep kind true)
  | .scriptDoubleEscapeStart =>
    l.charStep (·.scriptNameStep .scriptDoubleEscaped .scriptEscaped .scriptEscaped)
  | .scriptDoubleEscapeEnd =>
    l.charStep (·.scriptNameStep .scriptEscaped .scriptDoubleEscaped .scriptDoubleEscaped)
  | .tagOpen => l.charStep tagOpenStep
  | .endTagOpen => l.charStep endTagOpenStep
  | .tagName => l.charStep tagNameStep
  | .beforeAttributeName => l.charStep beforeAttributeNameStep
  | .attributeName => l.charStep attributeNameStep
  | .afterAttributeName => l.charStep afterAttributeNameStep
  | .beforeAttributeValue => l.beforeAttributeValueStep
  | .attributeValue quote => l.attributeValueStep quote
  | .afterAttributeValue => l.charStep afterAttributeValueStep
  | .selfClosingStartTag => l.charStep selfClosingStep
  | .bogusComment => l.charStep bogusCommentStep
  | .markupDeclarationOpen => some (l.markupDeclarationStep foreign)
  | .commentStart => l.charStep commentStartStep
  | .commentStartDash => l.charStep commentStartDashStep
  | .comment => l.charStep commentStep
  | .commentLessThan => l.charStep commentLessThanStep
  | .commentLessThanBang => l.charStep commentLessThanBangStep
  | .commentLessThanBangDash => l.charStep commentLessThanBangDashStep
  | .commentLessThanBangDashDash => l.charStep commentLessThanBangDashDashStep
  | .commentEndDash => l.charStep commentEndDashStep
  | .commentEnd => l.charStep commentEndStep
  | .commentEndBang => l.charStep commentEndBangStep
  | .doctype => l.charStep doctypeStep
  | .beforeDoctypeName => l.charStep beforeDoctypeNameStep
  | .doctypeName => l.charStep doctypeNameStep
  | .afterDoctypeName => l.afterDoctypeNameStep
  | .afterDoctypeKeyword id => l.charStep (·.afterDoctypeKeywordStep id)
  | .beforeDoctypeId id => l.charStep (·.beforeDoctypeIdStep id)
  | .doctypeId id quote => l.charStep (·.doctypeIdStep id quote)
  | .afterDoctypeId id => l.charStep (·.afterDoctypeIdStep id)
  | .betweenDoctypeIds => l.charStep betweenDoctypeIdsStep
  | .bogusDoctype => l.charStep bogusDoctypeStep
  | .cdata => l.charStep cdataStep
  | .cdataBracket => l.charStep cdataBracketStep
  | .cdataEnd => l.charStep cdataEndStep

/-- One step behind the end of the input; none when all is given out but the end itself. -/
def endStep (l : Lexer) : Option Lexer :=
  match l.state with
  | .data | .plaintext | .raw .rcdata | .raw .rawtext | .raw .script => none
  | .raw .scriptEscaped | .raw .scriptDoubleEscaped | .tagName | .beforeAttributeName
  | .attributeName | .afterAttributeName | .attributeValue _ | .afterAttributeValue
  | .selfClosingStartTag | .scriptEscapedDash _ | .scriptEscapedDashDash _ =>
    some ((l.issue .unexpectedEnd).goto .data)
  | .beforeAttributeValue => some (l.goto (.attributeValue .unquoted))
  | .tagOpen => some (((l.issue .unexpectedEnd).emitChar '<').goto .data)
  | .endTagOpen => some ((((l.issue .unexpectedEnd).emitChar '<').emitChar '/').goto .data)
  | .rawLessThan .scriptDoubleEscaped => some (l.goto (.raw .scriptDoubleEscaped))
  | .rawLessThan kind => some ((l.emitChar '<').goto (.raw kind))
  | .rawEndTagOpen kind => some (((l.emitChar '<').emitChar '/').goto (.raw kind))
  | .rawEndTagName kind => some ((((l.emitChar '<').emitChar '/').emitPending).goto (.raw kind))
  | .scriptEscapeStart => some (l.goto (.raw .scriptEscaped))
  | .scriptDoubleEscapeStart => some (l.goto (.raw .scriptDoubleEscaped))
  | .scriptEscapeStartDash => some (l.goto (.raw .script))
  | .scriptDoubleEscapeEnd => some (l.goto (.raw .scriptDoubleEscaped))
  | .commentStart | .commentStartDash | .comment | .commentEndDash | .commentEnd
  | .commentEndBang => some ((l.issue .unexpectedEnd).emitComment.goto .data)
  | .commentLessThan | .commentLessThanBang => some (l.goto .comment)
  | .commentLessThanBangDash => some (l.goto .commentEndDash)
  | .commentLessThanBangDashDash => some (l.goto .commentEnd)
  | .doctype | .beforeDoctypeName =>
    some ((l.issue .unexpectedEnd).beginDoctype.forceLegacy.emitDoctype.goto .data)
  | .doctypeName | .afterDoctypeName | .afterDoctypeKeyword _ | .beforeDoctypeId _
  | .doctypeId _ _ | .afterDoctypeId _ | .betweenDoctypeIds =>
    some ((l.issue .unexpectedEnd).forceLegacy.emitDoctype.goto .data)
  | .bogusDoctype => some (l.emitDoctype.goto .data)
  | .bogusComment => some (l.emitComment.goto .data)
  | .markupDeclarationOpen => some (l.bad.goto .bogusComment)
  | .cdata => some ((l.emitPending.issue .unexpectedEnd).goto .data)
  | .cdataBracket => some ((l.pushPending ']').goto .cdata)
  | .cdataEnd => some (((l.pushPending ']').pushPending ']').goto .cdata)

/-- Switches to the text that the tag just read announces. Behind a script the input is taken up
anew, so that a byte order mark is dropped there, too. -/
def enter (l : Lexer) : TextMode → Lexer
  | .unchanged => l
  | .raw kind => l.goto (.raw kind)
  | .plaintext => l.goto .plaintext
  | .scriptEnd => { l.goto .data with input := l.input.dropMark }

/-- The tokens given out, in order, and the lexer without them. -/
def takeOut (l : Lexer) : List Token × Lexer :=
  (l.out.reverse, { l with out := [] })

/-- How many steps the lexer may take, at most. Each character is read at most three times, once as
text and twice more where it was read ahead, and no reading takes more than four steps. -/
def fuel (text : String) : Nat :=
  16 * text.length + 64

end MarkupQuery.Html.Lexer
