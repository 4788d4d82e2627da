import MarkupQuery.Html.CharRef
import MarkupQuery.Html.Lexer.State

/-!
# Lexing text

The states in which text is read: ordinary text, raw text up to a closing tag, the nested forms of
scripts, and the text sections of foreign elements.
-/

namespace MarkupQuery.Html.Lexer

/-- Reads the reference behind an ampersand and hands its characters on. -/
def reference (l : Lexer) (inAttribute : Bool) : Lexer :=
  let reading := CharRef.read inAttribute l.input.remaining
  let input := (l.input.drop reading.consumed).giveBack reading.givenBack
  let l := reading.issues.foldl issue { l with input := input }
  let text := if reading.text.isEmpty then ['&'] else reading.text
  text.foldl (fun l c => if inAttribute then l.pushValue c else l.emitChar c) l

/-- The characters that end a run of text. -/
def textSpecial (c : Char) : Bool :=
  c = '\r' || c = '\x00' || c = '&' || c = '<' || c = '\n'

/-- The characters that end a run of raw text. -/
def rawSpecial (c : Char) : Bool :=
  c = '\r' || c = '\x00' || c = '<' || c = '\n'

/-- The characters that end a run of text in a comment of a script. -/
def escapedSpecial (c : Char) : Bool :=
  c = '\r' || c = '\x00' || c = '-' || c = '<' || c = '\n'

/-- The characters that end a run of plain text. -/
def plainSpecial (c : Char) : Bool :=
  c = '\r' || c = '\x00' || c = '\n'

/-- Text outside tags. -/
def dataStep (l : Lexer) : Option Lexer :=
  (l.input.piece? textSpecial).map fun (piece, rest) =>
    let l := { l with input := rest }
    match piece with
    | .run text => l.emitText text
    | .char c =>
      if c = '\x00' then l.bad.emitChar c
      else if c = '&' then l.reference false
      else if c = '<' then l.goto .tagOpen
      else l.emitChar c

/-- Text up to the end of the document. -/
def plaintextStep (l : Lexer) : Option Lexer :=
  (l.input.piece? plainSpecial).map fun (piece, rest) =>
    let l := { l with input := rest }
    match piece with
    | .run text => l.emitText text
    | .char c => if c = '\x00' then l.bad.emitChar '\ufffd' else l.emitChar c

/-- The characters that end a run of raw text of a kind. -/
def RawText.special : RawText → Char → Bool
  | .rcdata => textSpecial
  | .rawtext | .script => rawSpecial
  | .scriptEscaped | .scriptDoubleEscaped => escapedSpecial

/-- Raw text. -/
def rawStep (l : Lexer) (kind : RawText) : Option Lexer :=
  (l.input.piece? (RawText.special kind)).map fun (piece, rest) =>
    let l := { l with input := rest }
    match piece with
    | .run text => l.emitText text
    | .char c =>
      if c = '\x00' then l.bad.emitChar '\ufffd'
      else if c = '<' then
        let l := if kind = .scriptDoubleEscaped then l.emitChar c else l
        l.goto (.rawLessThan kind)
      else if c = '&' ∧ kind = .rcdata then l.reference false
      else if c = '-' ∧ (kind = .scriptEscaped ∨ kind = .scriptDoubleEscaped) then
        (l.emitChar c).goto (.scriptEscapedDash kind)
      else l.emitChar c

/-- Behind `<` in raw text. -/
def rawLessThanStep (l : Lexer) (kind : RawText) (c : Char) : Lexer :=
  match kind with
  | .scriptEscaped =>
    if c = '/' then l.clearPending.goto (.rawEndTagOpen kind)
    else match letter? c with
      | some small =>
        ((({ l with pending := [small] } : Lexer).emitChar '<').emitChar c).goto
          .scriptDoubleEscapeStart
      | none => (l.emitChar '<').reread c (.raw kind)
  | .scriptDoubleEscaped =>
    if c = '/' then (l.clearPending.emitChar '/').goto .scriptDoubleEscapeEnd
    else l.reread c (.raw kind)
  | _ =>
    if c = '/' then l.clearPending.goto (.rawEndTagOpen kind)
    else if c = '!' ∧ kind = .script then
      ((l.emitChar '<').emitChar '!').goto .scriptEscapeStart
    else (l.emitChar '<').reread c (.raw kind)

/-- Behind `</` in raw text. -/
def rawEndTagOpenStep (l : Lexer) (kind : RawText) (c : Char) : Lexer :=
  match letter? c with
  | some small => ((l.beginTag .closing small).pushPending c).goto (.rawEndTagName kind)
  | none => ((l.emitChar '<').emitChar '/').reread c (.raw kind)

/-- In the name behind `</` in raw text. Only the closing tag of the element ends its text. -/
def rawEndTagNameStep (l : Lexer) (kind : RawText) (c : Char) : Lexer :=
  let closes := l.closesLastOpened
  if closes && isSpace c then l.clearPending.goto .beforeAttributeName
  else if closes && c = '/' then l.clearPending.goto .selfClosingStartTag
  else if closes && c = '>' then l.clearPending.emitTag
  else match letter? c with
    | some small => (l.pushTagName small).pushPending c
    | none => (((l.discardTag.emitChar '<').emitChar '/').emitPending).reread c (.raw kind)

/-- Behind a dash, or two, in a comment of a script. -/
def scriptDashStep (l : Lexer) (kind : RawText) (twice : Bool) (c : Char) : Lexer :=
  if c = '-' then (l.emitChar c).goto (.scriptEscapedDashDash kind)
  else if c = '<' then
    let l := if kind = .scriptDoubleEscaped then l.emitChar c else l
    l.goto (.rawLessThan kind)
  else if c = '>' ∧ twice then (l.emitChar c).goto (.raw .script)
  else if c = '\x00' then (l.bad.emitChar '\ufffd').goto (.raw kind)
  else (l.emitChar c).goto (.raw kind)

/-- In the name of a script tag in a comment of a script. The full name `script` leads to the first
kind of text, any other name to the second. -/
def scriptNameStep (l : Lexer) (named other : RawText) (stay : RawText) (c : Char) : Lexer :=
  if isSpace c || c = '/' || c = '>' then
    let kind := if l.pending.reverse = "script".toList then named else other
    (l.emitChar c).goto (.raw kind)
  else match letter? c with
    | some small => (l.pushPending small).emitChar c
    | none => l.reread c (.raw stay)

/-- In a text section. -/
def cdataStep (l : Lexer) (c : Char) : Lexer :=
  if c = ']' then l.goto .cdataBracket
  else if c = '\x00' then l.emitPending.emitChar c
  else l.pushPending c

/-- Behind `]` in a text section. -/
def cdataBracketStep (l : Lexer) (c : Char) : Lexer :=
  if c = ']' then l.goto .cdataEnd
  else (l.pushPending ']').reread c .cdata

/-- Behind `]]` in a text section. -/
def cdataEndStep (l : Lexer) (c : Char) : Lexer :=
  if c = ']' then l.pushPending ']'
  else if c = '>' then l.emitPending.goto .data
  else ((l.pushPending ']').pushPending ']').reread c .cdata

end MarkupQuery.Html.Lexer
