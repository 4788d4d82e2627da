import MarkupQuery.Html.Lexer.Text

/-!
# Lexing tags

The states from `<` to `>`: the name of a tag, its attributes and their values.
-/

namespace MarkupQuery.Html.Lexer

/-- Behind `<`. -/
def tagOpenStep (l : Lexer) (c : Char) : Lexer :=
  if c = '!' then l.clearPending.goto .markupDeclarationOpen
  else if c = '/' then l.goto .endTagOpen
  else if c = '?' then (l.bad.beginComment ['?']).goto .bogusComment
  else match letter? c with
    | some small => (l.beginTag .opening small).goto .tagName
    | none => (l.bad.emitChar '<').reread c .data

/-- Behind `</`. -/
def endTagOpenStep (l : Lexer) (c : Char) : Lexer :=
  if c = '>' then l.bad.goto .data
  else match letter? c with
    | some small => (l.beginTag .closing small).goto .tagName
    | none => (l.bad.beginComment []).reread c .bogusComment

/-- In the name of a tag. -/
def tagNameStep (l : Lexer) (c : Char) : Lexer :=
  if isSpace c then l.goto .beforeAttributeName
  else if c = '/' then l.goto .selfClosingStartTag
  else if c = '>' then l.emitTag
  else if c = '\x00' then l.bad.pushTagName '\ufffd'
  else l.pushTagName c.toLower

/-- Begins an attribute with a character; some characters may not stand in its name. -/
def attributeStart (l : Lexer) (c : Char) (equalsBad : Bool) : Lexer :=
  let l :=
    if c = '\x00' || c = '"' || c = '\'' || c = '<' || (equalsBad && c = '=') then l.bad else l
  let c := if c = '\x00' then '\ufffd' else (letter? c).getD c
  (l.beginAttribute c).goto .attributeName

/-- Before the name of an attribute. -/
def beforeAttributeNameStep (l : Lexer) (c : Char) : Lexer :=
  if isSpace c then l
  else if c = '/' then l.goto .selfClosingStartTag
  else if c = '>' then l.emitTag
  else l.attributeStart c true

/-- In the name of an attribute. -/
def attributeNameStep (l : Lexer) (c : Char) : Lexer :=
  if isSpace c then l.goto .afterAttributeName
  else if c = '/' then l.goto .selfClosingStartTag
  else if c = '=' then l.goto .beforeAttributeValue
  else if c = '>' then l.emitTag
  else
    let l := if c = '\x00' || c = '"' || c = '\'' || c = '<' then l.bad else l
    l.pushAttributeName (if c = '\x00' then '\ufffd' else (letter? c).getD c)

/-- Behind the name of an attribute. -/
def afterAttributeNameStep (l : Lexer) (c : Char) : Lexer :=
  if isSpace c then l
  else if c = '/' then l.goto .selfClosingStartTag
  else if c = '=' then l.goto .beforeAttributeValue
  else if c = '>' then l.emitTag
  else l.attributeStart c false

/-- Before the value of an attribute. The characters are looked at as they stand. -/
def beforeAttributeValueStep (l : Lexer) : Option Lexer :=
  l.input.peek?.map fun c =>
    let behind : Lexer := { l with input := l.input.discard }
    if isSpace c || c = '\r' then behind
    else if c = '"' then behind.goto (.attributeValue .double)
    else if c = '\'' then behind.goto (.attributeValue .single)
    else if c = '>' then behind.bad.emitTag
    else l.goto (.attributeValue .unquoted)

/-- The characters that end a run of a quoted value. -/
def quotedSpecial (quote : Char) (c : Char) : Bool :=
  c = '\r' || c = quote || c = '&' || c = '\x00' || c = '\n'

/-- The characters that end a run of an unquoted value. -/
def unquotedSpecial (c : Char) : Bool :=
  c = '\r' || isSpace c || c = '&' || c = '>' || c = '\x00'

/-- In a quoted value. -/
def quotedValueStep (l : Lexer) (quote : Char) : Option Lexer :=
  (l.input.piece? (quotedSpecial quote)).map fun (piece, rest) =>
    let l := { l with input := rest }
    match piece with
    | .run text => l.pushValueText text
    | .char c =>
      if c = quote then l.goto .afterAttributeValue
      else if c = '&' then l.reference true
      else if c = '\x00' then l.bad.pushValue '\ufffd'
      else l.pushValue c

/-- In an unquoted value. -/
def unquotedValueStep (l : Lexer) : Option Lexer :=
  (l.input.piece? unquotedSpecial).map fun (piece, rest) =>
    let l := { l with input := rest }
    match piece with
    | .run text => l.pushValueText text
    | .char c =>
      if isSpace c then l.goto .beforeAttributeName
      else if c = '&' then l.reference true
      else if c = '>' then l.emitTag
      else if c = '\x00' then l.bad.pushValue '\ufffd'
      else
        let l :=
          if c = '"' || c = '\'' || c = '<' || c = '=' || c = '\x60' then l.bad else l
        l.pushValue c

/-- In the value of an attribute. -/
def attributeValueStep (l : Lexer) : ValueQuote → Option Lexer
  | .double => l.quotedValueStep '"'
  | .single => l.quotedValueStep '\''
  | .unquoted => l.unquotedValueStep

/-- Behind a quoted value. -/
def afterAttributeValueStep (l : Lexer) (c : Char) : Lexer :=
  if isSpace c then l.goto .beforeAttributeName
  else if c = '/' then l.goto .selfClosingStartTag
  else if c = '>' then l.emitTag
  else l.bad.reread c .beforeAttributeName

/-- Behind `/` in a tag. -/
def selfClosingStep (l : Lexer) (c : Char) : Lexer :=
  if c = '>' then ({ l with tag := { l.tag with selfClosing := true } } : Lexer).emitTag
  else l.bad.reread c .beforeAttributeName

end MarkupQuery.Html.Lexer
