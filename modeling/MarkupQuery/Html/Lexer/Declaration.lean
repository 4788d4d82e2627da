import MarkupQuery.Html.Lexer.State

/-!
# Lexing comments and document types

The states behind `<!`: comments, document types, and what is taken for a comment because it is
neither.
-/

namespace MarkupQuery.Html.Lexer

/-! ## Comments -/

/-- In what is taken for a comment. -/
def bogusCommentStep (l : Lexer) (c : Char) : Lexer :=
  if c = '>' then l.emitComment.goto .data
  else if c = '\x00' then l.bad.pushComment ['\ufffd']
  else l.pushComment [c]

/-- Behind `<!`. Text sections exist in foreign elements only. -/
def markupDeclarationStep (l : Lexer) (foreign : Bool) : Lexer :=
  let l := { l with input := l.input.settle }
  match l.input.eat? "--".toList false with
  | some rest => ({ l with input := rest }.beginComment []).goto .commentStart
  | none => match l.input.eat? "doctype".toList true with
    | some rest => ({ l with input := rest } : Lexer).goto .doctype
    | none =>
      let section? := if foreign then l.input.eat? "[CDATA[".toList false else none
      match section? with
      | some rest => ({ l with input := rest } : Lexer).clearPending.goto .cdata
      | none => (l.bad.beginComment []).goto .bogusComment

/-- Behind `<!--`. -/
def commentStartStep (l : Lexer) (c : Char) : Lexer :=
  if c = '-' then l.goto .commentStartDash
  else if c = '\x00' then (l.bad.pushComment ['\ufffd']).goto .comment
  else if c = '>' then l.bad.emitComment.goto .data
  else (l.pushComment [c]).goto .comment

/-- Behind `<!---`. -/
def commentStartDashStep (l : Lexer) (c : Char) : Lexer :=
  if c = '-' then l.goto .commentEnd
  else if c = '\x00' then (l.bad.pushComment ['-', '\ufffd']).goto .comment
  else if c = '>' then l.bad.emitComment.goto .data
  else (l.pushComment ['-', c]).goto .comment

/-- In a comment. -/
def commentStep (l : Lexer) (c : Char) : Lexer :=
  if c = '<' then (l.pushComment [c]).goto .commentLessThan
  else if c = '-' then l.goto .commentEndDash
  else if c = '\x00' then l.bad.pushComment ['\ufffd']
  else l.pushComment [c]

/-- Behind `<` in a comment. -/
def commentLessThanStep (l : Lexer) (c : Char) : Lexer :=
  if c = '!' then (l.pushComment [c]).goto .commentLessThanBang
  else if c = '<' then l.pushComment [c]
  else l.reread c .comment

/-- Behind `<!` in a comment. -/
def commentLessThanBangStep (l : Lexer) (c : Char) : Lexer :=
  if c = '-' then l.goto .commentLessThanBangDash else l.reread c .comment

/-- Behind `<!-` in a comment. -/
def commentLessThanBangDashStep (l : Lexer) (c : Char) : Lexer :=
  if c = '-' then l.goto .commentLessThanBangDashDash else l.reread c .commentEndDash

/-- Behind `<!--` in a comment. -/
def commentLessThanBangDashDashStep (l : Lexer) (c : Char) : Lexer :=
  (if c = '>' then l else l.bad).reread c .commentEnd

/-- Behind a dash in a comment. -/
def commentEndDashStep (l : Lexer) (c : Char) : Lexer :=
  if c = '-' then l.goto .commentEnd
  else if c = '\x00' then (l.bad.pushComment ['-', '\ufffd']).goto .comment
  else (l.pushComment ['-', c]).goto .comment

/-- Behind two dashes in a comment. -/
def commentEndStep (l : Lexer) (c : Char) : Lexer :=
  if c = '>' then l.emitComment.goto .data
  else if c = '!' then l.goto .commentEndBang
  else if c = '-' then l.pushComment [c]
  else (l.pushComment ['-', '-']).reread c .comment

/-- Behind `--!` in a comment. -/
def commentEndBangStep (l : Lexer) (c : Char) : Lexer :=
  if c = '-' then (l.pushComment ['-', '-', '!']).goto .commentEndDash
  else if c = '>' then l.bad.emitComment.goto .data
  else if c = '\x00' then (l.bad.pushComment ['-', '-', '!', '\ufffd']).goto .comment
  else (l.pushComment ['-', '-', '!', c]).goto .comment

/-! ## Document types -/

/-- Behind `<!doctype`. -/
def doctypeStep (l : Lexer) (c : Char) : Lexer :=
  if isSpace c then l.goto .beforeDoctypeName
  else if c = '>' then l.reread c .beforeDoctypeName
  else l.bad.reread c .beforeDoctypeName

/-- Before the name of a document type. -/
def beforeDoctypeNameStep (l : Lexer) (c : Char) : Lexer :=
  if isSpace c then l
  else if c = '\x00' then (l.bad.beginDoctype.pushDoctypeName '\ufffd').goto .doctypeName
  else if c = '>' then l.bad.beginDoctype.forceLegacy.emitDoctype.goto .data
  else (l.beginDoctype.pushDoctypeName c.toLower).goto .doctypeName

/-- In the name of a document type. -/
def doctypeNameStep (l : Lexer) (c : Char) : Lexer :=
  if isSpace c then l.clearPending.goto .afterDoctypeName
  else if c = '>' then l.emitDoctype.goto .data
  else if c = '\x00' then l.bad.pushDoctypeName '\ufffd'
  else l.pushDoctypeName c.toLower

/-- Behind the name of a document type. -/
def afterDoctypeNameStep (l : Lexer) : Option Lexer :=
  let l := { l with input := l.input.settle }
  match l.input.eat? "public".toList true with
  | some rest => some (({ l with input := rest } : Lexer).goto (.afterDoctypeKeyword .publicId))
  | none => match l.input.eat? "system".toList true with
    | some rest => some (({ l with input := rest } : Lexer).goto (.afterDoctypeKeyword .systemId))
    | none => l.input.next?.map fun (c, rest) =>
      let l := { l with input := rest }
      if isSpace c then l
      else if c = '>' then l.emitDoctype.goto .data
      else l.bad.forceLegacy.reread c .bogusDoctype

/-- Behind the keyword of an identifier. -/
def afterDoctypeKeywordStep (l : Lexer) (id : DoctypeId) (c : Char) : Lexer :=
  if isSpace c then l.goto (.beforeDoctypeId id)
  else if c = '"' || c = '\'' then (l.bad.beginDoctypeId id).goto (.doctypeId id c)
  else if c = '>' then l.bad.forceLegacy.emitDoctype.goto .data
  else l.bad.forceLegacy.reread c .bogusDoctype

/-- Before an identifier. -/
def beforeDoctypeIdStep (l : Lexer) (id : DoctypeId) (c : Char) : Lexer :=
  if isSpace c then l
  else if c = '"' || c = '\'' then (l.beginDoctypeId id).goto (.doctypeId id c)
  else if c = '>' then l.bad.forceLegacy.emitDoctype.goto .data
  else l.bad.forceLegacy.reread c .bogusDoctype

/-- In an identifier. -/
def doctypeIdStep (l : Lexer) (id : DoctypeId) (quote : Char) (c : Char) : Lexer :=
  if c = quote then l.goto (.afterDoctypeId id)
  else if c = '\x00' then l.bad.pushDoctypeId '\ufffd' id
  else if c = '>' then l.bad.forceLegacy.emitDoctype.goto .data
  else l.pushDoctypeId c id

/-- Behind an identifier. -/
def afterDoctypeIdStep (l : Lexer) (id : DoctypeId) (c : Char) : Lexer :=
  match id with
  | .publicId =>
    if isSpace c then l.goto .betweenDoctypeIds
    else if c = '>' then l.emitDoctype.goto .data
    else if c = '"' || c = '\'' then (l.bad.beginDoctypeId .systemId).goto (.doctypeId .systemId c)
    else l.bad.forceLegacy.reread c .bogusDoctype
  | .systemId =>
    if isSpace c then l
    else if c = '>' then l.emitDoctype.goto .data
    else l.bad.reread c .bogusDoctype

/-- Between the two identifiers. -/
def betweenDoctypeIdsStep (l : Lexer) (c : Char) : Lexer :=
  if isSpace c then l
  else if c = '>' then l.emitDoctype.goto .data
  else if c = '"' || c = '\'' then (l.beginDoctypeId .systemId).goto (.doctypeId .systemId c)
  else l.bad.forceLegacy.reread c .bogusDoctype

/-- In the rest of a broken document type. -/
def bogusDoctypeStep (l : Lexer) (c : Char) : Lexer :=
  if c = '>' then l.emitDoctype.goto .data
  else if c = '\x00' then l.bad
  else l

end MarkupQuery.Html.Lexer
