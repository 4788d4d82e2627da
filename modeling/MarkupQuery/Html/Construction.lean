import MarkupQuery.Html.Construction.Foreign
import MarkupQuery.Html.Doctype

/-!
# Tree construction

`Construction.accept` deals with one token of the lexer: it hands the token from mode to mode until
a rule is done with it, and tells the lexer what kind of text follows.
-/

namespace MarkupQuery.Html

/-- The class of a character run. -/
def TextClass.of (c : Char) : TextClass :=
  if c.isWhitespace || c = '\x0c' then .white else .solid

/-- The first run of white space, or of other characters, and what follows it. -/
def firstRun (text : List Char) : TextClass × List Char × List Char :=
  match text with
  | [] => (.white, [], [])
  | c :: _ =>
    let kind := TextClass.of c
    let same (d : Char) : Bool := TextClass.of d = kind
    (kind, text.takeWhile same, text.dropWhile same)

namespace Build

/-- Whether an item is a tag that closes itself. -/
def closesItself : Item → Bool
  | .tag t => t.kind = .opening && t.selfClosing
  | _ => false

/-- Hands an item from mode to mode. `later` is text that is to be dealt with behind it. -/
def handle : Nat → Item → List Char → Build TextMode
  | 0, _, _ => return .unchanged
  | fuel + 1, item, later => do
    let c ← get
    let outcome ←
      if !c.opened.isEmpty && foreignApply (c.arena.name (c.opened.headD 0)) item then
        inForeign item
      else inMode c.mode item
    let next : Build TextMode :=
      if later.isEmpty then return .unchanged else handle fuel (.chars .unsplit later) []
    match outcome with
    | .done =>
      if closesItself item then note .selfClosingIgnored
      next
    | .doneSelfClosing => next
    | .again mode item =>
      setMode mode
      handle fuel item later
    | .split text =>
      let (kind, run, rest) := firstRun text
      if run.isEmpty then return .unchanged
      handle fuel (.chars kind run) rest
    | .enter mode => return mode

/-- How many rules may be applied to an item, at most: each either closes an element, goes on to a
later mode or deals with a run of text. -/
def handleFuel (item : Item) : Build Nat := do
  let c ← get
  let size := match item with
    | .chars _ text => text.length
    | _ => 0
  return 4 * (size + c.opened.length + c.templateModes.length) + 32

/-- Deals with an item. -/
def handleItem (item : Item) : Build TextMode := do
  handle (← handleFuel item) item []

/-- A document type. It may stand at the beginning only. -/
def handleDoctype (d : Doctype) : Build TextMode := do
  if (← get).mode = .initial then
    unless d.isKnown do note .badDoctype
    modify fun c => { c with legacy := d.isLegacy, mode := .beforeHtml }
  else note .misplacedDoctype
  return .unchanged

/-- Deals with a token. -/
def accept (token : Token) : Build TextMode := do
  let skip := (← get).skipLineFeed
  modify fun c => { c with skipLineFeed := false }
  match token with
  | .issue i =>
    note i
    return .unchanged
  | .doctype d => handleDoctype d
  | .tag t => handleItem (.tag t)
  | .comment text => handleItem (.comment text)
  | .null => handleItem .null
  | .eof => handleItem .eof
  | .chars text =>
    let text := match text with
      | '\n' :: rest => if skip then rest else text
      | _ => text
    if text.isEmpty then return .unchanged
    handleItem (.chars .unsplit text)

end Build

/-- The tree with one more token, and the kind of text that follows. -/
def Construction.accept (c : Construction) (token : Token) : TextMode × Construction :=
  (Build.accept token).run c

/-- Whether the innermost open element is foreign. -/
def Construction.inForeign (c : Construction) : Bool :=
  match c.opened with
  | [] => false
  | id :: _ => (c.arena.name id).space != .html

end MarkupQuery.Html
