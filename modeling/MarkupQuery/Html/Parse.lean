import MarkupQuery.Html.Construction
import MarkupQuery.Html.Lexer

/-!
# Reading markup

`Html.parse` reads any text as a document of HTML. It never fails: the result is a tree below an
`html` element, and the issues met on the way, in order.
-/

namespace MarkupQuery.Html

/-- What reading markup results in. -/
structure Parsed where
  /-- The document element. -/
  root : Node
  issues : List Issue

/-- Deals with tokens in order. The last of them that announces a kind of text decides. -/
def acceptAll (c : Construction) : List Token → TextMode × Construction
  | [] => (.unchanged, c)
  | t :: ts =>
    let (mode, c) := c.accept t
    let (later, c) := acceptAll c ts
    (if later = .unchanged then mode else later, c)

/-- Runs the lexer and the construction side by side. -/
def run : Nat → Lexer → Construction → Construction
  | 0, _, c => c
  | fuel + 1, l, c =>
    let next := match l.step c.inForeign with
      | some l => some l
      | none => l.endStep
    match next with
    | some l =>
      let (tokens, l) := l.takeOut
      let (mode, c) := acceptAll c tokens
      run fuel (l.enter mode) c
    | none => (c.accept .eof).2

/-- Reads a document. -/
def parse (text : String) : Parsed :=
  let c := run (Lexer.fuel text) (Lexer.ofString text) {}
  { root := c.arena.root, issues := c.issues.reverse }

end MarkupQuery.Html
