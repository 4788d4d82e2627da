import MarkupQuery.Text.Quoted

/-!
# Failed selections and recovered markup

Building a query never fails, running one can: `SelectError` says why. Markup is never refused;
what the reader of a document had to repair is kept as a list of `Diagnostic`s. The texts of both
show a query in quotes (`Text.quote`), so that a text determines its error.
-/

namespace MarkupQuery

/-- Why a selection has no result. -/
inductive SelectError
  /-- Nothing was selected. -/
  | emptyQuery
  /-- The expression was rejected. -/
  | compile (query message : String)
  /-- The expression failed when it was evaluated, or gave something other than nodes. -/
  | evaluation (query message : String)
  /-- The document could not be loaded. -/
  | document (message : String)
  deriving DecidableEq

/-- The text of an error. -/
def SelectError.text : SelectError → String
  | .emptyQuery => "empty query: nothing was selected"
  | .compile query message => "invalid query " ++ Text.quote query ++ ": " ++ message
  | .evaluation query message => "failed to evaluate " ++ Text.quote query ++ ": " ++ message
  | .document message => "failed to load document: " ++ message

/-- A problem in the markup that was repaired. -/
structure Diagnostic where
  message : String
  deriving DecidableEq

/-- The text of a diagnostic. -/
def Diagnostic.text (d : Diagnostic) : String :=
  "recovered: " ++ d.message

end MarkupQuery
