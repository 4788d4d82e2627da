/-!
# Query paths

A query path is a list of selections. Each selection moves along an axis, tests the name of the
elements that it finds there, and filters them by the conditions of one bracketed predicate. Its
text is a path expression:

`//div[@id='main' or @class]/span`

reads "the `span` children of all `div` elements whose `id` is `main` or that have a `class`".
Names and values are arbitrary strings and stand in the text as they are (`Path.text`).
-/

namespace MarkupQuery.Query

/-- The axis of a selection, seen from the selection before it, or from the document node. -/
inductive Axis
  /-- Anywhere below, written `//`. -/
  | descendant
  /-- Direct children only, written `/`. -/
  | child
  deriving DecidableEq, Inhabited

/-- The axis of a selection that is to search below its direct children or not. -/
def Axis.ofRecursive (recursive : Bool) : Axis :=
  if recursive then .descendant else .child

/-- The separator that stands before a selection. -/
def Axis.text : Axis → String
  | .descendant => "//"
  | .child => "/"

/-- What a selection matches. -/
inductive NodeTest
  /-- Elements of exactly this name. -/
  | named (name : String)
  /-- Any element. -/
  | any
  deriving DecidableEq

/-- The text of a node test; the test for any element reads like the name `*`. -/
def NodeTest.text : NodeTest → String
  | .named name => name
  | .any => "*"

/-- How a condition joins the one before it. -/
inductive Join
  | and
  | or
  deriving DecidableEq

/-- The operator word of a join. -/
def Join.text : Join → String
  | .and => "and"
  | .or => "or"

/-- A test on one attribute: its presence, or equality with a value. -/
structure Condition where
  name : String
  /-- The value to compare with; without one, presence is tested. -/
  value : Option String
  /-- How this condition joins the one before it; the first of a predicate joins nothing. -/
  join : Join
  deriving DecidableEq

/-- The text of a condition. The value stands between single quotes as it is. -/
def Condition.text (c : Condition) : String :=
  match c.value with
  | some value => "@" ++ c.name ++ "='" ++ value ++ "'"
  | none => "@" ++ c.name

/-- The conditions that follow the first of a predicate, each behind its operator. -/
def joinedText : List Condition → String
  | [] => ""
  | c :: cs => " " ++ c.join.text ++ " " ++ c.text ++ joinedText cs

/-- The predicate of a list of conditions; no conditions need none. -/
def predicateText : List Condition → String
  | [] => ""
  | c :: cs => "[" ++ c.text ++ joinedText cs ++ "]"

/-- One step of a query. -/
structure TagSelection where
  /-- The name under which the selection is known in its session (`div`, `div.1`, `*.0`). -/
  key : String
  test : NodeTest
  axis : Axis
  conditions : List Condition := []
  deriving DecidableEq

namespace TagSelection

/-- Whether the selection takes elements of any name. -/
def isAny (s : TagSelection) : Bool :=
  match s.test with
  | .any => true
  | .named _ => false

/-- The selection with one more condition at the end. -/
def addCondition (s : TagSelection) (c : Condition) : TagSelection :=
  { s with conditions := s.conditions ++ [c] }

/-- The text of a selection; its key plays no part in it. -/
def text (s : TagSelection) : String :=
  s.axis.text ++ s.test.text ++ predicateText s.conditions

end TagSelection

/-- A query: selections in the order in which they were made. -/
structure Path where
  selections : List TagSelection := []
  deriving DecidableEq

namespace Path

/-- Whether a path has no selections. -/
def isEmpty (p : Path) : Bool :=
  p.selections.isEmpty

/-- The texts of the selections, one after the other. -/
def text (p : Path) : String :=
  p.selections.foldr (fun s rest => s.text ++ rest) ""

end Path

end MarkupQuery.Query
