import MarkupQuery.Query.Path

/-!
# The query builder

A builder collects one query at a time. Tag calls append a selection, condition calls extend the
predicate of the current selection, and `Builder.build` gives the text of the query and leaves the
builder empty, ready for an unrelated one.

Each selection gets a key by which the session knows it. A tag call takes the tag's name, unless a
selection already has it; then, and for a selection of any element, the key is the name (or `*`)
with the number of selections made so far behind a point.
-/

namespace MarkupQuery.Query

/-- A query under construction. -/
structure Builder where
  path : Path := {}
  /-- The position of the selection that condition calls extend. -/
  current : Option Nat := none
  deriving DecidableEq

/-- Whether a builder holds a selection. -/
inductive BuilderState
  /-- Nothing is selected; a condition call selects any element first. -/
  | empty
  | accumulating
  deriving DecidableEq

namespace Builder

/-- The builder without selections. -/
def new : Builder := {}

/-- The selections made since the last reset. -/
def selections (b : Builder) : List TagSelection :=
  b.path.selections

/-- The number of selections made since the last reset. -/
def len (b : Builder) : Nat :=
  b.selections.length

/-- Whether no selection was made since the last reset. -/
def isEmpty (b : Builder) : Bool :=
  b.path.isEmpty

/-- Whether condition calls have a selection to extend. -/
def state (b : Builder) : BuilderState :=
  match b.current with
  | some _ => .accumulating
  | none => .empty

/-- The selection that condition calls extend. -/
def currentSelection (b : Builder) : Option TagSelection :=
  b.current.bind fun i => b.selections[i]?

/-- Whether a selection has this key. -/
def containsKey (b : Builder) (key : String) : Bool :=
  b.selections.any fun s => s.key == key

/-- The key made from a base and the number of selections so far. -/
def countedKey (b : Builder) (base : String) : String :=
  base ++ "." ++ toString b.len

/-- Appends a selection and makes it the current one. -/
def push (b : Builder) (s : TagSelection) : Builder :=
  { path := { selections := b.selections ++ [s] }, current := some b.len }

/-- Selects the elements of a name along an axis. -/
def selectTagWithAxis (b : Builder) (name : String) (axis : Axis) : Builder :=
  let key := if b.containsKey name then b.countedKey name else name
  b.push { key := key, test := .named name, axis := axis }

/-- Selects the elements of a name, anywhere below or among the children only. -/
def selectTag (b : Builder) (name : String) (recursive : Bool) : Builder :=
  b.selectTagWithAxis name (.ofRecursive recursive)

/-- Selects the elements of a name anywhere below. -/
def tag (b : Builder) (name : String) : Builder :=
  b.selectTagWithAxis name .descendant

/-- Selects the children of a name. -/
def childTag (b : Builder) (name : String) : Builder :=
  b.selectTagWithAxis name .child

/-- Selects every element below. -/
def selectAllTags (b : Builder) : Builder :=
  b.push { key := b.countedKey "*", test := .any, axis := .descendant }

/-- Adds a condition to the current selection, after selecting every element if there is none. -/
def addCondition (b : Builder) (c : Condition) : Builder :=
  let start := match b.current with
    | some _ => b
    | none => b.selectAllTags
  match start.current with
  | some i =>
    { start with path := { selections := start.selections.modify i (·.addCondition c) } }
  | none => start

/-- Adds a condition joined with `and`. Without a value it tests the attribute's presence. -/
def andAttribute (b : Builder) (name : String) (value : Option String) : Builder :=
  b.addCondition { name := name, value := value, join := .and }

/-- Adds a condition joined with `or`. Without a value it tests the attribute's presence. -/
def orAttribute (b : Builder) (name : String) (value : Option String) : Builder :=
  b.addCondition { name := name, value := value, join := .or }

/-- Adds a presence test joined with `and`. -/
def hasAttribute (b : Builder) (name : String) : Builder :=
  b.andAttribute name none

/-- Adds a presence test joined with `or`. -/
def orHasAttribute (b : Builder) (name : String) : Builder :=
  b.orAttribute name none

/-- The text of the query so far. -/
def peek (b : Builder) : String :=
  b.path.text

/-- Discards every selection. -/
def reset (_ : Builder) : Builder :=
  new

/-- The text of the query, and the emptied builder. -/
def build (b : Builder) : String × Builder :=
  (b.peek, b.reset)

end Builder

/-- A call that adds to the query under construction. -/
inductive Call
  | tag (name : String)
  | childTag (name : String)
  | selectTag (name : String) (recursive : Bool)
  | selectTagWithAxis (name : String) (axis : Axis)
  | selectAllTags
  | andAttribute (name : String) (value : Option String)
  | orAttribute (name : String) (value : Option String)
  | hasAttribute (name : String)
  | orHasAttribute (name : String)
  deriving DecidableEq

/-- What a call does to a builder. -/
def Builder.call (b : Builder) : Call → Builder
  | .tag name => b.tag name
  | .childTag name => b.childTag name
  | .selectTag name recursive => b.selectTag name recursive
  | .selectTagWithAxis name axis => b.selectTagWithAxis name axis
  | .selectAllTags => b.selectAllTags
  | .andAttribute name value => b.andAttribute name value
  | .orAttribute name value => b.orAttribute name value
  | .hasAttribute name => b.hasAttribute name
  | .orHasAttribute name => b.orHasAttribute name

/-- A step of a builder's life: a call, or one of the ways to read or drop the query. -/
inductive Builder.Step
  | call (c : Call)
  | build
  | peek
  | reset
  deriving DecidableEq

/-- The query text that a step answers with, if any, and the builder after it. -/
def Builder.step (b : Builder) : Builder.Step → Option String × Builder
  | .call c => (none, b.call c)
  | .build => (some b.build.1, b.build.2)
  | .peek => (some b.peek, b)
  | .reset => (none, b.reset)

end MarkupQuery.Query
