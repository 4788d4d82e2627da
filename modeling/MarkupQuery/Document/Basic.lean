import MarkupQuery.Document.Loader
import MarkupQuery.Document.Table
import MarkupQuery.Failure
import MarkupQuery.Html.Parse

/-!
# Documents

A document is a loaded tree with what is known of its loading. It never changes, so its nodes are
numbered once, when it is made (`Document.ofTree`).
-/

namespace MarkupQuery

/-- A loaded document. -/
structure Document where
  root : Document.Tree
  /-- What was repaired while the markup was read, in order. -/
  diagnostics : List Diagnostic
  /-- The number of elements, the root included. -/
  elementCount : Nat
  /-- The nodes by number. -/
  table : Document.Table
  table_eq : table = Document.Table.ofTree root

namespace Document

/-- The document of a loaded tree. -/
def ofTree (root : Tree) (elementCount : Nat) (diagnostics : List Diagnostic) : Document :=
  { root := root, diagnostics := diagnostics, elementCount := elementCount
    table := Table.ofTree root, table_eq := rfl }

/-- Reads markup with the given options. -/
def parseWith (o : Options) (html : String) : Document :=
  let parsed := Html.parse html
  let (root, count) := load o parsed.root
  ofTree root count
    (if o.noWarnings then [] else parsed.issues.map fun i => { message := i.message })

/-- Reads markup with the default options. -/
def parse (html : String) : Document :=
  parseWith {} html

end Document

end MarkupQuery
