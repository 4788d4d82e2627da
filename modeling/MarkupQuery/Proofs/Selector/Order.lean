import MarkupQuery.Proofs.Selector.Chain
import MarkupQuery.Proofs.Selector.Results
import MarkupQuery.Proofs.XPath.Order

/-!
# Results in document order

A document passes on the nodes of a value as they come. They are in document order, each once, where
the form of the query's expression sees to it (`Document.keepsOrder`): the query of a chain with
well-formed names and quoted values is such a query, and so is any path, step, filter or operator
(`Selector.nodes_in_document_order`). A query that puts one value behind the other may give its
nodes in any order, and a node twice (`Selector.nodes_not_in_document_order`).
-/

namespace MarkupQuery

open Query (Call Builder Path TagSelection pathExpr)
open XPath (Surroundings)

namespace Document

/-- Whether a query keeps document order because of the form of its expression; a query that is
rejected does. -/
def keepsOrder (query : String) : Bool :=
  match compile query with
  | .ok e => e.keepsOrder
  | .error _ => true

/-- **A query that keeps order selects nodes in document order**, each once. -/
theorem pairwise_evaluate (d : Document) {w : Surroundings} {query : String}
    (hquery : keepsOrder query = true) {nodes : List NodeId}
    (h : d.evaluate query w = .ok nodes) : nodes.Pairwise (· < ·) := by
  obtain ⟨e, found, hcompile, hvalue, rfl⟩ := evaluate_eq_ok_iff.1 h
  rw [keepsOrder, hcompile] at hquery
  have hfirst : d.table.ParentsFirst := by
    rw [d.table_eq]
    exact Table.parentsFirst_ofTree d.root
  have hbound : XPath.Context.InOrder { item := .node d.table.root, surroundings := w } := by
    rintro b ⟨⟩
  have hfound : XPath.InOrder (XPath.Value.ofNodes found) :=
    XPath.inOrder_eval hfirst e hquery _ hbound _ hvalue
  rw [XPath.InOrder, XPath.filterMap_node?_ofNodes] at hfound
  exact List.pairwise_map.2 hfound

/-- The expression of a path keeps order. -/
theorem keepsOrder_pathExpr (selections : List TagSelection) :
    (pathExpr selections).keepsOrder = true := by
  induction selections using List.reverseRecOn with
  | nil => rfl
  | append_singleton selections s _ =>
    rw [pathExpr, List.foldl_concat, TagSelection.after]
    cases s.axis <;> rfl

/-- The text of a path with well-formed names keeps order, if the quotes in its values are
doubled. -/
theorem keepsOrder_path {selections : List TagSelection} (hne : selections ≠ [])
    (hnames : ∀ s ∈ selections, s.WellNamed) :
    keepsOrder (Path.text { selections := selections.map TagSelection.quoted }) = true := by
  have hcompile : compile (Path.text { selections := selections.map TagSelection.quoted }) =
      .ok (pathExpr selections) := by
    rw [compile, Query.parse_path hne hnames]
    simp only [Query.check_pathExpr]
  rw [keepsOrder, hcompile]
  exact keepsOrder_pathExpr selections

end Document

namespace Selector

/-- The nodes of a selection are those that its document gives for its query. -/
theorem evaluate_of_select {s : Selector} {w : Surroundings} {found : Selection}
    (h : (s.select w).1 = .ok found) : s.document.evaluate found.query w = .ok found.nodes := by
  rw [select_eq] at h
  cases hevaluate : s.document.evaluate s.builder.peek w with
  | error e =>
    rw [hevaluate] at h
    cases h
  | ok nodes =>
    rw [hevaluate] at h
    obtain rfl := Except.ok.inj h
    exact hevaluate

/-- **Results are in document order, each node once**, for all queries that keep order, in any
surroundings: those given to a document, and those that a selector builds. The queries of chains
with well-formed names and quoted values keep order. -/
theorem nodes_in_document_order (o : Document.Options) (html : String) (w : Surroundings) :
    (∀ query nodes, Document.keepsOrder query = true →
        (Document.parseWith o html).evaluate query w = .ok nodes → nodes.Pairwise (· < ·)) ∧
      (∀ (b : Builder) (found : Selection),
        (({ document := .parseWith o html, builder := b } : Selector).select w).1 = .ok found →
          Document.keepsOrder found.query = true → found.nodes.Pairwise (· < ·)) ∧
      ∀ cs : List Call, cs ≠ [] → (∀ c ∈ cs, c.isWellNamed = true) →
        Document.keepsOrder (Builder.new.calls (cs.map Call.quoted)).peek = true := by
  refine ⟨fun query nodes hquery h => ?_, fun b found h hquery => ?_, fun cs hne hnames => ?_⟩
  · exact Document.pairwise_evaluate _ hquery h
  · exact Document.pairwise_evaluate _ hquery (evaluate_of_select h)
  · rw [peek_calls_quoted]
    exact Document.keepsOrder_path (Builder.selections_calls_ne_nil hne)
      (Builder.wellNamed_calls hnames)

/-- Two paths united in the wrong order, all elements, and a value with a quote. -/
theorem nodes_in_document_order_of_union :
    (Document.parseWith {} "<p>x</p>").evaluate "//p | //head" = .ok [2, 4] ∧
      [2, 4].Pairwise (· < ·) ∧
      ((withOptions {} "<p>x</p>").call .selectAllTags).select.1 =
        .ok { query := "//*", nodes := [1, 2, 3, 4] } ∧
      [1, 2, 3, 4].Pairwise (· < ·) ∧
      Document.keepsOrder "//p[@id='it''s']" = true := by
  obtain ⟨hevaluate, hselect, hchain⟩ := nodes_in_document_order {} "<p>x</p>" {}
  have hunion : (Document.parseWith {} "<p>x</p>").evaluate "//p | //head" = .ok [2, 4] := by
    decide +kernel
  have hkeeps : Document.keepsOrder "//p | //head" = true := by decide +kernel
  have hall : ((withOptions {} "<p>x</p>").call .selectAllTags).select.1 =
      .ok { query := "//*", nodes := [1, 2, 3, 4] } := by
    decide +kernel
  have hkeepsAll : Document.keepsOrder "//*" = true := hchain [.selectAllTags] (by simp) (by decide)
  have htext : (Builder.new.calls
      ([Call.tag "p", .andAttribute "id" (some "it's")].map Call.quoted)).peek =
        "//p[@id='it''s']" := by decide
  refine ⟨hunion, hevaluate _ _ hkeeps hunion, hall, hselect _ _ hall hkeepsAll, ?_⟩
  rw [← htext]
  exact hchain _ (by simp) (by decide)

/-- A comma: the nodes of its right side come behind those of its left. -/
theorem nodes_not_in_document_order :
    (Document.parse "<p>x</p>").evaluate "//p, //head" = .ok [4, 2] ∧
      ¬ [4, 2].Pairwise (· < ·) ∧ Document.keepsOrder "//p, //head" = false := by
  refine ⟨?_, by decide, ?_⟩ <;> decide +kernel

end Selector

end MarkupQuery
