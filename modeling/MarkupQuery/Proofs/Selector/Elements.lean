import MarkupQuery.Proofs.Document.Accounting
import MarkupQuery.Proofs.Document.Elements
import MarkupQuery.Proofs.Selector.Chain

/-!
# The number of elements

A document knows how many elements it has from the walk that loaded it. The query for all elements
gives as many nodes, the elements of its table in document order (`Document.evaluate_anyElement`),
and its tree has as many elements (`Document.elementCount_is_number_of_elements`).
-/

namespace MarkupQuery.Document

open Query (TagSelection chosen)

/-- The selection of any element. -/
def anyElement : TagSelection :=
  { key := "*.0", test := .any, axis := .descendant }

theorem fits_anyElement_iff {x : Place} :
    anyElement.fits x = true ↔ ∃ name, x.kind = .element name := by
  refine ⟨TagSelection.exists_kind_of_fits, ?_⟩
  rintro ⟨name, hname⟩
  rw [TagSelection.fits, hname]
  rfl

/-- Any element is chosen from a document. -/
theorem mem_chosen_anyElement_iff {root : Tree} {x : Place} :
    x ∈ chosen {.document root} [anyElement] ↔
      x ∈ (Place.document root).below.filter Place.isContainer := by
  have hreach : x ∈ chosen {.document root} [anyElement] ↔
      x ∈ (Place.document root).below ∧ ∃ name, x.kind = .element name := by
    rw [Place.mem_below_iff, ← fits_anyElement_iff]
    refine TagSelection.mem_reach_iff.trans ?_
    simp only [Set.mem_singleton_iff, exists_eq_left]
    rfl
  rw [hreach, List.mem_filter]
  exact and_congr_right fun hx => (Place.isContainer_iff_of_mem_below hx).symm

/-- **The query for all elements** is answered with all elements. -/
theorem evaluate_anyElement (d : Document) (w : XPath.Surroundings) (hdistinct : d.root.Distinct) :
    d.evaluate "//*" w = .ok d.table.elements := by
  have hnamed : ∀ s ∈ [anyElement], s.WellNamed := by
    intro s hs
    obtain rfl := List.mem_singleton.1 hs
    exact ⟨.inl rfl, nofun⟩
  obtain ⟨numbers, hevaluate, hsorted, hnumbers⟩ :=
    d.evaluate_path w hdistinct (List.cons_ne_nil anyElement []) hnamed
  have htext : Query.Path.text { selections := [anyElement].map TagSelection.quoted } = "//*" := by
    rfl
  rw [htext] at hevaluate
  rw [hevaluate]
  congr 1
  refine hsorted.eq_of_mem_iff (Table.pairwise_elements d.table) fun n => ?_
  rw [hnumbers, d.table_eq, Table.elements_ofTree, List.mem_map]
  exact exists_congr fun x => and_congr_left fun _ => mem_chosen_anyElement_iff

/-- **The number of elements of a document is right.** It is the number of nodes that the query for
all elements gives, in any surroundings, which are the elements of the table, each once and in
document order, and the number of elements of the loaded tree. As for the walk that counts: when it
has ended, each element that it made has been counted, and the tree has each of these once, so that
none was counted that is not in the tree, and none is there that was not counted. -/
theorem elementCount_is_number_of_elements (o : Options) (html : String)
    (w : XPath.Surroundings) :
    let d := parseWith o html
    d.evaluate "//*" w = .ok d.table.elements ∧
      d.table.elements.length = d.elementCount ∧
      d.root.elementCount = d.elementCount ∧
      d.table.elements.Pairwise (· < ·) ∧
      (∀ n, n ∈ d.table.elements ↔ d.table.isElement n = true) ∧
      ∀ name attributes children, (Html.parse html).root = .element name attributes children →
        let walk := Walk.run o (nodeCount (.element name attributes children))
          (.start attributes children)
        d.root = walk.element walk.drafts.size 0 ∧ d.elementCount = walk.count ∧ walk.tasks = [] ∧
          walk.count = walk.drafts.size ∧
          (walk.numbers walk.drafts.size 0).Perm (List.range walk.drafts.size) := by
  intro d
  have hcount : d.root.elementCount = d.elementCount := elementCount_load o (Html.parse html).root
  refine ⟨evaluate_anyElement d w (distinct_parseWith o html), ?_, hcount,
    Table.pairwise_elements d.table, fun n => Table.mem_elements_iff, ?_⟩
  · rw [d.table_eq, Table.length_elements_ofTree, hcount]
  · intro name attributes children hroot walk
    have hload : load o (Html.parse html).root =
        (walk.element walk.drafts.size 0, walk.count) := by
      rw [hroot]
      rfl
    exact ⟨congrArg Prod.fst hload, congrArg Prod.snd hload,
      Walk.perm_numbers_run o name attributes children⟩

end MarkupQuery.Document
