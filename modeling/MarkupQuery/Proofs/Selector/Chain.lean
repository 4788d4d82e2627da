import Mathlib.Data.List.Sort
import MarkupQuery.Proofs.Document.Load
import MarkupQuery.Proofs.Document.Nodes
import MarkupQuery.Proofs.Query.Chains
import MarkupQuery.Proofs.Query.Evaluation
import MarkupQuery.Selector

/-!
# What a chain selects

A chain of calls on a selector builds the text of a path, and a terminal compiles and evaluates this
text. The answer is what the path means (`Query.chosen`): the places of the loaded document that its
selections choose, each once and in document order (`Selector.select_chain`).
-/

namespace MarkupQuery

open Query (Call chosen)
open Document (Place Tree)
open XPath (Surroundings)

/-! ## Documents -/

namespace Document

open Query (TagSelection Path pathExpr)

/-- The element of a document that was read from markup is an image. -/
theorem root_parseWith (o : Options) (html : String) :
    (parseWith o html).root = imageOf o (Html.parse html).root :=
  load_fst o (Html.parse html).root

theorem distinct_parseWith (o : Options) (html : String) : (parseWith o html).root.Distinct := by
  rw [root_parseWith]
  exact distinct_imageOf o (Html.parse html).root

theorem lists_table (d : Document) : d.table.Lists (.document d.root) := by
  rw [d.table_eq]
  exact Table.lists_ofTree d.root

/-- The table of a document lists all its places. -/
theorem lists_of_mem {d : Document} {x : Place}
    (h : x ∈ Place.document d.root :: (Place.document d.root).below) : d.table.Lists x := by
  rw [d.table_eq]
  exact Table.lists_of_mem_document h

/-- Increasing numbers of places are those of a list of places. -/
theorem exists_map_number_eq {root : Tree} {places : Set Place} {numbers : List Nat}
    (hplaces : ∀ x ∈ places, x ∈ Place.document root :: (Place.document root).below)
    (hsorted : numbers.Pairwise (· < ·))
    (hnumbers : ∀ n, n ∈ numbers ↔ ∃ x ∈ places, x.number = n) :
    ∃ found : List Place, found.map Place.number = numbers ∧ ∀ x, x ∈ found ↔ x ∈ places := by
  classical
  let all := Place.document root :: (Place.document root).below
  have hfound : ∀ x, x ∈ all.filter (· ∈ places) ↔ x ∈ places := by
    intro x
    rw [List.mem_filter, decide_eq_true_eq]
    exact ⟨fun h => h.2, fun h => ⟨hplaces x h, h⟩⟩
  refine ⟨all.filter (· ∈ places), ?_, hfound⟩
  have hfiltered : ((all.filter (· ∈ places)).map Place.number).Pairwise (· < ·) :=
    List.pairwise_map.2 ((Place.pairwise_below _).filter _)
  refine hfiltered.eq_of_mem_iff hsorted fun n => ?_
  rw [hnumbers, List.mem_map]
  exact exists_congr fun x => and_congr_left fun _ => hfound x

/-- The chosen places are places of the document. -/
theorem mem_of_mem_chosen {root : Tree} {selections : List TagSelection} {x : Place}
    (h : x ∈ chosen {.document root} selections) :
    x ∈ Place.document root :: (Place.document root).below := by
  rw [List.mem_cons, Place.mem_below_iff]
  exact Query.eq_or_isBelow_of_mem_chosen (fun z hz => .inl hz) h

theorem lists_of_mem_chosen {d : Document} {selections : List TagSelection} {x : Place}
    (h : x ∈ chosen {.document d.root} selections) : d.table.Lists x :=
  lists_of_mem (mem_of_mem_chosen h)

/-- The text of a path with selections is not empty. -/
theorem isEmpty_text {selections : List TagSelection} (hne : selections ≠ []) :
    (Path.text { selections := selections }).isEmpty = false := by
  obtain ⟨s, rest, rfl⟩ := List.exists_cons_of_ne_nil hne
  have hhead := Query.head_pathText_cons s rest
  rw [Bool.eq_false_iff, ne_eq, String.isEmpty_iff]
  intro hempty
  rw [hempty] at hhead
  simp at hhead

/-- **A document answers the text of a path with the chosen places**, by their numbers in
document order. -/
theorem evaluate_path (d : Document) (w : Surroundings) (hdistinct : d.root.Distinct)
    {selections : List TagSelection} (hne : selections ≠ [])
    (hnames : ∀ s ∈ selections, s.WellNamed) :
    ∃ numbers, d.evaluate (Path.text { selections := selections.map TagSelection.quoted }) w =
        .ok numbers ∧ numbers.Pairwise (· < ·) ∧
      ∀ n, n ∈ numbers ↔ ∃ x ∈ chosen {.document d.root} selections, x.number = n := by
  obtain ⟨nodes, hgives, hsorted, hmarks⟩ :=
    Query.exists_givesAt_pathExpr d.lists_table hdistinct selections
  have hvalue : (pathExpr selections).value { item := .node d.table.root, surroundings := w } =
      .ok (XPath.Value.ofNodes nodes) := hgives _ rfl
  have hcompile : compile (Path.text { selections := selections.map TagSelection.quoted }) =
      .ok (pathExpr selections) := by
    rw [compile, Query.parse_path hne hnames]
    simp only [Query.check_pathExpr]
  refine ⟨nodes.map fun n => n.val, ?_, List.pairwise_map.2 hsorted, fun n => ?_⟩
  · have hexecute : ∀ query, d.execute w query (pathExpr selections) =
        .ok (nodes.map fun n => n.val) := by
      intro query
      rw [execute, hvalue]
      simp only [XPath.nodes_ofNodes]
    rw [evaluate, isEmpty_text (by simpa using hne), if_neg (by simp), hcompile]
    exact hexecute _
  · rw [List.mem_map]
    constructor
    · rintro ⟨m, hm, rfl⟩
      exact (hmarks m).1 hm
    · rintro ⟨x, hx, rfl⟩
      exact ⟨XPath.nodeOf (lists_of_mem_chosen hx), (hmarks _).2 ⟨x, hx, rfl⟩, rfl⟩

end Document

/-! ## Selectors -/

namespace Selector

open Query (Builder)

/-- The selector after some calls. -/
def calls (s : Selector) (cs : List Call) : Selector :=
  cs.foldl call s

theorem calls_eq (s : Selector) (cs : List Call) :
    s.calls cs = { s with builder := s.builder.calls cs } := by
  induction cs generalizing s with
  | nil => rfl
  | cons c cs ih => exact ih (s.call c)

/-- A selector answers with what its document gives for the text of its query. -/
theorem select_eq (s : Selector) (w : Surroundings) :
    (s.select w).1 = (s.document.evaluate s.builder.peek w).map fun nodes =>
      { query := s.builder.peek, nodes := nodes } :=
  rfl

/-- A query that fails selects nothing. -/
theorem length_of_select {s : Selector} {w : Surroundings} {e : SelectError}
    (h : (s.select w).1 = .error e) : (s.length w).1 = 0 := by
  rw [length]
  dsimp only
  rw [h]

theorem length_of_select_ok {s : Selector} {w : Surroundings} {found : Selection}
    (h : (s.select w).1 = .ok found) : (s.length w).1 = found.nodes.length := by
  rw [length]
  dsimp only
  rw [h]
  rfl

theorem select_calls_eq (d : Document) (w : Surroundings) (cs : List Call) :
    (((ofDocument d).calls cs).select w).1 =
      (d.evaluate (Builder.new.calls cs).peek w).map fun nodes =>
        { query := (Builder.new.calls cs).peek, nodes := nodes } := by
  rw [select_eq, calls_eq]
  rfl

/-- The text of a chain whose quotes are doubled. -/
theorem peek_calls_quoted (cs : List Call) :
    (Builder.new.calls (cs.map Call.quoted)).peek =
      Query.Path.text
        { selections := (Builder.new.calls cs).selections.map Query.TagSelection.quoted } := by
  rw [← Builder.selections_calls_quoted]
  rfl

/-- A chain on a document without repeated names of attributes. -/
theorem select_calls (d : Document) (w : Surroundings) (hdistinct : d.root.Distinct)
    {cs : List Call} (hne : cs ≠ []) (hnames : ∀ c ∈ cs, c.isWellNamed = true) :
    ∃ found : List Place,
      (((ofDocument d).calls (cs.map Call.quoted)).select w).1 =
        .ok { query := (Builder.new.calls (cs.map Call.quoted)).peek
              nodes := found.map Place.number } ∧
      (found.map Place.number).Pairwise (· < ·) ∧
      ∀ x, x ∈ found ↔ x ∈ chosen {.document d.root} (Builder.new.calls cs).selections := by
  obtain ⟨numbers, hevaluate, hsorted, hnumbers⟩ :=
    d.evaluate_path w hdistinct (Builder.selections_calls_ne_nil hne)
      (Builder.wellNamed_calls hnames)
  obtain ⟨found, rfl, hfound⟩ := Document.exists_map_number_eq
    (fun x hx => Document.mem_of_mem_chosen hx) hsorted hnumbers
  refine ⟨found, ?_, hsorted, hfound⟩
  rw [select_calls_eq, peek_calls_quoted, hevaluate]
  rfl

/-- **What a chain selects.** A chain of calls with names for its tags, or stars, and its
attributes, and any values with their quotes doubled, is answered in any surroundings with the nodes
of the places that its selections choose from the document node, each once and in document order.
The node of a place is what the place is, with its attributes. -/
theorem select_chain (o : Document.Options) (html : String) (w : Surroundings) (cs : List Call)
    (hne : cs ≠ []) (hnames : ∀ c ∈ cs, c.isWellNamed = true) :
    ∃ found : List Place,
      (((withOptions o html).calls (cs.map Call.quoted)).select w).1 =
        .ok { query := (Builder.new.calls (cs.map Call.quoted)).peek
              nodes := found.map Place.number } ∧
      (found.map Place.number).Pairwise (· < ·) ∧
      (∀ x, x ∈ found ↔
        x ∈ chosen {.document (Document.parseWith o html).root} (Builder.new.calls cs).selections) ∧
      ∀ x ∈ found, (Document.parseWith o html).table.kind x.number = x.kind ∧
        (Document.parseWith o html).table.attributes x.number = x.attributes := by
  obtain ⟨found, hselect, hsorted, hfound⟩ :=
    select_calls _ w (Document.distinct_parseWith o html) hne hnames
  refine ⟨found, hselect, hsorted, hfound, fun x hx => ?_⟩
  have hlists := Document.lists_of_mem_chosen ((hfound x).1 hx)
  exact ⟨Document.Table.kind_number hlists, Document.Table.attributes_number hlists⟩

/-- A value with a quote, and an alternative. -/
theorem select_chain_of_quote :
    [Call.tag "li", .hasAttribute "id", .orAttribute "title" (some "it's"), .childTag "*"] ≠ [] ∧
      (∀ c ∈ [Call.tag "li", .hasAttribute "id", .orAttribute "title" (some "it's"),
        .childTag "*"], c.isWellNamed = true) ∧
      ∃ found : List Place,
        ((withOptions {} "<ul><li id=a><b>x</b><li title=it's><i>y</i></ul>").calls
          ([Call.tag "li", .hasAttribute "id", .orAttribute "title" (some "it's"),
            .childTag "*"].map Call.quoted)).select.1 =
          .ok { query := "//li[@id or @title='it''s']/*", nodes := found.map Place.number } := by
  refine ⟨by simp, by decide, ?_⟩
  obtain ⟨found, hselect, -⟩ := select_chain {}
    "<ul><li id=a><b>x</b><li title=it's><i>y</i></ul>" {}
    [Call.tag "li", .hasAttribute "id", .orAttribute "title" (some "it's"), .childTag "*"]
    (by simp) (by decide)
  exact ⟨found, hselect⟩

end Selector

end MarkupQuery
