import MarkupQuery.Proofs.Query.Likeness
import MarkupQuery.Proofs.Selector.Chain

/-!
# Options do not change what is selected

Markup that is loaded with other options gives the same elements. So a chain selects as many
elements, and each has the name and the attributes of its counterpart and, up to white space, its
text (`Selector.sameNode_of_options`): the two documents are alike (`alike_imageOf`), and a path
cannot tell them apart (`Query.forall₂_alike_of_mem_chosen`).
-/

namespace MarkupQuery

open Query (Call Builder)
open Document (Place Options)
open XPath (Surroundings)

/-! ## Nodes that are the same -/

namespace Document

/-- Nodes of two documents that are the same element, but for what the options drop of its text. -/
structure SameNode (o₁ o₂ : Options) (d₁ d₂ : Document) (n₁ n₂ : NodeId) : Prop where
  isElement : (d₁.elementName? n₁).isSome = true
  elementName_eq : d₁.elementName? n₁ = d₂.elementName? n₂
  attributes_eq : d₁.attributes n₁ = d₂.attributes n₂
  text : SameText o₁ o₂ (d₁.text n₁) (d₂.text n₂)

variable {o₁ o₂ : Options} {d₁ d₂ : Document} {x y : Place}

/-- The nodes of places that are alike. -/
theorem sameNode_number (hx : d₁.table.Lists x) (hy : d₂.table.Lists y)
    (h : Place.Alike (SameText o₁ o₂) x y) {name : String} (hname : x.kind = .element name) :
    SameNode o₁ o₂ d₁ d₂ x.number y.number := by
  have hkind : d₁.table.kind x.number = .element name := (Table.kind_number hx).trans hname
  have hkind' : d₂.table.kind y.number = .element name :=
    (Table.kind_number hy).trans (h.kind_eq.symm.trans hname)
  have helement : d₁.table.isElement x.number = true := by rw [Table.isElement, hkind]
  have helement' : d₂.table.isElement y.number = true := by rw [Table.isElement, hkind']
  refine ⟨?_, ?_, ?_, ?_⟩
  · rw [elementName?, hkind]
    rfl
  · rw [elementName?, elementName?, hkind, hkind']
  · rw [attributes, attributes, if_pos helement, if_pos helement', Table.attributes_number hx,
      Table.attributes_number hy, h.attributes_eq]
  · rw [text, text, Table.text_number hx, Table.text_number hy]
    exact h.same_text

/-- **The number of elements** does not depend on the options. -/
theorem elementCount_parseWith (o₁ o₂ : Options) (html : String) :
    (parseWith o₁ html).elementCount = (parseWith o₂ html).elementCount := by
  have hcount (o : Options) :
      (parseWith o html).elementCount = (load o (Html.parse html).root).2 := rfl
  rw [hcount, hcount]
  cases (Html.parse html).root with
  | element name attributes children => rw [load_element, load_element]
  | _ => rfl

end Document

/-! ## Selections that are the same -/

namespace Selector

/-- **Options do not change what is selected.** Let the same markup be loaded with any two options,
and let a chain have names for its tags, or stars, and its attributes, and values without quotes. A
chain of no calls fails on both documents. Any other one is answered on both, each in surroundings
of its own, by as many elements, of which the one is like the other at each place of the answer: it
has the same name and the same attributes, and the same text up to white space, or just the same
text if the options treat blank texts alike. And both documents have as many elements. -/
theorem sameNode_of_options (o₁ o₂ : Options) (html : String) (w₁ w₂ : Surroundings)
    {cs : List Call} (hcs : ∀ c ∈ cs, c.isSimple = true) :
    (cs = [] → (((withOptions o₁ html).calls cs).select w₁).1 = .error .emptyQuery ∧
        (((withOptions o₂ html).calls cs).select w₂).1 = .error .emptyQuery) ∧
      (cs ≠ [] → ∃ found₁ found₂,
        (((withOptions o₁ html).calls cs).select w₁).1 = .ok found₁ ∧
        (((withOptions o₂ html).calls cs).select w₂).1 = .ok found₂ ∧
        found₁.query = found₂.query ∧
        List.Forall₂
          (Document.SameNode o₁ o₂ (Document.parseWith o₁ html) (Document.parseWith o₂ html))
          found₁.nodes found₂.nodes) ∧
      (Document.parseWith o₁ html).elementCount = (Document.parseWith o₂ html).elementCount := by
  refine ⟨?_, fun hne => ?_, Document.elementCount_parseWith o₁ o₂ html⟩
  · rintro rfl
    exact ⟨rfl, rfl⟩
  · have hnames : ∀ c ∈ cs, c.isWellNamed = true :=
      fun c hc => Call.isWellNamed_of_isSimple (hcs c hc)
    have hselect (o : Options) (w : Surroundings) :=
      select_calls (Document.parseWith o html) w (Document.distinct_parseWith o html) hne hnames
    rw [Call.map_quoted_of_isSimple hcs] at hselect
    obtain ⟨found₁, hselect₁, hsorted₁, hfound₁⟩ := hselect o₁ w₁
    obtain ⟨found₂, hselect₂, hsorted₂, hfound₂⟩ := hselect o₂ w₂
    have halike : (Document.parseWith o₁ html).root.Alike (Document.SameText o₁ o₂)
        (Document.parseWith o₂ html).root := by
      rw [Document.root_parseWith, Document.root_parseWith]
      exact Document.alike_imageOf o₁ o₂ (Html.parse html).root
    obtain ⟨ps, hpairing⟩ := Place.exists_pairing_document halike
    have hpairs := Query.forall₂_alike_of_mem_chosen hpairing List.mem_cons_self
      (List.pairwise_map.1 hsorted₁) hfound₁ (List.pairwise_map.1 hsorted₂) hfound₂
    refine ⟨_, _, hselect₁, hselect₂, rfl, ?_⟩
    rw [List.forall₂_map_left_iff, List.forall₂_map_right_iff]
    refine hpairs.imp fun x y hxy => ?_
    obtain ⟨hx, hy, hxy⟩ := hxy
    obtain ⟨name, hname⟩ :=
      Query.exists_kind_of_mem_chosen (Builder.selections_calls_ne_nil hne) ((hfound₁ x).1 hx)
    exact Document.sameNode_number (Document.lists_of_mem_chosen ((hfound₁ x).1 hx))
      (Document.lists_of_mem_chosen ((hfound₂ y).1 hy)) hxy hname

/-- Markup with blanks and a comment, loaded as it is and without these. -/
theorem sameNode_of_options_of_blanks :
    (∀ c ∈ [Call.tag "ul", .childTag "li"], c.isSimple = true) ∧
      ∃ found₁ found₂,
        ((withOptions {} "<ul> <li>a<!-- b -->c <i>d</i></ul>").calls
          [.tag "ul", .childTag "li"]).select.1 = .ok found₁ ∧
        ((withOptions { noBlanks := true, keepComments := false }
          "<ul> <li>a<!-- b -->c <i>d</i></ul>").calls [.tag "ul", .childTag "li"]).select.1 =
            .ok found₂ ∧
        List.Forall₂ (Document.SameNode {} { noBlanks := true, keepComments := false }
          (Document.parseWith {} "<ul> <li>a<!-- b -->c <i>d</i></ul>")
          (Document.parseWith { noBlanks := true, keepComments := false }
            "<ul> <li>a<!-- b -->c <i>d</i></ul>")) found₁.nodes found₂.nodes := by
  have hcs : ∀ c ∈ [Call.tag "ul", .childTag "li"], c.isSimple = true := by decide
  obtain ⟨-, hselect, -⟩ := sameNode_of_options {} { noBlanks := true, keepComments := false }
    "<ul> <li>a<!-- b -->c <i>d</i></ul>" {} {} hcs
  obtain ⟨found₁, found₂, hfound₁, hfound₂, -, hnodes⟩ := hselect (by simp)
  exact ⟨hcs, found₁, found₂, hfound₁, hfound₂, hnodes⟩

end Selector

end MarkupQuery
