import MarkupQuery.Proofs.Document.Comments
import MarkupQuery.Proofs.Document.Elements
import MarkupQuery.Proofs.Selector.Options

/-!
# Documents without comments

Markup that is loaded without its comments gives the tree that it gives with them, but for the
comments, and the same elements: `Document.SameElements` pairs the elements of two documents in
document order and says what the two of a pair have in common. Both are said of any tree that markup
describes and of any markup (`Document.load_without_comments`).
-/

namespace MarkupQuery.Document

/-- Pairs that go through the elements of two documents in document order. The two of a pair have
the same name, the same attributes and the same text, and they are in two elements that are a pair,
or else both in the document node, which is number 0. -/
structure SameElements (d₁ d₂ : Document) (pairs : List (NodeId × NodeId)) : Prop where
  fst : pairs.map Prod.fst = d₁.table.elements
  snd : pairs.map Prod.snd = d₂.table.elements
  elementName_eq : ∀ p ∈ pairs, d₁.elementName? p.1 = d₂.elementName? p.2
  attributes_eq : ∀ p ∈ pairs, d₁.attributes p.1 = d₂.attributes p.2
  text_eq : ∀ p ∈ pairs, d₁.text p.1 = d₂.text p.2
  parents : ∀ p ∈ pairs, (d₁.table.parent p.1, d₂.table.parent p.2) ∈ (0, 0) :: pairs

variable {o₁ o₂ : Options} {d₁ d₂ : Document}

/-- **Documents that are alike have the same elements**, if blank texts are treated alike. -/
theorem exists_sameElements (h : d₁.root.Alike (SameText o₁ o₂) d₂.root)
    (hblanks : o₁.noBlanks = o₂.noBlanks) : ∃ pairs, SameElements d₁ d₂ pairs := by
  obtain ⟨ps, hpairing⟩ := Place.exists_pairing_document h
  have hfst : ps.map Prod.fst = (Place.document d₁.root).below.filter Place.isContainer :=
    (List.cons.inj hpairing.fst).2
  have hsnd : ps.map Prod.snd = (Place.document d₂.root).below.filter Place.isContainer :=
    (List.cons.inj hpairing.snd).2
  have hbelow : ∀ p ∈ ps, p.1 ∈ (Place.document d₁.root).below := by
    intro p hp
    have hmem : p.1 ∈ ps.map Prod.fst := List.mem_map_of_mem hp
    rw [hfst] at hmem
    exact List.mem_of_mem_filter hmem
  have hlists : ∀ q ∈ (Place.document d₁.root, Place.document d₂.root) :: ps,
      d₁.table.Lists q.1 ∧ d₂.table.Lists q.2 :=
    fun q hq => (hpairing.mem hq).imp lists_of_mem lists_of_mem
  have hsame : ∀ p ∈ ps, SameNode o₁ o₂ d₁ d₂ p.1.number p.2.number := by
    intro p hp
    have hmem := List.mem_cons_of_mem (Place.document d₁.root, Place.document d₂.root) hp
    have halike := hpairing.alike p hmem
    obtain ⟨name, hname⟩ :=
      (Place.isContainer_iff_of_mem_below (hbelow p hp)).1 halike.isContainer.1
    exact sameNode_number (hlists p hmem).1 (hlists p hmem).2 halike hname
  refine ⟨ps.map (Prod.map Place.number Place.number), ?_, ?_, ?_, ?_, ?_, ?_⟩
  · rw [d₁.table_eq, Table.elements_ofTree, ← hfst, List.map_map, List.map_map]
    rfl
  · rw [d₂.table_eq, Table.elements_ofTree, ← hsnd, List.map_map, List.map_map]
    rfl
  · exact List.forall_mem_map.2 fun p hp => (hsame p hp).elementName_eq
  · exact List.forall_mem_map.2 fun p hp => (hsame p hp).attributes_eq
  · exact List.forall_mem_map.2 fun p hp => (hsame p hp).text.eq hblanks
  · refine List.forall_mem_map.2 fun p hp => ?_
    obtain ⟨q, hq, hchild, hchild'⟩ :=
      hpairing.exists_parents (List.mem_cons_of_mem _ hp) (hbelow p hp)
    have hparent : d₁.table.parent p.1.number = q.1.number :=
      Table.parent_of_mem_children (hlists q hq).1 hchild
    have hparent' : d₂.table.parent p.2.number = q.2.number :=
      Table.parent_of_mem_children (hlists q hq).2 hchild'
    rw [Prod.map_fst, Prod.map_snd, hparent, hparent']
    exact List.mem_map_of_mem (f := Prod.map Place.number Place.number) hq

/-- **Loading without comments** is loading with comments and then leaving these out, texts around
them joined, for any tree that markup describes. The elements stay, in the same order and one within
the other as they were, with their names, their attributes and their texts. So it is with the
documents that are read from markup. -/
theorem load_without_comments (o : Options) :
    (∀ (root : Html.Node) (diagnostics : List Diagnostic),
        let kept := load { o with keepComments := true } root
        let bare := load { o with keepComments := false } root
        bare.1 = kept.1.dropComments ∧
          ∃ pairs, SameElements (ofTree kept.1 kept.2 diagnostics)
            (ofTree bare.1 bare.2 diagnostics) pairs) ∧
      ∀ html : String,
        let kept := parseWith { o with keepComments := true } html
        let bare := parseWith { o with keepComments := false } html
        bare.root = kept.root.dropComments ∧ ∃ pairs, SameElements kept bare pairs := by
  have htree (root : Html.Node) : (load { o with keepComments := false } root).1 =
      (load { o with keepComments := true } root).1.dropComments := by
    rw [load_fst, load_fst, dropComments_imageOf]
  have halike (root : Html.Node) :
      Tree.Alike (SameText { o with keepComments := true } { o with keepComments := false })
        (load { o with keepComments := true } root).1
        (load { o with keepComments := false } root).1 := by
    rw [load_fst, load_fst]
    exact alike_imageOf _ _ root
  refine ⟨fun root diagnostics => ?_, fun html => ?_⟩
  · exact ⟨htree root, exists_sameElements (halike root) rfl⟩
  · exact ⟨htree (Html.parse html).root, exists_sameElements (halike (Html.parse html).root) rfl⟩

end MarkupQuery.Document
