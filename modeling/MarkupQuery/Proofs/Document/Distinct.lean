import MarkupQuery.Proofs.Document.Attributes
import MarkupQuery.Proofs.Document.Content
import MarkupQuery.Proofs.Document.Places

/-!
# Distinct names of attributes

No element of a loaded tree has two attributes of one name (`distinct_imageOf`), since loading joins
them, and so it is at every place of the document (`Place.nodup_attributes`).
-/

namespace MarkupQuery.Document

open MarkupQuery.Html (Node)

namespace Tree

mutual

/-- Whether no element of a tree has two attributes of one name. -/
def Distinct : Tree → Prop
  | .element _ attributes children => (attributes.map (·.1)).Nodup ∧ DistinctAll children
  | .text _ => True
  | .comment _ => True

/-- Whether no element of a list of trees has two attributes of one name. -/
def DistinctAll : List Tree → Prop
  | [] => True
  | t :: ts => Distinct t ∧ DistinctAll ts

end

theorem distinctAll_append {ts us : List Tree} :
    DistinctAll (ts ++ us) ↔ DistinctAll ts ∧ DistinctAll us := by
  induction ts with
  | nil => simp [DistinctAll]
  | cons t ts ih => simp [DistinctAll, ih, and_assoc]

theorem distinctAll_prependTree {t : Tree} {ts : List Tree} (ht : t.Distinct)
    (hts : DistinctAll ts) : DistinctAll (prependTree t ts) := by
  cases t with
  | element name attributes children => exact ⟨ht, hts⟩
  | comment s => exact ⟨ht, hts⟩
  | text s =>
    rcases ts with _ | ⟨u, ts⟩
    · exact ⟨ht, hts⟩
    · cases u with
      | text r => exact ⟨trivial, hts.2⟩
      | element name attributes children => exact ⟨ht, hts⟩
      | comment r => exact ⟨ht, hts⟩

/-- Joining texts touches no attributes. -/
theorem distinctAll_joinTexts {ts : List Tree} (h : DistinctAll ts) :
    DistinctAll (joinTexts ts) := by
  induction ts with
  | nil => exact h
  | cons t ts ih =>
    rw [joinTexts_cons]
    exact distinctAll_prependTree h.1 (ih h.2)

end Tree

open MarkupQuery.Document.Tree (Distinct DistinctAll)

mutual

theorem distinctAll_image (o : Options) (n : Node) : DistinctAll (image o n) := by
  cases n with
  | element name attributes children =>
    refine ⟨⟨nodup_joinAttributes attributes, ?_⟩, trivial⟩
    exact Tree.distinctAll_joinTexts (distinctAll_imageAll o children)
  | text s =>
    rw [image]
    split_ifs <;> simp [Tree.DistinctAll, Tree.Distinct]
  | comment s =>
    rw [image]
    split_ifs <;> simp [Tree.DistinctAll, Tree.Distinct]
  | fragment children => exact distinctAll_imageAll o children
  | other => trivial

theorem distinctAll_imageAll (o : Options) (ns : List Node) : DistinctAll (imageAll o ns) := by
  match ns with
  | [] => trivial
  | n :: ns =>
    exact Tree.distinctAll_append.2 ⟨distinctAll_image o n, distinctAll_imageAll o ns⟩

end

/-- **No element of an image has two attributes of one name.** -/
theorem distinct_imageOf (o : Options) (n : Node) : (imageOf o n).Distinct := by
  cases n with
  | element name attributes children =>
    refine ⟨nodup_joinAttributes attributes, ?_⟩
    exact Tree.distinctAll_joinTexts (distinctAll_imageAll o children)
  | _ => exact ⟨List.nodup_nil, trivial⟩

namespace Place

mutual

theorem nodup_of_mem_listing (n : Nat) (t : Tree) (h : t.Distinct) {x : Place}
    (hx : x ∈ listing n t) : (x.attributes.map (·.1)).Nodup := by
  cases t with
  | element name attributes children =>
    rcases List.mem_cons.1 hx with rfl | hx
    · exact h.1
    · exact nodup_of_mem_listingAll _ children h.2 hx
  | text s =>
    obtain rfl := List.mem_singleton.1 hx
    exact List.nodup_nil
  | comment s =>
    obtain rfl := List.mem_singleton.1 hx
    exact List.nodup_nil

theorem nodup_of_mem_listingAll (n : Nat) (ts : List Tree) (h : DistinctAll ts) {x : Place}
    (hx : x ∈ listingAll n ts) : (x.attributes.map (·.1)).Nodup := by
  match ts with
  | [] => simp [listingAll] at hx
  | t :: ts =>
    rw [listingAll, List.mem_append] at hx
    rcases hx with hx | hx
    · exact nodup_of_mem_listing n t h.1 hx
    · exact nodup_of_mem_listingAll _ ts h.2 hx

end

/-- **At no place of a document with distinct names two attributes have one name.** -/
theorem nodup_attributes {root : Tree} (h : root.Distinct) {x : Place}
    (hx : x ∈ document root :: (document root).below) : (x.attributes.map (·.1)).Nodup := by
  rcases List.mem_cons.1 hx with rfl | hx
  · exact List.nodup_nil
  · exact nodup_of_mem_listing 1 root h hx

end Place

end MarkupQuery.Document
