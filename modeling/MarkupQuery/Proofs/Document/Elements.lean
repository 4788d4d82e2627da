import MarkupQuery.Proofs.Document.Pairing

/-!
# The elements of a document

A table lists its elements by number (`Table.elements`). In the table of a tree these are the
numbers of the places that have an element of the tree (`Table.elements_ofTree`), so there are as
many as the tree has elements (`Table.length_elements_ofTree`).
-/

namespace MarkupQuery.Document

namespace Place

mutual

theorem length_filter_listing (n : Nat) (t : Tree) :
    ((listing n t).filter isContainer).length = t.elementCount := by
  cases t with
  | element name attributes children =>
    rw [listing, List.filter_cons_of_pos (by rfl), List.length_cons,
      length_filter_listingAll _ children, Tree.elementCount]
  | text s => rfl
  | comment s => rfl

/-- Each element of neighbouring trees has one place. -/
theorem length_filter_listingAll (n : Nat) (ts : List Tree) :
    ((listingAll n ts).filter isContainer).length = Tree.elementCountAll ts := by
  match ts with
  | [] => rfl
  | t :: ts =>
    rw [listingAll, List.filter_append, List.length_append, length_filter_listing n t,
      length_filter_listingAll _ ts, Tree.elementCountAll]

end

/-- Below a place there are inner places only. -/
theorem exists_inner_of_mem_children {x y : Place} (h : y ∈ x.children) :
    ∃ n t, y = inner n t := by
  have hsiblings (n : Nat) (ts : List Tree) (h : y ∈ siblings n ts) : ∃ n t, y = inner n t := by
    induction ts generalizing n with
    | nil => simp [siblings] at h
    | cons t ts ih =>
      rcases List.mem_cons.1 h with rfl | h
      · exact ⟨n, t, rfl⟩
      · exact ih _ h
  cases x with
  | document root => exact hsiblings _ _ h
  | inner n t =>
    cases t with
    | element name attributes children => exact hsiblings _ _ h
    | text s | comment s => simp [children] at h

theorem exists_inner_of_mem_below {x y : Place} (h : y ∈ x.below) : ∃ n t, y = inner n t := by
  obtain ⟨z, -, hz⟩ := Relation.TransGen.tail'_iff.1 (mem_below_iff.1 h)
  exact exists_inner_of_mem_children hz

/-- Below a place, the containers are the elements. -/
theorem isContainer_iff_of_mem_below {x y : Place} (h : y ∈ x.below) :
    y.isContainer = true ↔ ∃ name, y.kind = .element name := by
  obtain ⟨n, tree, rfl⟩ := exists_inner_of_mem_below h
  cases tree with
  | element name attributes children => exact ⟨fun _ => ⟨name, rfl⟩, fun _ => rfl⟩
  | text s | comment s => simp [kind, isContainer, Tree.isElement]

end Place

namespace Table

/-- The elements of a table, by number. -/
def elements (t : Table) : List Nat :=
  (List.range t.size).filter fun n => t.isElement n

theorem mem_elements_iff {t : Table} {n : Nat} : n ∈ t.elements ↔ t.isElement n = true := by
  rw [elements, List.mem_filter, List.mem_range]
  exact ⟨fun h => h.2, fun h => ⟨lt_size_of_isElement h, h⟩⟩

theorem pairwise_elements (t : Table) : t.elements.Pairwise (· < ·) :=
  List.pairwise_lt_range.filter _

theorem isAttribute_of_isElement {t : Table} {n : Nat} (h : t.isElement n = true) :
    t.isAttribute n = false := by
  rw [isElement] at h
  rw [isAttribute]
  split at h
  · rw [‹t.kind n = _›]
  · cases h

/-- An inner place is an element just if it is a container. -/
theorem isElement_number {t : Table} {n : Nat} {tree : Tree} (h : t.Lists (.inner n tree)) :
    t.isElement n = (Place.inner n tree).isContainer := by
  have hkind : t.kind n = (Place.inner n tree).kind := kind_number h
  rw [isElement, hkind]
  cases tree <;> rfl

/-- **The elements of a document** are those of its tree. -/
theorem elements_ofTree (root : Tree) :
    (ofTree root).elements =
      ((Place.document root).below.filter Place.isContainer).map Place.number := by
  have hlists := lists_ofTree root
  have hfirst : (ofTree root).isElement 0 = false := by
    have hkind : (ofTree root).kind 0 = .document := kind_number hlists
    rw [isElement, hkind]
  have hbelow : (ofTree root).descendants 0 = (Place.document root).below.map Place.number :=
    descendants_number hlists
  have hbetween : between (0 + 1) ((ofTree root).stop 0) = List.range' 1 root.size := by
    rw [between, (holds_document hlists).1]
    rfl
  rw [descendants, hbetween] at hbelow
  calc (ofTree root).elements
      = (List.range' 1 root.size).filter fun n => (ofTree root).isElement n := by
        rw [elements, size_ofTree, List.range_eq_range', List.range'_succ,
          List.filter_cons_of_neg (by simp [hfirst])]
    _ = ((List.range' 1 root.size).filter fun m => !(ofTree root).isAttribute m).filter
          fun n => (ofTree root).isElement n := by
        rw [List.filter_filter]
        refine List.filter_congr fun m _ => ?_
        cases hm : (ofTree root).isElement m with
        | false => rfl
        | true =>
          rw [isAttribute_of_isElement hm]
          rfl
    _ = ((Place.document root).below.filter Place.isContainer).map Place.number := by
        rw [hbelow, List.filter_map]
        congr 1
        refine List.filter_congr fun x hx => ?_
        obtain ⟨n, tree, rfl⟩ := Place.exists_inner_of_mem_below hx
        exact isElement_number (lists_of_mem_below hlists hx)

/-- **A document has as many elements as its tree.** -/
theorem length_elements_ofTree (root : Tree) :
    (ofTree root).elements.length = root.elementCount := by
  rw [elements_ofTree, List.length_map]
  exact Place.length_filter_listing 1 root

end Table

end MarkupQuery.Document
