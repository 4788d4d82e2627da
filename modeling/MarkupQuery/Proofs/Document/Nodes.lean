import MarkupQuery.Proofs.Document.Distinct
import MarkupQuery.Proofs.Document.Rows

/-!
# From numbers back to the tree

Every node of a document is a place of its tree or an attribute of a place
(`Table.exists_place_or_attribute`), and its row says which (`Table.exists_standsFor`). So what a
table says of the attributes of a node holds for all nodes, if it holds at places: only elements
have attributes (`Table.attributes_eq_nil`), and those of one node have distinct names
(`Table.nodup_attributes`).
-/

namespace MarkupQuery.Document

namespace Place

mutual

theorem exists_of_mem_tree (n : Nat) (t : Tree) {m : Nat} (hfirst : n ≤ m)
    (hlast : m < n + t.size) :
    ∃ x ∈ listing n t, m = x.number ∨ ∃ i < x.attributes.length, m = x.number + 1 + i := by
  cases t with
  | element name attributes children =>
    rw [Tree.size] at hlast
    rcases Nat.lt_or_ge m (n + 1 + attributes.length) with hm | hm
    · refine ⟨_, List.mem_cons_self, ?_⟩
      rcases Nat.eq_or_lt_of_le hfirst with rfl | hfirst
      · exact .inl rfl
      · obtain ⟨i, rfl⟩ := Nat.exists_eq_add_of_le hfirst
        exact .inr ⟨i, Nat.lt_of_add_lt_add_left hm, rfl⟩
    · obtain ⟨x, hx, h⟩ := exists_of_mem_content _ children hm (by omega)
      exact ⟨x, List.mem_cons_of_mem _ hx, h⟩
  | text s | comment s =>
    rw [Tree.size] at hlast
    exact ⟨_, List.mem_singleton_self _, .inl (by rw [number]; omega)⟩

/-- Each number in the range of some trees is that of a place, or stands among the numbers that
follow it for its attributes. -/
theorem exists_of_mem_content (n : Nat) (ts : List Tree) {m : Nat} (hfirst : n ≤ m)
    (hlast : m < n + Tree.sizeAll ts) :
    ∃ x ∈ listingAll n ts, m = x.number ∨ ∃ i < x.attributes.length, m = x.number + 1 + i := by
  match ts with
  | [] =>
    rw [Tree.sizeAll] at hlast
    omega
  | t :: ts =>
    rw [Tree.sizeAll] at hlast
    rcases Nat.lt_or_ge m (n + t.size) with hm | hm
    · obtain ⟨x, hx, h⟩ := exists_of_mem_tree n t hfirst hm
      exact ⟨x, List.mem_append_left _ hx, h⟩
    · obtain ⟨x, hx, h⟩ := exists_of_mem_content _ ts hm (by omega)
      exact ⟨x, List.mem_append_right _ hx, h⟩

end

end Place

namespace Table

variable {t : Table} {root : Tree} {x : Place} {n : Nat}

/-- The row of an attribute of a place. -/
theorem row_attribute_number (h : t.Lists x) {i : Nat} (hi : i < x.attributes.length) :
    t.row (x.number + 1 + i) =
      { kind := .attr x.attributes[i].1 x.attributes[i].2, parent := x.number
        stop := x.number + 1 + i + 1 } := by
  cases x with
  | document root => simp [Place.attributes] at hi
  | inner n tree =>
    obtain ⟨parent, h⟩ := h
    cases tree with
    | element name attributes children => exact row_attribute (holds_element h).2.1 hi
    | text s | comment s => simp [Place.attributes] at hi

/-- **Every node of a document is a place or an attribute of a place.** -/
theorem exists_place_or_attribute (hn : n < (ofTree root).size) :
    ∃ x ∈ Place.document root :: (Place.document root).below,
      n = x.number ∨ ∃ i < x.attributes.length, n = x.number + 1 + i := by
  rcases Nat.eq_zero_or_pos n with rfl | hpos
  · exact ⟨.document root, List.mem_cons_self, .inl rfl⟩
  · rw [size_ofTree, Nat.add_comm] at hn
    obtain ⟨x, hx, h⟩ := Place.exists_of_mem_tree 1 root hpos hn
    exact ⟨x, List.mem_cons_of_mem _ hx, h⟩

/-- The table of a document lists its places. -/
theorem lists_of_mem_document (hx : x ∈ Place.document root :: (Place.document root).below) :
    (ofTree root).Lists x := by
  rcases List.mem_cons.1 hx with rfl | hx
  · exact lists_ofTree root
  · exact lists_of_mem_below (lists_ofTree root) hx

/-- What is no attribute is a place. -/
theorem exists_number_eq (hn : n < (ofTree root).size)
    (hattribute : (ofTree root).isAttribute n = false) :
    ∃ x ∈ Place.document root :: (Place.document root).below, x.number = n := by
  obtain ⟨x, hx, h⟩ := exists_place_or_attribute hn
  rcases h with rfl | ⟨i, hi, rfl⟩
  · exact ⟨x, hx, rfl⟩
  · rw [isAttribute, kind, row_attribute_number (lists_of_mem_document hx) hi] at hattribute
    cases hattribute

/-! ## What a number stands for -/

/-- What a node of a table stands for in a tree: a place, or an attribute of a place. -/
inductive StandsFor (t : Table) (n : Nat) (x : Place) : Prop
  | place (number_eq : n = x.number) (kind_eq : t.kind n = x.kind)
  | attribute (a : String × String) (mem : a ∈ x.attributes) (kind_eq : t.kind n = .attr a.1 a.2)
    (parent_eq : t.parent n = x.number)

/-- **Every node of a document stands for something in its tree**: the document node, what lies
below it, or an attribute of one of these. -/
theorem exists_standsFor (hn : n < (ofTree root).size) :
    ∃ x, (x = .document root ∨ (Place.document root).IsBelow x) ∧ (ofTree root).StandsFor n x := by
  obtain ⟨x, hx, h⟩ := exists_place_or_attribute hn
  have hlists := lists_of_mem_document hx
  rw [List.mem_cons, Place.mem_below_iff] at hx
  refine ⟨x, hx, ?_⟩
  rcases h with rfl | ⟨i, hi, rfl⟩
  · exact .place rfl (kind_number hlists)
  · have hrow := row_attribute_number hlists hi
    exact .attribute x.attributes[i] (List.getElem_mem hi) (by rw [kind, hrow])
      (by rw [Table.parent, hrow])

/-! ## Attributes of nodes -/

/-- An attribute has no attributes. -/
theorem attributes_attribute (h : t.Lists x) {i : Nat} (hi : i < x.attributes.length) :
    t.attributes (x.number + 1 + i) = [] := by
  have hstop : t.stop (x.number + 1 + i) = x.number + 1 + i + 1 := by
    rw [stop, row_attribute_number h hi]
  rw [attributes, attributeNodes, hstop, between, Nat.sub_self]
  rfl

/-- Only elements have attributes. -/
theorem attributes_eq_nil (hn : n < (ofTree root).size)
    (helement : (ofTree root).isElement n = false) : (ofTree root).attributes n = [] := by
  obtain ⟨x, hx, h⟩ := exists_place_or_attribute hn
  have hlists := lists_of_mem_document hx
  rcases h with rfl | ⟨i, hi, rfl⟩
  · rw [isElement, kind_number hlists] at helement
    rw [attributes_number hlists]
    cases x with
    | document root => rfl
    | inner n tree =>
      cases tree with
      | element name attributes children => cases helement
      | text s | comment s => rfl
  · exact attributes_attribute hlists hi

/-- **The attributes of a node have distinct names**, if it is so in the tree. -/
theorem nodup_attributes (hdistinct : root.Distinct) (hn : n < (ofTree root).size) :
    (((ofTree root).attributes n).map (·.1)).Nodup := by
  obtain ⟨x, hx, h⟩ := exists_place_or_attribute hn
  have hlists := lists_of_mem_document hx
  rcases h with rfl | ⟨i, hi, rfl⟩
  · rw [attributes_number hlists]
    exact Place.nodup_attributes hdistinct hx
  · rw [attributes_attribute hlists hi]
    exact List.nodup_nil

end Table

end MarkupQuery.Document
