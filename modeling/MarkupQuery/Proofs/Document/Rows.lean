import MarkupQuery.Proofs.Document.Places

/-!
# The rows of a table are its places

`Table.ofTree` writes a tree down as rows, and asks about nodes are answered from these. Here the
answers are told by places instead: what a node is (`Table.kind_number`), what lies below it
(`Table.descendants_number`), its children (`Table.children_number`) and its attributes
(`Table.attributes_number`). Each is proved for any table that holds the rows of the place
(`Table.Lists`), so that it passes from a place to those below it.
-/

namespace MarkupQuery.Document.Table

open MarkupQuery.Document.Tree (sizeAll)
open Place (siblings listing listingAll)

/-! ## Numbers of rows -/

theorem length_attributeRows (parent rank : Nat) (attributes : List (String × String)) :
    (attributeRows parent rank attributes).length = attributes.length := by
  induction attributes generalizing rank with
  | nil => rfl
  | cons a attributes ih => simp [attributeRows, ih]

mutual

theorem length_treeRows (parent rank : Nat) (t : Tree) :
    (treeRows parent rank t).length = t.size := by
  cases t with
  | element name attributes children =>
    simp only [treeRows, List.length_cons, List.length_append, length_attributeRows,
      length_treeRowsAll, Tree.size]
    omega
  | text s => rfl
  | comment s => rfl

theorem length_treeRowsAll (parent rank : Nat) (ts : List Tree) :
    (treeRowsAll parent rank ts).length = sizeAll ts := by
  match ts with
  | [] => rfl
  | t :: ts =>
    rw [treeRowsAll, List.length_append, length_treeRows, length_treeRowsAll, sizeAll]

end

/-! ## Rows in a table -/

variable {t : Table}

/-- Rows stand in a table, the first of them at a given number. -/
def Holds (t : Table) : Nat → List Row → Prop
  | _, [] => True
  | n, r :: rs => t.rows[n]? = some r ∧ t.Holds (n + 1) rs

theorem holds_append {n : Nat} {rs ss : List Row} :
    t.Holds n (rs ++ ss) ↔ t.Holds n rs ∧ t.Holds (n + rs.length) ss := by
  induction rs generalizing n with
  | nil => simp [Holds]
  | cons r rs ih => simp [Holds, ih, and_assoc, Nat.add_assoc, Nat.add_comm 1]

theorem holds_of_drop {n : Nat} {rs : List Row} (h : t.rows.toList.drop n = rs) :
    t.Holds n rs := by
  induction rs generalizing n with
  | nil => trivial
  | cons r rs ih =>
    constructor
    · rw [← Array.getElem?_toList, ← Nat.add_zero n, ← List.getElem?_drop, h]
      rfl
    · refine ih ?_
      rw [← List.drop_drop, h]
      rfl

theorem row_of_holds {n : Nat} {r : Row} {rs : List Row} (h : t.Holds n (r :: rs)) :
    t.row n = r := by
  rw [row, h.1]
  rfl

theorem lt_size_of_holds {n : Nat} {r : Row} {rs : List Row} (h : t.Holds n (r :: rs)) :
    n < t.size :=
  (Array.getElem?_eq_some_iff.1 h.1).1

/-- A table holds the rows of a place. -/
def Lists (t : Table) : Place → Prop
  | .document root =>
    t.Holds 0 ({ kind := .document, parent := 0, stop := root.size + 1 } :: treeRows 0 1 root)
  | .inner n tree => ∃ parent, t.Holds n (treeRows parent n tree)

/-- The table of a tree holds the rows of its document. -/
theorem lists_ofTree (root : Tree) : (ofTree root).Lists (.document root) := by
  refine holds_of_drop ?_
  simp [ofTree, length_treeRows]

theorem lists_of_mem_siblings {parent n : Nat} {ts : List Tree} {x : Place}
    (h : t.Holds n (treeRowsAll parent n ts)) (hx : x ∈ siblings n ts) : t.Lists x := by
  induction ts generalizing n with
  | nil => simp [siblings] at hx
  | cons tree ts ih =>
    rw [treeRowsAll, holds_append, length_treeRows] at h
    rcases List.mem_cons.1 hx with rfl | hx
    · exact ⟨parent, h.1⟩
    · exact ih h.2 hx

/-- The rows of an element: its own, those of its attributes, and those of its content. -/
theorem holds_element {n parent : Nat} {name : String} {attributes : List (String × String)}
    {children : List Tree} (h : t.Holds n (treeRows parent n (.element name attributes children))) :
    t.row n = { kind := .element name, parent := parent
                stop := n + 1 + attributes.length + sizeAll children } ∧
      t.Holds (n + 1) (attributeRows n (n + 1) attributes) ∧
      t.Holds (n + 1 + attributes.length)
        (treeRowsAll n (n + 1 + attributes.length) children) := by
  rw [treeRows] at h
  refine ⟨?_, ?_⟩
  · rw [row_of_holds h, length_treeRowsAll]
  · have := holds_append.1 h.2
    rwa [length_attributeRows] at this

/-- The rows of a document: its own, and those of its element. -/
theorem holds_document {root : Tree} (h : t.Lists (.document root)) :
    t.stop 0 = root.size + 1 ∧ t.Holds 1 (treeRowsAll 0 1 [root]) := by
  constructor
  · rw [stop, row_of_holds h]
  · simpa [treeRowsAll] using h.2

theorem lists_of_mem_children {x y : Place} (h : t.Lists x) (hy : y ∈ x.children) : t.Lists y := by
  cases x with
  | document root =>
    obtain rfl := List.mem_singleton.1 hy
    exact ⟨0, h.2⟩
  | inner n tree =>
    obtain ⟨parent, h⟩ := h
    cases tree with
    | element name attributes children => exact lists_of_mem_siblings (holds_element h).2.2 hy
    | text s => simp [Place.children] at hy
    | comment s => simp [Place.children] at hy

/-- **What lies below a place is listed with it.** -/
theorem lists_of_mem_below {x y : Place} (h : t.Lists x) (hy : y ∈ x.below) : t.Lists y := by
  have hbelow := Place.mem_below_iff.1 hy
  clear hy
  induction hbelow with
  | single hy => exact lists_of_mem_children h hy
  | tail _ hy ih => exact lists_of_mem_children ih hy

/-! ## Nodes by themselves -/

theorem number_lt_size {x : Place} (h : t.Lists x) : x.number < t.size := by
  cases x with
  | document root => exact lt_size_of_holds h
  | inner n tree =>
    obtain ⟨parent, h⟩ := h
    cases tree <;> exact lt_size_of_holds h

theorem kind_number {x : Place} (h : t.Lists x) : t.kind x.number = x.kind := by
  rw [kind]
  cases x with
  | document root =>
    rw [Place.number, row_of_holds h]
    rfl
  | inner n tree =>
    obtain ⟨parent, h⟩ := h
    rw [Place.number]
    cases tree with
    | element name attributes children =>
      rw [(holds_element h).1]
      rfl
    | text s =>
      rw [row_of_holds h]
      rfl
    | comment s =>
      rw [row_of_holds h]
      rfl

/-- No place is an attribute. -/
theorem isAttribute_number {x : Place} (h : t.Lists x) : t.isAttribute x.number = false := by
  rw [isAttribute, kind_number h]
  cases x with
  | document root => rfl
  | inner n tree => cases tree <;> rfl

/-! ## Attributes -/

/-- The rows of attributes, one by one. -/
theorem row_attribute {parent n : Nat} {attributes : List (String × String)}
    (h : t.Holds n (attributeRows parent n attributes)) {i : Nat} (hi : i < attributes.length) :
    t.row (n + i) =
      { kind := .attr attributes[i].1 attributes[i].2, parent := parent, stop := n + i + 1 } := by
  induction attributes generalizing n i with
  | nil => simp at hi
  | cons a attributes ih =>
    cases i with
    | zero => exact row_of_holds h
    | succ i =>
      have := ih h.2 (Nat.lt_of_succ_lt_succ hi)
      rw [Nat.add_assoc, Nat.add_comm 1] at this
      exact this

theorem kind_attribute {parent n m : Nat} {attributes : List (String × String)}
    (h : t.Holds n (attributeRows parent n attributes))
    (hm : m ∈ List.range' n attributes.length) :
    t.isAttribute m = true ∧ t.parent m = parent := by
  obtain ⟨i, hi, rfl⟩ := List.mem_range'.1 hm
  rw [Nat.one_mul]
  simp [isAttribute, kind, Table.parent, row_attribute h hi]

/-- Asks about nodes that are no attributes pass over them. -/
theorem filter_attributes {parent n : Nat} {attributes : List (String × String)}
    (h : t.Holds n (attributeRows parent n attributes)) :
    (List.range' n attributes.length).filter (fun m => !t.isAttribute m) = [] := by
  rw [List.filter_eq_nil_iff]
  intro m hm
  simp [(kind_attribute h hm).1]

/-! ## Below a place -/

/-- The numbers below an element: those of its attributes, and those of its content. -/
theorem between_element {n parent : Nat} {name : String} {attributes : List (String × String)}
    {children : List Tree} (h : t.Holds n (treeRows parent n (.element name attributes children))) :
    between (n + 1) (t.stop n) =
      List.range' (n + 1) attributes.length ++
        List.range' (n + 1 + attributes.length) (sizeAll children) := by
  rw [between, stop, (holds_element h).1, List.range'_append_1]
  congr 1
  simp only
  omega

mutual

theorem filter_listing {parent n : Nat} (tree : Tree) (h : t.Holds n (treeRows parent n tree)) :
    (List.range' n tree.size).filter (fun m => !t.isAttribute m) =
      (listing n tree).map Place.number := by
  have hfirst : t.isAttribute n = false := isAttribute_number (x := .inner n tree) ⟨parent, h⟩
  cases tree with
  | element name attributes children =>
    obtain ⟨-, hattributes, hcontent⟩ := holds_element h
    have hsize : (Tree.element name attributes children).size =
        (attributes.length + sizeAll children) + 1 := by
      rw [Tree.size]
      omega
    rw [hsize, List.range'_succ, List.filter_cons_of_pos (by simp [hfirst]),
      ← List.range'_append_1, List.filter_append, filter_attributes hattributes,
      filter_listingAll children hcontent]
    rfl
  | text s => simp [Tree.size, listing, hfirst, Place.number]
  | comment s => simp [Tree.size, listing, hfirst, Place.number]

/-- The numbers of content, attributes left out, are those of its places. -/
theorem filter_listingAll {parent n : Nat} (ts : List Tree)
    (h : t.Holds n (treeRowsAll parent n ts)) :
    (List.range' n (sizeAll ts)).filter (fun m => !t.isAttribute m) =
      (listingAll n ts).map Place.number := by
  match ts with
  | [] => rfl
  | tree :: ts =>
    rw [treeRowsAll, holds_append, length_treeRows] at h
    rw [sizeAll, ← List.range'_append_1, List.filter_append, filter_listing tree h.1,
      filter_listingAll ts h.2, listingAll, List.map_append]

end

/-- **What lies below a node** are the places below it. -/
theorem descendants_number {x : Place} (h : t.Lists x) :
    t.descendants x.number = x.below.map Place.number := by
  rw [descendants]
  cases x with
  | document root =>
    rw [Place.number, (holds_document h).1, between]
    exact filter_listing root h.2
  | inner n tree =>
    obtain ⟨parent, h⟩ := h
    rw [Place.number]
    cases tree with
    | element name attributes children =>
      obtain ⟨-, hattributes, hcontent⟩ := holds_element h
      rw [between_element h, List.filter_append, filter_attributes hattributes,
        filter_listingAll children hcontent]
      rfl
    | text s =>
      rw [stop, row_of_holds h]
      simp [between, Place.below]
    | comment s =>
      rw [stop, row_of_holds h]
      simp [between, Place.below]

/-! ## Children -/

/-- The parent of a tree's root. -/
theorem parent_number {parent n : Nat} {tree : Tree} (h : t.Holds n (treeRows parent n tree)) :
    t.parent n = parent := by
  rw [Table.parent]
  cases tree <;> rw [row_of_holds h]

mutual

/-- Within a tree, nothing has a parent before its root. -/
theorem le_parent_of_lt {parent n m : Nat} (tree : Tree) (h : t.Holds n (treeRows parent n tree))
    (hfirst : n < m) (hlast : m < n + tree.size) : n ≤ t.parent m := by
  cases tree with
  | element name attributes children =>
    obtain ⟨-, hattributes, hcontent⟩ := holds_element h
    rw [Tree.size] at hlast
    rcases Nat.lt_or_ge m (n + 1 + attributes.length) with hm | hm
    · exact Nat.le_of_eq (kind_attribute hattributes (List.mem_range'_1.2 ⟨hfirst, hm⟩)).2.symm
    · rcases parent_of_content children hcontent hm (by omega) with ⟨hparent, -⟩ | hparent
      · exact Nat.le_of_eq hparent.symm
      · omega
  | text s =>
    rw [Tree.size] at hlast
    omega
  | comment s =>
    rw [Tree.size] at hlast
    omega

/-- Within content a node is at the top, where it is no attribute, or has its parent in the
content. -/
theorem parent_of_content {parent n m : Nat} (ts : List Tree)
    (h : t.Holds n (treeRowsAll parent n ts)) (hfirst : n ≤ m) (hlast : m < n + sizeAll ts) :
    (t.parent m = parent ∧ t.isAttribute m = false) ∨ n ≤ t.parent m := by
  match ts with
  | [] =>
    rw [sizeAll] at hlast
    omega
  | tree :: ts =>
    rw [treeRowsAll, holds_append, length_treeRows] at h
    rw [sizeAll] at hlast
    rcases Nat.eq_or_lt_of_le hfirst with rfl | hfirst
    · exact .inl ⟨parent_number h.1, isAttribute_number (x := .inner n tree) ⟨parent, h.1⟩⟩
    · rcases Nat.lt_or_ge m (n + tree.size) with hm | hm
      · exact .inr (le_parent_of_lt tree h.1 hfirst hm)
      · rcases parent_of_content ts h.2 hm (by omega) with htop | hinner
        · exact .inl htop
        · exact .inr (by omega)

end

/-- Of the places of content, those at its top have the parent of the content. -/
theorem filter_parent_listingAll {parent n : Nat} {ts : List Tree}
    (h : t.Holds n (treeRowsAll parent n ts)) (hn : parent < n) :
    ((listingAll n ts).map Place.number).filter (fun m => t.parent m = parent) =
      (siblings n ts).map Place.number := by
  induction ts generalizing n with
  | nil => rfl
  | cons tree ts ih =>
    rw [treeRowsAll, holds_append, length_treeRows] at h
    have hfirst : decide (t.parent (Place.inner n tree).number = parent) = true :=
      decide_eq_true (parent_number h.1)
    have hnone : ((Place.inner n tree).below.map Place.number).filter
        (fun m => t.parent m = parent) = [] := by
      rw [List.filter_eq_nil_iff]
      intro m hm
      obtain ⟨x, hx, rfl⟩ := List.mem_map.1 hm
      have hlast := Place.number_mem_listing n tree (x := x) (by rw [Place.listing_eq]; simp [hx])
      have hfirst := List.rel_of_pairwise_cons (Place.pairwise_below _) hx
      have := le_parent_of_lt tree h.1 hfirst hlast.2
      simp only [decide_eq_true_eq]
      omega
    rw [listingAll, Place.listing_eq, List.map_append, List.map_cons, List.filter_append,
      List.filter_cons_of_pos (by exact hfirst), hnone, ih h.2 (by omega)]
    rfl

/-- **The children of a node** are those of its place. -/
theorem children_number {x : Place} (h : t.Lists x) :
    t.children x.number = x.children.map Place.number := by
  rw [Table.children, descendants_number h]
  cases x with
  | document root =>
    rw [Place.below_document]
    exact filter_parent_listingAll (holds_document h).2 Nat.one_pos
  | inner n tree =>
    obtain ⟨parent, h⟩ := h
    cases tree with
    | element name attributes children =>
      exact filter_parent_listingAll (holds_element h).2.2 (by rw [Place.number]; omega)
    | text s => rfl
    | comment s => rfl

theorem parent_of_mem_children {x y : Place} (h : t.Lists x) (hy : y ∈ x.children) :
    t.parent y.number = x.number := by
  have hchild : y.number ∈ t.children x.number := by
    rw [children_number h]
    exact List.mem_map_of_mem hy
  rw [Table.children, List.mem_filter, decide_eq_true_eq] at hchild
  exact hchild.2

/-! ## Attributes of a place -/

/-- No node of content is an attribute of the parent of the content. -/
theorem filter_attribute_content {parent n : Nat} {ts : List Tree}
    (h : t.Holds n (treeRowsAll parent n ts)) (hn : parent < n) :
    (List.range' n (sizeAll ts)).filter (fun m => t.isAttribute m && t.parent m = parent) = [] := by
  rw [List.filter_eq_nil_iff]
  intro m hm
  obtain ⟨hfirst, hlast⟩ := List.mem_range'_1.1 hm
  rcases parent_of_content ts h hfirst hlast with ⟨-, hattribute⟩ | hparent
  · simp [hattribute]
  · simp only [Bool.and_eq_true, decide_eq_true_eq, not_and]
    omega

/-- The numbers of the attributes of a node follow its own. -/
theorem attributeNodes_number {x : Place} (h : t.Lists x) :
    t.attributeNodes x.number = List.range' (x.number + 1) x.attributes.length := by
  rw [attributeNodes]
  cases x with
  | document root =>
    obtain ⟨hstop, hcontent⟩ := holds_document h
    have hsize : root.size + 1 - 1 = sizeAll [root] := rfl
    rw [Place.number, hstop, between, hsize, filter_attribute_content hcontent Nat.one_pos]
    rfl
  | inner n tree =>
    obtain ⟨parent, h⟩ := h
    rw [Place.number]
    cases tree with
    | element name attributes children =>
      obtain ⟨-, hattributes, hcontent⟩ := holds_element h
      have hall : (List.range' (n + 1) attributes.length).filter
          (fun m => t.isAttribute m && t.parent m = n) = List.range' (n + 1) attributes.length := by
        rw [List.filter_eq_self]
        intro m hm
        simp [kind_attribute hattributes hm]
      rw [between_element h, List.filter_append, hall,
        filter_attribute_content hcontent (by omega), List.append_nil]
      rfl
    | text s =>
      rw [stop, row_of_holds h]
      simp [between, Place.attributes]
    | comment s =>
      rw [stop, row_of_holds h]
      simp [between, Place.attributes]

/-- **The attributes of a node** are those of its place, in their order. -/
theorem map_kind_attributeNodes {x : Place} (h : t.Lists x) :
    (t.attributeNodes x.number).map t.kind = x.attributes.map fun a => .attr a.1 a.2 := by
  rw [attributeNodes_number h]
  cases x with
  | document root => rfl
  | inner n tree =>
    obtain ⟨parent, h⟩ := h
    cases tree with
    | element name attributes children =>
      obtain ⟨-, hattributes, -⟩ := holds_element h
      refine List.ext_getElem (by simp [Place.attributes]) fun i hi _ => ?_
      have hi : i < attributes.length := by simpa [Place.attributes] using hi
      simp [Place.number, Place.attributes, kind, row_attribute hattributes hi]
    | text s => rfl
    | comment s => rfl

/-- The name and the value of an attribute. -/
def nameAndValue : Kind → Option (String × String)
  | .attr name value => some (name, value)
  | _ => none

theorem attributes_number {x : Place} (h : t.Lists x) : t.attributes x.number = x.attributes := by
  have hread : t.attributes x.number =
      ((t.attributeNodes x.number).map t.kind).filterMap nameAndValue := by
    rw [List.filterMap_map]
    rfl
  rw [hread, map_kind_attributeNodes h, List.filterMap_map]
  simp [Function.comp_def, nameAndValue]

/-! ## Parents come first -/

mutual

/-- Within a tree, every node has its parent before it. -/
theorem parent_lt_of_tree {parent n m : Nat} (tree : Tree) (h : t.Holds n (treeRows parent n tree))
    (hparent : parent < n) (hfirst : n ≤ m) (hlast : m < n + tree.size) : t.parent m < m := by
  rcases Nat.eq_or_lt_of_le hfirst with rfl | hfirst
  · rwa [parent_number h]
  · cases tree with
    | element name attributes children =>
      obtain ⟨-, hattributes, hcontent⟩ := holds_element h
      rw [Tree.size] at hlast
      rcases Nat.lt_or_ge m (n + 1 + attributes.length) with hm | hm
      · rwa [(kind_attribute hattributes (List.mem_range'_1.2 ⟨hfirst, hm⟩)).2]
      · exact parent_lt_of_content children hcontent (by omega) hm (by omega)
    | text s =>
      rw [Tree.size] at hlast
      omega
    | comment s =>
      rw [Tree.size] at hlast
      omega

theorem parent_lt_of_content {parent n m : Nat} (ts : List Tree)
    (h : t.Holds n (treeRowsAll parent n ts)) (hparent : parent < n) (hfirst : n ≤ m)
    (hlast : m < n + sizeAll ts) : t.parent m < m := by
  match ts with
  | [] =>
    rw [sizeAll] at hlast
    omega
  | tree :: ts =>
    rw [treeRowsAll, holds_append, length_treeRows] at h
    rw [sizeAll] at hlast
    rcases Nat.lt_or_ge m (n + tree.size) with hm | hm
    · exact parent_lt_of_tree tree h.1 hparent hfirst hm
    · exact parent_lt_of_content ts h.2 (by omega) hm (by omega)

end

/-- Every node but the first has its parent before it. -/
def ParentsFirst (t : Table) : Prop :=
  ∀ n, 0 < n → n < t.size → t.parent n < n

/-! ## From nodes to places -/

theorem size_ofTree (root : Tree) : (ofTree root).size = root.size + 1 := by
  simp [size, ofTree, length_treeRows]

/-- **In a document parents come first.** -/
theorem parentsFirst_ofTree (root : Tree) : (ofTree root).ParentsFirst := by
  intro n hpos hn
  rw [size_ofTree] at hn
  refine parent_lt_of_content [root] (holds_document (lists_ofTree root)).2 Nat.one_pos hpos ?_
  simp only [sizeAll]
  omega

/-- A number that no node has is taken for an empty text. -/
theorem lt_size_of_kind_ne {n : Nat} (h : t.kind n ≠ .text "") : n < t.size := by
  by_contra hge
  have hnone : t.rows[n]? = none := Array.getElem?_eq_none (Nat.le_of_not_lt hge)
  exact h (by simp [kind, row, hnone])

theorem lt_size_of_isElement {n : Nat} (h : t.isElement n = true) : n < t.size :=
  lt_size_of_kind_ne fun hkind => by simp [isElement, hkind] at h

theorem lt_size_of_isAttribute {n : Nat} (h : t.isAttribute n = true) : n < t.size :=
  lt_size_of_kind_ne fun hkind => by simp [isAttribute, hkind] at h

end MarkupQuery.Document.Table
