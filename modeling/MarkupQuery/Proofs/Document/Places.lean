import Mathlib.Data.List.Nodup
import Mathlib.Logic.Relation
import MarkupQuery.Document.Table

/-!
# Places in a document

A place is a node of a document that is no attribute, with all that lies below it and its number in
document order. The children of a place are told by its tree alone (`Place.children`); what lies
below it, by following children (`Place.IsBelow`). `Place.below` lists the same places in document
order (`Place.mem_below_iff`, `Place.pairwise_below`).
-/

namespace MarkupQuery.Document

namespace Tree

mutual

/-- The number of nodes of a tree, attributes counted. -/
def size : Tree → Nat
  | .element _ attributes children => 1 + attributes.length + sizeAll children
  | .text _ => 1
  | .comment _ => 1

/-- The number of nodes of a list of trees, attributes counted. -/
def sizeAll : List Tree → Nat
  | [] => 0
  | t :: ts => size t + sizeAll ts

end

end Tree

/-- A node of a document that is no attribute. -/
inductive Place
  /-- The document node above a document element. -/
  | document (root : Tree)
  /-- A node of the tree with its number. -/
  | inner (number : Nat) (tree : Tree)

namespace Place

/-- The number of a place in document order. -/
def number : Place → Nat
  | document _ => 0
  | inner n _ => n

/-- What a place is. -/
def kind : Place → Kind
  | document _ => .document
  | inner _ (.element name _ _) => .element name
  | inner _ (.text s) => .text s
  | inner _ (.comment s) => .comment s

/-- The attributes of a place, in order; only elements have any. -/
def attributes : Place → List (String × String)
  | inner _ (.element _ attributes _) => attributes
  | _ => []

/-- The places of neighbouring trees, the first of which has a given number. -/
def siblings (first : Nat) : List Tree → List Place
  | [] => []
  | t :: ts => inner first t :: siblings (first + t.size) ts

/-- The children of a place, in order. Numbers are left out for the attributes of an element. -/
def children : Place → List Place
  | document root => siblings 1 [root]
  | inner n (.element _ attributes children) => siblings (n + 1 + attributes.length) children
  | inner _ (.text _) => []
  | inner _ (.comment _) => []

/-- Whether a place is a child of another one, or a child of a child, and so on. -/
def IsBelow (x y : Place) : Prop :=
  Relation.TransGen (fun a b => b ∈ a.children) x y

/-! ## The listing of places -/

mutual

/-- The places of a tree in document order. -/
def listing (n : Nat) : Tree → List Place
  | .element name attributes children =>
    inner n (.element name attributes children) :: listingAll (n + 1 + attributes.length) children
  | .text s => [inner n (.text s)]
  | .comment s => [inner n (.comment s)]

/-- The places of neighbouring trees in document order. -/
def listingAll (n : Nat) : List Tree → List Place
  | [] => []
  | t :: ts => listing n t ++ listingAll (n + t.size) ts

end

/-- The places below a place in document order. -/
def below : Place → List Place
  | document root => listing 1 root
  | inner n (.element _ attributes children) => listingAll (n + 1 + attributes.length) children
  | inner _ (.text _) => []
  | inner _ (.comment _) => []

theorem listing_eq (n : Nat) (t : Tree) : listing n t = inner n t :: (inner n t).below := by
  cases t <;> rfl

theorem below_document (root : Tree) : (document root).below = listingAll 1 [root] :=
  (List.append_nil _).symm

theorem mem_listingAll_iff {n : Nat} {ts : List Tree} {y : Place} :
    y ∈ listingAll n ts ↔ ∃ x ∈ siblings n ts, y = x ∨ y ∈ x.below := by
  induction ts generalizing n with
  | nil => simp [listingAll, siblings]
  | cons t ts ih => simp [listingAll, siblings, listing_eq, ih, or_and_right, exists_or, or_assoc]

/-- What lies below a place: its children, and what lies below them. -/
theorem mem_below_iff_child {x y : Place} :
    y ∈ x.below ↔ ∃ z ∈ x.children, y = z ∨ y ∈ z.below := by
  cases x with
  | document root =>
    rw [below, listing_eq]
    simp [children, siblings]
  | inner n t =>
    cases t with
    | element name attributes trees => exact mem_listingAll_iff
    | text s => simp [below, children]
    | comment s => simp [below, children]

mutual

theorem isBelow_of_mem_below (n : Nat) (t : Tree) {y : Place} (h : y ∈ (inner n t).below) :
    IsBelow (inner n t) y := by
  cases t with
  | element name attributes trees =>
    obtain ⟨x, hx, hy⟩ := exists_of_mem_listingAll _ trees h
    exact Relation.TransGen.head' (show x ∈ (inner n _).children from hx) hy
  | text s => simp [below] at h
  | comment s => simp [below] at h

theorem exists_of_mem_listingAll (n : Nat) (ts : List Tree) {y : Place}
    (h : y ∈ listingAll n ts) :
    ∃ x ∈ siblings n ts, Relation.ReflTransGen (fun a b => b ∈ a.children) x y := by
  match ts with
  | [] => simp [listingAll] at h
  | t :: ts =>
    rw [listingAll, listing_eq, List.mem_append, List.mem_cons] at h
    rcases h with (rfl | hy) | hy
    · exact ⟨_, List.mem_cons_self, .refl⟩
    · exact ⟨_, List.mem_cons_self, (isBelow_of_mem_below n t hy).to_reflTransGen⟩
    · obtain ⟨x, hx, hxy⟩ := exists_of_mem_listingAll _ ts hy
      exact ⟨x, List.mem_cons_of_mem _ hx, hxy⟩

end

/-- **The listing holds just what lies below.** -/
theorem mem_below_iff {x y : Place} : y ∈ x.below ↔ x.IsBelow y := by
  constructor
  · intro h
    cases x with
    | inner n t => exact isBelow_of_mem_below n t h
    | document root =>
      rw [below_document] at h
      obtain ⟨z, hz, hy⟩ := exists_of_mem_listingAll 1 [root] h
      exact Relation.TransGen.head' (show z ∈ (document root).children from hz) hy
  · intro h
    induction h using Relation.TransGen.head_induction_on with
    | single hy => exact mem_below_iff_child.2 ⟨y, hy, .inl rfl⟩
    | head hz _ ih => exact mem_below_iff_child.2 ⟨_, hz, .inr ih⟩

/-! ## The order of numbers -/

mutual

theorem number_mem_listing (n : Nat) (t : Tree) {x : Place} (h : x ∈ listing n t) :
    n ≤ x.number ∧ x.number < n + t.size := by
  cases t with
  | element name attributes trees =>
    rw [listing, List.mem_cons] at h
    rcases h with rfl | h
    · simp only [number, Tree.size]
      omega
    · have := number_mem_listingAll _ trees h
      rw [Tree.size]
      omega
  | text s =>
    obtain rfl := List.mem_singleton.1 h
    simp [number, Tree.size]
  | comment s =>
    obtain rfl := List.mem_singleton.1 h
    simp [number, Tree.size]

theorem number_mem_listingAll (n : Nat) (ts : List Tree) {x : Place} (h : x ∈ listingAll n ts) :
    n ≤ x.number ∧ x.number < n + Tree.sizeAll ts := by
  match ts with
  | [] => simp [listingAll] at h
  | t :: ts =>
    rw [listingAll, List.mem_append] at h
    rw [Tree.sizeAll]
    rcases h with h | h
    · have := number_mem_listing n t h
      omega
    · have := number_mem_listingAll _ ts h
      omega

end

mutual

theorem pairwise_listing (n : Nat) (t : Tree) :
    (listing n t).Pairwise fun x y => x.number < y.number := by
  cases t with
  | element name attributes trees =>
    refine List.pairwise_cons.2 ⟨fun y hy => ?_, pairwise_listingAll _ trees⟩
    have := number_mem_listingAll _ trees hy
    exact Nat.lt_of_lt_of_le (Nat.lt_succ_self n) (by omega)
  | text s => exact List.pairwise_singleton _ _
  | comment s => exact List.pairwise_singleton _ _

theorem pairwise_listingAll (n : Nat) (ts : List Tree) :
    (listingAll n ts).Pairwise fun x y => x.number < y.number := by
  match ts with
  | [] => exact List.Pairwise.nil
  | t :: ts =>
    refine List.pairwise_append.2 ⟨pairwise_listing n t, pairwise_listingAll _ ts, ?_⟩
    intro x hx y hy
    have := number_mem_listing n t hx
    have := number_mem_listingAll _ ts hy
    omega

end

/-- **The listing is in document order.** -/
theorem pairwise_below (x : Place) : (x :: x.below).Pairwise fun x y => x.number < y.number := by
  cases x with
  | inner n t =>
    rw [← listing_eq]
    exact pairwise_listing n t
  | document root =>
    refine List.pairwise_cons.2 ⟨fun y hy => ?_, pairwise_listing 1 root⟩
    have := number_mem_listing 1 root hy
    exact this.1

theorem nodup_map_number (x : Place) : ((x :: x.below).map number).Nodup :=
  List.pairwise_map.2 ((pairwise_below x).imp Nat.ne_of_lt)

theorem nodup_below (x : Place) : (x :: x.below).Nodup :=
  (nodup_map_number x).of_map number

end Place

end MarkupQuery.Document
