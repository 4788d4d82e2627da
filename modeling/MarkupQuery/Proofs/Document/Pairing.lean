import MarkupQuery.Proofs.Document.Likeness

/-!
# Pairs of places

The documents of two trees that are alike have the same elements, one by one in document order. They
are listed in pairs (`exists_pairing_document`): the pairs go through the containers of either
document in order, that is through the document node and the elements, the two of a pair are alike,
and the containers among the children of the one are paired with those of the other
(`Place.Pairing`).
-/

namespace MarkupQuery.Document

open MarkupQuery.Document.Tree (Aligned)

namespace Place

/-- Whether a place may have children: it is the document node or an element. -/
def isContainer : Place → Bool
  | document _ => true
  | inner _ t => t.isElement

/-- Containers that are alike. -/
inductive Alike (same : String → String → Prop) : Place → Place → Prop
  | document {t u : Tree} (root : t.Alike same u) : Alike same (document t) (document u)
  | inner {n m : Nat} {t u : Tree} (tree : t.Alike same u) : Alike same (inner n t) (inner m u)

variable {same : String → String → Prop} {x y : Place} {xs ys xs' ys' : List Place}
  {ps qs : List (Place × Place)}

theorem Alike.kind_eq (h : Alike same x y) : x.kind = y.kind := by
  cases h with
  | document root => rfl
  | inner tree => cases tree with | element texts children => rfl

theorem Alike.attributes_eq (h : Alike same x y) : x.attributes = y.attributes := by
  cases h with
  | document root => rfl
  | inner tree => cases tree with | element texts children => rfl

theorem Alike.same_text (h : Alike same x y) : same x.text y.text := by
  cases h with
  | document root => cases root with | element texts children => exact texts
  | inner tree => cases tree with | element texts children => exact texts

theorem Alike.isContainer (h : Alike same x y) : x.isContainer = true ∧ y.isContainer = true := by
  cases h with
  | document root => exact ⟨rfl, rfl⟩
  | inner tree => exact tree.isElement

theorem isContainer_of_kind {name : String} (h : x.kind = .element name) :
    x.isContainer = true := by
  cases x with
  | document root => rfl
  | inner n t =>
    cases t with
    | element name attributes children => rfl
    | text s | comment s => cases h

theorem isContainer_of_mem_children (h : y ∈ x.children) : x.isContainer = true := by
  cases x with
  | document root => rfl
  | inner n t =>
    cases t with
    | element name attributes children => rfl
    | text s | comment s => simp [children] at h

/-- What has something below it is a container. -/
theorem isContainer_of_isBelow (h : x.IsBelow y) : x.isContainer = true := by
  obtain ⟨z, hz, -⟩ := Relation.TransGen.head'_iff.1 h
  exact isContainer_of_mem_children hz

/-! ## Pairs -/

/-- Each container of a list has a partner in another one. -/
def Matched (r : Place → Place → Prop) (xs ys : List Place) : Prop :=
  ∀ x ∈ xs, x.isContainer = true → ∃ y ∈ ys, r x y

section Matched

variable {r r' : Place → Place → Prop}

theorem Matched.mono (h : Matched r xs ys) (hr : ∀ x y, r x y → r' x y) : Matched r' xs ys := by
  intro x hx hcontainer
  obtain ⟨y, hy, hp⟩ := h x hx hcontainer
  exact ⟨y, hy, hr x y hp⟩

theorem Matched.further (h : Matched r xs ys) (y : Place) : Matched r xs (y :: ys) := by
  intro x hx hcontainer
  obtain ⟨z, hz, hp⟩ := h x hx hcontainer
  exact ⟨z, List.mem_cons_of_mem y hz, hp⟩

theorem Matched.cons (h : Matched r xs ys)
    (hx : x.isContainer = true → ∃ y ∈ ys, r x y) : Matched r (x :: xs) ys := by
  intro z hz hcontainer
  rcases List.mem_cons.1 hz with rfl | hz
  · exact hx hcontainer
  · exact h z hz hcontainer

end Matched

/-- The containers of two lists are paired: each of the one has a partner in the other. -/
def Paired (ps : List (Place × Place)) (xs ys : List Place) : Prop :=
  Matched (fun x y => (x, y) ∈ ps) xs ys ∧ Matched (fun y x => (x, y) ∈ ps) ys xs

theorem Paired.mono (h : Paired ps xs ys) (hsub : ps ⊆ qs) : Paired qs xs ys :=
  ⟨h.1.mono fun _ _ hp => hsub hp, h.2.mono fun _ _ hp => hsub hp⟩

theorem Paired.cons (h : Paired ps xs ys) (hp : (x, y) ∈ ps) : Paired ps (x :: xs) (y :: ys) :=
  ⟨(h.1.further y).cons fun _ => ⟨y, List.mem_cons_self, hp⟩,
    (h.2.further x).cons fun _ => ⟨x, List.mem_cons_self, hp⟩⟩

theorem Paired.left (h : Paired ps xs ys) (hx : x.isContainer = false) :
    Paired ps (x :: xs) ys := by
  refine ⟨h.1.cons fun hcontainer => ?_, h.2.further x⟩
  simp [hx] at hcontainer

theorem Paired.right (h : Paired ps xs ys) (hy : y.isContainer = false) :
    Paired ps xs (y :: ys) := by
  refine ⟨h.1.further y, h.2.cons fun hcontainer => ?_⟩
  simp [hy] at hcontainer

/-- Pairs that go through the containers of two lists in order, each of the two alike and with
paired children. -/
structure Pairing (same : String → String → Prop) (ps : List (Place × Place))
    (xs ys : List Place) : Prop where
  fst : ps.map Prod.fst = xs.filter isContainer
  snd : ps.map Prod.snd = ys.filter isContainer
  alike : ∀ p ∈ ps, Alike same p.1 p.2
  children : ∀ p ∈ ps, Paired ps p.1.children p.2.children

theorem Pairing.mem (h : Pairing same ps xs ys) {p : Place × Place} (hp : p ∈ ps) :
    p.1 ∈ xs ∧ p.2 ∈ ys := by
  have hfst : p.1 ∈ xs.filter isContainer := h.fst ▸ List.mem_map_of_mem hp
  have hsnd : p.2 ∈ ys.filter isContainer := h.snd ▸ List.mem_map_of_mem hp
  exact ⟨List.mem_of_mem_filter hfst, List.mem_of_mem_filter hsnd⟩

theorem Pairing.append (h : Pairing same ps xs ys) (h' : Pairing same qs xs' ys') :
    Pairing same (ps ++ qs) (xs ++ xs') (ys ++ ys') := by
  refine ⟨by simp [h.fst, h'.fst], by simp [h.snd, h'.snd], fun p hp => ?_, fun p hp => ?_⟩
  · exact (List.mem_append.1 hp).elim (h.alike p) (h'.alike p)
  · rcases List.mem_append.1 hp with hp | hp
    · exact (h.children p hp).mono (List.subset_append_left ps qs)
    · exact (h'.children p hp).mono (List.subset_append_right ps qs)

/-- Two places that are alike and what is below them. -/
theorem Pairing.cons (h : Pairing same ps x.below y.below) (hxy : Alike same x y)
    (hchildren : Paired ps x.children y.children) :
    Pairing same ((x, y) :: ps) (x :: x.below) (y :: y.below) := by
  obtain ⟨hx, hy⟩ := hxy.isContainer
  refine ⟨by simp [h.fst, hx], by simp [h.snd, hy], fun p hp => ?_, fun p hp => ?_⟩
  · rcases List.mem_cons.1 hp with rfl | hp
    · exact hxy
    · exact h.alike p hp
  · have hsub : ps ⊆ (x, y) :: ps := List.subset_cons_self _ _
    rcases List.mem_cons.1 hp with rfl | hp
    · exact hchildren.mono hsub
    · exact (h.children p hp).mono hsub

/-! ## Pairs in trees that are alike -/

theorem filter_listing_of_isElement {t : Tree} (ht : t.isElement = false) (n : Nat) :
    (listing n t).filter isContainer = [] := by
  cases t with
  | element name attributes children => cases ht
  | _ => rfl

mutual

theorem exists_pairing {t u : Tree} (h : t.Alike same u) (n m : Nat) :
    ∃ ps, Pairing same ((inner n t, inner m u) :: ps) (listing n t) (listing m u) := by
  match h with
  | .element texts children =>
    obtain ⟨ps, hpairing, hchildren⟩ := exists_pairingAll children _ _
    exact ⟨ps, hpairing.cons (.inner (.element texts children)) hchildren⟩

/-- **Lists of trees with the same elements** are paired place by place. -/
theorem exists_pairingAll {ts us : List Tree} (h : Aligned (Tree.Alike same) ts us) (n m : Nat) :
    ∃ ps, Pairing same ps (listingAll n ts) (listingAll m us) ∧
      Paired ps (siblings n ts) (siblings m us) := by
  match h with
  | .nil => exact ⟨[], ⟨rfl, rfl, nofun, nofun⟩, nofun, nofun⟩
  | .element head tail =>
    obtain ⟨ps, hfirst⟩ := exists_pairing head n m
    obtain ⟨qs, hrest, hsiblings⟩ := exists_pairingAll tail _ _
    refine ⟨_, hfirst.append hrest, (hsiblings.mono ?_).cons (by simp)⟩
    exact List.subset_append_right _ _
  | .left head tail =>
    obtain ⟨ps, hpairing, hsiblings⟩ := exists_pairingAll tail _ _
    refine ⟨ps, ⟨?_, hpairing.snd, hpairing.alike, hpairing.children⟩, hsiblings.left head⟩
    rw [listingAll, List.filter_append, filter_listing_of_isElement head]
    exact hpairing.fst
  | .right head tail =>
    obtain ⟨ps, hpairing, hsiblings⟩ := exists_pairingAll tail _ _
    refine ⟨ps, ⟨hpairing.fst, ?_, hpairing.alike, hpairing.children⟩, hsiblings.right head⟩
    rw [listingAll, List.filter_append, filter_listing_of_isElement head]
    exact hpairing.snd

end

/-- **The documents of trees that are alike** are paired, beginning with their document nodes. -/
theorem exists_pairing_document {t u : Tree} (h : t.Alike same u) :
    ∃ ps, Pairing same ((document t, document u) :: ps) (document t :: (document t).below)
      (document u :: (document u).below) := by
  obtain ⟨ps, hpairing⟩ := exists_pairing h 1 1
  have hroots : Paired ((inner 1 t, inner 1 u) :: ps) (document t).children
      (document u).children :=
    Paired.cons ⟨nofun, nofun⟩ List.mem_cons_self
  exact ⟨_, hpairing.cons (.document h) hroots⟩

/-! ## The parents of a pair -/

/-- **What two paired places are children of** is a pair. -/
theorem Pairing.exists_parents (h : Pairing same ps (x :: x.below) (y :: y.below))
    {p : Place × Place} (hp : p ∈ ps) (hbelow : p.1 ∈ x.below) :
    ∃ q ∈ ps, p.1 ∈ q.1.children ∧ p.2 ∈ q.2.children := by
  obtain ⟨z, hz, hchild⟩ := Relation.TransGen.tail'_iff.1 (mem_below_iff.1 hbelow)
  have hmem : z ∈ x :: x.below := by
    rw [List.mem_cons, mem_below_iff]
    exact Relation.reflTransGen_iff_eq_or_transGen.1 hz
  have hfirst : z ∈ ps.map Prod.fst := by
    rw [h.fst, List.mem_filter]
    exact ⟨hmem, isContainer_of_mem_children hchild⟩
  obtain ⟨q, hq, rfl⟩ := List.mem_map.1 hfirst
  -- The child has a partner among the children of the other parent, and it has only one.
  obtain ⟨w, hw, hpair⟩ := (h.children q hq).1 p.1 hchild (h.alike p hp).isContainer.1
  have hdistinct : (ps.map Prod.fst).Nodup := h.fst ▸ (nodup_below x).filter _
  have hpartner : w = p.2 := congrArg Prod.snd (List.inj_on_of_nodup_map hdistinct hpair hp rfl)
  exact ⟨q, hq, hchild, hpartner ▸ hw⟩

end Place

end MarkupQuery.Document
