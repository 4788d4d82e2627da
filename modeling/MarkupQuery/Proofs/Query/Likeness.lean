import Mathlib.Data.List.Forall2
import Mathlib.Data.List.Sort
import MarkupQuery.Proofs.Document.Pairing
import MarkupQuery.Proofs.Query.Meaning

/-!
# Paths in documents that are alike

A path cannot tell apart documents that are alike: it chooses the one of a pair of places if and
only if it chooses the other (`mem_chosen_iff_of_pairing`). The argument is that of a simulation.
Where places are paired with places of the other document, a selection that leads from one of them
to an element leads from its partner to the partner of this element (`Simulates.exists_leads`), and
then takes both or none. So the places that are chosen in the two documents are alike, one by one
(`forall₂_alike_of_mem_chosen`).
-/

namespace MarkupQuery.Query

open MarkupQuery.Document (Place)
open MarkupQuery.Document.Place (Pairing)

variable {r : Place → Place → Prop} {places places' : Set Place} {x y z : Place}

/-! ## Simulations -/

/-- A relation between places that selections do not tell apart: they are of one kind with the same
attributes, and for each container among the children of the one there is a related child of the
other. -/
structure Simulates (r : Place → Place → Prop) : Prop where
  kind_eq : ∀ {x y}, r x y → x.kind = y.kind
  attributes_eq : ∀ {x y}, r x y → x.attributes = y.attributes
  children : ∀ {x y}, r x y → Place.Matched r x.children y.children

/-- Each of some places is related to one of others. -/
def Covers (r : Place → Place → Prop) (places places' : Set Place) : Prop :=
  ∀ x ∈ places, ∃ y ∈ places', r x y

theorem Simulates.fits_eq (h : Simulates r) (hxy : r x y) (s : TagSelection) :
    s.fits x = s.fits y := by
  rw [TagSelection.fits, TagSelection.fits, h.kind_eq hxy, h.attributes_eq hxy]

theorem Simulates.exists_isBelow (h : Simulates r) (hxy : r x y) (hz : x.IsBelow z)
    (hcontainer : z.isContainer = true) : ∃ w, y.IsBelow w ∧ r z w := by
  induction hz using Relation.TransGen.head_induction_on generalizing y with
  | single hz =>
    obtain ⟨w, hw, hzw⟩ := h.children hxy z hz hcontainer
    exact ⟨w, .single hw, hzw⟩
  | head hstep hrest ih =>
    -- The place in between has something below it, so it is a container and has a partner.
    obtain ⟨b, hb, hab⟩ := h.children hxy _ hstep (Place.isContainer_of_isBelow hrest)
    obtain ⟨w, hw, hzw⟩ := ih hab
    exact ⟨w, .head hb hw, hzw⟩

/-- **An axis leads from related places to related places.** -/
theorem Simulates.exists_leads (h : Simulates r) (hxy : r x y) {axis : Axis}
    (hz : axis.Leads x z) (hcontainer : z.isContainer = true) : ∃ w, axis.Leads y w ∧ r z w := by
  cases axis with
  | child => exact h.children hxy z hz hcontainer
  | descendant => exact h.exists_isBelow hxy hz hcontainer

theorem Simulates.covers_reach (h : Simulates r) (hplaces : Covers r places places')
    (s : TagSelection) : Covers r (s.reach places) (s.reach places') := by
  rintro z ⟨⟨x, hx, hleads⟩, hfits⟩
  obtain ⟨y, hy, hxy⟩ := hplaces x hx
  obtain ⟨name, hname⟩ := TagSelection.exists_kind_of_fits hfits
  obtain ⟨w, hw, hzw⟩ := h.exists_leads hxy hleads (Place.isContainer_of_kind hname)
  exact ⟨w, ⟨⟨y, hy, hw⟩, h.fits_eq hzw s ▸ hfits⟩, hzw⟩

/-- **A path chooses related places**, if it begins at related places. -/
theorem Simulates.covers_chosen (h : Simulates r) (hplaces : Covers r places places')
    (selections : List TagSelection) :
    Covers r (chosen places selections) (chosen places' selections) := by
  induction selections generalizing places places' with
  | nil => exact hplaces
  | cons s selections ih => exact ih (h.covers_reach hplaces s)

/-- What is chosen from a place is related to what is chosen from a related one. -/
theorem Simulates.exists_mem_chosen (h : Simulates r) (hxy : r x y)
    {selections : List TagSelection} (hz : z ∈ chosen {x} selections) :
    ∃ w ∈ chosen {y} selections, r z w := by
  have hstart : Covers r {x} {y} := by
    rintro _ rfl
    exact ⟨y, rfl, hxy⟩
  exact h.covers_chosen hstart selections z hz

/-! ## Pairs -/

section Pairs

variable {same : String → String → Prop} {ps : List (Place × Place)} {xs ys : List Place}
  {selections : List TagSelection} {found found' : List Place}

theorem simulates_of_pairing (h : Pairing same ps xs ys) : Simulates fun x y => (x, y) ∈ ps where
  kind_eq hp := (h.alike _ hp).kind_eq
  attributes_eq hp := (h.alike _ hp).attributes_eq
  children hp := (h.children _ hp).1

theorem simulates_of_pairing_flip (h : Pairing same ps xs ys) :
    Simulates fun y x => (x, y) ∈ ps where
  kind_eq hp := (h.alike _ hp).kind_eq.symm
  attributes_eq hp := (h.alike _ hp).attributes_eq.symm
  children hp := (h.children _ hp).2

/-- **A path chooses both places of a pair, or none**, if the pairs have each place once. -/
theorem mem_chosen_iff_of_pairing (h : Pairing same ps xs ys) (hxs : xs.Nodup) (hys : ys.Nodup)
    (hstart : (x, y) ∈ ps) {p : Place × Place} (hp : p ∈ ps) :
    p.1 ∈ chosen {x} selections ↔ p.2 ∈ chosen {y} selections := by
  have hfst : (ps.map Prod.fst).Nodup := h.fst ▸ hxs.filter _
  have hsnd : (ps.map Prod.snd).Nodup := h.snd ▸ hys.filter _
  constructor
  · intro hchosen
    obtain ⟨w, hw, hpair⟩ := (simulates_of_pairing h).exists_mem_chosen hstart hchosen
    rwa [← List.inj_on_of_nodup_map hfst hpair hp rfl]
  · intro hchosen
    obtain ⟨w, hw, hpair⟩ := (simulates_of_pairing_flip h).exists_mem_chosen hstart hchosen
    rwa [← List.inj_on_of_nodup_map hsnd hpair hp rfl]

/-! ## Lists of chosen places -/

/-- A list in document order is that of the firsts, or seconds, of the pairs that have its places
there. -/
theorem eq_map_filter {q : Place × Place → Bool} {part : Place × Place → Place}
    (hps : (ps.map part).Pairwise fun x y => x.number < y.number)
    (hsorted : found.Pairwise fun x y => x.number < y.number)
    (hfound : ∀ z, z ∈ found ↔ ∃ p ∈ ps, q p = true ∧ part p = z) :
    found = (ps.filter q).map part := by
  have : Std.Irrefl fun x y : Place => x.number < y.number := ⟨fun x => Nat.lt_irrefl x.number⟩
  have : Std.Antisymm fun x y : Place => x.number < y.number :=
    ⟨fun x y hxy hyx => absurd hyx (Nat.lt_asymm hxy)⟩
  refine hsorted.eq_of_mem_iff (hps.sublist (List.filter_sublist.map part)) fun z => ?_
  rw [hfound, List.mem_map]
  simp only [List.mem_filter, and_assoc]

/-- **The places chosen in documents that are alike** are alike, one by one in document order. -/
theorem forall₂_alike_of_mem_chosen (h : Pairing same ps (x :: x.below) (y :: y.below))
    (hstart : (x, y) ∈ ps)
    (hsorted : found.Pairwise fun x y => x.number < y.number)
    (hfound : ∀ z, z ∈ found ↔ z ∈ chosen {x} selections)
    (hsorted' : found'.Pairwise fun x y => x.number < y.number)
    (hfound' : ∀ z, z ∈ found' ↔ z ∈ chosen {y} selections) :
    List.Forall₂ (fun z w => z ∈ found ∧ w ∈ found' ∧ Place.Alike same z w) found found' := by
  classical
  have hchosen : ∀ p ∈ ps, (p.1 ∈ chosen {x} selections ↔ p.2 ∈ chosen {y} selections) :=
    fun p => mem_chosen_iff_of_pairing h (Place.nodup_below x) (Place.nodup_below y) hstart
  have hleft : found = (ps.filter fun p => p.1 ∈ chosen {x} selections).map Prod.fst := by
    refine eq_map_filter (h.fst ▸ (Place.pairwise_below x).filter _) hsorted fun z => ?_
    rw [hfound]
    constructor
    · intro hz
      obtain ⟨w, -, hpair⟩ := (simulates_of_pairing h).exists_mem_chosen hstart hz
      exact ⟨(z, w), hpair, decide_eq_true hz, rfl⟩
    · rintro ⟨p, hp, hfst, rfl⟩
      exact of_decide_eq_true hfst
  have hright : found' = (ps.filter fun p => p.1 ∈ chosen {x} selections).map Prod.snd := by
    refine eq_map_filter (h.snd ▸ (Place.pairwise_below y).filter _) hsorted' fun z => ?_
    rw [hfound']
    constructor
    · intro hz
      obtain ⟨w, -, hpair⟩ := (simulates_of_pairing_flip h).exists_mem_chosen hstart hz
      exact ⟨(w, z), hpair, decide_eq_true ((hchosen _ hpair).2 hz), rfl⟩
    · rintro ⟨p, hp, hfst, rfl⟩
      exact (hchosen p hp).1 (of_decide_eq_true hfst)
  rw [hleft, hright, List.forall₂_map_left_iff, List.forall₂_map_right_iff, List.forall₂_same]
  intro p hp
  exact ⟨List.mem_map_of_mem hp, List.mem_map_of_mem hp, h.alike p (List.mem_of_mem_filter hp)⟩

end Pairs

end MarkupQuery.Query
