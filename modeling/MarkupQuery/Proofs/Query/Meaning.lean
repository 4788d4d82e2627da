import Mathlib.Data.List.SplitBy
import Mathlib.Data.Set.Basic
import MarkupQuery.Proofs.Document.Places
import MarkupQuery.Query.Path

/-!
# What a path means

The places of a document that the selections of a path choose, told without a query language. Each
selection leads from the places chosen so far to their children, or to all that is below them, and
keeps the elements of its name for which its conditions hold (`TagSelection.reach`). Conditions
joined with `and` hold together, and one joined with `or` begins a new group of them, so that it is
enough if all of one group hold (`conditionsHold`).
-/

namespace MarkupQuery.Query

open MarkupQuery.Document (Place)

/-- Whether a condition holds for attributes: one of them has its name and, if it has one, its
value. -/
def Condition.holds (c : Condition) (attributes : List (String × String)) : Bool :=
  match c.value with
  | some value => attributes.contains (c.name, value)
  | none => attributes.any fun a => a.1 = c.name

/-- The groups of a list of conditions: it is split before every condition that is joined with
`or`, whatever joins the first. -/
def groups (conditions : List Condition) : List (List Condition) :=
  conditions.splitBy fun _ c => c.join = .and

/-- Whether conditions hold for attributes: there are none, or all of one group do. -/
def conditionsHold (conditions : List Condition) (attributes : List (String × String)) : Bool :=
  conditions.isEmpty || (groups conditions).any fun g => g.all fun c => c.holds attributes

/-- Whether a test takes the elements of a name. -/
def NodeTest.takes (test : NodeTest) (name : String) : Bool :=
  match test with
  | .named s => s = name || s = "*"
  | .any => true

/-- Whether a place is an element that a selection takes. -/
def TagSelection.fits (s : TagSelection) (x : Place) : Bool :=
  match x.kind with
  | .element name => s.test.takes name && conditionsHold s.conditions x.attributes
  | _ => false

/-- Whether an axis leads from one place to another. -/
def Axis.Leads (axis : Axis) (x y : Place) : Prop :=
  match axis with
  | .child => y ∈ x.children
  | .descendant => x.IsBelow y

/-- The places that a selection chooses from others. -/
def TagSelection.reach (s : TagSelection) (places : Set Place) : Set Place :=
  {y | (∃ x ∈ places, s.axis.Leads x y) ∧ s.fits y = true}

/-- The places that some selections choose from others, one selection after the other. -/
def chosen (places : Set Place) (selections : List TagSelection) : Set Place :=
  selections.foldl (fun places s => s.reach places) places

/-- The test for any element and a tag of the name `*` take the same. -/
theorem NodeTest.takes_eq (test : NodeTest) (name : String) :
    test.takes name = (test.text = "*" || test.text = name) := by
  cases test with
  | named s => rw [takes, text, Bool.or_comm]
  | any => simp [takes, text]

theorem TagSelection.mem_reach_iff {s : TagSelection} {places : Set Place} {y : Place} :
    y ∈ s.reach places ↔ ∃ x ∈ places, s.axis.Leads x y ∧ s.fits y = true := by
  constructor
  · rintro ⟨⟨x, hx, hleads⟩, hfits⟩
    exact ⟨x, hx, hleads, hfits⟩
  · rintro ⟨x, hx, hleads, hfits⟩
    exact ⟨⟨x, hx, hleads⟩, hfits⟩

/-- A selection takes elements only. -/
theorem TagSelection.exists_kind_of_fits {s : TagSelection} {x : Place} (h : s.fits x = true) :
    ∃ name, x.kind = .element name := by
  rw [fits] at h
  split at h
  · exact ⟨_, ‹_›⟩
  · cases h

theorem Axis.isBelow_of_leads {axis : Axis} {x y : Place} (h : axis.Leads x y) : x.IsBelow y := by
  cases axis with
  | child => exact .single h
  | descendant => exact h

/-- What is chosen from a place and those below it is below it, too. -/
theorem TagSelection.isBelow_of_mem_reach {s : TagSelection} {x y : Place} {places : Set Place}
    (hplaces : ∀ z ∈ places, z = x ∨ x.IsBelow z) (h : y ∈ s.reach places) : x.IsBelow y := by
  obtain ⟨⟨z, hz, hleads⟩, -⟩ := h
  rcases hplaces z hz with rfl | hbelow
  · exact Axis.isBelow_of_leads hleads
  · exact hbelow.trans (Axis.isBelow_of_leads hleads)

theorem eq_or_isBelow_of_mem_chosen {x y : Place} {places : Set Place}
    {selections : List TagSelection} (hplaces : ∀ z ∈ places, z = x ∨ x.IsBelow z)
    (h : y ∈ chosen places selections) : y = x ∨ x.IsBelow y := by
  induction selections generalizing places with
  | nil => exact hplaces y h
  | cons s selections ih =>
    exact ih (fun z hz => .inr (TagSelection.isBelow_of_mem_reach hplaces hz)) h

/-- What some selections choose are elements. -/
theorem exists_kind_of_mem_chosen {x : Place} {places : Set Place}
    {selections : List TagSelection} (hne : selections ≠ []) (h : x ∈ chosen places selections) :
    ∃ name, x.kind = .element name := by
  obtain ⟨first, last, rfl⟩ := (List.eq_nil_or_concat' selections).resolve_left hne
  rw [chosen, List.foldl_concat] at h
  exact TagSelection.exists_kind_of_fits h.2

end MarkupQuery.Query
