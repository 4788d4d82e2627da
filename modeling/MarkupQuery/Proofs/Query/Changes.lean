import MarkupQuery.Proofs.Query.Meaning

/-!
# Wider and narrower selections

A selection is within another one if the other takes all that it takes (`TagSelection.Within`). Then
a path chooses no more with the one than with the other in its place, wherever in the path this is
(`chosen_subset_of_within`). A selection gets wider if it goes to all depths, or takes any element,
or has an alternative more to its conditions (`TagSelection.Widens`). It gets narrower by a further
condition: by one that is joined with `and`, which is asked of the last alternative, and by a first
one (`TagSelection.Narrows`).
-/

namespace MarkupQuery.Query

open MarkupQuery.Document (Place)

variable {s r : TagSelection} {places places' : Set Place} {attributes : List (String × String)}

/-! ## Further conditions -/

/-- A condition that is joined with `or` is a group of its own. -/
theorem groups_concat_or (conditions : List Condition) {c : Condition} (hc : c.join = .or) :
    groups (conditions ++ [c]) = groups conditions ++ [[c]] := by
  refine List.splitBy_append fun x _ y hy => ?_
  obtain rfl : c = y := by simpa using hy
  simp [hc]

/-- A condition that is joined with `and` goes into the last group. -/
theorem groups_concat_and {conditions g : List Condition} {gs : List (List Condition)}
    {c : Condition} (hgroups : groups conditions = gs ++ [g]) (hc : c.join = .and) :
    groups (conditions ++ [c]) = gs ++ [g ++ [c]] := by
  obtain ⟨hflatten, hnil, hchains, hheads⟩ := List.splitBy_eq_iff.1 hgroups
  refine List.splitBy_eq_iff.2 ⟨by simp [hflatten], ?_, fun m hm => ?_, ?_⟩
  · simp only [List.mem_append, List.mem_singleton] at hnil ⊢
    simpa using fun h => hnil (.inl h)
  · rw [List.mem_append, List.mem_singleton] at hm
    rcases hm with hm | rfl
    · exact hchains m (by simp [hm])
    · refine List.isChain_append.2 ⟨hchains g (by simp), List.isChain_singleton c, ?_⟩
      rintro x _ y hy
      obtain rfl : c = y := by simpa using hy
      simp [hc]
  · obtain ⟨hfirst, -, hlast⟩ := List.isChain_append.1 hheads
    refine List.isChain_append.2 ⟨hfirst, List.isChain_singleton _, ?_⟩
    intro x hx y hy
    obtain rfl : g ++ [c] = y := by simpa using hy
    obtain ⟨hxne, hgne, hsplit⟩ := hlast x hx g (by simp)
    exact ⟨hxne, by simp, by rwa [List.head_append_of_ne_nil hgne]⟩

/-- **An alternative more** holds where the conditions held, and where it holds itself. -/
theorem conditionsHold_concat_or {conditions : List Condition} (hne : conditions ≠ [])
    {c : Condition} (hc : c.join = .or) :
    conditionsHold (conditions ++ [c]) attributes =
      (conditionsHold conditions attributes || c.holds attributes) := by
  have hfirst : conditions.isEmpty = false := by simpa using hne
  simp [conditionsHold, groups_concat_or conditions hc, hfirst]

/-- **A condition more in the last group** holds nowhere where the conditions did not. -/
theorem conditionsHold_of_concat_and {conditions : List Condition} {c : Condition}
    (hc : c.join = .and) (h : conditionsHold (conditions ++ [c]) attributes = true) :
    conditionsHold conditions attributes = true := by
  rcases List.eq_nil_or_concat' (groups conditions) with hnil | ⟨gs, g, hgroups⟩
  · have hempty : conditions = [] := List.splitBy_eq_nil.1 hnil
    simp [conditionsHold, hempty]
  · have hmore : (conditions ++ [c]).isEmpty = false := by simp
    rw [conditionsHold, groups_concat_and hgroups hc, hmore, Bool.false_or] at h
    rw [conditionsHold, hgroups]
    simp only [List.any_append, List.any_cons, List.any_nil, List.all_append, Bool.or_eq_true,
      Bool.and_eq_true, Bool.or_false] at h ⊢
    exact .inr (h.imp_right And.left)

/-! ## Selections within others -/

/-- A selection that takes no more than another one, neither by its axis nor by its test and
conditions. -/
structure TagSelection.Within (s r : TagSelection) : Prop where
  leads : ∀ x y, s.axis.Leads x y → r.axis.Leads x y
  fits : ∀ x, s.fits x = true → r.fits x = true

theorem reach_subset_of_within (h : s.Within r) (hplaces : places ⊆ places') :
    s.reach places ⊆ r.reach places' := by
  rintro y ⟨⟨x, hx, hleads⟩, hfits⟩
  exact ⟨⟨x, hplaces hx, h.leads x y hleads⟩, h.fits y hfits⟩

theorem TagSelection.Within.refl (s : TagSelection) : s.Within s :=
  ⟨fun _ _ => id, fun _ => id⟩

theorem chosen_mono (selections : List TagSelection) (hplaces : places ⊆ places') :
    chosen places selections ⊆ chosen places' selections := by
  induction selections generalizing places places' with
  | nil => exact hplaces
  | cons s selections ih => exact ih (reach_subset_of_within (.refl s) hplaces)

/-- **A wider selection chooses no less**, whatever stands before and behind it. -/
theorem chosen_subset_of_within (h : s.Within r) (before after : List TagSelection) :
    chosen places (before ++ s :: after) ⊆ chosen places (before ++ r :: after) := by
  have hsplit (u : TagSelection) : chosen places (before ++ u :: after) =
      chosen (u.reach (chosen places before)) after := by
    rw [chosen, List.foldl_append]
    rfl
  rw [hsplit, hsplit]
  exact chosen_mono after (reach_subset_of_within h subset_rfl)

/-! ## Changes -/

/-- How a selection gets wider. -/
inductive TagSelection.Widens : TagSelection → TagSelection → Prop
  /-- It goes to all that is below, not to the children only. -/
  | axis {s : TagSelection} (h : s.axis = .child) : Widens s { s with axis := .descendant }
  /-- It takes any element, not those of a name only. -/
  | test {s : TagSelection} {name : String} (h : s.test = .named name) :
    Widens s { s with test := .any }
  /-- It has an alternative more to its conditions. -/
  | alternative {s : TagSelection} {c : Condition} (hne : s.conditions ≠ []) (hc : c.join = .or) :
    Widens s (s.addCondition c)

/-- How a selection gets narrower. -/
inductive TagSelection.Narrows : TagSelection → TagSelection → Prop
  /-- One more condition is asked of its last alternative. -/
  | condition {s : TagSelection} {c : Condition} (hc : c.join = .and) : Narrows s (s.addCondition c)
  /-- It has a condition, and had none. -/
  | first {s : TagSelection} {c : Condition} (hnil : s.conditions = []) :
    Narrows s (s.addCondition c)

/-- A selection takes no more than another one of the same axis and test whose conditions hold
wherever its own do. -/
theorem within_of_conditions (haxis : s.axis = r.axis) (htest : s.test = r.test)
    (h : ∀ attributes, conditionsHold s.conditions attributes = true →
      conditionsHold r.conditions attributes = true) : s.Within r := by
  refine ⟨fun x y => by rw [haxis]; exact id, fun x hx => ?_⟩
  rw [TagSelection.fits] at hx ⊢
  cases hkind : x.kind with
  | element name =>
    simp only [hkind, Bool.and_eq_true] at hx ⊢
    exact ⟨htest ▸ hx.1, h _ hx.2⟩
  | _ => simp [hkind] at hx

theorem within_of_widens (h : s.Widens r) : s.Within r := by
  cases h with
  | axis haxis =>
    refine ⟨fun x y hleads => ?_, fun x hx => hx⟩
    rw [haxis] at hleads
    exact Axis.isBelow_of_leads hleads
  | test htest =>
    refine ⟨fun x y => id, fun x hx => ?_⟩
    rw [TagSelection.fits] at hx ⊢
    cases hkind : x.kind with
    | element name =>
      simp only [hkind, Bool.and_eq_true] at hx ⊢
      exact ⟨rfl, hx.2⟩
    | _ => simp [hkind] at hx
  | alternative hne hc =>
    refine within_of_conditions rfl rfl fun attributes hold => ?_
    rw [TagSelection.addCondition, conditionsHold_concat_or hne hc, hold, Bool.true_or]

theorem within_of_narrows (h : s.Narrows r) : r.Within s := by
  cases h with
  | condition hc =>
    exact within_of_conditions rfl rfl fun attributes => conditionsHold_of_concat_and hc
  | first hnil =>
    refine within_of_conditions rfl rfl fun attributes _ => ?_
    rw [hnil]
    rfl

end MarkupQuery.Query
