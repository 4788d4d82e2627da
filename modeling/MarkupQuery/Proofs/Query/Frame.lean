import MarkupQuery.Proofs.Query.Writing

/-!
# What a call leaves as it is

A builder keeps its selections and a pointer to the current one apart, and is asked about either. In
every reachable builder the answers fit together (`Builder.Coherent`), and a condition finds a
selection where the pointer says, even if it had to make one first (`Builder.exists_ready`). So a
call touches the end of the selections only: a tag call adds one without conditions, and a condition
call adds the condition to the last one (`Builder.selections_of_tag`,
`Builder.exists_selections_of_condition`). Over a whole session, what is selected stays in its
place, and the conditions of all but the last selection stay as they are (`Builder.continues_run`).
`Builder.frame_run` says all this of every reachable builder.
-/

namespace MarkupQuery.Query

namespace Builder

/-! ## The pointer and the list -/

/-- What a builder tells about its selections and its current selection fits together. -/
structure Coherent (b : Builder) : Prop where
  current : b.current = if b.selections = [] then none else some (b.len - 1)
  state : b.state = .empty ↔ b.selections = []
  isEmpty : b.isEmpty = true ↔ b.selections = []
  len : b.len = 0 ↔ b.selections = []
  currentSelection : b.currentSelection = none ↔ b.selections = []
  getLast : b.currentSelection = b.selections.getLast?

theorem state_eq_empty_iff (b : Builder) : b.state = .empty ↔ b.current = none := by
  rw [state]
  cases b.current <;> simp

/-- **If the current selection is the last, all answers of a builder fit together.** -/
theorem coherent_of_settled {b : Builder} (h : b.Settled) : b.Coherent := by
  have hnone := current_eq_none_iff h
  have hcurrent : b.current = if b.selections = [] then none else some (b.len - 1) := by
    split_ifs with hb
    · exact hnone.2 hb
    · have hpos : 0 < b.len := List.length_pos_iff.2 hb
      exact (h (b.len - 1)).2 (by omega)
  have hlast : b.currentSelection = b.selections.getLast? := by
    rw [currentSelection, hcurrent, List.getLast?_eq_getElem?]
    split_ifs with hb
    · rw [hb]
      rfl
    · rfl
  refine ⟨hcurrent, (state_eq_empty_iff b).trans hnone, List.isEmpty_iff, List.length_eq_zero_iff,
    ?_, hlast⟩
  rw [hlast, List.getLast?_eq_none_iff]

/-! ## Where a condition goes -/

/-- The builder in which a condition looks for its selection: without a current one, any element is
selected first. -/
def ready (b : Builder) : Builder :=
  match b.current with
  | some _ => b
  | none => b.selectAllTags

/-- The selections among which a condition finds its own. -/
def readySelections (b : Builder) : List TagSelection :=
  if b.selections = [] then [{ key := "*.0", test := .any, axis := .descendant }] else b.selections

theorem ready_of_settled {b : Builder} (h : b.Settled) :
    b.ready.Settled ∧ b.ready.selections = b.readySelections := by
  rw [ready, readySelections]
  cases hcurrent : b.current with
  | some i =>
    have hne : b.selections ≠ [] := by
      intro hb
      rw [(current_eq_none_iff h).2 hb] at hcurrent
      cases hcurrent
    rw [if_neg hne]
    exact ⟨h, rfl⟩
  | none =>
    have hb := (current_eq_none_iff h).1 hcurrent
    refine ⟨settled_push _ _, ?_⟩
    rw [if_pos hb, selectAllTags, selections_push, countedKey, len, hb]
    rfl

theorem readySelections_ne_nil (b : Builder) : b.readySelections ≠ [] := by
  rw [readySelections]
  split_ifs with hb
  · simp
  · exact hb

/-- **The selection that a condition extends is there**: the pointer is a position in the list, the
last one. -/
theorem exists_ready {b : Builder} (h : b.Settled) :
    ∃ i, b.ready.current = some i ∧ i < b.ready.len ∧ i + 1 = b.ready.len ∧
      ∀ d, b.addCondition d =
        { b.ready with
          path := { selections := b.ready.selections.modify i (·.addCondition d) } } := by
  obtain ⟨hsettled, hselections⟩ := ready_of_settled h
  have hpos : 0 < b.ready.len := by
    rw [len, hselections]
    exact List.length_pos_iff.2 b.readySelections_ne_nil
  have hcurrent : b.ready.current = some (b.ready.len - 1) := (hsettled _).2 (by omega)
  refine ⟨b.ready.len - 1, hcurrent, by omega, by omega, fun d => ?_⟩
  have hadd : b.addCondition d = match b.ready.current with
      | some i => { b.ready with
          path := { selections := b.ready.selections.modify i (·.addCondition d) } }
      | none => b.ready := rfl
  rw [hadd, hcurrent]

/-! ## One call -/

/-- **A tag call adds a selection** without conditions behind those that are there. -/
theorem selections_of_tag {b : Builder} (h : b.Settled) {c : Call} {test : NodeTest} {axis : Axis}
    (hc : c.ask = .select test axis) :
    (b.call c).selections =
      b.selections ++ [{ key := keyBehind b.selections test, test := test, axis := axis
                         conditions := [] }] := by
  rw [selections_call h, hc, Ask.act_select]
  rfl

/-- **A condition call adds a condition** to the last selection, behind those that it has. -/
theorem exists_selections_of_condition {b : Builder} (h : b.Settled) {c : Call} {d : Condition}
    (hc : c.ask = .extend d) :
    ∃ before last, b.readySelections = before ++ [last] ∧
      (b.call c).selections = before ++ [{ last with conditions := last.conditions ++ [d] }] := by
  rw [selections_call h, hc]
  rcases List.eq_nil_or_concat' b.selections with hb | ⟨before, last, hb⟩
  · refine ⟨[], { key := "*.0", test := .any, axis := .descendant }, ?_, ?_⟩
    · rw [readySelections, if_pos hb, List.nil_append]
    · rw [hb, Ask.act_extend_nil]
      rfl
  · refine ⟨before, last, ?_, ?_⟩
    · rw [readySelections, if_neg (by simp [hb]), hb]
    · rw [hb, Ask.act_extend_concat]
      rfl

end Builder

/-! ## A whole session -/

/-- A selection without its conditions. -/
def TagSelection.bare (s : TagSelection) : TagSelection :=
  { s with conditions := [] }

/-- Selections that go on from others: these stay in their places, with their keys, tests and axes,
and all but the last of them with their conditions. -/
structure Continues (before after : List TagSelection) : Prop where
  bare : before.map TagSelection.bare <+: after.map TagSelection.bare
  dropLast : before.dropLast <+: after.dropLast

theorem Continues.refl (selections : List TagSelection) : Continues selections selections :=
  ⟨List.prefix_rfl, List.prefix_rfl⟩

theorem Continues.trans {ss ts us : List TagSelection} (h : Continues ss ts)
    (h' : Continues ts us) : Continues ss us :=
  ⟨h.bare.trans h'.bare, h.dropLast.trans h'.dropLast⟩

theorem continues_act (before : List TagSelection) (a : Ask) : Continues before (a.act before) := by
  cases a with
  | select test axis =>
    rw [Ask.act_select]
    refine ⟨?_, ?_⟩
    · rw [List.map_append]
      exact List.prefix_append _ _
    · rw [List.dropLast_concat]
      exact List.dropLast_prefix before
  | extend d =>
    rcases List.eq_nil_or_concat' before with rfl | ⟨first, last, rfl⟩
    · exact ⟨List.nil_prefix, List.nil_prefix⟩
    · rw [Ask.act_extend_concat]
      refine ⟨?_, ?_⟩
      · simp only [List.map_append]
        exact List.prefix_rfl
      · simp only [List.dropLast_concat]
        exact List.prefix_rfl

namespace Builder

/-- **What is selected stays** until the builder is built or reset. -/
theorem continues_run {b : Builder} (h : b.Settled) {later : List Step}
    (hlater : ∀ x ∈ later, x.goesOn = true) :
    (b.run later).Settled ∧ Continues b.selections (b.run later).selections := by
  induction later using List.reverseRec with
  | nil => exact ⟨h, Continues.refl _⟩
  | append_singleton later x ih =>
    obtain ⟨hsettled, hcontinues⟩ := ih fun y hy => hlater y (List.mem_append_left _ hy)
    have hx := hlater x (by simp)
    rw [run_concat]
    refine ⟨settled_step hsettled x, hcontinues.trans ?_⟩
    cases x with
    | call c =>
      change Continues _ ((b.run later).call c).selections
      rw [selections_call hsettled]
      exact continues_act _ _
    | peek => exact Continues.refl _
    | build => simp [Step.goesOn] at hx
    | reset => simp [Step.goesOn] at hx

/-- **What a call changes in a reachable builder, and what it leaves as it is.** The current
selection is the last one, and there is none exactly when there are no selections; all that tells
whether there are any agrees. A condition finds its selection where the pointer says. A tag call
leaves the selections as they are and adds one behind them, without conditions. A condition call
leaves all but the last selection as they are, or the only one that it makes if there is none, and
of this one the key, the test and the axis, and adds the condition behind those that it has. To read
the query changes nothing, to build or to reset it leaves a new builder, and in all that is called
before this, what is selected stays. -/
theorem frame_run (steps : List Step) :
    let b := new.run steps
    b.Coherent ∧
      (∃ i, b.ready.current = some i ∧ i < b.ready.len ∧ i + 1 = b.ready.len ∧
        ∀ d, b.addCondition d =
          { b.ready with
            path := { selections := b.ready.selections.modify i (·.addCondition d) } }) ∧
      (∀ c test axis, c.ask = .select test axis →
        (b.call c).selections =
          b.selections ++ [{ key := keyBehind b.selections test, test := test, axis := axis
                             conditions := [] }]) ∧
      (∀ c d, c.ask = .extend d →
        ∃ before last, b.readySelections = before ++ [last] ∧
          (b.call c).selections =
            before ++ [{ last with conditions := last.conditions ++ [d] }]) ∧
      (b.step .peek).2 = b ∧ (b.step .build).2 = new ∧ (b.step .reset).2 = new ∧
      ∀ later, (∀ x ∈ later, x.goesOn = true) →
        Continues b.selections (b.run later).selections := by
  intro b
  have h : b.Settled := settled_run steps
  exact ⟨coherent_of_settled h, exists_ready h, fun c test axis => selections_of_tag h,
    fun c d => exists_selections_of_condition h, rfl, rfl, rfl,
    fun later hlater => (continues_run h hlater).2⟩

end Builder

end MarkupQuery.Query
