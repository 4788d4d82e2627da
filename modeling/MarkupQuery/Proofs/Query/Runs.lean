import Mathlib.Data.List.Basic
import Mathlib.Data.List.Induction
import MarkupQuery.Query.Builder

/-!
# Runs of a builder

A run takes a builder through steps in any order (`Builder.run`). Whatever the steps are, the
current selection is the last one (`Builder.settled_run`), so that a call can be described without
the pointer, by what it makes of the list of selections (`Ask.act`): it either adds a selection, or
it adds a condition to the last one, which is a selection of any element if there was none
(`Builder.selections_call`).
-/

namespace MarkupQuery.Query

/-! ## What calls ask for -/

/-- What a call asks of a session. -/
inductive Ask
  /-- A selection. -/
  | select (test : NodeTest) (axis : Axis)
  /-- A condition on the current selection. -/
  | extend (c : Condition)

/-- The nine calls are two. -/
def Call.ask : Call → Ask
  | .tag name => .select (.named name) .descendant
  | .childTag name => .select (.named name) .child
  | .selectTag name recursive => .select (.named name) (.ofRecursive recursive)
  | .selectTagWithAxis name axis => .select (.named name) axis
  | .selectAllTags => .select .any .descendant
  | .andAttribute name value => .extend { name := name, value := value, join := .and }
  | .orAttribute name value => .extend { name := name, value := value, join := .or }
  | .hasAttribute name => .extend { name := name, value := none, join := .and }
  | .orHasAttribute name => .extend { name := name, value := none, join := .or }

/-- The key made of a base and a number of selections. -/
def counted (base : String) (n : Nat) : String :=
  base ++ "." ++ toString n

/-- The key that a selection of a test gets behind others. -/
def keyBehind (before : List TagSelection) : NodeTest → String
  | .named name =>
    if before.any (·.key == name) then counted name before.length else name
  | .any => counted "*" before.length

/-- The new selection of a test along an axis, behind others. -/
def newSelection (before : List TagSelection) (test : NodeTest) (axis : Axis) : TagSelection :=
  { key := keyBehind before test, test := test, axis := axis }

/-- What the selections of a session become. -/
def Ask.act (before : List TagSelection) : Ask → List TagSelection
  | .select test axis => before ++ [newSelection before test axis]
  | .extend c =>
    match before.getLast? with
    | some last => before.dropLast ++ [last.addCondition c]
    | none => [(newSelection [] .any .descendant).addCondition c]

@[simp] theorem Ask.act_select (before : List TagSelection) (test : NodeTest) (axis : Axis) :
    (Ask.select test axis).act before = before ++ [newSelection before test axis] := rfl

@[simp] theorem Ask.act_extend_nil (c : Condition) :
    (Ask.extend c).act [] = [(newSelection [] .any .descendant).addCondition c] := rfl

@[simp] theorem Ask.act_extend_concat (before : List TagSelection) (last : TagSelection)
    (c : Condition) :
    (Ask.extend c).act (before ++ [last]) = before ++ [last.addCondition c] := by
  simp [Ask.act]

namespace Builder

/-! ## The current selection is the last -/

/-- The current selection of a builder, if there is one, is the last. -/
def Settled (b : Builder) : Prop :=
  ∀ i, b.current = some i ↔ i + 1 = b.len

theorem settled_new : new.Settled := by
  intro i
  simp [new, len, selections]

@[simp] theorem selections_push (b : Builder) (s : TagSelection) :
    (b.push s).selections = b.selections ++ [s] := rfl

@[simp] theorem current_push (b : Builder) (s : TagSelection) :
    (b.push s).current = some b.len := rfl

theorem settled_push (b : Builder) (s : TagSelection) : (b.push s).Settled := by
  intro i
  simp [len, eq_comm]

theorem current_eq_none_iff {b : Builder} (h : b.Settled) :
    b.current = none ↔ b.selections = [] := by
  rw [← List.length_eq_zero_iff]
  constructor
  · intro hnone
    by_contra hne
    obtain ⟨n, hn⟩ := Nat.exists_eq_succ_of_ne_zero hne
    have := (h n).2 hn.symm
    simp [hnone] at this
  · intro hlen
    rcases hc : b.current with _ | i
    · rfl
    · have := (h i).1 hc
      simp [len, hlen] at this

/-- A builder with a last selection has it as its current one. -/
theorem current_eq_of_concat {b : Builder} (h : b.Settled) {before : List TagSelection}
    {last : TagSelection} (hb : b.selections = before ++ [last]) :
    b.current = some before.length :=
  (h before.length).2 (by simp [len, hb])

/-! ## Calls -/

/-- A tag call pushes the new selection, whichever of the five it is. -/
theorem call_eq_push (b : Builder) {c : Call} {test : NodeTest} {axis : Axis}
    (h : c.ask = .select test axis) : b.call c = b.push (newSelection b.selections test axis) := by
  cases c <;> simp only [Call.ask, Ask.select.injEq, reduceCtorEq] at h <;>
    obtain ⟨rfl, rfl⟩ := h <;> rfl

theorem call_eq_addCondition (b : Builder) {c : Call} {d : Condition} (h : c.ask = .extend d) :
    b.call c = b.addCondition d := by
  cases c <;> simp only [Call.ask, Ask.extend.injEq, reduceCtorEq] at h <;> subst h <;> rfl

/-- Behind a last selection the condition joins that one. -/
theorem addCondition_of_concat {b : Builder} (h : b.Settled) {before : List TagSelection}
    {last : TagSelection} (hb : b.selections = before ++ [last]) (c : Condition) :
    b.addCondition c = { path := { selections := before ++ [last.addCondition c] }
                         current := some before.length } := by
  have hcur := current_eq_of_concat h hb
  have hmod : (before ++ [last]).modify before.length (·.addCondition c) =
      before ++ [last.addCondition c] := by
    rw [List.modify_eq_take_cons_drop (by simp)]
    simp
  simp [addCondition, hcur, hb, hmod]

/-- Without selections, any element is selected first. -/
theorem addCondition_of_nil {b : Builder} (h : b.Settled) (hb : b.selections = [])
    (c : Condition) :
    b.addCondition c =
      { path := { selections := [(newSelection [] .any .descendant).addCondition c] }
        current := some 0 } := by
  have hcur := (current_eq_none_iff h).2 hb
  have hall : b.selectAllTags = b.push (newSelection b.selections .any .descendant) := rfl
  simp [addCondition, hcur, hall, hb, len, List.modify]

/-- **A call acts on the selections alone**, as it asks for. -/
theorem selections_call {b : Builder} (h : b.Settled) (c : Call) :
    (b.call c).selections = c.ask.act b.selections := by
  cases ha : c.ask with
  | select test axis => simp [call_eq_push b ha]
  | extend d =>
    rw [call_eq_addCondition b ha]
    rcases List.eq_nil_or_concat' b.selections with hb | ⟨before, last, hb⟩
    · rw [addCondition_of_nil h hb, hb, Ask.act_extend_nil]
      rfl
    · rw [addCondition_of_concat h hb, hb, Ask.act_extend_concat]
      rfl

theorem settled_call {b : Builder} (h : b.Settled) (c : Call) : (b.call c).Settled := by
  cases ha : c.ask with
  | select test axis =>
    rw [call_eq_push b ha]
    exact settled_push _ _
  | extend d =>
    rw [call_eq_addCondition b ha]
    rcases List.eq_nil_or_concat' b.selections with hb | ⟨before, last, hb⟩
    · intro i
      simp [addCondition_of_nil h hb, len, selections, eq_comm]
    · intro i
      simp [addCondition_of_concat h hb, len, selections, eq_comm]

/-! ## Runs -/

/-- The builder after some steps. -/
def run (b : Builder) (steps : List Step) : Builder :=
  steps.foldl (fun b s => (b.step s).2) b

@[simp] theorem run_concat (b : Builder) (steps : List Step) (s : Step) :
    b.run (steps ++ [s]) = ((b.run steps).step s).2 := by
  simp [run]

theorem settled_step {b : Builder} (h : b.Settled) (s : Step) : (b.step s).2.Settled := by
  cases s with
  | call c => exact settled_call h c
  | build => exact settled_new
  | peek => exact h
  | reset => exact settled_new

/-- Every reachable builder has its last selection as the current one. -/
theorem settled_run (steps : List Step) : (new.run steps).Settled := by
  induction steps using List.reverseRec with
  | nil => exact settled_new
  | append_singleton steps s ih =>
    rw [run_concat]
    exact settled_step ih s

end Builder

end MarkupQuery.Query
