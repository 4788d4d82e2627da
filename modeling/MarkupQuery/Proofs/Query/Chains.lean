import MarkupQuery.Proofs.Query.Runs
import MarkupQuery.Proofs.Query.Tokens

/-!
# Chains of calls

A chain is a list of calls on a new builder (`Builder.calls`). If the quotes in its values are
doubled, so they are in the selections that it makes, and nothing else changes
(`Builder.selections_calls_quoted`). What holds of all tests and conditions that the calls ask for
holds of those of the selections (`Builder.all_calls`): if the names in the calls are names, so are
those in the selections (`Builder.wellNamed_calls`), and if no value has a quote, none has one there
(`Builder.simple_calls`).
-/

namespace MarkupQuery.Query

/-- A call with the quotes of its value doubled. -/
def Call.quoted : Call → Call
  | .andAttribute name value => .andAttribute name (value.map Query.quoted)
  | .orAttribute name value => .orAttribute name (value.map Query.quoted)
  | c => c

/-- Whether the name in a call is a name without colons, or a star for that of a tag. -/
def Call.isWellNamed : Call → Bool
  | .tag name => name = "*" || XPath.isNCName name
  | .childTag name => name = "*" || XPath.isNCName name
  | .selectTag name _ => name = "*" || XPath.isNCName name
  | .selectTagWithAxis name _ => name = "*" || XPath.isNCName name
  | .selectAllTags => true
  | .andAttribute name _ => XPath.isNCName name
  | .orAttribute name _ => XPath.isNCName name
  | .hasAttribute name => XPath.isNCName name
  | .orHasAttribute name => XPath.isNCName name

/-! ## One call -/

/-- What a call asks for, with the quotes of a value doubled. -/
def Ask.quoted : Ask → Ask
  | .select test axis => .select test axis
  | .extend c => .extend c.quoted

theorem ask_quoted (c : Call) : c.quoted.ask = c.ask.quoted := by
  cases c <;> rfl

theorem newSelection_quoted (before : List TagSelection) (test : NodeTest) (axis : Axis) :
    newSelection (before.map TagSelection.quoted) test axis =
      (newSelection before test axis).quoted := by
  have hkey : keyBehind (before.map TagSelection.quoted) test = keyBehind before test := by
    cases test <;> simp [keyBehind, TagSelection.quoted, Function.comp_def]
  rw [newSelection, hkey]
  rfl

theorem addCondition_quoted (s : TagSelection) (c : Condition) :
    s.quoted.addCondition c.quoted = (s.addCondition c).quoted := by
  simp [TagSelection.addCondition, TagSelection.quoted]

/-- Doubling quotes first or last is the same. -/
theorem act_quoted (a : Ask) (before : List TagSelection) :
    a.quoted.act (before.map TagSelection.quoted) = (a.act before).map TagSelection.quoted := by
  cases a with
  | select test axis =>
    rw [Ask.quoted, Ask.act_select, Ask.act_select, newSelection_quoted, List.map_append]
    rfl
  | extend c =>
    rcases List.eq_nil_or_concat' before with rfl | ⟨first, last, rfl⟩
    · rw [List.map_nil, Ask.quoted, Ask.act_extend_nil, Ask.act_extend_nil, List.map_singleton,
        ← addCondition_quoted]
      rfl
    · rw [List.map_append, List.map_singleton, Ask.quoted, Ask.act_extend_concat,
        Ask.act_extend_concat, List.map_append, List.map_singleton, addCondition_quoted]

/-- No call leaves a session without selections. -/
theorem act_ne_nil (a : Ask) (before : List TagSelection) : a.act before ≠ [] := by
  cases a with
  | select test axis => simp
  | extend c => rcases List.eq_nil_or_concat' before with rfl | ⟨first, last, rfl⟩ <;> simp

/-! ## Tests and conditions of a kind -/

/-- Whether what a call asks for is of a kind. -/
def Ask.All (p : NodeTest → Prop) (q : Condition → Prop) : Ask → Prop
  | .select test _ => p test
  | .extend c => q c

/-- A selection whose test and conditions are of a kind. -/
structure TagSelection.All (p : NodeTest → Prop) (q : Condition → Prop) (s : TagSelection) :
    Prop where
  test : p s.test
  conditions : ∀ c ∈ s.conditions, q c

section All

variable {p : NodeTest → Prop} {q : Condition → Prop}

theorem all_addCondition {s : TagSelection} {c : Condition} (hs : s.All p q) (hc : q c) :
    (s.addCondition c).All p q := by
  refine ⟨hs.test, fun d hd => ?_⟩
  rcases List.mem_append.1 hd with hd | hd
  · exact hs.conditions d hd
  · obtain rfl := List.mem_singleton.1 hd
    exact hc

/-- A call of a kind makes selections of this kind. -/
theorem all_act (hany : p .any) {a : Ask} (ha : a.All p q) {before : List TagSelection}
    (h : ∀ s ∈ before, s.All p q) : ∀ s ∈ a.act before, s.All p q := by
  cases a with
  | select test axis =>
    intro s hs
    rw [Ask.act_select, List.mem_append, List.mem_singleton] at hs
    rcases hs with hs | rfl
    · exact h s hs
    · exact ⟨ha, by simp [newSelection]⟩
  | extend c =>
    intro s hs
    rcases List.eq_nil_or_concat' before with rfl | ⟨first, last, rfl⟩
    · rw [Ask.act_extend_nil, List.mem_singleton] at hs
      subst hs
      exact all_addCondition ⟨hany, by simp [newSelection]⟩ ha
    · rw [Ask.act_extend_concat, List.mem_append, List.mem_singleton] at hs
      rcases hs with hs | rfl
      · exact h s (by simp [hs])
      · exact all_addCondition (h last (by simp)) ha

end All

/-- The tag of a well named call is a star or a name, and its attribute is a name. -/
theorem all_ask_of_isWellNamed {c : Call} (h : c.isWellNamed = true) :
    c.ask.All (fun test => test.text = "*" ∨ XPath.isNCName test.text = true)
      (fun d => XPath.isNCName d.name = true) := by
  have htag {name : String} (h : (name = "*" || XPath.isNCName name) = true) :
      name = "*" ∨ XPath.isNCName name = true := by
    rwa [Bool.or_eq_true, decide_eq_true_eq] at h
  cases c with
  | tag name | childTag name | selectTag name _ | selectTagWithAxis name _ => exact htag h
  | selectAllTags => exact .inl rfl
  | andAttribute name _ | orAttribute name _ | hasAttribute name | orHasAttribute name => exact h

/-! ## Chains -/

namespace Builder

/-- The builder after some calls. -/
def calls (b : Builder) (cs : List Call) : Builder :=
  cs.foldl call b

@[simp] theorem calls_nil (b : Builder) : b.calls [] = b := rfl

@[simp] theorem calls_concat (b : Builder) (cs : List Call) (c : Call) :
    b.calls (cs ++ [c]) = (b.calls cs).call c := by
  simp [calls]

theorem settled_calls (cs : List Call) : (new.calls cs).Settled := by
  induction cs using List.reverseRec with
  | nil => exact settled_new
  | append_singleton cs c ih =>
    rw [calls_concat]
    exact settled_call ih c

theorem selections_calls_concat (cs : List Call) (c : Call) :
    (new.calls (cs ++ [c])).selections = c.ask.act (new.calls cs).selections := by
  rw [calls_concat, selections_call (settled_calls cs)]

/-- **A chain with doubled quotes makes the same selections**, with doubled quotes. -/
theorem selections_calls_quoted (cs : List Call) :
    (new.calls (cs.map Call.quoted)).selections =
      (new.calls cs).selections.map TagSelection.quoted := by
  induction cs using List.reverseRec with
  | nil => rfl
  | append_singleton cs c ih =>
    rw [List.map_append, List.map_singleton, selections_calls_concat, selections_calls_concat, ih,
      ask_quoted, act_quoted]

/-- **A chain of calls of a kind makes selections of this kind**, if the test for any element is of
it. -/
theorem all_calls {p : NodeTest → Prop} {q : Condition → Prop} (hany : p .any) {cs : List Call}
    (h : ∀ c ∈ cs, c.ask.All p q) : ∀ s ∈ (new.calls cs).selections, s.All p q := by
  induction cs using List.reverseRec with
  | nil => simp [new, selections]
  | append_singleton cs c ih =>
    rw [selections_calls_concat]
    exact all_act hany (h c (by simp)) (ih fun d hd => h d (by simp [hd]))

/-- **A chain of well named calls makes well named selections.** -/
theorem wellNamed_calls {cs : List Call} (h : ∀ c ∈ cs, c.isWellNamed = true) :
    ∀ s ∈ (new.calls cs).selections, s.WellNamed := by
  intro s hs
  have hall := all_calls (.inl rfl) (fun c hc => all_ask_of_isWellNamed (h c hc)) s hs
  exact ⟨hall.test.imp_right XPath.isName_of_isNCName,
    fun c hc => XPath.isName_of_isNCName (hall.conditions c hc)⟩

theorem selections_calls_ne_nil {cs : List Call} (h : cs ≠ []) :
    (new.calls cs).selections ≠ [] := by
  rcases List.eq_nil_or_concat' cs with rfl | ⟨first, c, rfl⟩
  · exact absurd rfl h
  · rw [selections_calls_concat]
    exact act_ne_nil _ _

end Builder

/-! ## Values without quotes -/

/-- Whether the value in a call has no single quotes. -/
def Call.isQuoteFree : Call → Bool
  | .andAttribute _ value | .orAttribute _ value => value.all fun v => '\'' ∉ v.toList
  | _ => true

/-- Whether a call has a proper name and no quotes. -/
def Call.isSimple (c : Call) : Bool :=
  c.isWellNamed && c.isQuoteFree

/-- A test that is a star or a name without colons. -/
def NodeTest.Simple (test : NodeTest) : Prop :=
  test.text = "*" ∨ XPath.isNCName test.text = true

/-- A condition with a name without colons and a value without quotes. -/
structure Condition.Simple (c : Condition) : Prop where
  name : XPath.isNCName c.name = true
  value : ∀ v ∈ c.value, '\'' ∉ v.toList

/-- A selection with a simple test and simple conditions. -/
abbrev TagSelection.Simple (s : TagSelection) : Prop :=
  s.All NodeTest.Simple Condition.Simple

theorem not_mem_of_all {value : Option String}
    (h : (value.all fun v => '\'' ∉ v.toList) = true) : ∀ v ∈ value, '\'' ∉ v.toList := by
  rintro v rfl
  simpa using h

theorem map_quoted_of_free {value : Option String} (h : ∀ v ∈ value, '\'' ∉ v.toList) :
    value.map quoted = value := by
  cases value with
  | none => rfl
  | some v => rw [Option.map_some, quoted_of_free (h v rfl)]

theorem Call.isWellNamed_of_isSimple {c : Call} (h : c.isSimple = true) : c.isWellNamed = true :=
  (Bool.and_eq_true_iff.1 h).1

/-- Without quotes there is nothing to double. -/
theorem Call.quoted_of_isSimple {c : Call} (h : c.isSimple = true) : c.quoted = c := by
  have hfree := (Bool.and_eq_true_iff.1 h).2
  cases c with
  | andAttribute name value | orAttribute name value =>
    rw [quoted, map_quoted_of_free (not_mem_of_all hfree)]
  | _ => rfl

theorem Call.map_quoted_of_isSimple {cs : List Call} (h : ∀ c ∈ cs, c.isSimple = true) :
    cs.map quoted = cs :=
  (List.map_congr_left fun c hc => quoted_of_isSimple (h c hc)).trans (List.map_id cs)

theorem all_ask_of_isSimple {c : Call} (h : c.isSimple = true) :
    c.ask.All NodeTest.Simple Condition.Simple := by
  have hnamed := all_ask_of_isWellNamed (Call.isWellNamed_of_isSimple h)
  have hfree := (Bool.and_eq_true_iff.1 h).2
  cases c with
  | tag name | childTag name | selectTag name _ | selectTagWithAxis name _ => exact hnamed
  | selectAllTags => exact hnamed
  | andAttribute name value | orAttribute name value => exact ⟨hnamed, not_mem_of_all hfree⟩
  | hasAttribute name | orHasAttribute name => exact ⟨hnamed, nofun⟩

/-- **A chain of simple calls makes simple selections.** -/
theorem Builder.simple_calls {cs : List Call} (h : ∀ c ∈ cs, c.isSimple = true) :
    ∀ s ∈ (new.calls cs).selections, s.Simple :=
  all_calls (.inl rfl) fun c hc => all_ask_of_isSimple (h c hc)

theorem TagSelection.Simple.wellNamed {s : TagSelection} (h : s.Simple) : s.WellNamed :=
  ⟨h.test.imp_right XPath.isName_of_isNCName,
    fun c hc => XPath.isName_of_isNCName (h.conditions c hc).name⟩

theorem TagSelection.Simple.quoted_eq {s : TagSelection} (h : s.Simple) : s.quoted = s := by
  have hcondition : ∀ c ∈ s.conditions, c.quoted = c := by
    intro c hc
    rw [Condition.quoted, map_quoted_of_free (h.conditions c hc).value]
  rw [TagSelection.quoted, List.map_congr_left hcondition, List.map_id']

/-- The quotes in simple selections are doubled already, there being none. -/
theorem map_quoted_of_simple {selections : List TagSelection} (h : ∀ s ∈ selections, s.Simple) :
    selections.map TagSelection.quoted = selections :=
  (List.map_congr_left fun s hs => (h s hs).quoted_eq).trans (List.map_id selections)

end MarkupQuery.Query
