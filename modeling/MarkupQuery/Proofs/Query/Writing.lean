import MarkupQuery.Proofs.Query.Decoding
import MarkupQuery.Proofs.Query.Runs

/-!
# Writing a query as the calls come in

The text of a query can be written without a path. A `Writer` holds the text so far and what stands
at its end: a tag call adds a step behind it, and a condition call puts a predicate behind a step or
goes on with the predicate that is there, for which it takes the closing bracket back. It remembers
no selections, no keys and no joins.

A builder, which keeps all this and renders it when it is asked to, gives the same texts after any
steps (`Builder.text_run_eq_writer`): what a writer has written is a function of the selections
(`written`), and a call changes it just as it changes the selections (`written_call`). A writer
never goes back behind a step that it has added (`Writer.Keeps`), whatever brackets and slashes
stand in the names.
-/

namespace MarkupQuery.Query

/-! ## Writers -/

/-- What stands at the end of a text. -/
inductive Ending
  /-- The text is empty. -/
  | nothing
  /-- A step without a predicate. -/
  | step
  /-- A predicate. -/
  | predicate
  deriving DecidableEq

/-- A text that is being written. -/
structure Writer where
  text : String := ""
  ending : Ending := .nothing
  deriving DecidableEq

/-- A text without its last character. -/
def withoutLast (s : String) : String :=
  String.ofList s.toList.dropLast

/-- The test for an attribute, or for its equality with a value. -/
def attributeTest (name : String) : Option String → String
  | some value => "@" ++ name ++ "='" ++ value ++ "'"
  | none => "@" ++ name

namespace Writer

/-- Adds a step. -/
def addStep (w : Writer) (separator name : String) : Writer :=
  { text := w.text ++ separator ++ name, ending := .step }

/-- Adds a test, joined by a word with those that stand before it in its predicate. -/
def addTest (w : Writer) (word test : String) : Writer :=
  match w.ending with
  | .nothing => { text := "//*[" ++ test ++ "]", ending := .predicate }
  | .step => { text := w.text ++ "[" ++ test ++ "]", ending := .predicate }
  | .predicate =>
    { text := withoutLast w.text ++ " " ++ word ++ " " ++ test ++ "]", ending := .predicate }

/-- A predicate at the end goes on where its bracket stood. -/
theorem addTest_of_predicate {w : Writer} {base : String} (htext : w.text = base ++ "]")
    (hending : w.ending = .predicate) (word test : String) :
    w.addTest word test =
      { text := base ++ " " ++ word ++ " " ++ test ++ "]", ending := .predicate } := by
  have hback : withoutLast (base ++ "]") = base := by simp [withoutLast]
  rw [addTest, hending, htext, hback]

/-- What a call adds. -/
def call (w : Writer) : Call → Writer
  | .tag name => w.addStep "//" name
  | .childTag name => w.addStep "/" name
  | .selectTag name recursive => w.addStep (if recursive then "//" else "/") name
  | .selectTagWithAxis name axis => w.addStep axis.text name
  | .selectAllTags => w.addStep "//" "*"
  | .andAttribute name value => w.addTest "and" (attributeTest name value)
  | .orAttribute name value => w.addTest "or" (attributeTest name value)
  | .hasAttribute name => w.addTest "and" (attributeTest name none)
  | .orHasAttribute name => w.addTest "or" (attributeTest name none)

/-- The text that a step answers with, if any, and the writer after it. -/
def step (w : Writer) : Builder.Step → Option String × Writer
  | .call c => (none, w.call c)
  | .build => (some w.text, {})
  | .peek => (some w.text, w)
  | .reset => (none, {})

/-- The writer after some steps. -/
def run (w : Writer) (steps : List Builder.Step) : Writer :=
  steps.foldl (fun w x => (w.step x).2) w

@[simp] theorem run_concat (w : Writer) (steps : List Builder.Step) (x : Builder.Step) :
    w.run (steps ++ [x]) = ((w.run steps).step x).2 := by
  simp [run]

theorem run_append (w : Writer) (steps later : List Builder.Step) :
    w.run (steps ++ later) = (w.run steps).run later := by
  simp [run]

/-- The nine calls add a step or a test. -/
theorem call_of_select (w : Writer) {c : Call} {test : NodeTest} {axis : Axis}
    (h : c.ask = .select test axis) : w.call c = w.addStep axis.text test.text := by
  cases c <;> simp only [Call.ask, Ask.select.injEq, reduceCtorEq] at h <;>
    obtain ⟨rfl, rfl⟩ := h
  case selectTag name recursive => cases recursive <;> rfl
  all_goals rfl

theorem call_of_extend (w : Writer) {c : Call} {d : Condition} (h : c.ask = .extend d) :
    w.call c = w.addTest d.join.text d.text := by
  have htext (name : String) (value : Option String) (join : Join) :
      attributeTest name value = Condition.text { name := name, value := value, join := join } := by
    cases value <;> rfl
  cases c <;> simp only [Call.ask, Ask.extend.injEq, reduceCtorEq] at h <;> subst h <;>
    rw [← htext] <;> rfl

end Writer

/-! ## What is written for selections -/

/-- What stands at the end of the text of some selections. -/
def endingOf (selections : List TagSelection) : Ending :=
  match selections.getLast? with
  | none => .nothing
  | some s => if s.conditions.isEmpty then .step else .predicate

/-- What a writer has written for some selections. -/
def written (selections : List TagSelection) : Writer :=
  { text := Path.text { selections := selections }, ending := endingOf selections }

theorem text_concat (before : List TagSelection) (s : TagSelection) :
    Path.text { selections := before ++ [s] } = Path.text { selections := before } ++ s.text := by
  induction before with
  | nil => exact String.append_empty
  | cons r before ih =>
    have hcons (rest : List TagSelection) : Path.text { selections := r :: rest } =
        r.text ++ Path.text { selections := rest } := rfl
    rw [List.cons_append, hcons, hcons, ih, String.append_assoc]

theorem written_concat (before : List TagSelection) (s : TagSelection) :
    written (before ++ [s]) =
      { text := Path.text { selections := before } ++ s.text
        ending := if s.conditions.isEmpty then .step else .predicate } := by
  rw [written, text_concat, endingOf, List.getLast?_concat]

/-- A new selection is a step. -/
theorem written_select (before : List TagSelection) (test : NodeTest) (axis : Axis) :
    written ((Ask.select test axis).act before) =
      (written before).addStep axis.text test.text := by
  have htext : (newSelection before test axis).text = axis.text ++ test.text :=
    String.append_empty
  rw [Ask.act_select, written_concat, htext, Writer.addStep, written, String.append_assoc]
  rfl

theorem joinedText_concat (cs : List Condition) (c : Condition) :
    joinedText (cs ++ [c]) = joinedText cs ++ " " ++ c.join.text ++ " " ++ c.text := by
  induction cs with
  | nil => simp [joinedText]
  | cons d cs ih => simp only [List.cons_append, joinedText, ih, String.append_assoc]

/-- A predicate goes on where its closing bracket stands. -/
theorem exists_predicateText_eq (c : Condition) (cs : List Condition) :
    ∃ inner, predicateText (c :: cs) = inner ++ "]" ∧ ∀ d : Condition,
      predicateText (c :: cs ++ [d]) = inner ++ " " ++ d.join.text ++ " " ++ d.text ++ "]" := by
  refine ⟨"[" ++ c.text ++ joinedText cs, rfl, fun d => ?_⟩
  rw [List.cons_append, predicateText, joinedText_concat]
  simp only [String.append_assoc]

/-- A further condition of a selection is a test. -/
theorem written_extend (before : List TagSelection) (s : TagSelection) (d : Condition) :
    written (before ++ [s.addCondition d]) =
      (written (before ++ [s])).addTest d.join.text d.text := by
  have hselection : (s.addCondition d).text =
      s.axis.text ++ s.test.text ++ predicateText (s.conditions ++ [d]) := rfl
  cases hconditions : s.conditions with
  | nil =>
    have hstep : (written (before ++ [s])).ending = .step := by
      rw [written_concat, hconditions]
      rfl
    have hpredicate : predicateText ([] ++ [d]) = "[" ++ d.text ++ "]" := by
      simp [predicateText, joinedText]
    rw [Writer.addTest, hstep, written_concat, written_concat, hselection, TagSelection.text,
      TagSelection.addCondition, hconditions, hpredicate]
    simp [predicateText, String.append_assoc]
  | cons c cs =>
    obtain ⟨inner, hlast, hmore⟩ := exists_predicateText_eq c cs
    have htext : (written (before ++ [s])).text =
        Path.text { selections := before } ++ (s.axis.text ++ s.test.text ++ inner) ++ "]" := by
      rw [written_concat, TagSelection.text, hconditions, hlast]
      simp only [String.append_assoc]
    have hpredicate : (written (before ++ [s])).ending = .predicate := by
      rw [written_concat, hconditions]
      rfl
    rw [Writer.addTest_of_predicate htext hpredicate, written_concat, hselection, hconditions,
      hmore, TagSelection.addCondition]
    simp [String.append_assoc]

/-- What ends with a predicate ends with its bracket. -/
theorem exists_text_eq_of_predicate {selections : List TagSelection}
    (h : (written selections).ending = .predicate) :
    ∃ inner, (written selections).text = inner ++ "]" := by
  rcases List.eq_nil_or_concat' selections with rfl | ⟨before, s, rfl⟩
  · cases h
  · rw [written_concat] at h ⊢
    cases hconditions : s.conditions with
    | nil => simp [hconditions] at h
    | cons c cs =>
      obtain ⟨inner, hlast, -⟩ := exists_predicateText_eq c cs
      refine ⟨Path.text { selections := before } ++ (s.axis.text ++ s.test.text ++ inner), ?_⟩
      rw [TagSelection.text, hconditions, hlast]
      simp only [String.append_assoc]

/-- **A call changes what is written as it changes the selections.** -/
theorem written_call {b : Builder} (h : b.Settled) (c : Call) :
    written (b.call c).selections = (written b.selections).call c := by
  rw [Builder.selections_call h]
  cases ha : c.ask with
  | select test axis => rw [written_select, Writer.call_of_select _ ha]
  | extend d =>
    rw [Writer.call_of_extend _ ha]
    rcases List.eq_nil_or_concat' b.selections with hb | ⟨before, last, hb⟩
    · rw [hb, Ask.act_extend_nil, ← List.nil_append [TagSelection.addCondition _ d],
        written_extend]
      rfl
    · rw [hb, Ask.act_extend_concat, written_extend]

/-! ## Steps -/

namespace Builder

theorem written_step {b : Builder} (h : b.Settled) (x : Step) :
    written (b.step x).2.selections = ((written b.selections).step x).2 := by
  cases x with
  | call c => exact written_call h c
  | build => rfl
  | peek => rfl
  | reset => rfl

/-- **A builder's selections say what has been written**, after any steps. -/
theorem written_run (steps : List Step) :
    written (new.run steps).selections = Writer.run {} steps := by
  induction steps using List.reverseRec with
  | nil => rfl
  | append_singleton steps x ih =>
    rw [run_concat, written_step (settled_run steps), ih, Writer.run_concat]

/-- A builder answers as the writer of its selections. -/
theorem answer_step (b : Builder) (x : Step) :
    (b.step x).1 = ((written b.selections).step x).1 := by
  cases x <;> rfl

end Builder

/-! ## What is never taken back -/

namespace Writer

/-- A writer whose text begins with a base that it does not go back behind: if its text ends with a
predicate, the closing bracket is not a part of the base. -/
structure Keeps (base : String) (w : Writer) : Prop where
  begins : ∃ more, w.text = base ++ more ∧ (w.ending = .predicate → ∃ inner, more = inner ++ "]")
  nothing : w.ending = .nothing → base = ""

theorem keeps_addStep {base : String} {w : Writer} (h : w.Keeps base) (separator name : String) :
    (w.addStep separator name).Keeps base := by
  obtain ⟨more, htext, -⟩ := h.begins
  refine ⟨⟨more ++ separator ++ name, ?_, nofun⟩, nofun⟩
  rw [addStep, htext]
  simp only [String.append_assoc]

theorem keeps_addTest {base : String} {w : Writer} (h : w.Keeps base) (word test : String) :
    (w.addTest word test).Keeps base := by
  obtain ⟨more, htext, hbracket⟩ := h.begins
  cases hending : w.ending with
  | nothing =>
    rw [addTest, hending, h.nothing hending]
    exact ⟨⟨_, String.empty_append.symm, fun _ => ⟨_, rfl⟩⟩, nofun⟩
  | step =>
    rw [addTest, hending, htext]
    refine ⟨⟨more ++ "[" ++ test ++ "]", ?_, fun _ => ⟨_, rfl⟩⟩, nofun⟩
    simp only [String.append_assoc]
  | predicate =>
    obtain ⟨inner, rfl⟩ := hbracket hending
    rw [← String.append_assoc] at htext
    rw [addTest_of_predicate htext hending]
    refine ⟨⟨inner ++ " " ++ word ++ " " ++ test ++ "]", ?_, fun _ => ⟨_, rfl⟩⟩, nofun⟩
    simp only [String.append_assoc]

theorem keeps_call {base : String} {w : Writer} (h : w.Keeps base) (c : Call) :
    (w.call c).Keeps base := by
  cases ha : c.ask with
  | select test axis =>
    rw [call_of_select w ha]
    exact keeps_addStep h _ _
  | extend d =>
    rw [call_of_extend w ha]
    exact keeps_addTest h _ _

/-- Behind a step that was added, the text before it stays. -/
theorem keeps_of_addStep (w : Writer) (separator name : String) :
    (w.addStep separator name).Keeps (w.text ++ separator ++ name) :=
  ⟨⟨"", String.append_empty.symm, nofun⟩, nofun⟩

end Writer

/-- Whether a step leaves the query under way. -/
def Builder.Step.goesOn : Builder.Step → Bool
  | .call _ | .peek => true
  | .build | .reset => false

theorem Writer.keeps_run {base : String} {w : Writer} (h : w.Keeps base)
    {later : List Builder.Step} (hlater : ∀ x ∈ later, x.goesOn = true) :
    (w.run later).Keeps base := by
  induction later using List.reverseRec with
  | nil => exact h
  | append_singleton later x ih =>
    have hbefore := ih fun y hy => hlater y (List.mem_append_left _ hy)
    have hx := hlater x (by simp)
    rw [run_concat]
    cases x with
    | call c => exact keeps_call hbefore c
    | peek => exact hbefore
    | build => simp [Builder.Step.goesOn] at hx
    | reset => simp [Builder.Step.goesOn] at hx

/-- **A builder writes what a writer writes.** After any steps, with any names and values, the text
of its query is the writer's text, and a further step is answered alike. The bracket that a writer
takes back is one that stands at the end. The text shows neither the keys of the selections, nor the
join of the first condition of a predicate, nor whether a `*` is a name; and what is written up to
and with a tag call stays at the front, whatever is called later in the same session. -/
theorem Builder.text_run_eq_writer (steps : List Step) :
    (new.run steps).peek = (Writer.run {} steps).text ∧
      (∀ x, ((new.run steps).step x).1 = ((Writer.run {} steps).step x).1) ∧
      ((Writer.run {} steps).ending = .predicate →
        ∃ inner, (Writer.run {} steps).text = inner ++ "]") ∧
      (∀ b b' : Builder, b.path.Agrees b'.path → b.peek = b'.peek) ∧
      ∀ c test axis later, c.ask = .select test axis → (∀ x ∈ later, x.goesOn = true) →
        ∃ more, (new.run (steps ++ .call c :: later)).peek =
          (new.run steps).peek ++ axis.text ++ test.text ++ more := by
  have hpeek (steps : List Step) : (new.run steps).peek = (Writer.run {} steps).text := by
    rw [← written_run]
    rfl
  refine ⟨hpeek steps, fun x => ?_, fun hending => ?_, fun b b' h => ?_,
    fun c test axis later hc hlater => ?_⟩
  · rw [answer_step, written_run]
  · rw [← written_run] at hending ⊢
    exact exists_text_eq_of_predicate hending
  · exact Path.text_eq_of_agrees h
  · have hkeeps : (((Writer.run {} steps).call c).run later).Keeps
        ((Writer.run {} steps).text ++ axis.text ++ test.text) := by
      rw [Writer.call_of_select _ hc]
      exact Writer.keeps_run (Writer.keeps_of_addStep _ _ _) hlater
    obtain ⟨more, hmore, -⟩ := hkeeps.begins
    refine ⟨more, ?_⟩
    rw [hpeek, hpeek, Writer.run_append]
    exact hmore

end MarkupQuery.Query
