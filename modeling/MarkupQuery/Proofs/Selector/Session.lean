import Mathlib.Data.List.DropRight
import MarkupQuery.Proofs.Query.Runs
import MarkupQuery.Selector

/-!
# The sessions of a selector

A terminal of a selector ends a session, whether it succeeds or fails, and so do the build and the
reset of the embedded builder (`Selector.builder_of_endsSession`); no step touches the document
(`Selector.document_step`). Hence a selector that has been in use cannot be told from a fresh one
that took only the steps of the session under way (`Selector.run_eq_run_session`): what a step
answers, and what the builder shows behind it, is a matter of this session alone
(`Selector.answers_of_session_alone`).
-/

namespace MarkupQuery

open Query (TagSelection BuilderState Builder)

/-- What a builder shows without being changed. -/
structure Query.Builder.View where
  selections : List TagSelection
  current : Option TagSelection
  len : Nat
  state : BuilderState
  isEmpty : Bool
  /-- The text of the query so far. -/
  peek : String

/-- The view of a builder. -/
def Query.Builder.view (b : Builder) : Builder.View :=
  { selections := b.selections, current := b.currentSelection, len := b.len, state := b.state
    isEmpty := b.isEmpty, peek := b.peek }

namespace Selector

/-- Whether a step ends the session under way: a terminal, or the embedded builder's own build or
reset. -/
def Step.endsSession : Step → Bool
  | .select _ | .length _ | .toQuery => true
  | .builder .build | .builder .reset => true
  | .builder (.call _) | .builder .peek | .call _ => false

/-- The steps behind the last one that ended a session. -/
def session (steps : List Step) : List Step :=
  steps.rtakeWhile fun x => !x.endsSession

/-- The selector after some steps. -/
def run (s : Selector) (steps : List Step) : Selector :=
  steps.foldl (fun s x => (s.step x).2) s

@[simp] theorem run_concat (s : Selector) (steps : List Step) (x : Step) :
    s.run (steps ++ [x]) = ((s.run steps).step x).2 := by
  simp [run]

theorem session_concat (steps : List Step) (x : Step) :
    session (steps ++ [x]) = if x.endsSession then [] else session steps ++ [x] := by
  cases h : x.endsSession <;> simp [session, h]

/-! ## What a step keeps -/

/-- Queries are evaluated against the document; they leave it as it is. -/
theorem document_step (s : Selector) (x : Step) : (s.step x).2.document = s.document := by
  cases x <;> rfl

theorem document_run (s : Selector) (steps : List Step) :
    (s.run steps).document = s.document := by
  induction steps using List.reverseRec with
  | nil => rfl
  | append_singleton steps x ih => rw [run_concat, document_step, ih]

/-- A step that ends a session leaves an empty builder, whatever its answer is. -/
theorem builder_of_endsSession (s : Selector) {x : Step} (h : x.endsSession = true) :
    (s.step x).2.builder = .new := by
  cases x with
  | call c => simp [Step.endsSession] at h
  | builder b =>
    cases b with
    | call c => simp [Step.endsSession] at h
    | peek => simp [Step.endsSession] at h
    | build => rfl
    | reset => rfl
  | select => rfl
  | length => rfl
  | toQuery => rfl

theorem step_of_endsSession (s : Selector) {x : Step} (h : x.endsSession = true) :
    (s.step x).2 = ofDocument s.document := by
  have hbuilder := builder_of_endsSession s h
  have hdocument := document_step s x
  cases hs : (s.step x).2 with
  | mk document builder =>
    rw [hs] at hbuilder hdocument
    subst hbuilder hdocument
    rfl

/-! ## Runs -/

/-- **A used selector is a fresh one that took the steps of its last session**: each step that ends
a session brings both to the same state, and between those they take the same steps. -/
theorem run_eq_run_session (d : Document) (steps : List Step) :
    (ofDocument d).run steps = (ofDocument d).run (session steps) := by
  induction steps using List.reverseRec with
  | nil => rfl
  | append_singleton steps x ih =>
    rw [session_concat]
    cases h : x.endsSession with
    | true =>
      rw [run_concat, step_of_endsSession _ h, document_run]
      rfl
    | false =>
      rw [run_concat, ih, ← run_concat]
      rfl

/-- **Nothing passes from one session into the next.** After any steps before it, a step answers
what it answers a fresh selector for the same markup that took only the steps of the session under
way; what the builder shows then is what it shows a fresh selector that took only the steps since
the last end of a session; and the document, with its tree, its diagnostics and its number of
elements, is the one that was made at first. -/
theorem answers_of_session_alone (o : Document.Options) (html : String) (earlier : List Step)
    (x : Step) :
    (((withOptions o html).run earlier).step x).1 =
        (((withOptions o html).run (session earlier)).step x).1 ∧
      ((withOptions o html).run (earlier ++ [x])).builder.view =
        ((withOptions o html).run (session (earlier ++ [x]))).builder.view ∧
      ((withOptions o html).run (earlier ++ [x])).document = .parseWith o html := by
  have hfresh : withOptions o html = ofDocument (.parseWith o html) := rfl
  rw [hfresh]
  refine ⟨?_, ?_, ?_⟩
  · rw [run_eq_run_session _ earlier]
  · rw [run_eq_run_session _ (earlier ++ [x])]
  · exact document_run _ _

end Selector

end MarkupQuery
