import MarkupQuery.Proofs.Selector.Chain
import MarkupQuery.Proofs.Selector.Session

/-!
# The terminals of a selector

The three terminals answer for one text, that of the query under way: one gives it, one passes on
what the document gives for it, and one counts this (`Selector.terminals_agree`). There is nothing
to evaluate just if the session has no calls (`Selector.selections_run_eq_nil_iff`), since a query
with selections has a text, even if all its names are empty. Any other failure carries the text
(`Document.error_of_evaluate`). Whatever the answer is, the selector is ready for the next query.
-/

namespace MarkupQuery

namespace Document

theorem error_of_compile {query : String} {e : SelectError} (h : compile query = .error e) :
    ∃ code, e = .compile query code := by
  rw [compile] at h
  split at h
  · exact ⟨_, (Except.error.inj h).symm⟩
  · split at h
    · exact ⟨_, (Except.error.inj h).symm⟩
    · cases h

theorem error_of_execute {d : Document} {w : XPath.Surroundings} {query : String}
    {expr : XPath.Expr} {e : SelectError} (h : d.execute w query expr = .error e) :
    ∃ code, e = .evaluation query code := by
  rw [execute] at h
  split at h
  · exact ⟨_, (Except.error.inj h).symm⟩
  · split at h
    · exact ⟨_, (Except.error.inj h).symm⟩
    · cases h

/-- **A failure carries the query**, unless there is none. -/
theorem error_of_evaluate {d : Document} {w : XPath.Surroundings} {query : String}
    {e : SelectError} (h : d.evaluate query w = .error e) :
    (query.isEmpty = true ∧ e = .emptyQuery) ∨
      (∃ code, e = .compile query code) ∨ ∃ code, e = .evaluation query code := by
  rw [evaluate] at h
  split_ifs at h with hempty
  · exact .inl ⟨hempty, (Except.error.inj h).symm⟩
  · cases hcompile : compile query with
    | error f =>
      rw [hcompile] at h
      obtain rfl := Except.error.inj h
      exact .inr (.inl (error_of_compile hcompile))
    | ok expr =>
      rw [hcompile] at h
      exact .inr (.inr (error_of_execute h))

/-- Only the empty text is an empty query. -/
theorem evaluate_eq_emptyQuery_iff {d : Document} {w : XPath.Surroundings} {query : String} :
    d.evaluate query w = .error .emptyQuery ↔ query.isEmpty = true := by
  constructor
  · intro h
    rcases error_of_evaluate h with ⟨hempty, -⟩ | ⟨code, hcode⟩ | ⟨code, hcode⟩
    · exact hempty
    · cases hcode
    · cases hcode
  · intro h
    rw [evaluate, if_pos h]

end Document

namespace Selector

open Query (Builder)
open XPath (Surroundings)

/-- Whether a step is a call that adds to the query, of the selector or of its builder. -/
def Step.selects : Step → Bool
  | .call _ | .builder (.call _) => true
  | .builder .build | .builder .peek | .builder .reset => false
  | .select _ | .length _ | .toQuery => false

/-! ## The query of a session -/

theorem settled_step {s : Selector} (h : s.builder.Settled) (x : Step) :
    (s.step x).2.builder.Settled := by
  cases x with
  | call c => exact Builder.settled_call h c
  | builder b => exact Builder.settled_step h b
  | select => exact Builder.settled_new
  | length => exact Builder.settled_new
  | toQuery => exact Builder.settled_new

theorem settled_run {s : Selector} (h : s.builder.Settled) (steps : List Step) :
    (s.run steps).builder.Settled := by
  induction steps using List.reverseRec with
  | nil => exact h
  | append_singleton steps x ih =>
    rw [run_concat]
    exact settled_step ih x

/-- A session goes on without selections just if the next step makes none. -/
theorem selections_step_eq_nil_iff {s : Selector} (h : s.builder.Settled) {x : Step}
    (hx : x.endsSession = false) :
    (s.step x).2.builder.selections = [] ↔ s.builder.selections = [] ∧ x.selects = false := by
  have hcall (c : Query.Call) : (s.builder.call c).selections ≠ [] := by
    rw [Builder.selections_call h]
    exact Query.act_ne_nil _ _
  cases x with
  | call c => exact iff_of_false (hcall c) (by simp [Step.selects])
  | builder b =>
    cases b with
    | call c => exact iff_of_false (hcall c) (by simp [Step.selects])
    | peek => exact (and_iff_left rfl).symm
    | build => simp [Step.endsSession] at hx
    | reset => simp [Step.endsSession] at hx
  | select => simp [Step.endsSession] at hx
  | length => simp [Step.endsSession] at hx
  | toQuery => simp [Step.endsSession] at hx

/-- **A selector has no selections just if its session has no calls.** -/
theorem selections_run_eq_nil_iff (d : Document) (steps : List Step) :
    ((ofDocument d).run steps).builder.selections = [] ↔
      ∀ x ∈ session steps, x.selects = false := by
  induction steps using List.reverseRec with
  | nil => simp [session, run, ofDocument, Builder.new, Builder.selections]
  | append_singleton steps x ih =>
    rw [run_concat, session_concat]
    cases hx : x.endsSession with
    | true =>
      rw [step_of_endsSession _ hx]
      simp [ofDocument, Builder.new, Builder.selections]
    | false =>
      rw [selections_step_eq_nil_iff (settled_run Builder.settled_new steps) hx, ih]
      simp [or_imp, forall_and]

/-- The text of a query is empty just if it has no selections. -/
theorem isEmpty_peek_iff (b : Builder) : b.peek.isEmpty = true ↔ b.selections = [] := by
  constructor
  · intro h
    by_contra hne
    have htext : b.peek.isEmpty = false := Document.isEmpty_text hne
    rw [htext] at h
    cases h
  · intro h
    have htext : b.peek = Query.Path.text { selections := b.selections } := rfl
    rw [htext, h]
    rfl

/-! ## Terminals -/

theorem select_eq_emptyQuery_iff (s : Selector) (w : Surroundings) :
    (s.select w).1 = .error .emptyQuery ↔ s.builder.selections = [] := by
  rw [← isEmpty_peek_iff, ← Document.evaluate_eq_emptyQuery_iff (d := s.document) (w := w),
    select_eq]
  cases s.document.evaluate s.builder.peek w <;> simp [Except.map]

theorem error_of_select {s : Selector} {w : Surroundings} {e : SelectError}
    (h : (s.select w).1 = .error e) :
    e = .emptyQuery ∨ (∃ code, e = .compile s.builder.peek code) ∨
      ∃ code, e = .evaluation s.builder.peek code := by
  rw [select_eq] at h
  cases hevaluate : s.document.evaluate s.builder.peek w with
  | ok nodes =>
    rw [hevaluate] at h
    cases h
  | error f =>
    rw [hevaluate] at h
    obtain rfl := Except.error.inj h
    exact (Document.error_of_evaluate hevaluate).imp_left And.right

/-- **The terminals agree** on the query under way, after any steps with any names and values and in
any surroundings. The answer is what the document gives for the text of the query: the selection of
the nodes that it gives, or its failure. There is nothing to evaluate just if no call was made since
the session began; any other failure carries the text. The number is that of the nodes of the
selection, or zero for a failure. Each terminal leaves an empty builder, and the document as it
was. -/
theorem terminals_agree (o : Document.Options) (html : String) (steps : List Step)
    (w : Surroundings) :
    let s := (withOptions o html).run steps
    let query := s.builder.peek
    (s.select w).1 = ((Document.parseWith o html).evaluate query w).map (fun nodes =>
        { query := query, nodes := nodes }) ∧
      ((s.select w).1 = .error .emptyQuery ↔ ∀ x ∈ session steps, x.selects = false) ∧
      (∀ e, (s.select w).1 = .error e →
        e = .emptyQuery ∨ (∃ code, e = .compile query code) ∨ ∃ code, e = .evaluation query code) ∧
      s.toQuery.1 = query ∧
      (∀ found, (s.select w).1 = .ok found → (s.length w).1 = found.nodes.length) ∧
      (∀ e, (s.select w).1 = .error e → (s.length w).1 = 0) ∧
      ∀ after ∈ [(s.select w).2, (s.length w).2, s.toQuery.2],
        after.document = .parseWith o html ∧ after.builder.state = .empty ∧
          after.builder.selections = [] ∧ after.builder.currentSelection = none := by
  intro s query
  have hdocument : s.document = .parseWith o html := document_run _ steps
  refine ⟨?_, ?_, fun e => error_of_select, rfl, fun found => length_of_select_ok,
    fun e => length_of_select, ?_⟩
  · rw [select_eq, hdocument]
  · rw [select_eq_emptyQuery_iff]
    exact selections_run_eq_nil_iff _ steps
  · intro after hafter
    have hnew : after.builder = .new ∧ after.document = s.document := by
      simp only [List.mem_cons, List.not_mem_nil, or_false] at hafter
      rcases hafter with rfl | rfl | rfl <;> exact ⟨rfl, rfl⟩
    rw [hnew.1, hnew.2, hdocument]
    exact ⟨rfl, rfl, rfl, rfl⟩

end Selector

end MarkupQuery
