import MarkupQuery.Proofs.Query.Changes
import MarkupQuery.Proofs.Query.Decoding
import MarkupQuery.Proofs.Selector.Chain

/-!
# Widening and narrowing a chain

If one selection of a chain gets wider, at any place in the chain, no node is lost from its result,
and if one gets narrower, none is added (`Selector.nodes_subset_of_change`). The changed selections
are those of another chain, up to what their text does not show (`Query.Makes`); there is always one
(`Query.exists_makes`), and it does not matter which (`Selector.exists_select_of_makes`).
-/

namespace MarkupQuery

/-! ## Chains for selections -/

namespace Query

/-- A chain makes selections that have the text of given ones. -/
def Makes (cs : List Call) (selections : List TagSelection) : Prop :=
  (Builder.new.calls cs).path.Agrees { selections := selections }

theorem conditionsAgree_refl (conditions : List Condition) :
    conditionsAgree conditions conditions := by
  cases conditions with
  | nil => trivial
  | cons c cs => exact ⟨rfl, rfl, rfl⟩

theorem Path.Agrees.refl (p : Path) : p.Agrees p :=
  List.forall₂_same.2 fun s _ => ⟨rfl, rfl, conditionsAgree_refl s.conditions⟩

/-- The call for a condition. -/
def Condition.call (c : Condition) : Call :=
  match c.join with
  | .and => .andAttribute c.name c.value
  | .or => .orAttribute c.name c.value

/-- The calls for a selection. -/
def TagSelection.calls (s : TagSelection) : List Call :=
  .selectTagWithAxis s.test.text s.axis :: s.conditions.map Condition.call

theorem ask_call (c : Condition) : c.call.ask = .extend c := by
  obtain ⟨name, value, join⟩ := c
  cases join <;> rfl

theorem isSimple_call {c : Condition} (h : c.Simple) : c.call.isSimple = true := by
  have hvalue : (c.value.all fun v => '\'' ∉ v.toList) = true := by
    cases hv : c.value with
    | none => rfl
    | some v => simpa using h.value v hv
  rw [Condition.call]
  cases c.join <;> exact Bool.and_eq_true_iff.2 ⟨h.name, hvalue⟩

theorem isSimple_calls {s : TagSelection} (h : s.Simple) : ∀ c ∈ s.calls, c.isSimple = true := by
  intro c hc
  rcases List.mem_cons.1 hc with rfl | hc
  · have htest : (s.test.text = "*" || XPath.isNCName s.test.text) = true := by
      rw [Bool.or_eq_true, decide_eq_true_eq]
      exact h.test
    exact Bool.and_eq_true_iff.2 ⟨htest, rfl⟩
  · obtain ⟨d, hd, rfl⟩ := List.mem_map.1 hc
    exact isSimple_call (h.conditions d hd)

/-- The calls for conditions add them to the last selection. -/
theorem selections_conditionCalls {cs : List Call} {before : List TagSelection}
    {last : TagSelection} (h : (Builder.new.calls cs).selections = before ++ [last])
    (conditions : List Condition) :
    (Builder.new.calls (cs ++ conditions.map Condition.call)).selections =
      before ++ [{ last with conditions := last.conditions ++ conditions }] := by
  induction conditions using List.reverseRec with
  | nil => simpa using h
  | append_singleton conditions c ih =>
    rw [List.map_append, List.map_singleton, ← List.append_assoc,
      Builder.selections_calls_concat, ask_call, ih, Ask.act_extend_concat,
      TagSelection.addCondition, List.append_assoc]

/-- The calls for selections make them. -/
theorem makes_flatMap_calls (selections : List TagSelection) :
    Makes (selections.flatMap TagSelection.calls) selections := by
  induction selections using List.reverseRec with
  | nil => exact Path.Agrees.refl _
  | append_singleton selections s ih =>
    have htag := Builder.selections_calls_concat (selections.flatMap TagSelection.calls)
      (.selectTagWithAxis s.test.text s.axis)
    have hmade := selections_conditionCalls htag s.conditions
    have hcalls : (selections ++ [s]).flatMap TagSelection.calls =
        selections.flatMap TagSelection.calls ++ [.selectTagWithAxis s.test.text s.axis] ++
          s.conditions.map Condition.call := by
      simp [TagSelection.calls]
    rw [Makes, Path.Agrees, hcalls]
    change List.Forall₂ TagSelection.Agrees (Builder.selections _) _
    rw [hmade]
    refine List.rel_append ih (.cons ⟨rfl, rfl, ?_⟩ .nil)
    exact conditionsAgree_refl _

/-- **Simple selections are made by a chain** of simple calls. -/
theorem exists_makes {selections : List TagSelection} (h : ∀ s ∈ selections, s.Simple) :
    ∃ cs, (∀ c ∈ cs, c.isSimple = true) ∧ Makes cs selections := by
  refine ⟨selections.flatMap TagSelection.calls, fun c hc => ?_, makes_flatMap_calls selections⟩
  obtain ⟨s, hs, hc⟩ := List.mem_flatMap.1 hc
  exact isSimple_calls (h s hs) c hc

end Query

/-! ## Selecting -/

open Query (Call Builder TagSelection Path Makes chosen)
open XPath (Surroundings)

/-- The nodes found are those of the places that selections choose in a document. -/
def Selection.Answers (found : Selection) (d : Document) (selections : List TagSelection) : Prop :=
  ∀ n, n ∈ found.nodes ↔ ∃ x ∈ chosen {.document d.root} selections, x.number = n

theorem Selection.Answers.subset {d : Document} {found further : Selection}
    {selections others : List TagSelection} (h : found.Answers d selections)
    (hfurther : further.Answers d others)
    (hchosen : chosen {.document d.root} selections ⊆ chosen {.document d.root} others) :
    found.nodes ⊆ further.nodes := by
  intro n hn
  obtain ⟨x, hx, hnumber⟩ := (h n).1 hn
  exact (hfurther n).2 ⟨x, hchosen hx, hnumber⟩

namespace Selector

/-- **A chain that makes simple selections** selects what these choose. -/
theorem exists_select_of_makes {d : Document} (w : Surroundings) (hdistinct : d.root.Distinct)
    {cs : List Call} {selections : List TagSelection} (hne : selections ≠ [])
    (hsimple : ∀ s ∈ selections, s.Simple)
    (hmakes : Makes cs selections) :
    ∃ found, (((ofDocument d).calls cs).select w).1 = .ok found ∧ found.Answers d selections := by
  obtain ⟨numbers, hevaluate, -, hnumbers⟩ :=
    d.evaluate_path w hdistinct hne fun s hs => (hsimple s hs).wellNamed
  have hpeek : (Builder.new.calls cs).peek = Path.text { selections := selections } :=
    Path.text_eq_of_agrees hmakes
  rw [Query.map_quoted_of_simple hsimple] at hevaluate
  refine ⟨{ query := (Builder.new.calls cs).peek, nodes := numbers }, ?_, hnumbers⟩
  rw [select_calls_eq, hpeek, hevaluate]
  rfl

/-- **A change of one selection changes the result one way.** Let a selection of a chain be changed,
at any place in the chain, the others staying as they are. There is a chain for this, and it is
answered, as the first one is, each in surroundings of its own. If the selection got wider (all
depths for children, any element for a name, an alternative more to its conditions), no node is
lost; if it got narrower (a condition more, joined with `and` or the first), none is added. -/
theorem nodes_subset_of_change (o : Document.Options) (html : String) (w₁ w₂ : Surroundings)
    {cs : List Call} (hcs : ∀ c ∈ cs, c.isSimple = true) {before after : List TagSelection}
    {s r : TagSelection}
    (hselections : (Builder.new.calls cs).selections = before ++ s :: after) (hr : r.Simple) :
    (∃ ds, (∀ c ∈ ds, c.isSimple = true) ∧ Makes ds (before ++ r :: after)) ∧
      ∀ ds, Makes ds (before ++ r :: after) →
        ∃ found changed, (((withOptions o html).calls cs).select w₁).1 = .ok found ∧
          (((withOptions o html).calls ds).select w₂).1 = .ok changed ∧
          (s.Widens r → found.nodes ⊆ changed.nodes) ∧
          (s.Narrows r → changed.nodes ⊆ found.nodes) := by
  have hsimple : ∀ u ∈ before ++ s :: after, u.Simple := by
    rw [← hselections]
    exact Builder.simple_calls hcs
  have hchanged : ∀ u ∈ before ++ r :: after, u.Simple := by
    intro u hu
    rw [List.mem_append, List.mem_cons] at hu
    rcases hu with hu | rfl | hu
    · exact hsimple u (by simp [hu])
    · exact hr
    · exact hsimple u (by simp [hu])
  refine ⟨Query.exists_makes hchanged, fun ds hds => ?_⟩
  have hmakes : Makes cs (before ++ s :: after) := by
    rw [← hselections]
    exact Path.Agrees.refl _
  have hdistinct := Document.distinct_parseWith o html
  obtain ⟨found, hfound, hnodes⟩ := exists_select_of_makes w₁ hdistinct (by simp) hsimple hmakes
  obtain ⟨changed, hchange, hnodes'⟩ := exists_select_of_makes w₂ hdistinct (by simp) hchanged hds
  refine ⟨found, changed, hfound, hchange, fun hwidens => ?_, fun hnarrows => ?_⟩
  · have hwithin := Query.within_of_widens hwidens
    exact hnodes.subset hnodes' (Query.chosen_subset_of_within hwithin before after)
  · have hwithin := Query.within_of_narrows hnarrows
    exact hnodes'.subset hnodes (Query.chosen_subset_of_within hwithin before after)

/-- An alternative more to the first selection of two. -/
theorem nodes_subset_of_change_of_alternative :
    (∀ c ∈ [Call.tag "ul", .hasAttribute "id", .childTag "li"], c.isSimple = true) ∧
      (Builder.new.calls [.tag "ul", .hasAttribute "id", .childTag "li"]).selections =
        [] ++ { key := "ul", test := .named "ul", axis := .descendant
                conditions := [⟨"id", none, .and⟩] } ::
          [{ key := "li", test := .named "li", axis := .child }] ∧
      ∃ found changed,
        ((withOptions {} "<ul id=a><li>x</ul><ul class=b><li>y</ul>").calls
          [.tag "ul", .hasAttribute "id", .childTag "li"]).select.1 = .ok found ∧
        ((withOptions {} "<ul id=a><li>x</ul><ul class=b><li>y</ul>").calls
            [.tag "ul", .hasAttribute "id", .orAttribute "class" (some "b"),
              .childTag "li"]).select.1 =
          .ok changed ∧
        found.nodes ⊆ changed.nodes := by
  have hcs : ∀ c ∈ [Call.tag "ul", .hasAttribute "id", .childTag "li"], c.isSimple = true := by
    decide
  let ul : TagSelection := { key := "ul", test := .named "ul", axis := .descendant
                             conditions := [⟨"id", none, .and⟩] }
  have hsimple : (ul.addCondition ⟨"class", some "b", .or⟩).Simple := by
    refine ⟨.inr (by decide), fun c hc => ?_⟩
    have hc' : c = ⟨"id", none, .and⟩ ∨ c = ⟨"class", some "b", .or⟩ := by
      simpa [ul, TagSelection.addCondition] using hc
    rcases hc' with rfl | rfl
    · exact ⟨by decide, by simp⟩
    · exact ⟨by decide, by simp⟩
  have hselections :
      (Builder.new.calls [.tag "ul", .hasAttribute "id", .childTag "li"]).selections =
        [] ++ ul :: [{ key := "li", test := .named "li", axis := .child }] := by decide
  obtain ⟨-, hchange⟩ := nodes_subset_of_change {} "<ul id=a><li>x</ul><ul class=b><li>y</ul>" {} {}
    hcs hselections hsimple
  obtain ⟨found, changed, hfound, hchanged, hwidens, -⟩ := hchange
    [.tag "ul", .hasAttribute "id", .orAttribute "class" (some "b"), .childTag "li"]
    (Path.Agrees.refl _)
  exact ⟨hcs, hselections, found, changed, hfound, hchanged,
    hwidens (.alternative (by simp [ul]) rfl)⟩

end Selector

end MarkupQuery
