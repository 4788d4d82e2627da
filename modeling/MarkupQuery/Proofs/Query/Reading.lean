import MarkupQuery.Proofs.Query.Meaning
import MarkupQuery.Proofs.Query.Tokens
import MarkupQuery.Proofs.XPath.Reading

/-!
# Reading the text of a path

The expression that the parser reads from the text of a path. `and` binds tighter than `or`, so the
conditions of a predicate fall into groups, a new one for each `or` (`groups`); operators of one
rank group from the left. The walk along the text follows this: a condition (`binary_condition`),
the rest of its group (`climb_and`), the other groups (`climb_or`), the selections (`steps_path`).
-/

namespace MarkupQuery.Query

open XPath (Token Expr Fault Reading isName operator? binary climb typed step steps predicates
  RanksUpTo endsOperand climb_of_le climb_of_lt climb_most)

/-! ## Expressions -/

/-- The expression of a condition. -/
def Condition.expr (c : Condition) : Expr :=
  match c.value with
  | some value => .binary (.general .eq) (.step .attributes (.named c.name) []) (.string value)
  | none => .step .attributes (.named c.name) []

/-- Conditions joined with `and` to an expression. -/
def withAll (e : Expr) (conditions : List Condition) : Expr :=
  conditions.foldl (fun e c => .binary .and e c.expr) e

/-- The expression of a group of conditions, which is not empty. -/
def groupExpr : List Condition → Expr
  | [] => .sequence []
  | c :: cs => withAll c.expr cs

/-- Groups joined with `or` to an expression. -/
def withAny (e : Expr) (gs : List (List Condition)) : Expr :=
  gs.foldl (fun e g => .binary .or e (groupExpr g)) e

/-- The predicates of a selection with some conditions: one, or none. -/
def predicateExprs (conditions : List Condition) : List Expr :=
  match groups conditions with
  | [] => []
  | g :: gs => [withAny (groupExpr g) gs]

/-- The node test of an expression. -/
def NodeTest.test (test : NodeTest) : XPath.NodeTest :=
  if test.text = "*" then .any else .named test.text

/-- The step of a selection behind an expression. -/
def TagSelection.after (e : Expr) (s : TagSelection) : Expr :=
  .path (match s.axis with
    | .descendant => .path e XPath.anyDepth
    | .child => e) (.step .child s.test.test (predicateExprs s.conditions))

/-- The expression of a list of selections, from the document node. -/
def pathExpr (selections : List TagSelection) : Expr :=
  selections.foldl TagSelection.after .root

/-! ## Conditions -/

variable {rest : List Token} {e : Expr} {least k fuel : Nat} {r : Except Fault (Reading Expr)}

theorem ranksUpTo_closeBracket (rank : Nat) : RanksUpTo rank (.closeBracket :: rest) := by
  rintro t ht op r hop
  obtain rfl := Option.some.inj ht
  simp [operator?] at hop

theorem ranksUpTo_or : RanksUpTo 1 (.name Join.or.text :: rest) := by
  rintro t ht op r hop
  obtain rfl := Option.some.inj ht
  obtain ⟨-, rfl⟩ := Prod.mk.inj (Option.some.inj hop)
  exact Nat.le_refl 1

theorem ranksUpTo_join (j : Join) : RanksUpTo 2 (.name j.text :: rest) := by
  rintro t ht op r hop
  obtain rfl := Option.some.inj ht
  cases j <;> obtain ⟨-, rfl⟩ := Prod.mk.inj (Option.some.inj hop) <;> omega

/-- Whether nothing of a text belongs to the condition before it. -/
structure EndsCondition (rest : List Token) : Prop where
  endsOperand : endsOperand rest = true
  ranksUpTo : RanksUpTo 2 rest

theorem endsCondition_closeBracket : EndsCondition (.closeBracket :: rest) :=
  ⟨rfl, ranksUpTo_closeBracket 2⟩

theorem endsCondition_joined (conditions : List Condition) (hrest : EndsCondition rest) :
    EndsCondition (joinedTokens conditions ++ rest) := by
  cases conditions with
  | nil => exact hrest
  | cons c cs =>
    refine ⟨?_, ranksUpTo_join c.join⟩
    rw [joinedTokens]
    cases c.join <;> rfl

/-- **A condition** is one operand of the operators that join conditions. -/
theorem binary_condition (c : Condition) (hleast : least ≤ 3) (hrest : EndsCondition rest)
    (h : ∀ fuel, k ≤ fuel → climb fuel least 2 c.expr rest = r) (hfuel : k + 8 ≤ fuel) :
    binary fuel least (c.tokens ++ rest) = r := by
  obtain ⟨fuel, rfl⟩ := Nat.exists_eq_add_of_le' (Nat.le_trans (Nat.le_add_left 8 k) hfuel)
  rw [binary]
  cases hvalue : c.value with
  | none =>
    have hexpr : c.expr = .step .attributes (.named c.name) [] := by rw [Condition.expr, hvalue]
    have htyped : typed (fuel + 7) (.at :: .name c.name :: rest) =
        .ok (.step .attributes (.named c.name) [], rest) :=
      XPath.typed_attribute c.name hrest.endsOperand
    have hclimb := h (fuel + 7) (by omega)
    rw [hexpr] at hclimb
    rw [Condition.tokens, hvalue]
    simp only [List.cons_append, List.nil_append, htyped, bind, Except.bind]
    rw [climb_most hrest.ranksUpTo (Nat.le_add_right 2 7) (Nat.le_refl 2), hclimb]
  | some value =>
    have hexpr : c.expr = .binary (.general .eq) (.step .attributes (.named c.name) [])
        (.string value) := by rw [Condition.expr, hvalue]
    have htyped : typed (fuel + 7) (.at :: .name c.name :: .equals :: .string value :: rest) =
        .ok (.step .attributes (.named c.name) [], .equals :: .string value :: rest) :=
      XPath.typed_attribute c.name rfl
    have hright : binary (fuel + 6) 4 (.string value :: rest) = .ok (.string value, rest) := by
      have hstring : typed (fuel + 5) (.string value :: rest) = .ok (.string value, rest) :=
        XPath.typed_string value hrest.endsOperand
      rw [binary]
      simp only [hstring, bind, Except.bind]
      exact climb_of_lt hrest.ranksUpTo (by omega)
    have hclimb := h (fuel + 6) (by omega)
    rw [hexpr] at hclimb
    rw [Condition.tokens, hvalue]
    simp only [List.cons_append, List.nil_append, htyped, bind, Except.bind]
    rw [climb_of_le rfl hleast (by omega) hright]
    exact hclimb

/-! ## Groups of conditions -/

/-- A condition joined with `and`, and what is behind it. -/
theorem climb_and_cons {c : Condition} (hleast : least ≤ 2) (hrest : EndsCondition rest)
    (hfuel : 9 ≤ fuel) :
    climb (fuel + 1) least 2 e (.name Join.and.text :: (c.tokens ++ rest)) =
      climb fuel least 2 (.binary .and e c.expr) rest := by
  have hright : binary fuel 3 (c.tokens ++ rest) = .ok (c.expr, rest) := by
    refine binary_condition (k := 1) c (Nat.le_refl 3) hrest (fun fuel hfuel => ?_) hfuel
    obtain ⟨fuel, rfl⟩ := Nat.exists_eq_add_of_le' hfuel
    exact climb_of_lt hrest.ranksUpTo (by omega)
  exact climb_of_le rfl hleast (Nat.le_refl 2) hright

/-- **The conditions that follow the first of a group.** -/
theorem climb_and {cs : List Condition} (hjoins : ∀ c ∈ cs, c.join = .and) (hleast : least ≤ 2)
    (hrest : EndsCondition rest)
    (h : ∀ fuel, k ≤ fuel → climb fuel least 2 (withAll e cs) rest = r)
    (hfuel : k + cs.length + 9 ≤ fuel) :
    climb fuel least 2 e (joinedTokens cs ++ rest) = r := by
  induction cs generalizing e fuel with
  | nil => exact h fuel (by omega)
  | cons c cs ih =>
    rw [List.length_cons] at hfuel
    obtain ⟨fuel, rfl⟩ := Nat.exists_eq_add_of_le' (show 1 ≤ fuel by omega)
    rw [joinedTokens, hjoins c List.mem_cons_self, List.cons_append, List.append_assoc,
      climb_and_cons hleast (endsCondition_joined cs hrest) (by omega)]
    exact ih (fun d hd => hjoins d (List.mem_cons_of_mem c hd)) h (by omega)

/-- The tokens of a group of conditions, which is not empty. -/
def groupTokens : List Condition → List Token
  | [] => []
  | c :: cs => c.tokens ++ joinedTokens cs

/-- Whether the conditions of a group behind the first are joined with `and`, and there is a
first. -/
def IsGroup : List Condition → Prop
  | [] => False
  | _ :: cs => ∀ c ∈ cs, c.join = .and

/-- **A group** is one operand of the operators that join groups. -/
theorem binary_group {g : List Condition} (hg : IsGroup g) (hleast : least ≤ 2)
    (hrest : EndsCondition rest)
    (h : ∀ fuel, k ≤ fuel → climb fuel least 2 (groupExpr g) rest = r)
    (hfuel : k + g.length + 16 ≤ fuel) : binary fuel least (groupTokens g ++ rest) = r := by
  cases g with
  | nil => exact hg.elim
  | cons c cs =>
    rw [List.length_cons] at hfuel
    rw [groupTokens, List.append_assoc]
    exact binary_condition c (Nat.le_succ_of_le hleast) (endsCondition_joined cs hrest)
      (fun fuel hfuel => climb_and hg hleast hrest h hfuel) (by omega)

/-- The tokens of groups behind the first. -/
def orTokens (gs : List (List Condition)) : List Token :=
  gs.flatMap fun g => .name Join.or.text :: groupTokens g

theorem ranksUpTo_orTokens (gs : List (List Condition)) :
    RanksUpTo 1 (orTokens gs ++ .closeBracket :: rest) := by
  cases gs with
  | nil => exact ranksUpTo_closeBracket 1
  | cons g gs => exact ranksUpTo_or

theorem endsCondition_orTokens (gs : List (List Condition)) :
    EndsCondition (orTokens gs ++ .closeBracket :: rest) := by
  cases gs with
  | nil => exact endsCondition_closeBracket
  | cons g gs => exact ⟨rfl, ranksUpTo_join .or⟩

/-- **The groups that follow the first.** -/
theorem climb_or {gs : List (List Condition)} (hgroups : ∀ g ∈ gs, IsGroup g)
    (hfuel : gs.flatten.length + 18 ≤ fuel) :
    climb fuel 1 1 e (orTokens gs ++ .closeBracket :: rest) =
      .ok (withAny e gs, .closeBracket :: rest) := by
  induction gs generalizing e fuel with
  | nil =>
    obtain ⟨fuel, rfl⟩ := Nat.exists_eq_add_of_le' (show 1 ≤ fuel by omega)
    exact climb_of_lt (ranksUpTo_closeBracket 0) Nat.one_pos
  | cons g gs ih =>
    have hg := hgroups g List.mem_cons_self
    have hlength : 0 < g.length := by
      cases g with
      | nil => exact hg.elim
      | cons c cs => simp
    rw [List.flatten_cons, List.length_append] at hfuel
    obtain ⟨fuel, rfl⟩ := Nat.exists_eq_add_of_le' (show 1 ≤ fuel by omega)
    have hright : binary fuel 2 (groupTokens g ++ (orTokens gs ++ .closeBracket :: rest)) =
        .ok (groupExpr g, orTokens gs ++ .closeBracket :: rest) := by
      refine binary_group (k := 1) hg (Nat.le_refl 2) (endsCondition_orTokens gs)
        (fun fuel hfuel => ?_) (by omega)
      obtain ⟨fuel, rfl⟩ := Nat.exists_eq_add_of_le' hfuel
      exact climb_of_lt (ranksUpTo_orTokens gs) (by omega)
    have htokens : orTokens (g :: gs) ++ .closeBracket :: rest =
        .name Join.or.text :: (groupTokens g ++ (orTokens gs ++ .closeBracket :: rest)) := by
      simp [orTokens]
    rw [htokens, climb_of_le rfl (Nat.le_refl 1) (Nat.le_refl 1) hright]
    exact ih (fun h hh => hgroups h (List.mem_cons_of_mem g hh)) (by omega)

/-- **The groups of a predicate.** -/
theorem binary_groups {g : List Condition} {gs : List (List Condition)}
    (hgroups : ∀ h ∈ g :: gs, IsGroup h) (hfuel : (g :: gs).flatten.length + 35 ≤ fuel) :
    binary fuel 1 (groupTokens g ++ (orTokens gs ++ .closeBracket :: rest)) =
      .ok (withAny (groupExpr g) gs, .closeBracket :: rest) := by
  rw [List.flatten_cons, List.length_append] at hfuel
  refine binary_group (k := gs.flatten.length + 18) (hgroups g List.mem_cons_self) (by omega)
    (endsCondition_orTokens gs) (fun fuel hfuel => ?_) (by omega)
  rw [climb_most (ranksUpTo_orTokens gs) (by omega) (Nat.le_refl 1)]
  exact climb_or (fun h hh => hgroups h (List.mem_cons_of_mem g hh)) hfuel

/-! ## Predicates -/

theorem joinedTokens_append (cs ds : List Condition) :
    joinedTokens (cs ++ ds) = joinedTokens cs ++ joinedTokens ds := by
  induction cs with
  | nil => rfl
  | cons c cs ih => simp [joinedTokens, ih]

theorem isGroup_of_mem_groups {conditions g : List Condition} (h : g ∈ groups conditions) :
    IsGroup g := by
  cases g with
  | nil => exact List.nil_notMem_splitBy _ _ h
  | cons c cs =>
    have hchain := List.isChain_of_mem_splitBy h
    simp only [decide_eq_true_eq] at hchain
    clear h
    induction cs generalizing c with
    | nil => simp [IsGroup]
    | cons d cs ih =>
      rw [List.isChain_cons_cons] at hchain
      rintro x hx
      rcases List.mem_cons.1 hx with rfl | hx
      · exact hchain.1
      · exact ih d hchain.2 x hx

/-- The groups behind the first begin with a condition that is joined with `or`. -/
theorem joinedTokens_flatten {g : List Condition} {gs : List (List Condition)}
    (h : (g :: gs).IsChain fun a b => ∃ (_ : a ≠ []) (hb : b ≠ []),
      decide ((b.head hb).join = .and) = false) :
    joinedTokens gs.flatten = orTokens gs := by
  induction gs generalizing g with
  | nil => rfl
  | cons f gs ih =>
    obtain ⟨⟨-, hne, hjoin⟩, hrest⟩ := List.isChain_cons_cons.1 h
    obtain ⟨c, cs, rfl⟩ := List.exists_cons_of_ne_nil hne
    have hor : c.join = .or := by
      cases hc : c.join with
      | and => simp [hc] at hjoin
      | or => rfl
    rw [List.flatten_cons, joinedTokens_append, ih hrest, joinedTokens, hor]
    rfl

/-- The tokens of conditions, group by group. -/
theorem exists_groups (c : Condition) (cs : List Condition) :
    ∃ g gs, groups (c :: cs) = g :: gs ∧ (∀ h ∈ g :: gs, IsGroup h) ∧
      (g :: gs).flatten = c :: cs ∧ c.tokens ++ joinedTokens cs = groupTokens g ++ orTokens gs := by
  have hchain := List.isChain_getLast_head_splitBy (fun _ c => decide (Condition.join c = .and))
    (c :: cs)
  have hflatten := List.flatten_splitBy (fun _ c => decide (Condition.join c = .and)) (c :: cs)
  have hgroups : ∀ g ∈ groups (c :: cs), IsGroup g := fun g => isGroup_of_mem_groups
  rw [groups] at hgroups ⊢
  cases hsplit : (c :: cs).splitBy fun _ c => decide (c.join = .and) with
  | nil => simp at hsplit
  | cons g gs =>
    rw [hsplit] at hchain hflatten hgroups
    refine ⟨g, gs, rfl, hgroups, hflatten, ?_⟩
    cases g with
    | nil => exact (hgroups [] List.mem_cons_self).elim
    | cons d ds =>
      rw [List.flatten_cons, List.cons_append] at hflatten
      obtain ⟨rfl, rfl⟩ := List.cons.inj hflatten
      rw [joinedTokens_append, joinedTokens_flatten hchain, groupTokens, List.append_assoc]

theorem expr_groups {g : List Condition} {gs : List (List Condition)}
    (hgroups : ∀ h ∈ g :: gs, IsGroup h) (hfuel : (g :: gs).flatten.length + 37 ≤ fuel) :
    XPath.expr fuel (groupTokens g ++ (orTokens gs ++ .closeBracket :: rest)) =
      .ok (withAny (groupExpr g) gs, .closeBracket :: rest) := by
  obtain ⟨fuel, rfl⟩ := Nat.exists_eq_add_of_le' (show 2 ≤ fuel by omega)
  have hbinary : binary fuel 1 (groupTokens g ++ (orTokens gs ++ .closeBracket :: rest)) =
      .ok (withAny (groupExpr g) gs, .closeBracket :: rest) :=
    binary_groups hgroups (by omega)
  have hsingle : XPath.single (fuel + 1) (groupTokens g ++ (orTokens gs ++ .closeBracket :: rest)) =
      .ok (withAny (groupExpr g) gs, .closeBracket :: rest) := by
    rw [← hbinary]
    cases g with
    | nil => exact (hgroups [] List.mem_cons_self).elim
    | cons c cs =>
      rw [groupTokens, Condition.tokens]
      cases c.value <;> rfl
  rw [XPath.expr, hsingle]
  rfl

/-- **The predicate of a selection**, if it has conditions. -/
theorem predicates_conditions {conditions : List Condition}
    (hrest : rest.head? ≠ some .openBracket) (hfuel : conditions.length + 38 ≤ fuel) :
    predicates fuel (predicateTokens conditions ++ rest) =
      .ok (predicateExprs conditions, rest) := by
  obtain ⟨fuel, rfl⟩ := Nat.exists_eq_add_of_le' (show 2 ≤ fuel by omega)
  cases conditions with
  | nil => exact XPath.predicates_nil hrest
  | cons c cs =>
    obtain ⟨g, gs, hgroups, hall, hflatten, htokens⟩ := exists_groups c cs
    have hexpr : XPath.expr (fuel + 1) (groupTokens g ++ (orTokens gs ++ .closeBracket :: rest)) =
        .ok (withAny (groupExpr g) gs, .closeBracket :: rest) := by
      refine expr_groups hall ?_
      rw [hflatten]
      omega
    have hnil : predicates (fuel + 1) rest = .ok ([], rest) := XPath.predicates_nil hrest
    have htext : predicateTokens (c :: cs) ++ rest =
        .openBracket :: (groupTokens g ++ (orTokens gs ++ .closeBracket :: rest)) := by
      rw [predicateTokens, ← List.append_assoc, htokens]
      simp
    rw [htext, predicates]
    simp only [hexpr, bind, Except.bind, XPath.expect, if_true, hnil]
    rw [predicateExprs, hgroups]
    rfl

/-! ## Selections -/

/-- What may follow a selection: nothing, or the separator of the next one. -/
def EndsSelection : List Token → Prop
  | [] => True
  | t :: _ => ∃ axis : Axis, t = axis.token

theorem endsSelection_tokens (selections : List TagSelection) :
    EndsSelection (selections.flatMap TagSelection.tokens) := by
  cases selections with
  | nil => trivial
  | cons s selections => exact ⟨s.axis, rfl⟩

/-- **The step of a selection.** -/
theorem step_selection (s : TagSelection) (hrest : EndsSelection rest)
    (hfuel : s.conditions.length + 39 ≤ fuel) :
    step fuel (s.test.token :: (predicateTokens s.conditions ++ rest)) =
      .ok (.step .child s.test.test (predicateExprs s.conditions), rest) := by
  obtain ⟨fuel, rfl⟩ := Nat.exists_eq_add_of_le' (show 1 ≤ fuel by omega)
  have hbracket : rest.head? ≠ some .openBracket := by
    cases rest with
    | nil => simp
    | cons t more =>
      obtain ⟨axis, rfl⟩ := hrest
      cases axis <;> simp [Axis.token]
  have hpredicates : predicates fuel (predicateTokens s.conditions ++ rest) =
      .ok (predicateExprs s.conditions, rest) := predicates_conditions hbracket (by omega)
  -- only an axis, a parenthesis, a brace or a hash would make another step of the name
  have hnext : predicateTokens s.conditions ++ rest = [] ∨
      ∃ t more, predicateTokens s.conditions ++ rest = t :: more ∧
        (t = .openBracket ∨ t = .slash ∨ t = .slashSlash) := by
    cases s.conditions with
    | cons c cs => exact .inr ⟨_, _, rfl, .inl rfl⟩
    | nil =>
      cases rest with
      | nil => exact .inl rfl
      | cons t more =>
        obtain ⟨axis, rfl⟩ := hrest
        cases axis
        · exact .inr ⟨_, _, rfl, .inr (.inr rfl)⟩
        · exact .inr ⟨_, _, rfl, .inr (.inl rfl)⟩
  rw [NodeTest.token, NodeTest.test]
  generalize predicateTokens s.conditions ++ rest = next at hpredicates hnext
  split_ifs
  · have hnode : XPath.nodeTest (.star :: next) = .ok (.any, next) := rfl
    rw [step]
    simp only [hnode, bind, Except.bind, hpredicates]
    rfl
  · have hnode : XPath.nodeTest (.name s.test.text :: next) = .ok (.named s.test.text, next) := by
      rcases hnext with rfl | ⟨t, more, rfl, rfl | rfl | rfl⟩ <;> rfl
    rcases hnext with rfl | ⟨t, more, rfl, rfl | rfl | rfl⟩ <;>
      simp only [step, hnode, bind, Except.bind, hpredicates] <;> rfl

theorem length_predicateTokens (conditions : List Condition) :
    3 * conditions.length ≤ (predicateTokens conditions).length := by
  have hcondition (c : Condition) : 2 ≤ c.tokens.length := by
    rw [Condition.tokens]
    split <;> simp
  have hjoined (cs : List Condition) : 3 * cs.length ≤ (joinedTokens cs).length := by
    induction cs with
    | nil => simp
    | cons c cs ih =>
      have := hcondition c
      rw [joinedTokens, List.length_cons, List.length_cons, List.length_append]
      omega
  cases conditions with
  | nil => simp
  | cons c cs =>
    have := hcondition c
    have := hjoined cs
    simp only [predicateTokens, List.length_cons, List.length_append, List.length_nil]
    omega

/-- **The selections of a path**, behind an expression. -/
theorem steps_path {selections : List TagSelection}
    (hfuel : 8 * (selections.flatMap TagSelection.tokens).length + 26 ≤ fuel) :
    steps fuel e (selections.flatMap TagSelection.tokens) =
      .ok (selections.foldl TagSelection.after e, []) := by
  induction selections generalizing e fuel with
  | nil =>
    obtain ⟨fuel, rfl⟩ := Nat.exists_eq_add_of_le' (show 1 ≤ fuel by omega)
    rfl
  | cons s selections ih =>
    have hlength := length_predicateTokens s.conditions
    rw [List.flatMap_cons, TagSelection.tokens, List.length_append, List.length_cons,
      List.length_cons] at hfuel
    obtain ⟨fuel, rfl⟩ := Nat.exists_eq_add_of_le' (show 1 ≤ fuel by omega)
    have hstep := step_selection s (endsSelection_tokens selections) (show _ ≤ fuel by omega)
    have hrest := ih (e := s.after e) (show _ ≤ fuel by omega)
    rw [List.flatMap_cons, TagSelection.tokens, List.foldl_cons, ← hrest]
    cases haxis : s.axis with
    | descendant =>
      rw [Axis.token, List.cons_append, List.cons_append, steps, hstep]
      simp only [bind, Except.bind, TagSelection.after, haxis]
    | child =>
      rw [Axis.token, List.cons_append, List.cons_append, steps, hstep]
      simp only [bind, Except.bind, TagSelection.after, haxis]

/-! ## Paths -/

/-- From the document node, the selections of a path read like those behind an expression. -/
theorem path_path {s : TagSelection} {selections : List TagSelection}
    (hfuel : 8 * ((s :: selections).flatMap TagSelection.tokens).length + 26 ≤ fuel) :
    XPath.path fuel ((s :: selections).flatMap TagSelection.tokens) =
      .ok (pathExpr (s :: selections), []) := by
  have hsteps : steps fuel .root ((s :: selections).flatMap TagSelection.tokens) =
      .ok (pathExpr (s :: selections), []) := steps_path hfuel
  obtain ⟨fuel, rfl⟩ := Nat.exists_eq_add_of_le' (show 1 ≤ fuel by omega)
  rw [← hsteps, List.flatMap_cons, TagSelection.tokens, NodeTest.token]
  cases s.axis <;> split_ifs <;> rfl

theorem expr_path {s : TagSelection} {selections : List TagSelection}
    (hfuel : 8 * ((s :: selections).flatMap TagSelection.tokens).length + 32 ≤ fuel) :
    XPath.expr fuel ((s :: selections).flatMap TagSelection.tokens) =
      .ok (pathExpr (s :: selections), []) := by
  obtain ⟨fuel, rfl⟩ := Nat.exists_eq_add_of_le' (show 6 ≤ fuel by omega)
  have hpath : XPath.path (fuel + 1) ((s :: selections).flatMap TagSelection.tokens) =
      .ok (pathExpr (s :: selections), []) := path_path (by omega)
  have hunary : XPath.unary (fuel + 2) ((s :: selections).flatMap TagSelection.tokens) =
      .ok (pathExpr (s :: selections), []) := by
    have hmaps : XPath.maps (fuel + 1) (pathExpr (s :: selections)) [] =
        .ok (pathExpr (s :: selections), []) := rfl
    rw [← hmaps]
    rw [List.flatMap_cons, TagSelection.tokens] at hpath ⊢
    cases haxis : s.axis <;> rw [haxis] at hpath <;>
      · rw [XPath.unary, hpath]
        · rfl
        · rintro _ ⟨⟩
        · rintro _ ⟨⟩
  have htyped := XPath.typed_of_unary hunary rfl
  have hsingle : XPath.single (fuel + 5) ((s :: selections).flatMap TagSelection.tokens) =
      .ok (pathExpr (s :: selections), []) := by
    have hbinary : binary (fuel + 4) 1 ((s :: selections).flatMap TagSelection.tokens) =
        .ok (pathExpr (s :: selections), []) := by
      rw [binary, htyped]
      rfl
    rw [← hbinary, List.flatMap_cons, TagSelection.tokens, NodeTest.token]
    cases s.axis <;> split_ifs <;> rfl
  rw [XPath.expr, hsingle]
  rfl

/-- **The text of a path reads as its expression.** -/
theorem parse_path {selections : List TagSelection} (hne : selections ≠ [])
    (h : ∀ s ∈ selections, s.WellNamed) :
    XPath.parse (Path.text { selections := selections.map TagSelection.quoted }) =
      .ok (pathExpr selections) := by
  obtain ⟨s, rest, rfl⟩ := List.exists_cons_of_ne_nil hne
  have hlex := XPath.Lexer.lex_of_cuts (cuts_path h)
  have hlength : 2 ≤ ((s :: rest).flatMap TagSelection.tokens).length := by
    simp [TagSelection.tokens]
  have hexpr : XPath.expr (16 * ((s :: rest).flatMap TagSelection.tokens).length + 16)
      ((s :: rest).flatMap TagSelection.tokens) = .ok (pathExpr (s :: rest), []) :=
    expr_path (by omega)
  rw [XPath.parse, hlex]
  simp only [bind, Except.bind, hexpr]
  rfl

end MarkupQuery.Query
