import MarkupQuery.Proofs.Document.Distinct
import MarkupQuery.Proofs.Query.Reading
import MarkupQuery.Proofs.XPath.Stepping
import MarkupQuery.XPath.Scope

/-!
# Paths evaluate to what they mean

The expression of a path has the value that its meaning gives it: the nodes of the chosen places, in
document order (`exists_givesAt_pathExpr`). For this its predicates are decided at each place as
their conditions hold there (`decidesAt_predicate`), for which the attributes of a place must have
distinct names: a predicate that gives two nodes fails. No name in the expression is unknown
(`check_pathExpr`).
-/

namespace MarkupQuery.Query

open MarkupQuery.Document (Table Place Tree)
open XPath (Expr Value Fault GivesAt DecidesAt Marks stepNodes)

variable {t : Table} {call : XPath.Call t} {e f : Expr} {n : t.Node} {x : Place} {a b : Bool}

/-! ## Conditions -/

theorem decidesAt_of_ofBool {p : Expr}
    (h : ∀ c : XPath.Context t, c.item = .node n → p.eval call c = .ok (Value.ofBool b)) :
    DecidesAt call p n b :=
  fun c hc => ⟨_, h c hc, rfl, fun _ => rfl⟩

/-- Equality of the texts of nodes with a string. -/
theorem somePairCompares_eq (value : String) (nodes : List t.Node) :
    XPath.somePairCompares .eq [.ofString value] (nodes.map XPath.nodeAtom) =
      .ok (nodes.any fun m => t.text m.val == value) := by
  induction nodes with
  | nil => rfl
  | cons m nodes ih =>
    have hfirst : XPath.anyCompares .eq (XPath.nodeAtom m) [.ofString value] =
        .ok (t.text m.val == value) := by
      have hcompare : XPath.Atom.compareLoosely .eq (XPath.nodeAtom m) (.ofString value) =
          .ok (t.text m.val == value) := rfl
      rw [XPath.anyCompares, hcompare]
      cases t.text m.val == value <;> rfl
    rw [List.map_cons, XPath.somePairCompares, hfirst, List.any_cons]
    simp only [bind, Except.bind, ih]
    cases t.text m.val == value <;> rfl

/-- Of attributes with distinct names, at most one has a given name. -/
theorem length_filter_le_one {attributes : List (String × String)}
    (h : (attributes.map (·.1)).Nodup) (name : String) :
    (attributes.filter fun a => a.1 = name).length ≤ 1 := by
  have hcount := List.nodup_iff_count_le_one.1 h name
  have hpred : ((· == name) ∘ fun a : String × String => a.1) = fun a => decide (a.1 = name) := by
    funext a
    exact beq_eq_decide a.1 name
  rwa [List.count, List.countP_map, List.countP_eq_length_filter, hpred] at hcount

/-- The presence of an attribute: the predicate gives its node, or none. -/
theorem decidesAt_presence (hx : t.Lists x) (hn : x.number = n.val)
    (hdistinct : (x.attributes.map (·.1)).Nodup) (name : String) :
    DecidesAt call (.step .attributes (.named name) []) n
      (x.attributes.any fun a => a.1 = name) := by
  have hgives : GivesAt call (.step .attributes (.named name) []) n
      (stepNodes .attributes (.named name) n) := XPath.givesAt_step_nil rfl
  have hlength := congrArg List.length (XPath.map_text_attributes hx hn name)
  rw [List.length_map, List.length_map] at hlength
  have hone := length_filter_le_one hdistinct name
  rw [← hlength] at hone
  have hany : (x.attributes.any fun a => a.1 = name) =
      !(stepNodes (t := t) .attributes (.named name) n).isEmpty := by
    rw [Bool.eq_iff_iff, Bool.not_eq_true', ← Bool.not_eq_true, List.isEmpty_iff_length_eq_zero,
      hlength, List.length_eq_zero_iff, List.filter_eq_nil_iff, List.any_eq_true]
    simp
  intro c hc
  refine ⟨_, hgives c hc, ?_, fun place => ?_⟩
  · rw [XPath.truth_ofNodes, hany]
  · rw [hany]
    match stepNodes (t := t) .attributes (.named name) n, hone with
    | [], _ => rfl
    | [m], _ => rfl

/-- Equality of an attribute with a value. -/
theorem decidesAt_equality (hx : t.Lists x) (hn : x.number = n.val) (name value : String) :
    DecidesAt call (.binary (.general .eq) (.step .attributes (.named name) []) (.string value)) n
      (x.attributes.contains (name, value)) := by
  have hgives : GivesAt call (.step .attributes (.named name) []) n
      (stepNodes .attributes (.named name) n) := XPath.givesAt_step_nil rfl
  have hany : ((stepNodes .attributes (.named name) n).any fun m => t.text m.val == value) =
      x.attributes.contains (name, value) := by
    have hmap : (((stepNodes .attributes (.named name) n).map fun m => t.text m.val).any
        (· == value)) =
          (stepNodes .attributes (.named name) n).any fun m => t.text m.val == value := List.any_map
    rw [← hmap, XPath.map_text_attributes hx hn name, Bool.eq_iff_iff]
    simp
  refine decidesAt_of_ofBool fun c hc => ?_
  have hright : Value.atoms (Value.ofString (t := t) value) = .ok [.ofString value] := rfl
  rw [Expr.eval, hgives c hc, Expr.eval]
  simp only [bind, Except.bind, XPath.operate, hright, XPath.atoms_ofNodes, somePairCompares_eq,
    hany]
  rfl

/-- **A condition** is decided as it holds for the attributes of the place. -/
theorem decidesAt_condition (c : Condition) (hx : t.Lists x) (hn : x.number = n.val)
    (hdistinct : (x.attributes.map (·.1)).Nodup) :
    DecidesAt call c.expr n (c.holds x.attributes) := by
  rw [Condition.expr, Condition.holds]
  cases c.value with
  | none => exact decidesAt_presence hx hn hdistinct c.name
  | some value => exact decidesAt_equality hx hn c.name value

/-! ## Predicates -/

/-- An operator that goes by the truth of its operands is decided as they are. -/
theorem decidesAt_binary {op : XPath.Operator} {joined : Bool}
    (hop : ∀ v w : Value t, Value.truth v = .ok a → Value.truth w = .ok b →
      XPath.operate op v w = .ok (Value.ofBool joined))
    (he : DecidesAt call e n a) (hf : DecidesAt call f n b) :
    DecidesAt call (.binary op e f) n joined := by
  refine decidesAt_of_ofBool fun c hc => ?_
  obtain ⟨v, hv, hvtruth, -⟩ := he c hc
  obtain ⟨w, hw, hwtruth, -⟩ := hf c hc
  rw [Expr.eval, hv, hw]
  exact hop v w hvtruth hwtruth

theorem decidesAt_and (he : DecidesAt call e n a) (hf : DecidesAt call f n b) :
    DecidesAt call (.binary .and e f) n (a && b) := by
  refine decidesAt_binary (fun v w hv hw => ?_) he hf
  have hboth : XPath.bothTrue v w = .ok (a && b) := by
    rw [XPath.bothTrue, hw]
    simp only [bind, Except.bind, hv]
    cases a <;> cases b <;> rfl
  simp only [XPath.operate, hboth]
  rfl

theorem decidesAt_or (he : DecidesAt call e n a) (hf : DecidesAt call f n b) :
    DecidesAt call (.binary .or e f) n (a || b) := by
  refine decidesAt_binary (fun v w hv hw => ?_) he hf
  have heither : XPath.eitherTrue v w = .ok (a || b) := by
    rw [XPath.eitherTrue, hw]
    simp only [bind, Except.bind, hv]
    cases a <;> cases b <;> rfl
  simp only [XPath.operate, heither]
  rfl

theorem decidesAt_withAll (hx : t.Lists x) (hn : x.number = n.val)
    (hdistinct : (x.attributes.map (·.1)).Nodup) (cs : List Condition)
    (he : DecidesAt call e n b) :
    DecidesAt call (withAll e cs) n (b && cs.all fun c => c.holds x.attributes) := by
  induction cs generalizing e b with
  | nil => simpa [withAll] using he
  | cons c cs ih =>
    have hc := decidesAt_and he (decidesAt_condition c hx hn hdistinct)
    rw [List.all_cons, ← Bool.and_assoc]
    exact ih hc

/-- **A group** is decided as all its conditions hold. -/
theorem decidesAt_groupExpr (hx : t.Lists x) (hn : x.number = n.val)
    (hdistinct : (x.attributes.map (·.1)).Nodup) {g : List Condition} (hg : IsGroup g) :
    DecidesAt call (groupExpr g) n (g.all fun c => c.holds x.attributes) := by
  cases g with
  | nil => exact hg.elim
  | cons c cs => exact decidesAt_withAll hx hn hdistinct cs (decidesAt_condition c hx hn hdistinct)

theorem decidesAt_withAny (hx : t.Lists x) (hn : x.number = n.val)
    (hdistinct : (x.attributes.map (·.1)).Nodup) {gs : List (List Condition)}
    (hgs : ∀ g ∈ gs, IsGroup g) (he : DecidesAt call e n b) :
    DecidesAt call (withAny e gs) n
      (b || gs.any fun g => g.all fun c => c.holds x.attributes) := by
  induction gs generalizing e b with
  | nil => simpa [withAny] using he
  | cons g gs ih =>
    have hg : DecidesAt call (groupExpr g) n (g.all fun c => c.holds x.attributes) :=
      decidesAt_groupExpr hx hn hdistinct (hgs g List.mem_cons_self)
    rw [List.any_cons, ← Bool.or_assoc]
    exact ih (fun h hh => hgs h (List.mem_cons_of_mem g hh)) (decidesAt_or he hg)

/-- **The predicate of a selection** is decided as its conditions hold. -/
theorem decidesAt_predicate (hx : t.Lists x) (hn : x.number = n.val)
    (hdistinct : (x.attributes.map (·.1)).Nodup) {conditions : List Condition} {p : Expr}
    (hp : p ∈ predicateExprs conditions) :
    DecidesAt call p n (conditionsHold conditions x.attributes) := by
  cases conditions with
  | nil => simp [predicateExprs, groups] at hp
  | cons c cs =>
    obtain ⟨g, gs, hgroups, hall, -, -⟩ := exists_groups c cs
    rw [predicateExprs, hgroups] at hp
    obtain rfl := List.mem_singleton.1 hp
    rw [conditionsHold, hgroups, List.isEmpty_cons, Bool.false_or, List.any_cons]
    exact decidesAt_withAny hx hn hdistinct (fun h hh => hall h (List.mem_cons_of_mem g hh))
      (decidesAt_groupExpr hx hn hdistinct (hall g List.mem_cons_self))

/-! ## Steps -/

/-- The test of an expression takes the elements that the test of the selection takes. -/
theorem accepts_child (hx : t.Lists x) (test : NodeTest) :
    test.test.accepts t .child x.number =
      match x.kind with
      | .element name => test.takes name
      | _ => false := by
  have hkind := Table.kind_number hx
  rw [NodeTest.test]
  cases hk : x.kind with
  | element name =>
    rw [hk] at hkind
    change _ = test.takes name
    rw [NodeTest.takes_eq]
    split_ifs with hstar
    · simp [XPath.NodeTest.accepts, XPath.NodeTest.isPrincipal, Table.isElement, hkind, hstar]
    · simp [XPath.NodeTest.accepts, XPath.NodeTest.isPrincipal, Table.isElement, Table.name?, hkind,
        hstar, eq_comm]
  | document | attr _ _ | text _ | comment _ =>
    rw [hk] at hkind
    split_ifs <;>
      simp [XPath.NodeTest.accepts, XPath.NodeTest.isPrincipal, Table.isElement, hkind]

/-- **The step of a selection** leads to the children that the selection takes. -/
theorem exists_givesAt_step (hx : t.Lists x) (hn : x.number = n.val)
    (hdistinct : ∀ y ∈ x.children, (y.attributes.map (·.1)).Nodup) (s : TagSelection) :
    ∃ found, GivesAt call (.step .child s.test.test (predicateExprs s.conditions)) n found ∧
      Marks found {y | y ∈ x.children ∧ s.fits y = true} := by
  have hmarks : Marks (stepNodes .child s.test.test n)
      {y | y ∈ x.children ∧ s.test.test.accepts t .child y.number = true} :=
    XPath.marks_child hx hn
  have hlists : ∀ y ∈ x.children, t.Lists y := fun y => Table.lists_of_mem_children hx
  have hfits : ∀ y ∈ x.children, s.fits y = (s.test.test.accepts t .child y.number &&
      conditionsHold s.conditions (t.attributes y.number)) := by
    intro y hy
    rw [accepts_child (hlists y hy), Table.attributes_number (hlists y hy), TagSelection.fits]
    cases y.kind <;> rfl
  cases hc : s.conditions with
  | nil =>
    refine ⟨_, XPath.givesAt_step_nil rfl, fun m => ?_⟩
    rw [hmarks m]
    refine exists_congr fun y => and_congr_left fun _ => and_congr_right fun hy => ?_
    rw [hfits y hy, hc]
    simp [conditionsHold]
  | cons c cs =>
    obtain ⟨p, hp⟩ : ∃ p, predicateExprs (c :: cs) = [p] := by
      obtain ⟨g, gs, hgroups, -⟩ := exists_groups c cs
      exact ⟨_, by rw [predicateExprs, hgroups]⟩
    have hdecides : ∀ m ∈ stepNodes .child s.test.test n,
        DecidesAt call p m (conditionsHold (c :: cs) (t.attributes m.val)) := by
      intro m hm
      obtain ⟨y, ⟨hy, -⟩, hnumber⟩ := (hmarks m).1 hm
      rw [← hnumber, Table.attributes_number (hlists y hy)]
      exact decidesAt_predicate (hlists y hy) hnumber (hdistinct y hy) (by rw [hp]; simp)
    rw [hp]
    refine ⟨_, XPath.givesAt_step_one rfl hdecides, fun m => ?_⟩
    rw [List.mem_filter, hmarks m]
    constructor
    · rintro ⟨⟨y, ⟨hy, htest⟩, hnumber⟩, hconditions⟩
      refine ⟨y, ⟨hy, ?_⟩, hnumber⟩
      rw [hfits y hy, htest, hc, hnumber, hconditions]
      rfl
    · rintro ⟨y, ⟨hy, hfit⟩, hnumber⟩
      rw [hfits y hy, Bool.and_eq_true, hc, hnumber] at hfit
      exact ⟨⟨y, ⟨hy, by rw [hnumber]; exact hfit.1⟩, hnumber⟩, hfit.2⟩

/-! ## Paths -/

/-- What is below a place are the children of the place and of what is below it. -/
theorem isBelow_iff_child {y : Place} :
    x.IsBelow y ↔ ∃ z, (z = x ∨ z ∈ x.below) ∧ y ∈ z.children := by
  rw [Place.IsBelow, Relation.TransGen.tail'_iff]
  refine exists_congr fun z => and_congr_left fun _ => ?_
  rw [Relation.reflTransGen_iff_eq_or_transGen, Place.mem_below_iff]
  rfl

/-- **A selection behind an expression** gives the places that the selection reaches. -/
theorem exists_givesAt_after {nodes : List t.Node} {places : Set Place}
    (he : GivesAt call e n nodes) (hnodes : Marks nodes places) (hlists : ∀ x ∈ places, t.Lists x)
    (hdistinct : ∀ x ∈ places, ∀ y ∈ x.below, (y.attributes.map (·.1)).Nodup) (s : TagSelection) :
    ∃ result, GivesAt call (s.after e) n result ∧ result.Pairwise (· < ·) ∧
      Marks result (s.reach places) := by
  rw [TagSelection.after]
  cases haxis : s.axis with
  | child =>
    obtain ⟨result, hgives, hsorted, hmarks⟩ := XPath.exists_givesAt_path he hnodes hlists
      fun x hx m hm => exists_givesAt_step (hlists x hx) hm
        (fun y hy => hdistinct x hx y (Place.mem_below_iff.2 (.single hy))) s
    refine ⟨result, hgives, hsorted, fun m => ?_⟩
    rw [hmarks m]
    refine exists_congr fun y => and_congr_left fun _ => ?_
    rw [TagSelection.mem_reach_iff, haxis]
    rfl
  | descendant =>
    obtain ⟨found, hfound, -, hbetween⟩ := XPath.exists_givesAt_path he hnodes hlists
      fun x hx m hm => XPath.exists_givesAt_anyDepth (hlists x hx) hm
    have hlistsBelow : ∀ z ∈ {y | ∃ x ∈ places, y ∈ {y | y = x ∨ y ∈ x.below}}, t.Lists z := by
      rintro z ⟨x, hx, rfl | hz⟩
      · exact hlists z hx
      · exact Table.lists_of_mem_below (hlists x hx) hz
    obtain ⟨result, hgives, hsorted, hmarks⟩ :=
      XPath.exists_givesAt_path hfound hbetween hlistsBelow
      fun z hz m hm => exists_givesAt_step (hlistsBelow z hz) hm (by
        rintro y hy
        obtain ⟨x, hx, hz⟩ := hz
        exact hdistinct x hx y (Place.mem_below_iff.2 (isBelow_iff_child.2 ⟨z, hz, hy⟩))) s
    refine ⟨result, hgives, hsorted, fun m => ?_⟩
    rw [hmarks m]
    refine exists_congr fun y => and_congr_left fun _ => ?_
    rw [TagSelection.mem_reach_iff, haxis]
    constructor
    · rintro ⟨z, ⟨x, hx, hz⟩, hy, hfits⟩
      exact ⟨x, hx, isBelow_iff_child.2 ⟨z, hz, hy⟩, hfits⟩
    · rintro ⟨x, hx, hleads, hfits⟩
      obtain ⟨z, hz, hy⟩ := isBelow_iff_child.1 hleads
      exact ⟨z, ⟨x, hx, hz⟩, hy, hfits⟩

variable {root : Tree}

/-- **Selections behind an expression** give the chosen places, in document order. -/
theorem exists_givesAt_selections (hroot : t.Lists (.document root)) (hdistinct : root.Distinct)
    {nodes : List t.Node} {places : Set Place} (he : GivesAt call e n nodes)
    (hsorted : nodes.Pairwise (· < ·)) (hnodes : Marks nodes places)
    (hplaces : ∀ x ∈ places, x = .document root ∨ (Place.document root).IsBelow x)
    (selections : List TagSelection) :
    ∃ result, GivesAt call (selections.foldl TagSelection.after e) n result ∧
      result.Pairwise (· < ·) ∧ Marks result (chosen places selections) := by
  induction selections generalizing e nodes places with
  | nil => exact ⟨nodes, he, hsorted, hnodes⟩
  | cons s selections ih =>
    have hlists : ∀ x ∈ places, t.Lists x := by
      intro x hx
      rcases hplaces x hx with rfl | hbelow
      · exact hroot
      · exact Table.lists_of_mem_below hroot (Place.mem_below_iff.2 hbelow)
    have hnames : ∀ x ∈ places, ∀ y ∈ x.below, (y.attributes.map (·.1)).Nodup := by
      intro x hx y hy
      refine Place.nodup_attributes hdistinct (List.mem_cons_of_mem _ (Place.mem_below_iff.2 ?_))
      rcases hplaces x hx with rfl | hbelow
      · exact Place.mem_below_iff.1 hy
      · exact hbelow.trans (Place.mem_below_iff.1 hy)
    obtain ⟨result, hgives, hresult, hmarks⟩ :=
      exists_givesAt_after he hnodes hlists hnames s
    exact ih hgives hresult hmarks fun y hy =>
      .inr (TagSelection.isBelow_of_mem_reach hplaces hy)

/-- **A path gives the chosen places**, in document order. -/
theorem exists_givesAt_pathExpr (hroot : t.Lists (.document root)) (hdistinct : root.Distinct)
    (selections : List TagSelection) :
    ∃ result, GivesAt call (pathExpr selections) t.root result ∧ result.Pairwise (· < ·) ∧
      Marks result (chosen {.document root} selections) := by
  have hstart : GivesAt call .root t.root [t.root] := by
    intro c hc
    rw [Expr.eval, hc]
    rfl
  have hmarks : Marks [t.root] {Place.document root} := by
    intro m
    have hzero : m ∈ [t.root] ↔ 0 = m.val := by
      rw [List.mem_singleton, Fin.ext_iff, eq_comm]
      rfl
    rw [hzero]
    constructor
    · exact fun h => ⟨_, rfl, h⟩
    · rintro ⟨x, rfl, h⟩
      exact h
  exact exists_givesAt_selections hroot hdistinct hstart (List.pairwise_singleton _ _) hmarks
    (fun x hx => .inl hx) selections

/-! ## Names -/

theorem check_binary {s : XPath.Scope} {op : XPath.Operator} (he : e.check s = .ok ())
    (hf : f.check s = .ok ()) : (Expr.binary op e f).check s = .ok () := by
  rw [Expr.check, he]
  exact hf

theorem check_condition {s : XPath.Scope} (hs : s.hasContext = true) (c : Condition) :
    c.expr.check s = .ok () := by
  have hstep : (Expr.step .attributes (.named c.name) []).check s = .ok () := by
    rw [Expr.check, XPath.Scope.requireContext, if_pos hs]
    rfl
  rw [Condition.expr]
  cases c.value with
  | none => exact hstep
  | some value => exact check_binary hstep rfl

theorem check_groupExpr {s : XPath.Scope} (hs : s.hasContext = true) {g : List Condition} :
    (groupExpr g).check s = .ok () := by
  cases g with
  | nil => rfl
  | cons c cs =>
    rw [groupExpr, withAll]
    have hc := check_condition hs c
    generalize c.expr = e at hc
    induction cs generalizing e with
    | nil => exact hc
    | cons d ds ih => exact ih _ (check_binary hc (check_condition hs d))

theorem check_withAny {s : XPath.Scope} (hs : s.hasContext = true) {gs : List (List Condition)}
    (he : e.check s = .ok ()) : (withAny e gs).check s = .ok () := by
  induction gs generalizing e with
  | nil => exact he
  | cons g gs ih => exact ih (check_binary he (check_groupExpr hs))

theorem checkAll_predicateExprs {s : XPath.Scope} (hs : s.hasContext = true)
    (conditions : List Condition) : Expr.checkAll s (predicateExprs conditions) = .ok () := by
  rw [predicateExprs]
  cases groups conditions with
  | nil => rfl
  | cons g gs =>
    rw [Expr.checkAll, check_withAny hs (check_groupExpr hs)]
    rfl

theorem check_after {s : XPath.Scope} (r : TagSelection) (he : e.check s = .ok ()) :
    (r.after e).check s = .ok () := by
  have hstep : (Expr.step .child r.test.test (predicateExprs r.conditions)).check s.focus =
      .ok () := by
    have hfocus : s.focus.hasContext = true := rfl
    rw [Expr.check, XPath.Scope.requireContext, if_pos hfocus]
    exact checkAll_predicateExprs rfl r.conditions
  rw [TagSelection.after]
  cases r.axis with
  | child =>
    rw [Expr.check, he]
    exact hstep
  | descendant =>
    have hany : (Expr.path e XPath.anyDepth).check s = .ok () := by
      rw [Expr.check, he]
      rfl
    rw [Expr.check, hany]
    exact hstep

/-- **No name in the expression of a path is unknown.** -/
theorem check_pathExpr (selections : List TagSelection) :
    (pathExpr selections).check {} = .ok () := by
  have hroot : Expr.root.check {} = .ok () := rfl
  rw [pathExpr]
  generalize Expr.root = e at hroot
  induction selections generalizing e with
  | nil => exact hroot
  | cons s selections ih => exact ih _ (check_after s hroot)

end MarkupQuery.Query
