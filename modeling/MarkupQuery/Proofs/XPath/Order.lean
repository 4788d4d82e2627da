import MarkupQuery.Proofs.Document.Rows
import MarkupQuery.Proofs.XPath.NodeSets
import MarkupQuery.Proofs.XPath.Success

/-!
# Values in document order

Which expressions give their nodes in document order, each once. Most do, whatever they are made of:
a step, a path and an operator on sets of nodes put their nodes in order themselves. What does not
is listed in `Expr.keepsOrder`: the comma, the operator `!` and `for` only put values one behind the
other, a value may stand in a map or an array in any order, and functions may give what they like.
An expression that is none of these, and does not pass on the value of one, has its nodes in order
(`inOrder_eval`), since this holds of each form if it holds of the parts whose values the form
passes on.
-/

namespace MarkupQuery.XPath

open MarkupQuery.Document (Table)

variable {t : Table} {call : Call t} {c : Context t}

/-! ## Order of values -/

/-- The nodes of a value stand in document order, each once. -/
def InOrder (v : Value t) : Prop :=
  (v.filterMap Item.node?).Pairwise (· < ·)

/-- A value without nodes. -/
def NoNodes (v : Value t) : Prop :=
  v.filterMap Item.node? = []

theorem NoNodes.inOrder {v : Value t} (h : NoNodes v) : InOrder v := by
  rw [InOrder, h]
  exact .nil

theorem inOrder_nil : InOrder ([] : Value t) := List.Pairwise.nil

/-- A value of one item is in order. -/
theorem inOrder_singleton (i : Item t) : InOrder [i] := by
  cases i
  case node n => exact List.pairwise_singleton _ n
  all_goals exact List.Pairwise.nil

theorem inOrder_ofNodes {nodes : List t.Node} (h : nodes.Pairwise (· < ·)) :
    InOrder (Value.ofNodes nodes) := by
  rwa [InOrder, filterMap_node?_ofNodes]

theorem InOrder.sublist {v w : Value t} (h : InOrder v) (hw : w.Sublist v) : InOrder w :=
  List.Pairwise.sublist (hw.filterMap _) h

/-! ## Steps -/

/-- From a node upwards numbers get smaller. -/
theorem pairwise_above (ht : t.ParentsFirst) (fuel : Nat) {n : Nat} (hn : n < t.size) :
    (n :: Axis.above t fuel n).Pairwise (· > ·) := by
  induction fuel generalizing n with
  | zero => exact List.pairwise_singleton _ n
  | succ fuel ih =>
    rw [Axis.above]
    split_ifs with hzero
    · exact List.pairwise_singleton _ n
    · have hparent := ht n (Nat.pos_of_ne_zero hzero) hn
      have hrest := ih (Nat.lt_trans hparent hn)
      refine List.pairwise_cons.2 ⟨fun m hm => ?_, hrest⟩
      rcases List.mem_cons.1 hm with rfl | hm
      · exact hparent
      · exact Nat.lt_trans (List.rel_of_pairwise_cons hrest hm) hparent

theorem pairwise_between (first last : Nat) : (Table.between first last).Pairwise (· < ·) :=
  List.pairwise_lt_range' ..

theorem pairwise_descendants (n : Nat) : (t.descendants n).Pairwise (· < ·) :=
  (pairwise_between ..).filter _

theorem pairwise_beside (n : Nat) : (Axis.beside t n).Pairwise (· < ·) := by
  rw [Axis.beside]
  split_ifs
  · exact .nil
  · exact (pairwise_between ..).filter _
  · exact (pairwise_descendants _).filter _

/-- The nodes of an axis come in document order, or in its reverse. -/
theorem pairwise_nodes (ht : t.ParentsFirst) (axis : Axis) {n : Nat} (hn : n < t.size) :
    (Axis.nodes t axis n).Pairwise fun a b => if axis.isReverse then b < a else a < b := by
  cases axis with
  | child => exact (pairwise_descendants n).filter _
  | descendant => exact pairwise_descendants n
  | attributes => exact (pairwise_between ..).filter _
  | self => exact List.pairwise_singleton _ n
  | descendantOrSelf =>
    change List.Pairwise (· < ·) (if t.isAttribute n then [] else n :: t.descendants n)
    split_ifs
    · exact .nil
    · exact List.pairwise_cons.2
        ⟨fun m hm => (List.mem_range'_1.1 (List.mem_filter.1 hm).1).1, pairwise_descendants n⟩
  | followingSibling => exact (pairwise_beside n).filter _
  | following => exact (pairwise_between ..).filter _
  | parent =>
    change List.Pairwise (· > ·) (if n = 0 then [] else [t.parent n])
    split_ifs
    · exact .nil
    · exact List.pairwise_singleton _ _
  | ancestor => exact (List.pairwise_cons.1 (pairwise_above ht t.size hn)).2
  | precedingSibling => exact List.pairwise_reverse.2 ((pairwise_beside n).filter _)
  | preceding => exact List.pairwise_reverse.2 ((pairwise_between ..).filter _)
  | ancestorOrSelf => exact pairwise_above ht t.size hn
  | namespaces => exact .nil

theorem val_of_node? {n : Nat} {m : t.Node} (h : t.node? n = some m) : n = m.val := by
  rw [Table.node?] at h
  split_ifs at h
  exact (congrArg Fin.val (Option.some.inj h))

theorem pairwise_stepNodes (ht : t.ParentsFirst) (axis : Axis) (test : NodeTest) (n : t.Node) :
    (stepNodes axis test n).Pairwise fun a b => if axis.isReverse then b < a else a < b := by
  refine ((pairwise_nodes ht axis n.isLt).filter _).filterMap _ fun a b hab a' ha b' hb => ?_
  obtain rfl := val_of_node? ha
  obtain rfl := val_of_node? hb
  exact hab

/-! ## Predicates -/

theorem keepItems_sublist (test : Item t → Nat → Except Fault Bool) (place : Nat) (v : Value t) :
    Ensures (keepItems test place v) fun kept => kept.Sublist v := by
  induction v generalizing place with
  | nil => exact .ok (List.Sublist.refl _)
  | cons i v ih =>
    rw [keepItems]
    refine .bind fun kept _ => .andThen (ih (place + 1)) fun rest hrest => .pure ?_
    split
    · exact hrest.cons_cons i
    · exact hrest.cons i

/-- Predicates only leave items out. -/
theorem select_sublist (v : Value t) (predicates : List Expr) :
    Ensures (Expr.select call c v predicates) fun kept => kept.Sublist v := by
  induction predicates generalizing v with
  | nil =>
    rw [Expr.select]
    exact .ok (List.Sublist.refl v)
  | cons p ps ih =>
    rw [Expr.select]
    exact .andThen (keepItems_sublist _ 1 v) fun kept hkept =>
      (ih kept).mono fun _ h => h.trans hkept

/-- **A step** gives its nodes in order. -/
theorem inOrder_step (ht : t.ParentsFirst) (axis : Axis) (test : NodeTest)
    (predicates : List Expr) :
    Ensures (Expr.eval call c (.step axis test predicates)) InOrder := by
  rw [Expr.eval]
  split
  · rename_i n _
    have hnodes := pairwise_stepNodes ht axis test n
    refine .andThen (select_sublist (Value.ofNodes (stepNodes axis test n)) predicates)
      fun found hfound => .pure ?_
    have hsublist := hfound.filterMap Item.node?
    rw [filterMap_node?_ofNodes] at hsublist
    split_ifs with hreverse
    · simp only [hreverse, if_true] at hnodes
      rw [InOrder, List.filterMap_reverse]
      exact List.pairwise_reverse.2 (hnodes.sublist hsublist)
    · simp only [hreverse] at hnodes
      exact hnodes.sublist hsublist
  · exact .error _

/-! ## Values without nodes -/

theorem noNodes_nil : NoNodes ([] : Value t) := rfl

theorem noNodes_ofAtom (a : Atom) : NoNodes (Value.ofAtom (t := t) a) := rfl

theorem noNodes_flatMap_ofInt {α : Type} (f : α → Int) (as : List α) :
    NoNodes (as.flatMap fun a => Value.ofInt (t := t) (f a)) := by
  induction as with
  | nil => rfl
  | cons a as ih => exact ih

theorem noNodes_compareSingle (op : Comparison) (v w : Value t) :
    Ensures (compareSingle op v w) NoNodes := by
  rw [compareSingle]
  split_ifs
  · exact .pure noNodes_nil
  · refine .bind fun a _ => .bind fun b _ => ?_
    split
    · exact .bind fun _ _ => .pure (noNodes_ofAtom _)
    · exact .pure noNodes_nil

theorem noNodes_compareNodes (test : t.Node → t.Node → Bool) (v w : Value t) :
    Ensures (compareNodes test v w) NoNodes := by
  unfold compareNodes
  split_ifs
  · exact .ok noNodes_nil
  · split
    · exact .ok (noNodes_ofAtom _)
    · exact .error _

theorem noNodes_rangeOf (v w : Value t) : Ensures (rangeOf v w) NoNodes := by
  rw [rangeOf]
  refine .bind fun b _ => .bind fun a _ => ?_
  split
  · exact .pure (noNodes_flatMap_ofInt _ _)
  · exact .pure noNodes_nil

theorem noNodes_arithmetic (op : Arithmetic) (v w : Value t) :
    Ensures (arithmetic op v w) NoNodes := by
  rw [arithmetic]
  split_ifs
  · exact .pure noNodes_nil
  · refine .bind fun a _ => .bind fun b _ => ?_
    split
    · exact .bind fun _ _ => .pure (noNodes_ofAtom _)
    · exact .pure noNodes_nil

theorem noNodes_signed (negative : Bool) (v : Value t) : Ensures (signed negative v) NoNodes := by
  rw [signed]
  refine .bind fun a _ => ?_
  split
  · exact .pure noNodes_nil
  · exact .pure (noNodes_ofAtom _)
  · exact .throw _

theorem noNodes_castValue (type : AtomicType) (emptyToo : Bool) (v : Value t) :
    Ensures (castValue type emptyToo v) NoNodes := by
  rw [castValue]
  refine .bind fun a _ => ?_
  split
  · exact .bind fun _ _ => .pure (noNodes_ofAtom _)
  · split_ifs
    · exact .pure noNodes_nil
    · exact .throw _

theorem noNodes_quantify (every : Bool) (f : Item t → Except Fault (Value t)) (v : Value t) :
    Ensures (quantify every f v) NoNodes := by
  induction v with
  | nil => exact .ok (noNodes_ofAtom _)
  | cons i v ih =>
    rw [quantify]
    refine .bind fun _ _ => .bind fun _ _ => ?_
    split_ifs
    · exact ih
    · exact .pure (noNodes_ofAtom _)

/-! ## Sets of nodes -/

theorem pairwise_setOperation (op : Operator) (left right : List t.Node) :
    (setOperation op left right).Pairwise (· < ·) := by
  unfold setOperation
  split
  · exact (pairwise_inOrder left).filter _
  · exact (pairwise_inOrder left).filter _
  · exact pairwise_union (pairwise_inOrder left) (pairwise_inOrder right)

/-- **An operator** gives atoms, or a set of nodes. -/
theorem inOrder_operate (op : Operator) (v w : Value t) : Ensures (operate op v w) InOrder := by
  have hatom (a : Atom) : InOrder (Value.ofAtom (t := t) a) := (noNodes_ofAtom a).inOrder
  have hset : Ensures (do
      return Value.ofNodes (setOperation op (← Value.nodes v) (← Value.nodes w)))
        (InOrder (t := t)) :=
    .bind fun _ _ => .bind fun _ _ => .pure (inOrder_ofNodes (pairwise_setOperation op _ _))
  cases op with
  | or => exact .bind fun _ _ => .pure (hatom _)
  | and => exact .bind fun _ _ => .pure (hatom _)
  | general _ => exact .bind fun _ _ => .bind fun _ _ => .bind fun _ _ => .pure (hatom _)
  | value op => exact (noNodes_compareSingle op v w).mono fun _ => NoNodes.inOrder
  | same => exact (noNodes_compareNodes _ v w).mono fun _ => NoNodes.inOrder
  | before => exact (noNodes_compareNodes _ v w).mono fun _ => NoNodes.inOrder
  | after => exact (noNodes_compareNodes _ v w).mono fun _ => NoNodes.inOrder
  | concat => exact .bind fun _ _ => .bind fun _ _ => .pure (hatom _)
  | range => exact (noNodes_rangeOf v w).mono fun _ => NoNodes.inOrder
  | arithmetic a => exact (noNodes_arithmetic a v w).mono fun _ => NoNodes.inOrder
  | union | intersect | except => exact hset

/-- **A path** puts its nodes in order, wherever they come from. -/
theorem inOrder_joinSteps (parts : List (Value t)) : Ensures (joinSteps parts) InOrder := by
  rw [joinSteps]
  split_ifs with hall hnone
  · exact .ok (inOrder_ofNodes (pairwise_unionAll _))
  · refine .ok (NoNodes.inOrder ?_)
    rw [NoNodes, List.filterMap_eq_nil_iff]
    intro i hi
    obtain ⟨part, hpart, hi⟩ := List.mem_flatten.1 hi
    have hnot := List.all_eq_true.1 (List.all_eq_true.1 hnone part hpart) i hi
    cases i <;> simp_all [Item.isNode, Item.node?]
  · exact .error _

/-! ## Expressions -/

/-- Whether an expression has its nodes in order because of its form, if its variables have. -/
def Expr.keepsOrder : Expr → Bool
  | .integer _ | .decimal _ | .double _ | .string _ | .context | .root | .variable _ | .hole
  | .reference _ _ | .inline _ _ _ | .step _ _ _ | .path _ _ | .binary _ _ _ | .sign _ _
  | .array _ | .arrayOf _ | .mapOf _ | .bind .some _ _ _ | .bind .every _ _ _ | .instanceOf _ _
  | .castable _ _ _ | .cast _ _ _ => true
  | .filter base _ => base.keepsOrder
  | .conditional _ yes no => yes.keepsOrder && no.keepsOrder
  | .bind .whole _ source body => source.keepsOrder && body.keepsOrder
  | .treat operand _ => operand.keepsOrder
  | .sequence members => members.isEmpty
  | .call _ _ | .apply _ _ | .lookup _ _ | .lookupAll _ | .map _ _ | .bind .each _ _ _ => false

/-- The values of all variables are in order. -/
def Context.InOrder (c : Context t) : Prop :=
  ∀ b ∈ c.bindings, XPath.InOrder b.2

theorem inOrder_lookup (hc : c.InOrder) {name : QName} {v : Value t}
    (h : c.bindings.lookup name = some v) : XPath.InOrder v := by
  obtain ⟨before, after, hbindings, -⟩ := List.lookup_eq_some_iff.1 h
  exact hc (name, v) (by simp [hbindings])

/-- **An expression whose form keeps order has its nodes in order.** -/
theorem inOrder_eval (ht : t.ParentsFirst) (e : Expr) (he : e.keepsOrder = true)
    (c : Context t) (hc : c.InOrder) : Ensures (e.eval call c) InOrder := by
  cases e with
  | integer _ | decimal _ | double _ | string _ =>
    rw [Expr.eval]
    exact .ok (noNodes_ofAtom _).inOrder
  | context =>
    rw [Expr.eval]
    exact .ok (inOrder_singleton _)
  | root =>
    rw [Expr.eval]
    split
    · exact .ok (inOrder_singleton _)
    · exact .error _
  | «variable» name =>
    rw [Expr.eval]
    split
    · exact .ok (inOrder_lookup hc ‹_›)
    · exact .error _
  | hole =>
    rw [Expr.eval]
    exact .error _
  | reference name arity =>
    rw [Expr.eval]
    split
    · exact .ok (inOrder_singleton _)
    · exact .error _
  | inline parameters result body =>
    rw [Expr.eval]
    exact .ok (inOrder_singleton _)
  | step axis test predicates => exact inOrder_step ht axis test predicates
  | path left right =>
    rw [Expr.eval]
    exact .bind fun _ _ => .bind fun parts _ => inOrder_joinSteps parts
  | binary op left right =>
    rw [Expr.eval]
    exact .bind fun _ _ => .bind fun _ _ => inOrder_operate op _ _
  | sign negative operand =>
    rw [Expr.eval]
    exact .bind fun v _ => (noNodes_signed negative v).mono fun _ => NoNodes.inOrder
  | array members =>
    rw [Expr.eval]
    exact .bind fun _ _ => .pure (inOrder_singleton _)
  | arrayOf body =>
    rw [Expr.eval]
    exact .bind fun _ _ => .pure (inOrder_singleton _)
  | mapOf entries =>
    rw [Expr.eval]
    exact .bind fun _ _ => .bind fun _ _ => .pure (inOrder_singleton _)
  | instanceOf operand type =>
    rw [Expr.eval]
    exact .bind fun _ _ => .pure (noNodes_ofAtom _).inOrder
  | castable operand type emptyToo =>
    rw [Expr.eval]
    exact .bind fun _ _ => .pure (noNodes_ofAtom _).inOrder
  | cast operand type emptyToo =>
    rw [Expr.eval]
    exact .bind fun v _ => (noNodes_castValue type emptyToo v).mono fun _ => NoNodes.inOrder
  | filter base predicates =>
    rw [Expr.eval]
    exact .andThen (inOrder_eval ht base he c hc) fun v hv =>
      (select_sublist v predicates).mono fun _ => hv.sublist
  | conditional condition yes no =>
    rw [Expr.keepsOrder, Bool.and_eq_true] at he
    rw [Expr.eval]
    refine .bind fun _ _ => .bind fun _ _ => ?_
    split_ifs
    · exact inOrder_eval ht yes he.1 c hc
    · exact inOrder_eval ht no he.2 c hc
  | treat operand type =>
    rw [Expr.eval]
    refine .andThen (inOrder_eval ht operand he c hc) fun v hv => ?_
    split_ifs
    · exact .pure hv
    · exact .throw _
  | sequence members =>
    rw [Expr.keepsOrder, List.isEmpty_iff] at he
    subst he
    rw [Expr.eval, Expr.evalAll]
    exact .bind fun _ h => by
      obtain rfl := Except.ok.inj h
      exact .pure inOrder_nil
  | bind binder name source body =>
    cases binder with
    | whole =>
      rw [Expr.keepsOrder, Bool.and_eq_true] at he
      rw [Expr.eval]
      refine .andThen (inOrder_eval ht source he.1 c hc) fun v hv =>
        inOrder_eval ht body he.2 _ fun b hb => ?_
      rcases List.mem_cons.1 hb with rfl | hb
      · exact hv
      · exact hc b hb
    | each => cases he
    | some =>
      rw [Expr.eval]
      exact .bind fun v _ => (noNodes_quantify false _ v).mono fun _ => NoNodes.inOrder
    | every =>
      rw [Expr.eval]
      exact .bind fun v _ => (noNodes_quantify true _ v).mono fun _ => NoNodes.inOrder
  | call _ _ | apply _ _ | lookup _ _ | lookupAll _ | map _ _ => cases he

end MarkupQuery.XPath
