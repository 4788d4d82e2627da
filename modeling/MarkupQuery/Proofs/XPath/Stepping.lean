import Mathlib.Data.Set.Basic
import MarkupQuery.Proofs.Document.Rows
import MarkupQuery.Proofs.XPath.NodeSets
import MarkupQuery.XPath.Parser

/-!
# Steps between places

The value of a path at a node of a document, told by places: if the left side gives the nodes of
some places and the right side those of others at each of them, the path gives all of these, in
document order (`exists_givesAt_path`). The steps of a path to the children of a place, to all that
is below it, and to its attributes are told likewise.
-/

namespace MarkupQuery.XPath

open MarkupQuery.Document (Table Place Kind)

variable {t : Table} {call : Call t} {e left right : Expr} {n m : t.Node} {x : Place}

/-! ## Values at a node -/

/-- An expression gives nodes at a node, whatever else is known there. -/
def GivesAt (call : Call t) (e : Expr) (n : t.Node) (nodes : List t.Node) : Prop :=
  ∀ c : Context t, c.item = .node n → e.eval call c = .ok (Value.ofNodes nodes)

theorem givesAt_unique {nodes nodes' : List t.Node} (h : GivesAt call e n nodes)
    (h' : GivesAt call e n nodes') : nodes = nodes' := by
  have heval := (h { item := .node n, surroundings := {} } rfl).symm.trans
    (h' { item := .node n, surroundings := {} } rfl)
  have hnodes := congrArg Value.nodes (Except.ok.inj heval)
  rw [nodes_ofNodes, nodes_ofNodes] at hnodes
  exact Except.ok.inj hnodes

/-- Nodes are those of some places. -/
def Marks (nodes : List t.Node) (places : Set Place) : Prop :=
  ∀ m, m ∈ nodes ↔ ∃ x ∈ places, x.number = m.val

/-- The node of a place that a table lists. -/
def nodeOf (h : t.Lists x) : t.Node :=
  ⟨x.number, Table.number_lt_size h⟩

/-- **A path gives what its right side gives at what its left side gives.** -/
theorem exists_givesAt_path {nodes : List t.Node} {places : Set Place}
    {further : Place → Set Place} (hleft : GivesAt call left n nodes) (hnodes : Marks nodes places)
    (hlists : ∀ x ∈ places, t.Lists x)
    (hright : ∀ x ∈ places, ∀ m : t.Node, x.number = m.val →
      ∃ found, GivesAt call right m found ∧ Marks found (further x)) :
    ∃ result, GivesAt call (.path left right) n result ∧ result.Pairwise (· < ·) ∧
      Marks result {y | ∃ x ∈ places, y ∈ further x} := by
  have hall : ∀ m, ∃ found, m ∈ nodes → GivesAt call right m found := by
    intro m
    by_cases hm : m ∈ nodes
    · obtain ⟨x, hx, hnumber⟩ := (hnodes m).1 hm
      obtain ⟨found, hfound, -⟩ := hright x hx m hnumber
      exact ⟨found, fun _ => hfound⟩
    · exact ⟨[], fun h => absurd h hm⟩
  choose g hg using hall
  refine ⟨unionAll (nodes.map g), fun c hc => ?_, pairwise_unionAll _, fun k => ?_⟩
  · have hstart := hleft c hc
    have hparts : ∀ size, forItems (fun i place =>
        right.eval call { c with item := i, position := place, size := size }) 1
          (Value.ofNodes nodes) = .ok ((nodes.map g).map Value.ofNodes) := fun size =>
      forItems_ofNodes 1 fun m hm place => hg m hm _ rfl
    rw [Expr.eval, hstart]
    simp only [bind, Except.bind, hparts]
    exact joinSteps_ofNodes _
  · rw [mem_unionAll]
    constructor
    · rintro ⟨found, hfound, hk⟩
      obtain ⟨m, hm, rfl⟩ := List.mem_map.1 hfound
      obtain ⟨x, hx, hnumber⟩ := (hnodes m).1 hm
      obtain ⟨found, hgives, hmarks⟩ := hright x hx m hnumber
      rw [givesAt_unique (hg m hm) hgives] at hk
      obtain ⟨y, hy, hyk⟩ := (hmarks k).1 hk
      exact ⟨y, ⟨x, hx, hy⟩, hyk⟩
    · rintro ⟨y, ⟨x, hx, hy⟩, hyk⟩
      have hm : nodeOf (hlists x hx) ∈ nodes := (hnodes _).2 ⟨x, hx, rfl⟩
      obtain ⟨found, hgives, hmarks⟩ := hright x hx (nodeOf (hlists x hx)) rfl
      refine ⟨_, List.mem_map_of_mem hm, ?_⟩
      rw [givesAt_unique (hg _ hm) hgives]
      exact (hmarks k).2 ⟨y, hy, hyk⟩

/-! ## Steps -/

/-- A step along a forward axis without predicates. -/
theorem givesAt_step_nil {axis : Axis} {test : NodeTest} (haxis : axis.isReverse = false) :
    GivesAt call (.step axis test []) n (stepNodes axis test n) := by
  intro c hc
  rw [Expr.eval, hc]
  simp only [Expr.select, bind, Except.bind, haxis]
  rfl

/-- A predicate is true or false at a node, and keeps or drops it at any place. -/
def DecidesAt (call : Call t) (p : Expr) (n : t.Node) (b : Bool) : Prop :=
  ∀ c : Context t, c.item = .node n →
    ∃ v, p.eval call c = .ok v ∧ Value.truth v = .ok b ∧ ∀ place, passes place v = .ok b

/-- A step along a forward axis with one predicate. -/
theorem givesAt_step_one {axis : Axis} {test : NodeTest} {p : Expr} {holds : t.Node → Bool}
    (haxis : axis.isReverse = false)
    (h : ∀ m ∈ stepNodes axis test n, DecidesAt call p m (holds m)) :
    GivesAt call (.step axis test [p]) n ((stepNodes axis test n).filter holds) := by
  intro c hc
  have hkept : ∀ size, keepItems (fun i place => do
      passes place (← p.eval call { c with item := i, position := place, size := size })) 1
        (Value.ofNodes (stepNodes axis test n)) =
      .ok (Value.ofNodes ((stepNodes axis test n).filter holds)) := fun size =>
    keepItems_ofNodes 1 fun m hm place => by
      obtain ⟨v, hv, -, hpasses⟩ :=
        h m hm { c with item := .node m, position := place, size := size } rfl
      simp only [hv, bind, Except.bind]
      exact hpasses place
  rw [Expr.eval, hc]
  simp only [Expr.select, bind, Except.bind] at hkept ⊢
  rw [hkept]
  simp only [haxis]
  rfl

theorem mem_stepNodes {axis : Axis} {test : NodeTest} :
    m ∈ stepNodes axis test n ↔
      m.val ∈ Axis.nodes t axis n.val ∧ test.accepts t axis m.val = true := by
  rw [stepNodes, List.mem_filterMap]
  constructor
  · rintro ⟨k, hk, hnode⟩
    rw [Table.node?] at hnode
    split_ifs at hnode with hlt
    obtain rfl := Option.some.inj hnode
    exact List.mem_filter.1 hk
  · rintro ⟨haxis, htest⟩
    refine ⟨m.val, List.mem_filter.2 ⟨haxis, htest⟩, ?_⟩
    rw [Table.node?, dif_pos m.isLt]

/-- What a step to children leads to. -/
theorem marks_child {test : NodeTest} (hx : t.Lists x) (hn : x.number = n.val) :
    Marks (stepNodes .child test n)
      {y | y ∈ x.children ∧ test.accepts t .child y.number = true} := by
  intro m
  rw [mem_stepNodes, ← hn]
  have hnodes : Axis.nodes t .child x.number = x.children.map Place.number :=
    Table.children_number hx
  rw [hnodes, List.mem_map]
  constructor
  · rintro ⟨⟨y, hy, hnumber⟩, htest⟩
    refine ⟨y, ⟨hy, ?_⟩, hnumber⟩
    rwa [hnumber]
  · rintro ⟨y, ⟨hy, htest⟩, hnumber⟩
    rw [hnumber] at htest
    exact ⟨⟨y, hy, hnumber⟩, htest⟩

/-- What the step of `//` leads to: a place and all below it. -/
theorem exists_givesAt_anyDepth (hx : t.Lists x) (hn : x.number = n.val) :
    ∃ found, GivesAt call anyDepth n found ∧ Marks found {y | y = x ∨ y ∈ x.below} := by
  have hgives : GivesAt call anyDepth n (stepNodes .descendantOrSelf .node n) := by
    rw [anyDepth]
    exact givesAt_step_nil rfl
  refine ⟨_, hgives, fun m => ?_⟩
  have hnodes : Axis.nodes t .descendantOrSelf x.number =
      x.number :: x.below.map Place.number := by
    rw [Axis.nodes, Table.isAttribute_number hx, ← Table.descendants_number hx]
    rfl
  rw [mem_stepNodes, ← hn, hnodes, List.mem_cons, List.mem_map]
  constructor
  · rintro ⟨hnumber | ⟨y, hy, hnumber⟩, -⟩
    · exact ⟨x, .inl rfl, hnumber.symm⟩
    · exact ⟨y, .inr hy, hnumber⟩
  · rintro ⟨y, rfl | hy, hnumber⟩
    · exact ⟨.inl hnumber.symm, rfl⟩
    · exact ⟨.inr ⟨y, hy, hnumber⟩, rfl⟩

/-! ## Attributes -/

/-- The value of an attribute's kind; other kinds have none. -/
def attributeValue : Kind → String
  | .attr _ value => value
  | _ => ""

/-- Whether a kind is that of an attribute of a name. -/
def isAttributeOf (name : String) : Kind → Bool
  | .attr s _ => s = name
  | _ => false

theorem accepts_attribute (name : String) (k : Nat) :
    NodeTest.accepts t .attributes (.named name) k = isAttributeOf name (t.kind k) := by
  rw [NodeTest.accepts, NodeTest.isPrincipal, Table.isAttribute, Table.name?]
  cases t.kind k <;> simp [isAttributeOf]

theorem lt_size_of_isAttributeOf {name : String} {k : Nat}
    (h : isAttributeOf name (t.kind k) = true) : k < t.size :=
  Table.lt_size_of_kind_ne fun hkind => by simp [hkind, isAttributeOf] at h

theorem text_of_isAttributeOf {name : String} {k : Nat}
    (h : isAttributeOf name (t.kind k) = true) : t.text k = attributeValue (t.kind k) := by
  rw [Table.text]
  cases hk : t.kind k <;> simp_all [isAttributeOf, attributeValue]

/-- The nodes of numbers, where all numbers have one. -/
theorem map_filterMap_node? {α : Type} (f : Nat → α) {ks : List Nat} (h : ∀ k ∈ ks, k < t.size) :
    (ks.filterMap t.node?).map (fun m => f m.val) = ks.map f := by
  induction ks with
  | nil => rfl
  | cons k ks ih =>
    have hk : t.node? k = some ⟨k, h k List.mem_cons_self⟩ := dif_pos (h k List.mem_cons_self)
    rw [List.filterMap_cons_some hk, List.map_cons, List.map_cons,
      ih fun l hl => h l (List.mem_cons_of_mem k hl)]

/-- **The texts of the attributes of a name** are its values at the place, in order. -/
theorem map_text_attributes (hx : t.Lists x) (hn : x.number = n.val) (name : String) :
    (stepNodes .attributes (.named name) n).map (fun m => t.text m.val) =
      (x.attributes.filter fun a => a.1 = name).map (·.2) := by
  have hnumbers : (Axis.nodes t .attributes n.val).filter
      (NodeTest.accepts t .attributes (.named name)) =
      (t.attributeNodes n.val).filter (isAttributeOf name ∘ t.kind) :=
    List.filter_congr fun k _ => accepts_attribute name k
  have hall : ∀ k ∈ (t.attributeNodes n.val).filter (isAttributeOf name ∘ t.kind),
      isAttributeOf name (t.kind k) = true := fun k hk => (List.mem_filter.1 hk).2
  rw [stepNodes, hnumbers,
    map_filterMap_node? t.text fun k hk => lt_size_of_isAttributeOf (hall k hk),
    List.map_congr_left fun k hk => text_of_isAttributeOf (hall k hk)]
  have hkinds := Table.map_kind_attributeNodes hx
  rw [hn] at hkinds
  calc ((t.attributeNodes n.val).filter (isAttributeOf name ∘ t.kind)).map
        (fun k => attributeValue (t.kind k))
      = (((t.attributeNodes n.val).map t.kind).filter (isAttributeOf name)).map attributeValue := by
        rw [List.filter_map, List.map_map]
        rfl
    _ = ((x.attributes.map fun a => Kind.attr a.1 a.2).filter (isAttributeOf name)).map
          attributeValue := by rw [hkinds]
    _ = (x.attributes.filter fun a => a.1 = name).map (·.2) := by
        rw [List.filter_map, List.map_map]
        rfl

end MarkupQuery.XPath
