import Mathlib.Data.List.Basic
import MarkupQuery.XPath.Eval

/-!
# Sets of nodes

Lists of nodes are brought into document order, each node once, by `union`, `inOrder` and
`unionAll`. Here it is said which nodes these hold (`mem_union`, `mem_unionAll`) and that they are
in strict order (`pairwise_union`, `pairwise_unionAll`). The parts of a path that are all nodes are
joined so (`joinSteps_ofNodes`).
-/

namespace MarkupQuery.XPath

open MarkupQuery.Document (Table)

variable {t : Table}

/-! ## Unions -/

theorem mem_union {xs ys : List t.Node} {n : t.Node} : n ∈ union xs ys ↔ n ∈ xs ∨ n ∈ ys := by
  induction xs generalizing ys with
  | nil => simp [union]
  | cons x xs ih =>
    rw [union]
    induction ys with
    | nil => simp [unionFrom, ih]
    | cons y ys ihys =>
      rw [unionFrom]
      split_ifs with hlt heq
      · simp [ih, or_assoc]
      · subst heq
        simp only [List.mem_cons, ih]
        tauto
      · simp only [List.mem_cons, ihys]
        tauto

/-- The union of lists in order is in order. -/
theorem pairwise_union {xs ys : List t.Node} (hxs : xs.Pairwise (· < ·))
    (hys : ys.Pairwise (· < ·)) : (union xs ys).Pairwise (· < ·) := by
  induction xs generalizing ys with
  | nil => exact hys
  | cons x xs ih =>
    obtain ⟨hx, hxs⟩ := List.pairwise_cons.1 hxs
    rw [union]
    induction ys with
    | nil =>
      refine List.pairwise_cons.2 ⟨fun n hn => hx n ?_, ih hxs .nil⟩
      simpa [mem_union] using hn
    | cons y ys ihys =>
      obtain ⟨hy, hrest⟩ := List.pairwise_cons.1 hys
      rw [unionFrom]
      split_ifs with hlt heq
      · refine List.pairwise_cons.2 ⟨fun n hn => ?_, ih hxs hys⟩
        rcases mem_union.1 hn with hn | hn
        · exact hx n hn
        · rcases List.mem_cons.1 hn with rfl | hn
          · exact hlt
          · exact Fin.lt_trans hlt (hy n hn)
      · subst heq
        refine List.pairwise_cons.2 ⟨fun n hn => ?_, ih hxs hrest⟩
        rcases mem_union.1 hn with hn | hn
        · exact hx n hn
        · exact hy n hn
      · have hyx : y < x := by
          rw [Fin.lt_def] at hlt ⊢
          rw [Fin.ext_iff] at heq
          omega
        have hmem : ∀ n, n ∈ unionFrom x (union xs) ys ↔ n ∈ x :: xs ∨ n ∈ ys := fun n => by
          rw [← mem_union, union]
        refine List.pairwise_cons.2 ⟨fun n hn => ?_, ihys hrest⟩
        rcases (hmem n).1 hn with hn | hn
        · rcases List.mem_cons.1 hn with rfl | hn
          · exact hyx
          · exact Fin.lt_trans hyx (hx n hn)
        · exact hy n hn

theorem mem_inOrder {nodes : List t.Node} {n : t.Node} : n ∈ inOrder nodes ↔ n ∈ nodes := by
  induction nodes with
  | nil => simp [inOrder]
  | cons m nodes ih =>
    have hcons : inOrder (m :: nodes) = union [m] (inOrder nodes) := rfl
    rw [hcons, mem_union, ih]
    simp

theorem pairwise_inOrder (nodes : List t.Node) : (inOrder nodes).Pairwise (· < ·) := by
  induction nodes with
  | nil => exact .nil
  | cons m nodes ih => exact pairwise_union (List.pairwise_singleton _ m) ih

theorem mem_unionAll {parts : List (List t.Node)} {n : t.Node} :
    n ∈ unionAll parts ↔ ∃ part ∈ parts, n ∈ part := by
  induction parts with
  | nil => simp [unionAll]
  | cons part parts ih =>
    have hcons : unionAll (part :: parts) = union (inOrder part) (unionAll parts) := rfl
    rw [hcons, mem_union, mem_inOrder, ih]
    simp

/-- **A union is in document order, each node once.** -/
theorem pairwise_unionAll (parts : List (List t.Node)) : (unionAll parts).Pairwise (· < ·) := by
  induction parts with
  | nil => exact .nil
  | cons part parts ih => exact pairwise_union (pairwise_inOrder part) ih

/-! ## Values of nodes -/

theorem filterMap_node?_ofNodes (nodes : List t.Node) :
    (Value.ofNodes nodes).filterMap Item.node? = nodes := by
  simp [Value.ofNodes, List.filterMap_map, Function.comp_def, Item.node?]

theorem all_isNode_ofNodes (nodes : List t.Node) :
    (Value.ofNodes nodes).all Item.isNode = true := by
  simp [Value.ofNodes, Item.isNode]

/-- What a path leads to, where it leads to nodes only. -/
theorem joinSteps_ofNodes (parts : List (List t.Node)) :
    joinSteps (parts.map Value.ofNodes) = .ok (Value.ofNodes (unionAll parts)) := by
  have hall : (parts.map Value.ofNodes).all (fun part => part.all Item.isNode) = true := by
    simp [List.all_map, Function.comp_def, all_isNode_ofNodes]
  rw [joinSteps, if_pos hall, List.map_map]
  simp [Function.comp_def, filterMap_node?_ofNodes]

theorem nodes_ofNodes (nodes : List t.Node) : Value.nodes (Value.ofNodes nodes) = .ok nodes := by
  induction nodes with
  | nil => rfl
  | cons n nodes ih =>
    have hcons : Value.nodes (Value.ofNodes (n :: nodes)) =
        (Value.nodes (Value.ofNodes nodes)).map (n :: ·) := rfl
    rw [hcons, ih]
    rfl

/-- A value of nodes alone, as a list of nodes. -/
theorem exists_ofNodes {v : Value t} (h : ∀ i ∈ v, i.isNode = true) :
    ∃ nodes, v = Value.ofNodes nodes := by
  induction v with
  | nil => exact ⟨[], rfl⟩
  | cons i v ih =>
    obtain ⟨nodes, rfl⟩ := ih fun j hj => h j (List.mem_cons_of_mem i hj)
    have hi := h i List.mem_cons_self
    cases i with
    | node n => exact ⟨n :: nodes, rfl⟩
    | _ => cases hi

/-- One item that is no node, and the nodes before it are not given either. -/
theorem nodes_eq_error {v : Value t} (h : ∃ i ∈ v, i.isNode = false) :
    Value.nodes v = .error .wrongType := by
  induction v with
  | nil => simp at h
  | cons i v ih =>
    cases i with
    | node n =>
      obtain ⟨j, hj, hnode⟩ := h
      rcases List.mem_cons.1 hj with rfl | hj
      · cases hnode
      · rw [Value.nodes, ih ⟨j, hj, hnode⟩]
        rfl
    | _ => rfl

/-- The atoms of nodes are their texts. -/
theorem atoms_ofNodes (nodes : List t.Node) :
    Value.atoms (Value.ofNodes nodes) = .ok (nodes.map nodeAtom) := by
  induction nodes with
  | nil => rfl
  | cons n nodes ih =>
    have hcons : Value.atoms (Value.ofNodes (n :: nodes)) =
        (do return [nodeAtom n] ++ (← Value.atoms (Value.ofNodes nodes))) := rfl
    rw [hcons, ih]
    rfl

/-- Nodes are true unless there are none. -/
theorem truth_ofNodes (nodes : List t.Node) :
    Value.truth (Value.ofNodes nodes) = .ok !nodes.isEmpty := by
  cases nodes <;> rfl

/-! ## Items one by one -/

/-- An expression evaluated for nodes, where it has nodes as its value for each. -/
theorem forItems_ofNodes {f : Item t → Nat → Except Fault (Value t)}
    {g : t.Node → List t.Node} {nodes : List t.Node} (place : Nat)
    (h : ∀ n ∈ nodes, ∀ place, f (.node n) place = .ok (Value.ofNodes (g n))) :
    forItems f place (Value.ofNodes nodes) = .ok ((nodes.map g).map Value.ofNodes) := by
  induction nodes generalizing place with
  | nil => rfl
  | cons n nodes ih =>
    have hn := h n List.mem_cons_self place
    have hrest := ih (place + 1) fun m hm => h m (List.mem_cons_of_mem n hm)
    have hcons : forItems f place (Value.ofNodes (n :: nodes)) =
        (do
          let first ← f (.node n) place
          let rest ← forItems f (place + 1) (Value.ofNodes nodes)
          return first :: rest) := rfl
    rw [hcons, hn, hrest]
    rfl

/-- The nodes for which a test holds, where it fails for none. -/
theorem keepItems_ofNodes {test : Item t → Nat → Except Fault Bool} {p : t.Node → Bool}
    {nodes : List t.Node} (place : Nat)
    (h : ∀ n ∈ nodes, ∀ place, test (.node n) place = .ok (p n)) :
    keepItems test place (Value.ofNodes nodes) = .ok (Value.ofNodes (nodes.filter p)) := by
  induction nodes generalizing place with
  | nil => rfl
  | cons n nodes ih =>
    have hn := h n List.mem_cons_self place
    have hrest := ih (place + 1) fun m hm => h m (List.mem_cons_of_mem n hm)
    have hcons : keepItems test place (Value.ofNodes (n :: nodes)) =
        (do
          let kept ← test (.node n) place
          let rest ← keepItems test (place + 1) (Value.ofNodes nodes)
          return if kept then .node n :: rest else rest) := rfl
    rw [hcons, hn, hrest]
    cases hp : p n <;> simp [hp] <;> rfl

end MarkupQuery.XPath
