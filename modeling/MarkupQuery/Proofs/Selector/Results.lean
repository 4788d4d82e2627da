import MarkupQuery.Document.Query
import MarkupQuery.Proofs.Document.Nodes
import MarkupQuery.Proofs.XPath.NodeSets

/-!
# Answers as a whole

A document passes on the value of a query as it is, if it holds nothing but nodes; one other item,
wherever it stands, and there is no answer at all (`Document.evaluate_all_or_nothing`). The items of
a value know by their type that they are nodes of the table of the document, and so each stands for
something in its tree.
-/

namespace MarkupQuery

namespace Document

open XPath (Surroundings)

variable {d : Document} {w : Surroundings} {query : String} {e : XPath.Expr}

/-- The empty text is no expression. -/
theorem compile_empty : compile "" = .error (.compile "" "XPST0003") := rfl

/-- What compiles is evaluated. -/
theorem evaluate_of_compile (h : compile query = .ok e) :
    d.evaluate query w = d.execute w query e := by
  have hne : query.isEmpty = false := by
    rw [Bool.eq_false_iff, ne_eq, String.isEmpty_iff]
    rintro rfl
    rw [compile_empty] at h
    cases h
  rw [evaluate, hne, if_neg Bool.false_ne_true, h]
  rfl

/-- What a document answers is the value of its query, if this is made of nodes. -/
theorem evaluate_eq_ok_iff {numbers : List NodeId} :
    d.evaluate query w = .ok numbers ↔
      ∃ (e : XPath.Expr) (nodes : List d.table.Node), compile query = .ok e ∧
        e.value { item := .node d.table.root, surroundings := w } =
          .ok (XPath.Value.ofNodes nodes) ∧
        numbers = nodes.map fun n => n.val := by
  constructor
  · intro h
    cases hcompile : compile query with
    | error f =>
      rw [evaluate, hcompile] at h
      split_ifs at h
      cases h
    | ok e =>
      rw [evaluate_of_compile hcompile, execute] at h
      cases hvalue : e.value { item := .node d.table.root, surroundings := w } with
      | error f =>
        rw [hvalue] at h
        cases h
      | ok v =>
        rw [hvalue] at h
        by_cases hnodes : ∀ i ∈ v, i.isNode = true
        · obtain ⟨nodes, rfl⟩ := XPath.exists_ofNodes hnodes
          simp only [XPath.nodes_ofNodes] at h
          exact ⟨e, nodes, rfl, hvalue, (Except.ok.inj h).symm⟩
        · have hother : ∃ i ∈ v, i.isNode = false := by simpa using hnodes
          simp only [XPath.nodes_eq_error hother] at h
          cases h
  · rintro ⟨e, nodes, hcompile, hvalue, rfl⟩
    rw [evaluate_of_compile hcompile, execute, hvalue]
    simp only [XPath.nodes_ofNodes]

/-- Every node of the table of a document stands for something in its tree. -/
theorem exists_standsFor (d : Document) {n : NodeId} (hn : n < d.table.size) :
    ∃ x, (x = .document d.root ∨ (Place.document d.root).IsBelow x) ∧ d.table.StandsFor n x := by
  rw [d.table_eq] at hn ⊢
  exact Table.exists_standsFor hn

theorem eq_ok_of_toOption {ε α : Type _} {x : Except ε α} {a : α}
    (h : x.toOption = some a) : x = .ok a := by
  cases x with
  | error f => cases h
  | ok b =>
    cases h
    rfl

/-- **A query is answered with all of its value or not at all.** If the value holds nodes alone, the
answer is these nodes, in their order, and each stands for the document node, for an element, a text
or a comment of the tree, or for an attribute of an element. If it holds anything else, at whatever
place and beside however many nodes, the answer is a failure that carries the query. -/
theorem evaluate_all_or_nothing (hquery : compile query = .ok e) {v : XPath.Value d.table}
    (hvalue : e.value { item := .node d.table.root, surroundings := w } = .ok v) :
    ((∀ i ∈ v, i.isNode = true) →
      ∃ nodes : List d.table.Node, v = XPath.Value.ofNodes nodes ∧
        d.evaluate query w = .ok (nodes.map fun n => n.val) ∧
        ∀ n ∈ nodes, ∃ x, (x = .document d.root ∨ (Place.document d.root).IsBelow x) ∧
          d.table.StandsFor n.val x) ∧
      ((∃ i ∈ v, i.isNode = false) →
        d.evaluate query w = .error (.evaluation query XPath.Fault.wrongType.code)) := by
  rw [evaluate_of_compile hquery, execute, hvalue]
  refine ⟨fun hnodes => ?_, fun hother => ?_⟩
  · obtain ⟨nodes, rfl⟩ := XPath.exists_ofNodes hnodes
    refine ⟨nodes, rfl, ?_, fun n _ => ?_⟩
    · simp only [XPath.nodes_ofNodes]
    · exact d.exists_standsFor n.isLt
  · simp only [XPath.nodes_eq_error hother]

/-- An attribute and its element, in this order; and the element with a number behind it. -/
theorem evaluate_all_or_nothing_of_number :
    ((parse "<p id=a>x</p>").evaluate "//@id, //p" = .ok [5, 4] ∧
        ∀ n ∈ [5, 4], ∃ x, (x = .document (parse "<p id=a>x</p>").root ∨
          (Place.document (parse "<p id=a>x</p>").root).IsBelow x) ∧
            (parse "<p id=a>x</p>").table.StandsFor n x) ∧
      (parse "<p id=a>x</p>").evaluate "//p, 1" =
        .error (.evaluation "//p, 1" XPath.Fault.wrongType.code) := by
  constructor
  · have hevaluate : (parse "<p id=a>x</p>").evaluate "//@id, //p" = .ok [5, 4] := by
      decide +kernel
    obtain ⟨e, nodes, hquery, hvalue, -⟩ := evaluate_eq_ok_iff.1 hevaluate
    obtain ⟨found, -, hanswer, hstands⟩ :=
      (evaluate_all_or_nothing hquery hvalue).1 (by simp [XPath.Value.ofNodes, XPath.Item.isNode])
    rw [hevaluate, Except.ok.injEq] at hanswer
    refine ⟨hevaluate, ?_⟩
    rw [hanswer, List.forall_mem_map]
    exact hstands
  · have hitems : ((compile "//p, 1").toOption.bind fun e =>
        (e.value { item := .node (parse "<p id=a>x</p>").table.root
                   surroundings := {} }).toOption.map
          fun v => v.map fun i => i.isNode) = some [true, false] := by
      decide +kernel
    obtain ⟨e, hquery, hrest⟩ := Option.bind_eq_some_iff.1 hitems
    obtain ⟨v, hvalue, hkinds⟩ := Option.map_eq_some_iff.1 hrest
    have hother : false ∈ v.map fun i => i.isNode := by simp [hkinds]
    exact (evaluate_all_or_nothing (eq_ok_of_toOption hquery) (eq_ok_of_toOption hvalue)).2
      (List.mem_map.1 hother)

end Document

end MarkupQuery
