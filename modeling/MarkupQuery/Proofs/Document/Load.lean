import MarkupQuery.Proofs.Document.Walk

/-!
# Loaded trees are images

The walk of loading comes to an end, and the tree that is read off it is the image of the tree that
markup describes (`load_element`), which has as many elements as were counted on the way
(`elementCount_imageOf`). `load_is_image` says this together with what the two loops do.
-/

namespace MarkupQuery.Document

open MarkupQuery.Html (Node Attribute)

/-! ## Elements of images -/

namespace Tree

theorem elementCountAll_append (ts us : List Tree) :
    elementCountAll (ts ++ us) = elementCountAll ts + elementCountAll us := by
  induction ts with
  | nil => simp [elementCountAll]
  | cons t ts ih => simp only [List.cons_append, elementCountAll, ih, Nat.add_assoc]

theorem elementCountAll_prependTree (t : Tree) (ts : List Tree) :
    elementCountAll (prependTree t ts) = elementCount t + elementCountAll ts := by
  cases t with
  | text s =>
    rcases ts with _ | ⟨u, ts⟩
    · rfl
    · cases u <;> simp [prependTree, elementCountAll, elementCount]
  | element name attributes children => rfl
  | comment s => rfl

/-- Joining texts touches no element. -/
theorem elementCountAll_joinTexts (ts : List Tree) :
    elementCountAll (joinTexts ts) = elementCountAll ts := by
  induction ts with
  | nil => rfl
  | cons t ts ih => rw [joinTexts_cons, elementCountAll_prependTree, ih, elementCountAll]

end Tree

mutual

theorem elementCountAll_image (o : Options) (n : Node) :
    Tree.elementCountAll (image o n) = elementTotal n := by
  cases n with
  | element name attributes children =>
    simp only [image, Tree.elementCountAll, Tree.elementCount, Tree.elementCountAll_joinTexts,
      elementCountAll_imageAll o children, elementTotal, Nat.add_zero]
  | text s =>
    rw [image]
    split_ifs <;> simp [Tree.elementCountAll, Tree.elementCount, elementTotal]
  | comment s =>
    rw [image]
    split_ifs <;> simp [Tree.elementCountAll, Tree.elementCount, elementTotal]
  | fragment children => exact elementCountAll_imageAll o children
  | other => rfl

theorem elementCountAll_imageAll (o : Options) (ns : List Node) :
    Tree.elementCountAll (imageAll o ns) = elementTotalAll ns := by
  match ns with
  | [] => rfl
  | n :: ns =>
    rw [imageAll, Tree.elementCountAll_append, elementCountAll_image o n,
      elementCountAll_imageAll o ns, elementTotalAll]

end

theorem elementCount_imageOf (o : Options) (name : String) (attributes : List Attribute)
    (children : List Node) :
    (imageOf o (.element name attributes children)).elementCount =
      elementTotal (.element name attributes children) := by
  rw [imageOf, Tree.elementCount, Tree.elementCountAll_joinTexts, elementCountAll_imageAll,
    elementTotal]

/-! ## Loading -/

/-- A walk with a round for each node of the tree loads it all. -/
theorem run_start (o : Options) (name : String) (attributes : List Attribute)
    (children : List Node) {fuel : Nat}
    (h : nodeCount (.element name attributes children) ≤ fuel) :
    let w := Walk.run o fuel (.start attributes children)
    w.tasks = [] ∧ w.count = elementTotal (.element name attributes children) ∧
      w.element w.drafts.size 0 = imageOf o (.element name attributes children) := by
  have houtstanding : (Walk.start attributes children).outstanding ≤ fuel := by
    have := elementTotalAll_le_nodeCountAll children
    rw [nodeCount] at h
    rw [Walk.outstanding_start]
    omega
  obtain ⟨final, hsound, htasks, hcount, hgrows, hsame⟩ :=
    Walk.sound_run (Walk.sound_start o attributes children) houtstanding
  have hzero : 0 < (Walk.start attributes children).drafts.size := by simp [Walk.start]
  refine ⟨htasks, ?_, ?_⟩
  · rw [hcount, Walk.outstanding_start, elementTotal]
    exact Nat.zero_add _
  · rw [Walk.element_eq hsound htasks (Nat.lt_of_lt_of_le hzero hgrows) (by omega),
      hsame 0 hzero]
    rfl

/-- What loading comes to. -/
theorem load_element (o : Options) (name : String) (attributes : List Attribute)
    (children : List Node) :
    load o (.element name attributes children) =
      (imageOf o (.element name attributes children),
        elementTotal (.element name attributes children)) := by
  obtain ⟨-, hcount, htree⟩ := run_start o name attributes children (Nat.le_refl _)
  exact Prod.ext htree hcount

/-- What is loaded is an image, whatever stands for the document element. -/
theorem load_fst (o : Options) (root : Node) : (load o root).1 = imageOf o root := by
  cases root with
  | element name attributes children => rw [load_element]
  | _ => rfl

/-- The number that loading gives is that of the elements of the tree. -/
theorem elementCount_load (o : Options) (root : Node) :
    (load o root).1.elementCount = (load o root).2 := by
  cases root with
  | element name attributes children =>
    rw [load_element]
    exact elementCount_imageOf o name attributes children
  | _ => rfl

/-- **Loading makes the image of a tree.** The loop that dissolves fragments ends, with the nodes of
the list, each fragment replaced by what it holds. The walk ends, with nothing outstanding, and the
tree that is read off it is the image of the tree that markup describes, with as many elements as
were counted. The attributes of an element are its names, each where it comes first, with the values
that they have last. -/
theorem load_is_image (o : Options) (name : String) (attributes : List Attribute)
    (children : List Node) :
    (∀ pending fuel, nodeCountAll pending < fuel →
        contentLoop fuel pending = dissolveAll pending) ∧
      (∀ fuel, nodeCount (.element name attributes children) ≤ fuel →
        (Walk.run o fuel (.start attributes children)).tasks = [] ∧
          Walk.run o fuel (.start attributes children) =
            Walk.run o (nodeCount (.element name attributes children))
              (.start attributes children)) ∧
      load o (.element name attributes children) =
        (imageOf o (.element name attributes children),
          elementTotal (.element name attributes children)) ∧
      (imageOf o (.element name attributes children)).elementCount =
        elementTotal (.element name attributes children) ∧
      ∀ given, joinAttributes given = lastValues given := by
  refine ⟨fun pending fuel => contentLoop_eq, fun fuel hfuel => ⟨?_, ?_⟩,
    load_element o name attributes children, elementCount_imageOf o name attributes children,
    joinAttributes_eq⟩
  · exact (run_start o name attributes children hfuel).1
  · exact Walk.run_eq_of_le (run_start o name attributes children (Nat.le_refl _)).1 hfuel

end MarkupQuery.Document
