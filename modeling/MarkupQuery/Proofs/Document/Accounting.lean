import Mathlib.Data.List.Perm.Subperm
import Mathlib.Data.List.Range
import MarkupQuery.Proofs.Document.Load

/-!
# Every element that is counted is in the tree

The walk of loading counts an element when it takes the element's task, while the element was made
and attached to its parent before. That the count is right is a matter of two facts that hold all
along (`Walk.Accounted`): every element that was made is counted or still waits, and every one but
the first is held by one before it. When nothing waits any more, reading the tree off passes each
element that was made, and passes it once (`Walk.perm_numbers_run`).
-/

namespace MarkupQuery.Document

open MarkupQuery.Html (Node Attribute)

namespace Walk

variable {w : Walk}

/-- Whether an element is held by one that was made before it. -/
def IsHeld (w : Walk) (n : Nat) : Prop :=
  ∃ m < n, ∃ d, w.drafts[m]? = some d ∧ Part.element n ∈ d.parts

/-- Every element that was made is counted or waits, and all but the first are held. -/
structure Accounted (w : Walk) : Prop where
  tally : w.count + w.tasks.length = w.drafts.size
  known : ∀ t ∈ w.tasks, t.number < w.drafts.size
  held : ∀ n, 0 < n → n < w.drafts.size → w.IsHeld n

/-! ## Loading an element -/

theorem isHeld_attach {n : Nat} (h : w.IsHeld n) (number : Nat) (p : Part) :
    (w.attach number p).IsHeld n := by
  obtain ⟨m, hm, d, hd, hpart⟩ := h
  by_cases hnumber : number = m
  · refine ⟨m, hm, { d with parts := appendPart d.parts p }, ?_, mem_appendPart_iff.2 (.inl hpart)⟩
    rw [getElem?_attach, if_pos hnumber, hd]
    rfl
  · refine ⟨m, hm, d, ?_, hpart⟩
    rw [getElem?_attach, if_neg hnumber, hd]

theorem isHeld_await {n : Nat} (h : w.IsHeld n) (name : String) (attributes : List Attribute)
    (children : List Node) : (w.await name attributes children).IsHeld n := by
  obtain ⟨m, hm, d, hd, hpart⟩ := h
  refine ⟨m, hm, d, ?_, hpart⟩
  rw [getElem?_await w name attributes children (Nat.ne_of_lt (lt_size_of_getElem? hd)), hd]

theorem isHeld_begin {n : Nat} (h : w.IsHeld n) (t : Task) : (w.begin t).IsHeld n := by
  obtain ⟨m, hm, d, hd, hpart⟩ := h
  by_cases hnumber : t.number = m
  · refine ⟨m, hm, { d with attributes := setAttributes d.attributes t.attributes }, ?_, hpart⟩
    rw [getElem?_begin, if_pos hnumber, hd]
    rfl
  · refine ⟨m, hm, d, ?_, hpart⟩
    rw [getElem?_begin, if_neg hnumber, hd]

theorem accounted_attach (h : w.Accounted) (number : Nat) (p : Part) :
    (w.attach number p).Accounted := by
  refine ⟨?_, ?_, ?_⟩
  · rw [size_attach]
    exact h.tally
  · intro t ht
    rw [size_attach]
    exact h.known t ht
  · intro n hpos hn
    rw [size_attach] at hn
    exact isHeld_attach (h.held n hpos hn) number p

/-- An element that was just made waits, and its parent holds it. -/
theorem accounted_await_attach (h : w.Accounted) {number : Nat} (hnumber : number < w.drafts.size)
    (name : String) (attributes : List Attribute) (children : List Node) :
    ((w.await name attributes children).attach number (.element w.drafts.size)).Accounted := by
  have hsize := size_await w name attributes children
  refine ⟨?_, ?_, ?_⟩
  · have htally := h.tally
    rw [size_attach, hsize]
    simp only [attach, await, List.length_cons]
    omega
  · intro t ht
    rw [size_attach, hsize]
    rcases List.mem_cons.1 ht with rfl | ht
    · exact Nat.lt_succ_self _
    · exact Nat.lt_succ_of_lt (h.known t ht)
  · intro n hpos hn
    rw [size_attach, hsize] at hn
    rcases Nat.lt_succ_iff_lt_or_eq.1 hn with hn | rfl
    · exact isHeld_attach (isHeld_await (h.held n hpos hn) name attributes children) _ _
    · have hd : (w.await name attributes children).drafts[number]? = some w.drafts[number] := by
        rw [getElem?_await w name attributes children (Nat.ne_of_lt hnumber)]
        exact Array.getElem?_eq_getElem hnumber
      refine ⟨number, hnumber, { w.drafts[number] with
        parts := appendPart w.drafts[number].parts (.element w.drafts.size) }, ?_,
        mem_appendPart_iff.2 (.inr rfl)⟩
      rw [getElem?_attach, if_pos rfl, hd]
      rfl

theorem accounted_child (o : Options) (h : w.Accounted) {number : Nat}
    (hnumber : number < w.drafts.size) (n : Node) :
    (w.child o number n).Accounted ∧ w.drafts.size ≤ (w.child o number n).drafts.size := by
  cases n with
  | element name attributes children =>
    rw [child_element]
    refine ⟨accounted_await_attach h hnumber name attributes children, ?_⟩
    rw [size_attach, size_await]
    exact Nat.le_succ _
  | text s =>
    rw [child]
    split_ifs
    · exact ⟨h, Nat.le_refl _⟩
    · exact ⟨accounted_attach h number _, Nat.le_of_eq (size_attach w number _).symm⟩
  | comment s =>
    rw [child]
    split_ifs
    · exact ⟨accounted_attach h number _, Nat.le_of_eq (size_attach w number _).symm⟩
    · exact ⟨h, Nat.le_refl _⟩
  | fragment children => exact ⟨h, Nat.le_refl _⟩
  | other => exact ⟨h, Nat.le_refl _⟩

theorem accounted_children (o : Options) {number : Nat} (ns : List Node) (h : w.Accounted)
    (hnumber : number < w.drafts.size) : (ns.foldl (child o number) w).Accounted := by
  induction ns generalizing w with
  | nil => exact h
  | cons n ns ih =>
    obtain ⟨hchild, hgrows⟩ := accounted_child o h hnumber n
    exact ih hchild (Nat.lt_of_lt_of_le hnumber hgrows)

/-- An element whose task is taken is counted in its place. -/
theorem accounted_task (o : Options) {t : Task} {tasks : List Task}
    (h : Accounted { w with tasks := t :: tasks }) :
    (task o { w with tasks := tasks } t).Accounted := by
  have hnumber : t.number < w.drafts.size := h.known t List.mem_cons_self
  rw [task_eq]
  refine accounted_children o _ ⟨?_, ?_, ?_⟩ ?_
  · have htally := h.tally
    rw [size_begin]
    simp only [begin, List.length_cons] at htally ⊢
    omega
  · intro u hu
    rw [size_begin]
    exact h.known u (List.mem_cons_of_mem t hu)
  · intro n hpos hn
    rw [size_begin] at hn
    exact isHeld_begin (h.held n hpos hn) t
  · rw [size_begin]
    exact hnumber

/-! ## The run -/

theorem accounted_run (o : Options) (fuel : Nat) (h : w.Accounted) : (run o fuel w).Accounted := by
  induction fuel generalizing w with
  | zero => exact h
  | succ fuel ih =>
    cases htasks : w.tasks with
    | nil => rwa [run_of_tasks_eq_nil o htasks]
    | cons t tasks =>
      have hw : w = { w with tasks := t :: tasks } := by rw [← htasks]
      rw [hw] at h
      rw [run_of_cons o htasks]
      exact ih (accounted_task o h)

theorem accounted_start (attributes : List Attribute) (children : List Node) :
    (start attributes children).Accounted := by
  refine ⟨rfl, ?_, ?_⟩
  · intro t ht
    obtain rfl := List.mem_singleton.1 ht
    exact Nat.one_pos
  · intro n hpos hn
    exact absurd hn (Nat.not_lt.2 hpos)

/-! ## What is read off -/

/-- The numbers of the elements that are read off from one, to a depth of at most `fuel`. -/
def numbers (w : Walk) : Nat → Nat → List Nat
  | 0, number => [number]
  | fuel + 1, number =>
    match w.drafts[number]? with
    | none => [number]
    | some d => number :: d.parts.flatMap fun p =>
      match p with
      | .element child => w.numbers fuel child
      | .text _ | .comment _ => []

theorem mem_numbers_self (w : Walk) (fuel number : Nat) : number ∈ w.numbers fuel number := by
  cases fuel with
  | zero => exact List.mem_singleton_self _
  | succ fuel =>
    rw [numbers]
    split <;> exact List.mem_cons_self

theorem numbers_succ {fuel number : Nat} {d : Draft} (hd : w.drafts[number]? = some d) :
    w.numbers (fuel + 1) number = number :: d.parts.flatMap fun p =>
      match p with
      | .element child => w.numbers fuel child
      | .text _ | .comment _ => [] := by
  rw [numbers, hd]

/-- One number is read off for each element of the tree. -/
theorem length_numbers (w : Walk) (fuel number : Nat) :
    (w.numbers fuel number).length = (w.element fuel number).elementCount := by
  induction fuel generalizing number with
  | zero => rfl
  | succ fuel ih =>
    rw [numbers, element]
    cases w.drafts[number]? with
    | none => rfl
    | some d =>
      simp only [List.length_cons, Tree.elementCount]
      congr 1
      induction d.parts with
      | nil => rfl
      | cons p parts ihparts =>
        rw [List.flatMap_cons, List.length_append, ihparts, List.map_cons, Tree.elementCountAll]
        congr 1
        cases p with
        | element child => exact ih child
        | text s => rfl
        | comment s => rfl

/-- With an element, those that it holds are read off. -/
theorem mem_numbers_of_part {o : Options} {final : Nat → Form} (h : w.Sound o final)
    (htasks : w.tasks = []) {fuel number : Nat} (hfuel : w.drafts.size ≤ number + fuel) {m n : Nat}
    {d : Draft} (hd : w.drafts[m]? = some d) (hpart : Part.element n ∈ d.parts)
    (hm : m ∈ w.numbers fuel number) : n ∈ w.numbers fuel number := by
  have hsize := lt_size_of_getElem? hd
  induction fuel generalizing number with
  | zero =>
    obtain rfl := List.mem_singleton.1 hm
    omega
  | succ fuel ih =>
    cases he : w.drafts[number]? with
    | none =>
      rw [numbers, he] at hm
      obtain rfl := List.mem_singleton.1 hm
      rw [he] at hd
      cases hd
    | some e =>
      rw [numbers_succ he, List.mem_cons, List.mem_flatMap] at hm ⊢
      rcases hm with rfl | ⟨p, hp, hm⟩
      · obtain rfl : e = d := Option.some.inj (he.symm.trans hd)
        exact .inr ⟨.element n, hpart, mem_numbers_self w fuel n⟩
      · refine .inr ⟨p, hp, ?_⟩
        cases p with
        | element child =>
          obtain ⟨-, hordered⟩ := h.shows number (by simp [htasks]) e he
          have hbehind := (hordered child hp).1
          exact ih (by omega) hm
        | text s => simp at hm
        | comment s => simp at hm

/-- **Every element that was made is read off.** -/
theorem mem_numbers {o : Options} {final : Nat → Form} (h : w.Sound o final) (htasks : w.tasks = [])
    (haccounted : w.Accounted) {n : Nat} (hn : n < w.drafts.size) :
    n ∈ w.numbers w.drafts.size 0 := by
  induction n using Nat.strong_induction_on with
  | _ n ih =>
    rcases Nat.eq_zero_or_pos n with rfl | hpos
    · exact mem_numbers_self w _ 0
    · obtain ⟨m, hm, d, hd, hpart⟩ := haccounted.held n hpos hn
      exact mem_numbers_of_part h htasks (by omega) hd hpart
        (ih m hm (lt_size_of_getElem? hd))

/-- **When the walk of loading has ended, every element that was made has been counted**, and the
tree that is read off has each of them once. -/
theorem perm_numbers_run (o : Options) (name : String) (attributes : List Attribute)
    (children : List Node) :
    let w := run o (nodeCount (.element name attributes children)) (start attributes children)
    w.tasks = [] ∧ w.count = w.drafts.size ∧
      (w.numbers w.drafts.size 0).Perm (List.range w.drafts.size) := by
  intro w
  have houtstanding : (start attributes children).outstanding ≤
      nodeCount (.element name attributes children) := by
    have := elementTotalAll_le_nodeCountAll children
    rw [outstanding_start, nodeCount]
    omega
  obtain ⟨final, hsound, htasks, -⟩ := sound_run (sound_start o attributes children) houtstanding
  have haccounted : w.Accounted := accounted_run o _ (accounted_start attributes children)
  have hcount : w.count = w.drafts.size := by
    have htally := haccounted.tally
    rwa [htasks] at htally
  refine ⟨htasks, hcount, ?_⟩
  have hlength : (w.numbers w.drafts.size 0).length = w.drafts.size := by
    obtain ⟨-, htotal, htree⟩ := run_start o name attributes children (Nat.le_refl _)
    have helements : (w.element w.drafts.size 0).elementCount = w.count :=
      (congrArg Tree.elementCount htree).trans
        ((elementCount_imageOf o name attributes children).trans htotal.symm)
    rw [length_numbers, helements, hcount]
  have hsubset : List.range w.drafts.size ⊆ w.numbers w.drafts.size 0 :=
    fun n hn => mem_numbers hsound htasks haccounted (List.mem_range.1 hn)
  have hsubperm := List.nodup_range.subperm hsubset
  refine (hsubperm.perm_of_length_le ?_).symm
  rw [hlength, List.length_range]

end Walk

end MarkupQuery.Document
