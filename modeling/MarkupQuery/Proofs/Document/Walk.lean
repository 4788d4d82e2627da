import Mathlib.Data.List.Basic
import MarkupQuery.Proofs.Document.Attributes
import MarkupQuery.Proofs.Document.Content

/-!
# The walk of loading

While a document is loaded, an element is attached to its parent before anything is known of its
content, and of several elements the last one is loaded first. What holds throughout (`Walk.Sound`)
is that there is one final form for every element, such that an element that still waits will have
the form that its task describes, and one that is loaded shows its form already, with the final
forms of its children in it. Loading an element keeps this (`Walk.sound_task`), takes one element
off those outstanding, and makes final forms only for elements that are new. So the walk ends, and
what can be read off then is the image of the tree (`element_eq`).
-/

namespace MarkupQuery.Document

open MarkupQuery.Html (Node Attribute)

/-! ## Final forms -/

/-- What an element is in the end. -/
structure Form where
  name : String
  attributes : List (String × String)
  children : List Tree

/-- The tree of a form. -/
def Form.tree (f : Form) : Tree :=
  .element f.name f.attributes f.children

/-- What a part of an element is in the end. -/
def Part.tree (final : Nat → Form) : Part → Tree
  | .text s => .text s
  | .comment s => .comment s
  | .element number => (final number).tree

/-- Adding a part adds its tree: an element is no text, so it is never joined to one. -/
theorem map_tree_appendPart (final : Nat → Form) (before : List Part) (p : Part) :
    (appendPart before p).map (Part.tree final) =
      appendTree (before.map (Part.tree final)) (p.tree final) := by
  rcases List.eq_nil_or_concat' before with rfl | ⟨before, q, rfl⟩
  · cases p <;> rfl
  · cases p <;> cases q <;>
      simp [appendPart, appendTree, Part.tree, Form.tree]

/-- Parts with the same forms for the elements that they hold are the same trees. -/
theorem map_tree_congr {final final' : Nat → Form} {parts : List Part}
    (h : ∀ number, Part.element number ∈ parts → final number = final' number) :
    parts.map (Part.tree final) = parts.map (Part.tree final') := by
  refine List.map_congr_left fun p hp => ?_
  cases p with
  | element number => rw [Part.tree, Part.tree, h number hp]
  | _ => rfl

/-- Adding a part replaces a text at most: no element is lost by it. -/
theorem mem_appendPart_iff {before : List Part} {p : Part} {number : Nat} :
    Part.element number ∈ appendPart before p ↔
      Part.element number ∈ before ∨ p = .element number := by
  rcases List.eq_nil_or_concat' before with rfl | ⟨before, q, rfl⟩
  · cases p <;> simp [appendPart, eq_comm]
  · cases p <;> cases q <;> simp [appendPart, eq_comm, or_assoc]

namespace Walk

/-- The elements that an element holds come behind it. -/
def Ordered (w : Walk) (number : Nat) (d : Draft) : Prop :=
  ∀ child, Part.element child ∈ d.parts → number < child ∧ child < w.drafts.size

/-- An element that is loaded shows its final form. -/
def Shows (w : Walk) (final : Nat → Form) (number : Nat) : Prop :=
  ∀ d, w.drafts[number]? = some d →
    final number = ⟨d.name, d.attributes, d.parts.map (Part.tree final)⟩ ∧ w.Ordered number d

/-- An element that waits is blank, and will have the form that its task describes. -/
def Awaits (o : Options) (w : Walk) (final : Nat → Form) (t : Task) : Prop :=
  ∃ name, w.drafts[t.number]? = some { name := name } ∧
    final t.number = ⟨name, joinAttributes t.attributes, joinTexts (imageAll o t.children)⟩

/-- Every element that waits will have its final form, every other one shows it. -/
structure Sound (o : Options) (w : Walk) (final : Nat → Form) : Prop where
  awaits : ∀ t ∈ w.tasks, w.Awaits o final t
  shows : ∀ number, number ∉ w.tasks.map (·.number) → w.Shows final number
  distinct : (w.tasks.map (·.number)).Nodup

/-- The same while an element is being loaded, behind some of its content: what it holds so far is
the image of that content. -/
structure Loading (o : Options) (w : Walk) (final : Nat → Form) (number : Nat)
    (done : List Node) : Prop where
  under : ∃ d, w.drafts[number]? = some d ∧ w.Ordered number d ∧
    (final number).name = d.name ∧ (final number).attributes = d.attributes ∧
    d.parts.map (Part.tree final) = joinTexts (imageAll o done)
  awaits : ∀ t ∈ w.tasks, w.Awaits o final t
  shows : ∀ n, n ≠ number → n ∉ w.tasks.map (·.number) → w.Shows final n
  distinct : (number :: w.tasks.map (·.number)).Nodup

/-! ## Loading a child -/

theorem lt_size_of_getElem? {w : Walk} {number : Nat} {d : Draft}
    (h : w.drafts[number]? = some d) : number < w.drafts.size :=
  (Array.getElem?_eq_some_iff.1 h).1

@[simp] theorem size_attach (w : Walk) (number : Nat) (p : Part) :
    (w.attach number p).drafts.size = w.drafts.size := by
  simp [attach]

theorem getElem?_attach (w : Walk) (number n : Nat) (p : Part) :
    (w.attach number p).drafts[n]? =
      if number = n then (w.drafts[n]?).map fun d => { d with parts := appendPart d.parts p }
      else w.drafts[n]? := by
  rw [attach, Array.getElem?_modify]

/-- Attaching what a node becomes loads the node. -/
theorem loading_attach {o : Options} {w : Walk} {final : Nat → Form} {number : Nat}
    {done : List Node} (h : w.Loading o final number done) {p : Part} {n : Node}
    (himage : image o n = [p.tree final])
    (hp : ∀ child, p = .element child → number < child ∧ child < w.drafts.size) :
    (w.attach number p).Loading o final number (done ++ [n]) := by
  obtain ⟨d, hd, hordered, hname, hattributes, hparts⟩ := h.under
  refine ⟨⟨{ d with parts := appendPart d.parts p }, ?_, ?_, hname, hattributes, ?_⟩, ?_, ?_,
    h.distinct⟩
  · simp [getElem?_attach, hd]
  · intro child hchild
    rw [size_attach]
    rcases mem_appendPart_iff.1 hchild with hmem | heq
    · exact hordered child hmem
    · exact hp child heq
  · rw [map_tree_appendPart, hparts, imageAll_append, imageAll, himage, imageAll, List.append_nil,
      joinTexts_concat]
  · intro t ht
    obtain ⟨name, hblank, hform⟩ := h.awaits t ht
    have hne : number ≠ t.number := by
      rintro rfl
      exact (List.nodup_cons.1 h.distinct).1 (List.mem_map_of_mem ht)
    exact ⟨name, by rw [getElem?_attach, if_neg hne, hblank], hform⟩
  · intro m hm hwaits e he
    rw [getElem?_attach, if_neg (Ne.symm hm)] at he
    obtain ⟨hform, hbehind⟩ := h.shows m hm hwaits e he
    exact ⟨hform, fun child hchild => by simpa using hbehind child hchild⟩

/-- A node that becomes nothing is loaded by doing nothing. -/
theorem loading_skip {o : Options} {w : Walk} {final : Nat → Form} {number : Nat}
    {done : List Node} (h : w.Loading o final number done) {n : Node} (himage : image o n = []) :
    w.Loading o final number (done ++ [n]) := by
  refine ⟨?_, h.awaits, h.shows, h.distinct⟩
  rw [imageAll_append, imageAll, himage, imageAll, List.append_nil, List.append_nil]
  exact h.under

/-- A walk with a blank element that waits. -/
def await (w : Walk) (name : String) (attributes : List Attribute) (children : List Node) : Walk :=
  { w with
    drafts := w.drafts.push { name := name }
    tasks :=
      { number := w.drafts.size, attributes := attributes, children := children } :: w.tasks }

/-- The final forms, with that of a new element. -/
def withForm (o : Options) (final : Nat → Form) (number : Nat) (name : String)
    (attributes : List Attribute) (children : List Node) : Nat → Form :=
  Function.update final number
    ⟨name, joinAttributes attributes, joinTexts (imageAll o children)⟩

@[simp] theorem size_await (w : Walk) (name : String) (attributes : List Attribute)
    (children : List Node) :
    (w.await name attributes children).drafts.size = w.drafts.size + 1 := by
  simp [await]

theorem getElem?_await (w : Walk) (name : String) (attributes : List Attribute)
    (children : List Node) {n : Nat} (hn : n ≠ w.drafts.size) :
    (w.await name attributes children).drafts[n]? = w.drafts[n]? := by
  simp [await, Array.getElem?_push, hn]

theorem withForm_of_ne (o : Options) (final : Nat → Form) {number n : Nat} (hn : n ≠ number)
    (name : String) (attributes : List Attribute) (children : List Node) :
    withForm o final number name attributes children n = final n :=
  Function.update_of_ne hn _ _

theorem ordered_await {w : Walk} {number : Nat} {d : Draft} (h : w.Ordered number d)
    (name : String) (attributes : List Attribute) (children : List Node) :
    (w.await name attributes children).Ordered number d := by
  intro child hchild
  have := h child hchild
  rw [size_await]
  omega

/-- What an element holds comes before a new one, whose form is none of its own. -/
theorem map_tree_withForm {o : Options} {w : Walk} {final : Nat → Form} {number : Nat} {d : Draft}
    (h : w.Ordered number d) (name : String) (attributes : List Attribute) (children : List Node) :
    d.parts.map (Part.tree (withForm o final w.drafts.size name attributes children)) =
      d.parts.map (Part.tree final) := by
  refine map_tree_congr fun child hchild => withForm_of_ne o final ?_ name attributes children
  exact Nat.ne_of_lt (h child hchild).2

/-- An element that shows its form still does when another one comes behind all others. -/
theorem shows_await {o : Options} {w : Walk} {final : Nat → Form} {n : Nat}
    (h : w.Shows final n) (hn : n ≠ w.drafts.size) (name : String)
    (attributes : List Attribute) (children : List Node) :
    (w.await name attributes children).Shows
      (withForm o final w.drafts.size name attributes children) n := by
  intro d hd
  rw [getElem?_await w name attributes children hn] at hd
  obtain ⟨hform, hordered⟩ := h d hd
  refine ⟨?_, ordered_await hordered name attributes children⟩
  rw [withForm_of_ne o final hn, map_tree_withForm hordered, hform]

/-- An element that waits still does when another one comes behind all others. -/
theorem awaits_await {o : Options} {w : Walk} {final : Nat → Form} {t : Task}
    (h : w.Awaits o final t) (name : String) (attributes : List Attribute)
    (children : List Node) :
    (w.await name attributes children).Awaits o
      (withForm o final w.drafts.size name attributes children) t := by
  obtain ⟨blank, hblank, hform⟩ := h
  have hne := Nat.ne_of_lt (lt_size_of_getElem? hblank)
  refine ⟨blank, ?_, ?_⟩
  · rw [getElem?_await w name attributes children hne, hblank]
  · rw [withForm_of_ne o final hne, hform]

/-- **An element that comes behind all others disturbs none of them.** -/
theorem loading_await {o : Options} {w : Walk} {final : Nat → Form} {number : Nat}
    {done : List Node} (h : w.Loading o final number done) (name : String)
    (attributes : List Attribute) (children : List Node) :
    (w.await name attributes children).Loading o
      (withForm o final w.drafts.size name attributes children) number done := by
  obtain ⟨d, hd, hordered, hname, hattributes, hparts⟩ := h.under
  have hnumber := Nat.ne_of_lt (lt_size_of_getElem? hd)
  refine ⟨⟨d, ?_, ordered_await hordered name attributes children, ?_, ?_, ?_⟩, ?_, ?_, ?_⟩
  · rw [getElem?_await w name attributes children hnumber, hd]
  · rw [withForm_of_ne o final hnumber, hname]
  · rw [withForm_of_ne o final hnumber, hattributes]
  · rw [map_tree_withForm hordered, hparts]
  · intro t ht
    rcases List.mem_cons.1 ht with rfl | ht
    · exact ⟨name, by simp [await], by simp [withForm]⟩
    · exact awaits_await (h.awaits t ht) name attributes children
  · intro n hn hwaits
    simp only [await, List.map_cons, List.mem_cons, not_or] at hwaits
    exact shows_await (h.shows n hn hwaits.2) hwaits.1 name attributes children
  · have hnew : ∀ t ∈ w.tasks, t.number ≠ w.drafts.size := by
      intro t ht
      obtain ⟨blank, hblank, -⟩ := h.awaits t ht
      exact Nat.ne_of_lt (lt_size_of_getElem? hblank)
    have := h.distinct
    simp only [await, List.map_cons, List.nodup_cons, List.mem_cons, not_or] at this ⊢
    refine ⟨⟨hnumber, this.1⟩, ?_, this.2⟩
    simpa using hnew

theorem child_element (o : Options) (number : Nat) (w : Walk) (name : String)
    (attributes : List Attribute) (children : List Node) :
    w.child o number (.element name attributes children) =
      (w.await name attributes children).attach number (.element w.drafts.size) := rfl

/-- Loading a child, which is no fragment any more, leaves the forms of the elements that are there
as they were. -/
theorem loading_child {o : Options} {w : Walk} {final : Nat → Form} {number : Nat}
    {done : List Node} (h : w.Loading o final number done) {n : Node} (hn : isFragment n = false) :
    ∃ final', (w.child o number n).Loading o final' number (done ++ [n]) ∧
      w.drafts.size ≤ (w.child o number n).drafts.size ∧
      ∀ m < w.drafts.size, final' m = final m := by
  cases n with
  | element name attributes children =>
    obtain ⟨d, hd, -⟩ := h.under
    have hawait := loading_await h name attributes children
    refine ⟨withForm o final w.drafts.size name attributes children, ?_, ?_, ?_⟩
    · rw [child_element]
      refine loading_attach hawait (by simp [image, Part.tree, Form.tree, withForm]) ?_
      rintro child hchild
      cases hchild
      exact ⟨lt_size_of_getElem? hd, by simp [await]⟩
    · simp [child_element, await]
    · intro m hm
      exact withForm_of_ne o final (Nat.ne_of_lt hm) name attributes children
  | text s =>
    refine ⟨final, ?_, ?_, fun _ _ => rfl⟩
    · rw [child]
      split_ifs with hdrop
      · exact loading_skip h (by simp [image, hdrop])
      · exact loading_attach h (by simp [image, hdrop, Part.tree]) (by simp)
    · rw [child]
      split_ifs <;> simp
  | comment s =>
    refine ⟨final, ?_, ?_, fun _ _ => rfl⟩
    · rw [child]
      split_ifs with hkeep
      · exact loading_attach h (by simp [image, hkeep, Part.tree]) (by simp)
      · exact loading_skip h (by simp [image, hkeep])
    · rw [child]
      split_ifs <;> simp
  | fragment children => simp [isFragment] at hn
  | other => exact ⟨final, loading_skip h rfl, Nat.le_refl _, fun _ _ => rfl⟩

theorem loading_children {o : Options} {number : Nat} (ns : List Node) {w : Walk}
    {final : Nat → Form} {done : List Node} (h : w.Loading o final number done)
    (hns : ∀ n ∈ ns, isFragment n = false) :
    ∃ final', (ns.foldl (child o number) w).Loading o final' number (done ++ ns) ∧
      w.drafts.size ≤ (ns.foldl (child o number) w).drafts.size ∧
      ∀ m < w.drafts.size, final' m = final m := by
  induction ns generalizing w final done with
  | nil => exact ⟨final, by simpa using h, Nat.le_refl _, fun _ _ => rfl⟩
  | cons n ns ih =>
    obtain ⟨middle, hmiddle, hgrows, hsame⟩ := loading_child h (hns n (by simp))
    obtain ⟨final', hfinal, hgrows', hsame'⟩ := ih hmiddle fun m hm => hns m (by simp [hm])
    refine ⟨final', by simpa using hfinal, Nat.le_trans hgrows hgrows', fun m hm => ?_⟩
    rw [hsame' m (Nat.lt_of_lt_of_le hm hgrows), hsame m hm]

/-! ## Loading an element -/

/-- The walk in which an element has its attributes, and its content is loaded next. -/
def begin (w : Walk) (t : Task) : Walk :=
  { w with
    drafts := w.drafts.modify t.number fun d =>
      { d with attributes := setAttributes d.attributes t.attributes }
    count := w.count + 1 }

theorem task_eq (o : Options) (w : Walk) (t : Task) :
    w.task o t = (dissolveAll t.children).foldl (child o t.number) (w.begin t) := by
  rw [task, content_eq]
  rfl

theorem getElem?_begin (w : Walk) (t : Task) (n : Nat) :
    (w.begin t).drafts[n]? =
      if t.number = n then
        (w.drafts[n]?).map fun d => { d with attributes := setAttributes d.attributes t.attributes }
      else w.drafts[n]? := by
  rw [begin, Array.getElem?_modify]

theorem size_begin (w : Walk) (t : Task) : (w.begin t).drafts.size = w.drafts.size := by
  simp [begin]

/-- The element of the first task gets its attributes and is loaded from then on. -/
theorem loading_begin {o : Options} {w : Walk} {final : Nat → Form} {t : Task} {tasks : List Task}
    (h : Sound o { w with tasks := t :: tasks } final) :
    (begin { w with tasks := tasks } t).Loading o final t.number [] := by
  obtain ⟨name, hblank, hform⟩ := h.awaits t (by simp)
  have hdistinct := h.distinct
  simp only [List.map_cons, List.nodup_cons] at hdistinct
  refine ⟨⟨{ name := name, attributes := joinAttributes t.attributes }, ?_, ?_, ?_, ?_, rfl⟩,
    ?_, ?_, h.distinct⟩
  · rw [getElem?_begin, if_pos rfl, hblank]
    rfl
  · intro child hchild
    simp at hchild
  · rw [hform]
  · rw [hform]
  · intro u hu
    obtain ⟨other, hother, hwill⟩ := h.awaits u (List.mem_cons_of_mem t hu)
    have hne : t.number ≠ u.number := by
      intro heq
      exact hdistinct.1 (heq ▸ List.mem_map_of_mem hu)
    exact ⟨other, by rw [getElem?_begin, if_neg hne, hother], hwill⟩
  · intro n hn hwaits d hd
    rw [getElem?_begin, if_neg (Ne.symm hn)] at hd
    have hrest : n ∉ tasks.map (·.number) := hwaits
    obtain ⟨hshows, hordered⟩ := h.shows n (by simpa [hn] using hrest) d hd
    refine ⟨hshows, fun child hchild => ?_⟩
    rw [size_begin]
    exact hordered child hchild

/-- **Loading an element keeps the walk sound**, with the same final forms for all that are
there. -/
theorem sound_task {o : Options} {w : Walk} {final : Nat → Form} {t : Task} {tasks : List Task}
    (h : Sound o { w with tasks := t :: tasks } final) :
    ∃ final', (task o { w with tasks := tasks } t).Sound o final' ∧
      w.drafts.size ≤ (task o { w with tasks := tasks } t).drafts.size ∧
      ∀ m < w.drafts.size, final' m = final m := by
  obtain ⟨name, hblank, hform⟩ := h.awaits t (by simp)
  have hnumber := lt_size_of_getElem? hblank
  obtain ⟨final', hloaded, hgrows, hsame⟩ := loading_children (dissolveAll t.children)
    (loading_begin h) (isFragment_of_mem_dissolveAll t.children)
  rw [size_begin] at hgrows hsame
  rw [task_eq]
  refine ⟨final', ⟨hloaded.awaits, ?_, (List.nodup_cons.1 hloaded.distinct).2⟩, hgrows, hsame⟩
  intro n hwaits
  by_cases hn : n = t.number
  · -- the element just loaded
    subst hn
    obtain ⟨d, hd, hordered, hname, hattributes, hparts⟩ := hloaded.under
    intro e he
    obtain rfl : d = e := Option.some.inj (hd.symm.trans he)
    refine ⟨?_, hordered⟩
    rw [List.nil_append, imageAll_dissolveAll] at hparts
    rw [hsame _ hnumber, hform] at hname hattributes ⊢
    rw [← hname, ← hattributes, hparts]
  · exact hloaded.shows n hn hwaits

/-! ## Outstanding elements -/

/-- The number of elements that are still to be loaded. -/
def outstanding (w : Walk) : Nat :=
  w.tasks.foldr (fun t total => elementTotalAll t.children + 1 + total) 0

theorem count_outstanding_child (o : Options) (number : Nat) (w : Walk) {n : Node}
    (hn : isFragment n = false) :
    (w.child o number n).count = w.count ∧
      (w.child o number n).outstanding = elementTotal n + w.outstanding := by
  cases n with
  | element name attributes children =>
    simp [child_element, attach, await, outstanding, elementTotal]
  | fragment children => simp [isFragment] at hn
  | text s =>
    rw [child]
    split_ifs <;> simp [attach, outstanding, elementTotal]
  | comment s =>
    rw [child]
    split_ifs <;> simp [attach, outstanding, elementTotal]
  | other => simp [child, elementTotal]

theorem count_outstanding_children (o : Options) (number : Nat) (ns : List Node) (w : Walk)
    (hns : ∀ n ∈ ns, isFragment n = false) :
    (ns.foldl (child o number) w).count = w.count ∧
      (ns.foldl (child o number) w).outstanding = elementTotalAll ns + w.outstanding := by
  induction ns generalizing w with
  | nil => simp [elementTotalAll]
  | cons n ns ih =>
    obtain ⟨hcount, houtstanding⟩ := count_outstanding_child o number w (hns n (by simp))
    obtain ⟨hcount', houtstanding'⟩ :=
      ih (w.child o number n) fun m hm => hns m (by simp [hm])
    rw [List.foldl_cons, hcount', hcount, houtstanding', houtstanding, elementTotalAll]
    exact ⟨rfl, by omega⟩

/-- Loading an element counts one, and takes one off those outstanding. -/
theorem count_outstanding_task (o : Options) (w : Walk) (t : Task) :
    (w.task o t).count = w.count + 1 ∧
      (w.task o t).outstanding = elementTotalAll t.children + w.outstanding := by
  obtain ⟨hcount, houtstanding⟩ := count_outstanding_children o t.number
    (dissolveAll t.children) (w.begin t) (isFragment_of_mem_dissolveAll t.children)
  rw [task_eq, hcount, houtstanding, elementTotalAll_dissolveAll]
  exact ⟨rfl, rfl⟩

/-! ## The run -/

theorem outstanding_of_cons {w : Walk} {t : Task} {tasks : List Task} (h : w.tasks = t :: tasks) :
    w.outstanding = elementTotalAll t.children + 1 + outstanding { w with tasks := tasks } := by
  simp [outstanding, h]

theorem tasks_eq_nil_of_outstanding {w : Walk} (h : w.outstanding = 0) : w.tasks = [] := by
  cases htasks : w.tasks with
  | nil => rfl
  | cons t tasks =>
    have := outstanding_of_cons htasks
    omega

theorem run_of_cons (o : Options) {w : Walk} {t : Task} {tasks : List Task}
    (h : w.tasks = t :: tasks) (fuel : Nat) :
    run o (fuel + 1) w = run o fuel (task o { w with tasks := tasks } t) := by
  rw [run, h]

theorem run_of_tasks_eq_nil (o : Options) {w : Walk} (h : w.tasks = []) (fuel : Nat) :
    run o fuel w = w := by
  cases fuel with
  | zero => rfl
  | succ fuel => simp [run, h]

/-- **With a round for each element outstanding, nothing is left to be loaded**, all of them have
been counted, and those that were there have kept their final forms. -/
theorem sound_run {o : Options} {fuel : Nat} {w : Walk} {final : Nat → Form}
    (h : w.Sound o final) (hfuel : w.outstanding ≤ fuel) :
    ∃ final', (run o fuel w).Sound o final' ∧ (run o fuel w).tasks = [] ∧
      (run o fuel w).count = w.count + w.outstanding ∧
      w.drafts.size ≤ (run o fuel w).drafts.size ∧ ∀ m < w.drafts.size, final' m = final m := by
  induction fuel generalizing w final with
  | zero =>
    have hzero : w.outstanding = 0 := Nat.le_zero.1 hfuel
    exact ⟨final, h, tasks_eq_nil_of_outstanding hzero, by simp [run, hzero], Nat.le_refl _,
      fun _ _ => rfl⟩
  | succ fuel ih =>
    cases htasks : w.tasks with
    | nil =>
      rw [run_of_tasks_eq_nil o htasks]
      exact ⟨final, h, htasks, by simp [outstanding, htasks], Nat.le_refl _, fun _ _ => rfl⟩
    | cons t tasks =>
      have hw : w = { w with tasks := t :: tasks } := by rw [← htasks]
      rw [hw] at h
      obtain ⟨middle, hmiddle, hgrows, hsame⟩ := sound_task h
      obtain ⟨hcount, houtstanding⟩ := count_outstanding_task o { w with tasks := tasks } t
      have hone : w.outstanding = (task o { w with tasks := tasks } t).outstanding + 1 := by
        rw [houtstanding, outstanding_of_cons htasks]
        omega
      obtain ⟨final', hfinal, hempty, htotal, hgrows', hsame'⟩ := ih hmiddle (by omega)
      rw [run_of_cons o htasks]
      refine ⟨final', hfinal, hempty, ?_, Nat.le_trans hgrows hgrows', fun m hm => ?_⟩
      · rw [htotal, hcount, hone]
        simp only
        omega
      · rw [hsame' m (Nat.lt_of_lt_of_le hm hgrows), hsame m hm]

/-- More rounds than it takes change nothing. -/
theorem run_eq_of_le {o : Options} {m n : Nat} {w : Walk} (h : (run o m w).tasks = [])
    (hmn : m ≤ n) : run o n w = run o m w := by
  induction m generalizing n w with
  | zero => exact run_of_tasks_eq_nil o h n
  | succ m ih =>
    obtain ⟨n, rfl⟩ := Nat.exists_eq_add_of_le' hmn
    cases htasks : w.tasks with
    | nil => rw [run_of_tasks_eq_nil o htasks, run_of_tasks_eq_nil o htasks]
    | cons t tasks =>
      rw [run_of_cons o htasks] at h
      rw [← Nat.add_assoc, run_of_cons o htasks, run_of_cons o htasks]
      exact ih h (by omega)

/-- What is read off a walk with nothing outstanding are the final forms. A number is smaller than
those that it holds, so the elements behind it bound the depth. -/
theorem element_eq {o : Options} {w : Walk} {final : Nat → Form} (h : w.Sound o final)
    (htasks : w.tasks = []) {fuel number : Nat} (hnumber : number < w.drafts.size)
    (hfuel : w.drafts.size ≤ number + fuel) : w.element fuel number = (final number).tree := by
  induction fuel generalizing number with
  | zero => omega
  | succ fuel ih =>
    have hd : w.drafts[number]? = some w.drafts[number] := Array.getElem?_eq_getElem hnumber
    obtain ⟨hform, hordered⟩ := h.shows number (by simp [htasks]) _ hd
    rw [element, hd, hform, Form.tree]
    simp only
    congr 1
    refine List.map_congr_left fun p hp => ?_
    cases p with
    | text s => rfl
    | comment s => rfl
    | element child =>
      obtain ⟨hbehind, hsize⟩ := hordered child hp
      exact ih hsize (by omega)

/-- The walk that loading starts with. -/
def start (attributes : List Attribute) (children : List Node) : Walk :=
  { drafts := #[{ name := "html" }]
    tasks := [{ number := 0, attributes := attributes, children := children }] }

theorem sound_start (o : Options) (attributes : List Attribute) (children : List Node) :
    (start attributes children).Sound o fun _ =>
      ⟨"html", joinAttributes attributes, joinTexts (imageAll o children)⟩ := by
  refine ⟨?_, ?_, by simp [start]⟩
  · intro t ht
    obtain rfl : t = { number := 0, attributes := attributes, children := children } := by
      simpa [start] using ht
    exact ⟨"html", rfl, rfl⟩
  · intro n hn d hd
    have hzero : n ≠ 0 := by simpa [start] using hn
    have := lt_size_of_getElem? hd
    simp [start] at this
    omega

theorem outstanding_start (attributes : List Attribute) (children : List Node) :
    (start attributes children).outstanding = elementTotalAll children + 1 := by
  simp [start, outstanding]

end Walk

end MarkupQuery.Document
