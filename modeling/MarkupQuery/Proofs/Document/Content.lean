import MarkupQuery.Document.Image

/-!
# Content without fragments

`dissolveAll` replaces the fragments of a list by what they hold, recursively; the loop that loading
runs for it, with a stack of its own, comes to an end with the same list (`contentLoop_eq`). Images
and numbers of elements look through fragments anyway (`imageAll_dissolveAll`,
`elementTotalAll_dissolveAll`). Joining neighbouring texts can be done from the left, one tree at a
time, as loading does it (`joinTexts_concat`).
-/

namespace MarkupQuery.Document

open MarkupQuery.Html (Node)

/-! ## Fragments -/

mutual

/-- A node, or what a fragment holds, its fragments dissolved. -/
def dissolve : Node → List Node
  | .fragment children => dissolveAll children
  | .element name attributes children => [.element name attributes children]
  | .text s => [.text s]
  | .comment s => [.comment s]
  | .other => [.other]

/-- The nodes of a list, in order, its fragments dissolved. -/
def dissolveAll : List Node → List Node
  | [] => []
  | n :: ns => dissolve n ++ dissolveAll ns

end

/-- Whether a node is a fragment. -/
def isFragment : Node → Bool
  | .fragment _ => true
  | _ => false

theorem dissolveAll_append (ns ms : List Node) :
    dissolveAll (ns ++ ms) = dissolveAll ns ++ dissolveAll ms := by
  induction ns with
  | nil => rfl
  | cons n ns ih => simp only [List.cons_append, dissolveAll, ih, List.append_assoc]

theorem nodeCountAll_append (ns ms : List Node) :
    nodeCountAll (ns ++ ms) = nodeCountAll ns + nodeCountAll ms := by
  induction ns with
  | nil => simp [nodeCountAll]
  | cons n ns ih => simp only [List.cons_append, nodeCountAll, ih, Nat.add_assoc]

theorem nodeCount_pos (n : Node) : 0 < nodeCount n := by
  cases n <;> simp [nodeCount]

/-- A round of the loop takes a node that is no fragment off the stack. -/
theorem contentLoop_cons (fuel : Nat) (pending : List Node) {n : Node} (hn : isFragment n = false) :
    contentLoop (fuel + 1) (n :: pending) = n :: contentLoop fuel pending := by
  cases n with
  | fragment children => simp [isFragment] at hn
  | _ => simp [contentLoop]

/-- **The loop over a stack dissolves fragments**, given as many rounds as there are nodes: a round
takes one node off, fragments included. -/
theorem contentLoop_eq {fuel : Nat} {pending : List Node} (h : nodeCountAll pending < fuel) :
    contentLoop fuel pending = dissolveAll pending := by
  induction fuel generalizing pending with
  | zero => omega
  | succ fuel ih =>
    cases pending with
    | nil => rfl
    | cons n pending =>
      have hpos := nodeCount_pos n
      rw [nodeCountAll] at h
      cases n with
      | fragment children =>
        rw [nodeCount] at h
        rw [contentLoop, ih (by rw [nodeCountAll_append]; omega), dissolveAll_append]
        rfl
      | _ =>
        rw [contentLoop_cons fuel pending rfl, ih (by omega)]
        rfl

theorem content_eq (children : List Node) : content children = dissolveAll children :=
  contentLoop_eq (Nat.lt_succ_self _)

mutual

theorem isFragment_of_mem_dissolve (n : Node) : ∀ m ∈ dissolve n, isFragment m = false := by
  cases n with
  | fragment children => exact isFragment_of_mem_dissolveAll children
  | _ => simp [dissolve, isFragment]

/-- No fragment is left. -/
theorem isFragment_of_mem_dissolveAll (ns : List Node) :
    ∀ m ∈ dissolveAll ns, isFragment m = false := by
  match ns with
  | [] => simp [dissolveAll]
  | n :: ns =>
    intro m hm
    rcases List.mem_append.1 hm with h | h
    · exact isFragment_of_mem_dissolve n m h
    · exact isFragment_of_mem_dissolveAll ns m h

end

/-! ## Images -/

theorem imageAll_append (o : Options) (ns ms : List Node) :
    imageAll o (ns ++ ms) = imageAll o ns ++ imageAll o ms := by
  induction ns with
  | nil => rfl
  | cons n ns ih => simp only [List.cons_append, imageAll, ih, List.append_assoc]

mutual

theorem imageAll_dissolve (o : Options) (n : Node) : imageAll o (dissolve n) = image o n := by
  cases n with
  | fragment children => exact imageAll_dissolveAll o children
  | _ => simp [dissolve, imageAll]

/-- What a fragment becomes is what it holds becomes. -/
theorem imageAll_dissolveAll (o : Options) (ns : List Node) :
    imageAll o (dissolveAll ns) = imageAll o ns := by
  match ns with
  | [] => rfl
  | n :: ns =>
    rw [dissolveAll, imageAll_append, imageAll_dissolve o n, imageAll_dissolveAll o ns, imageAll]

end

/-! ## Numbers of elements -/

mutual

/-- The number of elements of a tree, those within fragments included. -/
def elementTotal : Node → Nat
  | .element _ _ children => elementTotalAll children + 1
  | .fragment children => elementTotalAll children
  | .text _ => 0
  | .comment _ => 0
  | .other => 0

/-- The number of elements of a list of trees. -/
def elementTotalAll : List Node → Nat
  | [] => 0
  | n :: ns => elementTotal n + elementTotalAll ns

end

theorem elementTotalAll_append (ns ms : List Node) :
    elementTotalAll (ns ++ ms) = elementTotalAll ns + elementTotalAll ms := by
  induction ns with
  | nil => simp [elementTotalAll]
  | cons n ns ih => simp only [List.cons_append, elementTotalAll, ih, Nat.add_assoc]

mutual

theorem elementTotalAll_dissolve (n : Node) : elementTotalAll (dissolve n) = elementTotal n := by
  cases n with
  | fragment children => exact elementTotalAll_dissolveAll children
  | _ => simp [dissolve, elementTotalAll]

theorem elementTotalAll_dissolveAll (ns : List Node) :
    elementTotalAll (dissolveAll ns) = elementTotalAll ns := by
  match ns with
  | [] => rfl
  | n :: ns =>
    rw [dissolveAll, elementTotalAll_append, elementTotalAll_dissolve n,
      elementTotalAll_dissolveAll ns, elementTotalAll]

end

mutual

theorem elementTotal_le_nodeCount (n : Node) : elementTotal n ≤ nodeCount n := by
  cases n with
  | element name attributes children =>
    exact Nat.succ_le_succ (elementTotalAll_le_nodeCountAll children)
  | fragment children =>
    exact Nat.le_succ_of_le (elementTotalAll_le_nodeCountAll children)
  | _ => simp [elementTotal]

theorem elementTotalAll_le_nodeCountAll (ns : List Node) :
    elementTotalAll ns ≤ nodeCountAll ns := by
  match ns with
  | [] => simp [elementTotalAll]
  | n :: ns =>
    exact Nat.add_le_add (elementTotal_le_nodeCount n) (elementTotalAll_le_nodeCountAll ns)

end

/-! ## Joined texts -/

/-- Puts a tree before others; a text joins a text behind it. -/
def prependTree (t : Tree) (behind : List Tree) : List Tree :=
  match t, behind with
  | .text r, .text s :: rest => .text (r ++ s) :: rest
  | t, behind => t :: behind

/-- Puts a tree behind others; a text joins a text before it. -/
def appendTree (before : List Tree) (t : Tree) : List Tree :=
  match t, before.getLast? with
  | .text s, some (.text r) => before.dropLast ++ [.text (r ++ s)]
  | _, _ => before ++ [t]

theorem joinTexts_cons (t : Tree) (ts : List Tree) :
    joinTexts (t :: ts) = prependTree t (joinTexts ts) := rfl

/-- Only the last of several trees is touched at their end. -/
theorem appendTree_cons_cons (u v : Tree) (ts : List Tree) (t : Tree) :
    appendTree (u :: v :: ts) t = u :: appendTree (v :: ts) t := by
  simp only [appendTree, List.getLast?_cons_cons]
  split <;> simp

/-- The two ends of a list of trees can be extended in either order. -/
theorem prependTree_appendTree (u : Tree) (ts : List Tree) (t : Tree) :
    prependTree u (appendTree ts t) = appendTree (prependTree u ts) t := by
  match ts with
  | [] => cases u <;> cases t <;> rfl
  | [v] =>
    cases u <;> cases v <;> cases t <;>
      simp [prependTree, appendTree, String.append_assoc]
  | v :: w :: ts =>
    rw [appendTree_cons_cons]
    cases u <;> cases v <;> simp [prependTree, appendTree_cons_cons]

/-- **Texts can be joined from the left**, one tree at a time. -/
theorem joinTexts_concat (ts : List Tree) (t : Tree) :
    joinTexts (ts ++ [t]) = appendTree (joinTexts ts) t := by
  induction ts with
  | nil => cases t <;> rfl
  | cons u ts ih =>
    rw [List.cons_append, joinTexts_cons, joinTexts_cons, ih, prependTree_appendTree]

end MarkupQuery.Document
