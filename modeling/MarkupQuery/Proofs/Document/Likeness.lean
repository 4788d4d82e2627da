import MarkupQuery.Proofs.Document.Texts

/-!
# Trees that are alike

Loading with other options keeps the elements. Two trees are alike if they are elements of one name
with the same attributes whose texts are related, and with such elements among their children; texts
and comments between the elements are passed over (`Tree.Alike`, `Tree.Aligned`). The images of a
tree for two options are alike, with the same texts up to white space (`alike_imageOf`).
-/

namespace MarkupQuery.Document

open MarkupQuery.Html (Node)

namespace Tree

/-- Whether a tree is an element. -/
def isElement : Tree → Bool
  | .element _ _ _ => true
  | .text _ => false
  | .comment _ => false

/-- Lists of trees whose elements are related one by one; what is between them is passed over. -/
inductive Aligned (r : Tree → Tree → Prop) : List Tree → List Tree → Prop
  | nil : Aligned r [] []
  | element {t u : Tree} {ts us : List Tree} (head : r t u) (tail : Aligned r ts us) :
    Aligned r (t :: ts) (u :: us)
  | left {t : Tree} {ts us : List Tree} (head : t.isElement = false) (tail : Aligned r ts us) :
    Aligned r (t :: ts) us
  | right {u : Tree} {ts us : List Tree} (head : u.isElement = false) (tail : Aligned r ts us) :
    Aligned r ts (u :: us)

/-- Elements of one name with the same attributes, related texts, and such elements among their
children. -/
inductive Alike (same : String → String → Prop) : Tree → Tree → Prop
  | element {name : String} {attributes : List (String × String)} {ts us : List Tree}
    (texts : same (contentAll ts) (contentAll us)) (children : Aligned (Alike same) ts us) :
    Alike same (.element name attributes ts) (.element name attributes us)

variable {r : Tree → Tree → Prop} {ts us ts' us' : List Tree}

theorem Aligned.append (h : Aligned r ts us) (h' : Aligned r ts' us') :
    Aligned r (ts ++ ts') (us ++ us') := by
  induction h with
  | nil => exact h'
  | element head _ ih => exact .element head ih
  | left head _ ih => exact .left head ih
  | right head _ ih => exact .right head ih

theorem Aligned.flip (h : Aligned r ts us) : Aligned (fun u t => r t u) us ts := by
  induction h with
  | nil => exact .nil
  | element head _ ih => exact .element head ih
  | left head _ ih => exact .right head ih
  | right head _ ih => exact .left head ih

theorem aligned_of_isElement (hts : ∀ t ∈ ts, t.isElement = false)
    (hus : ∀ u ∈ us, u.isElement = false) : Aligned r ts us := by
  induction ts with
  | nil =>
    induction us with
    | nil => exact .nil
    | cons u us ih =>
      exact .right (hus u List.mem_cons_self) (ih fun v hv => hus v (List.mem_cons_of_mem u hv))
  | cons t ts ih =>
    exact .left (hts t List.mem_cons_self) (ih fun v hv => hts v (List.mem_cons_of_mem t hv))

section Joining

variable (hr : ∀ t u, r t u → t.isElement = true)

include hr

/-- What is no element does not count. -/
theorem Aligned.of_cons {t : Tree} (ht : t.isElement = false) (h : Aligned r (t :: ts) us) :
    Aligned r ts us := by
  generalize hlist : t :: ts = list at h
  induction h with
  | nil => cases hlist
  | element head _ _ =>
    obtain ⟨rfl, rfl⟩ := List.cons.inj hlist
    rw [hr _ _ head] at ht
    cases ht
  | left _ tail _ =>
    obtain ⟨rfl, rfl⟩ := List.cons.inj hlist
    exact tail
  | right head _ ih => exact .right head (ih hlist)

theorem Aligned.prependTree {t : Tree} (ht : t.isElement = false) (h : Aligned r ts us) :
    Aligned r (prependTree t ts) us := by
  cases t with
  | element name attributes children => cases ht
  | comment s => exact .left rfl h
  | text s =>
    rcases ts with _ | ⟨u, ts⟩
    · exact .left rfl h
    · cases u with
      | text s' => exact .left rfl (h.of_cons hr rfl)
      | element name attributes children => exact .left rfl h
      | comment s' => exact .left rfl h

theorem Aligned.joinTexts_left (h : Aligned r ts us) : Aligned r (joinTexts ts) us := by
  induction h with
  | nil => exact .nil
  | @element t u ts us head _ ih =>
    have hprepend : Document.prependTree t (joinTexts ts) = t :: joinTexts ts := by
      have helement := hr _ _ head
      cases t with
      | element name attributes children => rfl
      | _ => cases helement
    rw [joinTexts_cons, hprepend]
    exact .element head ih
  | left head _ ih =>
    rw [joinTexts_cons]
    exact ih.prependTree hr head
  | right head _ ih => exact .right head ih

end Joining

theorem Alike.isElement {same : String → String → Prop} {t u : Tree} (h : Alike same t u) :
    t.isElement = true ∧ u.isElement = true := by
  cases h with
  | element texts children => exact ⟨rfl, rfl⟩

/-- Joining texts touches no elements. -/
theorem aligned_joinTexts {same : String → String → Prop} (h : Aligned (Alike same) ts us) :
    Aligned (Alike same) (joinTexts ts) (joinTexts us) := by
  have hleft := h.joinTexts_left fun _ _ => And.left ∘ Alike.isElement
  exact (hleft.flip.joinTexts_left fun _ _ => And.right ∘ Alike.isElement).flip

end Tree

open MarkupQuery.Document.Tree (Alike Aligned)

/-! ## Images -/

variable (o₁ o₂ : Options)

mutual

theorem aligned_image (n : Node) :
    Aligned (Alike (SameText o₁ o₂)) (image o₁ n) (image o₂ n) := by
  cases n with
  | element name attributes children =>
    refine .element (.element ?_ (Tree.aligned_joinTexts (aligned_imageAll children))) .nil
    rw [Tree.contentAll_joinTexts, Tree.contentAll_joinTexts]
    exact sameText_imageAll o₁ o₂ children
  | text s =>
    have hnone (o : Options) : ∀ t ∈ image o (.text s), t.isElement = false := by
      rw [image]
      split_ifs <;> simp [Tree.isElement]
    exact Tree.aligned_of_isElement (hnone o₁) (hnone o₂)
  | comment s =>
    have hnone (o : Options) : ∀ t ∈ image o (.comment s), t.isElement = false := by
      rw [image]
      split_ifs <;> simp [Tree.isElement]
    exact Tree.aligned_of_isElement (hnone o₁) (hnone o₂)
  | fragment children => exact aligned_imageAll children
  | other => exact .nil

theorem aligned_imageAll (ns : List Node) :
    Aligned (Alike (SameText o₁ o₂)) (imageAll o₁ ns) (imageAll o₂ ns) := by
  match ns with
  | [] => exact .nil
  | n :: ns => exact (aligned_image n).append (aligned_imageAll ns)

end

/-- **Images with different options are alike.** -/
theorem alike_imageOf (n : Node) :
    Alike (SameText o₁ o₂) (imageOf o₁ n) (imageOf o₂ n) := by
  cases n with
  | element name attributes children =>
    refine .element ?_ (Tree.aligned_joinTexts (aligned_imageAll o₁ o₂ children))
    rw [Tree.contentAll_joinTexts, Tree.contentAll_joinTexts]
    exact sameText_imageAll o₁ o₂ children
  | _ => exact .element ⟨rfl, fun _ => rfl⟩ .nil

end MarkupQuery.Document
