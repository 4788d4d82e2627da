import Mathlib.Data.List.Chain
import MarkupQuery.Proofs.Document.Distinct
import MarkupQuery.Proofs.Document.Load

/-!
# Loaded trees in normal form

`Normal` says of markup that nothing is left to do for loading: no fragments, no texts side by side,
no name twice among the attributes of an element, and no blank texts or comments where the options
drop these. Whatever is loaded is normal, read as markup (`normal_load`): the pieces of which texts
are joined are not blank one by one, so the texts are not blank either. And what is normal is its
own image (`image_toNode`), so that loading what was loaded changes nothing (`load_again`).
-/

namespace MarkupQuery.Document

open MarkupQuery.Html (Node Attribute)
open MarkupQuery.Document.Tree (toNode toNodeAll)

/-! ## Normal markup -/

/-- Whether a node is a text. -/
def isText : Node → Bool
  | .text _ => true
  | _ => false

/-- No two texts stand side by side. -/
def TextsApart (ns : List Node) : Prop :=
  ns.IsChain fun n m => isText n = false ∨ isText m = false

mutual

/-- Markup in which loading finds nothing to change, but for the name of its root. -/
def Normal (o : Options) : Node → Prop
  | .element _ attributes children =>
    (attributes.map (·.name)).Nodup ∧ TextsApart children ∧ NormalAll o children
  | .text s => o.noBlanks = true → Text.blank s = false
  | .comment _ => o.keepComments = true
  | .fragment _ => False
  | .other => False

/-- A list of normal nodes. -/
def NormalAll (o : Options) : List Node → Prop
  | [] => True
  | n :: ns => Normal o n ∧ NormalAll o ns

end

variable {o : Options}

theorem normalAll_append {ns ms : List Node} :
    NormalAll o (ns ++ ms) ↔ NormalAll o ns ∧ NormalAll o ms := by
  induction ns with
  | nil => simp [NormalAll]
  | cons n ns ih => simp [NormalAll, ih, and_assoc]

theorem toNodeAll_append (ts us : List Tree) :
    toNodeAll (ts ++ us) = toNodeAll ts ++ toNodeAll us := by
  induction ts with
  | nil => rfl
  | cons t ts ih => simp only [List.cons_append, toNodeAll, ih]

/-! ## What is loaded is normal -/

theorem textsApart_prependTree (t : Tree) {ts : List Tree} (h : TextsApart (toNodeAll ts)) :
    TextsApart (toNodeAll (prependTree t ts)) := by
  cases t with
  | element name attributes children => exact List.isChain_cons.2 ⟨fun n _ => .inl rfl, h⟩
  | comment s => exact List.isChain_cons.2 ⟨fun n _ => .inl rfl, h⟩
  | text r =>
    rcases ts with _ | ⟨u, ts⟩
    · exact List.IsChain.singleton _
    · cases u with
      | element name attributes children => exact List.isChain_cons_cons.2 ⟨.inr rfl, h⟩
      | comment s => exact List.isChain_cons_cons.2 ⟨.inr rfl, h⟩
      | text s =>
        -- The joined text stands where the text behind it stood, and is a text as that was.
        exact List.isChain_cons.2 (List.isChain_cons.1 h)

/-- **Joining leaves no texts side by side.** -/
theorem textsApart_joinTexts (ts : List Tree) : TextsApart (toNodeAll (joinTexts ts)) := by
  induction ts with
  | nil => exact List.IsChain.nil
  | cons t ts ih =>
    rw [joinTexts_cons]
    exact textsApart_prependTree t ih

theorem blank_append (r s : String) : Text.blank (r ++ s) = (Text.blank r && Text.blank s) := by
  simp [Text.blank]

/-- A text joined from one that is not blank is not blank. -/
theorem normalAll_prependTree {t : Tree} {ts : List Tree} (ht : Normal o t.toNode)
    (hts : NormalAll o (toNodeAll ts)) : NormalAll o (toNodeAll (prependTree t ts)) := by
  cases t with
  | element name attributes children => exact ⟨ht, hts⟩
  | comment s => exact ⟨ht, hts⟩
  | text r =>
    rcases ts with _ | ⟨u, ts⟩
    · exact ⟨ht, hts⟩
    · cases u with
      | element name attributes children => exact ⟨ht, hts⟩
      | comment s => exact ⟨ht, hts⟩
      | text s =>
        refine ⟨fun hblanks => ?_, hts.2⟩
        rw [blank_append, ht hblanks, Bool.false_and]

theorem normalAll_joinTexts {ts : List Tree} (h : NormalAll o (toNodeAll ts)) :
    NormalAll o (toNodeAll (joinTexts ts)) := by
  induction ts with
  | nil => exact h
  | cons t ts ih =>
    rw [joinTexts_cons]
    exact normalAll_prependTree h.1 (ih h.2)

/-- The names of attributes are those of the pairs that they come from. -/
theorem map_name_toNode (pairs : List (String × String)) :
    (pairs.map fun a => ({ name := a.1, value := a.2 } : Attribute)).map (·.name) =
      pairs.map (·.1) := by
  rw [List.map_map]
  rfl

/-- An element of joined attributes and joined texts is normal, if what it is made of is. -/
theorem normal_element (name : String) (attributes : List Attribute) {ts : List Tree}
    (h : NormalAll o (toNodeAll ts)) :
    Normal o (Tree.element name (joinAttributes attributes) (joinTexts ts)).toNode := by
  refine ⟨?_, textsApart_joinTexts ts, normalAll_joinTexts h⟩
  rw [map_name_toNode]
  exact nodup_joinAttributes attributes

mutual

theorem normalAll_image (o : Options) (n : Node) : NormalAll o (toNodeAll (image o n)) := by
  cases n with
  | element name attributes children =>
    exact ⟨normal_element name attributes (normalAll_imageAll o children), trivial⟩
  | text s =>
    rw [image]
    split_ifs with h
    · trivial
    · refine ⟨fun hblanks => ?_, trivial⟩
      rw [hblanks, Bool.true_and, Bool.not_eq_true] at h
      exact h
  | comment s =>
    rw [image]
    split_ifs with h
    · exact ⟨h, trivial⟩
    · trivial
  | fragment children => exact normalAll_imageAll o children
  | other => trivial

/-- The nodes that markup becomes are normal one by one, before texts are joined. -/
theorem normalAll_imageAll (o : Options) (ns : List Node) :
    NormalAll o (toNodeAll (imageAll o ns)) := by
  match ns with
  | [] => trivial
  | n :: ns =>
    rw [imageAll, toNodeAll_append, normalAll_append]
    exact ⟨normalAll_image o n, normalAll_imageAll o ns⟩

end

/-- **What is loaded is normal.** -/
theorem normal_load (o : Options) (root : Node) : Normal o (load o root).1.toNode := by
  rw [load_fst]
  cases root with
  | element name attributes children =>
    exact normal_element "html" attributes (normalAll_imageAll o children)
  | _ => exact ⟨List.nodup_nil, List.IsChain.nil, trivial⟩

/-! ## What is normal is its own image -/

/-- Attributes with distinct names are all kept, in their places. -/
theorem joinAttributes_of_nodup {pairs : List (String × String)} (h : (pairs.map (·.1)).Nodup) :
    joinAttributes (pairs.map fun a => { name := a.1, value := a.2 }) = pairs := by
  induction pairs using List.reverseRec with
  | nil => rfl
  | append_singleton pairs a ih =>
    rw [List.map_append, List.map_singleton, List.nodup_append] at h
    obtain ⟨hinit, -, hnew⟩ := h
    have hne : ¬ (pairs.any (·.1 == a.1)) = true := by
      rw [List.any_eq_true]
      rintro ⟨b, hb, hname⟩
      exact hnew _ (List.mem_map_of_mem hb) _ (List.mem_singleton_self _) (eq_of_beq hname)
    rw [List.map_append, List.map_singleton, joinAttributes_concat, ih hinit, setAttribute,
      if_neg hne]

/-- Where no texts stand side by side there is nothing to join. -/
theorem joinTexts_of_textsApart {ts : List Tree} (h : TextsApart (toNodeAll ts)) :
    joinTexts ts = ts := by
  induction ts with
  | nil => rfl
  | cons t ts ih =>
    obtain ⟨hfirst, hrest⟩ := List.isChain_cons.1 h
    rw [joinTexts_cons, ih hrest]
    cases t with
    | element name attributes children => rfl
    | comment s => rfl
    | text r =>
      rcases ts with _ | ⟨u, ts⟩
      · rfl
      · cases u with
        | element name attributes children => rfl
        | comment s => rfl
        | text s => exact absurd (hfirst _ rfl) (by simp [isText, toNode])

mutual

theorem image_toNode (t : Tree) (h : Normal o t.toNode) : image o t.toNode = [t] := by
  cases t with
  | element name attributes children =>
    obtain ⟨hnames, hapart, hall⟩ := h
    rw [map_name_toNode] at hnames
    rw [toNode, image, joinAttributes_of_nodup hnames, imageAll_toNodeAll children hall,
      joinTexts_of_textsApart hapart]
  | text s =>
    have hkept : (o.noBlanks && Text.blank s) ≠ true := by
      rw [Ne, Bool.and_eq_true]
      rintro ⟨hblanks, hblank⟩
      rw [h hblanks] at hblank
      cases hblank
    rw [toNode, image, if_neg hkept]
  | comment s =>
    have hkept : o.keepComments = true := h
    rw [toNode, image, if_pos hkept]

/-- **What is normal is its own image.** -/
theorem imageAll_toNodeAll (ts : List Tree) (h : NormalAll o (toNodeAll ts)) :
    imageAll o (toNodeAll ts) = ts := by
  match ts with
  | [] => rfl
  | t :: ts =>
    rw [toNodeAll, imageAll, image_toNode t h.1, imageAll_toNodeAll ts h.2]
    rfl

end

/-- An image is a document element. -/
theorem exists_imageOf_eq (o : Options) (root : Node) :
    ∃ attributes children, imageOf o root = .element "html" attributes children := by
  cases root <;> exact ⟨_, _, rfl⟩

/-- The image of what was loaded is the same tree. -/
theorem imageOf_toNode_load (o : Options) (root : Node) :
    imageOf o (load o root).1.toNode = (load o root).1 := by
  have hnormal := normal_load o root
  obtain ⟨attributes, children, hroot⟩ := exists_imageOf_eq o root
  rw [load_fst, hroot] at hnormal ⊢
  -- The root is called `html` already, so its image as a document element is its image.
  have himage : image o (Tree.element "html" attributes children).toNode =
      [imageOf o (Tree.element "html" attributes children).toNode] := rfl
  rw [image_toNode _ hnormal] at himage
  exact (List.cons.inj himage).1.symm

/-- **Loaded trees are in normal form**, and loading one again, read as markup, gives the same tree
and the same number of elements. -/
theorem load_again (o : Options) (root : Node) :
    Normal o (load o root).1.toNode ∧ load o (load o root).1.toNode = load o root := by
  have htree : (load o (load o root).1.toNode).1 = (load o root).1 := by
    rw [load_fst, imageOf_toNode_load]
  refine ⟨normal_load o root, Prod.ext htree ?_⟩
  rw [← elementCount_load, htree, elementCount_load]

end MarkupQuery.Document
