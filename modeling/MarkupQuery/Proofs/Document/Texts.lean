import MarkupQuery.Proofs.Document.Content
import MarkupQuery.Proofs.Document.Rows

/-!
# Texts of elements

The text of a node is that of all texts below it, in order; comments do not count (`Tree.content`,
`Table.text_number`). In a loaded tree these are the texts that markup has there (`textsAll`) but
for those that the options drop, whatever became of the comments between them
(`Tree.contentAll_imageAll`). So loading with other options changes the text of an element by white
space at most, and if blank texts are treated alike, not at all (`sameText_imageAll`).
-/

namespace MarkupQuery.Document

open MarkupQuery.Html (Node)

/-! ## The text of a tree -/

namespace Tree

mutual

/-- The texts of a tree, joined. -/
def content : Tree → String
  | .element _ _ children => contentAll children
  | .text s => s
  | .comment _ => ""

/-- The texts of a list of trees, joined. -/
def contentAll : List Tree → String
  | [] => ""
  | t :: ts => content t ++ contentAll ts

end

theorem contentAll_append (ts us : List Tree) :
    contentAll (ts ++ us) = contentAll ts ++ contentAll us := by
  induction ts with
  | nil => exact String.empty_append.symm
  | cons t ts ih => simp only [List.cons_append, contentAll, ih, String.append_assoc]

theorem contentAll_prependTree (t : Tree) (ts : List Tree) :
    contentAll (prependTree t ts) = content t ++ contentAll ts := by
  cases t with
  | text s =>
    rcases ts with _ | ⟨u, ts⟩
    · rfl
    · cases u <;> simp [prependTree, contentAll, content, String.append_assoc]
  | element name attributes children => rfl
  | comment s => rfl

/-- Joining texts keeps the text. -/
theorem contentAll_joinTexts (ts : List Tree) : contentAll (joinTexts ts) = contentAll ts := by
  induction ts with
  | nil => rfl
  | cons t ts ih => rw [joinTexts_cons, contentAll_prependTree, ih, contentAll]

end Tree

/-! ## The text of a place -/

/-- What a node adds to the text of those above it. -/
def Kind.ownText : Kind → String
  | .text s => s
  | _ => ""

namespace Place

/-- The text of a place: its own, or that of all texts below it. -/
def text : Place → String
  | document root => root.content
  | inner _ (.element _ _ children) => Tree.contentAll children
  | inner _ (.text s) => s
  | inner _ (.comment s) => s

mutual

theorem join_listing (n : Nat) (t : Tree) :
    String.join ((listing n t).map fun x => x.kind.ownText) = t.content := by
  cases t with
  | element name attributes children =>
    rw [listing, List.map_cons, String.join_cons, join_listingAll, Tree.content]
    exact String.empty_append
  | text s => simp [listing, Kind.ownText, kind, Tree.content]
  | comment s => simp [listing, Kind.ownText, kind, Tree.content]

theorem join_listingAll (n : Nat) (ts : List Tree) :
    String.join ((listingAll n ts).map fun x => x.kind.ownText) = Tree.contentAll ts := by
  match ts with
  | [] => rfl
  | t :: ts =>
    rw [listingAll, List.map_append, String.join_append, join_listing, join_listingAll,
      Tree.contentAll]

end

end Place

/-- **The text of a node** is that of its place. -/
theorem Table.text_number {t : Table} {x : Place} (h : t.Lists x) : t.text x.number = x.text := by
  have hbelow : (t.descendants x.number).map (fun m => (t.kind m).ownText) =
      x.below.map fun y => y.kind.ownText := by
    rw [descendants_number h, List.map_map]
    refine List.map_congr_left fun y hy => ?_
    rw [Function.comp_apply, kind_number (lists_of_mem_below h hy)]
  have hjoin := congrArg String.join hbelow
  rw [Table.text, kind_number h]
  cases x with
  | document root => exact hjoin.trans (Place.join_listing 1 root)
  | inner n tree =>
    cases tree with
    | element name attributes children => exact hjoin.trans (Place.join_listingAll _ children)
    | text s => rfl
    | comment s => rfl

/-! ## The texts of markup -/

mutual

/-- The texts that markup has in a node, in order. -/
def texts : Node → List String
  | .element _ _ children => textsAll children
  | .fragment children => textsAll children
  | .text s => [s]
  | .comment _ => []
  | .other => []

/-- The texts that markup has in a list of nodes, in order. -/
def textsAll : List Node → List String
  | [] => []
  | n :: ns => texts n ++ textsAll ns

end

/-- Whether a text is kept. -/
def Options.keepsText (o : Options) (s : String) : Bool :=
  !(o.noBlanks && Text.blank s)

mutual

theorem Tree.contentAll_image (o : Options) (n : Node) :
    Tree.contentAll (image o n) = String.join ((texts n).filter o.keepsText) := by
  cases n with
  | element name attributes children =>
    simp only [image, Tree.contentAll, Tree.content, Tree.contentAll_joinTexts, texts,
      Tree.contentAll_imageAll o children, String.append_empty]
  | text s =>
    rw [image, texts]
    cases h : o.noBlanks && Text.blank s <;>
      simp [Options.keepsText, h, Tree.contentAll, Tree.content]
  | comment s =>
    rw [image, texts]
    split_ifs <;> simp [Tree.contentAll, Tree.content]
  | fragment children => exact Tree.contentAll_imageAll o children
  | other => rfl

/-- **The text of an image** is that of the texts of the markup that are kept. -/
theorem Tree.contentAll_imageAll (o : Options) (ns : List Node) :
    Tree.contentAll (imageAll o ns) = String.join ((textsAll ns).filter o.keepsText) := by
  match ns with
  | [] => rfl
  | n :: ns =>
    rw [imageAll, Tree.contentAll_append, Tree.contentAll_image o n, Tree.contentAll_imageAll o ns,
      textsAll, List.filter_append, String.join_append]

end

/-! ## Other options -/

/-- A text without its white space. -/
def withoutBlanks (s : String) : String :=
  String.ofList (s.toList.filter fun c => !Text.blankChar c)

theorem withoutBlanks_append (s r : String) :
    withoutBlanks (s ++ r) = withoutBlanks s ++ withoutBlanks r := by
  simp [withoutBlanks]

theorem withoutBlanks_of_blank {s : String} (h : Text.blank s = true) : withoutBlanks s = "" := by
  have hnone : s.toList.filter (fun c => !Text.blankChar c) = [] := by
    rw [List.filter_eq_nil_iff]
    intro c hc
    simpa using List.all_eq_true.1 h c hc
  rw [withoutBlanks, hnone, String.ofList_nil]

/-- Texts that are dropped are white space. -/
theorem withoutBlanks_join_filter (o : Options) (pieces : List String) :
    withoutBlanks (String.join (pieces.filter o.keepsText)) =
      withoutBlanks (String.join pieces) := by
  induction pieces with
  | nil => rfl
  | cons s pieces ih =>
    rw [String.join_cons, withoutBlanks_append, ← ih]
    cases hkeeps : o.keepsText s with
    | true =>
      rw [List.filter_cons_of_pos (by simp [hkeeps]), String.join_cons, withoutBlanks_append]
    | false =>
      have hblank : Text.blank s = true := by
        rw [Options.keepsText, Bool.not_eq_false', Bool.and_eq_true] at hkeeps
        exact hkeeps.2
      rw [List.filter_cons_of_neg (by simp [hkeeps]), withoutBlanks_of_blank hblank,
        String.empty_append]

/-- Texts that loading with two options makes of the same markup: they are the same up to white
space, and the same if blank texts are treated alike. -/
structure SameText (o₁ o₂ : Options) (s₁ s₂ : String) : Prop where
  withoutBlanks : withoutBlanks s₁ = withoutBlanks s₂
  eq : o₁.noBlanks = o₂.noBlanks → s₁ = s₂

/-- **Loading with other options keeps the text**, up to white space. -/
theorem sameText_imageAll (o₁ o₂ : Options) (ns : List Node) :
    SameText o₁ o₂ (Tree.contentAll (imageAll o₁ ns)) (Tree.contentAll (imageAll o₂ ns)) := by
  rw [Tree.contentAll_imageAll, Tree.contentAll_imageAll]
  refine ⟨?_, fun hsame => ?_⟩
  · rw [withoutBlanks_join_filter, withoutBlanks_join_filter]
  · have hkeeps : o₁.keepsText = o₂.keepsText := by
      funext s
      rw [Options.keepsText, Options.keepsText, hsame]
    rw [hkeeps]

end MarkupQuery.Document
