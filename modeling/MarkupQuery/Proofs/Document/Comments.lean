import MarkupQuery.Proofs.Document.Load

/-!
# Trees without comments

Where a comment is left out, the texts around it become neighbours. It makes no difference whether
other neighbours are joined before that or after (`joinTexts_dropCommentsAll`). So the image that
leaves the comments of markup out is the image that keeps them, without its comments
(`dropComments_imageOf`).
-/

namespace MarkupQuery.Document

open MarkupQuery.Html (Node)
open MarkupQuery.Document.Tree (dropComments dropCommentsAll)

/-! ## Joining before and after -/

theorem dropCommentsAll_append (ts us : List Tree) :
    dropCommentsAll (ts ++ us) = dropCommentsAll ts ++ dropCommentsAll us := by
  induction ts with
  | nil => rfl
  | cons t ts ih => cases t <;> simp [dropCommentsAll, ih]

/-- A joined text comes before others as its parts do, one by one. -/
theorem prependTree_text_append (r s : String) (ts : List Tree) :
    prependTree (.text (r ++ s)) ts = prependTree (.text r) (prependTree (.text s) ts) := by
  rcases ts with _ | ⟨t, ts⟩
  · rfl
  · cases t <;> simp [prependTree, String.append_assoc]

theorem joinTexts_dropCommentsAll_prependTree (t : Tree) (ts : List Tree) :
    joinTexts (dropCommentsAll (prependTree t ts)) = joinTexts (dropCommentsAll (t :: ts)) := by
  cases t with
  | text r =>
    rcases ts with _ | ⟨u, ts⟩
    · rfl
    · cases u with
      | text s => exact prependTree_text_append r s (joinTexts (dropCommentsAll ts))
      | element name attributes children => rfl
      | comment s => rfl
  | element name attributes children => rfl
  | comment s => rfl

/-- **Texts may be joined before comments are left out**, if they are joined again after. -/
theorem joinTexts_dropCommentsAll (ts : List Tree) :
    joinTexts (dropCommentsAll (joinTexts ts)) = joinTexts (dropCommentsAll ts) := by
  induction ts with
  | nil => rfl
  | cons t ts ih =>
    rw [joinTexts_cons, joinTexts_dropCommentsAll_prependTree]
    cases t with
    | comment s => exact ih
    | element name attributes children | text s =>
      simp only [dropCommentsAll, joinTexts_cons, ih]

/-! ## Images -/

variable (o : Options)

mutual

theorem dropCommentsAll_image (n : Node) :
    dropCommentsAll (image { o with keepComments := true } n) =
      image { o with keepComments := false } n := by
  cases n with
  | element name attributes children =>
    simp only [image, dropCommentsAll, dropComments, joinTexts_dropCommentsAll,
      dropCommentsAll_imageAll children]
  | text s =>
    rw [image, image]
    split_ifs <;> rfl
  | comment s => rfl
  | fragment children => exact dropCommentsAll_imageAll children
  | other => rfl

theorem dropCommentsAll_imageAll (ns : List Node) :
    dropCommentsAll (imageAll { o with keepComments := true } ns) =
      imageAll { o with keepComments := false } ns := by
  match ns with
  | [] => rfl
  | n :: ns =>
    rw [imageAll, dropCommentsAll_append, dropCommentsAll_image n, dropCommentsAll_imageAll ns,
      imageAll]

end

/-- **Leaving comments out while loading** is leaving them out of what is loaded. -/
theorem dropComments_imageOf (n : Node) :
    (imageOf { o with keepComments := true } n).dropComments =
      imageOf { o with keepComments := false } n := by
  cases n with
  | element name attributes children =>
    simp only [imageOf, dropComments, joinTexts_dropCommentsAll, dropCommentsAll_imageAll]
  | _ => rfl

/-- Texts on both sides of a comment become one. -/
example : (imageOf {} (.element "html" [] [.text "a", .comment "b", .text "c"])).dropComments =
    .element "html" [] [.text "ac"] := rfl

end MarkupQuery.Document
