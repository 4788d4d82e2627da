/-!
# Parts of texts

Texts cut at characters of a kind.
-/

namespace MarkupQuery.Text

/-- The parts of a text between characters of a kind; they may be empty. -/
def partsBetween (cut : Char → Bool) (cs : List Char) : List (List Char) :=
  cs.foldr (fun c parts =>
    if cut c then [] :: parts
    else match parts with
      | [] => [[c]]
      | part :: rest => (c :: part) :: rest) [[]]

end MarkupQuery.Text
