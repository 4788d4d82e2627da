import Mathlib.Data.List.Basic
import MarkupQuery.Failure
import MarkupQuery.Proofs.Text.Quoted

/-!
# Texts of errors

The text of an error begins in a way of its own for each kind of error, and shows a query in quotes,
which tells where the query ends, whatever the query and the message hold. So an error can be read
back from its text (`SelectError.ofText?_text`), and errors that read the same are the same
(`SelectError.known_by_text`).
-/

namespace MarkupQuery

/-! ## The reader -/

/-- What stands behind a given beginning. -/
def behind? (beginning : String) (cs : List Char) : Option (List Char) :=
  beginning.toList.isPrefixOf? cs

namespace SelectError

/-- Reads a failure that shows its query. -/
def readFailure (beginning : String) (make : String → String → SelectError) (cs : List Char) :
    Option SelectError := do
  let rest ← behind? beginning cs
  let (query, rest) ← Text.readQuoted rest
  let message ← behind? ": " rest
  return make query (String.ofList message)

/-- Reads the text of an error. -/
def ofText? (text : String) : Option SelectError :=
  if text = "empty query: nothing was selected" then some .emptyQuery
  else
    readFailure "invalid query " .compile text.toList <|>
      readFailure "failed to evaluate " .evaluation text.toList <|>
      (behind? "failed to load document: " text.toList).map fun message =>
        .document (String.ofList message)

/-! ## Reading what was written -/

theorem behind?_append (beginning : String) (rest : List Char) :
    behind? beginning (beginning.toList ++ rest) = some rest :=
  List.isPrefixOf?_eq_some_iff_append_eq.2 rfl

/-- The characters of a failure that shows its query. -/
theorem toList_failure (beginning query message : String) :
    (beginning ++ Text.quote query ++ ": " ++ message).toList =
      beginning.toList ++ ((Text.quote query).toList ++ (": ".toList ++ message.toList)) := by
  simp only [String.toList_append, List.append_assoc]

/-- A failure is read with its query and its message. -/
theorem readFailure_text (beginning : String) (make : String → String → SelectError)
    (query message : String) :
    readFailure beginning make (beginning ++ Text.quote query ++ ": " ++ message).toList =
      some (make query message) := by
  rw [toList_failure, readFailure, behind?_append]
  simp only [Option.bind_eq_bind, Option.bind_some, Text.readQuoted_quote, behind?_append,
    String.ofList_toList]
  rfl

/-- No failure is read behind another beginning. -/
theorem readFailure_eq_none {beginning : String} {make : String → String → SelectError}
    {cs : List Char} (h : behind? beginning cs = none) : readFailure beginning make cs = none := by
  rw [readFailure, h]
  rfl

/-- A text that begins with another character is not that of an empty query. -/
theorem ne_emptyQuery_text {s : String} {c : Char} {rest : List Char} (h : s.toList = c :: rest)
    (hc : c ≠ 'e') : s ≠ "empty query: nothing was selected" := by
  rintro rfl
  rw [show "empty query: nothing was selected".toList = 'e' :: _ from rfl] at h
  exact hc (List.cons.inj h).1.symm

/-- **An error is read back from its text.** -/
theorem ofText?_text (e : SelectError) : ofText? e.text = some e := by
  cases e with
  | emptyQuery => exact if_pos rfl
  | compile query message =>
    have htext : (compile query message).text =
        "invalid query " ++ Text.quote query ++ ": " ++ message := rfl
    have hchars := toList_failure "invalid query " query message
    rw [ofText?, htext, if_neg (ne_emptyQuery_text hchars (by decide)), readFailure_text]
    rfl
  | evaluation query message =>
    have htext : (evaluation query message).text =
        "failed to evaluate " ++ Text.quote query ++ ": " ++ message := rfl
    have hchars := toList_failure "failed to evaluate " query message
    rw [ofText?, htext, if_neg (ne_emptyQuery_text hchars (by decide)), readFailure_text, hchars,
      readFailure_eq_none rfl]
    rfl
  | document message =>
    have htext : (document message).text = "failed to load document: " ++ message := rfl
    have hchars := String.toList_append (s := "failed to load document: ") (t := message)
    rw [ofText?, htext, if_neg (ne_emptyQuery_text hchars (by decide)), hchars,
      readFailure_eq_none rfl, readFailure_eq_none rfl, behind?_append, Option.map_some,
      String.ofList_toList]
    rfl

/-- **Errors are known by their texts**: each is read back from its text, with its kind, its query
and its message, so errors with the same text are the same. -/
theorem known_by_text :
    (∀ e : SelectError, ofText? e.text = some e) ∧
      ∀ e₁ e₂ : SelectError, e₁.text = e₂.text ↔ e₁ = e₂ := by
  refine ⟨ofText?_text, fun e₁ e₂ => ⟨fun h => ?_, congrArg text⟩⟩
  have hread := congrArg ofText? h
  rw [ofText?_text, ofText?_text] at hread
  exact Option.some.inj hread

end SelectError

end MarkupQuery
