import MarkupQuery.Proofs.XPath.Tokens
import MarkupQuery.Query.Path

/-!
# The tokens of a path

The text of a path is cut into the tokens that its selections and conditions stand for
(`cuts_path`), if its names are names and the quotes in its values are doubled
(`TagSelection.quoted`). The tokens hold the values as they are.
-/

namespace MarkupQuery.Query

open XPath (Token isName)
open XPath.Lexer

/-! ## Quotes -/

/-- A text with each single quote doubled, as it can stand between single quotes. -/
def quoted (s : String) : String :=
  String.ofList (doubled '\'' s.toList)

/-- A text without single quotes stays as it is. -/
theorem quoted_of_free {s : String} (h : '\'' ∉ s.toList) : quoted s = s := by
  have hsame : doubled '\'' s.toList = s.toList := by
    rw [doubled, List.flatMap_congr (g := fun c => [c]), List.flatMap_singleton']
    intro c hc
    have hne : c ≠ '\'' := by
      rintro rfl
      exact h hc
    exact if_neg hne
  rw [quoted, hsame, String.ofList_toList]

/-- A condition with the quotes of its value doubled. -/
def Condition.quoted (c : Condition) : Condition :=
  { c with value := c.value.map Query.quoted }

/-- A selection with the quotes of its values doubled. -/
def TagSelection.quoted (s : TagSelection) : TagSelection :=
  { s with conditions := s.conditions.map Condition.quoted }

/-! ## Tokens -/

/-- The token of the separator of an axis. -/
def Axis.token : Axis → Token
  | .descendant => .slashSlash
  | .child => .slash

/-- The token of a node test. -/
def NodeTest.token (test : NodeTest) : Token :=
  if test.text = "*" then .star else .name test.text

/-- The tokens of a condition. -/
def Condition.tokens (c : Condition) : List Token :=
  match c.value with
  | some value => [.at, .name c.name, .equals, .string value]
  | none => [.at, .name c.name]

/-- The tokens of the conditions that follow the first of a predicate. -/
def joinedTokens : List Condition → List Token
  | [] => []
  | c :: cs => .name c.join.text :: (c.tokens ++ joinedTokens cs)

/-- The tokens of a predicate. -/
def predicateTokens : List Condition → List Token
  | [] => []
  | c :: cs => .openBracket :: (c.tokens ++ (joinedTokens cs ++ [.closeBracket]))

/-- The tokens of a selection. -/
def TagSelection.tokens (s : TagSelection) : List Token :=
  s.axis.token :: s.test.token :: predicateTokens s.conditions

/-- Whether the names of a selection are names, or a star for that of a tag. -/
structure TagSelection.WellNamed (s : TagSelection) : Prop where
  test : s.test.text = "*" ∨ isName s.test.text = true
  conditions : ∀ c ∈ s.conditions, isName c.name = true

/-! ## Cutting -/

variable {rest : List Char} {tokens : List Token}

theorem cuts_condition {c : Condition} (hname : isName c.name = true)
    (hrest : rest.head? = some ' ' ∨ rest.head? = some ']') (h : Cuts rest tokens) :
    Cuts (c.quoted.text.toList ++ rest) (c.tokens ++ tokens) := by
  have hends : endsName rest = true ∧ rest.head? ≠ some '\'' := by
    cases rest with
    | nil => exact ⟨rfl, by simp⟩
    | cons d ds =>
      rcases hrest with hd | hd <;> obtain rfl := Option.some.inj hd <;> exact ⟨rfl, by simp⟩
  cases hvalue : c.value with
  | none =>
    have htext : c.quoted.text.toList ++ rest = '@' :: (c.name.toList ++ rest) := by
      simp [Condition.text, Condition.quoted, hvalue]
    rw [htext, Condition.tokens, hvalue]
    exact cuts_at (cuts_name hname hends.1 h)
  | some value =>
    have htext : c.quoted.text.toList ++ rest =
        '@' :: (c.name.toList ++
          '=' :: ('\'' :: (doubled '\'' value.toList ++ '\'' :: rest))) := by
      simp [Condition.text, Condition.quoted, hvalue, Query.quoted]
    rw [htext, Condition.tokens, hvalue]
    refine cuts_at (cuts_name hname rfl (cuts_equals ?_ (cuts_string hends.2 h)))
    simp

theorem isName_join (j : Join) : isName j.text = true := by
  cases j <;> rfl

/-- A predicate goes on with a blank or its bracket. -/
theorem head_joinedText (conditions : List Condition) (rest : List Char) :
    ((joinedText conditions).toList ++ ']' :: rest).head? = some ' ' ∨
      ((joinedText conditions).toList ++ ']' :: rest).head? = some ']' := by
  cases conditions with
  | nil => exact .inr rfl
  | cons c cs =>
    refine .inl ?_
    simp [joinedText]

theorem cuts_joined {conditions : List Condition}
    (hnames : ∀ c ∈ conditions, isName c.name = true) (h : Cuts (']' :: rest) tokens) :
    Cuts ((joinedText (conditions.map Condition.quoted)).toList ++ ']' :: rest)
      (joinedTokens conditions ++ tokens) := by
  induction conditions with
  | nil => exact h
  | cons c cs ih =>
    have hcs := ih fun d hd => hnames d (List.mem_cons_of_mem c hd)
    have hc := cuts_condition (hnames c List.mem_cons_self) (head_joinedText _ rest) hcs
    have htext : (joinedText ((c :: cs).map Condition.quoted)).toList ++ ']' :: rest =
        ' ' :: (c.join.text.toList ++ ' ' :: (c.quoted.text.toList ++
          ((joinedText (cs.map Condition.quoted)).toList ++ ']' :: rest))) := by
      simp [joinedText, Condition.quoted]
    rw [htext, joinedTokens, List.cons_append, List.append_assoc]
    exact cuts_blank (cuts_name (isName_join c.join) rfl (cuts_blank hc))

theorem cuts_predicate {conditions : List Condition}
    (hnames : ∀ c ∈ conditions, isName c.name = true) (h : Cuts rest tokens) :
    Cuts ((predicateText (conditions.map Condition.quoted)).toList ++ rest)
      (predicateTokens conditions ++ tokens) := by
  cases conditions with
  | nil => exact h
  | cons c cs =>
    have hcs := cuts_joined (fun d hd => hnames d (List.mem_cons_of_mem c hd))
      (cuts_closeBracket h)
    have hc := cuts_condition (hnames c List.mem_cons_self) (head_joinedText _ rest) hcs
    have htext : (predicateText ((c :: cs).map Condition.quoted)).toList ++ rest =
        '[' :: (c.quoted.text.toList ++
          ((joinedText (cs.map Condition.quoted)).toList ++ ']' :: rest)) := by
      simp [predicateText]
    rw [htext, predicateTokens]
    simpa using cuts_openBracket hc

theorem cuts_test {test : NodeTest} (hname : test.text = "*" ∨ isName test.text = true)
    (hrest : endsName rest = true) (h : Cuts rest tokens) :
    Cuts (test.text.toList ++ rest) (test.token :: tokens) := by
  rw [NodeTest.token]
  split_ifs with hstar
  · have hcolon : rest.head? ≠ some ':' := by
      cases rest with
      | nil => simp
      | cons c cs =>
        simp only [endsName, Bool.and_eq_true, bne_iff_ne] at hrest
        simpa using hrest.1.2
    rw [hstar]
    exact cuts_star hcolon h
  · exact cuts_name (hname.resolve_left hstar) hrest h

/-- No test begins with a slash, which would make another axis of the one before it. -/
theorem head_test {test : NodeTest} (hname : test.text = "*" ∨ isName test.text = true)
    (rest : List Char) : (test.text.toList ++ rest).head? ≠ some '/' := by
  rcases hname with hstar | hname
  · rw [hstar]
    simp
  · obtain ⟨c, cs, hlist, hstart, -⟩ := XPath.exists_cons_of_isName hname
    rw [hlist]
    rintro heq
    obtain rfl := Option.some.inj heq
    exact absurd hstart (by decide)

theorem cuts_selection {s : TagSelection} (hs : s.WellNamed)
    (hrest : rest = [] ∨ rest.head? = some '/') (h : Cuts rest tokens) :
    Cuts (s.quoted.text.toList ++ rest) (s.tokens ++ tokens) := by
  have hends : endsName ((predicateText (s.conditions.map Condition.quoted)).toList ++ rest) =
      true := by
    cases hc : s.conditions with
    | nil =>
      rcases hrest with rfl | hrest
      · rfl
      · obtain ⟨cs, rfl⟩ := List.head?_eq_some_iff.1 hrest
        rfl
    | cons c cs =>
      simp [predicateText, endsName]
      decide
  have htest := cuts_test hs.test hends (cuts_predicate hs.conditions h)
  have htext : s.quoted.text.toList ++ rest = s.axis.text.toList ++ (s.test.text.toList ++
      ((predicateText (s.conditions.map Condition.quoted)).toList ++ rest)) := by
    simp [TagSelection.text, TagSelection.quoted]
  rw [htext, TagSelection.tokens]
  cases s.axis with
  | descendant => exact cuts_slashSlash htest
  | child => exact cuts_slash (head_test hs.test _) htest

/-- The text of a path with selections begins with a slash. -/
theorem head_pathText_cons (s : TagSelection) (selections : List TagSelection) :
    (Path.text { selections := s :: selections }).toList.head? = some '/' := by
  rw [Path.text, List.foldr_cons, TagSelection.text]
  cases s.axis <;> simp [Axis.text]

theorem head_pathText (selections : List TagSelection) :
    (Path.text { selections := selections }).toList = [] ∨
      (Path.text { selections := selections }).toList.head? = some '/' := by
  cases selections with
  | nil => exact .inl rfl
  | cons s selections => exact .inr (head_pathText_cons s selections)

/-- **The text of a path is cut into its tokens.** -/
theorem cuts_path {selections : List TagSelection} (h : ∀ s ∈ selections, s.WellNamed) :
    Cuts (Path.text { selections := selections.map TagSelection.quoted }).toList
      (selections.flatMap TagSelection.tokens) := by
  induction selections with
  | nil => exact cuts_nil
  | cons s rest ih =>
    have hrest := ih fun r hr => h r (List.mem_cons_of_mem s hr)
    have hs := cuts_selection (h s List.mem_cons_self) (head_pathText _) hrest
    rw [List.flatMap_cons]
    simpa [Path.text] using hs

end MarkupQuery.Query
