import Mathlib.Data.List.Basic
import MarkupQuery.XPath.Lexer

/-!
# Tokens one by one

A text is cut into given tokens (`Lexer.Cuts`) if it is with any fuel that its length does not
exceed. So a text can be taken apart from the front: its first token, and what is behind it. The
rules here are for blanks, punctuation, names (`cuts_name`) and string literals, whose quotes are
doubled in the text (`cuts_string`).
-/

namespace MarkupQuery.XPath

/-! ## Characters of names -/

theorem isAlpha_iff {c : Char} :
    c.isAlpha = true ↔
      (0x41 ≤ c.toNat ∧ c.toNat ≤ 0x5A) ∨ (0x61 ≤ c.toNat ∧ c.toNat ≤ 0x7A) := by
  have hupper : c.isUpper = decide ('A'.val ≤ c.val ∧ c.val ≤ 'Z'.val) := rfl
  have hlower : c.isLower = (decide ('a'.val ≤ c.val) && decide (c.val ≤ 'z'.val)) := rfl
  have halpha : c.isAlpha = (c.isUpper || c.isLower) := rfl
  rw [halpha, hupper, hlower, Bool.or_eq_true, Bool.and_eq_true, decide_eq_true_eq,
    decide_eq_true_eq, decide_eq_true_eq]
  simp only [UInt32.le_iff_toNat_le]
  exact Iff.rfl

theorem isDigit_iff {c : Char} : c.isDigit = true ↔ 0x30 ≤ c.toNat ∧ c.toNat ≤ 0x39 := by
  have hdigit : c.isDigit = (decide ('0'.val ≤ c.val) && decide (c.val ≤ '9'.val)) := rfl
  rw [hdigit, Bool.and_eq_true, decide_eq_true_eq, decide_eq_true_eq]
  simp only [UInt32.le_iff_toNat_le]
  exact Iff.rfl

/-- A character that begins a name is a letter, the underscore, or beyond ASCII. -/
theorem of_isNameStart {c : Char} (h : isNameStart c = true) :
    c.isAlpha = true ∨ c = '_' ∨ 0xC0 ≤ c.toNat := by
  simp only [isNameStart, Bool.or_eq_true, decide_eq_true_eq] at h
  rcases h with (halpha | hunderscore) | hrange
  · exact .inl halpha
  · exact .inr (.inl hunderscore)
  · refine .inr (.inr ?_)
    simp [Text.inRanges, nameStartRanges] at hrange
    omega

theorem not_isDigit_of_isNameStart {c : Char} (h : isNameStart c = true) : c.isDigit = false := by
  by_contra hnot
  have hdigit := isDigit_iff.1 (by simpa using hnot)
  rcases of_isNameStart h with halpha | rfl | hrange
  · have := isAlpha_iff.1 halpha
    omega
  · exact absurd hdigit (by decide)
  · omega

theorem isNameChar_of_isNameStart {c : Char} (h : isNameStart c = true) : isNameChar c = true := by
  simp [isNameChar, h]

/-- A name begins with a character that a name may begin with; the others may stand in names. -/
theorem exists_cons_of_isName {s : String} (h : isName s = true) :
    ∃ c cs, s.toList = c :: cs ∧ isNameStart c = true ∧ ∀ d ∈ s.toList, isNameChar d = true := by
  rw [isName] at h
  cases hs : s.toList with
  | nil => simp [hs] at h
  | cons c cs =>
    simp only [hs, Bool.and_eq_true, List.all_eq_true] at h
    refine ⟨c, cs, rfl, h.1, fun d hd => ?_⟩
    rcases List.mem_cons.1 hd with rfl | hd
    · exact isNameChar_of_isNameStart h.1
    · exact h.2 d hd

/-! ## Names without colons -/

/-- The characters that a name without colons may begin with. -/
def ncNameStartRanges : List Text.Range :=
  [(0x41, 0x5A), (0x5F, 0x5F), (0x61, 0x7A), (0xC0, 0xD6), (0xD8, 0xF6), (0xF8, 0x2FF),
   (0x370, 0x37D), (0x37F, 0x1FFF), (0x200C, 0x200D), (0x2070, 0x218F), (0x2C00, 0x2FEF),
   (0x3001, 0xD7FF), (0xF900, 0xFDCF), (0xFDF0, 0xFFFD), (0x10000, 0xEFFFF)]

/-- The other characters that a name without colons may hold. -/
def ncNameRestRanges : List Text.Range :=
  [(0x2D, 0x2E), (0x30, 0x39), (0xB7, 0xB7), (0x300, 0x36F), (0x203F, 0x2040)]

/-- Whether a text is a name without colons, as markup has them. -/
def isNCName (s : String) : Bool :=
  match s.toList with
  | [] => false
  | c :: cs => Text.inRanges ncNameStartRanges c &&
      cs.all (Text.inRanges (ncNameStartRanges ++ ncNameRestRanges))

theorem isNameStart_of_ncName {c : Char} (h : Text.inRanges ncNameStartRanges c = true) :
    isNameStart c = true := by
  have hunderscore : c = '_' ↔ c.toNat = 0x5F := Char.toNat_inj.symm
  simp only [isNameStart, Bool.or_eq_true, decide_eq_true_eq, isAlpha_iff, hunderscore]
  simp only [Text.inRanges, ncNameStartRanges, nameStartRanges, List.any_cons, List.any_nil,
    Bool.or_eq_true, Bool.and_eq_true, decide_eq_true_eq, Bool.or_false] at h ⊢
  omega

theorem isNameChar_of_ncName {c : Char}
    (h : Text.inRanges (ncNameStartRanges ++ ncNameRestRanges) c = true) :
    isNameChar c = true := by
  have hminus : c = '-' ↔ c.toNat = 0x2D := Char.toNat_inj.symm
  have hpoint : c = '.' ↔ c.toNat = 0x2E := Char.toNat_inj.symm
  rw [Text.inRanges, List.any_append, Bool.or_eq_true] at h
  simp only [isNameChar, Bool.or_eq_true, decide_eq_true_eq, isDigit_iff, hminus, hpoint]
  rcases h with h | h
  · exact .inl (.inl (.inl (.inl (isNameStart_of_ncName h))))
  · simp only [Text.inRanges, ncNameRestRanges, nameRestRanges, List.any_cons, List.any_nil,
      Bool.or_eq_true, Bool.and_eq_true, decide_eq_true_eq, Bool.or_false] at h ⊢
    omega

/-- Names without colons are names of expressions. -/
theorem isName_of_isNCName {s : String} (h : isNCName s = true) : isName s = true := by
  rw [isNCName] at h
  rw [isName]
  cases hs : s.toList with
  | nil => simp [hs] at h
  | cons c cs =>
    simp only [hs, Bool.and_eq_true, List.all_eq_true] at h ⊢
    exact ⟨isNameStart_of_ncName h.1, fun d hd => isNameChar_of_ncName (h.2 d hd)⟩

namespace Lexer

/-! ## Cutting -/

/-- A text is cut into tokens, with any fuel that its length does not exceed. -/
def Cuts (cs : List Char) (tokens : List Token) : Prop :=
  ∀ fuel, cs.length ≤ fuel → lexUpTo fuel cs = tokens

theorem lex_of_cuts {s : String} {tokens : List Token} (h : Cuts s.toList tokens) :
    lex s = tokens :=
  h s.length (Nat.le_of_eq (String.length_toList))

theorem cuts_nil : Cuts [] [] := by
  intro fuel _
  cases fuel <;> rfl

/-- The first token of a text, and what is behind it. -/
theorem cuts_cons {c : Char} {cs rest : List Char} {token : Token} {tokens : List Token}
    (hcomment : c ≠ '(') (hblank : isBlank c = false) (hfirst : first (c :: cs) = (token, rest))
    (hgood : token ≠ .bad) (hshorter : rest.length ≤ cs.length) (h : Cuts rest tokens) :
    Cuts (c :: cs) (token :: tokens) := by
  intro fuel hfuel
  cases fuel with
  | zero => simp at hfuel
  | succ fuel =>
    rw [List.length_cons] at hfuel
    have hrest := h fuel (by omega)
    rw [lexUpTo]
    · simp [hblank, hfirst, hrest]
    · intro more hc
      exact absurd hc hcomment

theorem cuts_blank {cs : List Char} {tokens : List Token} (h : Cuts cs tokens) :
    Cuts (' ' :: cs) tokens := by
  intro fuel hfuel
  cases fuel with
  | zero => simp at hfuel
  | succ fuel =>
    rw [List.length_cons] at hfuel
    exact h fuel (by omega)

/-! ## Punctuation -/

variable {cs : List Char} {tokens : List Token}

theorem cuts_slashSlash (h : Cuts cs tokens) : Cuts ('/' :: '/' :: cs) (.slashSlash :: tokens) :=
  cuts_cons (by decide) rfl rfl (by simp) (by simp) h

theorem cuts_slash (hcs : cs.head? ≠ some '/') (h : Cuts cs tokens) :
    Cuts ('/' :: cs) (.slash :: tokens) := by
  have hfirst : first ('/' :: cs) = (.slash, cs) := by
    cases cs with
    | nil => rfl
    | cons c cs =>
      have hc : c ≠ '/' := by simpa using hcs
      change punctuation ('/' :: c :: cs) = _
      simp [punctuation, hc]
  exact cuts_cons (by decide) rfl hfirst (by simp) (Nat.le_refl _) h

theorem cuts_equals (hcs : cs.head? ≠ some '>') (h : Cuts cs tokens) :
    Cuts ('=' :: cs) (.equals :: tokens) := by
  have hfirst : first ('=' :: cs) = (.equals, cs) := by
    cases cs with
    | nil => rfl
    | cons c cs =>
      have hc : c ≠ '>' := by simpa using hcs
      change punctuation ('=' :: c :: cs) = _
      simp [punctuation, hc]
  exact cuts_cons (by decide) rfl hfirst (by simp) (Nat.le_refl _) h

theorem cuts_star (hcs : cs.head? ≠ some ':') (h : Cuts cs tokens) :
    Cuts ('*' :: cs) (.star :: tokens) := by
  have hfirst : first ('*' :: cs) = (.star, cs) := by
    cases cs with
    | nil => rfl
    | cons c cs =>
      have hc : c ≠ ':' := by simpa using hcs
      have hstart : isNameStart '*' = false := rfl
      simp [first, hstart, punctuation, hc]
  exact cuts_cons (by decide) rfl hfirst (by simp) (Nat.le_refl _) h

theorem cuts_at (h : Cuts cs tokens) : Cuts ('@' :: cs) (.at :: tokens) :=
  cuts_cons (by decide) rfl rfl (by simp) (Nat.le_refl _) h

theorem cuts_openBracket (h : Cuts cs tokens) : Cuts ('[' :: cs) (.openBracket :: tokens) :=
  cuts_cons (by decide) rfl rfl (by simp) (Nat.le_refl _) h

theorem cuts_closeBracket (h : Cuts cs tokens) : Cuts (']' :: cs) (.closeBracket :: tokens) :=
  cuts_cons (by decide) rfl rfl (by simp) (Nat.le_refl _) h

/-! ## Names -/

/-- Whether a name ends before a text: what comes is no character of a name, nor a colon or an
opening brace, which could make the name a part of a longer one. -/
def endsName : List Char → Bool
  | [] => true
  | c :: _ => !isNameChar c && c != ':' && c != '\x7b'

theorem nameAt_append {s : String} (hs : isName s = true) (hcs : endsName cs = true) :
    nameAt (s.toList ++ cs) = (s, cs) := by
  obtain ⟨-, -, -, -, hall⟩ := exists_cons_of_isName hs
  have hstop : cs.takeWhile isNameChar = [] ∧ cs.dropWhile isNameChar = cs := by
    cases cs with
    | nil => exact ⟨rfl, rfl⟩
    | cons c cs =>
      have hc : isNameChar c = false := by
        simp only [endsName, Bool.and_eq_true, Bool.not_eq_true'] at hcs
        exact hcs.1.1
      simp [hc]
  simp [nameAt, span, List.takeWhile_append_of_pos hall, List.dropWhile_append_of_pos hall, hstop]

theorem nameToken_append {s : String} (hs : isName s = true) (hcs : endsName cs = true) :
    nameToken (s.toList ++ cs) = (.name s, cs) := by
  rw [nameToken, nameAt_append hs hcs]
  cases cs with
  | nil => rfl
  | cons c cs =>
    simp only [endsName, Bool.and_eq_true, bne_iff_ne] at hcs
    simp only
    split
    · rename_i heq
      exact absurd (List.cons.inj heq).1 hcs.1.2
    · rename_i heq
      exact absurd (List.cons.inj heq).1 hcs.1.2
    · rename_i heq
      exact absurd (List.cons.inj heq).1 hcs.2
    · rfl

/-- **A name** is read as far as it goes. -/
theorem cuts_name {s : String} (hs : isName s = true) (hcs : endsName cs = true)
    (h : Cuts cs tokens) : Cuts (s.toList ++ cs) (.name s :: tokens) := by
  have htoken := nameToken_append hs hcs
  obtain ⟨c, ds, hlist, hstart, -⟩ := exists_cons_of_isName hs
  rw [hlist, List.cons_append] at htoken ⊢
  have hne : ∀ d, isNameStart d = false → c ≠ d := by
    rintro d hd rfl
    exact absurd hstart (by simp [hd])
  have hfirst : first (c :: (ds ++ cs)) = (.name s, cs) := by
    simp [first, hne '"' rfl, hne '\'' rfl, not_isDigit_of_isNameStart hstart, hstart, htoken]
  have hblank : isBlank c = false := by
    simp [isBlank, hne ' ' rfl, hne '\t' rfl, hne '\r' rfl, hne '\n' rfl]
  exact cuts_cons (hne '(' rfl) hblank hfirst (by simp) (by simp) h

/-! ## String literals -/

/-- A text with one of its characters doubled. -/
def doubled (quote : Char) (cs : List Char) : List Char :=
  cs.flatMap fun c => if c = quote then [c, c] else [c]

/-- Reading a string literal undoes the doubling of quotes. -/
theorem stringEnd_doubled (quote : Char) (read value : List Char)
    (hcs : cs.head? ≠ some quote) :
    stringEnd quote read (doubled quote value ++ quote :: cs) =
      some (String.ofList (read.reverse ++ value), cs) := by
  induction value generalizing read with
  | nil =>
    cases cs with
    | nil => simp [doubled, stringEnd]
    | cons c cs =>
      have hc : c ≠ quote := by simpa using hcs
      simp [doubled, stringEnd, hc]
  | cons c value ih =>
    have hread := ih (c :: read)
    rw [doubled] at hread ⊢
    rw [List.flatMap_cons]
    by_cases hc : c = quote
    · subst hc
      simpa [stringEnd] using hread
    · rw [if_neg hc, List.cons_append, List.cons_append, stringEnd.eq_def]
      simpa [hc] using hread

/-- **A string literal** between single quotes. -/
theorem cuts_string {value : String} (hcs : cs.head? ≠ some '\'') (h : Cuts cs tokens) :
    Cuts ('\'' :: (doubled '\'' value.toList ++ '\'' :: cs)) (.string value :: tokens) := by
  have hend := stringEnd_doubled '\'' [] value.toList hcs
  rw [List.reverse_nil, List.nil_append, String.ofList_toList] at hend
  have hfirst :
      first ('\'' :: (doubled '\'' value.toList ++ '\'' :: cs)) = (.string value, cs) := by
    simp [first, hend]
  refine cuts_cons (by decide) rfl hfirst (by simp) ?_ h
  simp only [List.length_append, List.length_cons]
  omega

end Lexer

end MarkupQuery.XPath
