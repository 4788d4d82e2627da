import Mathlib.Data.List.TakeWhile
import MarkupQuery.Proofs.XPath.Tokens

/-!
# What a token takes from a text

Each token takes a part off the front of a text and leaves the rest (`Passes`). So any fuel that the
length of the text does not exceed gives the same tokens (`cuts_lex`), and the single quotes of a
text can be counted token by token: a literal takes an even number of them, and other tokens take
none, but for comments, literals in double quotes and namespaces in braces. A text without these
(`Tame`) whose quotes are odd in number is not cut without fault (`bad_mem_lexUpTo`).
-/

namespace MarkupQuery.XPath.Lexer

/-! ## Parts of a text -/

/-- A text goes on with another behind a part in which a single quote stands only if an opening
brace does. -/
def Passes (cs rest : List Char) : Prop :=
  ∃ used, cs = used ++ rest ∧ ('\'' ∈ used → '\x7b' ∈ used)

variable {c : Char} {cs more rest : List Char} {token : Token}

theorem Passes.refl (cs : List Char) : Passes cs cs :=
  ⟨[], rfl, by simp⟩

theorem Passes.trans (h : Passes cs more) (h' : Passes more rest) : Passes cs rest := by
  obtain ⟨used, rfl, hused⟩ := h
  obtain ⟨used', rfl, hused'⟩ := h'
  refine ⟨used ++ used', (List.append_assoc ..).symm, fun hquote => ?_⟩
  rcases List.mem_append.1 hquote with hquote | hquote
  · exact List.mem_append_left _ (hused hquote)
  · exact List.mem_append_right _ (hused' hquote)

theorem passes_cons (hc : c ≠ '\'') : Passes (c :: cs) cs :=
  ⟨[c], rfl, fun hquote => absurd (List.mem_singleton.1 hquote).symm hc⟩

theorem Passes.cons (hc : c ≠ '\'') (h : Passes cs rest) : Passes (c :: cs) rest :=
  (passes_cons hc).trans h

theorem Passes.length_le (h : Passes cs rest) : rest.length ≤ cs.length := by
  obtain ⟨used, rfl, -⟩ := h
  simp

/-- Characters of a kind that the quote is not of. -/
theorem passes_span {p : Char → Bool} (hp : p '\'' = false) (cs : List Char) :
    Passes cs (span p cs).2 := by
  refine ⟨cs.takeWhile p, List.takeWhile_append_dropWhile.symm, fun hquote => ?_⟩
  have hp' := List.mem_takeWhile_imp hquote
  rw [hp] at hp'
  cases hp'

theorem isNameChar_quote : isNameChar '\'' = false := rfl

/-! ## Numbers -/

theorem passes_exponent {e : Int} (h : exponent? cs = some (e, rest)) : Passes cs rest := by
  rw [exponent?.eq_def] at h
  split at h
  · rename_i c cs
    split at h
    · rename_i hc
      refine .cons (by rintro rfl; simp at hc) ?_
      split at h
      rename_i negative more hsign
      have hmore : Passes cs more := by
        split at hsign <;> cases hsign
        · exact passes_cons (by decide)
        · exact passes_cons (by decide)
        · exact .refl _
      have hdigits := passes_span (p := Char.isDigit) rfl more
      split at h
      · cases h
      · rename_i digits rest' hspan
        rw [hspan] at hdigits
        cases h
        exact hmore.trans hdigits
    · cases h
  · cases h

/-- Whether a fraction begins a text, its digits, and what is behind it. -/
def fraction (cs : List Char) : Bool × List Char × List Char :=
  match cs with
  | '.' :: more =>
    let (fraction, more) := span Char.isDigit more
    (true, fraction, more)
  | _ => (false, [], cs)

/-- The number of the digits before the point and of what was read behind them, and what is behind
its exponent. -/
def finish (whole : List Char) : Bool × List Char × List Char → Token × List Char
  | (hasPoint, fraction, rest) =>
    match exponent? rest with
    | some (e, rest) => (.double (double (whole ++ fraction) (e - fraction.length)), rest)
    | none =>
      if hasPoint then
        match Decimal.ofDigits? whole fraction with
        | some q => (.decimal q, rest)
        | none => (.bad, rest)
      else (.integer (Decimal.digitsValue whole), rest)

theorem number_snd (cs : List Char) :
    (number cs).2 = (finish (span Char.isDigit cs).1 (fraction (span Char.isDigit cs).2)).2 :=
  rfl

theorem passes_fraction (cs : List Char) : Passes cs (fraction cs).2.2 := by
  rw [fraction.eq_def]
  split
  · exact .cons (by decide) (passes_span rfl _)
  · exact .refl _

theorem passes_finish (whole : List Char) (f : Bool × List Char × List Char) :
    Passes f.2.2 (finish whole f).2 := by
  rw [finish.eq_def]
  dsimp only
  split
  · exact passes_exponent ‹_›
  · split
    · split <;> exact .refl _
    · exact .refl _

/-- A number goes on behind its first digit, or behind the point that it begins with. -/
theorem passes_number (hc : c.isDigit = true ∨ c = '.') : Passes cs (number (c :: cs)).2 := by
  rw [number_snd]
  have hfraction : Passes cs (fraction (span Char.isDigit (c :: cs)).2).2.2 := by
    rcases hc with hdigit | rfl
    · have hspan : (span Char.isDigit (c :: cs)).2 = (span Char.isDigit cs).2 := by
        simp [span, hdigit]
      rw [hspan]
      exact (passes_span rfl cs).trans (passes_fraction _)
    · exact passes_span rfl cs
  exact hfraction.trans (passes_finish _ _)

/-! ## Names -/

theorem passes_nameAt (cs : List Char) : Passes cs (nameAt cs).2 :=
  passes_span isNameChar_quote cs

/-- A part that begins with a brace may hold quotes. -/
theorem passes_of_suffix (h : rest <:+ cs) : Passes ('\x7b' :: cs) rest := by
  obtain ⟨used, rfl⟩ := h
  exact ⟨'\x7b' :: used, rfl, fun _ => List.mem_cons_self⟩

theorem spacedAt_suffix (h : (spacedAt cs).1 ≠ .bad) : (spacedAt cs).2 <:+ cs := by
  have hspan : (span (fun c => c != '\x7b' && c != '\x7d') cs).2 <:+ cs :=
    List.dropWhile_suffix _
  rw [spacedAt.eq_def] at h ⊢
  dsimp only at h ⊢
  split at h
  · rename_i rest hrest
    rw [hrest] at hspan
    have hrest : rest <:+ cs := (List.suffix_cons _ _).trans hspan
    split at h
    · rw [if_pos ‹_›]
      exact (List.dropWhile_suffix _).trans hrest
    · rw [if_neg ‹_›]
      split at h
      · exact (List.suffix_cons _ _).trans hrest
      · exact absurd rfl h
  · exact absurd rfl h

theorem passes_nameToken (hc : isNameStart c = true) (h : (nameToken (c :: cs)).1 ≠ .bad) :
    Passes cs (nameToken (c :: cs)).2 := by
  have hname : Passes cs (nameAt (c :: cs)).2 := by
    have hspan : (nameAt (c :: cs)).2 = (nameAt cs).2 := by
      simp [nameAt, span, isNameChar_of_isNameStart hc]
    rw [hspan]
    exact passes_nameAt cs
  rw [nameToken.eq_def] at h ⊢
  dsimp only at h ⊢
  split at h
  · rename_i more hrest
    rw [hrest] at hname
    split
    · exact hname.trans (.cons (by decide) (passes_cons (by decide)))
    · rw [hrest]
      exact hname
  · rename_i more _ hrest
    rw [hrest] at hname
    split
    · split
      · exact hname.trans (.cons (by decide) (passes_nameAt more))
      · rw [hrest]
        exact hname
    · rw [hrest]
      exact hname
  · rename_i more hrest
    rw [hrest] at hname
    split at h
    · rw [if_pos ‹_›]
      exact hname.trans (passes_of_suffix (spacedAt_suffix h))
    · rw [if_neg ‹_›, hrest]
      exact hname
  · exact hname

/-! ## Literals -/

/-- A string literal takes an odd number of quotes behind the one that it begins with: one at its
end, and two for each that it holds. -/
theorem exists_of_stringEnd {quote : Char} {read : List Char} {s : String}
    (h : stringEnd quote read cs = some (s, rest)) :
    ∃ used, cs = used ++ rest ∧ used.count quote % 2 = 1 := by
  fun_induction stringEnd quote read cs with
  | case1 => cases h
  | case2 read ds ih =>
    obtain ⟨used, rfl, hused⟩ := ih h
    refine ⟨quote :: quote :: used, rfl, ?_⟩
    rw [List.count_cons_self, List.count_cons_self]
    omega
  | case3 read d ds hd =>
    cases h
    exact ⟨[quote], rfl, by rw [List.count_singleton_self]⟩
  | case4 =>
    cases h
    exact ⟨[quote], rfl, by rw [List.count_singleton_self]⟩
  | case5 read c cs hc ih =>
    obtain ⟨used, rfl, hused⟩ := ih h
    exact ⟨c :: used, rfl, by rw [List.count_cons_of_ne hc, hused]⟩

/-! ## Tokens -/

theorem passes_punctuation (h : (punctuation cs).1 ≠ .bad) :
    Passes cs.tail (punctuation cs).2 := by
  rw [punctuation.eq_def] at h ⊢
  split at h
  all_goals first | exact .refl _ | exact passes_cons (by decide) | exact absurd rfl h

/-- A token that is no literal. -/
theorem passes_first (hdouble : c ≠ '"') (hsingle : c ≠ '\'') (h : (first (c :: cs)).1 ≠ .bad) :
    Passes cs (first (c :: cs)).2 := by
  rw [first.eq_def] at h ⊢
  dsimp only at h ⊢
  rw [if_neg (by simp [hdouble, hsingle])] at h ⊢
  split at h
  · rw [if_pos ‹_›]
    exact passes_number (.inl ‹_›)
  · rw [if_neg ‹_›]
    split at h
    · rw [if_pos ‹_›]
      exact passes_nameToken ‹_› h
    · rw [if_neg ‹_›]
      split at h
      · split at h
        · rw [if_pos ‹_›]
          exact passes_number (.inr rfl)
        · rw [if_neg ‹_›]
          exact passes_punctuation h
      · split
        · split
          · exact .cons (by decide) (passes_nameAt _)
          · exact .refl _
        · exact .refl _
      · exact passes_punctuation h

/-- A literal: the quotes that it takes are an even number. -/
theorem exists_of_first_quote {quote : Char} (hquote : quote = '"' ∨ quote = '\'')
    (h : (first (quote :: cs)).1 ≠ .bad) :
    ∃ used, cs = used ++ (first (quote :: cs)).2 ∧ used.count quote % 2 = 1 := by
  have hquoted : (decide (quote = '"') || decide (quote = '\'')) = true := by simpa using hquote
  cases hend : stringEnd quote [] cs with
  | none =>
    have hfirst : first (quote :: cs) = (.bad, []) := by
      rw [first.eq_def]
      simp only [hquoted, if_true, hend]
    exact absurd (congrArg Prod.fst hfirst) h
  | some found =>
    have hfirst : first (quote :: cs) = (.string found.1, found.2) := by
      rw [first.eq_def]
      simp only [hquoted, if_true, hend]
    rw [hfirst]
    exact exists_of_stringEnd hend

/-- Each token is taken from the front. -/
theorem length_first_le (h : (first (c :: cs)).1 ≠ .bad) :
    (first (c :: cs)).2.length ≤ cs.length := by
  by_cases hquote : c = '"' ∨ c = '\''
  · obtain ⟨used, hused, -⟩ := exists_of_first_quote hquote h
    have hlength := congrArg List.length hused
    rw [List.length_append] at hlength
    omega
  · exact (passes_first (fun hc => hquote (.inl hc)) (fun hc => hquote (.inr hc)) h).length_le

/-! ## Fuel -/

theorem length_commentEnd_le {depth : Nat} (h : commentEnd depth cs = some rest) :
    rest.length ≤ cs.length := by
  fun_induction commentEnd depth cs with
  | case1 => cases h
  | case2 depth cs ih =>
    have := ih h
    simp only [List.length_cons]
    omega
  | case3 cs =>
    cases h
    simp only [List.length_cons]
    omega
  | case4 depth cs ih =>
    have := ih h
    simp only [List.length_cons]
    omega
  | case5 depth c cs _ _ _ ih =>
    have := ih h
    simp only [List.length_cons]
    omega

/-- The tokens of a text that begins with neither a comment nor a blank. -/
theorem lexUpTo_cons (fuel : Nat) (hcomment : ∀ more, c = '(' → cs ≠ ':' :: more)
    (hblank : isBlank c = false) :
    lexUpTo (fuel + 1) (c :: cs) =
      if (first (c :: cs)).1 = .bad then [.bad]
      else (first (c :: cs)).1 :: lexUpTo fuel (first (c :: cs)).2 := by
  rw [lexUpTo.eq_4 _ _ _ hcomment, hblank, if_neg (by simp)]
  split
  · rename_i hfirst
    rw [hfirst, if_pos rfl]
  · rename_i hgood hfirst
    rw [hfirst, if_neg hgood]

/-- Fuel that the length of a text does not exceed is as good as any such fuel. -/
theorem lexUpTo_eq {fuel fuel' : Nat} (h : cs.length ≤ fuel) (h' : cs.length ≤ fuel') :
    lexUpTo fuel cs = lexUpTo fuel' cs := by
  induction fuel generalizing cs fuel' with
  | zero =>
    obtain rfl := List.length_eq_zero_iff.1 (Nat.le_zero.1 h)
    cases fuel' <;> rfl
  | succ fuel ih =>
    cases cs with
    | nil => cases fuel' <;> rfl
    | cons c cs =>
      rw [List.length_cons] at h h'
      obtain ⟨fuel', rfl⟩ := Nat.exists_eq_add_of_le' (show 1 ≤ fuel' by omega)
      have hless {rest : List Char} (hrest : rest.length ≤ cs.length) :
          lexUpTo fuel rest = lexUpTo fuel' rest := ih (by omega) (by omega)
      by_cases hcomment : ∃ more, c = '(' ∧ cs = ':' :: more
      · obtain ⟨more, rfl, rfl⟩ := hcomment
        rw [lexUpTo, lexUpTo]
        cases hend : commentEnd 0 more with
        | none => rfl
        | some rest => exact hless ((length_commentEnd_le hend).trans (by simp))
      · have hnot : ∀ more, c = '(' → cs ≠ ':' :: more :=
          fun more hc hcs => hcomment ⟨more, hc, hcs⟩
        cases hblank : isBlank c with
        | true =>
          rw [lexUpTo.eq_4 _ _ _ hnot, lexUpTo.eq_4 _ _ _ hnot, hblank]
          exact hless le_rfl
        | false =>
          rw [lexUpTo_cons _ hnot hblank, lexUpTo_cons _ hnot hblank]
          split_ifs with hbad
          · rfl
          · rw [hless (length_first_le hbad)]

/-- **The tokens of a text**, with any fuel. -/
theorem cuts_lex (s : String) : Cuts s.toList (lex s) :=
  fun _ hfuel => lexUpTo_eq hfuel (Nat.le_of_eq String.length_toList)

/-! ## Counting quotes -/

/-- Whether a comment opens somewhere in a text. -/
def opensComment : List Char → Bool
  | [] => false
  | c :: cs => (c = '(' && cs.head? = some ':') || opensComment cs

/-- A text in which single quotes can only stand in literals between single quotes. -/
structure Tame (cs : List Char) : Prop where
  double : '"' ∉ cs
  brace : '\x7b' ∉ cs
  comment : opensComment cs = false

theorem Tame.of_cons (h : Tame (c :: cs)) : Tame cs where
  double hmem := h.double (List.mem_cons_of_mem c hmem)
  brace hmem := h.brace (List.mem_cons_of_mem c hmem)
  comment := (Bool.or_eq_false_iff.1 h.comment).2

theorem Tame.of_append {used : List Char} (h : Tame (used ++ rest)) : Tame rest := by
  induction used with
  | nil => exact h
  | cons c used ih => exact ih h.of_cons

/-- A text stays tame between single quotes. -/
theorem Tame.quoted (h : Tame cs) : Tame ('\'' :: (cs ++ ['\'', ']'])) where
  double := by simp [h.double]
  brace := by simp [h.brace]
  comment := by
    have happend : opensComment (cs ++ ['\'', ']']) = opensComment cs := by
      clear h
      induction cs with
      | nil => rfl
      | cons c cs ih =>
        rw [List.cons_append, opensComment, opensComment, ih]
        cases cs <;> simp
    rw [opensComment, happend, h.comment]
    rfl

/-- In a tame text each token takes an even number of single quotes. -/
theorem count_first (h : Tame (c :: cs)) (hgood : (first (c :: cs)).1 ≠ .bad) :
    ∃ used, cs = used ++ (first (c :: cs)).2 ∧ (c :: used).count '\'' % 2 = 0 := by
  by_cases hquote : c = '\''
  · subst hquote
    obtain ⟨used, hused, hodd⟩ := exists_of_first_quote (.inr rfl) hgood
    refine ⟨used, hused, ?_⟩
    rw [List.count_cons_self]
    omega
  · have hdouble : c ≠ '"' := by
      rintro rfl
      exact h.double List.mem_cons_self
    obtain ⟨used, hused, hfree⟩ := passes_first hdouble hquote hgood
    have hbrace : '\x7b' ∉ used := by
      intro hmem
      refine h.of_cons.brace ?_
      rw [hused]
      exact List.mem_append_left _ hmem
    refine ⟨used, hused, ?_⟩
    rw [List.count_cons_of_ne hquote, List.count_eq_zero_of_not_mem (mt hfree hbrace)]

/-- **A tame text with an odd number of single quotes is not cut without fault.** -/
theorem bad_mem_lexUpTo {fuel : Nat} (hfuel : cs.length ≤ fuel) (h : Tame cs)
    (hodd : cs.count '\'' % 2 = 1) : .bad ∈ lexUpTo fuel cs := by
  induction fuel generalizing cs with
  | zero =>
    obtain rfl := List.length_eq_zero_iff.1 (Nat.le_zero.1 hfuel)
    cases hodd
  | succ fuel ih =>
    cases cs with
    | nil => cases hodd
    | cons c cs =>
      rw [List.length_cons] at hfuel
      have hnot : ∀ more, c = '(' → cs ≠ ':' :: more := by
        rintro more rfl rfl
        exact absurd h.comment (by simp [opensComment])
      cases hblank : isBlank c with
      | true =>
        have hquote : c ≠ '\'' := by
          rintro rfl
          cases hblank
        rw [List.count_cons_of_ne hquote] at hodd
        rw [lexUpTo.eq_4 _ _ _ hnot, hblank]
        exact ih (by omega) h.of_cons hodd
      | false =>
        rw [lexUpTo_cons _ hnot hblank]
        split_ifs with hbad
        · exact List.mem_singleton_self _
        · obtain ⟨used, hused, heven⟩ := count_first h hbad
          have hrest := h.of_cons
          rw [hused] at hrest
          have hcount : (c :: cs).count '\'' =
              (c :: used).count '\'' + (first (c :: cs)).2.count '\'' := by
            rw [← List.count_append, List.cons_append, ← hused]
          refine List.mem_cons_of_mem _ (ih ?_ hrest.of_append (by omega))
          exact (length_first_le hbad).trans (by omega)

end MarkupQuery.XPath.Lexer
