import Mathlib.Tactic.SplitIfs
import MarkupQuery.Text.Quoted

/-!
# Reading quoted text back

The escapes of a quoted text (`Text.quote`) have different lengths, and the text within may hold
quotes, backslashes and what looks like an escape. Still a quoted text tells where it ends and what
it quotes: each character is read off the front of what it was escaped to (`readChar_escapeChar`),
and none begins with a quote, so that the first quote that is met is the closing one
(`readQuoted_quote`). The reader knows nothing of which characters are printable.
-/

namespace MarkupQuery.Text

/-! ## Numerals -/

/-- What a hexadecimal digit stands for. -/
def hexValue (c : Char) : Nat :=
  if c.isDigit then c.toNat - '0'.toNat else c.toNat - 'a'.toNat + 10

/-- The number that hexadecimal digits stand for. -/
def ofHex (digits : List Char) : Nat :=
  digits.foldl (fun n c => 16 * n + hexValue c) 0

theorem hexValue_digitChar {n : Nat} (h : n < 16) : hexValue n.digitChar = n := by
  have hall : ∀ m < 16, hexValue m.digitChar = m := by decide
  exact hall n h

theorem ofHex_toDigits (n : Nat) : ofHex (Nat.toDigits 16 n) = n := by
  induction n using Nat.strongRecOn with
  | ind n ih =>
    rcases Nat.lt_or_ge n 16 with h | h
    · rw [Nat.toDigits_of_lt_base h]
      simp [ofHex, hexValue_digitChar h]
    · have hlast := hexValue_digitChar (Nat.mod_lt n (by decide : 0 < 16))
      have hinit := ih (n / 16) (Nat.div_lt_self (by omega) (by decide))
      rw [ofHex] at hinit
      rw [Nat.toDigits_of_base_le (by decide) h, ofHex, List.foldl_append, hinit,
        List.foldl_cons, List.foldl_nil, hlast, Nat.div_add_mod]

/-- The brace that closes a numeral is no digit. -/
theorem ne_brace_of_mem_toDigits {n : Nat} {c : Char} (h : c ∈ Nat.toDigits 16 n) :
    c ≠ '\x7d' := by
  induction n using Nat.strongRecOn with
  | ind n ih =>
    rcases Nat.lt_or_ge n 16 with hn | hn
    · rw [Nat.toDigits_of_lt_base hn, List.mem_singleton] at h
      subst h
      exact Nat.digitChar_ne '\x7d' (by decide)
    · rw [Nat.toDigits_of_base_le (by decide) hn, List.mem_append, List.mem_singleton] at h
      rcases h with h | rfl
      · exact ih (n / 16) (Nat.div_lt_self (by omega) (by decide)) h
      · exact Nat.digitChar_ne '\x7d' (by decide)

/-! ## The reader -/

/-- The character that a letter behind a backslash stands for. -/
def ofShortEscape? (e : Char) : Option Char :=
  if e = '0' then some '\x00'
  else if e = 't' then some '\t'
  else if e = 'r' then some '\r'
  else if e = 'n' then some '\n'
  else if e = '"' then some '"'
  else if e = '\\' then some '\\'
  else none

/-- Reads a character of a quoted text, escaped or as it is. -/
def readChar : List Char → Option (Char × List Char)
  | '\\' :: 'u' :: '\x7b' :: cs =>
    some (Char.ofNat (ofHex (cs.takeWhile (· ≠ '\x7d'))), (cs.dropWhile (· ≠ '\x7d')).tail)
  | '\\' :: e :: cs => (ofShortEscape? e).map fun c => (c, cs)
  | c :: cs => some (c, cs)
  | [] => none

/-- Reads characters up to the closing quote; at most `fuel` of them. -/
def readEscaped : Nat → List Char → Option (List Char × List Char)
  | 0, _ => none
  | _ + 1, '"' :: cs => some ([], cs)
  | fuel + 1, cs => do
    let (c, rest) ← readChar cs
    let (more, rest) ← readEscaped fuel rest
    return (c :: more, rest)

/-- Reads a quoted text off the front of some characters. -/
def readQuoted : List Char → Option (String × List Char)
  | '"' :: cs => (readEscaped cs.length cs).map fun read => (String.ofList read.1, read.2)
  | _ => none

/-! ## Reading what was written -/

variable {c : Char} {rest : List Char}

theorem ofShortEscape?_of_shortEscape {e : Char} (h : shortEscape c = some e) :
    ofShortEscape? e = some c := by
  rw [shortEscape] at h
  split_ifs at h <;> obtain rfl := Option.some.inj h <;> subst_vars <;> decide

/-- A letter behind a backslash announces no numeral. -/
theorem ne_of_shortEscape {e : Char} (h : shortEscape c = some e) : e ≠ 'u' := by
  rintro rfl
  have hread := ofShortEscape?_of_shortEscape h
  cases hread

theorem readChar_short {e : Char} (h : shortEscape c = some e) :
    readChar ('\\' :: e :: rest) = some (c, rest) := by
  have hu := ne_of_shortEscape h
  have hread : readChar ('\\' :: e :: rest) = (ofShortEscape? e).map fun c => (c, rest) := by
    rw [readChar]
    exact fun cs he _ => hu he
  rw [hread, ofShortEscape?_of_shortEscape h]
  rfl

/-- A numeral is read up to its brace. -/
theorem readChar_numeral :
    readChar ('\\' :: 'u' :: '\x7b' :: (Nat.toDigits 16 c.toNat ++ '\x7d' :: rest)) =
      some (c, rest) := by
  have hdigits : ∀ d ∈ Nat.toDigits 16 c.toNat, decide (d ≠ '\x7d') = true :=
    fun d hd => decide_eq_true (ne_brace_of_mem_toDigits hd)
  rw [readChar, List.takeWhile_append_of_pos hdigits, List.dropWhile_append_of_pos hdigits]
  simp [ofHex_toDigits]

theorem readChar_plain (h : c ≠ '\\') : readChar (c :: rest) = some (c, rest) := by
  rw [readChar]
  · rintro cs rfl
    exact absurd rfl h
  · rintro e cs rfl
    exact absurd rfl h

/-- A backslash never stands for itself. -/
theorem ne_backslash_of_shortEscape (h : shortEscape c = none) : c ≠ '\\' := by
  rintro rfl
  cases h

/-- **A character is read off what it was escaped to**, whatever follows. -/
theorem readChar_escapeChar (c : Char) (rest : List Char) :
    readChar (escapeChar c ++ rest) = some (c, rest) := by
  rw [escapeChar]
  cases hshort : shortEscape c with
  | some e => exact readChar_short hshort
  | none =>
    simp only
    split_ifs
    · simpa using readChar_numeral
    · exact readChar_plain (ne_backslash_of_shortEscape hshort)

/-- No character is escaped to something that begins with a quote, the quote included. -/
theorem head?_escapeChar (c : Char) (rest : List Char) :
    ∃ d ≠ '"', (escapeChar c ++ rest).head? = some d := by
  rw [escapeChar]
  cases hshort : shortEscape c with
  | some e => exact ⟨'\\', by decide, rfl⟩
  | none =>
    simp only
    split_ifs
    · exact ⟨'\\', by decide, rfl⟩
    · refine ⟨c, ?_, rfl⟩
      rintro rfl
      cases hshort

theorem length_le_length_flatMap_escapeChar (cs : List Char) :
    cs.length ≤ (cs.flatMap escapeChar).length := by
  induction cs with
  | nil => simp
  | cons c cs ih =>
    obtain ⟨d, -, hd⟩ := head?_escapeChar c []
    obtain ⟨more, hmore⟩ := List.head?_eq_some_iff.1 hd
    rw [List.append_nil] at hmore
    rw [List.flatMap_cons, hmore, List.cons_append, List.length_cons, List.length_cons,
      List.length_append]
    omega

/-- Characters are read up to the quote that closes them. -/
theorem readEscaped_flatMap (cs : List Char) {fuel : Nat} (h : cs.length < fuel) :
    readEscaped fuel (cs.flatMap escapeChar ++ '"' :: rest) = some (cs, rest) := by
  induction cs generalizing fuel with
  | nil =>
    obtain ⟨fuel, rfl⟩ := Nat.exists_eq_succ_of_ne_zero (Nat.ne_zero_of_lt h)
    rfl
  | cons c cs ih =>
    obtain ⟨fuel, rfl⟩ := Nat.exists_eq_succ_of_ne_zero (Nat.ne_zero_of_lt h)
    have hrest := ih (Nat.lt_of_succ_lt_succ h)
    obtain ⟨d, hne, hd⟩ := head?_escapeChar c (cs.flatMap escapeChar ++ '"' :: rest)
    rw [List.flatMap_cons, List.append_assoc, readEscaped, readChar_escapeChar]
    · simp [hrest]
    · rintro more hmore
      rw [hmore] at hd
      exact hne (Option.some.inj hd).symm

/-- **A quoted text is read back**, up to its closing quote, whatever follows. -/
theorem readQuoted_quote (s : String) (rest : List Char) :
    readQuoted ((quote s).toList ++ rest) = some (s, rest) := by
  have hchars : (quote s).toList ++ rest =
      '"' :: (s.toList.flatMap escapeChar ++ '"' :: rest) := by
    simp [quote]
  have hlength := length_le_length_flatMap_escapeChar s.toList
  rw [hchars, readQuoted, readEscaped_flatMap s.toList]
  · rw [Option.map_some, String.ofList_toList]
  · rw [List.length_append, List.length_cons]
    omega

end MarkupQuery.Text
