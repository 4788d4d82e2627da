import MarkupQuery.Proofs.XPath.Success
import MarkupQuery.XPath.Parser

/-!
# Tokens of expressions

What no expression holds. A text that begins no token is in none, and behind a string literal only
some tokens can stand (`goesOn`): no further literal, no name that is no operator. `Sound` is said
of tokens that hold neither fault, and every expression is read from such tokens.

The readers take their tokens from the front, so for each of them something is said of its tokens if
the same is known of those behind: where an operand is read, its tokens are sound if those behind
may stand behind a literal (`Behind`), since the operand may end in one. What goes on behind an
operand may itself stand behind a literal (`ReadsPart`, `ReadsOperand`, `ReadsOn`). Here are the
readers of names and types; those of expressions are in `MarkupQuery.Proofs.XPath.SoundReading`.
-/

namespace MarkupQuery.XPath

/-! ## Sound tokens -/

/-- Whether a token can stand behind a string literal. -/
def goesOn (t : Token) : Bool :=
  (operator? t).isSome ||
    match t with
    | .openBracket | .openParen | .question | .slash | .slashSlash | .bang | .arrow | .comma
    | .colon | .closeParen | .closeBracket | .closeBrace => true
    | .name n =>
      ["cast", "castable", "treat", "instance", "then", "else", "return", "satisfies"].contains n
    | _ => false

/-- Whether a token can stand before others. -/
def mayPrecede : Token → List Token → Bool
  | .bad, _ => false
  | .string _, t :: _ => goesOn t
  | _, _ => true

/-- Whether no token is bad, and each string literal has a token behind it that can stand there. -/
def sound : List Token → Bool
  | [] => true
  | t :: rest => mayPrecede t rest && sound rest

/-- Tokens that an expression may hold. -/
def Sound (tokens : List Token) : Prop :=
  sound tokens = true

/-- Tokens that an expression may hold behind a string literal. -/
structure Behind (tokens : List Token) : Prop where
  goesOn : ∀ t ∈ tokens.head?, goesOn t = true
  sound : Sound tokens

variable {α : Type} {t : Token} {tokens rest : List Token} {fuel : Nat}

theorem behind_nil : Behind [] :=
  ⟨by simp, rfl⟩

theorem sound_cons_iff : Sound (t :: rest) ↔ mayPrecede t rest = true ∧ Sound rest := by
  simp only [Sound, XPath.sound, Bool.and_eq_true]

/-- What stands behind other tokens is sound if the whole is. -/
theorem sound_of_append {before : List Token} (h : Sound (before ++ rest)) : Sound rest := by
  induction before with
  | nil => exact h
  | cons t before ih => exact ih (sound_cons_iff.1 h).2

theorem not_mem_of_sound (h : Sound tokens) : .bad ∉ tokens := by
  intro hbad
  obtain ⟨before, rest, rfl⟩ := List.append_of_mem hbad
  cases (sound_cons_iff.1 (sound_of_append h)).1

/-- A literal, and what may stand behind it. -/
theorem sound_string (s : String) (h : Behind rest) : Sound (.string s :: rest) := by
  refine sound_cons_iff.2 ⟨?_, h.sound⟩
  cases rest with
  | nil => rfl
  | cons t rest => exact h.goesOn t rfl

/-- A token that can stand behind a literal is none itself. -/
theorem mayPrecede_of_goesOn (ht : goesOn t = true) : mayPrecede t rest = true := by
  cases t with
  | bad | string => cases ht
  | _ => rfl

theorem behind_of_goesOn (ht : goesOn t = true) (h : Sound rest) : Behind (t :: rest) where
  goesOn := by simpa using ht
  sound := sound_cons_iff.2 ⟨mayPrecede_of_goesOn ht, h⟩

theorem goesOn_of_operator {op : Operator} {rank : Nat} (ht : operator? t = some (op, rank)) :
    goesOn t = true := by
  simp [goesOn, ht]

/-! ## Readers -/

/-- A reader whose part of the text ends in no literal. -/
def ReadsPart (x : Except Fault (Reading α)) (tokens : List Token) : Prop :=
  Ensures x fun r => Sound r.2 → Sound tokens

/-- A reader of something that may end in a literal. -/
def ReadsOperand (x : Except Fault (Reading α)) (tokens : List Token) : Prop :=
  Ensures x fun r => Behind r.2 → Sound tokens

/-- A reader that goes on behind something that may end in a literal. -/
def ReadsOn (x : Except Fault (Reading α)) (tokens : List Token) : Prop :=
  Ensures x fun r => Behind r.2 → Behind tokens

theorem ReadsPart.operand {x : Except Fault (Reading α)} (h : ReadsPart x tokens) :
    ReadsOperand x tokens :=
  h.mono fun _ hr hbehind => hr hbehind.sound

/-- Where a reader goes on with nothing, nothing changes. -/
theorem readsOn_ok (a : α) : ReadsOn (.ok (a, tokens)) tokens :=
  .ok id

theorem expect_eq (t : Token) (tokens : List Token) :
    Ensures (expect t tokens) fun rest => tokens = t :: rest := by
  rw [expect.eq_def]
  split
  · split
    · rename_i heq
      subst heq
      exact .ok rfl
    · exact .error _
  · exact .error _

/-- A token that is no literal is taken. -/
theorem sound_expect (ht : ∀ rest, mayPrecede t rest = true) :
    Ensures (expect t tokens) fun rest => Sound rest → Sound tokens := by
  refine (expect_eq t tokens).mono ?_
  rintro rest rfl hrest
  exact sound_cons_iff.2 ⟨ht rest, hrest⟩

/-- A token that can stand behind a literal is taken. -/
theorem behind_expect (ht : goesOn t = true) :
    Ensures (expect t tokens) fun rest => Sound rest → Behind tokens := by
  refine (expect_eq t tokens).mono ?_
  rintro rest rfl hrest
  exact behind_of_goesOn ht hrest

/-- What ends in a closing token. -/
theorem reads_closed (ht : goesOn t = true) {P : Prop} (h : Behind tokens → P) (a : α) :
    Ensures (do return (a, ← expect t tokens)) fun r => Sound r.2 → P := by
  refine .andThen (behind_expect ht) fun rest hrest => .pure ?_
  intro hsound
  exact h (hrest hsound)

/-! ## Names and types -/

theorem reads_qualifiedName (space : String) (tokens : List Token) :
    ReadsPart (qualifiedName space tokens) tokens := by
  rw [qualifiedName.eq_def]
  split
  · exact .ok id
  · exact .bind fun _ _ => .pure id
  · exact .ok id
  · exact .error _

theorem reads_functionName (tokens : List Token) : ReadsPart (functionName tokens) tokens := by
  have hname : ReadsPart (do
      let read ← qualifiedName functionSpace tokens
      return (if read.1.space.isEmpty then { read.1 with space := functionSpace } else read.1,
        read.2)) tokens :=
    .andThen (reads_qualifiedName functionSpace tokens) fun _ hname => .pure hname
  rw [functionName.eq_def]
  dsimp only
  split
  · split
    · exact .throwThen _
    · exact hname
  · exact hname

/-- A question mark may be left out. -/
theorem sound_of_behind_mark (h : Behind (match rest with
      | .question :: rest => rest
      | rest => rest)) : Sound rest := by
  split at h
  · exact h.sound
  · exact h.sound

theorem reads_nameAndType (tokens : List Token) : ReadsPart (nameAndType tokens) tokens := by
  rw [nameAndType.eq_def]
  extract_lets typed
  have htyped (name : Option QName) (tokens : List Token) :
      ReadsPart (typed name tokens) tokens := by
    dsimp only [typed]
    split
    · refine .andThen (reads_qualifiedName "" _) fun ⟨type, rest⟩ hname => ?_
      dsimp only
      split
      · exact .bind fun _ _ => reads_closed rfl (fun h => hname (sound_of_behind_mark h)) _
      · exact .throwThen _
    · exact reads_closed rfl Behind.sound _
  split
  · exact .pure id
  · exact htyped none _
  · refine .andThen (reads_qualifiedName "" tokens) fun ⟨name, rest⟩ hname => ?_
    exact (htyped name rest).mono fun r htype h => hname (htype h)

theorem reads_kindTest (kind : String) (tokens : List Token) :
    ReadsPart (kindTest kind tokens) tokens := by
  rw [kindTest.eq_def]
  split
  · exact .ok id
  · exact .ok id
  · exact .ok id
  · exact .ok id
  · refine .andThen (reads_nameAndType _) fun ⟨read, rest⟩ hread => ?_
    exact reads_closed rfl (fun h => hread h.sound) _
  · exact .andThen (reads_nameAndType _) fun _ hread => .pure hread
  · exact .andThen (reads_nameAndType _) fun _ hread => .pure hread
  · exact .ok id
  · exact .ok id
  · exact .ok id
  · exact .ok id
  · exact .bind fun _ _ => .throw _
  · exact .bind fun _ _ => .throw _
  · exact .error _

theorem reads_nodeTest (tokens : List Token) : ReadsPart (nodeTest tokens) tokens := by
  rw [nodeTest.eq_def]
  split
  · split
    · exact reads_kindTest _ _
    · exact .error _
  · exact .ok id
  · exact .ok id
  · exact .ok id
  · exact .map fun _ _ => id
  · exact .map fun _ _ => id
  · exact .ok id
  · exact .ok id
  · exact .error _

theorem reads_castType (tokens : List Token) : ReadsPart (castType tokens) tokens := by
  rw [castType.eq_def]
  refine .andThen (reads_qualifiedName "" tokens) fun ⟨name, rest⟩ hname => ?_
  dsimp only
  split
  · exact .throwThen _
  · refine .bind fun type _ => ?_
    split
    · exact .throw _
    · exact .throw _
    · split
      · exact .pure hname
      · exact .pure hname
    · exact .throw _

theorem sound_occurrence (tokens : List Token) : Sound (occurrence tokens).2 → Sound tokens := by
  rw [occurrence.eq_def]
  split <;> exact id

/-- What the readers of types do, for an amount of fuel. -/
structure ReadsTypes (fuel : Nat) : Prop where
  valueType : ∀ tokens, ReadsPart (valueType fuel tokens) tokens
  itemType : ∀ tokens, ReadsPart (itemType fuel tokens) tokens
  valueTypes : ∀ tokens, ReadsPart (valueTypes fuel tokens) tokens

theorem reads_valueType_succ (h : ReadsTypes fuel) (tokens : List Token) :
    ReadsPart (valueType (fuel + 1) tokens) tokens := by
  rw [valueType.eq_def]
  dsimp only
  split
  · exact reads_closed rfl Behind.sound _
  · refine .andThen (h.itemType tokens) fun ⟨type, rest⟩ htype => .pure ?_
    intro hrest
    exact htype (sound_occurrence rest hrest)

theorem reads_valueTypes_succ (h : ReadsTypes fuel) (tokens : List Token) :
    ReadsPart (valueTypes (fuel + 1) tokens) tokens := by
  rw [valueTypes.eq_def]
  dsimp only
  split
  · refine .andThen (h.valueType _) fun ⟨first, rest⟩ hfirst => ?_
    refine .andThen (h.valueTypes rest) fun ⟨more, rest⟩ hmore => .pure ?_
    intro hrest
    exact hfirst (hmore hrest)
  · exact .ok id

/-- The type of the result of a function, behind those of its parameters. -/
theorem reads_functionResult (h : ReadsTypes fuel) (read : Reading (List ValueType)) :
    ReadsPart (do
      let result ← valueType fuel (← expect (.name "as") read.2)
      return (ItemType.function read.1 result.1, result.2)) read.2 := by
  refine .andThen (sound_expect fun _ => rfl) fun rest has => ?_
  refine .andThen (h.valueType rest) fun ⟨result, rest⟩ hresult => .pure ?_
  intro hrest
  exact has (hresult hrest)

theorem reads_itemType_succ (h : ReadsTypes fuel) (tokens : List Token) :
    ReadsPart (itemType (fuel + 1) tokens) tokens := by
  rw [itemType.eq_def]
  dsimp only
  split
  · exact reads_closed rfl Behind.sound _
  · exact reads_closed rfl Behind.sound _
  · split
    · exact .pureThen (reads_functionResult h _)
    · refine .andThen (h.valueType _) fun ⟨first, rest⟩ hfirst => ?_
      refine .andThen (h.valueTypes rest) fun ⟨more, rest⟩ hmore => ?_
      refine .andThen (behind_expect rfl) fun rest hclose => .pureThen ?_
      refine (reads_functionResult h (first :: more, rest)).mono fun r hresult hrest => ?_
      exact hfirst (hmore (hclose (hresult hrest)).sound)
  · exact reads_closed rfl Behind.sound _
  · refine .andThen (reads_qualifiedName "" _) fun ⟨name, rest⟩ hname => .bind fun type _ => ?_
    split
    · refine .pureThen (.andThen (behind_expect rfl) fun rest hcomma => ?_)
      refine .andThen (h.valueType rest) fun ⟨value, rest⟩ hvalue => ?_
      exact reads_closed rfl (fun hclose => hname (hcomma (hvalue hclose.sound)).sound) _
    · exact .throwThen _
  · exact reads_closed rfl Behind.sound _
  · refine .andThen (h.valueType _) fun ⟨member, rest⟩ hmember => ?_
    exact reads_closed rfl (fun hclose => hmember hclose.sound) _
  · refine .andThen (h.itemType _) fun ⟨type, rest⟩ htype => ?_
    exact reads_closed rfl (fun hclose => htype hclose.sound) _
  · split
    · exact .andThen (reads_kindTest _ _) fun _ htest => .pure htest
    · exact .throw _
  · exact .andThen (reads_qualifiedName "" _) fun _ hname => .bind fun _ _ => .pure hname

theorem readsTypes (fuel : Nat) : ReadsTypes fuel := by
  induction fuel with
  | zero => exact ⟨fun _ => .error _, fun _ => .error _, fun _ => .error _⟩
  | succ fuel ih =>
    exact ⟨reads_valueType_succ ih, reads_itemType_succ ih, reads_valueTypes_succ ih⟩

theorem reads_typeOrAny (fuel : Nat) (tokens : List Token) :
    ReadsPart (typeOrAny fuel tokens) tokens := by
  rw [typeOrAny.eq_def]
  split
  · exact (readsTypes fuel).valueType _
  · exact .ok id

theorem reads_parameters (fuel : Nat) (tokens : List Token) :
    ReadsPart (parameters fuel tokens) tokens := by
  induction fuel generalizing tokens with
  | zero => exact .error _
  | succ fuel ih =>
    rw [parameters.eq_def]
    dsimp only
    split
    · refine .andThen (reads_qualifiedName "" _) fun ⟨name, rest⟩ hname => ?_
      refine .andThen (reads_typeOrAny fuel rest) fun ⟨type, rest⟩ htype => ?_
      dsimp only
      split
      · refine .andThen (ih _) fun ⟨more, rest⟩ hmore => .pure ?_
        intro hrest
        exact hname (htype (hmore hrest))
      · exact reads_closed rfl (fun hrest => hname (htype hrest.sound)) _
    · exact reads_closed rfl Behind.sound _

end MarkupQuery.XPath
