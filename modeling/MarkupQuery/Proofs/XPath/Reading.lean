import Mathlib.Data.List.Basic
import MarkupQuery.XPath.Parser

/-!
# Reading location paths

What the parser makes of steps along names with predicates that test attributes, rule by rule. The
fuel of the parser only bounds the depth of its calls: each rule holds for any fuel from some bound
on. Operators are read by climbing ranks (`climb`): what stands behind an operand is left alone if
its rank is too low (`climb_of_lt`), and an upper limit does not matter if its rank is below it
(`climb_most`).
-/

namespace MarkupQuery.XPath

/-! ## What ends an operand -/

/-- Whether nothing of a text belongs to the operand before it: an operator, or a bracket. -/
def endsOperand : List Token → Bool
  | [] => true
  | .equals :: _ => true
  | .closeBracket :: _ => true
  | .name n :: _ => n = "and" || n = "or"
  | _ => false

theorem endsOperand_cases {rest : List Token} (h : endsOperand rest = true) :
    rest = [] ∨ ∃ more, rest = .equals :: more ∨ rest = .closeBracket :: more ∨
      rest = .name "and" :: more ∨ rest = .name "or" :: more := by
  cases rest with
  | nil => exact .inl rfl
  | cons t more =>
    refine .inr ⟨more, ?_⟩
    cases t <;> simp_all [endsOperand]

variable {fuel : Nat} {tokens rest : List Token} {e : Expr}

theorem typed_of_unary (h : unary (fuel + 1) tokens = .ok (e, rest))
    (hrest : endsOperand rest = true) : typed (fuel + 2) tokens = .ok (e, rest) := by
  rcases endsOperand_cases hrest with rfl | ⟨more, rfl | rfl | rfl | rfl⟩ <;>
    simp [typed, h, arrows] <;> rfl

/-- A token that is no sign and no slash. -/
def isPlainHead : Token → Bool
  | .slash | .slashSlash | .minus | .plus => false
  | _ => true

/-- A value or a step is an operand. -/
theorem typed_of_step {t : Token} (ht : isPlainHead t = true)
    (h : step (fuel + 1) (t :: tokens) = .ok (e, rest)) (hrest : endsOperand rest = true) :
    typed (fuel + 4) (t :: tokens) = .ok (e, rest) := by
  have hpath : path (fuel + 2) (t :: tokens) = .ok (e, rest) := by
    have hsteps : steps (fuel + 1) e rest = .ok (e, rest) := by
      rcases endsOperand_cases hrest with rfl | ⟨more, rfl | rfl | rfl | rfl⟩ <;> rfl
    rw [path, h]
    · exact hsteps
    · rintro _ ⟨⟩
      cases ht
    · rintro _ ⟨⟩
      cases ht
  have hunary : unary (fuel + 3) (t :: tokens) = .ok (e, rest) := by
    have hmaps : maps (fuel + 2) e rest = .ok (e, rest) := by
      rcases endsOperand_cases hrest with rfl | ⟨more, rfl | rfl | rfl | rfl⟩ <;> rfl
    rw [unary, hpath]
    · exact hmaps
    · rintro _ ⟨⟩
      cases ht
    · rintro _ ⟨⟩
      cases ht
  exact typed_of_unary hunary hrest

theorem predicates_nil (h : rest.head? ≠ some .openBracket) :
    predicates (fuel + 1) rest = .ok ([], rest) := by
  rw [predicates]
  rintro more rfl
  exact h rfl

/-- An attribute by its name. -/
theorem typed_attribute (name : String) (hrest : endsOperand rest = true) :
    typed (fuel + 5) (.at :: .name name :: rest) =
      .ok (.step .attributes (.named name) [], rest) := by
  refine typed_of_step rfl ?_ hrest
  have htest : nodeTest (.name name :: rest) = .ok (.named name, rest) := by
    rcases endsOperand_cases hrest with rfl | ⟨more, rfl | rfl | rfl | rfl⟩ <;> rfl
  have hpredicates : predicates (fuel + 1) rest = .ok ([], rest) := by
    refine predicates_nil ?_
    rcases endsOperand_cases hrest with rfl | ⟨more, rfl | rfl | rfl | rfl⟩ <;> simp
  rw [step]
  simp only [htest, bind, Except.bind, hpredicates]
  rfl

/-- A string literal. -/
theorem typed_string (value : String) (hrest : endsOperand rest = true) :
    typed (fuel + 5) (.string value :: rest) = .ok (.string value, rest) := by
  refine typed_of_step rfl ?_ hrest
  have hpostfixes : postfixes (fuel + 1) (.string value) rest = .ok (.string value, rest) := by
    rcases endsOperand_cases hrest with rfl | ⟨more, rfl | rfl | rfl | rfl⟩ <;> rfl
  exact hpostfixes

/-! ## Ranks -/

/-- Whether no operator of more than a rank begins a text. -/
def RanksUpTo (rank : Nat) (tokens : List Token) : Prop :=
  ∀ t ∈ tokens.head?, ∀ op r, operator? t = some (op, r) → r ≤ rank

variable {rank least most : Nat}

/-- An operator of too low a rank is left alone. -/
theorem climb_of_lt (h : RanksUpTo rank rest) (hrank : rank < least) :
    climb (fuel + 1) least most e rest = .ok (e, rest) := by
  rw [climb.eq_def]
  cases rest with
  | nil => rfl
  | cons t more =>
    cases hop : operator? t with
    | none => simp [hop]
    | some found =>
      obtain ⟨op, r⟩ := found
      have hr := h t rfl op r hop
      have hlow : ¬ (least ≤ r ∧ r ≤ most) := by omega
      simp [hop, hlow]

/-- An upper limit does not matter where the next operator is below it. -/
theorem climb_most (h : RanksUpTo rank rest) {most' : Nat} (hmost : rank ≤ most)
    (hmost' : rank ≤ most') : climb fuel least most e rest = climb fuel least most' e rest := by
  cases fuel with
  | zero => rfl
  | succ fuel =>
    rw [climb.eq_def, climb.eq_def]
    cases rest with
    | nil => rfl
    | cons t more =>
      cases hop : operator? t with
      | none => simp [hop]
      | some found =>
        obtain ⟨op, r⟩ := found
        have hr := h t rfl op r hop
        have hiff : (least ≤ r ∧ r ≤ most) ↔ (least ≤ r ∧ r ≤ most') := by omega
        simp [hop, hiff]

/-- An operator whose rank is within the limits takes the operand behind it. -/
theorem climb_of_le {t : Token} {op : Operator} {right : Expr} (hop : operator? t = some (op, rank))
    (hleast : least ≤ rank) (hmost : rank ≤ most)
    (hright : binary fuel (rank + 1) tokens = .ok (right, rest)) :
    climb (fuel + 1) least most e (t :: tokens) =
      climb fuel least (if chains rank then rank else rank - 1) (.binary op e right) rest := by
  rw [climb]
  simp only [hop, hleast, hmost, and_self, if_true, hright, bind, Except.bind]
  rfl

end MarkupQuery.XPath
