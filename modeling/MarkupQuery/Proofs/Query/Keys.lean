import MarkupQuery.Proofs.Query.Runs

/-!
# The keys of a session

A selection's key depends on its test and on the keys before it (`Builder.keyed_run`). A counted key
shows its place in its digits (`counted_inj`), so two counted keys never coincide, and a plain key
is a key that nothing before it has. What is left is a tag call whose name reads like a key that is
counted later: `Builder.keys_nodup_iff` says that nothing else makes two keys of a session coincide,
and `Builder.keys_not_always_distinct` that this happens.
-/

namespace MarkupQuery.Query

/-! ## Counted keys -/

theorem point_not_mem_toString (n : Nat) : '.' ∉ (toString n).toList := by
  intro h
  rw [Nat.toString_eq_ofList_toDigits, String.toList_ofList] at h
  have := Nat.isDigit_of_mem_toDigits (by decide) (by decide) h
  simp at this

theorem toString_nat_inj {m n : Nat} (h : toString m = toString n) : m = n := by
  rw [Nat.toString_eq_ofList_toDigits, Nat.toString_eq_ofList_toDigits] at h
  rw [← Nat.ofDigitChars_ten_toDigits (n := m), ← Nat.ofDigitChars_ten_toDigits (n := n),
    String.ofList_injective h]

/-- Texts that end alike from their last occurrence of a character on begin alike. -/
theorem append_cons_inj_of_not_mem {α : Type} {c : α} {a b s t : List α} (hs : c ∉ s) (ht : c ∉ t)
    (h : a ++ c :: s = b ++ c :: t) : a = b ∧ s = t := by
  induction a generalizing b with
  | nil =>
    cases b with
    | nil => simpa using h
    | cons x b =>
      obtain ⟨rfl, rfl⟩ := List.cons.inj h
      simp at hs
  | cons x a ih =>
    cases b with
    | nil =>
      obtain ⟨rfl, rfl⟩ := List.cons.inj h
      simp at ht
    | cons y b =>
      obtain ⟨rfl, htail⟩ := List.cons.inj h
      obtain ⟨rfl, rfl⟩ := ih htail
      exact ⟨rfl, rfl⟩

theorem toList_counted (base : String) (n : Nat) :
    (counted base n).toList = base.toList ++ '.' :: (toString n).toList := by
  simp [counted]

/-- **A counted key can be read in one way only**: the digits behind its last point are its
number. -/
theorem counted_inj {a b : String} {m n : Nat} (h : counted a m = counted b n) : a = b ∧ m = n := by
  have hlist := congrArg String.toList h
  rw [toList_counted, toList_counted] at hlist
  obtain ⟨hbase, hnumber⟩ := append_cons_inj_of_not_mem (point_not_mem_toString m)
    (point_not_mem_toString n) hlist
  exact ⟨String.toList_injective hbase, toString_nat_inj (String.toList_injective hnumber)⟩

/-! ## Keys and what is before them -/

/-- Whether a selection of a test behind others gets a counted key: it takes any element, or its
name is the key of one of the others. -/
def Recurs (before : List TagSelection) (test : NodeTest) : Prop :=
  test = .any ∨ ∃ r ∈ before, r.key = test.text

theorem keyBehind_of_recurs {before : List TagSelection} {test : NodeTest}
    (h : Recurs before test) : keyBehind before test = counted test.text before.length := by
  cases test with
  | any => rfl
  | named name =>
    have hany : before.any (·.key == name) = true := by
      simpa [Recurs, NodeTest.text] using h
    simp [keyBehind, hany, NodeTest.text]

theorem keyBehind_of_not_recurs {before : List TagSelection} {test : NodeTest}
    (h : ¬ Recurs before test) : test = .named (keyBehind before test) := by
  cases test with
  | any => simp [Recurs] at h
  | named name =>
    have hany : before.any (·.key == name) = false := by
      simpa [Recurs, NodeTest.text] using h
    simp [keyBehind, hany]

/-- A key that is not counted is new. -/
theorem keyBehind_ne_of_not_recurs {before : List TagSelection} {test : NodeTest}
    (h : ¬ Recurs before test) : ∀ r ∈ before, r.key ≠ keyBehind before test := by
  intro r hr heq
  have htext := congrArg NodeTest.text (keyBehind_of_not_recurs h)
  exact h (Or.inr ⟨r, hr, heq.trans htext.symm⟩)

/-- Every selection of a list has the key that its test gets behind those before it. -/
def Keyed (selections : List TagSelection) : Prop :=
  ∀ before s after, selections = before ++ s :: after → s.key = keyBehind before s.test

theorem keyed_nil : Keyed [] := by
  intro before s after h
  simp at h

theorem keyed_concat {selections : List TagSelection} {s : TagSelection} :
    Keyed (selections ++ [s]) ↔ Keyed selections ∧ s.key = keyBehind selections s.test := by
  constructor
  · intro h
    refine ⟨fun before r after hr => h before r (after ++ [s]) (by simp [hr]), ?_⟩
    exact h selections s [] rfl
  · rintro ⟨h, hs⟩ before r after hr
    rcases List.eq_nil_or_concat' after with rfl | ⟨rest, last, rfl⟩
    · obtain ⟨rfl, hlast⟩ := List.append_inj' hr rfl
      cases hlast
      exact hs
    · rw [← List.cons_append, ← List.append_assoc] at hr
      exact h before r rest (List.append_inj' hr rfl).1

/-- What is asked of a session keeps its selections keyed; a condition touches no key. -/
theorem keyed_act {selections : List TagSelection} (h : Keyed selections) (a : Ask) :
    Keyed (a.act selections) := by
  cases a with
  | select test axis => exact keyed_concat.2 ⟨h, rfl⟩
  | extend c =>
    rcases List.eq_nil_or_concat' selections with rfl | ⟨before, last, rfl⟩
    · rw [Ask.act_extend_nil, ← List.nil_append [_]]
      exact keyed_concat.2 ⟨keyed_nil, rfl⟩
    · rw [Ask.act_extend_concat]
      obtain ⟨hbefore, hlast⟩ := keyed_concat.1 h
      exact keyed_concat.2 ⟨hbefore, hlast⟩

namespace Builder

theorem keyed_step {b : Builder} (hs : b.Settled) (h : Keyed b.selections) (s : Step) :
    Keyed (b.step s).2.selections := by
  cases s with
  | call c =>
    change Keyed (b.call c).selections
    rw [selections_call hs]
    exact keyed_act h _
  | build => exact keyed_nil
  | peek => exact h
  | reset => exact keyed_nil

/-- In every reachable builder a key is told by its test and the keys before it. -/
theorem keyed_run (steps : List Step) : Keyed (new.run steps).selections := by
  induction steps using List.reverseRec with
  | nil => exact keyed_nil
  | append_singleton steps s ih =>
    rw [run_concat]
    exact keyed_step (settled_run steps) ih s

end Builder

/-! ## Distinct keys -/

/-- Whether a selection's name reads like the key counted behind `before` for a test. -/
def Foretells (before : List TagSelection) (test : NodeTest) (r : TagSelection) : Prop :=
  r.test = .named (counted test.text before.length)

/-- Behind keyed selections, a key repeats one of theirs just if it is counted and was foretold. -/
theorem exists_key_eq_iff {before : List TagSelection} (h : Keyed before) (test : NodeTest) :
    (∃ r ∈ before, r.key = keyBehind before test) ↔
      Recurs before test ∧ ∃ r ∈ before, Foretells before test r := by
  constructor
  · rintro ⟨r, hr, heq⟩
    have hrec : Recurs before test := by
      by_contra hnot
      exact keyBehind_ne_of_not_recurs hnot r hr heq
    refine ⟨hrec, r, hr, ?_⟩
    rw [keyBehind_of_recurs hrec] at heq
    obtain ⟨first, rest, rfl⟩ := List.append_of_mem hr
    have hkey := h first r rest rfl
    -- a counted key further left has a smaller number
    have hplain : ¬ Recurs first r.test := by
      intro hcounted
      rw [hkey, keyBehind_of_recurs hcounted] at heq
      have := (counted_inj heq).2
      simp at this
    rw [Foretells, ← heq, hkey]
    exact keyBehind_of_not_recurs hplain
  · rintro ⟨hrec, r, hr, hforetold⟩
    rw [keyBehind_of_recurs hrec]
    obtain ⟨first, rest, rfl⟩ := List.append_of_mem hr
    by_cases hcounted : Recurs first r.test
    -- the name was a key before `r`, too
    · rcases hcounted with hany | ⟨q, hq, hkey⟩
      · simp [hany, Foretells] at hforetold
      · refine ⟨q, by simp [hq], ?_⟩
        rw [hkey, hforetold, NodeTest.text]
    · refine ⟨r, hr, ?_⟩
      have hplain := keyBehind_of_not_recurs hcounted
      rw [hforetold] at hplain
      rw [h first r rest rfl, hforetold]
      exact (NodeTest.named.inj hplain).symm

/-- The keys of keyed selections are distinct just if no counted key was foretold. -/
theorem nodup_keys_iff_of_keyed {selections : List TagSelection} (h : Keyed selections) :
    (selections.map (·.key)).Nodup ↔
      ∀ before s after, selections = before ++ s :: after → Recurs before s.test →
        ∀ r ∈ before, ¬ Foretells before s.test r := by
  induction selections using List.reverseRec with
  | nil => simp
  | append_singleton selections s ih =>
    obtain ⟨hinit, hkey⟩ := keyed_concat.1 h
    have hlast : (∀ r ∈ selections, r.key ≠ s.key) ↔
        (Recurs selections s.test → ∀ r ∈ selections, ¬ Foretells selections s.test r) := by
      have := not_congr (exists_key_eq_iff hinit s.test)
      rw [← hkey] at this
      simpa using this
    rw [List.map_append, List.nodup_append, ih hinit]
    constructor
    · rintro ⟨hdistinct, -, hnew⟩ before t after heq
      rcases List.eq_nil_or_concat' after with rfl | ⟨rest, last, rfl⟩
      · obtain ⟨rfl, ht⟩ := List.append_inj' heq rfl
        cases ht
        refine hlast.1 fun r hr => ?_
        exact hnew r.key (List.mem_map_of_mem hr) s.key (by simp)
      · rw [← List.cons_append, ← List.append_assoc] at heq
        exact hdistinct before t rest (List.append_inj' heq rfl).1
    · intro hall
      refine ⟨fun before t after heq => hall before t (after ++ [s]) (by simp [heq]), by simp, ?_⟩
      have hnew := hlast.2 (hall selections s [] rfl)
      simpa using hnew

namespace Builder

/-- **When the keys of a session are distinct**: exactly when no tag call made the name that, with
a point and its place, becomes the key of a later selection whose own name was a key already, or
that takes any element. -/
theorem keys_nodup_iff (steps : List Step) :
    ((new.run steps).selections.map (·.key)).Nodup ↔
      ∀ before s after, (new.run steps).selections = before ++ s :: after →
        (s.test = .any ∨ ∃ r ∈ before, r.key = s.test.text) →
        ∀ r ∈ before, r.test ≠ .named (s.test.text ++ "." ++ toString before.length) :=
  nodup_keys_iff_of_keyed (keyed_run steps)

/-- The second `a` of `a.2`, `a`, `a` gets the key that the first name has taken. -/
theorem keys_not_always_distinct :
    ¬ ∀ steps : List Step, ((new.run steps).selections.map (·.key)).Nodup := by
  intro h
  have hkeys : ((new.run [.call (.tag "a.2"), .call (.tag "a"), .call (.tag "a")]).selections.map
      (·.key)) = ["a.2", "a", "a.2"] := by decide +kernel
  have := h [.call (.tag "a.2"), .call (.tag "a"), .call (.tag "a")]
  rw [hkeys] at this
  simp at this

end Builder

end MarkupQuery.Query
