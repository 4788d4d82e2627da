import Mathlib.Data.List.Nodup
import MarkupQuery.Proofs.Query.Keys

/-!
# Where keys coincide

A key of a session is plain, that is the name of its selection as it is, or it is counted, and the
selection shows which (`plain_iff_not_recurs`). Since the number of a counted key is its place, and
since a plain key is one that no earlier selection has, two keys can coincide in one way only: the
later one is counted, and the earlier one is a name that reads like it (`key_eq_key_iff`). So the
keys of either sort are distinct among themselves (`pairwise_of_keyed`), and no key occurs three
times (`count_key_le_two`). `Builder.coinciding_keys` says this of every reachable builder.
-/

namespace MarkupQuery.Query

/-! ## Plain and counted keys -/

/-- A selection whose key is its name, with nothing added to it. -/
def TagSelection.Plain (s : TagSelection) : Prop :=
  s.test = .named s.key

instance : DecidablePred TagSelection.Plain :=
  fun s => inferInstanceAs (Decidable (s.test = .named s.key))

theorem counted_ne (base : String) (n : Nat) : counted base n ≠ base := by
  intro h
  have hlength := congrArg String.length h
  have hpoint : ".".length = 1 := rfl
  rw [counted, String.length_append, String.length_append] at hlength
  omega

section Keyed

variable {selections : List TagSelection} {i j : Nat}

/-- The key at a position, by the selections in front of it. -/
theorem key_getElem (h : Keyed selections) (hj : j < selections.length) :
    selections[j].key = keyBehind (selections.take j) selections[j].test := by
  refine h (selections.take j) selections[j] (selections.drop (j + 1)) ?_
  rw [List.getElem_cons_drop, List.take_append_drop]

/-- A counted key has its position for its number. -/
theorem key_of_recurs (h : Keyed selections) (hj : j < selections.length)
    (hrec : Recurs (selections.take j) selections[j].test) :
    selections[j].key = counted selections[j].test.text j := by
  have hlength : (selections.take j).length = j := List.length_take_of_le (Nat.le_of_lt hj)
  rw [key_getElem h hj, keyBehind_of_recurs hrec, hlength]

/-- **The selection shows whether its key is counted**: a plain key is the name itself, and a
counted one is longer. -/
theorem plain_iff_not_recurs (h : Keyed selections) (hj : j < selections.length) :
    selections[j].Plain ↔ ¬ Recurs (selections.take j) selections[j].test := by
  constructor
  · intro hplain hrec
    have htext : selections[j].test.text = selections[j].key := congrArg NodeTest.text hplain
    have hkey := key_of_recurs h hj hrec
    exact counted_ne _ _ (hkey.symm.trans htext.symm)
  · intro hnot
    have htest := keyBehind_of_not_recurs hnot
    rwa [← key_getElem h hj] at htest

/-! ## Equal keys -/

/-- **Two keys coincide in one way only.** -/
theorem key_eq_key_iff (h : Keyed selections) (hij : i < j) (hj : j < selections.length) :
    selections[i].key = selections[j].key ↔
      Recurs (selections.take j) selections[j].test ∧ selections[i].Plain ∧
        selections[i].key = counted selections[j].test.text j := by
  have hi : i < selections.length := Nat.lt_trans hij hj
  constructor
  · intro heq
    have hrec : Recurs (selections.take j) selections[j].test := by
      by_contra hnot
      have hmem : selections[i] ∈ selections.take j :=
        List.mem_take_iff_getElem.2 ⟨i, by omega, rfl⟩
      exact keyBehind_ne_of_not_recurs hnot _ hmem (heq.trans (key_getElem h hj))
    have hkey := key_of_recurs h hj hrec
    refine ⟨hrec, ?_, heq.trans hkey⟩
    -- were the earlier key counted, too, its number would be another one
    rw [plain_iff_not_recurs h hi]
    intro hcounted
    rw [key_of_recurs h hi hcounted, hkey] at heq
    exact Nat.ne_of_lt hij (counted_inj heq).2
  · rintro ⟨hrec, -, hkey⟩
    exact hkey.trans (key_of_recurs h hj hrec).symm

/-- Of two selections with one key, the earlier one is plain and the later one is not. -/
theorem pairwise_of_keyed (h : Keyed selections) :
    selections.Pairwise fun r s => r.key = s.key → r.Plain ∧ ¬ s.Plain := by
  rw [List.pairwise_iff_getElem]
  intro i j hi hj hij heq
  obtain ⟨hrec, hplain, -⟩ := (key_eq_key_iff h hij hj).1 heq
  exact ⟨hplain, fun hs => (plain_iff_not_recurs h hj).1 hs hrec⟩

/-- Selections of one sort have distinct keys. -/
theorem nodup_keys_filter (h : Keyed selections) (p : TagSelection → Bool)
    (hp : ∀ r s, p r = true → p s = true → ¬ (r.Plain ∧ ¬ s.Plain)) :
    ((selections.filter p).map (·.key)).Nodup := by
  rw [List.Nodup, List.pairwise_map]
  refine ((pairwise_of_keyed h).filter p).imp_of_mem ?_
  intro r s hr hs hrs heq
  exact hp r s (List.mem_filter.1 hr).2 (List.mem_filter.1 hs).2 (hrs heq)

/-- **No key occurs three times**: once at most among the plain keys, and once among the counted
ones. -/
theorem count_key_le_two (h : Keyed selections) (key : String) :
    (selections.map (·.key)).count key ≤ 2 := by
  have hplain := List.nodup_iff_count_le_one.1
    (nodup_keys_filter h (fun s => s.Plain) (by simp_all)) key
  have hcounted := List.nodup_iff_count_le_one.1
    (nodup_keys_filter h (fun s => !s.Plain) (by simp_all)) key
  rw [List.count_eq_countP, List.countP_map] at hplain hcounted ⊢
  rw [List.countP_eq_countP_filter_add _ _ fun s => decide s.Plain]
  exact Nat.add_le_add hplain hcounted

end Keyed

/-! ## Reachable builders -/

namespace Builder

/-- **When two keys of a session coincide.** The key of a selection that takes any element, or whose
name is the key of an earlier one, is its base with a point and its position; any other key is the
name as it is. The keys at two positions are equal exactly when the later one is counted and the
earlier one is the name of its selection, which is literally the base of the later one with a point
and the later position. So two counted keys are never equal, and no key occurs three times. -/
theorem coinciding_keys (steps : List Step) :
    let selections := (new.run steps).selections
    (∀ j (hj : j < selections.length),
      (Recurs (selections.take j) selections[j].test →
          selections[j].key = selections[j].test.text ++ "." ++ toString j) ∧
        (¬ Recurs (selections.take j) selections[j].test →
          selections[j].test = .named selections[j].key)) ∧
      (∀ i j (hij : i < j) (hj : j < selections.length),
        selections[i].key = selections[j].key ↔
          Recurs (selections.take j) selections[j].test ∧
            selections[i].test = .named selections[i].key ∧
            selections[i].key = selections[j].test.text ++ "." ++ toString j) ∧
      (∀ i j (hi : i < selections.length) (hj : j < selections.length), i ≠ j →
        Recurs (selections.take i) selections[i].test →
          Recurs (selections.take j) selections[j].test → selections[i].key ≠ selections[j].key) ∧
      ∀ key, (selections.map (·.key)).count key ≤ 2 := by
  intro selections
  have h : Keyed selections := keyed_run steps
  refine ⟨fun j hj => ⟨key_of_recurs h hj, (plain_iff_not_recurs h hj).2⟩,
    fun i j hij hj => key_eq_key_iff h hij hj, fun i j hi hj hne hfirst hsecond heq => ?_,
    count_key_le_two h⟩
  rw [key_of_recurs h hi hfirst, key_of_recurs h hj hsecond] at heq
  exact hne (counted_inj heq).2

/-- A base with a point of its own. -/
example : (new.run [.call (.tag "a.1.2"), .call (.tag "a.1"), .call (.tag "a.1")]).selections.map
    (·.key) = ["a.1.2", "a.1", "a.1.2"] := by decide +kernel

end Builder

end MarkupQuery.Query
