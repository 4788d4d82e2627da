import Mathlib.Data.List.Forall2
import MarkupQuery.Proofs.Query.Tokens

/-!
# Reading the text of a path back

The texts of selections stand one behind the other with nothing between them, and values may hold
whatever else a path is made of. Still the text of a path determines the path, as far as a text can:
keys are not written, the test for any element reads like the name `*`, and the first join of a
predicate is not written either. `Path.decode` reads a text from left to right and finds the path
that is left when these are forgotten (`Path.decode_text`), so that two texts are equal just if
their paths agree (`Path.text_eq_iff_agrees`). The paths must be legible: no test is empty, and no
name or value holds the character by which its end is told.
-/

namespace MarkupQuery.Query

/-! ## Legible paths -/

/-- A condition whose name and value end where its text says so. -/
structure Condition.Legible (c : Condition) : Prop where
  name : ∀ d ∈ c.name.toList, d ∉ ['=', ' ', ']']
  value : ∀ v ∈ c.value, '\'' ∉ v.toList

/-- A selection whose test is there and ends where its text says so. -/
structure TagSelection.Legible (s : TagSelection) : Prop where
  test_ne : s.test.text ≠ ""
  test : ∀ d ∈ s.test.text.toList, d ∉ ['/', '[']
  conditions : ∀ c ∈ s.conditions, c.Legible

/-- A path of legible selections. -/
def Path.Legible (p : Path) : Prop :=
  ∀ s ∈ p.selections, s.Legible

/-! ## Agreement -/

/-- Conditions agree if they are the same but for the join of the first. -/
def conditionsAgree : List Condition → List Condition → Prop
  | [], [] => True
  | c :: cs, d :: ds => c.name = d.name ∧ c.value = d.value ∧ cs = ds
  | _, _ => False

/-- Selections agree in all that their texts show. -/
structure TagSelection.Agrees (s r : TagSelection) : Prop where
  axis : s.axis = r.axis
  test : s.test.text = r.test.text
  conditions : conditionsAgree s.conditions r.conditions

/-- Paths agree if they have equally many selections, which agree place by place. -/
def Path.Agrees (p q : Path) : Prop :=
  List.Forall₂ TagSelection.Agrees p.selections q.selections

/-- Conditions without what joins the first. -/
def plainConditions : List Condition → List Condition
  | [] => []
  | c :: cs => { c with join := .and } :: cs

/-- A selection without its key and the first join, its test as a name. -/
def TagSelection.plain (s : TagSelection) : TagSelection :=
  { key := "", test := .named s.test.text, axis := s.axis
    conditions := plainConditions s.conditions }

/-- A path of which only that is kept which its text shows. -/
def Path.plain (p : Path) : Path :=
  { selections := p.selections.map TagSelection.plain }

theorem plainConditions_eq_iff {cs ds : List Condition} :
    plainConditions cs = plainConditions ds ↔ conditionsAgree cs ds := by
  cases cs with
  | nil => cases ds <;> simp [plainConditions, conditionsAgree]
  | cons c cs =>
    cases ds with
    | nil => simp [plainConditions, conditionsAgree]
    | cons d ds => simp [plainConditions, conditionsAgree, and_assoc]

theorem TagSelection.plain_eq_iff {s r : TagSelection} : s.plain = r.plain ↔ s.Agrees r := by
  rw [TagSelection.plain, TagSelection.plain, TagSelection.mk.injEq, NodeTest.named.injEq,
    plainConditions_eq_iff]
  exact ⟨fun h => ⟨h.2.2.1, h.2.1, h.2.2.2⟩, fun h => ⟨rfl, h.test, h.axis, h.conditions⟩⟩

/-- Paths agree if the same is left of them. -/
theorem Path.plain_eq_iff {p q : Path} : p.plain = q.plain ↔ p.Agrees q := by
  rw [Path.plain, Path.plain, Path.mk.injEq, Path.Agrees, ← List.forall₂_eq_eq_eq,
    List.forall₂_map_left_iff, List.forall₂_map_right_iff]
  simp only [TagSelection.plain_eq_iff]

/-! ## Reading -/

/-- The text up to one of some characters, and the rest. -/
def readUntil (stops : List Char) (cs : List Char) : String × List Char :=
  (String.ofList (cs.takeWhile (· ∉ stops)), cs.dropWhile (· ∉ stops))

/-- Reads a condition that joins the one before it in a known way. -/
def readCondition (join : Join) : List Char → Option (Condition × List Char)
  | '@' :: cs =>
    let (name, rest) := readUntil ['=', ' ', ']'] cs
    match rest with
    | '=' :: '\'' :: rest =>
      let (value, rest) := readUntil ['\''] rest
      some ({ name := name, value := some value, join := join }, rest.tail)
    | rest => some ({ name := name, value := none, join := join }, rest)
  | _ => none

/-- Reads the operator before a condition, with the blanks around it. -/
def readJoin : List Char → Option (Join × List Char)
  | ' ' :: 'a' :: 'n' :: 'd' :: ' ' :: cs => some (.and, cs)
  | ' ' :: 'o' :: 'r' :: ' ' :: cs => some (.or, cs)
  | _ => none

/-- Reads further conditions up to the closing bracket; at most `fuel` of them. -/
def readJoined : Nat → List Char → Option (List Condition × List Char)
  | 0, _ => none
  | _ + 1, ']' :: cs => some ([], cs)
  | fuel + 1, cs => do
    let (join, rest) ← readJoin cs
    let (c, rest) ← readCondition join rest
    let (more, rest) ← readJoined fuel rest
    return (c :: more, rest)

/-- Reads a predicate, if there is one. -/
def readPredicate : List Char → Option (List Condition × List Char)
  | '[' :: cs => do
    let (c, rest) ← readCondition .and cs
    let (more, rest) ← readJoined rest.length rest
    return (c :: more, rest)
  | cs => some ([], cs)

/-- Reads a separator. -/
def readAxis : List Char → Option (Axis × List Char)
  | '/' :: '/' :: cs => some (.descendant, cs)
  | '/' :: cs => some (.child, cs)
  | _ => none

/-- Reads selections to the end of a text; at most `fuel` of them. -/
def readSelections : Nat → List Char → Option (List TagSelection)
  | _, [] => some []
  | 0, _ => none
  | fuel + 1, cs => do
    let (axis, rest) ← readAxis cs
    let (test, rest) := readUntil ['/', '['] rest
    let (conditions, rest) ← readPredicate rest
    let more ← readSelections fuel rest
    return { key := "", test := .named test, axis := axis, conditions := conditions } :: more

/-- Reads the text of a path. -/
def Path.decode (text : String) : Option Path :=
  (readSelections text.length text.toList).map fun selections => { selections := selections }

/-! ## Reading what was written -/

variable {rest : List Char} {fuel : Nat}

theorem readUntil_append {stops : List Char} {s : String} (hs : ∀ c ∈ s.toList, c ∉ stops)
    (hrest : ∀ c ∈ rest.head?, c ∈ stops) : readUntil stops (s.toList ++ rest) = (s, rest) := by
  have hs' : ∀ c ∈ s.toList, decide (c ∉ stops) = true := by simpa using hs
  have hstop : rest.takeWhile (· ∉ stops) = [] ∧ rest.dropWhile (· ∉ stops) = rest := by
    cases rest with
    | nil => exact ⟨rfl, rfl⟩
    | cons c cs =>
      have hc : c ∈ stops := hrest c rfl
      simp [hc]
  rw [readUntil, List.takeWhile_append_of_pos hs', List.dropWhile_append_of_pos hs', hstop.1,
    hstop.2, List.append_nil, String.ofList_toList]

/-- A condition is read up to what follows it in a predicate. -/
theorem readCondition_text {c : Condition} (hc : c.Legible) (join : Join)
    (hrest : rest.head? = some ' ' ∨ rest.head? = some ']') :
    readCondition join (c.text.toList ++ rest) = some ({ c with join := join }, rest) := by
  cases hvalue : c.value with
  | none =>
    have htext : c.text.toList ++ rest = '@' :: (c.name.toList ++ rest) := by
      simp [Condition.text, hvalue]
    have hname : readUntil ['=', ' ', ']'] (c.name.toList ++ rest) = (c.name, rest) := by
      refine readUntil_append hc.name fun d hd => ?_
      rcases hrest with h | h <;> rw [h] at hd <;> obtain rfl := Option.some.inj hd <;> simp
    rw [htext, readCondition, hname]
    rcases hrest with h | h <;> obtain ⟨more, rfl⟩ := List.head?_eq_some_iff.1 h <;> simp
  | some value =>
    have htext : c.text.toList ++ rest =
        '@' :: (c.name.toList ++ '=' :: '\'' :: (value.toList ++ '\'' :: rest)) := by
      simp [Condition.text, hvalue]
    have hname : readUntil ['=', ' ', ']']
        (c.name.toList ++ '=' :: '\'' :: (value.toList ++ '\'' :: rest)) =
          (c.name, '=' :: '\'' :: (value.toList ++ '\'' :: rest)) := by
      refine readUntil_append hc.name fun d hd => ?_
      obtain rfl := Option.some.inj hd
      simp
    have hread : readUntil ['\''] (value.toList ++ '\'' :: rest) = (value, '\'' :: rest) := by
      refine readUntil_append (fun d hd => ?_) fun d hd => ?_
      · have hfree : '\'' ∉ value.toList := hc.value value hvalue
        rw [List.mem_singleton]
        rintro rfl
        exact hfree hd
      · obtain rfl := Option.some.inj hd
        simp
    rw [htext, readCondition, hname]
    simp only [hread, List.tail_cons]

theorem readJoin_text (join : Join) :
    readJoin (' ' :: (join.text.toList ++ ' ' :: rest)) = some (join, rest) := by
  cases join <;> rfl

/-- **Further conditions** are read up to the bracket. -/
theorem readJoined_text {cs : List Condition} (hcs : ∀ c ∈ cs, c.Legible)
    (hfuel : cs.length < fuel) :
    readJoined fuel ((joinedText cs).toList ++ ']' :: rest) = some (cs, rest) := by
  induction cs generalizing fuel with
  | nil =>
    obtain ⟨fuel, rfl⟩ := Nat.exists_eq_add_of_le' (show 1 ≤ fuel from hfuel)
    rfl
  | cons c cs ih =>
    rw [List.length_cons] at hfuel
    obtain ⟨fuel, rfl⟩ := Nat.exists_eq_add_of_le' (show 1 ≤ fuel by omega)
    have htext : (joinedText (c :: cs)).toList ++ ']' :: rest = ' ' :: (c.join.text.toList ++
        ' ' :: (c.text.toList ++ ((joinedText cs).toList ++ ']' :: rest))) := by
      simp [joinedText]
    have hc := readCondition_text (hcs c List.mem_cons_self) c.join (head_joinedText cs rest)
    have hmore := ih (fun d hd => hcs d (List.mem_cons_of_mem c hd)) (show _ < fuel by omega)
    rw [htext, readJoined]
    · simp only [readJoin_text, hc, hmore, Option.bind_eq_bind, Option.bind_some]
      rfl
    · intro more hmore
      exact absurd (List.cons.inj hmore).1 (by decide)

theorem length_le_length_joinedText (cs : List Condition) :
    cs.length ≤ (joinedText cs).toList.length := by
  induction cs with
  | nil => simp
  | cons c cs ih =>
    simp only [joinedText, String.toList_append, List.length_append, List.length_cons]
    have hblank : " ".toList.length = 1 := rfl
    omega

/-- **A predicate** is read with its conditions, whatever joins the first. -/
theorem readPredicate_text {cs : List Condition} (hcs : ∀ c ∈ cs, c.Legible)
    (hrest : rest.head? ≠ some '[') :
    readPredicate ((predicateText cs).toList ++ rest) = some (plainConditions cs, rest) := by
  cases cs with
  | nil =>
    change readPredicate rest = some ([], rest)
    rw [readPredicate]
    rintro more rfl
    exact hrest rfl
  | cons c cs =>
    have htext : (predicateText (c :: cs)).toList ++ rest =
        '[' :: (c.text.toList ++ ((joinedText cs).toList ++ ']' :: rest)) := by
      simp [predicateText]
    have hc := readCondition_text (hcs c List.mem_cons_self) .and (head_joinedText cs rest)
    have hlength := length_le_length_joinedText cs
    have hmore : readJoined ((joinedText cs).toList ++ ']' :: rest).length
        ((joinedText cs).toList ++ ']' :: rest) = some (cs, rest) := by
      refine readJoined_text (fun d hd => hcs d (List.mem_cons_of_mem c hd)) ?_
      rw [List.length_append, List.length_cons]
      omega
    rw [htext, readPredicate]
    simp only [hc, hmore, Option.bind_eq_bind, Option.bind_some]
    rfl

/-- A test is not empty and does not begin with a slash, so that the slashes before it are told
apart. -/
theorem readAxis_text (axis : Axis) {test : String} (hne : test ≠ "")
    (htest : ∀ d ∈ test.toList, d ∉ ['/', '[']) :
    readAxis (axis.text.toList ++ (test.toList ++ rest)) = some (axis, test.toList ++ rest) := by
  cases axis with
  | descendant => rfl
  | child =>
    cases hlist : test.toList with
    | nil => exact absurd (String.toList_eq_nil_iff.1 hlist) hne
    | cons c cs =>
      have hc : c ≠ '/' := by
        rintro rfl
        exact htest '/' (by simp [hlist]) (by simp)
      change readAxis ('/' :: c :: (cs ++ rest)) = _
      simp [readAxis, hc]

/-- **Selections** are read to the end. -/
theorem readSelections_text {selections : List TagSelection}
    (h : ∀ s ∈ selections, s.Legible) (hfuel : selections.length ≤ fuel) :
    readSelections fuel (Path.text { selections := selections }).toList =
      some (selections.map TagSelection.plain) := by
  induction selections generalizing fuel with
  | nil => cases fuel <;> rfl
  | cons s selections ih =>
    have hs := h s List.mem_cons_self
    rw [List.length_cons] at hfuel
    obtain ⟨fuel, rfl⟩ := Nat.exists_eq_add_of_le' (show 1 ≤ fuel by omega)
    have hmore := ih (fun r hr => h r (List.mem_cons_of_mem s hr)) (show _ ≤ fuel by omega)
    have hnext := head_pathText selections
    set next := (Path.text { selections := selections }).toList
    have htext : (Path.text { selections := s :: selections }).toList = s.axis.text.toList ++
        (s.test.text.toList ++ ((predicateText s.conditions).toList ++ next)) := by
      simp [next, Path.text, TagSelection.text]
    have haxis : readAxis (s.axis.text.toList ++
        (s.test.text.toList ++ ((predicateText s.conditions).toList ++ next))) =
          some (s.axis, s.test.text.toList ++ ((predicateText s.conditions).toList ++ next)) :=
      readAxis_text s.axis hs.test_ne hs.test
    have htest : readUntil ['/', '[']
        (s.test.text.toList ++ ((predicateText s.conditions).toList ++ next)) =
          (s.test.text, (predicateText s.conditions).toList ++ next) := by
      refine readUntil_append hs.test fun d hd => ?_
      cases hconditions : s.conditions with
      | nil =>
        rw [hconditions] at hd
        rcases hnext with hnil | hslash
        · simp [predicateText, hnil] at hd
        · obtain rfl : '/' = d := by simpa [predicateText, hslash] using hd
          simp
      | cons c cs =>
        obtain rfl : '[' = d := by simpa [hconditions, predicateText] using hd
        simp
    have hpredicate : readPredicate ((predicateText s.conditions).toList ++ next) =
        some (plainConditions s.conditions, next) := by
      refine readPredicate_text hs.conditions ?_
      rcases hnext with hnil | hslash
      · simp [hnil]
      · simp [hslash]
    rw [htext, readSelections]
    · simp only [haxis, htest, hpredicate, hmore, Option.bind_eq_bind, Option.bind_some]
      rfl
    · cases s.axis <;> simp [Axis.text]

/-! ## Texts and paths -/

theorem length_le_length_text (selections : List TagSelection) :
    selections.length ≤ (Path.text { selections := selections }).length := by
  induction selections with
  | nil => simp
  | cons s selections ih =>
    have hcons : Path.text { selections := s :: selections } =
        s.text ++ Path.text { selections := selections } := rfl
    have hone : 1 ≤ s.axis.text.length := by
      cases s.axis <;> decide
    rw [hcons, TagSelection.text]
    simp only [String.length_append, List.length_cons]
    omega

/-- **The text of a legible path is read back**, as far as it shows the path. -/
theorem Path.decode_text {p : Path} (hp : p.Legible) : Path.decode p.text = some p.plain := by
  rw [Path.decode, readSelections_text hp (length_le_length_text p.selections)]
  rfl

theorem predicateText_plainConditions (cs : List Condition) :
    predicateText (plainConditions cs) = predicateText cs := by
  cases cs <;> rfl

/-- What is left of a path has its text. -/
theorem Path.text_plain (p : Path) : p.plain.text = p.text := by
  have hplain (s : TagSelection) : s.plain.text = s.text := by
    rw [TagSelection.text, TagSelection.text, TagSelection.plain, predicateText_plainConditions]
    rfl
  simp only [Path.plain, Path.text, List.foldr_map, hplain]

/-- Paths that agree have the same text, legible or not. -/
theorem Path.text_eq_of_agrees {p q : Path} (h : p.Agrees q) : p.text = q.text := by
  rw [← Path.text_plain p, Path.plain_eq_iff.2 h, Path.text_plain q]

/-- **The text of a path is unambiguous.** Two legible paths have the same text just if they agree
selection by selection in axis, text of the test and conditions, whatever their keys and first joins
are; and from the text the path is read back up to these. -/
theorem Path.text_eq_iff_agrees {p q : Path} (hp : p.Legible) (hq : q.Legible) :
    (p.text = q.text ↔ p.Agrees q) ∧ Path.decode p.text = some p.plain := by
  refine ⟨⟨fun htext => ?_, fun h => ?_⟩, Path.decode_text hp⟩
  · have hdecode : some p.plain = some q.plain := by
      rw [← Path.decode_text hp, htext, Path.decode_text hq]
    exact Path.plain_eq_iff.1 (Option.some.inj hdecode)
  · rw [← Path.text_plain p, Path.plain_eq_iff.2 h, Path.text_plain q]

/-- A value that looks like the end of a predicate. -/
theorem Path.text_eq_iff_agrees_of_bracket :
    Path.Legible ⟨[⟨"k", .any, .descendant, [⟨"id", some "] or /a[", .or⟩]⟩]⟩ ∧
      Path.Legible ⟨[⟨"*.0", .named "*", .descendant, [⟨"id", some "] or /a[", .and⟩]⟩]⟩ ∧
      (Path.text ⟨[⟨"k", .any, .descendant, [⟨"id", some "] or /a[", .or⟩]⟩]⟩ =
          Path.text ⟨[⟨"*.0", .named "*", .descendant, [⟨"id", some "] or /a[", .and⟩]⟩]⟩ ↔
        Path.Agrees ⟨[⟨"k", .any, .descendant, [⟨"id", some "] or /a[", .or⟩]⟩]⟩
          ⟨[⟨"*.0", .named "*", .descendant, [⟨"id", some "] or /a[", .and⟩]⟩]⟩) ∧
      Path.decode "//*[@id='] or /a[']" =
        some ⟨[⟨"", .named "*", .descendant, [⟨"id", some "] or /a[", .and⟩]⟩]⟩ := by
  have hcondition (join : Join) : Condition.Legible ⟨"id", some "] or /a[", join⟩ :=
    ⟨by simp, by simp⟩
  have hlegible (key : String) (test : NodeTest) (join : Join) (htest : test.text = "*") :
      Path.Legible ⟨[⟨key, test, .descendant, [⟨"id", some "] or /a[", join⟩]⟩]⟩ := by
    intro s hs
    obtain rfl := List.mem_singleton.1 hs
    exact ⟨by simp [htest], by simp [htest], by simpa using hcondition join⟩
  have hp := hlegible "k" .any .or rfl
  have hq := hlegible "*.0" (.named "*") .and rfl
  obtain ⟨htext, hdecode⟩ := Path.text_eq_iff_agrees hp hq
  exact ⟨hp, hq, htext, hdecode⟩

end MarkupQuery.Query
