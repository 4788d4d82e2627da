import MarkupQuery.Proofs.Selector.Chain
import MarkupQuery.Proofs.XPath.Progress
import MarkupQuery.Proofs.XPath.SoundReading

/-!
# Values with quotes

A value stands between single quotes as it is, so a quote in it ends the literal early, and what is
behind it is read as a part of the expression. Most such values are rejected with the text of the
query: those whose text clashes (`Query.clashes`), because a literal is left without an end or has a
token behind it that cannot stand there (`Selector.select_of_clashes`). In a text without double
quotes, braces and comments an odd number of quotes is enough.

Not all values with quotes clash. Two quotes are one quote of the value, and a value may hold an
operator and a literal of its own: then the query means something else
(`Selector.select_of_operator`).
-/

namespace MarkupQuery

open Query (Builder Call)
open XPath (Sound Surroundings Token isNCName)
open XPath.Lexer (Cuts Tame lex)

namespace Query

/-- Whether a value, put between single quotes, leaves tokens that no expression holds. -/
def clashes (value : String) : Bool :=
  !XPath.sound (lex ("'" ++ value ++ "']"))

theorem clashes_iff {value : String} :
    clashes value = true ↔ ¬ Sound (lex ("'" ++ value ++ "']")) := by
  rw [clashes, Bool.not_eq_true', Sound, Bool.not_eq_true]

/-- An odd number of quotes clashes, where quotes can only stand for literals. -/
theorem clashes_of_odd {value : String} (htame : Tame value.toList)
    (hodd : value.toList.count '\'' % 2 = 1) : clashes value = true := by
  have htext : ("'" ++ value ++ "']").toList = '\'' :: (value.toList ++ ['\'', ']']) := by simp
  have hbad : Token.bad ∈ lex ("'" ++ value ++ "']") := by
    refine XPath.Lexer.bad_mem_lexUpTo (Nat.le_of_eq String.length_toList) ?_ ?_
    · rw [htext]
      exact htame.quoted
    · rw [htext, List.count_cons_self, List.count_append]
      simp
      omega
  rw [clashes_iff]
  intro hsound
  exact XPath.not_mem_of_sound hsound hbad

/-- The tokens of a query for a value end in those of the value between its quotes. -/
theorem cuts_value {tag name : String} (htag : isNCName tag = true) (hname : isNCName name = true)
    (value : String) :
    Cuts ("//" ++ tag ++ "[@" ++ name ++ "='" ++ value ++ "']").toList
      ([.slashSlash, .name tag, .openBracket, .at, .name name, .equals] ++
        lex ("'" ++ value ++ "']")) := by
  have htext : ("//" ++ tag ++ "[@" ++ name ++ "='" ++ value ++ "']").toList =
      '/' :: '/' :: (tag.toList ++ '[' :: '@' :: (name.toList ++
        '=' :: ("'" ++ value ++ "']").toList)) := by
    simp
  rw [htext]
  have hquoted := XPath.Lexer.cuts_lex ("'" ++ value ++ "']")
  have hequals := XPath.Lexer.cuts_equals (by simp) hquoted
  have hattribute := XPath.Lexer.cuts_at
    (XPath.Lexer.cuts_name (XPath.isName_of_isNCName hname) rfl hequals)
  exact XPath.Lexer.cuts_slashSlash (XPath.Lexer.cuts_name (XPath.isName_of_isNCName htag) rfl
    (XPath.Lexer.cuts_openBracket hattribute))

end Query

namespace Document

/-- **A query for a value that clashes is rejected.** -/
theorem compile_of_clashes {tag name value : String} (htag : isNCName tag = true)
    (hname : isNCName name = true) (hvalue : Query.clashes value = true) :
    ∃ code, compile ("//" ++ tag ++ "[@" ++ name ++ "='" ++ value ++ "']") =
      .error (.compile ("//" ++ tag ++ "[@" ++ name ++ "='" ++ value ++ "']") code) := by
  rw [compile]
  split
  · rename_i f _
    exact ⟨f.code, rfl⟩
  · rename_i e hparse
    have hsound := XPath.sound_of_parse hparse
    rw [XPath.Lexer.lex_of_cuts (Query.cuts_value htag hname value)] at hsound
    exact absurd (XPath.sound_of_append hsound) (Query.clashes_iff.1 hvalue)

theorem evaluate_eq (d : Document) (w : Surroundings) {query : String}
    (hquery : query.isEmpty = false) :
    d.evaluate query w = (compile query).bind (d.execute w query) := by
  rw [evaluate, hquery, if_neg Bool.false_ne_true]

end Document

namespace Selector

/-- The text of a query for elements with a value of an attribute. -/
theorem peek_calls_value (tag name value : String) :
    (Builder.new.calls [.tag tag, .andAttribute name (some value)]).peek =
      "//" ++ tag ++ "[@" ++ name ++ "='" ++ value ++ "']" := by
  have hpeek : (Builder.new.calls [.tag tag, .andAttribute name (some value)]).peek =
      "//" ++ tag ++ ("[" ++ ("@" ++ name ++ "='" ++ value ++ "'") ++ "" ++ "]") ++ "" := rfl
  rw [hpeek, String.append_empty, String.append_empty]
  simp only [String.append_assoc]
  rfl

/-- **Values that clash are rejected** with the text of the query, and count nothing. -/
theorem select_of_clashes (o : Document.Options) (html : String) (w : Surroundings)
    {tag name : String} (htag : isNCName tag = true) (hname : isNCName name = true) :
    (∀ value, Query.clashes value = true →
        ∃ code,
          (((withOptions o html).calls [.tag tag, .andAttribute name (some value)]).select w).1 =
            .error (.compile ("//" ++ tag ++ "[@" ++ name ++ "='" ++ value ++ "']") code) ∧
          (((withOptions o html).calls [.tag tag, .andAttribute name (some value)]).length w).1 =
            0) ∧
      (∀ value : String, Tame value.toList → value.toList.count '\'' % 2 = 1 →
        Query.clashes value = true) ∧
      ∀ value, ∃ found,
        (((withOptions o html).calls
          [.tag tag, .andAttribute name (some (Query.quoted value))]).select w).1 = .ok found := by
  refine ⟨fun value hvalue => ?_, fun value => Query.clashes_of_odd, fun value => ?_⟩
  · obtain ⟨code, hcompile⟩ := Document.compile_of_clashes htag hname hvalue
    have hempty : ("//" ++ tag ++ "[@" ++ name ++ "='" ++ value ++ "']").isEmpty = false := by
      rw [Bool.eq_false_iff, ne_eq, String.isEmpty_iff]
      intro h
      simpa using congrArg String.toList h
    have hselect :
        (((withOptions o html).calls [.tag tag, .andAttribute name (some value)]).select w).1 =
          .error (.compile ("//" ++ tag ++ "[@" ++ name ++ "='" ++ value ++ "']") code) := by
      refine (select_calls_eq (Document.parseWith o html) w _).trans ?_
      rw [peek_calls_value, Document.evaluate_eq _ w hempty, hcompile]
      rfl
    exact ⟨code, hselect, length_of_select hselect⟩
  · have hnames : ∀ c ∈ [Call.tag tag, .andAttribute name (some value)],
        c.isWellNamed = true := by
      simp [Call.isWellNamed, htag, hname]
    obtain ⟨found, hselect, -⟩ :=
      select_calls _ w (Document.distinct_parseWith o html) (by simp) hnames
    exact ⟨_, hselect⟩

/-- An apostrophe. -/
theorem select_of_clashes_of_apostrophe :
    isNCName "a" = true ∧ isNCName "title" = true ∧ Query.clashes "it's" = true ∧
      (∃ code,
        ((withOptions {} "<a title=it's>x</a>").calls
          [.tag "a", .andAttribute "title" (some "it's")]).select.1 =
            .error (.compile "//a[@title='it's']" code)) ∧
      ((withOptions {} "<a title=it's>x</a>").calls
        [.tag "a", .andAttribute "title" (some "it's")]).length.1 = 0 ∧
      ∃ found, ((withOptions {} "<a title=it's>x</a>").calls
        [.tag "a", .andAttribute "title" (some "it''s")]).select.1 = .ok found := by
  have htag : isNCName "a" = true := by decide
  have hname : isNCName "title" = true := by decide
  obtain ⟨hrejected, hodd, hquoted⟩ :=
    select_of_clashes {} "<a title=it's>x</a>" {} htag hname
  have hclashes : Query.clashes "it's" = true :=
    hodd "it's" ⟨by decide, by decide, by decide⟩ (by decide)
  obtain ⟨code, hselect, hlength⟩ := hrejected "it's" hclashes
  exact ⟨htag, hname, hclashes, ⟨code, hselect⟩, hlength, hquoted "it's"⟩

/-- A value that holds an operator and a literal of its own: all links are selected. -/
theorem select_of_operator :
    ((new "<a title=x>1</a><a title=y>2</a>").calls
      [.tag "a", .andAttribute "title" (some "x' or '1")]).select.1 =
        .ok { query := "//a[@title='x' or '1']", nodes := [4, 7] } := by
  decide +kernel

end Selector

end MarkupQuery
