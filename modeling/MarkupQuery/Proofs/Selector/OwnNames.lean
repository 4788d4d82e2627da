import MarkupQuery.Proofs.Selector.Chain

/-!
# Selecting elements by their own names

What markup calls an element or an attribute is asked for by the same text. Where this text is a
name without colons the element is found: a tag call with its name selects it, and so does a
presence test with the name of each of its attributes (`Selector.mem_select_of_own_names`). Other
names that markup may give stand in the query as they are, too, and mean something else there, or
nothing: an element `o:p` is not found by its name (`Selector.own_name_of_prefix`).
-/

namespace MarkupQuery

open Document (Place Table)
open XPath (Surroundings)

namespace Document

variable {d : Document} {n : NodeId} {name : String}

/-- The place of an element. -/
theorem exists_place_of_elementName (hn : d.elementName? n = some name) :
    ∃ x ∈ (Place.document d.root).below, x.number = n ∧ x.kind = .element name ∧
      d.attributes n = x.attributes := by
  have hkind : d.table.kind n = .element name := by
    rw [elementName?] at hn
    split at hn
    · rw [‹d.table.kind n = _›, Option.some.inj hn]
    · cases hn
  have helement : d.table.isElement n = true := by rw [Table.isElement, hkind]
  have hattribute : d.table.isAttribute n = false := by rw [Table.isAttribute, hkind]
  have hlt := Table.lt_size_of_isElement helement
  rw [d.table_eq] at hlt hattribute
  obtain ⟨x, hx, rfl⟩ := Table.exists_number_eq hlt hattribute
  have hlists : d.table.Lists x := lists_of_mem hx
  rw [Table.kind_number hlists] at hkind
  refine ⟨x, ?_, rfl, hkind, ?_⟩
  · rcases List.mem_cons.1 hx with rfl | hbelow
    · cases hkind
    · exact hbelow
  · rw [attributes, if_pos helement, Table.attributes_number hlists]

end Document

namespace Selector

open Query (Call Builder TagSelection chosen)

/-- What one selection chooses anywhere in a document. -/
theorem mem_chosen_singleton {root : Document.Tree} {s : TagSelection} {x : Place}
    (haxis : s.axis = .descendant) (hx : x ∈ (Place.document root).below)
    (hfits : s.fits x = true) : x ∈ chosen {.document root} [s] := by
  refine Query.TagSelection.mem_reach_iff.2 ⟨.document root, rfl, ?_, hfits⟩
  rw [haxis]
  exact Place.mem_below_iff.1 hx

/-- A call whose only selection fits a place finds the place. -/
theorem mem_select_of_fits {d : Document} (w : Surroundings) (hdistinct : d.root.Distinct)
    {c : Call} (hname : c.isWellNamed = true) (hquoted : c.quoted = c) {s : TagSelection}
    (hselections : (Builder.new.call c).selections = [s]) (haxis : s.axis = .descendant)
    {x : Place} (hx : x ∈ (Place.document d.root).below) (hfits : s.fits x = true) :
    ∃ found, (((ofDocument d).call c).select w).1 = .ok found ∧ x.number ∈ found.nodes := by
  obtain ⟨places, hselect, -, hplaces⟩ :=
    select_calls d w hdistinct (List.cons_ne_nil c []) (by simpa using hname)
  rw [List.map_singleton, hquoted] at hselect
  refine ⟨_, hselect, List.mem_map_of_mem ((hplaces x).2 ?_)⟩
  have hcalls : (Builder.new.calls [c]).selections = [s] := hselections
  rw [hcalls]
  exact mem_chosen_singleton haxis hx hfits

/-- **Every element is found by its own names**, in any surroundings, where these are names without
colons: by that of its tag, and by that of each of its attributes. -/
theorem mem_select_of_own_names (o : Document.Options) (html : String) (w : Surroundings)
    {n : Document.NodeId} {name : String}
    (hn : (Document.parseWith o html).elementName? n = some name) :
    (XPath.isNCName name = true →
        ∃ found, (((withOptions o html).call (.tag name)).select w).1 = .ok found ∧
          n ∈ found.nodes) ∧
      ∀ a ∈ (Document.parseWith o html).attributes n, XPath.isNCName a.1 = true →
        ∃ found, (((withOptions o html).call (.hasAttribute a.1)).select w).1 = .ok found ∧
          n ∈ found.nodes := by
  obtain ⟨x, hx, rfl, hkind, hattributes⟩ := Document.exists_place_of_elementName hn
  have hdistinct := Document.distinct_parseWith o html
  constructor
  · intro hname
    refine mem_select_of_fits w hdistinct (c := .tag name) ?_ rfl rfl rfl hx ?_
    · simp [Call.isWellNamed, hname]
    · simp [TagSelection.fits, hkind, Query.NodeTest.takes, Query.conditionsHold]
  · intro a ha hname
    rw [hattributes] at ha
    refine mem_select_of_fits w hdistinct (c := .hasAttribute a.1) hname rfl rfl rfl hx ?_
    have hany : x.attributes.any (fun b => b.1 = a.1) = true :=
      List.any_eq_true.2 ⟨a, ha, by simp⟩
    have hholds : Query.conditionsHold [{ name := a.1, value := none, join := .and }]
        x.attributes = true := by
      have hgroups : Query.groups [{ name := a.1, value := none, join := .and }] =
          [[{ name := a.1, value := none, join := .and }]] := rfl
      simp [Query.conditionsHold, hgroups, Query.Condition.holds, hany]
    rw [TagSelection.fits, hkind]
    exact hholds

/-- An element with an attribute whose name is a word of the language. -/
theorem mem_select_of_own_names_of_word :
    (Document.parseWith {} "<p for=x>").elementName? 4 = some "p" ∧
      (∃ found, ((withOptions {} "<p for=x>").call (.tag "p")).select.1 = .ok found ∧
        4 ∈ found.nodes) ∧
      ∃ found, ((withOptions {} "<p for=x>").call (.hasAttribute "for")).select.1 = .ok found ∧
        4 ∈ found.nodes := by
  have hname : (Document.parseWith {} "<p for=x>").elementName? 4 = some "p" := by decide +kernel
  have hattributes : (Document.parseWith {} "<p for=x>").attributes 4 = [("for", "x")] := by
    decide +kernel
  obtain ⟨htag, hattribute⟩ := mem_select_of_own_names {} "<p for=x>" {} hname
  refine ⟨hname, htag (by decide), hattribute ("for", "x") ?_ (by decide)⟩
  rw [hattributes]
  exact List.mem_singleton_self _

/-- A name with a prefix that is not declared: the query for it is no expression. -/
theorem own_name_of_prefix :
    (Document.parse "<o:p>x</o:p>").elementName? 4 = some "o:p" ∧
      ((new "<o:p>x</o:p>").call (.tag "o:p")).select.1 =
        .error (.compile "//o:p" "XPST0081") :=
  ⟨by decide +kernel, by decide +kernel⟩

end Selector

end MarkupQuery
