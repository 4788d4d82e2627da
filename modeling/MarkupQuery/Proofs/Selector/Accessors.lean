import MarkupQuery.Proofs.Document.Nodes
import MarkupQuery.Proofs.Selector.Order

/-!
# What selected nodes say of themselves

A selected node lists its attributes, and it gives the value of an attribute by its name. The first
reads pairs; the second asks the document for the number of the name, and compares numbers. Both
agree at every node that a query selects (`Selector.accessors_agree`): a name has one number and a
number one name (`Table.nameNumber?_inj`), the names of attributes are numbered
(`Table.exists_nameNumber?_eq`), and no element has two attributes of one name.
-/

namespace MarkupQuery

namespace Document

namespace Table

variable {t : Table} {n number : Nat} {name name' value : String}

/-! ## Names by number -/

theorem mem_names_of_mem_attributes (h : (name, value) ∈ t.attributes n) : name ∈ t.names := by
  obtain ⟨m, hm, hkind⟩ := List.mem_filterMap.1 h
  have hattribute : t.isAttribute m = true :=
    (Bool.and_eq_true_iff.1 (List.mem_filter.1 hm).2).1
  refine List.mem_filterMap.2
    ⟨m, List.mem_range.2 (lt_size_of_isAttribute hattribute), ?_⟩
  rw [name?]
  split at hkind
  · rename_i hm
    rw [hm, (Prod.mk.inj (Option.some.inj hkind)).1]
  · cases hkind

/-- The name of an attribute has a number. -/
theorem exists_nameNumber?_eq (h : (name, value) ∈ t.attributes n) :
    ∃ number, t.nameNumber? name = some number :=
  Option.isSome_iff_exists.1 (List.isSome_idxOf?.2 (mem_names_of_mem_attributes h))

/-- One number is that of one name. -/
theorem nameNumber?_inj (h : t.nameNumber? name = some number)
    (h' : t.nameNumber? name' = some number) : name = name' := by
  obtain ⟨_, hname, -⟩ := List.idxOf?_eq_some_iff.1 h
  obtain ⟨_, hname', -⟩ := List.idxOf?_eq_some_iff.1 h'
  exact hname.symm.trans hname'

/-- **An attribute is found by the number of its name**, where names are distinct. -/
theorem attributeValue?_eq_some_iff (hnodup : ((t.attributes n).map (·.1)).Nodup)
    (hname : t.nameNumber? name = some number) :
    t.attributeValue? n number = some value ↔ (name, value) ∈ t.attributes n := by
  rw [attributeValue?, Option.map_eq_some_iff]
  constructor
  · rintro ⟨⟨name', value⟩, hfind, rfl⟩
    have hname' : t.nameNumber? name' = some number := by simpa using List.find?_some hfind
    obtain rfl := nameNumber?_inj hname hname'
    exact List.mem_of_find?_eq_some hfind
  · intro hmem
    have hsome : ((t.attributes n).find? fun a => t.nameNumber? a.1 == some number).isSome :=
      List.find?_isSome.2 ⟨(name, value), hmem, beq_iff_eq.2 hname⟩
    obtain ⟨a, hfind⟩ := Option.isSome_iff_exists.1 hsome
    have hname' : t.nameNumber? a.1 = some number := by simpa using List.find?_some hfind
    have ha : a = (name, value) := List.inj_on_of_nodup_map hnodup
      (List.mem_of_find?_eq_some hfind) hmem (nameNumber?_inj hname' hname)
    exact ⟨a, hfind, congrArg Prod.snd ha⟩

end Table

/-! ## Attributes of nodes -/

variable {d : Document} {n : NodeId} {name value : String}

/-- The nodes of an answer are nodes of the document. -/
theorem lt_size_of_mem_evaluate {w : XPath.Surroundings} {query : String} {numbers : List NodeId}
    (h : d.evaluate query w = .ok numbers) (hn : n ∈ numbers) : n < d.table.size := by
  obtain ⟨e, nodes, -, -, rfl⟩ := evaluate_eq_ok_iff.1 h
  obtain ⟨m, -, rfl⟩ := List.mem_map.1 hn
  exact m.isLt

/-- Only elements have attributes, so all are listed. -/
theorem attributes_eq (hn : n < d.table.size) : d.attributes n = d.table.attributes n := by
  rw [attributes]
  split_ifs with helement
  · rfl
  · rw [d.table_eq] at hn helement ⊢
    exact (Table.attributes_eq_nil hn (Bool.eq_false_iff.2 helement)).symm

theorem nodup_attributes (hdistinct : d.root.Distinct) (hn : n < d.table.size) :
    ((d.attributes n).map (·.1)).Nodup := by
  rw [attributes_eq hn]
  rw [d.table_eq] at hn ⊢
  exact Table.nodup_attributes hdistinct hn

/-- **A value is given by name just if it is listed** with this name. -/
theorem attribute?_eq_some_iff (hdistinct : d.root.Distinct) (hn : n < d.table.size) :
    d.attribute? n name = some value ↔ (name, value) ∈ d.attributes n := by
  have hnodup := nodup_attributes hdistinct hn
  rw [attributes_eq hn] at hnodup ⊢
  rw [attribute?, Option.bind_eq_bind, Option.bind_eq_some_iff]
  constructor
  · rintro ⟨number, hname, hvalue⟩
    exact (Table.attributeValue?_eq_some_iff hnodup hname).1 hvalue
  · intro hmem
    obtain ⟨number, hname⟩ := Table.exists_nameNumber?_eq hmem
    exact ⟨number, hname, (Table.attributeValue?_eq_some_iff hnodup hname).2 hmem⟩

/-- What has no name of an element lists no attributes. -/
theorem attributes_eq_nil_of_elementName (h : d.elementName? n = none) : d.attributes n = [] := by
  rw [attributes, if_neg]
  intro helement
  rw [elementName?] at h
  rw [Table.isElement] at helement
  split at h
  · cases h
  · rename_i hkind
    split at helement
    · exact hkind _ ‹_›
    · cases helement

end Document

namespace Selector

open Query (Builder)

/-- **What a selected node says of itself agrees**, whatever the markup, the options, the
surroundings and the query: the names of its attributes are distinct, an attribute has a value by
name just if the pair is listed, and a node that is no element has no attributes, neither listed nor
by name. -/
theorem accessors_agree (o : Document.Options) (html : String) (w : XPath.Surroundings)
    (b : Builder) {found : Selection}
    (hselect :
      (({ document := .parseWith o html, builder := b } : Selector).select w).1 = .ok found)
    {n : Document.NodeId} (hn : n ∈ found.nodes) :
    (((Document.parseWith o html).attributes n).map (·.1)).Nodup ∧
      (∀ name value, (Document.parseWith o html).attribute? n name = some value ↔
        (name, value) ∈ (Document.parseWith o html).attributes n) ∧
      ((Document.parseWith o html).elementName? n = none →
        (Document.parseWith o html).attributes n = [] ∧
          ∀ name, (Document.parseWith o html).attribute? n name = none) := by
  have hdistinct := Document.distinct_parseWith o html
  have hlt : n < (Document.parseWith o html).table.size :=
    Document.lt_size_of_mem_evaluate (evaluate_of_select hselect) hn
  refine ⟨Document.nodup_attributes hdistinct hlt,
    fun name value => Document.attribute?_eq_some_iff hdistinct hlt, fun hname => ?_⟩
  have hnil := Document.attributes_eq_nil_of_elementName hname
  refine ⟨hnil, fun name => Option.eq_none_iff_forall_ne_some.2 fun value hvalue => ?_⟩
  have hmem := (Document.attribute?_eq_some_iff hdistinct hlt).1 hvalue
  rw [hnil] at hmem
  cases hmem

/-- An element with two attributes that have one name but for a prefix, and the one attribute that
came of these. -/
theorem accessors_agree_of_prefix :
    ((withOptions {} "<math xlink:href=x href=y>").call (.tag "math, //@*")).select.1 =
        .ok { query := "//math, //@*", nodes := [4, 5] } ∧
      (Document.parseWith {} "<math xlink:href=x href=y>").attribute? 4 "href" = some "y" ∧
      (Document.parseWith {} "<math xlink:href=x href=y>").attributes 5 = [] ∧
      (Document.parseWith {} "<math xlink:href=x href=y>").attribute? 5 "href" = none := by
  have hselect : ((withOptions {} "<math xlink:href=x href=y>").call
      (.tag "math, //@*")).select.1 = .ok { query := "//math, //@*", nodes := [4, 5] } := by
    decide +kernel
  have hlisted : (Document.parseWith {} "<math xlink:href=x href=y>").attributes 4 =
      [("href", "y")] := by
    decide +kernel
  have hname : (Document.parseWith {} "<math xlink:href=x href=y>").elementName? 5 = none := by
    decide +kernel
  obtain ⟨-, hvalue, -⟩ :=
    accessors_agree {} "<math xlink:href=x href=y>" {} (Builder.new.call (.tag "math, //@*"))
      hselect (List.mem_cons_self (a := 4))
  obtain ⟨-, -, hnone⟩ :=
    accessors_agree {} "<math xlink:href=x href=y>" {} (Builder.new.call (.tag "math, //@*"))
      hselect (List.mem_cons_of_mem 4 (List.mem_singleton_self 5))
  obtain ⟨hempty, hvalues⟩ := hnone hname
  refine ⟨hselect, (hvalue "href" "y").2 ?_, hempty, hvalues "href"⟩
  rw [hlisted]
  exact List.mem_singleton_self _

end Selector

end MarkupQuery
