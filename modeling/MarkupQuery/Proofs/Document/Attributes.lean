import Mathlib.Data.List.Induction
import MarkupQuery.Document.Loader

/-!
# Joined attributes

Attributes are set one after the other (`joinAttributes`). What results holds each name once, in the
place where it comes first and with the value that it has last (`joinAttributes_eq`).
-/

namespace MarkupQuery.Document

open MarkupQuery.Html (Attribute)

/-- The value of the last attribute of a name. -/
def lastValue (attributes : List Attribute) (name : String) : String :=
  ((attributes.reverse.find? (·.name == name)).map (·.value)).getD ""

/-- Each name where it comes first, with the value that it has last. -/
def lastValues (attributes : List Attribute) : List (String × String) :=
  (attributes.map (·.name)).eraseDups.map fun name => (name, lastValue attributes name)

theorem lastValue_concat (attributes : List Attribute) (a : Attribute) (name : String) :
    lastValue (attributes ++ [a]) name =
      if a.name = name then a.value else lastValue attributes name := by
  by_cases h : a.name = name <;> simp [lastValue, h]

theorem joinAttributes_concat (attributes : List Attribute) (a : Attribute) :
    joinAttributes (attributes ++ [a]) =
      setAttribute (joinAttributes attributes) a.name a.value := by
  simp [joinAttributes, setAttributes]

theorem any_lastValues (attributes : List Attribute) (name : String) :
    (lastValues attributes).any (·.1 == name) = (attributes.map (·.name)).contains name := by
  rw [Bool.eq_iff_iff]
  simp [lastValues]

theorem eraseDups_concat (names : List String) (name : String) :
    (names ++ [name]).eraseDups =
      if names.contains name then names.eraseDups else names.eraseDups ++ [name] := by
  rw [List.eraseDups_append, List.removeAll]
  cases h : names.contains name <;> simp_all [List.eraseDups_cons]

theorem nodup_eraseDups (names : List String) : names.eraseDups.Nodup := by
  induction names using List.reverseRec with
  | nil => simp
  | append_singleton names name ih =>
    rw [eraseDups_concat]
    split_ifs with h
    · exact ih
    · rw [List.nodup_append]
      refine ⟨ih, by simp, ?_⟩
      rintro other hother _ hname rfl
      simp_all

/-- Setting a name that is there changes its value in its place; another one comes behind. -/
theorem setAttribute_lastValues (attributes : List Attribute) (a : Attribute) :
    setAttribute (lastValues attributes) a.name a.value = lastValues (attributes ++ [a]) := by
  rw [setAttribute, any_lastValues, lastValues, lastValues, List.map_append, List.map_singleton,
    eraseDups_concat]
  split_ifs with hnew
  · rw [List.map_map]
    refine List.map_congr_left fun name _ => ?_
    by_cases h : a.name = name
    · simp [lastValue_concat, h]
    · simp [lastValue_concat, h, Ne.symm h]
  · rw [List.map_append]
    congr 1
    · refine List.map_congr_left fun name hname => ?_
      have hne : a.name ≠ name := by
        rintro rfl
        exact hnew (by simpa using hname)
      simp [lastValue_concat, hne]
    · simp [lastValue_concat]

/-- **A repeated name keeps its first place and its last value.** -/
theorem joinAttributes_eq (attributes : List Attribute) :
    joinAttributes attributes = lastValues attributes := by
  induction attributes using List.reverseRec with
  | nil => rfl
  | append_singleton attributes a ih =>
    rw [joinAttributes_concat, ih, setAttribute_lastValues]

theorem nodup_joinAttributes (attributes : List Attribute) :
    ((joinAttributes attributes).map (·.1)).Nodup := by
  rw [joinAttributes_eq, lastValues, List.map_map]
  simpa [Function.comp_def] using nodup_eraseDups _

end MarkupQuery.Document
