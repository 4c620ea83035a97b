import Mathlib.Data.List.Nodup
import ScriptStats.Proofs.Json.RoundTrip

/-!
# Sorted fields

Sorting the fields of all objects keeps what they say under each name.
-/

namespace ScriptStats.Json

theorem sortFieldsItems_eq (items : List Json) : sortFieldsItems items = items.map sortFields := by
  induction items with
  | nil => rfl
  | cons item items ih => rw [sortFieldsItems, ih, List.map_cons]

theorem sortFieldsFields_eq (fields : List (RawText × Json)) :
    sortFieldsFields fields = fields.map fun field => (field.1, sortFields field.2) := by
  induction fields with
  | nil => rfl
  | cons field fields ih => rw [sortFieldsFields, ih, List.map_cons]

/-- The fields of a sorted object. -/
def sorted (fields : List (RawText × Json)) : List (RawText × Json) :=
  (fields.map fun field => (field.1, sortFields field.2)).mergeSort
    fun a b => (compare a.1 b.1).isLE

theorem sortFields_object (fields : List (RawText × Json)) :
    sortFields (.object fields) = .object (sorted fields) := by
  rw [sortFields, sortFieldsFields_eq, sorted]

theorem sorted_perm (fields : List (RawText × Json)) :
    (sorted fields).Perm (fields.map fun field => (field.1, sortFields field.2)) :=
  List.mergeSort_perm _ _

theorem mem_sorted_iff {fields : List (RawText × Json)} {field : RawText × Json} :
    field ∈ sorted fields ↔ ∃ value, (field.1, value) ∈ fields ∧ field.2 = sortFields value := by
  rw [(sorted_perm fields).mem_iff, List.mem_map]
  constructor
  · rintro ⟨⟨name, value⟩, hmem, rfl⟩
    exact ⟨value, hmem, rfl⟩
  · rintro ⟨value, hmem, hvalue⟩
    exact ⟨_, hmem, by rw [← hvalue]⟩

theorem names_sorted_perm (fields : List (RawText × Json)) :
    ((sorted fields).map Prod.fst).Perm (fields.map Prod.fst) := by
  have hperm := (sorted_perm fields).map Prod.fst
  rwa [List.map_map] at hperm

theorem IsPlain.sortFields {v : Json} (h : v.IsPlain) : v.sortFields.IsPlain := by
  induction h with
  | null => exact .null
  | bool b => exact .bool b
  | int n => exact .int n
  | string s => exact .string s
  | array _ ih =>
    rw [Json.sortFields, sortFieldsItems_eq]
    refine .array fun item hitem => ?_
    obtain ⟨item, hmem, rfl⟩ := List.mem_map.1 hitem
    exact ih item hmem
  | @object fields hnodup hnames _ ih =>
    rw [sortFields_object]
    refine .object ((names_sorted_perm fields).nodup_iff.2 hnodup) (fun field hfield => ?_)
      fun field hfield => ?_
    · obtain ⟨value, hmem, -⟩ := mem_sorted_iff.1 hfield
      exact hnames (field.1, value) hmem
    · obtain ⟨value, hmem, hvalue⟩ := mem_sorted_iff.1 hfield
      exact hvalue ▸ ih (field.1, value) hmem

theorem IsTidy.sortFields {v : Json} (h : v.IsTidy) : v.sortFields.IsTidy := by
  induction h with
  | null => exact .null
  | bool b => exact .bool b
  | int n => exact .int n
  | float x => exact .float x
  | string s => exact .string s
  | array _ ih =>
    rw [Json.sortFields, sortFieldsItems_eq]
    refine .array fun item hitem => ?_
    obtain ⟨item, hmem, rfl⟩ := List.mem_map.1 hitem
    exact ih item hmem
  | @object fields hnodup _ ih =>
    rw [sortFields_object]
    refine .object ((names_sorted_perm fields).nodup_iff.2 hnodup) fun field hfield => ?_
    obtain ⟨value, hmem, hvalue⟩ := mem_sorted_iff.1 hfield
    exact hvalue ▸ ih (field.1, value) hmem

theorem Fits.sortFields {depth : Nat} {v : Json} (h : Fits depth v) : Fits depth v.sortFields := by
  obtain ⟨hnested, hwritable⟩ := h
  induction hnested with
  | null | bool | int | float | string => exact ⟨by constructor, hwritable⟩
  | array _ ih =>
    rw [hasWritableNumbers_array, List.all_eq_true] at hwritable
    rw [Json.sortFields, sortFieldsItems_eq, fits_array_iff]
    intro item hitem
    obtain ⟨item, hmem, rfl⟩ := List.mem_map.1 hitem
    exact ih item hmem (hwritable item hmem)
  | object _ ih =>
    rw [hasWritableNumbers_object, List.all_eq_true] at hwritable
    rw [sortFields_object, fits_object_iff]
    intro field hfield
    obtain ⟨value, hmem, hvalue⟩ := mem_sorted_iff.1 hfield
    exact hvalue ▸ ih (field.1, value) hmem (hwritable (field.1, value) hmem)

/-! ## Looking up a name -/

theorem lookup_eq_some_iff {β : Type} {fields : List (RawText × β)}
    (h : (fields.map Prod.fst).Nodup) {name : RawText} {value : β} :
    fields.lookup name = some value ↔ (name, value) ∈ fields := by
  induction fields with
  | nil => simp
  | cons field fields ih =>
    obtain ⟨other, found⟩ := field
    rw [List.map_cons, List.nodup_cons] at h
    by_cases hname : name = other
    · subst hname
      have hnot : (name, value) ∉ fields := fun hmem => h.1 (List.mem_map.2 ⟨_, hmem, rfl⟩)
      simp [hnot, eq_comm]
    · rw [List.lookup_cons, beq_false_of_ne hname]
      simp [hname, ih h.2]

theorem IsTidy.field? {v value : Json} (h : v.IsTidy) {name : String}
    (hvalue : v.field? name = some value) : value.IsTidy := by
  cases h with
  | @object fields hnodup hvalues =>
    exact hvalues (_, value) ((lookup_eq_some_iff hnodup).1 hvalue)
  | _ => cases hvalue

theorem lookup_sorted {fields : List (RawText × Json)} (h : (fields.map Prod.fst).Nodup)
    (name : RawText) : (sorted fields).lookup name = (fields.lookup name).map sortFields := by
  have hsorted := (names_sorted_perm fields).nodup_iff.2 h
  refine Option.ext fun value => ?_
  simp only [Option.map_eq_some_iff, lookup_eq_some_iff hsorted, lookup_eq_some_iff h,
    mem_sorted_iff]
  exact exists_congr fun found => and_congr_right fun _ => eq_comm

theorem field?_sortFields {v : Json} (h : v.IsTidy) (name : String) :
    v.sortFields.field? name = (v.field? name).map sortFields := by
  cases h with
  | @object fields hnodup _ =>
    rw [sortFields_object]
    exact lookup_sorted hnodup _
  | _ => rfl

end ScriptStats.Json
