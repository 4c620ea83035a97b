import ScriptStats.Cache
import ScriptStats.Proofs.Json.Sorted
import ScriptStats.Stats.Fields

/-!
# Statistics read back

The statistics in a cache are plain values, from which they are read back as they were, also after
their fields have been sorted.
-/

namespace ScriptStats

/-! ## Plain values -/

namespace Json

theorem isPlain_strings (items : List String) : (strings items).IsPlain := by
  refine .array fun item hitem => ?_
  obtain ⟨s, -, rfl⟩ := List.mem_map.1 hitem
  exact .string s

theorem nodup_names_record {fields : List (String × Json)} (h : (fields.map Prod.fst).Nodup) :
    ((fields.map fun (name, value) => (RawText.ofString name, value)).map Prod.fst).Nodup := by
  have hnames := h.map fun _ _ => RawText.ofString_injective
  rwa [List.map_map] at hnames ⊢

theorem isPlain_record {fields : List (String × Json)} (hnodup : (fields.map Prod.fst).Nodup)
    (hvalues : ∀ field ∈ fields, field.2.IsPlain) : (record fields).IsPlain := by
  refine .object (nodup_names_record hnodup) (fun field hfield => ?_) fun field hfield => ?_
  · obtain ⟨⟨name, value⟩, -, rfl⟩ := List.mem_map.1 hfield
    exact ⟨name, rfl⟩
  · obtain ⟨⟨name, value⟩, hmem, rfl⟩ := List.mem_map.1 hfield
    exact hvalues _ hmem

theorem isTidy_record {fields : List (String × Json)} (hnodup : (fields.map Prod.fst).Nodup)
    (hvalues : ∀ field ∈ fields, field.2.IsTidy) : (record fields).IsTidy := by
  refine .object (nodup_names_record hnodup) fun field hfield => ?_
  obtain ⟨⟨name, value⟩, hmem, rfl⟩ := List.mem_map.1 hfield
  exact hvalues _ hmem

theorem field?_record (fields : List (String × Json)) (name : String) :
    (record fields).field? name = fields.lookup name := by
  change (fields.map _).lookup (RawText.ofString name) = _
  induction fields with
  | nil => rfl
  | cons field fields ih =>
    obtain ⟨other, value⟩ := field
    have hbeq : (RawText.ofString name == RawText.ofString other) = (name == other) := by
      rw [Bool.eq_iff_iff, beq_iff_eq, beq_iff_eq]
      exact ⟨RawText.ofString_injective, congrArg RawText.ofString⟩
    rw [List.map_cons, List.lookup_cons, List.lookup_cons, hbeq, ih]

theorem IsPlain.field? {v value : Json} (h : v.IsPlain) {name : String}
    (hvalue : v.field? name = some value) : value.IsPlain := by
  cases h with
  | @object fields hnodup _ hvalues =>
    exact hvalues (_, value) ((lookup_eq_some_iff hnodup).1 hvalue)
  | _ => cases hvalue

theorem asString?_sortFields (v : Json) : v.sortFields.asString? = v.asString? := by
  cases v <;> rfl

end Json

/-! ## Statistics in the cache -/

namespace FileStats

theorem cachedFields_eq (stats : FileStats) : stats.cachedFields =
    [("body_char_count", stats.bodyChars.toJson),
     ("word_count", stats.wordCount.toJson),
     ("speakers", .strings stats.speakers.toList),
     ("words", .strings stats.words),
     ("script_line_count", stats.scriptLines.toJson)] :=
  rfl

theorem isPlain_toCached (stats : FileStats) : stats.toCached.IsPlain := by
  have hcount (count : Count) : count.toJson.IsPlain := by
    cases count with
    | number n => exact .int n
    | flag b => exact .bool b
  rw [toCached, cachedFields_eq]
  refine Json.isPlain_record (by simp) ?_
  simp only [List.forall_mem_cons, List.not_mem_nil, false_imp_iff, implies_true, and_true]
  exact ⟨hcount _, hcount _, Json.isPlain_strings _, Json.isPlain_strings _, hcount _⟩

theorem strings?_strings (items : List String) : strings? (.strings items) = some items := by
  have hitem : Json.asString? ∘ (fun s : String => Json.string s) = fun s => pure s := by
    funext s
    simp [Json.asString?, Json.asRawText?, RawText.toString, RawText.chars_ofString]
  simp only [strings?, Json.strings, Json.asArray?, Option.bind_eq_bind, Option.bind_some,
    List.mapM_map, hitem]
  rw [List.mapM_pure, List.map_id']
  rfl

theorem ofList_toList (names : NameSet) : NameSet.ofList names.toList = names := by
  refine Std.ExtTreeSet.ext_mem fun name => ?_
  simp [NameSet.ofList, Std.ExtTreeSet.mem_ofList]

/-- Statistics survive the cache. -/
theorem ofCached?_toCached (stats : FileStats) : ofCached? stats.toCached = some stats := by
  have hcount (count : Count) : count? count.toJson = some count := by
    cases count <;> rfl
  simp [ofCached?, toCached, cachedFields_eq, Json.field?_record, List.lookup_cons, hcount,
    strings?_strings, ofList_toList]

theorem count?_sortFields (v : Json) : count? v.sortFields = count? v := by
  cases v <;> rfl

theorem strings?_sortFields (v : Json) : strings? v.sortFields = strings? v := by
  cases v with
  | array items =>
    simp only [strings?, Json.sortFields, Json.asArray?, Json.sortFieldsItems_eq,
      Option.bind_eq_bind, Option.bind_some, List.mapM_map]
    exact congrArg (List.mapM · items) (funext Json.asString?_sortFields)
  | _ => rfl

theorem ofCached?_sortFields {v : Json} (h : v.IsTidy) :
    ofCached? v.sortFields = ofCached? v := by
  have hlines : ((v.field? "script_line_count").map Json.sortFields).getD (.int 0) =
      ((v.field? "script_line_count").getD (.int 0)).sortFields := by
    cases v.field? "script_line_count" <;> rfl
  simp only [ofCached?, Json.field?_sortFields h, hlines, count?_sortFields, Option.bind_eq_bind,
    Option.bind_map, Function.comp_def, strings?_sortFields]

end FileStats

end ScriptStats
