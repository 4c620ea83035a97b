import ScriptStats.Proofs.Cache.Reload

/-!
# Entries that can be stored

Entries that were read from a file and those that are made of statistics can be written, and are not
nested too deeply to be read again.
-/

namespace ScriptStats

/-- The entry can be written, and read again where `below` levels are left. -/
structure CacheEntry.Stored (below : Nat) (entry : CacheEntry) : Prop where
  tidy : entry.toJson.IsTidy
  nested : entry.toJson.Nested below

namespace Json

theorem nested_strings (depth : Nat) (items : List String) :
    (strings items).Nested (depth + 1) := by
  refine .array fun item hitem => ?_
  obtain ⟨s, -, rfl⟩ := List.mem_map.1 hitem
  exact .string

theorem nested_record {depth : Nat} {fields : List (String × Json)}
    (h : ∀ field ∈ fields, field.2.Nested depth) : (record fields).Nested (depth + 1) := by
  refine .object fun field hfield => ?_
  obtain ⟨⟨name, value⟩, hmem, rfl⟩ := List.mem_map.1 hfield
  exact h _ hmem

end Json

theorem FileStats.nested_toCached (depth : Nat) (stats : FileStats) :
    stats.toCached.Nested (depth + 2) := by
  have hcount (count : Count) : count.toJson.Nested (depth + 1) := by
    cases count with
    | number n => exact .int
    | flag b => exact .bool
  rw [toCached, cachedFields_eq]
  refine Json.nested_record ?_
  simp only [List.forall_mem_cons, List.not_mem_nil, false_imp_iff, implies_true, and_true]
  exact ⟨hcount _, hcount _, Json.nested_strings _ _, Json.nested_strings _ _, hcount _⟩

namespace CacheEntry

theorem toJson_ofStats (signature : String) (stats : FileStats) (time : String) :
    (ofStats signature stats time).toJson = .record [("signature", .string signature),
      ("stats", stats.toCached), ("updated_at", .string time)] :=
  rfl

theorem stored_ofStats (depth : Nat) (signature : String) (stats : FileStats) (time : String) :
    (ofStats signature stats time).Stored (depth + 3) := by
  constructor
  · rw [toJson_ofStats]
    refine Json.isTidy_record (by simp) ?_
    simp only [List.forall_mem_cons, List.not_mem_nil, false_imp_iff, implies_true, and_true]
    exact ⟨.string _, stats.isPlain_toCached.isTidy, .string _⟩
  · rw [toJson_ofStats]
    refine Json.nested_record ?_
    simp only [List.forall_mem_cons, List.not_mem_nil, false_imp_iff, implies_true, and_true]
    exact ⟨.string, stats.nested_toCached depth, .string⟩

theorem isTidy_of_ofJson? {v : Json} (h : v.IsTidy) {entry : CacheEntry}
    (hread : ofJson? v = some entry) : entry.toJson.IsTidy := by
  cases h with
  | object hnodup hvalues =>
    obtain ⟨kept, hjson, hkept, hmem⟩ := exists_toJson_of_ofJson? hnodup hread
    exact hjson ▸ .object hkept fun field hfield => hvalues field (hmem field hfield)
  | _ => cases hread

/-- An entry that was read is no deeper than what it was read from. -/
theorem stored_of_ofJson? {depth : Nat} {v : Json} (h : v.IsTidy) (hnested : v.Nested depth)
    {entry : CacheEntry} (hread : ofJson? v = some entry) : entry.Stored depth := by
  refine ⟨isTidy_of_ofJson? h hread, ?_⟩
  cases h with
  | object hnodup _ =>
    obtain ⟨kept, hjson, -, hmem⟩ := exists_toJson_of_ofJson? hnodup hread
    cases hnested with
    | object hnested => exact hjson ▸ .object fun field hfield => hnested field (hmem field hfield)
  | _ => cases hread

end CacheEntry

namespace Cache

theorem tidy_entriesOf {v : Json} (h : v.IsTidy) : Tidy (entriesOf v) := by
  intro key entry hentry
  obtain ⟨fields, value, hfields, hmem, hread⟩ := exists_of_getElem?_entriesOf h hentry
  cases h.field? hfields with
  | object _ hvalues => exact CacheEntry.isTidy_of_ofJson? (hvalues _ hmem) hread

theorem each_stored_entriesOf {depth : Nat} {v : Json} (h : v.IsTidy)
    (hnested : v.Nested (depth + 2)) :
    Each (fun _ entry => entry.Stored depth) (entriesOf v) := by
  intro key entry hentry
  obtain ⟨fields, value, hfields, hmem, hread⟩ := exists_of_getElem?_entriesOf h hentry
  have hobject := h.field? hfields
  cases h with
  | object hnodup hvalues =>
    cases hnested with
    | object hnested =>
      have hinner := hnested _ ((Json.lookup_eq_some_iff hnodup).1 hfields)
      cases hobject with
      | object _ hvalues =>
        cases hinner with
        | object hinner => exact CacheEntry.stored_of_ofJson? (hvalues _ hmem) (hinner _ hmem) hread
  | _ => cases hfields

theorem each_stored_of_entriesOfBytes {depth : Nat} {bytes : Bytes} {entries : CacheEntries}
    (h : entriesOfBytes (depth + 2) bytes = .ok entries) :
    Each (fun _ entry => entry.Stored depth) entries := by
  unfold entriesOfBytes at h
  split at h
  next => cases h
  next =>
    split at h
    next hparse =>
      cases h
      obtain ⟨htidy, hnested, -⟩ := Json.fits_of_parse hparse
      exact each_stored_entriesOf htidy hnested
    next =>
      cases h
      exact each_empty
    next => cases h

/-- Whatever is loaded is tidy. -/
theorem tidy_of_load {depth : Nat} {path : Path} {contents : Except FileError Bytes} {cache : Cache}
    (h : load depth path contents = .ok cache) : Tidy cache.entries := by
  obtain ⟨-, hempty | ⟨bytes, -, hread⟩⟩ := load_eq_ok h
  · exact hempty ▸ each_empty
  · unfold entriesOfBytes at hread
    split at hread
    next => cases hread
    next =>
      split at hread
      next hparse => exact Except.ok.inj hread ▸ tidy_entriesOf (Json.fits_of_parse hparse).1
      next => exact Except.ok.inj hread ▸ each_empty
      next => cases hread

theorem fits_document {depth : Nat} {entries : CacheEntries}
    (h : Each (fun _ entry => entry.Stored depth) entries)
    (hwritable : (document entries).hasWritableNumbers = true) :
    Json.Fits (depth + 2) (document entries) := by
  refine ⟨?_, hwritable⟩
  rw [document_eq]
  refine Json.nested_record ?_
  simp only [List.forall_mem_cons, List.not_mem_nil, false_imp_iff, implies_true, and_true]
  refine ⟨.int, .object fun field hfield => ?_⟩
  obtain ⟨entry, hentry, hvalue⟩ := mem_entryFields_iff.1 hfield
  exact hvalue ▸ (h field.1 entry hentry).nested

end Cache

end ScriptStats
