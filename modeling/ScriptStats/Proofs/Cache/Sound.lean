import ScriptStats.Proofs.Cache.Statistics
import ScriptStats.Proofs.Text.Utf8

/-!
# Sound caches

A cache is sound with respect to `P` if all statistics that can be found in it under a key and a
signature satisfy `P`. Storing what satisfies `P` keeps it sound, and so does all forgetting.
-/

namespace ScriptStats

/-- What is known of the statistics under a key and a signature. -/
abbrev Knowledge := RawText → RawText → FileStats → Prop

/-- An entry under `key` that tells nothing but what is known, in a form that can be read back. -/
structure CacheEntry.Sound (P : Knowledge) (key : RawText) (entry : CacheEntry) : Prop where
  key_eq : ∃ s, key = RawText.ofString s
  plain : entry.toJson.IsPlain
  known : ∀ stats, FileStats.ofCached? entry.stats = some stats → P key entry.signature stats

namespace CacheEntry

theorem signature_ne_stats : RawText.ofString "signature" ≠ RawText.ofString "stats" :=
  fun h => absurd (RawText.ofString_injective h) (by decide)

theorem field?_toJson_signature (entry : CacheEntry) :
    entry.toJson.field? "signature" = some (.string entry.signature) := by
  simp [toJson, Json.field?]

theorem field?_toJson_stats (entry : CacheEntry) :
    entry.toJson.field? "stats" = some entry.stats := by
  simp [toJson, Json.field?, List.lookup_cons, beq_false_of_ne signature_ne_stats.symm]

/-- An entry that is read can be written again, with no other fields than those it is read from. -/
theorem exists_toJson_of_ofJson? {fields : List (RawText × Json)}
    (hnodup : (fields.map Prod.fst).Nodup) {entry : CacheEntry}
    (hread : ofJson? (.object fields) = some entry) : ∃ kept, entry.toJson = .object kept ∧
      (kept.map Prod.fst).Nodup ∧ ∀ field ∈ kept, field ∈ fields := by
  simp only [ofJson?, Option.bind_eq_bind, Option.bind_eq_some_iff, Option.pure_def,
    Option.some_inj] at hread
  obtain ⟨found, hsignature, signature, hraw, stats, hstats, rfl⟩ := hread
  obtain rfl : found = .string signature := by
    cases found with
    | string s => exact congrArg Json.string (Option.some_inj.1 hraw)
    | _ => cases hraw
  refine ⟨_, rfl, List.nodup_cons.2 ⟨?_, List.nodup_cons.2 ⟨?_, ?_⟩⟩, ?_⟩
  · simp [signature_ne_stats]
  · simp
  · exact hnodup.sublist (List.filter_sublist.map _)
  · simp only [List.forall_mem_cons]
    exact ⟨(Json.lookup_eq_some_iff hnodup).1 hsignature, (Json.lookup_eq_some_iff hnodup).1 hstats,
      fun field hfield => (List.mem_filter.1 hfield).1⟩

/-- The fields from which an entry is read; it can be written again. -/
theorem of_ofJson?_eq_some {v : Json} (h : v.IsPlain) {entry : CacheEntry}
    (hread : ofJson? v = some entry) :
    v.field? "signature" = some (.string entry.signature) ∧
      v.field? "stats" = some entry.stats ∧ entry.toJson.IsPlain := by
  cases h with
  | @object fields hnodup hnames hvalues =>
    obtain ⟨kept, hjson, hkept, hmem⟩ := exists_toJson_of_ofJson? hnodup hread
    have hsame (name : String) {value : Json} (hfield : entry.toJson.field? name = some value) :
        (Json.object fields).field? name = some value := by
      rw [hjson] at hfield
      exact (Json.lookup_eq_some_iff hnodup).2 (hmem _ ((Json.lookup_eq_some_iff hkept).1 hfield))
    refine ⟨hsame _ entry.field?_toJson_signature, hsame _ entry.field?_toJson_stats, ?_⟩
    exact hjson ▸ .object hkept (fun field hfield => hnames field (hmem field hfield))
      fun field hfield => hvalues field (hmem field hfield)
  | _ => cases hread

/-- What is read of an entry that was written tells the same. -/
theorem Sound.ofJson? {P : Knowledge} {key : RawText} {entry found : CacheEntry}
    (h : entry.Sound P key) (hread : ofJson? entry.toJson.sortFields = some found) :
    found.Sound P key := by
  obtain ⟨hsignature, hstats, hplain⟩ := of_ofJson?_eq_some h.plain.sortFields hread
  rw [Json.field?_sortFields h.plain.isTidy, field?_toJson_signature] at hsignature
  rw [Json.field?_sortFields h.plain.isTidy, field?_toJson_stats] at hstats
  have heq : entry.signature = found.signature := Json.string.inj (Option.some_inj.1 hsignature)
  refine ⟨h.key_eq, hplain, fun stats hfound => ?_⟩
  rw [← Option.some_inj.1 hstats,
    FileStats.ofCached?_sortFields (h.plain.field? entry.field?_toJson_stats).isTidy] at hfound
  exact heq ▸ h.known stats hfound

end CacheEntry

namespace Cache

/-- All entries satisfy `Q`, each under its key. -/
def Each (Q : RawText → CacheEntry → Prop) (entries : CacheEntries) : Prop :=
  ∀ (key : RawText) (entry : CacheEntry), entries[key]? = some entry → Q key entry

def Sound (P : Knowledge) (entries : CacheEntries) : Prop :=
  ∀ (key : RawText) (entry : CacheEntry), entries[key]? = some entry → entry.Sound P key

section Each

variable {Q : RawText → CacheEntry → Prop} {entries : CacheEntries} {cache : Cache}

theorem each_empty : Each Q ∅ := by
  intro key entry h
  rw [Std.ExtTreeMap.getElem?_empty] at h
  cases h

theorem Each.erase (h : Each Q entries) (gone : RawText) : Each Q (entries.erase gone) := by
  intro key entry hentry
  rw [Std.ExtTreeMap.getElem?_erase] at hentry
  split at hentry
  next => cases hentry
  next => exact h key entry hentry

theorem Each.filter (h : Each Q entries) (kept : RawText → CacheEntry → Bool) :
    Each Q (entries.filter kept) := by
  intro key entry hentry
  rw [Std.ExtTreeMap.getElem?_filter', Option.filter_eq_some_iff] at hentry
  exact h key entry hentry.1

theorem Each.store (h : Each Q cache.entries) {key signature time : String} {stats : FileStats}
    (hnew : Q (RawText.ofString key) (CacheEntry.ofStats signature stats time)) :
    Each Q (cache.store key signature stats time).entries := by
  intro other entry hentry
  rw [Cache.store, Std.ExtTreeMap.getElem?_insert] at hentry
  split at hentry
  next heq =>
    rw [← Std.compare_eq_iff_eq.1 heq, ← Option.some_inj.1 hentry]
    exact hnew
  next => exact h other entry hentry

theorem Each.invalidate (h : Each Q cache.entries) (key : String) :
    Each Q (cache.invalidate key).entries := by
  unfold Cache.invalidate
  split
  next => exact h.erase _
  next => exact h

theorem Each.prune (h : Each Q cache.entries) (kept : List String) :
    Each Q (cache.prune kept).entries := by
  unfold Cache.prune
  dsimp only
  split
  next => exact h
  next => exact h.filter _

end Each

variable {P Q : Knowledge} {entries : CacheEntries} {cache : Cache}

theorem sound_empty : Sound P ∅ :=
  each_empty

theorem Sound.mono (h : Sound P entries)
    (hle : ∀ key signature stats, P key signature stats → Q key signature stats) :
    Sound Q entries := by
  intro key entry hentry
  have hsound := h key entry hentry
  exact ⟨hsound.key_eq, hsound.plain, fun stats hstats => hle _ _ _ (hsound.known stats hstats)⟩

/-! ## Operations -/

theorem sound_ofStats {key signature : String} {stats : FileStats}
    (h : P (RawText.ofString key) (RawText.ofString signature) stats) (time : String) :
    (CacheEntry.ofStats signature stats time).Sound P (RawText.ofString key) := by
  refine ⟨⟨key, rfl⟩, ?_, fun found hfound => ?_⟩
  · change (Json.record [("signature", .string signature), ("stats", stats.toCached),
      ("updated_at", .string time)]).IsPlain
    refine Json.isPlain_record (by simp) ?_
    simp only [List.forall_mem_cons, List.not_mem_nil, false_imp_iff, implies_true, and_true]
    exact ⟨.string _, stats.isPlain_toCached, .string _⟩
  · rw [CacheEntry.ofStats, FileStats.ofCached?_toCached, Option.some_inj] at hfound
    rwa [← hfound]

theorem Sound.store (h : Sound P cache.entries) {key signature : String} {stats : FileStats}
    (hknown : P (RawText.ofString key) (RawText.ofString signature) stats) (time : String) :
    Sound P (cache.store key signature stats time).entries :=
  Each.store h (sound_ofStats hknown time)

theorem Sound.invalidate (h : Sound P cache.entries) (key : String) :
    Sound P (cache.invalidate key).entries :=
  Each.invalidate h key

theorem Sound.prune (h : Sound P cache.entries) (kept : List String) :
    Sound P (cache.prune kept).entries :=
  Each.prune h kept

/-- What is found is known. -/
theorem Sound.get? (h : Sound P cache.entries) {key signature : String} {stats : FileStats}
    (hget : cache.get? key signature = some stats) :
    P (RawText.ofString key) (RawText.ofString signature) stats := by
  rw [Cache.get?, Option.bind_eq_bind, Option.bind_eq_some_iff] at hget
  obtain ⟨entry, hentry, hstats⟩ := hget
  split at hstats
  next hsignature => exact hsignature ▸ (h _ entry hentry).known stats hstats
  next => cases hstats

theorem get?_store (cache : Cache) (key signature : String) (stats : FileStats)
    (time : String) : (cache.store key signature stats time).get? key signature = some stats := by
  rw [Cache.get?, Cache.store, Std.ExtTreeMap.getElem?_insert_self]
  simp [CacheEntry.ofStats, FileStats.ofCached?_toCached]

/-! ## The file -/

theorem due?_eq_some {path : Path} {text : RawText}
    (h : cache.due? = some (path, text)) :
    cache.dirty = true ∧ cache.path = some path ∧ text = cache.fileText := by
  unfold due? at h
  split at h
  next hdirty =>
    obtain ⟨found, hpath, heq⟩ := Option.map_eq_some_iff.1 h
    obtain ⟨rfl, rfl⟩ := Prod.mk.inj heq
    exact ⟨hdirty, hpath, rfl⟩
  next => cases h

/-- The fields under which the entries are written. -/
def entryFields (entries : CacheEntries) : List (RawText × Json) :=
  entries.toList.map fun (key, entry) => (key, entry.toJson)

theorem document_eq (entries : CacheEntries) : document entries =
    .record [("version", .int formatVersion), ("entries", .object (entryFields entries))] :=
  rfl

theorem nodup_names_entryFields (entries : CacheEntries) :
    ((entryFields entries).map Prod.fst).Nodup := by
  rw [entryFields, List.map_map]
  exact entries.map_fst_toList_eq_keys ▸ entries.nodup_keys

theorem mem_entryFields_iff {field : RawText × Json} : field ∈ entryFields entries ↔
    ∃ entry, entries[field.1]? = some entry ∧ entry.toJson = field.2 := by
  rw [entryFields, List.mem_map]
  constructor
  · rintro ⟨⟨key, entry⟩, hmem, rfl⟩
    exact ⟨entry, Std.ExtTreeMap.mem_toList_iff_getElem?_eq_some.1 hmem, rfl⟩
  · rintro ⟨entry, hentry, hvalue⟩
    exact ⟨(field.1, entry), Std.ExtTreeMap.mem_toList_iff_getElem?_eq_some.2 hentry,
      Prod.ext rfl hvalue⟩

theorem field?_document_version (entries : CacheEntries) :
    (document entries).field? "version" = some (.int formatVersion) := by
  rw [document_eq, Json.field?_record]
  rfl

theorem field?_document_entries (entries : CacheEntries) :
    (document entries).field? "entries" = some (.object (entryFields entries)) := by
  rw [document_eq, Json.field?_record]
  rfl

theorem isPlain_document (h : Sound P entries) : (document entries).IsPlain := by
  rw [document_eq]
  refine Json.isPlain_record (by simp) ?_
  simp only [List.forall_mem_cons, List.not_mem_nil, false_imp_iff, implies_true, and_true]
  refine ⟨.int _, .object (nodup_names_entryFields entries) (fun field hfield => ?_)
    fun field hfield => ?_⟩
  · obtain ⟨entry, hentry, -⟩ := mem_entryFields_iff.1 hfield
    exact (h field.1 entry hentry).key_eq
  · obtain ⟨entry, hentry, hvalue⟩ := mem_entryFields_iff.1 hfield
    exact hvalue ▸ (h field.1 entry hentry).plain

theorem mem_of_getElem?_ofList {fields : List (RawText × CacheEntry)}
    (h : (fields.map Prod.fst).Nodup) {key : RawText} {entry : CacheEntry}
    (hentry : (Std.ExtTreeMap.ofList fields)[key]? = some entry) : (key, entry) ∈ fields := by
  have hdistinct : fields.Pairwise fun a b => ¬ compare a.1 b.1 = .eq :=
    (List.pairwise_map.1 h).imp fun hne heq => hne (Std.compare_eq_iff_eq.1 heq)
  have hkey : key ∈ Std.ExtTreeMap.ofList fields :=
    Std.ExtTreeMap.mem_iff_isSome_getElem?.2 (Option.isSome_of_eq_some hentry)
  rw [Std.ExtTreeMap.mem_ofList, List.contains_iff_mem] at hkey
  obtain ⟨⟨_, found⟩, hmem, rfl⟩ := List.mem_map.1 hkey
  have hfound := Std.ExtTreeMap.getElem?_ofList_of_mem (Std.compare_self ..) hdistinct hmem
  rw [hfound, Option.some_inj] at hentry
  exact hentry ▸ hmem

theorem names_filterMap_sublist (read : Json → Option CacheEntry)
    (fields : List (RawText × Json)) :
    ((fields.filterMap fun (key, value) => (read value).map (key, ·)).map Prod.fst).Sublist
      (fields.map Prod.fst) := by
  induction fields with
  | nil => exact .slnil
  | cons field fields ih =>
    cases hread : read field.2 with
    | none => simpa [List.filterMap_cons, hread] using ih.cons field.1
    | some entry => simpa [List.filterMap_cons, hread] using ih

theorem exists_of_getElem?_entriesOf {v : Json} (h : v.IsTidy) {key : RawText}
    {entry : CacheEntry} (hentry : (entriesOf v)[key]? = some entry) :
    ∃ fields value, v.field? "entries" = some (.object fields) ∧ (key, value) ∈ fields ∧
      CacheEntry.ofJson? value = some entry := by
  unfold entriesOf at hentry
  split at hentry
  next version fields _ hfields =>
    split at hentry
    next =>
      cases h.field? hfields with
      | object hnodup _ =>
        have hmem := mem_of_getElem?_ofList ?_ hentry
        · obtain ⟨⟨name, value⟩, hvalue, hread⟩ := List.mem_filterMap.1 hmem
          obtain ⟨found, hfound, heq⟩ := Option.map_eq_some_iff.1 hread
          obtain ⟨rfl, rfl⟩ := Prod.mk.inj heq
          exact ⟨fields, value, hfields, hvalue, hfound⟩
        · exact hnodup.sublist (names_filterMap_sublist _ fields)
    next => exact absurd hentry (by simp)
  next => exact absurd hentry (by simp)

/-- A sound cache that was written is sound when it is read. -/
theorem Sound.entriesOf (h : Sound P entries) :
    Sound P (entriesOf (document entries).sortFields) := by
  have hdocument := isPlain_document h
  intro key entry hentry
  obtain ⟨fields, value, hfields, hmem, hread⟩ :=
    exists_of_getElem?_entriesOf hdocument.sortFields.isTidy hentry
  rw [Json.field?_sortFields hdocument.isTidy, field?_document_entries, Option.map_some,
    Option.some_inj, Json.sortFields_object] at hfields
  rw [← Json.object.inj hfields, Json.mem_sorted_iff] at hmem
  obtain ⟨_, hmem, rfl⟩ := hmem
  obtain ⟨written, hentry, rfl⟩ := mem_entryFields_iff.1 hmem
  exact (h key written hentry).ofJson? hread

theorem Sound.entriesOfBytes (h : Sound P entries) {depth : Nat} {bytes : Bytes}
    {found : CacheEntries}
    (hwritten : Text.Utf8.encodeRaw (document entries).sortFields.prettyRaw = .ok bytes)
    (hread : entriesOfBytes depth bytes = .ok found) : Sound P found := by
  rw [Text.Utf8.encodeRaw_eq_ok hwritten] at hread
  unfold Cache.entriesOfBytes at hread
  rw [Text.Utf8.decode_encode] at hread
  dsimp only at hread
  split at hread
  next v hparse =>
    obtain rfl := Json.eq_of_parse_prettyRaw (isPlain_document h).sortFields hparse
    exact Except.ok.inj hread ▸ h.entriesOf
  next => exact Except.ok.inj hread ▸ sound_empty
  next => cases hread

/-- An empty file keeps nothing. -/
theorem sound_entriesOfBytes_nil {depth : Nat} {found : CacheEntries}
    (hread : entriesOfBytes depth [] = .ok found) : Sound P found := by
  have hnil : entriesOfBytes depth [] = .ok ∅ := by
    cases depth <;> rfl
  rw [hnil] at hread
  exact Except.ok.inj hread ▸ sound_empty

theorem load_ok (depth : Nat) (path : Path) (bytes : Bytes) : load depth path (.ok bytes) =
    (entriesOfBytes depth bytes).map fun entries => { path := some path, entries } := by
  unfold load
  dsimp only
  cases entriesOfBytes depth bytes <;> rfl

theorem load_error (depth : Nat) (path : Path) (e : FileError) : load depth path (.error e) =
    if e.isRefusal then .ok { path := some path } else .error (.inaccessible e) := by
  unfold load
  dsimp only
  cases e.isRefusal <;> rfl

theorem load_eq_ok {depth : Nat} {path : Path} {contents : Except FileError Bytes} {cache : Cache}
    (h : load depth path contents = .ok cache) : cache.path = some path ∧
      (cache.entries = ∅ ∨
        ∃ bytes, contents = .ok bytes ∧ entriesOfBytes depth bytes = .ok cache.entries) := by
  cases contents with
  | ok bytes =>
    rw [load_ok] at h
    cases hentries : entriesOfBytes depth bytes with
    | error failure =>
      rw [hentries] at h
      cases h
    | ok entries =>
      rw [hentries] at h
      cases h
      exact ⟨rfl, .inr ⟨bytes, rfl, hentries⟩⟩
  | error e =>
    rw [load_error] at h
    split at h
    next =>
      cases h
      exact ⟨rfl, .inl rfl⟩
    next => cases h

end Cache

end ScriptStats
