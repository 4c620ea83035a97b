import ScriptStats.Proofs.Cache.Sound
import ScriptStats.Proofs.Json.Tidy

/-!
# Caches read back

Of an entry, its signature and its statistics can be recalled. A cache that was written recalls the
same under every key when it is read. Numbers that are no whole ones may be read as others, but they
are not recalled.
-/

namespace ScriptStats

/-- The signature of an entry, and its statistics if they make sense. -/
def CacheEntry.recall (entry : CacheEntry) : RawText × Option FileStats :=
  (entry.signature, FileStats.ofCached? entry.stats)

/-- What can be recalled of what stands for an entry in a document. -/
def Json.recall? (value : Json) : Option (RawText × Option FileStats) :=
  (CacheEntry.ofJson? value).map CacheEntry.recall

/-! ## Numbers that are no whole ones -/

namespace Json

theorem lookup_map_snd {β γ : Type} (f : β → γ) (fields : List (RawText × β)) (name : RawText) :
    (fields.map fun field => (field.1, f field.2)).lookup name = (fields.lookup name).map f := by
  induction fields with
  | nil => rfl
  | cons field fields ih =>
    rw [List.map_cons, List.lookup_cons, List.lookup_cons, ih]
    cases name == field.1 <;> rfl

theorem field?_blur (v : Json) (name : String) : v.blur.field? name = (v.field? name).map blur := by
  cases v with
  | object fields =>
    rw [blur_object]
    exact lookup_map_snd blur fields _
  | _ => rfl

theorem asRawText?_blur (v : Json) : v.blur.asRawText? = v.asRawText? := by
  cases v <;> rfl

theorem asString?_blur (v : Json) : v.blur.asString? = v.asString? := by
  rw [asString?, asRawText?_blur, asString?]

theorem eq_int_of_blur_eq {v : Json} {n : Int} (h : v.blur = .int n) : v = .int n := by
  cases v with
  | int m => exact h
  | _ => cases h

theorem exists_object_of_blur_eq {v : Json} {fields : List (RawText × Json)}
    (h : v.blur = blur (.object fields)) : ∃ others, v = .object others ∧
      (others.map fun field => (field.1, blur field.2)) =
        fields.map fun field => (field.1, blur field.2) := by
  rw [blur_object] at h
  cases v with
  | object others =>
    rw [blur_object] at h
    exact ⟨others, rfl, object.inj h⟩
  | _ => cases h

end Json

namespace FileStats

theorem count?_blur (v : Json) : count? v.blur = count? v := by
  cases v <;> rfl

theorem strings?_blur (v : Json) : strings? v.blur = strings? v := by
  cases v with
  | array items =>
    rw [Json.blur_array]
    simp only [strings?, Json.asArray?, Option.bind_eq_bind, Option.bind_some, List.mapM_map]
    exact congrArg (List.mapM · items) (funext Json.asString?_blur)
  | _ => rfl

theorem ofCached?_blur (v : Json) : ofCached? v.blur = ofCached? v := by
  have hlines : ((v.field? "script_line_count").map Json.blur).getD (.int 0) =
      ((v.field? "script_line_count").getD (.int 0)).blur := by
    cases v.field? "script_line_count" <;> rfl
  simp only [ofCached?, Json.field?_blur, hlines, count?_blur, Option.bind_eq_bind,
    Option.bind_map, Function.comp_def, strings?_blur]

end FileStats

/-! ## Entries -/

namespace Json

theorem recall?_eq (v : Json) : v.recall? = (v.field? "signature").bind fun signature =>
    signature.asRawText?.bind fun signature =>
      (v.field? "stats").map fun stats => (signature, FileStats.ofCached? stats) := by
  cases v with
  | object fields =>
    simp only [Json.recall?, CacheEntry.ofJson?, CacheEntry.recall, Option.map_eq_bind,
      Option.bind_eq_bind, Option.pure_def, Option.bind_assoc, Option.bind_some, Function.comp_def]
  | _ => rfl

theorem recall?_eq_some_iff {v : Json} {signature : RawText} {stats : Option FileStats} :
    v.recall? = some (signature, stats) ↔ v.field? "signature" = some (.string signature) ∧
      ∃ found, v.field? "stats" = some found ∧ FileStats.ofCached? found = stats := by
  rw [recall?_eq]
  simp only [Option.bind_eq_some_iff, Option.map_eq_some_iff, Prod.mk.injEq]
  constructor
  · rintro ⟨text, htext, _, hraw, found, hfound, rfl, hstats⟩
    cases text with
    | string s =>
      obtain rfl := Option.some_inj.1 hraw
      exact ⟨htext, found, hfound, hstats⟩
    | _ => cases hraw
  · rintro ⟨htext, found, hfound, hstats⟩
    exact ⟨_, htext, _, rfl, found, hfound, rfl, hstats⟩

theorem recall?_blur (v : Json) : v.blur.recall? = v.recall? := by
  simp only [recall?_eq, field?_blur, Option.bind_map, Option.map_map, Function.comp_def,
    asRawText?_blur, FileStats.ofCached?_blur]

theorem asRawText?_sortFields (v : Json) : v.sortFields.asRawText? = v.asRawText? := by
  cases v <;> rfl

theorem recall?_sortFields {v : Json} (h : v.IsTidy) : v.sortFields.recall? = v.recall? := by
  have hstats (signature : RawText) :
      ((v.field? "stats").map sortFields).map
          (fun stats => (signature, FileStats.ofCached? stats)) =
        (v.field? "stats").map fun stats => (signature, FileStats.ofCached? stats) := by
    rw [Option.map_map]
    refine Option.map_congr fun stats hfound => ?_
    exact congrArg (signature, ·) (FileStats.ofCached?_sortFields (h.field? hfound))
  simp only [recall?_eq, field?_sortFields h, Option.bind_map, Function.comp_def,
    asRawText?_sortFields, hstats]

end Json

theorem CacheEntry.recall?_toJson (entry : CacheEntry) :
    entry.toJson.recall? = some entry.recall := by
  rw [Json.recall?_eq, field?_toJson_signature, field?_toJson_stats]
  rfl

/-! ## Documents -/

namespace Cache

/-- What can be recalled under a key. -/
def recalled (entries : CacheEntries) (key : RawText) : Option (RawText × Option FileStats) :=
  entries[key]?.map CacheEntry.recall

theorem getElem?_ofList {fields : List (RawText × CacheEntry)} (h : (fields.map Prod.fst).Nodup)
    (key : RawText) : (Std.ExtTreeMap.ofList fields)[key]? = fields.lookup key := by
  have hdistinct : fields.Pairwise fun a b => ¬ compare a.1 b.1 = .eq :=
    (List.pairwise_map.1 h).imp fun hne heq => hne (Std.compare_eq_iff_eq.1 heq)
  refine Option.ext fun entry => ?_
  rw [Json.lookup_eq_some_iff h]
  exact ⟨mem_of_getElem?_ofList h,
    Std.ExtTreeMap.getElem?_ofList_of_mem (Std.compare_self ..) hdistinct⟩

theorem lookup_filterMap {fields : List (RawText × Json)} (h : (fields.map Prod.fst).Nodup)
    (read : Json → Option CacheEntry) (key : RawText) :
    (fields.filterMap fun (key, value) => (read value).map (key, ·)).lookup key =
      (fields.lookup key).bind read := by
  refine Option.ext fun entry => ?_
  rw [Json.lookup_eq_some_iff (h.sublist (names_filterMap_sublist read fields)),
    List.mem_filterMap, Option.bind_eq_some_iff]
  constructor
  · rintro ⟨⟨name, value⟩, hmem, hread⟩
    obtain ⟨found, hfound, heq⟩ := Option.map_eq_some_iff.1 hread
    obtain ⟨rfl, rfl⟩ := Prod.mk.inj heq
    exact ⟨value, (Json.lookup_eq_some_iff h).2 hmem, hfound⟩
  · rintro ⟨value, hvalue, hread⟩
    refine ⟨(key, value), (Json.lookup_eq_some_iff h).1 hvalue, ?_⟩
    exact Option.map_eq_some_iff.2 ⟨_, hread, rfl⟩

theorem recalled_entriesOf {v version : Json} (h : v.IsTidy) {fields : List (RawText × Json)}
    (hversion : v.field? "version" = some version) (hformat : isFormatVersion version = true)
    (hentries : v.field? "entries" = some (.object fields)) (key : RawText) :
    recalled (entriesOf v) key = (fields.lookup key).bind Json.recall? := by
  cases h.field? hentries with
  | object hnodup _ =>
    have hfound : entriesOf v = Std.ExtTreeMap.ofList (fields.filterMap fun (key, value) =>
        (CacheEntry.ofJson? value).map (key, ·)) := by
      unfold entriesOf
      rw [hversion, hentries]
      exact if_pos hformat
    rw [recalled, hfound, getElem?_ofList (hnodup.sublist (names_filterMap_sublist _ fields)),
      lookup_filterMap hnodup, Option.map_bind]
    rfl

variable {entries : CacheEntries}

theorem lookup_entryFields (entries : CacheEntries) (key : RawText) :
    (entryFields entries).lookup key = entries[key]?.map CacheEntry.toJson := by
  have hnodup : (entries.toList.map Prod.fst).Nodup :=
    entries.map_fst_toList_eq_keys ▸ entries.nodup_keys
  have hlookup : entries.toList.lookup key = entries[key]? := by
    refine Option.ext fun entry => ?_
    rw [Json.lookup_eq_some_iff hnodup, Std.ExtTreeMap.mem_toList_iff_getElem?_eq_some]
  rw [← hlookup]
  exact Json.lookup_map_snd CacheEntry.toJson entries.toList key

/-! ## Documents read back -/

/-- All entries have each name once in all that they hold. -/
def Tidy (entries : CacheEntries) : Prop :=
  Each (fun _ entry => entry.toJson.IsTidy) entries

theorem Tidy.isTidy_entryFields (h : Tidy entries) :
    (Json.object (entryFields entries)).IsTidy := by
  refine .object (nodup_names_entryFields entries) fun field hfield => ?_
  obtain ⟨entry, hentry, hvalue⟩ := mem_entryFields_iff.1 hfield
  exact hvalue ▸ h field.1 entry hentry

theorem Tidy.isTidy_document (h : Tidy entries) : (document entries).IsTidy := by
  refine Json.isTidy_record (by simp) ?_
  simp only [List.forall_mem_cons, List.not_mem_nil, false_imp_iff, implies_true, and_true]
  exact ⟨.int _, h.isTidy_entryFields⟩

theorem lookup_recall?_of_blur_eq {fields others : List (RawText × Json)}
    (h : (others.map fun field => (field.1, field.2.blur)) =
      fields.map fun field => (field.1, field.2.blur)) (key : RawText) :
    (others.lookup key).bind Json.recall? = (fields.lookup key).bind Json.recall? := by
  have hrecall : Json.recall? = Json.recall? ∘ Json.blur :=
    funext fun v => (Json.recall?_blur v).symm
  rw [hrecall, ← Option.bind_map, ← Json.lookup_map_snd, h, Json.lookup_map_snd, Option.bind_map]

theorem Tidy.lookup_recall?_sorted (h : Tidy entries) (key : RawText) :
    ((Json.sorted (entryFields entries)).lookup key).bind Json.recall? = recalled entries key := by
  cases h.isTidy_entryFields with
  | object hnodup _ =>
    rw [Json.lookup_sorted hnodup, lookup_entryFields, recalled]
    cases hentry : entries[key]? with
    | none => rfl
    | some entry =>
      change entry.toJson.sortFields.recall? = some entry.recall
      rw [Json.recall?_sortFields (h key entry hentry), CacheEntry.recall?_toJson]

/-- What looks like the document that was written recalls the same. -/
theorem Tidy.recalled_entriesOf (h : Tidy entries) {w : Json} (hw : w.IsTidy)
    (hblur : w.blur = (document entries).sortFields.blur) (key : RawText) :
    recalled (Cache.entriesOf w) key = recalled entries key := by
  have hfield (name : String) : (w.field? name).map Json.blur =
      (((document entries).field? name).map Json.sortFields).map Json.blur := by
    rw [← Json.field?_sortFields h.isTidy_document, ← Json.field?_blur, ← Json.field?_blur, hblur]
  have hversion := hfield "version"
  have hentries := hfield "entries"
  rw [field?_document_version] at hversion
  rw [field?_document_entries] at hentries
  obtain ⟨version, hfound, hint⟩ := Option.map_eq_some_iff.1 hversion
  obtain rfl := Json.eq_int_of_blur_eq hint
  obtain ⟨found, hobject, hlike⟩ := Option.map_eq_some_iff.1 hentries
  rw [Json.sortFields_object] at hlike
  obtain ⟨others, rfl, hothers⟩ := Json.exists_object_of_blur_eq hlike
  rw [Cache.recalled_entriesOf hw hfound rfl hobject, lookup_recall?_of_blur_eq hothers,
    h.lookup_recall?_sorted]

/-- Entries that were written are read, and recall the same. -/
theorem Tidy.exists_entriesOfBytes (h : Tidy entries) {depth : Nat}
    (hfits : Json.Fits depth (document entries)) {bytes : Bytes}
    (hbytes : Text.Utf8.encodeRaw (document entries).sortFields.prettyRaw = .ok bytes) :
    ∃ found, entriesOfBytes depth bytes = .ok found ∧ recalled found = recalled entries := by
  have hclean : (document entries).sortFields.IsClean :=
    h.isTidy_document.sortFields.isClean _ (Text.Utf8.isHalf_eq_false_of_encodeRaw hbytes)
  obtain ⟨w, hparse, hblur⟩ := Json.exists_parse_prettyRaw hclean hfits.sortFields
  refine ⟨Cache.entriesOf w, ?_, funext fun key =>
    h.recalled_entriesOf (Json.fits_of_parse hparse).1 hblur key⟩
  rw [Text.Utf8.encodeRaw_eq_ok hbytes, entriesOfBytes, Text.Utf8.decode_encode]
  dsimp only
  rw [hparse]

/-- A sound cache can be written. -/
theorem Sound.exists_encodeRaw_fileText {P : Knowledge} {cache : Cache} (h : Sound P cache.entries) :
    ∃ bytes, Text.Utf8.encodeRaw cache.fileText = .ok bytes :=
  ⟨_, Text.Utf8.encodeRaw_of_forall ((isPlain_document h).sortFields.isClean.isHalf_eq_false_prettyAt 0)⟩

/-- Entries of which one holds half of a pair cannot be written. -/
theorem Tidy.exists_encodeRaw_eq_error (h : Tidy entries) {key : RawText} {entry : CacheEntry}
    (hentry : entries[key]? = some entry) (hhalf : entry.toJson.isText = false) :
    ∃ fault, Text.Utf8.encodeRaw (document entries).sortFields.prettyRaw = .error fault := by
  cases hencode : Text.Utf8.encodeRaw (document entries).sortFields.prettyRaw with
  | error fault => exact ⟨fault, rfl⟩
  | ok bytes =>
    have hclean : (document entries).sortFields.IsClean :=
      h.isTidy_document.sortFields.isClean _ (Text.Utf8.isHalf_eq_false_of_encodeRaw hencode)
    have htext : (document entries).isText = true := by
      rw [← h.isTidy_document.isText_sortFields, hclean.isText]
    have hfields : (Json.object (entryFields entries)).isText = true := by
      rw [document_eq, Json.record, Json.isText_object, List.all_map, List.all_eq_true] at htext
      have hentries : (RawText.isText "entries" &&
          (Json.object (entryFields entries)).isText) = true :=
        htext ("entries", .object (entryFields entries)) (by simp)
      exact (Bool.and_eq_true_iff.1 hentries).2
    rw [Json.isText_object, List.all_eq_true] at hfields
    have hfield := hfields (key, entry.toJson) (mem_entryFields_iff.2 ⟨entry, hentry, rfl⟩)
    rw [hhalf, Bool.and_false] at hfield
    cases hfield

/-! ## What is recalled -/

theorem mem_iff_recalled {key : RawText} : key ∈ entries ↔ (recalled entries key).isSome := by
  rw [Std.ExtTreeMap.mem_iff_isSome_getElem?, recalled, Option.isSome_map]

theorem keys_eq_of_recalled_eq {found : CacheEntries} (h : recalled found = recalled entries) :
    found.keys = entries.keys := by
  have hmem (key : RawText) : key ∈ found.keys ↔ key ∈ entries.keys := by
    rw [Std.ExtTreeMap.mem_keys, Std.ExtTreeMap.mem_keys, mem_iff_recalled, mem_iff_recalled, h]
  have hperm : found.keys.Perm entries.keys :=
    (List.perm_ext_iff_of_nodup found.nodup_keys entries.nodup_keys).2 hmem
  refine hperm.eq_of_pairwise (fun a b _ _ hab hba => ?_) found.ordered_keys entries.ordered_keys
  exact absurd hba (Std.OrientedCmp.not_lt_of_lt hab)

theorem get?_eq (cache : Cache) (key signature : String) : cache.get? key signature =
    (recalled cache.entries (RawText.ofString key)).bind fun known =>
      if known.1 = RawText.ofString signature then known.2 else none := by
  rw [Cache.get?, recalled, Option.bind_map]
  rfl

end Cache

end ScriptStats
