import ScriptStats.Proofs.Cache.Stored

/-!
# What a cache file may hold

A cache can be loaded unless its file is no UTF-8 or holds JSON beyond the limits of the reader.
Contents that are no document of entries are taken for none at all, and only an entry with a
signature and with statistics that make sense is found.
-/

namespace ScriptStats.Cache

open Text.Utf8 (decode)

/-- What a file holds with which no cache can be loaded, and why. -/
inductive Unloadable (depth : Nat) : Except FileError Bytes → LoadFailure → Prop where
  | undecodable {bytes : Bytes} {fault : Text.Utf8.Fault} : decode bytes = .error fault →
      Unloadable depth (.ok bytes) (.undecodable fault)
  /-- The text is JSON, or begins as if it were, but goes beyond a limit. -/
  | unreadable {bytes : Bytes} {text : List Char} {e : Json.ReadError} : decode bytes = .ok text →
      Json.parse depth text = .error e → (∀ flaw position, e ≠ .malformed flaw position) →
      Unloadable depth (.ok bytes) (.unreadable e)
  | inaccessible {e : FileError} : e.isRefusal = false →
      Unloadable depth (.error e) (.inaccessible e)

/-- What a file holds that is a document of the entries in `fields`. -/
inductive IsDocument (depth : Nat) : Except FileError Bytes → List (RawText × Json) → Prop where
  | intro {bytes : Bytes} {text : List Char} {v version : Json} {fields : List (RawText × Json)} :
      decode bytes = .ok text → Json.parse depth text = .ok v →
      v.field? "version" = some version → isFormatVersion version = true →
      v.field? "entries" = some (.object fields) → IsDocument depth (.ok bytes) fields

variable {depth : Nat} {path : Path} {contents : Except FileError Bytes}

theorem entriesOfBytes_eq_error_iff {bytes : Bytes} {failure : LoadFailure} :
    entriesOfBytes depth bytes = .error failure ↔ Unloadable depth (.ok bytes) failure := by
  unfold entriesOfBytes
  constructor
  · intro h
    split at h
    next hdecode =>
      cases h
      exact .undecodable hdecode
    next hdecode =>
      split at h
      next => cases h
      next => cases h
      next hmalformed hparse =>
        cases h
        exact .unreadable hdecode hparse hmalformed
  · intro h
    cases h with
    | undecodable hdecode => rw [hdecode]
    | unreadable hdecode hparse hmalformed =>
      rw [hdecode]
      dsimp only
      rw [hparse]
      split
      next heq => cases heq
      next flaw position heq => exact absurd (Except.error.inj heq) (hmalformed flaw position)
      next heq => rw [Except.error.inj heq]

theorem load_eq_error_iff {failure : LoadFailure} :
    load depth path contents = .error failure ↔ Unloadable depth contents failure := by
  cases contents with
  | error e =>
    rw [load_error]
    constructor
    · intro h
      split at h
      next => cases h
      next hrefusal =>
        cases h
        exact .inaccessible (Bool.eq_false_iff.2 hrefusal)
    · rintro ⟨⟩
      next hrefusal => rw [hrefusal, if_neg Bool.false_ne_true]
  | ok bytes =>
    rw [← entriesOfBytes_eq_error_iff, load_ok]
    cases entriesOfBytes depth bytes with
    | error e =>
      change Except.error e = Except.error failure ↔ Except.error e = Except.error failure
      rw [Except.error.injEq, Except.error.injEq]
    | ok entries =>
      constructor <;>
      · intro h
        cases h

/-- Contents that are no document are taken for none at all. -/
theorem entries_eq_empty_of_load {cache : Cache} (h : load depth path contents = .ok cache)
    (hforeign : ∀ fields, ¬ IsDocument depth contents fields) : cache.entries = ∅ := by
  obtain ⟨-, hempty | ⟨bytes, rfl, hentries⟩⟩ := load_eq_ok h
  · exact hempty
  · unfold entriesOfBytes at hentries
    split at hentries
    next => cases hentries
    next hdecode =>
      split at hentries
      next hparse =>
        rw [← Except.ok.inj hentries]
        unfold entriesOf
        split
        next hversion hfields =>
          split
          next hformat => exact absurd (.intro hdecode hparse hversion hformat hfields) (hforeign _)
          next => rfl
        next => rfl
      next => exact (Except.ok.inj hentries).symm
      next => cases hentries

theorem recalled_of_load {cache : Cache} (h : load depth path contents = .ok cache)
    {fields : List (RawText × Json)} (hdocument : IsDocument depth contents fields)
    (key : RawText) :
    recalled cache.entries key = (fields.lookup key).bind Json.recall? := by
  obtain @⟨bytes, text, v, version, _, hdecode, hparse, hversion, hformat, hfields⟩ := hdocument
  have hentries : entriesOfBytes depth bytes = .ok (entriesOf v) := by
    unfold entriesOfBytes
    rw [hdecode]
    dsimp only
    rw [hparse]
  rw [load_ok, hentries] at h
  rw [← Except.ok.inj h]
  exact recalled_entriesOf (Json.fits_of_parse hparse).1 hversion hformat hfields key

/-- An entry is found if it has the signature that is asked for, and statistics that make sense. -/
theorem get?_eq_some_iff_of_load {cache : Cache} (h : load depth path contents = .ok cache)
    {fields : List (RawText × Json)} (hdocument : IsDocument depth contents fields)
    {key signature : String} {stats : FileStats} : cache.get? key signature = some stats ↔
      ∃ entry found, fields.lookup (RawText.ofString key) = some entry ∧
        entry.field? "signature" = some (.string (RawText.ofString signature)) ∧
        entry.field? "stats" = some found ∧ FileStats.ofCached? found = some stats := by
  rw [get?_eq, recalled_of_load h hdocument]
  simp only [Option.bind_eq_some_iff]
  constructor
  · rintro ⟨⟨found, known⟩, ⟨entry, hentry, hrecall⟩, hstats⟩
    obtain ⟨rfl, rfl⟩ := Option.ite_none_right_eq_some.1 hstats
    obtain ⟨hsignature, value, hvalue, hread⟩ := Json.recall?_eq_some_iff.1 hrecall
    exact ⟨entry, value, hentry, hsignature, hvalue, hread⟩
  · rintro ⟨entry, value, hentry, hsignature, hvalue, hread⟩
    exact ⟨_, ⟨entry, hentry, Json.recall?_eq_some_iff.2 ⟨hsignature, value, hvalue, rfl⟩⟩,
      by rw [if_pos rfl, hread]⟩

end ScriptStats.Cache
