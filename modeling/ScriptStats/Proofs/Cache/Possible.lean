import ScriptStats.Proofs.Cache.Kept
import ScriptStats.Proofs.Cache.Loading
import ScriptStats.Script

/-!
# Possible statistics

Of the statistics in a cache file only the types are looked at. So what is found in a cache is possible just
if the file tells what is possible, or if it has been stored since.
-/

namespace ScriptStats

/-! ## Statistics -/

namespace FileStats

/-- The counts are whole numbers, none of them negative, and there are as many words as are counted. -/
structure IsPossible (stats : FileStats) : Prop where
  bodyChars : ∃ n : Nat, stats.bodyChars = .ofNat n
  wordCount : stats.wordCount = .ofNat stats.words.length
  scriptLines : ∃ n : Nat, stats.scriptLines = .ofNat n

theorem isPossible_empty : IsPossible {} :=
  ⟨⟨0, rfl⟩, rfl, ⟨0, rfl⟩⟩

end FileStats

/-- What is counted of a text is possible. -/
theorem Script.isPossible_stats (text : List Char) : (stats text).IsPossible where
  bodyChars := ⟨_, rfl⟩
  wordCount := rfl
  scriptLines := ⟨_, rfl⟩

/-! ## What is written of statistics -/

namespace Json

/-- The value has the fields of the statistics. Counts may be truth values, and that of the script lines may
be missing. -/
structure ReadsAs (value : Json) (stats : FileStats) : Prop where
  bodyChars : value.field? "body_char_count" = some stats.bodyChars.toJson
  wordCount : value.field? "word_count" = some stats.wordCount.toJson
  scriptLines : (value.field? "script_line_count").getD (.int 0) = stats.scriptLines.toJson
  speakers : ∃ names : List RawText, value.field? "speakers" = some (.array (names.map .string)) ∧
    stats.speakers = NameSet.ofList (names.map RawText.toString)
  words : ∃ words : List RawText, value.field? "words" = some (.array (words.map .string)) ∧
    stats.words = words.map RawText.toString

/-- What the value says of counts is possible. -/
structure SaysPossible (value : Json) : Prop where
  bodyChars : ∃ n : Nat, value.field? "body_char_count" = some (.int n)
  wordCount : ∃ words, value.field? "words" = some (.array words) ∧
    value.field? "word_count" = some (.int words.length)
  scriptLines : ∃ n : Nat, (value.field? "script_line_count").getD (.int 0) = .int n

end Json

namespace FileStats

variable {value : Json} {stats : FileStats}

theorem count?_eq_some_iff {count : Count} : count? value = some count ↔ value = count.toJson := by
  constructor
  · intro h
    cases value with
    | int n => exact Option.some_inj.1 h ▸ rfl
    | bool b => exact Option.some_inj.1 h ▸ rfl
    | _ => cases h
  · rintro rfl
    cases count <;> rfl

theorem mapM_asString?_eq_some_iff {items : List Json} {texts : List String} :
    items.mapM Json.asString? = some texts ↔
      ∃ raw : List RawText, items = raw.map .string ∧ texts = raw.map RawText.toString := by
  constructor
  · intro h
    induction items generalizing texts with
    | nil => exact ⟨[], rfl, (Option.some_inj.1 h).symm⟩
    | cons item items ih =>
      simp only [List.mapM_cons, Option.bind_eq_bind, Option.bind_eq_some_iff, Option.pure_def,
        Option.some_inj] at h
      obtain ⟨text, htext, rest, hrest, rfl⟩ := h
      obtain ⟨raw, rfl, rfl⟩ := ih hrest
      cases item with
      | string s => exact ⟨s :: raw, rfl, by rw [List.map_cons, ← Option.some_inj.1 htext]⟩
      | _ => cases htext
  · rintro ⟨raw, rfl, rfl⟩
    have hitem : Json.asString? ∘ Json.string = fun s => pure s.toString := rfl
    rw [List.mapM_map]
    exact hitem ▸ List.mapM_pure ..

theorem strings?_eq_some_iff {texts : List String} : strings? value = some texts ↔
    ∃ raw : List RawText, value = .array (raw.map .string) ∧ texts = raw.map RawText.toString := by
  cases value with
  | array items =>
    simp only [Json.array.injEq]
    exact mapM_asString?_eq_some_iff
  | _ =>
    constructor
    · intro h
      cases h
    · rintro ⟨_, h, -⟩
      cases h

/-- What statistics can be read from. -/
theorem ofCached?_eq_some_iff : ofCached? value = some stats ↔ value.ReadsAs stats := by
  simp only [ofCached?, Option.bind_eq_bind, Option.bind_eq_some_iff, Option.pure_def,
    Option.some_inj, count?_eq_some_iff, strings?_eq_some_iff]
  constructor
  · rintro ⟨_, hbody, _, rfl, _, hword, _, rfl, _, hlines, _, hspeakers, _, ⟨names, rfl, rfl⟩,
      _, hwords, _, ⟨words, rfl, rfl⟩, rfl⟩
    exact ⟨hbody, hword, hlines, ⟨names, hspeakers, rfl⟩, ⟨words, hwords, rfl⟩⟩
  · rintro ⟨hbody, hword, hlines, ⟨names, hnames, hspeakers⟩, words, hlisted, hwords⟩
    refine ⟨_, hbody, _, rfl, _, hword, _, rfl, _, hlines, _, hnames, _, ⟨names, rfl, rfl⟩,
      _, hlisted, _, ⟨words, rfl, rfl⟩, ?_⟩
    rw [← hspeakers, ← hwords]

/-- Statistics are possible just if what they are read from is. -/
theorem isPossible_iff_of_readsAs (h : value.ReadsAs stats) :
    stats.IsPossible ↔ value.SaysPossible := by
  obtain ⟨words, hlisted, hwords⟩ := h.words
  have hcount (count : Count) (n : Nat) : count = .ofNat n ↔ count.toJson = .int n := by
    cases count <;> simp [Count.ofNat, Count.toJson]
  have hlength : stats.words.length = words.length := by rw [hwords, List.length_map]
  constructor
  · rintro ⟨⟨n, hbody⟩, hword, m, hlines⟩
    refine ⟨⟨n, h.bodyChars.trans (congrArg some ((hcount _ n).1 hbody))⟩,
      ⟨_, hlisted, h.wordCount.trans (congrArg some ?_)⟩, ⟨m, h.scriptLines.trans ((hcount _ m).1 hlines)⟩⟩
    rw [List.length_map, ← hlength]
    exact (hcount _ _).1 hword
  · rintro ⟨⟨n, hbody⟩, ⟨items, hitems, hword⟩, m, hlines⟩
    refine ⟨⟨n, (hcount _ n).2 ?_⟩, (hcount _ _).2 ?_, ⟨m, (hcount _ m).2 ?_⟩⟩
    · exact Option.some_inj.1 (h.bodyChars.symm.trans hbody)
    · obtain rfl := Json.array.inj (Option.some_inj.1 (hlisted.symm.trans hitems))
      rw [hlength, ← List.length_map Json.string]
      exact Option.some_inj.1 (h.wordCount.symm.trans hword)
    · exact h.scriptLines.symm.trans hlines

end FileStats

/-! ## What a cache file tells -/

namespace Cache

/-- The file has an entry of that signature under the key, which tells this value for statistics. -/
def Tells (depth : Nat) (contents : Except FileError Bytes) (key signature : String) (value : Json) :
    Prop :=
  ∃ fields entry, IsDocument depth contents fields ∧
    fields.lookup (RawText.ofString key) = some entry ∧
      entry.field? "signature" = some (.string (RawText.ofString signature)) ∧
        entry.field? "stats" = some value

variable {depth : Nat} {path : Path} {contents : Except FileError Bytes} {cache : Cache}
  {key signature : String} {stats : FileStats}

theorem IsDocument.unique {fields others : List (RawText × Json)}
    (h : IsDocument depth contents fields) (h' : IsDocument depth contents others) :
    fields = others := by
  cases h with
  | intro hdecode hparse _ _ hfields =>
    cases h' with
    | intro hdecode' hparse' _ _ hfields' =>
      obtain rfl := Except.ok.inj (hdecode.symm.trans hdecode')
      obtain rfl := Except.ok.inj (hparse.symm.trans hparse')
      exact Json.object.inj (Option.some_inj.1 (hfields.symm.trans hfields'))

theorem Tells.unique {value other : Json} (h : Tells depth contents key signature value)
    (h' : Tells depth contents key signature other) : value = other := by
  obtain ⟨fields, entry, hdocument, hentry, -, hvalue⟩ := h
  obtain ⟨others, again, hagain, hsame, -, hother⟩ := h'
  obtain rfl := hdocument.unique hagain
  obtain rfl := Option.some_inj.1 (hentry.symm.trans hsame)
  exact Option.some_inj.1 (hvalue.symm.trans hother)

/-- What is found in a cache that was loaded is what its file tells. -/
theorem get?_eq_some_iff_tells (h : load depth path contents = .ok cache) :
    cache.get? key signature = some stats ↔
      ∃ value, Tells depth contents key signature value ∧ value.ReadsAs stats := by
  by_cases hdocument : ∃ fields, IsDocument depth contents fields
  · obtain ⟨fields, hdocument⟩ := hdocument
    rw [get?_eq_some_iff_of_load h hdocument]
    constructor
    · rintro ⟨entry, value, hentry, hsignature, hvalue, hread⟩
      exact ⟨value, ⟨fields, entry, hdocument, hentry, hsignature, hvalue⟩,
        FileStats.ofCached?_eq_some_iff.1 hread⟩
    · rintro ⟨value, ⟨others, entry, hother, hentry, hsignature, hvalue⟩, hread⟩
      obtain rfl := hdocument.unique hother
      exact ⟨entry, value, hentry, hsignature, hvalue, FileStats.ofCached?_eq_some_iff.2 hread⟩
  · have hempty := entries_eq_empty_of_load h fun fields hfields => hdocument ⟨fields, hfields⟩
    refine ⟨fun hget => ?_, fun ⟨_, ⟨fields, _, hfields, _⟩, _⟩ => absurd ⟨fields, hfields⟩ hdocument⟩
    rw [get?, hempty, Std.ExtTreeMap.getElem?_empty] at hget
    cases hget

/-- What the file tells under the key and the signature, if anything, is possible. -/
def TellsPossible (depth : Nat) (contents : Except FileError Bytes) (key signature : String) : Prop :=
  ∀ value, Tells depth contents key signature value → value.SaysPossible

theorem isPossible_iff_of_load (h : load depth path contents = .ok cache)
    (hget : cache.get? key signature = some stats) :
    stats.IsPossible ↔ TellsPossible depth contents key signature := by
  obtain ⟨value, htells, hread⟩ := (get?_eq_some_iff_tells h).1 hget
  rw [FileStats.isPossible_iff_of_readsAs hread]
  exact ⟨fun hsays other hother => htells.unique hother ▸ hsays, fun hall => hall value htells⟩

end Cache

/-! ## Caches in use -/

namespace KeptCache

variable {depth : Nat} {path : Path} {contents : Except FileError Bytes} {start kept : KeptCache}
  {history : List Operation} {key signature : String} {stats : FileStats}

/-- All that the keys have been left with is possible. -/
def StoresPossible (history : List Operation) : Prop :=
  ∀ key signature stats, lastFate? key history = some (.stored signature stats) → stats.IsPossible

/-- What the file has told under the key and the signature, if anything, is possible, or the key has been
changed since. -/
def TellsPossible (depth : Nat) (contents : Except FileError Bytes) (history : List Operation)
    (key signature : String) : Prop :=
  lastFate? (RawText.ofString key) history = none → Cache.TellsPossible depth contents key signature

theorem isPossible_iff_of_run (hload : Cache.load depth path contents = .ok start.cache)
    (hrun : Run start history kept) (hstores : StoresPossible history)
    (hget : kept.cache.get? key signature = some stats) :
    stats.IsPossible ↔ TellsPossible depth contents history key signature := by
  unfold TellsPossible
  cases hfate : lastFate? (RawText.ofString key) history with
  | none =>
    have hstart : start.cache.get? key signature = some stats := by
      rw [← hget]
      exact Cache.get?_congr (getElem?_run hrun hfate).symm signature
    rw [Cache.isPossible_iff_of_load hload hstart]
    exact ⟨fun h _ => h, fun h => h rfl⟩
  | some fate =>
    refine ⟨fun _ => nofun, fun _ => ?_⟩
    rw [Cache.get?_eq, recalled_run hrun hfate, Fate.recall_bind] at hget
    cases fate with
    | stored other found =>
      obtain ⟨-, heq⟩ := Option.ite_none_right_eq_some.1 hget
      obtain rfl := Option.some_inj.1 heq
      exact hstores _ _ _ hfate
    | dropped => cases hget

end KeptCache

end ScriptStats
