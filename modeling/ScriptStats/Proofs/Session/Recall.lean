import ScriptStats.Proofs.Cache.Possible
import ScriptStats.Proofs.Session.Saved

/-!
# What is recalled is believed

A cache recalls whatever statistics its file tells, if their types are right. Only what is missing or of a
wrong type is taken for unknown; then the script is read, and what comes of it is possible.
-/

namespace ScriptStats

open Program

namespace Moment

variable {moment : Moment} {depth : Nat} {desk : Desk} {path : Path} {signature : Signature}
  {cache : Cache}

/-- What a script comes to when it is read is possible. -/
theorem isPossible_freshStats (moment : Moment) (path : Path) :
    (moment.freshStats path).IsPossible := by
  cases hstats : moment.stats? path with
  | none =>
    rw [freshStats, hstats]
    exact FileStats.isPossible_empty
  | some stats =>
    obtain ⟨bytes, -, hread⟩ := Option.bind_eq_some_iff.1 hstats
    obtain ⟨text, -, rfl⟩ := Option.map_eq_some_iff.1 hread
    rw [freshStats, hstats]
    exact Script.isPossible_stats text

/-- A script of which the cache says nothing is read. -/
theorem outcome_stats_of_miss (hread : ∀ e, moment.read path = .error e → e.isRefusal = true)
    (hsignature : moment.signature path = .ok signature) (hcache : desk.session.cache = some cache)
    (hget : cache.get? path.text signature.text = none) :
    outcome (moment.atWork depth (ScriptFile.stats true path)) desk =
      (.ok (moment.freshStats path), (moment.stats? path).elim desk fun stats =>
        desk.withCache (some (cache.store path.text signature.text stats moment.time))) := by
  have hstats : moment.eval (ScriptFile.readStats path) = .ok (moment.stats? path) := by
    rw [eval_readStats, exists_possible hread]
    rfl
  rw [ScriptFile.stats, if_pos rfl]
  exact outcome_cachedStats_of_miss hsignature hcache hget hstats

end Moment

namespace KeptCache

/-- A cache recalls exactly what its file tells in the right types. What it recalls is possible just if the
file tells what is possible, or if it has been stored since, and so it is with what is read of the file
that it leaves. A script of which it recalls nothing is read, and comes to what is possible. -/
theorem recalls_possible {depth : Nat} {path : Path} {contents : Except FileError Bytes}
    {start kept : KeptCache} {history : List Operation}
    (hload : Cache.load depth path contents = .ok start.cache) (hrun : Run start history kept)
    (hstores : StoresPossible history) :
    (∀ key signature, lastFate? (RawText.ofString key) history = none →
      ∀ stats, kept.cache.get? key signature = some stats ↔
        ∃ value, Cache.Tells depth contents key signature value ∧ value.ReadsAs stats) ∧
    (∀ key signature stats, kept.cache.get? key signature = some stats →
      (stats.IsPossible ↔ TellsPossible depth contents history key signature)) ∧
    (start.disk.read path = contents → 5 ≤ depth → kept.cache.dirty = false →
      ∃ fresh, Cache.load depth path (kept.disk.read path) = .ok fresh ∧
        ∀ key signature stats, fresh.get? key signature = some stats →
          (stats.IsPossible ↔ TellsPossible depth contents history key signature)) ∧
    ∀ (moment : Moment) (below : Nat) (desk : Desk) (script : Path) (signature : Signature),
      (∀ e, moment.read script = .error e → e.isRefusal = true) →
      moment.signature script = .ok signature → desk.session.cache = some kept.cache →
      kept.cache.get? script.text signature.text = none →
        outcome (moment.atWork below (ScriptFile.stats true script)) desk =
          (.ok (moment.freshStats script), (moment.stats? script).elim desk fun stats =>
            desk.withCache (some (kept.cache.store script.text signature.text stats moment.time))) ∧
        (moment.freshStats script).IsPossible := by
  refine ⟨fun key signature hkey stats => ?_, fun key signature stats hget => ?_,
    fun hdisk hdepth hclean => ?_, fun moment below desk script signature hread hsignature hcache hget =>
      ⟨Moment.outcome_stats_of_miss hread hsignature hcache hget, moment.isPossible_freshStats script⟩⟩
  · rw [← Cache.get?_eq_some_iff_tells hload, Cache.get?_congr (getElem?_run hrun hkey)]
  · exact isPossible_iff_of_run hload hrun hstores hget
  · obtain ⟨below, rfl⟩ := Nat.exists_eq_add_of_le' hdepth
    have hnew : start.IsNew (below + 5) := .inr ⟨path, hdisk ▸ hload⟩
    have hsound : kept.Sound (below + 3) := (sound_of_isNew hnew).run hrun
    have hpath : kept.cache.path = some path := (path_run hrun).trans (Cache.load_eq_ok hload).1
    obtain ⟨fresh, hfresh, hsame⟩ := hsound.upToDate path hpath hclean
    refine ⟨fresh, hfresh, fun key signature stats hget => ?_⟩
    rw [Cache.get?_eq, hsame, ← Cache.get?_eq] at hget
    exact isPossible_iff_of_run hload hrun hstores hget

/-- A cache file with three entries: one of statistics, one of statistics that no text has, and one of what
is none. -/
def doubtfulText : List Char :=
  ["\x7b\"version\":1,", "\"entries\":\x7b",
    "\"a\":\x7b\"signature\":\"1:1\",", "\"stats\":\x7b",
    "\"body_char_count\":3,", "\"word_count\":1,", "\"speakers\":[],",
    "\"words\":[\"one\"]\x7d\x7d,",
    "\"b\":\x7b\"signature\":\"1:1\",", "\"stats\":\x7b",
    "\"body_char_count\":-3,", "\"word_count\":true,", "\"speakers\":[],",
    "\"words\":[\"one\", \"two\"]\x7d\x7d,",
    "\"/w/a.nani\":\x7b\"signature\":\"1:1\",", "\"stats\":\x7b",
    "\"word_count\":\"three\"\x7d\x7d", "\x7d\x7d"].flatMap String.toList

def doubtfulFile : Except FileError Bytes :=
  .ok (Text.Utf8.encode doubtfulText)

def doubtfulPath : Path :=
  ⟨.root, ["cache.json"]⟩

def soundStats : FileStats :=
  { bodyChars := .number 3, wordCount := .number 1, words := ["one"] }

def doubtfulStats : FileStats :=
  { bodyChars := .number (-3), wordCount := .flag true, words := ["one", "two"] }

theorem isPossible_soundStats : soundStats.IsPossible :=
  ⟨⟨3, rfl⟩, rfl, ⟨0, rfl⟩⟩

theorem not_isPossible_doubtfulStats : ¬ doubtfulStats.IsPossible := by
  intro h
  cases h.wordCount

theorem load_doubtful : ∃ cache, Cache.load 980 doubtfulPath doubtfulFile = .ok cache ∧
    cache.get? "a" "1:1" = some soundStats ∧ cache.get? "b" "1:1" = some doubtfulStats ∧
      cache.get? "/w/a.nani" "1:1" = none := by
  have hfound : (Cache.load 980 doubtfulPath doubtfulFile).toOption.map (fun cache =>
      (cache.get? "a" "1:1", cache.get? "b" "1:1", cache.get? "/w/a.nani" "1:1")) =
        some (some soundStats, some doubtfulStats, none) := by
    decide +kernel
  obtain ⟨cache, hload, heq⟩ := Option.map_eq_some_iff.1 hfound
  obtain ⟨ha, hrest⟩ := Prod.mk.inj heq
  obtain ⟨hb, hmiss⟩ := Prod.mk.inj hrest
  refine ⟨cache, ?_, ha, hb, hmiss⟩
  cases h : Cache.load 980 doubtfulPath doubtfulFile with
  | error e =>
    rw [h] at hload
    cases hload
  | ok found =>
    rw [h] at hload
    exact congrArg Except.ok (Option.some_inj.1 hload)

/-- All three kinds of entries are met. -/
theorem recalls_possible_doubtful : ∃ cache, Cache.load 980 doubtfulPath doubtfulFile = .ok cache ∧
    cache.get? "a" "1:1" = some soundStats ∧ Cache.TellsPossible 980 doubtfulFile "a" "1:1" ∧
    cache.get? "b" "1:1" = some doubtfulStats ∧ ¬ Cache.TellsPossible 980 doubtfulFile "b" "1:1" ∧
    ∀ desk : Desk, desk.session.cache = some cache →
      (outcome ((World.draft [64] 1).atWork 980 (ScriptFile.stats true ⟨.root, ["w", "a.nani"]⟩)) desk).1 =
        .ok (Script.stats ['@']) := by
  obtain ⟨cache, hload, ha, hb, hmiss⟩ := load_doubtful
  have hstores : StoresPossible [] := fun _ _ _ h => by cases h
  obtain ⟨-, hpossible, -, hread⟩ :=
    @recalls_possible 980 doubtfulPath doubtfulFile ⟨cache, {}⟩ ⟨cache, {}⟩ [] hload .start hstores
  refine ⟨cache, hload, ha, (hpossible "a" "1:1" _ ha).1 isPossible_soundStats rfl, hb,
    fun h => not_isPossible_doubtfulStats ((hpossible "b" "1:1" _ hb).2 fun _ => h), fun desk hcache => ?_⟩
  rw [(hread (World.draft [64] 1) 980 desk ⟨.root, ["w", "a.nani"]⟩ ⟨1, 1⟩ nofun rfl hcache hmiss).1]
  rfl

/-- A cache recalls statistics that no text has. -/
theorem not_recalls_possible : ¬ ∀ (depth : Nat) (path : Path) (contents : Except FileError Bytes)
    (cache : Cache) (key signature : String) (stats : FileStats),
    Cache.load depth path contents = .ok cache → cache.get? key signature = some stats →
      stats.IsPossible := by
  intro h
  obtain ⟨cache, hload, -, hb, -⟩ := load_doubtful
  exact not_isPossible_doubtfulStats (h _ _ _ _ _ _ _ hload hb)

end KeptCache

end ScriptStats
