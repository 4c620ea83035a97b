import ScriptStats.Proofs.Files.Disk
import ScriptStats.Proofs.Session.Simulation

/-!
# The caches around a session

Loading a cache and writing it back leave the session as it is, and all caches, in the session and
on the disk, go on recording nothing but the truth.
-/

namespace ScriptStats

open Program Moment

/-- If the bytes are read as a cache, it records what was `seen`. -/
def SoundBytes (depth : Nat) (seen : List Moment) (bytes : Bytes) : Prop :=
  ∀ entries, Cache.entriesOfBytes depth bytes = .ok entries → Cache.Sound (Recorded seen) entries

/-- The desk of `session`, but for its caches. All caches that are still used record what was `seen`. -/
structure Desk.Records (depth : Nat) (seen : List Moment) (session : Session) (desk : Desk) :
    Prop where
  session_eq : ∃ cache former, desk.session = { session with cache, former }
  cache : SoundCache seen desk.session.cache
  disk : desk.disk.EveryFile (SoundBytes depth seen)

namespace Desk.Records

variable {depth : Nat} {seen : List Moment} {session : Session} {desk : Desk} {moment : Moment}

theorem withCache (h : desk.Records depth seen session) {cache : Option Cache}
    (hcache : SoundCache seen cache) : (desk.withCache cache).Records depth seen session := by
  obtain ⟨before, former, hsession⟩ := h.session_eq
  exact ⟨⟨cache, former, by rw [Desk.withCache, hsession]⟩, hcache, h.disk⟩

end Desk.Records

namespace Session

variable {depth : Nat} {seen : List Moment} {session : Session} {moment : Moment} {desk : Desk}

theorem keeps_mapCache {f : Cache → Cache}
    (hf : ∀ cache, Cache.Sound (Recorded seen) cache.entries →
      Cache.Sound (Recorded seen) (f cache).entries) :
    Keeps (Desk.Records depth seen session) (modifyThe Session (mapCache f) : Desk.Act PUnit) := by
  intro desk h
  refine h.withCache fun found hfound => ?_
  obtain ⟨cache, hcache, rfl⟩ := Option.map_eq_some_iff.1 hfound
  exact hf cache (h.cache cache hcache)

theorem keeps_changeDisk {change : Disk.Change Unit}
    (h : Keeps (Disk.EveryFile (SoundBytes depth seen)) change) :
    Keeps (Desk.Records depth seen session) (Desk.changeDisk change) :=
  fun desk hdesk => ⟨hdesk.session_eq, hdesk.cache, h desk.disk hdesk.disk⟩

theorem keeps_getThe_bind {α : Type} {I : Desk → Prop} {next : Session → Desk.Act α}
    (h : ∀ desk, I desk → I (outcome (next desk.session) desk).2) :
    Keeps I (do next (← getThe Session)) :=
  h

theorem sound_load {path : Path} {contents : Except FileError Bytes} {cache : Cache}
    (hcontents : ∀ bytes, contents = .ok bytes → SoundBytes depth seen bytes)
    (h : Cache.load depth path contents = .ok cache) :
    Cache.Sound (Recorded seen) cache.entries := by
  obtain ⟨-, hempty | ⟨bytes, hbytes, hentries⟩⟩ := Cache.load_eq_ok h
  · exact hempty ▸ Cache.sound_empty
  · exact hcontents bytes hbytes cache.entries hentries

section Opening

variable {settings : Settings}

theorem outcome_openCacheFor_of_not_allowed (h : desk.session.allowsCache settings = false) :
    outcome (openCacheFor (moment.host depth) settings) desk = (.ok false, desk) := by
  rw [openCacheFor, outcome_bind_ok (Desk.outcome_get desk), h]
  rfl

theorem outcome_openCacheFor_of_cache (hallows : desk.session.allowsCache settings = true)
    {cache : Cache} (hcache : desk.session.cache = some cache) :
    outcome (openCacheFor (moment.host depth) settings) desk = (.ok true, desk) := by
  rw [openCacheFor, outcome_bind_ok (Desk.outcome_get desk), hallows, hcache]
  rfl

theorem outcome_openCacheFor_of_load (hallows : desk.session.allowsCache settings = true)
    (hnone : desk.session.cache = none) :
    outcome (openCacheFor (moment.host depth) settings) desk =
      match Cache.load depth settings.cachePath (desk.disk.read settings.cachePath) with
      | .ok cache => (.ok true, desk.withCache (some cache))
      | .error failure => (.error (.cache failure), desk) := by
  rw [openCacheFor, outcome_bind_ok (Desk.outcome_get desk), hallows, hnone]
  change outcome (match Cache.load depth settings.cachePath (desk.disk.read settings.cachePath) with
    | .ok cache => _
    | .error failure => _) desk = _
  cases Cache.load depth settings.cachePath (desk.disk.read settings.cachePath) <;> rfl

theorem outcome_openCache_of_not_enabled (h : desk.session.cacheEnabled = false) :
    outcome (openCache (moment.host depth)) desk = (.ok false, desk) :=
  outcome_openCacheFor_of_not_allowed h

theorem outcome_openCache_of_cache (henabled : desk.session.cacheEnabled = true) {cache : Cache}
    (hcache : desk.session.cache = some cache) :
    outcome (openCache (moment.host depth)) desk = (.ok true, desk) :=
  outcome_openCacheFor_of_cache henabled hcache

theorem outcome_openCache_of_load (henabled : desk.session.cacheEnabled = true)
    (hnone : desk.session.cache = none) :
    outcome (openCache (moment.host depth)) desk =
      match Cache.load depth desk.session.settings.cachePath
        (desk.disk.read desk.session.settings.cachePath) with
      | .ok cache => (.ok true, desk.withCache (some cache))
      | .error failure => (.error (.cache failure), desk) :=
  outcome_openCacheFor_of_load henabled hnone

end Opening

theorem keeps_openCache (moment : Moment) :
    Keeps (Desk.Records depth seen session) (openCache (moment.host depth)) := by
  intro desk h
  cases henabled : desk.session.cacheEnabled with
  | false =>
    rw [outcome_openCache_of_not_enabled henabled]
    exact h
  | true =>
    cases hcache : desk.session.cache with
    | some cache =>
      rw [outcome_openCache_of_cache henabled hcache]
      exact h
    | none =>
      rw [outcome_openCache_of_load henabled hcache]
      split
      next cache hload =>
        have hsound : Cache.Sound (Recorded seen) cache.entries :=
          sound_load (fun bytes hread => h.disk.read hread) hload
        exact h.withCache fun found hfound => Option.some_inj.1 hfound ▸ hsound
      next => exact h

theorem outcome_note (moment : Moment) (depth : Nat) (level : LogLevel) (message : String)
    (desk : Desk) : outcome (note (moment.host depth) level message) desk = (.ok (), desk) :=
  rfl

theorem keeps_note (level : LogLevel) (message : String) :
    Keeps (Desk.Records depth seen session) (note (moment.host depth) level message) :=
  fun _ h => h

theorem outcome_noteTotals (moment : Moment) (depth : Nat) (stats : AggregateStats) (desk : Desk) :
    outcome (noteTotals (moment.host depth) stats) desk = (.ok (), desk) := by
  unfold noteTotals
  split <;> rfl

theorem keeps_noteTotals {I : Desk → Prop} (stats : AggregateStats) :
    Keeps I (noteTotals (moment.host depth) stats) := by
  intro desk h
  rwa [outcome_noteTotals]

theorem soundBytes_fileText {cache : Cache} (h : Cache.Sound (Recorded seen) cache.entries)
    {bytes : Bytes} (hbytes : Text.Utf8.encodeRaw cache.fileText = .ok bytes) :
    SoundBytes depth seen bytes :=
  fun _ hread => h.entriesOfBytes hbytes hread

theorem keeps_writeCache {cache : Cache} (h : Cache.Sound (Recorded seen) cache.entries)
    (path : Path) : Keeps (Desk.Records depth seen session)
      ((moment.host depth).writeCache path cache.fileText) := by
  have hnil : SoundBytes depth seen [] := fun _ hread => Cache.sound_entriesOfBytes_nil hread
  have hwrite : Keeps (Disk.EveryFile (SoundBytes depth seen))
      (Disk.writeText path cache.fileText) :=
    Disk.keeps_writeText path hnil fun _ hbytes => soundBytes_fileText h hbytes
  change Keeps _ (Desk.changeDisk (Disk.writeText path cache.fileText))
  exact keeps_changeDisk hwrite

theorem keeps_persistCache (tree : Node) :
    Keeps (Desk.Records depth seen session) (persistCache (moment.host depth) tree) := by
  refine (keeps_mapCache fun cache h => h.prune _).bind fun _ => ?_
  refine keeps_getThe_bind fun desk hdesk => ?_
  split
  next => exact hdesk
  next path text hdue =>
    obtain ⟨cache, hcache, hdue⟩ := Option.bind_eq_some_iff.1 hdue
    obtain ⟨-, -, rfl⟩ := Cache.due?_eq_some hdue
    refine (keeps_writeCache (hdesk.cache cache hcache) path).bind (fun written => ?_) desk hdesk
    split
    · exact keeps_mapCache fun cache h => h
    · split
      · exact keeps_note _ _
      · exact keeps_throw _

end Session

end ScriptStats
