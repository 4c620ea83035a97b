import ScriptStats.Proofs.Cache.Stored
import ScriptStats.Proofs.Files.Write

/-!
# Caches kept in a file

A cache goes through a row of operations while its file is on a disk. Under every key it recalls
what the last change of the key has left, and as long as it is not dirty, a new cache on the same
file recalls the same.
-/

namespace ScriptStats

open Program

/-- A cache and the disk that its file is on. -/
structure KeptCache where
  cache : Cache
  disk : Disk

/-! ## What is left under a key -/

namespace Cache

theorem getElem?_store (cache : Cache) (changed signature : String) (stats : FileStats)
    (time : String) (key : RawText) : (cache.store changed signature stats time).entries[key]? =
      if RawText.ofString changed = key then some (CacheEntry.ofStats signature stats time)
      else cache.entries[key]? := by
  rw [store, Std.ExtTreeMap.getElem?_insert]
  simp only [Std.compare_eq_iff_eq]

theorem getElem?_invalidate (cache : Cache) (changed : String) (key : RawText) :
    (cache.invalidate changed).entries[key]? =
      if RawText.ofString changed = key then none else cache.entries[key]? := by
  unfold invalidate
  split
  next =>
    rw [Std.ExtTreeMap.getElem?_erase]
    simp only [Std.compare_eq_iff_eq]
  next hcontains =>
    split
    next heq =>
      subst heq
      refine Std.ExtTreeMap.getElem?_eq_none fun hmem => hcontains ?_
      exact Std.ExtTreeMap.contains_iff_mem.2 hmem
    next => rfl

theorem getElem?_prune (cache : Cache) (keys : List String) (key : RawText) :
    (cache.prune keys).entries[key]? =
      if (keys.map RawText.ofString).contains key then cache.entries[key]? else none := by
  unfold prune
  dsimp only
  split
  next hall =>
    split
    next => rfl
    next hgone =>
      refine Std.ExtTreeMap.getElem?_eq_none fun hmem => hgone ?_
      have hkept := List.all_eq_true.1 hall key (Std.ExtTreeMap.mem_keys.2 hmem)
      exact hkept
  next =>
    rw [Std.ExtTreeMap.getElem?_filter']
    cases (keys.map RawText.ofString).contains key <;> cases cache.entries[key]? <;> rfl

theorem path_invalidate (cache : Cache) (key : String) : (cache.invalidate key).path = cache.path := by
  unfold invalidate
  split <;> rfl

theorem path_prune (cache : Cache) (kept : List String) : (cache.prune kept).path = cache.path := by
  unfold prune
  dsimp only
  split <;> rfl

theorem get?_congr {first second : Cache} {key : String}
    (h : first.entries[RawText.ofString key]? = second.entries[RawText.ofString key]?)
    (signature : String) : first.get? key signature = second.get? key signature := by
  rw [get?, get?, h]

theorem get?_store_of_ne (cache : Cache) {changed key : String} (h : key ≠ changed)
    (signature text : String) (stats : FileStats) (time : String) :
    (cache.store changed signature stats time).get? key text = cache.get? key text := by
  refine get?_congr ?_ text
  rw [getElem?_store, if_neg fun heq => h (RawText.ofString_injective heq).symm]

theorem get?_store_of_ne_signature (cache : Cache) (key : String) {signature text : String}
    (h : signature ≠ text) (stats : FileStats) (time : String) :
    (cache.store key signature stats time).get? key text = none := by
  rw [get?, getElem?_store, if_pos rfl]
  exact if_neg fun heq => h (RawText.ofString_injective heq)

theorem get?_invalidate (cache : Cache) (key signature : String) :
    (cache.invalidate key).get? key signature = none := by
  rw [get?, getElem?_invalidate, if_pos rfl]
  rfl

theorem get?_invalidate_of_ne (cache : Cache) {changed key : String} (h : key ≠ changed)
    (signature : String) : (cache.invalidate changed).get? key signature = cache.get? key signature := by
  refine get?_congr ?_ signature
  rw [getElem?_invalidate, if_neg fun heq => h (RawText.ofString_injective heq).symm]

/-- What is forgotten is not found, and all else is found as before. -/
theorem get?_prune_of_eq_some {cache : Cache} {keys : List String} {key signature : String}
    {stats : FileStats} (h : (cache.prune keys).get? key signature = some stats) :
    cache.get? key signature = some stats := by
  rw [← h]
  refine get?_congr ?_ signature
  rw [getElem?_prune]
  split
  next => rfl
  next hgone =>
    rw [get?, getElem?_prune, if_neg hgone] at h
    cases h

end Cache

namespace KeptCache

inductive Operation where
  | get (key signature : String)
  | store (key signature : String) (stats : FileStats) (time : String)
  | invalidate (key : String)
  | prune (keys : List String)
  /-- The file may be refused before anything is written. -/
  | persist (refused : Bool)

/-- Writes the file if it is behind. Numbers that are too long are noticed before the file is
touched. -/
def persist (kept : KeptCache) (refused : Bool) : KeptCache :=
  match kept.cache.due? with
  | none => kept
  | some (path, text) =>
    if refused || !(Cache.document kept.cache.entries).hasWritableNumbers then kept
    else
      match outcome (Disk.writeText path text) kept.disk with
      | (.ok (), disk) => ⟨kept.cache.written, disk⟩
      | (.error _, disk) => ⟨kept.cache, disk⟩

def perform (kept : KeptCache) : Operation → KeptCache
  | .get _ _ => kept
  | .store key signature stats time =>
    { kept with cache := kept.cache.store key signature stats time }
  | .invalidate key => { kept with cache := kept.cache.invalidate key }
  | .prune keys => { kept with cache := kept.cache.prune keys }
  | .persist refused => kept.persist refused

/-- A new cache, without a file or as its file is loaded. -/
def IsNew (depth : Nat) (kept : KeptCache) : Prop :=
  kept.cache = { path := none } ∨
    ∃ path, Cache.load depth path (kept.disk.read path) = .ok kept.cache

/-- What can become of a cache by the operations, the latest first. In between, the disk may change
in all but the file of the cache. -/
inductive Run (start : KeptCache) : List Operation → KeptCache → Prop where
  | start : Run start [] start
  | operate {history : List Operation} {kept : KeptCache} (operation : Operation) :
      Run start history kept → Run start (operation :: history) (kept.perform operation)
  | elsewhere {history : List Operation} {kept : KeptCache} (disk : Disk) :
      Run start history kept →
      (∀ path, kept.cache.path = some path → disk.read path = kept.disk.read path) →
      Run start history { kept with disk }

/-! ## Changes of a key -/

/-- What a change leaves under a key. -/
inductive Fate where
  | stored (signature : String) (stats : FileStats)
  | dropped

/-- What is found under the key if a signature is asked for. -/
def Fate.answer (signature : String) : Fate → Option FileStats
  | stored other stats => if other = signature then some stats else none
  | dropped => none

/-- What can be recalled under the key. -/
def Fate.recall : Fate → Option (RawText × Option FileStats)
  | stored signature stats => some (RawText.ofString signature, some stats)
  | dropped => none

/-- What the operation leaves under the key if it changes it. -/
def Operation.fate? (key : RawText) : Operation → Option Fate
  | get _ _ => none
  | store changed signature stats _ =>
    if RawText.ofString changed = key then some (.stored signature stats) else none
  | invalidate changed => if RawText.ofString changed = key then some .dropped else none
  | prune keys => if (keys.map RawText.ofString).contains key then none else some .dropped
  | persist _ => none

/-- What the last change of the key has left. -/
def lastFate? (key : RawText) (history : List Operation) : Option Fate :=
  history.findSome? (Operation.fate? key)

variable {kept : KeptCache} {key : RawText} {operation : Operation} {depth : Nat}

theorem Fate.recall_bind (fate : Fate) (signature : String) : (fate.recall.bind fun known =>
    if known.1 = RawText.ofString signature then known.2 else none) = fate.answer signature := by
  cases fate with
  | stored other stats =>
    have hiff : RawText.ofString other = RawText.ofString signature ↔ other = signature :=
      ⟨RawText.ofString_injective, congrArg RawText.ofString⟩
    simp only [Fate.recall, answer, Option.bind_some, hiff]
  | dropped => rfl

theorem entries_persist (kept : KeptCache) (refused : Bool) :
    (kept.persist refused).cache.entries = kept.cache.entries := by
  unfold persist
  split
  next => rfl
  next =>
    split
    next => rfl
    next => split <;> rfl

theorem path_persist (kept : KeptCache) (refused : Bool) :
    (kept.persist refused).cache.path = kept.cache.path := by
  unfold persist
  split
  next => rfl
  next =>
    split
    next => rfl
    next => split <;> rfl

/-- No operation moves a cache to another file. -/
theorem path_perform (kept : KeptCache) (operation : Operation) :
    (kept.perform operation).cache.path = kept.cache.path := by
  cases operation with
  | get | store => rfl
  | invalidate key => exact Cache.path_invalidate _ _
  | prune keys => exact Cache.path_prune _ _
  | persist refused => exact path_persist kept refused

/-- A key that is not changed keeps its entry. -/
theorem getElem?_perform_of_fate?_eq_none (h : operation.fate? key = none) :
    (kept.perform operation).cache.entries[key]? = kept.cache.entries[key]? := by
  cases operation with
  | get => rfl
  | store changed signature stats time =>
    rw [perform, Cache.getElem?_store]
    simp_all [Operation.fate?]
  | invalidate changed =>
    rw [perform, Cache.getElem?_invalidate]
    simp_all [Operation.fate?]
  | prune keys =>
    rw [perform, Cache.getElem?_prune]
    simp_all [Operation.fate?]
  | persist refused => rw [perform, entries_persist]

theorem recalled_perform_of_fate?_eq_some {fate : Fate} (h : operation.fate? key = some fate) :
    Cache.recalled (kept.perform operation).cache.entries key = fate.recall := by
  cases operation with
  | get => cases h
  | store changed signature stats time =>
    obtain ⟨hkey, heq⟩ := Option.ite_none_right_eq_some.1 h
    cases heq
    rw [perform, Cache.recalled, Cache.getElem?_store, if_pos hkey]
    simp only [Option.map_some, CacheEntry.recall, CacheEntry.ofStats, FileStats.ofCached?_toCached]
    rfl
  | invalidate changed =>
    obtain ⟨hkey, heq⟩ := Option.ite_none_right_eq_some.1 h
    cases heq
    rw [perform, Cache.recalled, Cache.getElem?_invalidate, if_pos hkey]
    rfl
  | prune keys =>
    obtain ⟨hkey, heq⟩ := Option.ite_none_left_eq_some.1 h
    cases heq
    rw [perform, Cache.recalled, Cache.getElem?_prune, if_neg hkey]
    rfl
  | persist => cases h

variable {start : KeptCache} {history : List Operation}

theorem path_run (h : Run start history kept) : kept.cache.path = start.cache.path := by
  induction h with
  | start => rfl
  | operate operation _ ih => rw [path_perform, ih]
  | elsewhere disk _ _ ih => exact ih

theorem getElem?_run (h : Run start history kept) (hkey : lastFate? key history = none) :
    kept.cache.entries[key]? = start.cache.entries[key]? := by
  induction h with
  | start => rfl
  | operate operation _ ih =>
    rw [lastFate?, List.findSome?_cons] at hkey
    split at hkey
    next => cases hkey
    next hfate => rw [getElem?_perform_of_fate?_eq_none hfate, ih hkey]
  | elsewhere disk _ _ ih => exact ih hkey

theorem recalled_run (h : Run start history kept) {fate : Fate}
    (hkey : lastFate? key history = some fate) :
    Cache.recalled kept.cache.entries key = fate.recall := by
  induction h with
  | start => cases hkey
  | operate operation _ ih =>
    rw [lastFate?, List.findSome?_cons] at hkey
    split at hkey
    next hfate =>
      cases hkey
      exact recalled_perform_of_fate?_eq_some hfate
    next hfate =>
      rw [Cache.recalled, getElem?_perform_of_fate?_eq_none hfate]
      exact ih hkey
  | elsewhere disk _ _ ih => exact ih hkey

/-! ## The file -/

/-- A new cache on the same file recalls the same. -/
def UpToDate (depth : Nat) (kept : KeptCache) : Prop :=
  ∀ path, kept.cache.path = some path → kept.cache.dirty = false →
    ∃ fresh, Cache.load depth path (kept.disk.read path) = .ok fresh ∧
      Cache.recalled fresh.entries = Cache.recalled kept.cache.entries

/-- What is invariant: all entries can be written and read again, and the file is up to date. -/
structure Sound (below : Nat) (kept : KeptCache) : Prop where
  stored : Cache.Each (fun _ entry => entry.Stored below) kept.cache.entries
  upToDate : kept.UpToDate (below + 2)

theorem upToDate_of_dirty (h : kept.cache.dirty = true) : kept.UpToDate depth := by
  intro path _ hclean
  rw [h] at hclean
  cases hclean

theorem sound_of_isNew {below : Nat} (h : kept.IsNew (below + 2)) : kept.Sound below := by
  rcases h with hempty | ⟨path, hload⟩
  · constructor
    · rw [hempty]
      exact Cache.each_empty
    · intro path hpath
      rw [hempty] at hpath
      cases hpath
  · obtain ⟨hpath, hentries⟩ := Cache.load_eq_ok hload
    constructor
    · rcases hentries with hempty | ⟨bytes, -, hread⟩
      · exact hempty ▸ Cache.each_empty
      · exact Cache.each_stored_of_entriesOfBytes hread
    · intro other hother _
      obtain rfl : path = other := Option.some_inj.1 (hpath.symm.trans hother)
      exact ⟨kept.cache, hload, rfl⟩

variable {below : Nat}

/-- What was written is up to date. -/
theorem Sound.upToDate_written (h : kept.Sound below) {path : Path} {disk : Disk}
    (hpath : kept.cache.path = some path)
    (hwritable : (Cache.document kept.cache.entries).hasWritableNumbers = true)
    (hwrite : outcome (Disk.writeText path kept.cache.fileText) kept.disk = (.ok (), disk)) :
    UpToDate (below + 2) ⟨kept.cache.written, disk⟩ := by
  intro other hother _
  obtain rfl : path = other := Option.some_inj.1 (hpath.symm.trans hother)
  obtain ⟨bytes, hbytes, hread⟩ := Disk.read_of_writeText hwrite
  have htidy : Cache.Tidy kept.cache.entries := fun key entry hentry =>
    (h.stored key entry hentry).tidy
  obtain ⟨found, hfound, hsame⟩ :=
    htidy.exists_entriesOfBytes (Cache.fits_document h.stored hwritable) hbytes
  refine ⟨{ path := some path, entries := found }, ?_, hsame⟩
  rw [hread, Cache.load_ok, hfound]
  rfl

theorem Sound.persist (h : kept.Sound below) (refused : Bool) :
    (kept.persist refused).Sound below := by
  refine ⟨entries_persist kept refused ▸ h.stored, ?_⟩
  unfold KeptCache.persist
  split
  next => exact h.upToDate
  next path text hdue =>
    obtain ⟨hdirty, hpath, rfl⟩ := Cache.due?_eq_some hdue
    split
    next => exact h.upToDate
    next hwritable =>
      have hnumbers : (Cache.document kept.cache.entries).hasWritableNumbers = true := by
        simp only [Bool.or_eq_true, Bool.not_eq_true', not_or, Bool.not_eq_false] at hwritable
        exact hwritable.2
      split
      next hwrite => exact h.upToDate_written hpath hnumbers hwrite
      next => exact upToDate_of_dirty hdirty

theorem UpToDate.invalidate (h : kept.UpToDate depth) (key : String) :
    UpToDate depth { kept with cache := kept.cache.invalidate key } := by
  unfold Cache.invalidate
  split
  next => exact upToDate_of_dirty rfl
  next => exact h

theorem UpToDate.prune (h : kept.UpToDate depth) (keys : List String) :
    UpToDate depth { kept with cache := kept.cache.prune keys } := by
  unfold Cache.prune
  dsimp only
  split
  next => exact h
  next => exact upToDate_of_dirty rfl

theorem Sound.perform {below : Nat} (h : kept.Sound (below + 3)) (operation : Operation) :
    (kept.perform operation).Sound (below + 3) := by
  cases operation with
  | get => exact h
  | store key signature stats time =>
    exact ⟨h.stored.store (CacheEntry.stored_ofStats below signature stats time),
      upToDate_of_dirty rfl⟩
  | invalidate key => exact ⟨h.stored.invalidate key, h.upToDate.invalidate key⟩
  | prune keys => exact ⟨h.stored.prune keys, h.upToDate.prune keys⟩
  | persist refused => exact h.persist refused

theorem Sound.run (hstart : start.Sound (below + 3)) (h : Run start history kept) :
    kept.Sound (below + 3) := by
  induction h with
  | start => exact hstart
  | operate operation _ ih => exact ih.perform operation
  | elsewhere disk _ hread ih =>
    refine ⟨ih.stored, fun path hpath hclean => ?_⟩
    rw [hread path hpath]
    exact ih.upToDate path hpath hclean

/-- A cache refines a map. Under each key it answers with what the last change has left, keys that
are not changed keep their entries, and whenever it is not dirty, a new cache on its file has the
same keys and gives the same answers. -/
theorem answers_run {depth : Nat} (hdepth : 5 ≤ depth) {start kept : KeptCache}
    (hstart : start.IsNew depth) {history : List Operation} (h : Run start history kept) :
    (∀ key signature fate, lastFate? (RawText.ofString key) history = some fate →
      kept.cache.get? key signature = fate.answer signature) ∧
    (∀ key, lastFate? key history = none → kept.cache.entries[key]? = start.cache.entries[key]?) ∧
    (∀ path, kept.cache.path = some path → kept.cache.dirty = false →
      ∃ fresh, Cache.load depth path (kept.disk.read path) = .ok fresh ∧
        fresh.keys = kept.cache.keys ∧
        ∀ key signature, fresh.get? key signature = kept.cache.get? key signature) := by
  obtain ⟨below, rfl⟩ := Nat.exists_eq_add_of_le' hdepth
  have hsound : kept.Sound (below + 3) := (sound_of_isNew hstart).run h
  refine ⟨fun key signature fate hkey => ?_, fun key => getElem?_run h, fun path hpath hclean => ?_⟩
  · rw [Cache.get?_eq, recalled_run h hkey, Fate.recall_bind]
  · obtain ⟨fresh, hload, hsame⟩ := hsound.upToDate path hpath hclean
    refine ⟨fresh, hload, Cache.keys_eq_of_recalled_eq hsame, fun key signature => ?_⟩
    rw [Cache.get?_eq, Cache.get?_eq, hsame]

/-- A new cache whose file is not there. -/
def unwritten : KeptCache :=
  ⟨{ path := some ⟨.root, ["c"]⟩ }, {}⟩

theorem isNew_unwritten : unwritten.IsNew 5 := by
  refine .inr ⟨⟨.root, ["c"]⟩, ?_⟩
  rw [Disk.read, Disk.status, Disk.locate_missing Disk.isRootName_c rfl .follow]
  rfl

/-- What becomes of a cache by the operations, the latest first. -/
def performAll (start : KeptCache) (history : List Operation) : KeptCache :=
  history.foldr (fun operation kept => kept.perform operation) start

theorem performAll_cons (start : KeptCache) (operation : Operation) (history : List Operation) :
    start.performAll (operation :: history) = (start.performAll history).perform operation :=
  rfl

theorem run_performAll (start : KeptCache) (history : List Operation) :
    Run start history (start.performAll history) := by
  induction history with
  | nil => exact .start
  | cons operation history ih => exact .operate operation ih

theorem persist_refused (kept : KeptCache) : kept.persist true = kept := by
  unfold persist
  split <;> rfl

theorem persist_of_clean (hclean : kept.cache.dirty = false) (refused : Bool) :
    kept.persist refused = kept := by
  unfold persist
  rw [Cache.due?, hclean]
  rfl

/-- A cache whose file can be written where nothing is yet is no longer dirty. -/
theorem cache_persist_of_missing {name : String} (hname : Disk.IsRootName name)
    (hpath : kept.cache.path = some ⟨.root, [name]⟩) (hdirty : kept.cache.dirty = true)
    (hwritable : (Cache.document kept.cache.entries).hasWritableNumbers = true)
    {P : Knowledge} (hsound : Cache.Sound P kept.cache.entries)
    (hitem : kept.disk.item? [name] = none) :
    (kept.persist false).cache = kept.cache.written := by
  obtain ⟨bytes, hencode⟩ := hsound.exists_encodeRaw_fileText
  obtain ⟨left, hwrite⟩ := Disk.exists_outcome_writeText_of_missing hname hitem hencode
  have hdue : kept.cache.due? = some (⟨.root, [name]⟩, kept.cache.fileText) := by
    rw [Cache.due?, if_pos hdirty, hpath]
    rfl
  unfold persist
  rw [hdue]
  dsimp only
  rw [hwritable, hwrite]
  rfl

/-! ## A run -/

def spoken : FileStats :=
  { bodyChars := .number 2, wordCount := .number 1, speakers := .ofList ["Kai"], words := ["hi"] }

/-- Two scripts are remembered, and one of them is forgotten. -/
def changes : List Operation :=
  [.invalidate "b", .store "b" "2:2" spoken "", .store "a" "1:1" spoken ""]

/-- The file is refused once and then written. -/
def saving : List Operation :=
  .persist false :: .persist true :: changes

theorem sound_changes :
    Cache.Sound (fun _ _ _ => True) (unwritten.performAll changes).cache.entries := by
  refine Cache.Sound.invalidate (Cache.Sound.store (Cache.Sound.store ?_ trivial "") trivial "") "b"
  exact Cache.sound_empty

theorem cache_saving :
    (unwritten.performAll saving).cache = (unwritten.performAll changes).cache.written := by
  rw [saving, performAll_cons, performAll_cons, perform, perform, persist_refused]
  exact cache_persist_of_missing Disk.isRootName_c rfl rfl (by decide +kernel)
    sound_changes rfl

/-- A script that is remembered is found again by a new cache, and one that was forgotten is not. -/
theorem answers_run_unwritten :
    unwritten.IsNew 5 ∧ Run unwritten saving (unwritten.performAll saving) ∧
      (unwritten.performAll saving).cache.get? "a" "1:1" = some spoken ∧
      (unwritten.performAll saving).cache.get? "b" "2:2" = none ∧
      (unwritten.performAll saving).cache.dirty = false ∧
      ∃ fresh, Cache.load 5 ⟨.root, ["c"]⟩
          ((unwritten.performAll saving).disk.read ⟨.root, ["c"]⟩) = .ok fresh ∧
        fresh.keys = [RawText.ofString "a"] ∧ fresh.get? "a" "1:1" = some spoken ∧
        fresh.get? "b" "2:2" = none := by
  have hrun := run_performAll unwritten saving
  obtain ⟨hkeys, -, hfile⟩ := answers_run (by decide) isNew_unwritten hrun
  have ha := hkeys "a" "1:1" (.stored "1:1" spoken) rfl
  have hb := hkeys "b" "2:2" .dropped rfl
  have hclean : (unwritten.performAll saving).cache.dirty = false := by
    rw [cache_saving]
    rfl
  have hpath : (unwritten.performAll saving).cache.path = some ⟨.root, ["c"]⟩ := by
    rw [cache_saving]
    rfl
  obtain ⟨fresh, hload, hsame, hget⟩ := hfile _ hpath hclean
  refine ⟨isNew_unwritten, hrun, ha, hb, hclean, fresh, hload, ?_, (hget _ _).trans ha, (hget _ _).trans hb⟩
  rw [hsame, cache_saving]
  rfl

end KeptCache

end ScriptStats
