import ScriptStats.Proofs.Analysis.Placement
import ScriptStats.Proofs.Session.History
import ScriptStats.Proofs.Session.Opened

/-!
# The cache is used again

A refresh leaves a cache that knows of the scripts in its tree all that there is to be known, and of
nothing else. As long as no file changes, the next refresh finds the same tree in it, and so does a
new session that finds the cache in its file.
-/

namespace ScriptStats

open Program

/-! ## Still files around a session -/

namespace StillFiles

/-- These files, and all else as it is at that moment. -/
def moment (files : StillFiles) (around : Moment) : Moment :=
  { around with
    list := fun path => (files.list path).mapError Subtype.val
    read := fun path => (files.read path).mapError Subtype.val
    signature := fun path => (files.signature path).mapError Subtype.val
    identity := fun path => .ok (files.identity path)
    directoryBound := files.directoryBound }

theorem isRefusal_of_mapError {α : Type} {found : Except Refusal α} {e : FileError}
    (h : found.mapError Subtype.val = .error e) : e.isRefusal = true := by
  cases found with
  | ok a => cases h
  | error refusal =>
    cases h
    exact refusal.2

variable {files : StillFiles} {around : Moment}

theorem possible_moment : (files.moment around).Possible where
  list _ _ := isRefusal_of_mapError
  read _ _ := isRefusal_of_mapError
  signature _ _ := isRefusal_of_mapError
  identity path := ⟨files.identity path, rfl⟩

theorem possible_mapError {α : Type} (found : Except Refusal α) :
    (Session.possible (found.mapError Subtype.val) : Except Failure (Except FileError α)) =
      .ok (found.mapError Subtype.val) :=
  Moment.exists_possible fun _ => isRefusal_of_mapError

theorem answer_moment (request : Request) :
    (files.moment around).answer request = .ok (files.answer request) := by
  cases request with
  | list path => exact possible_mapError (files.list path)
  | read path => exact possible_mapError (files.read path)
  | signature path => exact possible_mapError (files.signature path)
  | _ => rfl

theorem eval_moment {α : Type} (job : Job α) :
    (files.moment around).eval job = .ok (files.run job) := by
  induction job with
  | done a => rfl
  | ask request next ih =>
    change ((files.moment around).answer request >>= fun reply =>
      (files.moment around).eval (next reply)) = _
    rw [answer_moment]
    exact ih (files.answer request)

theorem found_toldFindings (moment : Moment) (memory : Option Cache) (listings : List Listing) :
    Found listings (listings.map (moment.toldFindings memory)) :=
  List.forall₂_map_right_iff.2 (List.forall₂_same.2 fun _ _ => ⟨rfl, List.length_map _⟩)

/-- All scripts that are listed are in the tree. -/
theorem mem_scriptPaths {options : WalkOptions} {root : Path} {listings : List Listing}
    (hwalk : (files.moment around).eval (walk options root) = .ok listings)
    {memory : Option Cache} {tree : Node}
    (htree : tree = (Aggregation.root? root
      (listings.map ((files.moment around).toldFindings memory))).getD (Node.ofDirectory root []))
    {script : Path} (hscript : script ∈ Moment.scriptsOf listings) :
    script.text ∈ tree.scriptPaths := by
  obtain rfl : files.run (walk options root) = listings :=
    Except.ok.inj ((eval_moment _).symm.trans hwalk)
  obtain ⟨node, hnode, hplaced⟩ := files.exists_root? options root
    (found_toldFindings (files.moment around) memory _)
  rw [hnode] at htree
  obtain rfl : tree = node := htree
  obtain ⟨listing, hlisting, hscript⟩ := List.mem_flatMap.1 hscript
  obtain ⟨entry, hentry, rfl⟩ := List.mem_map.1 hscript
  exact hplaced listing hlisting entry hentry

end StillFiles

/-! ## What the cache tells afterwards -/

namespace Moment

variable {moment : Moment} {memory after : Option Cache} {script : Path}

/-- What the cache tells of a script once it was analysed: what it has told at first, or else what was
read, if there is a signature to tell it under. -/
def retold? (moment : Moment) (memory : Option Cache) (script : Path) : Option FileStats :=
  (moment.signature script).toOption.bind fun _ =>
    (moment.told? memory script).or (moment.stats? script)

theorem told?_congr {first second : Cache}
    (h : ∀ signature, first.get? script.text signature = second.get? script.text signature) :
    moment.told? (some first) script = moment.told? (some second) script :=
  congrArg (Option.bind _) (funext fun signature => h signature.text)

theorem retold?_eq_of_signed {signature : Signature} (h : moment.signature script = .ok signature) :
    moment.retold? memory script = (moment.told? memory script).or (moment.stats? script) := by
  rw [retold?, h]
  rfl

theorem retold?_eq_some {signature : Signature} (hsigned : moment.signature script = .ok signature)
    (h : (moment.told? memory script).isSome ∨ (moment.stats? script).isSome) :
    moment.retold? memory script = some (moment.toldStats memory script) := by
  rw [retold?_eq_of_signed hsigned, toldStats, freshStats]
  cases htold : moment.told? memory script with
  | some told => rfl
  | none =>
    cases hstats : moment.stats? script with
    | some stats => rfl
    | none => simp [htold, hstats] at h

theorem retold?_eq_none (h : moment.retold? memory script = none) :
    (moment.signature script).toOption = none ∨ moment.stats? script = none := by
  cases hsigned : moment.signature script with
  | error e => exact .inl rfl
  | ok signature =>
    rw [retold?_eq_of_signed hsigned, Option.or_eq_none_iff] at h
    exact .inr h.2

theorem toldStats_of_retold? (h : moment.told? after script = moment.retold? memory script) :
    moment.toldStats after script = moment.toldStats memory script := by
  rw [toldStats, h, retold?, toldStats, freshStats]
  cases hsigned : moment.signature script with
  | error e =>
    have htold : moment.told? memory script = none := by
      rw [told?, hsigned]
      rfl
    rw [htold]
    rfl
  | ok signature =>
    change ((moment.told? memory script).or (moment.stats? script)).getD _ = _
    cases moment.told? memory script <;> cases moment.stats? script <;> rfl

end Moment

theorem Desk.Grown.told?_eq {moment : Moment} {cache : Cache} {scripts : List Path} {script : Path}
    {desk : Desk} (hbyText : moment.ByText) (h : desk.Grown moment (some cache) scripts)
    (hholds : desk.Holds moment (some cache) script) :
    moment.told? desk.session.cache script = moment.retold? (some cache) script := by
  cases hsigned : moment.signature script with
  | error e =>
    rw [Moment.told?, Moment.retold?, hsigned]
    rfl
  | ok signature =>
    have htold := Moment.told?_eq (some cache) hsigned
    rw [Moment.retold?_eq_of_signed hsigned, Moment.told?_eq _ hsigned]
    rcases h.tells? hbyText ⟨signature, hsigned, rfl⟩ with hsame | ⟨-, stats, hadds, htells⟩
    · cases hmissing : moment.told? (some cache) script with
      | some told =>
        rw [hsame, ← htold, hmissing]
        rfl
      | none =>
        cases hstats : moment.stats? script with
        | none =>
          rw [hsame, ← htold, hmissing]
          rfl
        | some stats =>
          exact hholds.tells?
            ⟨⟨signature, hsigned, rfl⟩, ⟨cache, rfl, htold.symm.trans hmissing⟩, hstats⟩
    · rw [htells, hadds.told?_eq_none, hadds.read]
      rfl

/-! ## The next refresh -/

namespace Session

variable {moment : Moment} {depth : Nat} {desk : Desk} {shown : Node}

/-- A refresh publishes the tree, and all that it reads are scripts of which no signature or no
statistics are to be had. -/
structure Repeats (moment : Moment) (depth : Nat) (desk : Desk) (tree : Node) : Prop where
  publishes : Publishes desk.session tree (outcome (refresh (moment.host depth)) desk)
  reads : ∀ script, .read script ∈ refreshAsked moment depth desk →
    (moment.signature script).toOption = none ∨ moment.stats? script = none

/-- A refresh that begins with a cache in which all scripts are known comes to the tree in which they
are shown as they are known. -/
theorem repeats_of_retold? {session : Session} {memory : Option Cache} {after : Cache}
    {listings : List Listing} (hpossible : moment.Possible) (hbyText : moment.ByText)
    (hlike : desk.session.ConfiguredLike session)
    (hdirectory : moment.isDirectory session.root = .ok true)
    (henabled : session.cacheEnabled = true) (hopened : desk.opened? depth = some after)
    (hwalk : moment.eval (walk session.options session.root) = .ok listings)
    (hretold : ∀ script ∈ Moment.scriptsOf listings,
      moment.told? (some after) script = moment.retold? memory script)
    (hshown : shown = (Aggregation.root? session.root
      (listings.map (moment.toldFindings memory))).getD (Node.ofDirectory session.root [])) :
    Repeats moment depth desk shown := by
  rw [← hlike.root_eq] at hdirectory hwalk hshown
  rw [← hlike.options_eq] at hwalk
  rw [← hlike.cacheEnabled_eq] at henabled
  obtain ⟨tree, mid, htree⟩ := hpossible.exists_atWork depth
    (buildTree desk.session.options true desk.session.root) (begunWith desk after)
  have hpublishes := @publishes_refresh moment depth (desk.withCache (some after)) mid after
    hdirectory henabled rfl tree htree
  rw [← outcome_refresh_withCache henabled hopened hdirectory] at hpublishes
  obtain ⟨found, hfound, htold, -⟩ := (analysed_begunWith hbyText htree).exists_listings
  obtain rfl : listings = found := Except.ok.inj (hwalk.symm.trans hfound)
  have hsame : listings.map (moment.toldFindings (some after)) =
      listings.map (moment.toldFindings memory) := by
    refine List.map_congr_left fun listing hlisting => congrArg (Findings.mk listing) ?_
    exact List.map_congr_left fun entry hentry =>
      Moment.toldStats_of_retold? (hretold _ (Moment.mem_scriptsOf listing hlisting entry hentry))
  rw [hsame, ← hshown] at htold
  subst htold
  refine ⟨⟨hpublishes.isOf, hpublishes.result⟩, fun script hscript => ?_⟩
  rw [refreshAsked_eq henabled hopened] at hscript
  obtain ⟨hlisted, hmissing⟩ := @Moment.told?_eq_none_of_mem_asked moment depth
    (begunWith desk after) _ _ hbyText listings hwalk script hscript
  exact Moment.retold?_eq_none ((hretold script hlisted).symm.trans hmissing)

end Session

/-! ## The file of the cache -/

namespace Desk

/-- The cache at hand, if there is one, belongs to that file and can be written there and read again,
and unless it is dirty, the file holds what it recalls. Whatever a session does with a cache that it has
loaded, this stays so while nobody else writes the file. -/
def SoundIn (path : Path) (below : Nat) (desk : Desk) : Prop :=
  ∀ cache ∈ desk.session.cache, cache.path = some path ∧ KeptCache.Sound below ⟨cache, desk.disk⟩

variable {moment : Moment} {path : Path} {below : Nat} {desk : Desk}

theorem keeps_soundIn_answer (depth : Nat) (request : Request) :
    Keeps (SoundIn path (below + 3)) (Session.answer (moment.host depth) request) := by
  intro desk h
  cases request with
  | list directory => exact congrArg Prod.snd (outcome_possible (moment.list directory) desk) ▸ h
  | read file => exact congrArg Prod.snd (outcome_possible (moment.read file) desk) ▸ h
  | signature file => exact congrArg Prod.snd (outcome_possible (moment.signature file) desk) ▸ h
  | identity directory =>
    exact congrArg Prod.snd (outcome_required (moment.identity directory) desk) ▸ h
  | remember key text stats =>
    intro cache hcache
    obtain ⟨before, hbefore, rfl⟩ := Option.map_eq_some_iff.1 hcache
    obtain ⟨hpath, hsound⟩ := h before hbefore
    exact ⟨hpath, hsound.perform (.store key text stats moment.time)⟩
  | directoryBound | lookUp | note => exact h

theorem keeps_soundIn_atWork {α : Type} (depth : Nat) (job : Job α) :
    Keeps (SoundIn path (below + 3)) (moment.atWork depth job) := by
  induction job with
  | done a => exact keeps_pure a
  | ask request next ih => exact (keeps_soundIn_answer depth request).bind ih

theorem soundIn_opened (h : desk.SoundIn desk.session.settings.cachePath (below + 3))
    {before : Cache} (hopened : desk.opened? (below + 5) = some before) :
    SoundIn desk.session.settings.cachePath (below + 3) (desk.withCache (some before)) := by
  intro cache hcache
  obtain rfl : before = cache := Option.some_inj.1 hcache
  rcases Option.or_eq_some_iff.1 hopened with hcache | ⟨-, hload⟩
  · exact h before hcache
  · cases hloaded : Cache.load (below + 5) desk.session.settings.cachePath
        (desk.disk.read desk.session.settings.cachePath) with
    | error failure =>
      rw [hloaded] at hload
      cases hload
    | ok cache =>
      rw [hloaded] at hload
      cases hload
      exact ⟨(Cache.load_eq_ok hloaded).1, KeptCache.sound_of_isNew (.inr ⟨_, hloaded⟩)⟩

end Desk

namespace Session

variable {moment : Moment} {depth : Nat} {desk : Desk} {tree : Node}

/-- What a session does with its cache after a refresh leaves in the file what the cache recalls, unless
the file cannot be written. -/
theorem soundIn_persistCache {path : Path} {below : Nat} {cache after : Cache}
    (h : desk.SoundIn path (below + 3)) (hcache : desk.session.cache = some cache) (tree : Node)
    (hafter : (outcome (persistCache (moment.host depth) tree) desk).2.session.cache = some after)
    (hwritable : (Cache.document after.entries).hasWritableNumbers = true) :
    (outcome (persistCache (moment.host depth) tree) desk).2.SoundIn path (below + 3) := by
  obtain ⟨hpath, hsound⟩ := h cache hcache
  obtain ⟨pruned, hpruned, hentries⟩ := @hasEntries_persistCache moment depth desk cache hcache tree
  obtain rfl : after = pruned := Option.some_inj.1 (hafter.symm.trans hpruned)
  rw [outcome_persistCache hcache tree (hentries ▸ hwritable)]
  rintro kept ⟨⟩
  refine ⟨?_, (hsound.perform (.prune tree.scriptPaths)).persist false⟩
  rw [KeptCache.path_persist]
  exact (cache.path_prune tree.scriptPaths).trans hpath

/-- A new session finds in the file what the old one knows, if it has been written there. -/
theorem exists_opened?_of_soundIn {below : Nat} {after : Cache} {other : Session}
    (h : desk.SoundIn other.settings.cachePath (below + 3))
    (hafter : desk.session.cache = some after) (hclean : after.dirty = false)
    (hnone : other.cache = none) :
    ∃ fresh, Desk.opened? ⟨other, desk.disk⟩ (below + 5) = some fresh ∧
      ∀ key signature, fresh.get? key signature = after.get? key signature := by
  obtain ⟨hpath, hsound⟩ := h after hafter
  obtain ⟨fresh, hload, hrecalled⟩ := hsound.upToDate _ hpath hclean
  refine ⟨fresh, ?_, fun key signature => ?_⟩
  · rw [Desk.opened?, hnone, Option.none_or]
    exact congrArg Except.toOption hload
  · rw [Cache.get?_eq, Cache.get?_eq, hrecalled]

/-- A refresh that has published a tree leaves in the file what its cache recalls, unless the file
cannot be written. -/
theorem soundIn_refresh {below : Nat} {before after : Cache} (hpossible : moment.Possible)
    (henabled : desk.session.cacheEnabled = true)
    (hfile : desk.SoundIn desk.session.settings.cachePath (below + 3))
    (hopened : desk.opened? (below + 5) = some before)
    (h : Publishes desk.session tree (outcome (refresh (moment.host (below + 5))) desk))
    (hafter : (outcome (refresh (moment.host (below + 5))) desk).2.session.cache = some after)
    (hwritable : (Cache.document after.entries).hasWritableNumbers = true) :
    (outcome (refresh (moment.host (below + 5))) desk).2.SoundIn
      desk.session.settings.cachePath (below + 3) := by
  obtain ⟨mid, htree, hleft⟩ := exists_atWork_of_publishes hpossible henabled hopened h
  have hmid := @Desk.keeps_soundIn_atWork moment desk.session.settings.cachePath below _ (below + 5)
    (buildTree desk.session.options true desk.session.root) (begunWith desk before)
    (Desk.soundIn_opened hfile hopened)
  have hremembers := Moment.remembers_atWork moment (below + 5)
    (buildTree desk.session.options true desk.session.root) (begunWith desk before)
  rw [htree] at hmid hremembers
  obtain ⟨later, hlater, -⟩ := hremembers.keys before rfl
  obtain ⟨hpath, hsound⟩ := hmid later hlater
  rw [hremembers.disk_eq] at hsound
  rw [hleft] at hafter ⊢
  have hended : (endedWith desk tree mid.session.cache).SoundIn
      desk.session.settings.cachePath (below + 3) := by
    rintro cache hcache
    obtain rfl : later = cache := Option.some_inj.1 (hlater.symm.trans hcache)
    exact ⟨hpath, hsound⟩
  exact soundIn_persistCache hended hlater tree hafter hwritable

/-- What is known of the scripts that are shown. -/
theorem shows_toldFindings {memory : Option Cache} {root : Path} {listings : List Listing}
    {text : String} {stats : Stats}
    (h : ((Aggregation.root? root (listings.map (moment.toldFindings memory))).getD
      (Node.ofDirectory root [])).Shows text stats) :
    ∃ script ∈ Moment.scriptsOf listings, script.text = text ∧
      stats = .file (moment.toldStats memory script) := by
  have htells := @Aggregation.tells_root? (fun text found =>
    ∃ script ∈ Moment.scriptsOf listings, script.text = text ∧
      found = moment.toldStats memory script) (listings.map (moment.toldFindings memory)) ?_ root
  · obtain ⟨found, rfl, script, hscript, htext, rfl⟩ := htells text stats h
    exact ⟨script, hscript, htext, rfl⟩
  · refine List.forall_mem_map.2 fun listing hlisting => List.forall₂_map_right_iff.2 ?_
    exact List.forall₂_same.2 fun entry hentry =>
      ⟨entry.path, Moment.mem_scriptsOf listing hlisting entry hentry, rfl, rfl⟩

/-- The session has published the tree, and its cache has learnt of the scripts in it all that there is to
be known, and forgotten all else. -/
structure Learnt (moment : Moment) (session : Session) (before after : Cache) (tree : Node) : Prop where
  isDirectory : moment.isDirectory session.root = .ok true
  keys : ∀ key ∈ after.keys, key ∈ tree.scriptPaths.map RawText.ofString
  exists_listings : ∃ listings, moment.eval (walk session.options session.root) = .ok listings ∧
    (∀ script ∈ Moment.scriptsOf listings,
      moment.told? (some after) script = moment.retold? (some before) script) ∧
    tree = (Aggregation.root? session.root (listings.map (moment.toldFindings (some before)))).getD
      (Node.ofDirectory session.root [])

section Published

variable (files : StillFiles) (around : Moment) (hbyText : (files.moment around).ByText)
  (henabled : desk.session.cacheEnabled = true)
  (hpublished : Publishes desk.session tree
    (outcome (refresh ((files.moment around).host depth)) desk))
include hbyText henabled hpublished

theorem exists_learnt : ∃ before after, desk.opened? depth = some before ∧
    (outcome (refresh ((files.moment around).host depth)) desk).2.session.cache = some after ∧
      Learnt (files.moment around) desk.session before after tree := by
  obtain ⟨hdirectory, before, hopened⟩ := exists_opened?_of_publishes henabled hpublished
  obtain ⟨mid, htree, hleft⟩ :=
    exists_atWork_of_publishes StillFiles.possible_moment henabled hopened hpublished
  obtain ⟨listings, hwalk, hshown, hgrown, hholds⟩ :=
    (analysed_begunWith hbyText htree).exists_listings
  obtain ⟨later, hlater⟩ := Option.isSome_iff_exists.1 hgrown.isSome_eq
  obtain ⟨after, hafter, hentries⟩ := @hasEntries_persistCache (files.moment around) depth
    (endedWith desk tree mid.session.cache) later hlater tree
  rw [← hleft] at hafter
  refine ⟨before, after, hopened, hafter, hdirectory, fun key hkey => ?_,
    listings, hwalk, fun script hscript => ?_, hshown⟩
  · rw [Cache.keys, hentries] at hkey
    exact Cache.mem_of_mem_keys_prune hkey
  · have hplaced := StillFiles.mem_scriptPaths hwalk hshown hscript
    rw [← hgrown.told?_eq hbyText (hholds script hscript), hlater]
    refine Moment.told?_congr fun signature => ?_
    have hkept := later.get?_prune hplaced signature
    exact (Cache.get?_congr (by rw [hentries]) signature).trans hkept

omit hpublished in
theorem Learnt.repeats {before after found : Cache} {other : Desk}
    (h : Learnt (files.moment around) desk.session before after tree)
    (hlike : other.session.ConfiguredLike desk.session) (hfound : other.opened? depth = some found)
    (hsame : ∀ key signature, found.get? key signature = after.get? key signature) (time : String) :
    Repeats { files.moment around with time } depth other tree := by
  obtain ⟨listings, hwalk, hretold, hshown⟩ := h.exists_listings
  refine repeats_of_retold? (@StillFiles.possible_moment files { around with time }) hbyText
    hlike h.isDirectory henabled hfound hwalk (fun script hscript => ?_) hshown
  exact (Moment.told?_congr (hsame script.text)).trans (hretold script hscript)

/-- The next refresh publishes the tree again. -/
theorem repeats_left (time : String) : Repeats { files.moment around with time } depth
    (outcome (refresh ((files.moment around).host depth)) desk).2 tree := by
  obtain ⟨before, after, -, hafter, hlearnt⟩ := exists_learnt files around hbyText henabled hpublished
  refine hlearnt.repeats files around hbyText henabled hpublished.configuredLike ?_
    (fun _ _ => rfl) time
  rw [Desk.opened?, hafter]
  rfl

/-- So does a new session that finds the cache in its file. -/
theorem repeats_new (hdepth : 5 ≤ depth)
    (hfile : desk.SoundIn desk.session.settings.cachePath (depth - 2))
    (hkept : ∀ after ∈ (outcome (refresh ((files.moment around).host depth)) desk).2.session.cache,
      after.dirty = false ∧ (Cache.document after.entries).hasWritableNumbers = true)
    {other : Session} (hlike : other.ConfiguredLike desk.session) (hnone : other.cache = none)
    (time : String) : Repeats { files.moment around with time } depth
      ⟨other, (outcome (refresh ((files.moment around).host depth)) desk).2.disk⟩ tree := by
  obtain ⟨before, after, hopened, hafter, hlearnt⟩ :=
    exists_learnt files around hbyText henabled hpublished
  obtain ⟨hclean, hwritable⟩ := hkept after hafter
  obtain ⟨below, rfl⟩ := Nat.exists_eq_add_of_le' hdepth
  have hsound := soundIn_refresh StillFiles.possible_moment henabled hfile hopened hpublished
    hafter hwritable
  rw [← hlike.settings_eq] at hsound
  obtain ⟨fresh, hfresh, hsame⟩ := exists_opened?_of_soundIn hsound hafter hclean hnone
  exact hlearnt.repeats files around hbyText henabled hlike hfresh hsame time

end Published

/-- A refresh that has published a tree leaves a cache with no keys but the paths of the scripts in
the tree. For each of these it tells the statistics that the tree shows, as long as there is a
signature to tell them under and they were known or could be read. While the files stay as they are,
the next refresh publishes the tree again and reads nothing but what cannot be known, and so does a
new session that finds the cache in its file. -/
theorem refresh_reusable (files : StillFiles) (around : Moment)
    (hbyText : (files.moment around).ByText) {depth : Nat} (hdepth : 5 ≤ depth) {desk : Desk}
    (henabled : desk.session.cacheEnabled = true) {tree : Node}
    (hpublished : Publishes desk.session tree
      (outcome (refresh ((files.moment around).host depth)) desk)) :
    let moment := files.moment around
    let left := (outcome (refresh (moment.host depth)) desk).2
    ∃ before after, desk.opened? depth = some before ∧ left.session.cache = some after ∧
      (∀ key ∈ after.keys, key ∈ tree.scriptPaths.map RawText.ofString) ∧
      (∀ text stats, tree.Shows text stats → ∃ script : Path, script.text = text ∧
        ∀ signature, moment.signature script = .ok signature →
          (before.get? text signature.text).isSome ∨ (moment.stats? script).isSome →
            ∃ found, after.get? text signature.text = some found ∧ stats = .file found) ∧
      (∀ time, Repeats { moment with time } depth left tree) ∧
      (desk.SoundIn desk.session.settings.cachePath (depth - 2) → after.dirty = false →
        (Cache.document after.entries).hasWritableNumbers = true →
          ∀ other : Session, other.ConfiguredLike desk.session → other.cache = none →
            ∀ time, Repeats { moment with time } depth ⟨other, left.disk⟩ tree) := by
  intro moment left
  obtain ⟨before, after, hopened, hafter, hlearnt⟩ :=
    exists_learnt files around hbyText henabled hpublished
  obtain ⟨listings, hwalk, hretold, hshown⟩ := hlearnt.exists_listings
  refine ⟨before, after, hopened, hafter, hlearnt.keys, fun text stats hshows => ?_,
    repeats_left files around hbyText henabled hpublished,
    fun hfile hclean hwritable other hlike hnone => ?_⟩
  · rw [hshown] at hshows
    obtain ⟨script, hscript, rfl, rfl⟩ := shows_toldFindings hshows
    refine ⟨script, rfl, fun signature hsigned hknown => ?_⟩
    have htold : moment.told? (some before) script = before.get? script.text signature.text :=
      Moment.told?_eq _ hsigned
    have hknown := Moment.retold?_eq_some hsigned (htold ▸ hknown)
    exact ⟨_, (Moment.told?_eq (some after) hsigned).symm.trans
      ((hretold script hscript).trans hknown), rfl⟩
  · refine repeats_new files around hbyText henabled hpublished hdepth hfile ?_ hlike hnone
    intro found hfound
    obtain rfl := Option.some_inj.1 (hafter.symm.trans hfound)
    exact ⟨hclean, hwritable⟩

end Session

namespace World

/-- The first draft, as files that nobody writes. -/
def firstDraft : StillFiles where
  list _ := .ok [⟨"a.nani", ⟨.root, ["w", "a.nani"]⟩, false⟩]
  read _ := .ok [64]
  signature _ := .ok ⟨1, 1⟩
  identity := Path.text
  directoryBound := 1
  listed := ∅
  identity_mem_listed := by
    intro directory entries hlist entry hentry hkind
    cases hlist
    rw [List.mem_singleton.1 hentry] at hkind
    cases hkind
  card_listed_le := Nat.zero_le _

theorem moment_firstDraft : firstDraft.moment (draft [64] 1) = draft [64] 1 :=
  rfl

/-- A session that knows the first draft, and nothing is on its disk. -/
def knowing (cache : Cache) : Desk :=
  ⟨{ writer with cache := some cache }, {}⟩

theorem publishes_knowing {cache : Cache}
    (hget : cache.get? "/w/a.nani" "1:1" = some (Script.stats ['@'])) :
    Session.Publishes (knowing cache).session (draftTree ['@'])
      (outcome (Session.refresh ((firstDraft.moment (draft [64] 1)).host 980)) (knowing cache)) := by
  rw [moment_firstDraft]
  exact Session.publishes_refresh rfl rfl rfl (outcome_buildTree_of_get? rfl rfl hget)

theorem shows_draftTree (text : List Char) :
    (draftTree text).Shows "/w/a.nani" (.file (Script.stats text)) :=
  .within (List.mem_singleton_self _) (.itself (by simp [Node.ofScript]))

theorem prune_of_keys {cache : Cache} (h : cache.keys = [RawText.ofString "/w/a.nani"]) :
    cache.prune (draftTree ['@']).scriptPaths = cache := by
  have hpaths : (draftTree ['@']).scriptPaths = ["/w/a.nani"] := by
    simp [draftTree]
    decide
  rw [hpaths, Cache.prune, h]
  exact if_pos (by simp)

/-- What the session leaves is what its cache leaves that is written if need be. -/
theorem left_knowing {cache : Cache} (hget : cache.get? "/w/a.nani" "1:1" = some (Script.stats ['@']))
    (hkeys : cache.keys = [RawText.ofString "/w/a.nani"])
    (hwritable : (Cache.document cache.entries).hasWritableNumbers = true) :
    (outcome (Session.refresh ((firstDraft.moment (draft [64] 1)).host 980)) (knowing cache)).2 =
      ⟨{ (Session.endedWith (knowing cache) (draftTree ['@']) (some cache)).session with
          cache := some ((KeptCache.mk cache {}).persist false).cache },
        ((KeptCache.mk cache {}).persist false).disk⟩ := by
  have htree : outcome ((draft [64] 1).atWork 980 (buildTree writer.options true ⟨.root, ["w"]⟩))
      (Session.begunWith (knowing cache) cache) = (.ok (draftTree ['@']), _) :=
    outcome_buildTree_of_get? rfl rfl hget
  have hrefresh := @Session.outcome_refresh_of_tree (draft [64] 1) 980 (knowing cache) _ cache rfl rfl
    rfl _ htree
  have hpersist := @Session.outcome_persistCache (draft [64] 1) 980
    (Session.endedWith (knowing cache) (draftTree ['@']) (some cache)) cache rfl (draftTree ['@'])
    ((prune_of_keys hkeys).symm ▸ hwritable)
  rw [prune_of_keys hkeys] at hpersist
  rw [moment_firstDraft, hrefresh, Session.desk_store]
  exact hpersist

theorem keys_known : known.keys = [RawText.ofString "/w/a.nani"] :=
  rfl

theorem soundIn_knowing : (knowing known).SoundIn ⟨.root, ["c"]⟩ 978 := by
  have hload : Cache.load 980 ⟨.root, ["c"]⟩ (Disk.read {} ⟨.root, ["c"]⟩) =
      .ok { path := some ⟨.root, ["c"]⟩ } := by
    rw [read_cache_of_empty]
    rfl
  rintro cache ⟨⟩
  have hsound : KeptCache.Sound 978 ⟨{ path := some ⟨.root, ["c"]⟩ }, {}⟩ :=
    KeptCache.sound_of_isNew (.inr ⟨_, hload⟩)
  exact ⟨rfl, hsound.perform (.store "/w/a.nani" "1:1" (Script.stats ['@']) "")⟩

/-- The session writes what it knows, and a new one finds it. -/
theorem refresh_reusable_knowing :
    (firstDraft.moment (draft [64] 1)).ByText ∧
      Session.Publishes (knowing known).session (draftTree ['@']) (outcome
        (Session.refresh ((firstDraft.moment (draft [64] 1)).host 980)) (knowing known)) ∧
      (∃ after, (outcome (Session.refresh ((firstDraft.moment (draft [64] 1)).host 980))
          (knowing known)).2.session.cache = some after ∧ after.dirty = false ∧
        after.get? "/w/a.nani" "1:1" = some (Script.stats ['@'])) ∧
      Session.Repeats (firstDraft.moment (draft [64] 1)) 980 (outcome
        (Session.refresh ((firstDraft.moment (draft [64] 1)).host 980)) (knowing known)).2
          (draftTree ['@']) ∧
      Session.Repeats (firstDraft.moment (draft [64] 1)) 980 ⟨writer, (outcome
        (Session.refresh ((firstDraft.moment (draft [64] 1)).host 980)) (knowing known)).2.disk⟩
          (draftTree ['@']) := by
  have hpublished := publishes_knowing get?_known
  obtain ⟨before, after, -, hafter, -, hshown, hrepeats, hnew⟩ := Session.refresh_reusable firstDraft
    (draft [64] 1) (byText_draft [64] 1) (by decide) rfl hpublished
  have hwritable : (Cache.document known.entries).hasWritableNumbers = true := by decide +kernel
  have hleft := left_knowing get?_known keys_known hwritable
  have hsound := sound_known (List.mem_singleton_self (draft [64] 1)) known rfl
  rw [@KeptCache.cache_persist_of_missing ⟨known, {}⟩ "c" Disk.isRootName_c rfl rfl hwritable _ hsound
    rfl] at hleft
  obtain rfl : known.written = after :=
    Option.some_inj.1 ((congrArg (fun desk => desk.session.cache) hleft).symm.trans hafter)
  refine ⟨byText_draft [64] 1, hpublished, ⟨known.written, hafter, rfl, ?_⟩, hrepeats "",
    hnew soundIn_knowing rfl hwritable writer ⟨rfl, rfl, rfl, rfl⟩ rfl ""⟩
  obtain ⟨script, -, htold⟩ := hshown _ _ (shows_draftTree ['@'])
  obtain ⟨found, hfound, heq⟩ := htold ⟨1, 1⟩ rfl (.inr rfl)
  cases heq
  exact hfound

/-! ## A cache file that was lost -/

theorem read_mem_refreshAsked : .read ⟨.root, ["w", "a.nani"]⟩ ∈
    Session.refreshAsked (firstDraft.moment (draft [64] 1)) 980 ⟨writer, {}⟩ := by
  have hopened : Desk.opened? ⟨writer, {}⟩ 980 = some { path := some ⟨.root, ["c"]⟩ } := by
    have hpath : writer.settings.cachePath = ⟨.root, ["c"]⟩ := rfl
    rw [Desk.opened?]
    dsimp only
    rw [hpath, read_cache_of_empty]
    rfl
  rw [Session.refreshAsked_eq rfl hopened, moment_firstDraft]
  have hwalk : outcome ((draft [64] 1).atWork 980 (walk writer.options ⟨.root, ["w"]⟩))
      (Session.begunWith ⟨writer, {}⟩ { path := some ⟨.root, ["c"]⟩ }) = (.ok [draftListing],
        Session.begunWith ⟨writer, {}⟩ { path := some ⟨.root, ["c"]⟩ }) := by
    rw [Moment.steady_walk, eval_walk_draft]
  change _ ∈ (draft [64] 1).asked 980 (walk writer.options ⟨.root, ["w"]⟩ >>= _) _
  refine (Moment.asked_bind_of_ok hwalk _).symm ▸ List.mem_append_right _ ?_
  exact .tail _ (.tail _ (.head _))

/-- If the file of a cache is lost after it was written, it is not written again as long as nothing new
is found, and then a new session finds nothing. -/
theorem not_refresh_reusable_of_lost :
    ¬ ∀ (files : StillFiles) (around : Moment), (files.moment around).ByText →
      ∀ (depth : Nat), 5 ≤ depth → ∀ (desk : Desk), desk.session.cacheEnabled = true →
        ∀ tree, Session.Publishes desk.session tree
            (outcome (Session.refresh ((files.moment around).host depth)) desk) →
          let left := (outcome (Session.refresh ((files.moment around).host depth)) desk).2
          ∀ after, left.session.cache = some after → after.dirty = false →
            (Cache.document after.entries).hasWritableNumbers = true →
              ∀ other : Session, other.ConfiguredLike desk.session → other.cache = none →
                Session.Repeats (files.moment around) depth ⟨other, left.disk⟩ tree := by
  intro h
  have hleft := @left_knowing known.written get?_known keys_known (by decide +kernel)
  rw [KeptCache.persist_of_clean rfl] at hleft
  have hrepeats := h firstDraft (draft [64] 1) (byText_draft [64] 1) 980 (by decide)
    (knowing known.written) rfl (draftTree ['@']) (publishes_knowing get?_known) known.written
    (congrArg (fun desk => desk.session.cache) hleft) rfl (by decide +kernel) writer
    ⟨rfl, rfl, rfl, rfl⟩ rfl
  rw [hleft] at hrepeats
  rcases hrepeats.reads _ read_mem_refreshAsked with hsigned | hread
  · cases hsigned
  · cases hread

end World

end ScriptStats
