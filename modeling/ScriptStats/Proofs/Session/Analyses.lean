import ScriptStats.Proofs.Analysis.Truthful
import ScriptStats.Proofs.Cache.Kept
import ScriptStats.Proofs.Session.History

/-!
# Analyses while files are written

Any number of analyses share one cache and make their requests in any order, and files are written
between any two of them. A script may be written after its signature was taken and before its bytes
are read; then new statistics are remembered under an old signature. Since the script never has that
signature again, nobody who takes its signature finds them.
-/

namespace ScriptStats

open Program Moment

/-- Analyses of single scripts under way, all of them with the cache of the desk. -/
structure Analyses where
  moment : Moment
  /-- The moments before, the latest first. -/
  past : List Moment := []
  desk : Desk
  running : List (Job FileStats) := []

namespace Analyses

inductive Step where
  /-- Files are written, which makes the world what it is at the next moment. -/
  | write (moment : Moment)
  | start (path : Path)
  /-- The analysis with that index makes its next request. -/
  | advance (index : Nat)

/-- All moments so far, the latest first. -/
def seen (all : Analyses) : List Moment :=
  all.moment :: all.past

def step (depth : Nat) (all : Analyses) : Step → Analyses
  | .write moment => { all with moment, past := all.seen }
  | .start path => { all with running := all.running ++ [ScriptFile.cachedStats path] }
  | .advance index =>
    match all.running[index]? with
    | some (.ask request next) =>
      match outcome (Session.answer (all.moment.host depth) request) all.desk with
      | (.ok reply, desk) => { all with desk, running := all.running.set index (next reply) }
      | (.error _, desk) => { all with desk, running := all.running.eraseIdx index }
    | _ => all

def run (depth : Nat) (all : Analyses) (steps : List Step) : Analyses :=
  steps.foldl (step depth) all

/-- No analysis has begun, and the cache is empty. -/
def fresh (moment : Moment) (session : Session) (path : Option Path) (disk : Disk) : Analyses :=
  { moment, desk := ⟨{ session with cache := some { path } }, disk⟩ }

end Analyses

namespace Moment

/-- The file has not been written since the moment `before`. -/
def Unwritten (before moment : Moment) (path : Path) : Prop :=
  moment.signature path = before.signature path ∧ moment.read path = before.read path

/-- The file has a signature that it never had before, if it has one. -/
def SignedAnew (past : List Moment) (moment : Moment) (path : Path) : Prop :=
  ∀ earlier ∈ past, ∀ signature, moment.signature path = .ok signature →
    earlier.signature path ≠ .ok signature

/-- From each moment to the next files were written, and all that were have new signatures. The latest
moment is the first. -/
inductive Written : List Moment → Prop
  | first {moment : Moment} : moment.ByText → Written [moment]
  | write {moment before : Moment} {past : List Moment} : moment.ByText →
      (∀ path, before.Unwritten moment path ∨ SignedAnew (before :: past) moment path) →
      Written (before :: past) → Written (moment :: before :: past)

variable {seen : List Moment} {moment : Moment}

theorem Unwritten.trans {first second third : Moment} {path : Path}
    (h : first.Unwritten second path) (hnext : second.Unwritten third path) :
    first.Unwritten third path :=
  ⟨hnext.1.trans h.1, hnext.2.trans h.2⟩

theorem Unwritten.stats?_eq {before : Moment} {path : Path} (h : before.Unwritten moment path) :
    moment.stats? path = before.stats? path := by
  rw [stats?, stats?, h.2]

theorem Written.of_append {later : List Moment} {past : List Moment}
    (h : Written (later ++ moment :: past)) : Written (moment :: past) := by
  induction later with
  | nil => exact h
  | cons first later ih =>
    cases later with
    | nil =>
      cases h with
      | write _ _ hpast => exact hpast
    | cons second later =>
      cases h with
      | write _ _ hpast => exact ih hpast

theorem Written.byText (h : Written seen) {found : Moment} (hfound : found ∈ seen) :
    found.ByText := by
  induction h with
  | first hbyText =>
    obtain rfl := List.mem_singleton.1 hfound
    exact hbyText
  | write hbyText _ _ ih =>
    rcases List.mem_cons.1 hfound with rfl | hfound
    · exact hbyText
    · exact ih hfound

/-- A signature that a file has had is a token of the file: as long as it comes back, the file has not
been written in between. -/
theorem Written.unwritten {later earlier : List Moment} {between first : Moment}
    (h : Written (later ++ between :: earlier)) (hfirst : first ∈ between :: earlier)
    (hmoment : moment ∈ (later ++ between :: earlier).head?) {path : Path} {signature : Signature}
    (hnow : moment.signature path = .ok signature)
    (hthen : first.signature path = .ok signature) : between.Unwritten moment path := by
  induction later generalizing moment with
  | nil =>
    obtain rfl := Option.some_inj.1 hmoment
    exact ⟨rfl, rfl⟩
  | cons next later ih =>
    obtain rfl := Option.some_inj.1 hmoment
    rw [List.cons_append] at h
    cases hlist : later ++ between :: earlier with
    | nil => simp at hlist
    | cons before past =>
      rw [hlist] at h ih
      cases h with
      | write _ hwritten hpast =>
        rcases hwritten path with hsame | hnew
        · have hbefore : before.signature path = .ok signature := hsame.1.symm.trans hnow
          exact (ih hpast rfl hbefore).trans hsame
        · have hpast : first ∈ before :: past := hlist ▸ List.mem_append_right later hfirst
          exact absurd hthen (hnew first hpast signature hnow)

end Moment

namespace Session

/-- Only what is remembered changes the desk. -/
theorem desk_answer (moment : Moment) (depth : Nat) {request : Request} (desk : Desk)
    (h : ∀ key text stats, request ≠ .remember key text stats) :
    (outcome (answer (moment.host depth) request) desk).2 = desk := by
  cases request with
  | list path => exact congrArg Prod.snd (Desk.outcome_possible (moment.list path) desk)
  | read path => exact congrArg Prod.snd (Desk.outcome_possible (moment.read path) desk)
  | signature path => exact congrArg Prod.snd (Desk.outcome_possible (moment.signature path) desk)
  | identity path => exact congrArg Prod.snd (Desk.outcome_required (moment.identity path) desk)
  | directoryBound | lookUp | note => rfl
  | remember key text stats => exact absurd rfl (h key text stats)

end Session

namespace Analyses

/-! ## What the cache tells -/

/-- At that moment there is a script with the key `key` that has the signature. -/
def Signed (key : String) (signature : Signature) (moment : Moment) : Prop :=
  ∃ path, path.text = key ∧ moment.signature path = .ok signature

/-- The bytes were read of a script, and at that moment or before, the script had the signature. -/
def ReadSince (seen : List Moment) (key : String) (signature : Signature) (bytes : Bytes) : Prop :=
  ∃ later moment earlier, seen = later ++ moment :: earlier ∧
    (∃ path, path.text = key ∧ moment.read path = .ok bytes) ∧
      ∃ first ∈ moment :: earlier, Signed key signature first

/-- The statistics are those of bytes that were read so. -/
def Stamped (seen : List Moment) : Knowledge := fun key signature stats =>
  ∃ script found bytes, key = RawText.ofString script ∧
    signature = RawText.ofString (Signature.text found) ∧ ReadSince seen script found bytes ∧
      Script.read? bytes = some stats

/-- What an analysis has learnt is what was there. -/
structure Holds (seen : List Moment) (key : String) (k : Learnt) : Prop where
  signature : ∀ signature, k.signature = some signature → ∃ moment ∈ seen, Signed key signature moment
  bytes : ∀ signature bytes, k.signature = some signature → k.bytes = some bytes →
    ReadSince seen key signature bytes

variable {seen : List Moment} {moment : Moment} {key : String} {k : Learnt}

theorem ReadSince.write {signature : Signature} {bytes : Bytes}
    (h : ReadSince seen key signature bytes) (moment : Moment) :
    ReadSince (moment :: seen) key signature bytes := by
  obtain ⟨later, found, earlier, rfl, hread⟩ := h
  exact ⟨moment :: later, found, earlier, rfl, hread⟩

theorem Holds.write (h : Holds seen key k) (moment : Moment) : Holds (moment :: seen) key k where
  signature signature hsignature := by
    obtain ⟨found, hfound, hsigned⟩ := h.signature signature hsignature
    exact ⟨found, List.mem_cons_of_mem _ hfound, hsigned⟩
  bytes signature bytes hsignature hbytes := (h.bytes signature bytes hsignature hbytes).write moment

theorem Holds.forget (h : Holds seen key k) : Holds seen key k.forget where
  signature := h.signature
  bytes _ _ _ hbytes := by cases hbytes

/-- Whatever the answer to a request is, it is learnt as it is. -/
theorem Holds.answer {past : List Moment} (h : Holds (moment :: past) key k) {depth : Nat}
    {request : Request} {reply : request.Reply} {desk left : Desk}
    (hanswer : outcome (Session.answer (moment.host depth) request) desk = (.ok reply, left)) :
    Holds (moment :: past) key ((Contract.truthful key).learns k request reply) := by
  cases request with
  | signature path =>
    have hanswer : outcome (Session.possible (moment.signature path) : Desk.Act _) desk = _ := hanswer
    rw [Desk.outcome_possible, Prod.mk.injEq] at hanswer
    have hreply := Session.possible_eq_ok hanswer.1
    by_cases hkey : path.text = key
    · simp only [Contract.truthful, hkey, if_true]
      refine ⟨fun signature hsignature => ?_, fun _ _ _ hbytes => by cases hbytes⟩
      have htaken : moment.signature path = .ok signature := by
        rw [← hreply]
        cases reply with
        | ok found => exact congrArg Except.ok (Option.some_inj.1 hsignature)
        | error e => cases hsignature
      exact ⟨moment, List.mem_cons_self, path, hkey, htaken⟩
    · simp only [Contract.truthful, hkey, if_false]
      exact h.forget
  | read path =>
    have hanswer : outcome (Session.possible (moment.read path) : Desk.Act _) desk = _ := hanswer
    rw [Desk.outcome_possible, Prod.mk.injEq] at hanswer
    have hreply := Session.possible_eq_ok hanswer.1
    by_cases hkey : path.text = key
    · simp only [Contract.truthful, hkey, if_true]
      refine ⟨h.signature, fun signature bytes hsignature hbytes => ?_⟩
      have hread : moment.read path = .ok bytes := by
        rw [← hreply]
        cases reply with
        | ok found => exact congrArg Except.ok (Option.some_inj.1 hbytes)
        | error e => cases hbytes
      exact ⟨[], moment, past, rfl, ⟨path, hkey, hread⟩, h.signature signature hsignature⟩
    · simp only [Contract.truthful, hkey, if_false]
      exact h.forget
  | list | identity | directoryBound | lookUp | remember | note => exact h.forget

/-! ## What becomes of the cache -/

/-- In that step an analysis remembers statistics under the key. -/
def Remembers (all : Analyses) (key : String) : Step → Prop
  | .advance index => ∃ text stats next,
      all.running[index]? = some (.ask (.remember key text stats) next)
  | _ => False

/-- Nothing is remembered under the key in any of the steps. -/
def KeepsSilent (depth : Nat) (key : String) : Analyses → List Step → Prop
  | _, [] => True
  | all, step :: steps => ¬ all.Remembers key step ∧ KeepsSilent depth key (all.step depth step) steps

/-- What is found in the cache. -/
def find? (all : Analyses) (key text : String) : Option FileStats :=
  all.desk.session.cache.bind (·.get? key text)

theorem find?_step {all : Analyses} {step : Step} (h : ¬ all.Remembers key step) (depth : Nat)
    (text : String) : (all.step depth step).find? key text = all.find? key text := by
  cases step with
  | write | start => rfl
  | advance index =>
    have hdesk {request : Request} {next : request.Reply → Job FileStats}
        (hjob : all.running[index]? = some (.ask request next)) :
        (outcome (Session.answer (all.moment.host depth) request)
          all.desk).2.session.cache.bind (·.get? key text) = all.find? key text := by
      by_cases hrequest : ∃ found signature stats, request = .remember found signature stats
      · obtain ⟨found, signature, stats, rfl⟩ := hrequest
        have hother : key ≠ found := by
          rintro rfl
          exact h ⟨signature, stats, next, hjob⟩
        change (all.desk.session.cache.map _).bind _ = all.desk.session.cache.bind _
        cases all.desk.session.cache with
        | none => rfl
        | some cache => exact Cache.get?_store_of_ne cache hother ..
      · rw [Session.desk_answer]
        · rfl
        · exact fun found signature stats heq => hrequest ⟨found, signature, stats, heq⟩
    unfold Analyses.step
    dsimp only
    split
    next request next hjob =>
      have hdesk := hdesk hjob
      split <;> next hanswer =>
        rw [hanswer] at hdesk
        exact hdesk
    next => rfl

theorem find?_run {all : Analyses} {depth : Nat} {steps : List Step}
    (h : KeepsSilent depth key all steps) (text : String) :
    (all.run depth steps).find? key text = all.find? key text := by
  induction steps generalizing all with
  | nil => rfl
  | cons step steps ih => exact (ih h.2).trans (find?_step h.1 depth text)

/-! ## The invariant -/

structure Sound (all : Analyses) : Prop where
  cache : ∀ cache ∈ all.desk.session.cache, Cache.Sound (Stamped all.seen) cache.entries
  running : ∀ job ∈ all.running, ∀ key, ∃ k, Holds all.seen key k ∧
    job.Meets (.truthful key) (fun _ _ => True) k

namespace Sound

variable {all : Analyses} {depth : Nat}

theorem write (h : all.Sound) (moment : Moment) : (all.step depth (.write moment)).Sound where
  cache cache hcache := by
    refine (h.cache cache hcache).mono fun _ _ _ hstamped => ?_
    obtain ⟨script, found, bytes, hkey, hsignature, hread, hstats⟩ := hstamped
    exact ⟨script, found, bytes, hkey, hsignature, hread.write moment, hstats⟩
  running job hjob key := by
    obtain ⟨k, hk, hmeets⟩ := h.running job hjob key
    exact ⟨k, hk.write moment, hmeets⟩

theorem start (h : all.Sound) (path : Path) : (all.step depth (.start path)).Sound where
  cache := h.cache
  running job hjob key := by
    rcases List.mem_append.1 hjob with hjob | hjob
    · exact h.running job hjob key
    · obtain rfl := List.mem_singleton.1 hjob
      refine ⟨{}, ⟨fun _ hsignature => ?_, fun _ _ hsignature => ?_⟩, ?_⟩
      · cases hsignature
      · cases hsignature
      · exact Job.meets_truthful_cachedStats key {} path

/-- What is remembered was read since its signature was taken. -/
theorem cache_answer (h : all.Sound) (depth : Nat) {request : Request}
    {next : request.Reply → Job FileStats} (hjob : .ask request next ∈ all.running) : ∀ cache ∈
      (outcome (Session.answer (all.moment.host depth) request) all.desk).2.session.cache,
        Cache.Sound (Stamped all.seen) cache.entries := by
  by_cases hrequest : ∃ key text stats, request = .remember key text stats
  · obtain ⟨key, text, stats, rfl⟩ := hrequest
    intro stored hstored
    obtain ⟨cache, hcache, rfl⟩ := Option.map_eq_some_iff.1 hstored
    obtain ⟨k, hk, hmay, -⟩ := h.running _ hjob key
    obtain ⟨signature, bytes, hsignature, rfl, hbytes, hstats⟩ := hmay rfl
    refine (h.cache cache hcache).store ?_ all.moment.time
    exact ⟨key, signature, bytes, rfl, rfl, hk.bytes signature bytes hsignature hbytes, hstats⟩
  · rw [Session.desk_answer]
    · exact h.cache
    · exact fun key text stats heq => hrequest ⟨key, text, stats, heq⟩

theorem advance (h : all.Sound) (index : Nat) : (all.step depth (.advance index)).Sound := by
  unfold Analyses.step
  dsimp only
  split
  next request next hjob =>
    have hmem : .ask request next ∈ all.running := List.mem_of_getElem? hjob
    have hcache := h.cache_answer depth hmem
    split
    next reply desk hanswer =>
      rw [hanswer] at hcache
      refine ⟨hcache, fun job hother key => ?_⟩
      rcases List.mem_or_eq_of_mem_set hother with hother | rfl
      · exact h.running job hother key
      · obtain ⟨k, hk, hmeets⟩ := h.running _ hmem key
        exact ⟨_, hk.answer hanswer, hmeets.2 reply trivial⟩
    next e desk hanswer =>
      rw [hanswer] at hcache
      exact ⟨hcache, fun job hother => h.running job (List.mem_of_mem_eraseIdx hother)⟩
  next => exact h

theorem step (h : all.Sound) (step : Step) : (all.step depth step).Sound := by
  cases step with
  | write moment => exact h.write moment
  | start path => exact h.start path
  | advance index => exact h.advance index

theorem run (h : all.Sound) (steps : List Step) : (all.run depth steps).Sound := by
  induction steps generalizing all with
  | nil => exact h
  | cons step steps ih => exact ih (h.step step)

end Sound

theorem sound_fresh (moment : Moment) (session : Session) (path : Option Path) (disk : Disk) :
    (fresh moment session path disk).Sound where
  cache cache hcache := by
    obtain rfl := Option.some_inj.1 hcache
    exact Cache.sound_empty
  running _ hjob := absurd hjob List.not_mem_nil

/-! ## No cache hit is stale -/

/-- Statistics that a cache tells under a signature are those that the script had at the moment `found`
when it had that signature, or at a later one. -/
theorem Stamped.exists_stats? (hwritten : Written seen) {later earlier : List Moment}
    {found : Moment} (hseen : seen = later ++ found :: earlier) {path : Path}
    {signature : Signature} (hfound : found.signature path = .ok signature) {stats : FileStats}
    (h : Stamped seen (RawText.ofString path.text) (RawText.ofString signature.text) stats) :
    ∃ moment ∈ later ++ [found], moment.stats? path = some stats := by
  obtain ⟨script, taken, bytes, hkey, htext, hread, hstats⟩ := h
  obtain rfl := RawText.ofString_injective hkey
  obtain rfl := Signature.text_injective (RawText.ofString_injective htext)
  obtain ⟨after, reader, before, hreader, ⟨other, hother, hbytes⟩, first, hfirst, p, hp, hsigned⟩ :=
    hread
  -- Both the reader and the first moment with that signature are asked by the same path.
  have hmem : reader ∈ seen := by simp [hreader]
  have hfirst' : first ∈ seen := by
    rw [hreader]
    exact List.mem_append_right _ hfirst
  rw [(hwritten.byText hfirst' p path hp).1] at hsigned
  have hstats : reader.stats? path = some stats := by
    rw [stats?, ← (hwritten.byText hmem other path hother).2, hbytes]
    exact hstats
  rcases List.append_eq_append_iff.1 (hseen.symm.trans hreader) with
    ⟨between, -, hsuffix⟩ | ⟨between, rfl, hsuffix⟩
  · -- The reader comes before `found`, when the script has the signature again.
    have hpast : Written (between ++ reader :: before) := hsuffix ▸ (hseen ▸ hwritten).of_append
    have hhead : found ∈ (between ++ reader :: before).head? := by
      rw [← hsuffix]
      rfl
    have hsame : reader.Unwritten found path := hpast.unwritten hfirst hhead hfound hsigned
    exact ⟨found, by simp, hsame.stats?_eq.trans hstats⟩
  · have hlater : reader ∈ between ++ [found] := by
      cases between with
      | nil =>
        obtain rfl := (List.cons.inj hsuffix).1
        exact List.mem_singleton_self _
      | cons next between =>
        obtain rfl := (List.cons.inj hsuffix).1
        exact List.mem_cons_self
    refine ⟨reader, ?_, hstats⟩
    rw [List.append_assoc]
    exact List.mem_append_right after hlater

/-- What a cache tells of scripts, and what is asked of it. -/
structure NeverStale (depth : Nat) (all : Analyses) : Prop where
  /-- Whoever takes the signature of a script now, and looks it up before anybody else remembers
  something of the script, finds no statistics but those that it has now, whatever is written until
  then. -/
  taken : ∀ {path signature steps stats}, all.moment.signature path = .ok signature →
    KeepsSilent depth path.text all steps →
      (all.run depth steps).find? path.text signature.text = some stats →
        all.moment.stats? path = some stats
  /-- Statistics that are found under a signature that a script has had are those of that moment or of
  a later one. -/
  since : ∀ {path signature stats later moment earlier},
    all.seen = later ++ moment :: earlier → moment.signature path = .ok signature →
      all.find? path.text signature.text = some stats →
        ∃ found ∈ later ++ [moment], found.stats? path = some stats
  /-- An analysis asks under no signature but one that the script has had. -/
  asked : ∀ {key text next}, .ask (.lookUp key text) next ∈ all.running →
    ∃ moment ∈ all.seen, ∃ path signature, path.text = key ∧ signature.text = text ∧
      moment.signature path = .ok signature

theorem Sound.neverStale {all : Analyses} (h : all.Sound) (hwritten : Written all.seen)
    (depth : Nat) : all.NeverStale depth := by
  have hsince {path : Path} {signature : Signature} {stats : FileStats} {later earlier : List Moment}
      {moment : Moment} (hseen : all.seen = later ++ moment :: earlier)
      (hsignature : moment.signature path = .ok signature)
      (hfind : all.find? path.text signature.text = some stats) :
      ∃ found ∈ later ++ [moment], found.stats? path = some stats := by
    obtain ⟨cache, hcache, hget⟩ := Option.bind_eq_some_iff.1 hfind
    exact ((h.cache cache hcache).get? hget).exists_stats? hwritten hseen hsignature
  constructor
  case taken =>
    intro path signature steps stats hsignature hsilent hfind
    rw [find?_run hsilent] at hfind
    obtain ⟨moment, hmoment, hstats⟩ := hsince (List.nil_append all.seen).symm hsignature hfind
    obtain rfl := List.mem_singleton.1 hmoment
    exact hstats
  case since => exact hsince
  case asked =>
    intro key text next hjob
    obtain ⟨k, hk, hmay, -⟩ := h.running _ hjob key
    obtain ⟨signature, hsignature, rfl⟩ := hmay rfl
    obtain ⟨moment, hmoment, path, hpath, hsigned⟩ := hk.signature signature hsignature
    exact ⟨moment, hmoment, path, signature, hpath, rfl, hsigned⟩

/-- However analyses that share a cache and the writing of files take turns, a script that is found in
the cache under the signature that was just taken is found with its statistics. -/
theorem neverStale_run (depth : Nat) (moment : Moment) (session : Session) (path : Option Path)
    (disk : Disk) (steps : List Step)
    (hwritten : Written (run depth (fresh moment session path disk) steps).seen) :
    (run depth (fresh moment session path disk) steps).NeverStale depth :=
  ((sound_fresh moment session path disk).run steps).neverStale hwritten depth

/-- A script is written right after its signature was taken. -/
def overtaken : List Step :=
  [.start ⟨.root, ["w", "a.nani"]⟩, .advance 0, .write (World.draft [32] 2), .advance 0, .advance 0,
   .advance 0]

theorem written_overtaken (depth : Nat) :
    Written (run depth (fresh (World.draft [64] 1) World.writer none {}) overtaken).seen := by
  have hsigned (path : Path) :
      SignedAnew [World.draft [64] 1] (World.draft [32] 2) path := by
    intro earlier hearlier signature hsignature
    obtain rfl := List.mem_singleton.1 hearlier
    obtain rfl := Except.ok.inj hsignature
    simp [World.draft]
  exact .write (World.byText_draft _ _) (fun path => .inr (hsigned path))
    (.first (World.byText_draft _ _))

/-- The new statistics are remembered under the old signature. -/
theorem neverStale_run_overtaken :
    Written (run 980 (fresh (World.draft [64] 1) World.writer none {}) overtaken).seen ∧
      (run 980 (fresh (World.draft [64] 1) World.writer none {}) overtaken).desk.session.cache =
        some (Cache.store { path := none } "/w/a.nani" "1:1" (Script.stats [' ']) "") ∧
      (run 980 (fresh (World.draft [64] 1) World.writer none {}) overtaken).NeverStale 980 :=
  ⟨written_overtaken 980, rfl, neverStale_run 980 _ _ _ _ overtaken (written_overtaken 980)⟩

end Analyses

end ScriptStats
