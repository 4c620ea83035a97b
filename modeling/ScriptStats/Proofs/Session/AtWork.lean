import ScriptStats.Proofs.Analysis.Version
import ScriptStats.Proofs.Cache.Kept
import ScriptStats.Proofs.Session.Turn

/-!
# Jobs at work while a script stays as it is

A job that meets the contract of a script can be worked off by a session, and be it step by step among
others. The cache goes on telling the same of the script, and the job comes to what is promised.
-/

namespace ScriptStats

open Program

namespace Moment

/-- At that moment the script is as it is for a while. -/
structure Shows (moment : Moment) (v : Version) : Prop where
  signature : ∀ path, path.text = v.path → moment.signature path = v.signature
  read : ∀ path, path.text = v.path → moment.read path = v.contents

end Moment

namespace Desk

/-- What the cache says of the script lets it be shown with these statistics. -/
def Knows (v : Version) (stats : FileStats) (desk : Desk) : Prop :=
  ∀ text, v.IsSigned text → v.Tells stats (desk.session.cache.bind (·.get? v.path text))

/-! ## What is remembered -/

variable {first second third : Desk}

theorem Spares.trans (h : first.Spares second) (hnext : second.Spares third) :
    first.Spares third where
  snapshot_eq := hnext.snapshot_eq.trans h.snapshot_eq
  disk_eq := hnext.disk_eq.trans h.disk_eq
  keys cache hcache := by
    obtain ⟨mid, hmid, hkeys⟩ := h.keys cache hcache
    obtain ⟨last, hlast, hmore⟩ := hnext.keys mid hmid
    exact ⟨last, hlast, fun key hkey => hmore key (hkeys key hkey)⟩
  former number cache hcache := by
    obtain ⟨mid, hmid, hkeys⟩ := h.former number cache hcache
    obtain ⟨last, hlast, hmore⟩ := hnext.former number mid hmid
    exact ⟨last, hlast, fun key hkey => hmore key (hkeys key hkey)⟩

theorem Remembers.trans (h : first.Remembers second) (hnext : second.Remembers third) :
    first.Remembers third := by
  obtain ⟨before, hsecond⟩ := h.isOf
  obtain ⟨after, hthird⟩ := hnext.isOf
  refine ⟨h.toSpares.trans hnext.toSpares, after, ?_⟩
  rw [hthird, hsecond]

theorem Remembers.exists_eq_withCache (h : first.Remembers second) :
    ∃ cache, second = first.withCache cache := by
  obtain ⟨cache, hsession⟩ := h.isOf
  refine ⟨cache, ?_⟩
  rw [withCache, ← hsession, ← h.disk_eq]

end Desk

namespace Moment

variable {moment : Moment} {depth : Nat} {α : Type}

theorem remembers_atWork (moment : Moment) (depth : Nat) (job : Job α) (desk : Desk) :
    desk.Remembers (outcome (moment.atWork depth job) desk).2 := by
  induction job generalizing desk with
  | done a => exact .refl desk
  | ask request next ih =>
    have hanswer := Session.remembers_answer moment depth request desk
    change desk.Remembers (outcome (Session.answer (moment.host depth) request >>= fun reply =>
      moment.atWork depth (next reply)) desk).2
    rw [outcome_bind]
    generalize outcome (Session.answer (moment.host depth) request) desk = ended at hanswer ⊢
    obtain ⟨e | reply, left⟩ := ended
    · exact hanswer
    · exact hanswer.trans (ih reply left)

/-- The walk through a workspace with a single script. -/
theorem eval_walk_of_list {options : WalkOptions} {root : Path} {entry : Entry} {identity : String}
    (hidentity : moment.identity root = .ok identity) (hlist : moment.list root = .ok [entry])
    (hentry : entry.isDirectory = false) (hname : Walk.isScriptName options entry.name = true) :
    moment.eval (walk options root) = .ok [⟨root, [entry]⟩] := by
  have hlisted : moment.eval (Walk.list root) = .ok [entry] := by
    rw [Walk.list, eval_bind, eval_send, answer, hlist]
    rfl
  have hkept (met : Walk.Identities) :
      moment.eval (Walk.keep options 0 met [entry]) = .ok ([entry], met) := by
    simp only [Walk.keep, hentry, hname, if_true]
    rfl
  have henter (met : Walk.Identities) :
      moment.eval (Walk.enter options (moment.directoryBound + 1) met [(root, 0)]) =
        .ok [⟨root, [entry]⟩] := by
    have hbelow : Listing.directories ⟨root, [entry]⟩ = [] := by simp [Listing.directories, hentry]
    have hend (met : Walk.Identities) :
        Walk.enter options moment.directoryBound met [] = pure [] := by
      cases moment.directoryBound <;> rfl
    rw [Walk.enter, eval_bind, hlisted]
    change moment.eval (Walk.keep options 0 met [entry] >>= _) = _
    rw [eval_bind, hkept]
    dsimp only [bind, Except.bind]
    rw [hbelow]
    change moment.eval (Walk.enter options moment.directoryBound met [] >>= _) = _
    rw [hend]
    rfl
  have hidentity' : moment.eval (Job.send (.identity root)) = .ok identity := by
    rw [eval_send, answer, hidentity]
    rfl
  have hbound : moment.eval (Job.send .directoryBound) = .ok moment.directoryBound := rfl
  rw [walk, eval_bind, hbound]
  change moment.eval (Job.send (.identity root) >>= _) = _
  rw [eval_bind, hidentity']
  change moment.eval (Walk.enter options (moment.directoryBound + 1) _ [(root, 0)] >>= _) = _
  rw [eval_bind, henter]
  rfl

/-- The tree of a workspace with a single script. -/
theorem outcome_buildTree_of_walk {options : WalkOptions} {root : Path} {entry : Entry}
    (hwalk : moment.eval (walk options root) = .ok [⟨root, [entry]⟩])
    (hentry : entry.isDirectory = false) {withCache : Bool} {stats : FileStats} {desk left : Desk}
    (hstats : outcome (moment.atWork depth (ScriptFile.stats withCache entry.path)) desk =
      (.ok stats, left)) :
    outcome (moment.atWork depth (buildTree options withCache root)) desk =
      (.ok (Node.ofDirectory root [Node.ofScript entry stats]), left) := by
  have hscripts : Listing.scripts ⟨root, [entry]⟩ = [entry] := by simp [Listing.scripts, hentry]
  have hfound : outcome (moment.atWork depth (Aggregation.analyze withCache [⟨root, [entry]⟩])) desk =
      (.ok [⟨⟨root, [entry]⟩, [stats]⟩], left) := by
    change outcome (moment.atWork depth (List.mapM _ (Listing.scripts _) >>= _)) desk = _
    rw [hscripts, List.mapM_cons, bind_assoc, atWork_bind, outcome_bind_ok hstats]
    rfl
  rw [buildTree, atWork_bind, outcome_bind, steady_walk, hwalk]
  dsimp only
  rw [atWork_bind, outcome_bind_ok hfound]
  simp only [Aggregation.root?, Aggregation.assemble?, Aggregation.children?, hentry]
  simp [WaitingNodes.put]
  rfl

/-- Every request is possible, though the files may refuse it. -/
structure Possible (moment : Moment) : Prop where
  list : ∀ path e, moment.list path = .error e → e.isRefusal = true
  read : ∀ path e, moment.read path = .error e → e.isRefusal = true
  signature : ∀ path e, moment.signature path = .error e → e.isRefusal = true
  identity : ∀ path, ∃ identity, moment.identity path = .ok identity

theorem exists_possible {found : Except FileError α}
    (h : ∀ e, found = .error e → e.isRefusal = true) :
    (Session.possible found : Except Failure _) = .ok found := by
  cases found with
  | ok a => rfl
  | error e => exact if_pos (h e rfl)

theorem Possible.exists_answer (h : moment.Possible) (depth : Nat) (request : Request) (desk : Desk) :
    ∃ reply left, outcome (Session.answer (moment.host depth) request) desk = (.ok reply, left) := by
  cases request with
  | list path =>
    refine ⟨moment.list path, desk, ?_⟩
    refine (Desk.outcome_possible (moment.list path) desk).trans ?_
    rw [exists_possible (h.list path)]
  | read path =>
    refine ⟨moment.read path, desk, ?_⟩
    refine (Desk.outcome_possible (moment.read path) desk).trans ?_
    rw [exists_possible (h.read path)]
  | signature path =>
    refine ⟨moment.signature path, desk, ?_⟩
    refine (Desk.outcome_possible (moment.signature path) desk).trans ?_
    rw [exists_possible (h.signature path)]
  | identity path =>
    obtain ⟨identity, hidentity⟩ := h.identity path
    refine ⟨identity, desk, ?_⟩
    refine (Desk.outcome_required (moment.identity path) desk).trans ?_
    rw [hidentity]
    rfl
  | directoryBound | lookUp | remember | note => exact ⟨_, _, rfl⟩

/-- Nothing but an impossible request keeps a job from coming to something. -/
theorem Possible.exists_atWork (h : moment.Possible) (depth : Nat) (job : Job α) (desk : Desk) :
    ∃ a left, outcome (moment.atWork depth job) desk = (.ok a, left) := by
  induction job generalizing desk with
  | done a => exact ⟨a, desk, rfl⟩
  | ask request next ih =>
    obtain ⟨reply, left, hanswer⟩ := h.exists_answer depth request desk
    obtain ⟨a, last, hrest⟩ := ih reply left
    exact ⟨a, last, (outcome_bind_ok hanswer fun reply => moment.atWork depth (next reply)).trans hrest⟩

end Moment

namespace Desk.Knows

variable {v : Version} {stats : FileStats} {moment : Moment} {depth : Nat} {desk : Desk}

/-- What is remembered under the contract leaves the cache telling the same. -/
theorem remember (h : desk.Knows v stats) {key text : String} {found : FileStats}
    (hmay : (v.contract stats).may () (.remember key text found)) (time : String) :
    (desk.withCache (desk.session.cache.map (·.store key text found time))).Knows v stats := by
  intro signature hsigned
  have htells := h signature hsigned
  change v.Tells stats ((desk.session.cache.map (·.store key text found time)).bind
    (·.get? v.path signature))
  cases hcache : desk.session.cache with
  | none =>
    rw [hcache] at htells
    exact htells
  | some cache =>
    rw [hcache] at htells
    rw [Option.map_some, Option.bind_some]
    by_cases hkey : key = v.path
    · subst hkey
      obtain ⟨hsame, hother⟩ := hmay rfl
      by_cases htext : text = signature
      · subst htext
        rw [Cache.get?_store, hsame hsigned]
        exact ⟨fun known hknown => (Option.some_inj.1 hknown).symm, fun hnone => by cases hnone⟩
      · have hunsigned : ¬ v.IsSigned text := by
          rintro ⟨s, hs, rfl⟩
          obtain ⟨t, ht, rfl⟩ := hsigned
          exact htext (congrArg Signature.text (Except.ok.inj (hs.symm.trans ht)))
        rw [Cache.get?_store_of_ne_signature _ _ htext]
        exact ⟨(fun _ hknown => by cases hknown), fun _ => hother hunsigned⟩
    · rw [Cache.get?_store_of_ne _ (Ne.symm hkey)]
      exact htells

variable (depth) (hshows : moment.Shows v)
include hshows

theorem answer (h : desk.Knows v stats) {request : Request}
    (hmay : (v.contract stats).may () request) :
    (outcome (Session.answer (moment.host depth) request) desk).2.Knows v stats ∧
      ∀ reply, (outcome (Session.answer (moment.host depth) request) desk).1 = .ok reply →
        (v.contract stats).expects () request reply := by
  cases request with
  | remember key text found => exact ⟨h.remember hmay moment.time, fun _ _ => trivial⟩
  | list path =>
    have hanswer := Desk.outcome_possible (moment.list path) desk
    exact ⟨hanswer.symm ▸ h, fun _ _ => trivial⟩
  | read path =>
    have hanswer := Desk.outcome_possible (moment.read path) desk
    refine ⟨hanswer.symm ▸ h, fun reply hreply hpath => ?_⟩
    rw [← hshows.read path hpath]
    exact Session.possible_eq_ok ((congrArg Prod.fst hanswer).symm.trans hreply)
  | signature path =>
    have hanswer := Desk.outcome_possible (moment.signature path) desk
    refine ⟨hanswer.symm ▸ h, fun reply hreply hpath => ?_⟩
    rw [← hshows.signature path hpath]
    exact Session.possible_eq_ok ((congrArg Prod.fst hanswer).symm.trans hreply)
  | identity path =>
    have hanswer := Desk.outcome_required (moment.identity path) desk
    exact ⟨hanswer.symm ▸ h, fun _ _ => trivial⟩
  | lookUp key text =>
    refine ⟨h, fun reply hreply => ?_⟩
    rintro rfl hsigned
    have hreply := Except.ok.inj hreply
    exact hreply ▸ h text hsigned
  | directoryBound | note => exact ⟨h, fun _ _ => trivial⟩

/-- A job that meets the contract comes to what is promised, and the cache tells the same as before. -/
theorem atWork {α : Type} {job : Job α} {Q : Unit → α → Prop} (h : desk.Knows v stats)
    (hmeets : job.Meets (v.contract stats) Q ()) :
    (outcome (moment.atWork depth job) desk).2.Knows v stats ∧
      ∀ a, (outcome (moment.atWork depth job) desk).1 = .ok a → Q () a := by
  induction job generalizing desk with
  | done a =>
    refine ⟨h, fun b hb => ?_⟩
    obtain rfl := Except.ok.inj hb
    exact hmeets
  | ask request next ih =>
    obtain ⟨hmay, hnext⟩ := hmeets
    have hanswer := h.answer depth hshows hmay
    change (outcome (Session.answer (moment.host depth) request >>= fun reply =>
      moment.atWork depth (next reply)) desk).2.Knows v stats ∧ ∀ a, (outcome
        (Session.answer (moment.host depth) request >>= fun reply =>
          moment.atWork depth (next reply)) desk).1 = .ok a → Q () a
    rw [outcome_bind]
    generalize outcome (Session.answer (moment.host depth) request) desk = ended at hanswer ⊢
    obtain ⟨e | reply, left⟩ := ended
    · exact ⟨hanswer.1, fun _ ha => by cases ha⟩
    · exact ih reply hanswer.1 (hnext reply (hanswer.2 reply rfl))

end Desk.Knows

end ScriptStats
