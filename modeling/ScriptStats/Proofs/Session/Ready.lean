import ScriptStats.Proofs.Session.Held
import ScriptStats.Proofs.Session.Saved

/-!
# Sessions that are ready for a saved script

Once a script was saved and the cache has forgotten it, the cache tells nothing of it but what it is.
Whatever a refresh does afterwards leaves it so, and so does one that holds an older cache.
-/

namespace ScriptStats

open Program Moment

/-- The script is shown as it is, if the tree holds it. -/
def Version.ShownBy (v : Version) (tree : Node) : Prop :=
  ∀ stats, tree.Shows v.path stats → stats = .file v.fresh

theorem Job.meets_version_fresh (v : Version) (options : WalkOptions) (withCache : Bool)
    (root : Path) : Meets (v.contract v.fresh) (fun _ tree => v.ShownBy tree) ()
      (buildTree options withCache root) := by
  refine (meets_version_buildTree (fun _ => rfl) (fun _ => rfl) options root).mono ?_
  intro _ tree htells stats hshown
  obtain ⟨found, rfl, hfound⟩ := htells v.path stats hshown
  rw [hfound rfl]

/-- The cache says nothing of the script that is not so. -/
def Version.AgreesWith (v : Version) (cache : Cache) : Prop :=
  ∀ text, v.IsSigned text → ∀ known, cache.get? v.path text = some known → known = v.fresh

/-- A cache is at hand, and all caches from the given number on let the script be shown as it is. -/
structure Desk.Ready (v : Version) (base : Nat) (desk : Desk) : Prop where
  isSome : desk.session.cache.isSome = true
  base_le : base ≤ desk.session.cacheNumber
  knows : ∀ number, base ≤ number → (desk.viewAt number).Knows v v.fresh

/-- It is enough to look at the cache that changes. -/
theorem Desk.Ready.mapCacheAt {v : Version} {base : Nat} {desk : Desk} (h : desk.Ready v base)
    {f : Cache → Cache} {number : Nat} (hknows : base ≤ number →
      Desk.Knows v v.fresh { desk.viewAt number with
        session := (desk.viewAt number).session.mapCache f }) :
    Desk.Ready v base { desk with session := desk.session.mapCacheAt number f } where
  isSome := by
    unfold Session.mapCacheAt
    split
    · exact Option.isSome_map.trans h.isSome
    · exact h.isSome
  base_le := h.base_le.trans_eq (desk.session.cacheNumber_mapCacheAt f number).symm
  knows other hle := by
    by_cases hsame : other = number
    · subst hsame
      rw [Desk.viewAt_mapCacheAt]
      exact hknows hle
    · intro text hsigned
      have hother := desk.session.cacheAt?_mapCacheAt_of_ne f hsame
      change v.Tells v.fresh (((desk.session.mapCacheAt number f).cacheAt? other).bind _)
      rw [hother]
      exact h.knows other hle text hsigned

/-- The cache that is given up goes on letting the script be shown as it is. -/
theorem Desk.Ready.replaceCache {v : Version} {base : Nat} {desk : Desk} (h : desk.Ready v base)
    {cache : Cache} (hagrees : v.AgreesWith cache) (settings : Settings) :
    Desk.Ready v base
      { desk with session := { desk.session.replaceCache (some cache) with settings } } where
  isSome := rfl
  base_le := by
    have hlength : (desk.session.replaceCache (some cache)).cacheNumber =
        desk.session.cacheNumber + desk.session.cache.toList.length := List.length_append
    exact h.base_le.trans (hlength ▸ Nat.le_add_right ..)
  knows number hle text hsigned := by
    change v.Tells v.fresh (((desk.session.replaceCache (some cache)).cacheAt? number).bind _)
    by_cases hhand : number = (desk.session.replaceCache (some cache)).cacheNumber
    · have hcache : (desk.session.replaceCache (some cache)).cacheAt? number = some cache := if_pos hhand
      rw [hcache]
      exact v.tells_fresh (hagrees text hsigned)
    · rw [desk.session.cacheAt?_replaceCache hhand]
      exact h.knows number hle text hsigned

namespace Session

variable {v : Version} {base : Nat} {moment : Moment} {depth : Nat} {desk : Desk}

theorem keeps_ready_mapCache {f : Cache → Cache}
    (hf : ∀ (cache : Cache) {key text known}, (f cache).get? key text = some known →
      cache.get? key text = some known) :
    Keeps (Desk.Ready v base) (modifyThe Session (mapCache f) : Desk.Act PUnit) := by
  intro desk h
  have hmap : desk.session.mapCacheAt desk.session.cacheNumber f = desk.session.mapCache f :=
    if_pos rfl
  change Desk.Ready v base { desk with session := desk.session.mapCache f }
  rw [← hmap]
  refine h.mapCacheAt fun hle text hsigned => v.tells_fresh fun known hknown => ?_
  obtain ⟨changed, hchanged, hget⟩ := Option.bind_eq_some_iff.1 hknown
  obtain ⟨cache, hcache, rfl⟩ := Option.map_eq_some_iff.1 hchanged
  have htells := h.knows desk.session.cacheNumber hle text hsigned
  exact htells.hit known (Option.bind_eq_some_iff.2 ⟨cache, hcache, hf cache hget⟩)

theorem ready_openCacheFor (h : desk.Ready v base) (settings : Settings) : ∃ withCache,
    outcome (openCacheFor (moment.host depth) settings) desk = (.ok withCache, desk) := by
  cases hallows : desk.session.allowsCache settings with
  | false => exact ⟨false, outcome_openCacheFor_of_not_allowed hallows⟩
  | true =>
    obtain ⟨cache, hcache⟩ := Option.isSome_iff_exists.1 h.isSome
    exact ⟨true, outcome_openCacheFor_of_cache hallows hcache⟩

/-- Where a cache is used, it is at hand once it has been opened. -/
theorem exists_cache_of_openCache (henabled : desk.session.cacheEnabled = true) {withCache : Bool}
    {opened : Desk} (h : outcome (openCache (moment.host depth)) desk = (.ok withCache, opened)) :
    withCache = true ∧ ∃ cache, opened.session.cache = some cache := by
  cases hcache : desk.session.cache with
  | some cache =>
    rw [outcome_openCache_of_cache henabled hcache] at h
    cases h
    exact ⟨rfl, cache, hcache⟩
  | none =>
    rw [outcome_openCache_of_load henabled hcache] at h
    split at h
    next cache _ =>
      cases h
      exact ⟨rfl, cache, rfl⟩
    next => cases h

theorem keeps_ready_persistCache (tree : Node) :
    Keeps (Desk.Ready v base) (persistCache (moment.host depth) tree) := by
  refine (keeps_ready_mapCache fun cache => Cache.get?_prune_of_eq_some).bind fun _ => ?_
  refine keeps_getThe_bind fun desk hdesk => ?_
  split
  next => exact hdesk
  next path text _ =>
    have hwrite : Keeps (Desk.Ready v base) ((moment.host depth).writeCache path text) :=
      fun _ h => ⟨h.isSome, h.base_le, h.knows⟩
    refine hwrite.bind (fun written => ?_) desk hdesk
    split
    · exact keeps_ready_mapCache fun _ => id
    · split
      · exact fun _ h => h
      · exact keeps_throw _

theorem keeps_ready_store (snapshot : Snapshot) :
    Keeps (Desk.Ready v base) (store moment depth snapshot) :=
  (keeps_ready_persistCache _).bind fun _ => (keeps_noteTotals _).bind fun _ => keeps_pure _

theorem keeps_ready_conclude (generation : Nat) (tree : Node) :
    Keeps (Desk.Ready v base) (conclude (moment.host depth) generation tree) := by
  intro desk h
  rw [conclude, outcome_bind_ok (Desk.outcome_get desk), publish]
  by_cases hnewest : generation = desk.session.generation
  · rw [if_pos hnewest]
    rw [outcome_bind_ok (Desk.outcome_set _ _)]
    exact keeps_ready_store ⟨generation, desk.session.root, tree⟩ _ ⟨h.isSome, h.base_le, h.knows⟩
  · rw [if_neg hnewest]
    exact h

/-- A session is ready for a script that is to be read anew, whatever its cache knew of it before. -/
theorem ready_prepare_saved {path : Path} (hpath : path.text = v.path)
    (henabled : desk.session.cacheEnabled = true) {left : Desk}
    (h : outcome (prepare (moment.host depth) .documentSaved (some path)) desk = (.ok (), left)) :
    left.Ready v desk.session.cacheNumber := by
  cases hopen : outcome (openCache (moment.host depth)) desk with
  | mk ended opened =>
    cases ended with
    | error e =>
      have hfails : outcome (prepare (moment.host depth) .documentSaved (some path)) desk =
          (.error e, opened) := outcome_bind_error hopen _
      rw [hfails] at h
      cases h
    | ok withCache =>
      obtain ⟨rfl, cache, hcache⟩ := exists_cache_of_openCache henabled hopen
      rw [outcome_prepare_saved hopen hcache path] at h
      cases h
      refine ⟨rfl, Nat.le_refl _, fun number hle text _ => v.tells_fresh fun known hknown => ?_⟩
      obtain ⟨found, hfound, hget⟩ := Option.bind_eq_some_iff.1 hknown
      rcases hle.eq_or_lt with rfl | hlt
      · obtain rfl : cache.invalidate path.text = found :=
          Option.some_inj.1 ((if_pos rfl).symm.trans hfound)
        rw [← hpath, Cache.get?_invalidate] at hget
        cases hget
      · have hnone : desk.session.former[number]? = none := List.getElem?_eq_none hlt.le
        have hfound : desk.session.former[number]? = some found := (if_neg hlt.ne').symm.trans hfound
        rw [hnone] at hfound
        cases hfound

variable (hshows : moment.Shows v)
include hshows

/-- A refresh is told of the script what it is, unless it holds a cache that is older. -/
theorem ready_answerFrom (depth : Nat) (h : desk.Ready v base) {number : Nat} {request : Request}
    (hmay : base ≤ number → (v.contract v.fresh).may () request) :
    (outcome (answerFrom (moment.host depth) number request) desk).2.Ready v base ∧
      ∀ reply, (outcome (answerFrom (moment.host depth) number request) desk).1 = .ok reply →
        base ≤ number → (v.contract v.fresh).expects () request reply := by
  obtain ⟨hresult, hview, -⟩ := mirrors_answerFrom moment depth number request desk trivial
  have hanswer (hle : base ≤ number) := (h.knows number hle).answer depth hshows (hmay hle)
  refine ⟨?_, fun reply hreply hle => (hanswer hle).2 reply (hresult.symm.trans hreply)⟩
  obtain ⟨f, hleft⟩ := exists_mapCacheAt_of_answerFrom moment depth number request desk
  rw [hleft] at hview ⊢
  rw [Desk.viewAt_mapCacheAt] at hview
  exact h.mapCacheAt fun hle => hview ▸ (hanswer hle).1

theorem keeps_ready_run {α : Type} {job : Job α} {Q : Unit → α → Prop} {number : Nat}
    (hle : base ≤ number) (hmeets : job.Meets (v.contract v.fresh) Q ()) :
    Keeps (Desk.Ready v base) (job.run (answerFrom (moment.host depth) number)) := by
  induction job with
  | done a => exact keeps_pure a
  | ask request next ih =>
    intro desk h
    obtain ⟨hmay, hnext⟩ := hmeets
    have hanswer := ready_answerFrom hshows depth h fun _ : base ≤ number => hmay
    rw [Job.run, outcome_bind]
    generalize outcome (answerFrom (moment.host depth) number request) desk = ended at hanswer ⊢
    obtain ⟨e | reply, left⟩ := ended
    · exact hanswer.1
    · exact ih reply (hnext reply (hanswer.2 reply rfl hle)) left hanswer.1

theorem keeps_ready_refresh : Keeps (Desk.Ready v base) (refresh (moment.host depth)) := by
  intro desk h
  have hbegun : Desk.Ready v base { desk with session := desk.session.begin.2 } :=
    ⟨h.isSome, h.base_le, h.knows⟩
  by_cases hdirectory : moment.isDirectory desk.session.root = .ok true
  · obtain ⟨withCache, hopen⟩ := @ready_openCacheFor v base moment depth _ hbegun desk.session.settings
    rw [outcome_refresh_of_openCache hdirectory hopen, outcome_bind, ← outcome_run_answerFrom,
      ← outcome_bind]
    have htree := Job.meets_version_fresh v desk.session.options withCache desk.session.root
    exact (keeps_ready_run hshows h.base_le htree).bind (keeps_ready_conclude _) _ hbegun
  · obtain ⟨e, hrefresh⟩ := outcome_refresh_of_not_isDirectory depth hdirectory
    rw [hrefresh]
    exact h

/-- A session that has handled a save is ready for the script. -/
theorem ready_handle_saved {path : Path} (hpath : path.text = v.path)
    (henabled : desk.session.cacheEnabled = true) {result : Option Snapshot} {left : Desk}
    (h : outcome (handle (moment.host depth) .documentSaved (some path)) desk = (.ok result, left)) :
    left.Ready v desk.session.cacheNumber := by
  cases hprepare : outcome (prepare (moment.host depth) .documentSaved (some path)) desk with
  | mk ended prepared =>
    cases ended with
    | error e =>
      rw [outcome_handle_error hprepare] at h
      cases h
    | ok =>
      have hready := ready_prepare_saved hpath henabled hprepare
      have hrefresh := @keeps_ready_refresh v _ moment depth hshows prepared hready
      rw [outcome_handle hprepare] at h
      rwa [h] at hrefresh

end Session

end ScriptStats
