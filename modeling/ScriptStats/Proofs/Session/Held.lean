import ScriptStats.Proofs.Session.AtWork
import ScriptStats.Proofs.Session.Mirror

/-!
# Caches that are held

Whoever has opened a cache goes on with it, and be it that the session gives it up in the meantime. For
an analysis this is as if the cache were still at hand, and no other cache has a part in it.
-/

namespace ScriptStats

open Program

namespace Session

variable (session : Session) (f : Cache → Cache) {number other : Nat}

theorem cacheNumber_mapCacheAt (number : Nat) :
    (session.mapCacheAt number f).cacheNumber = session.cacheNumber := by
  unfold mapCacheAt
  split
  · rfl
  · exact List.length_modify ..

theorem cacheAt?_mapCacheAt (number : Nat) :
    (session.mapCacheAt number f).cacheAt? number = (session.cacheAt? number).map f := by
  rw [cacheAt?, cacheNumber_mapCacheAt, cacheAt?, mapCacheAt]
  split
  · rfl
  · exact List.getElem?_modify_eq ..

theorem cacheAt?_mapCacheAt_of_ne (h : other ≠ number) :
    (session.mapCacheAt number f).cacheAt? other = session.cacheAt? other := by
  rw [cacheAt?, cacheNumber_mapCacheAt, cacheAt?, mapCacheAt]
  by_cases hhand : number = session.cacheNumber
  · rw [if_pos hhand, if_neg (hhand ▸ h), if_neg (hhand ▸ h)]
    rfl
  · rw [if_neg hhand]
    dsimp only
    rw [List.getElem?_modify_ne _ _ h.symm]

theorem mapCacheAt_id (number : Nat) : session.mapCacheAt number id = session := by
  unfold mapCacheAt mapCache
  split
  · rw [Option.map_id, id]
  · rw [List.modify_id]

/-- A cache that is given up keeps its number, and so do those that were given up before. -/
theorem cacheAt?_replaceCache {cache : Option Cache}
    (h : number ≠ (session.replaceCache cache).cacheNumber) :
    (session.replaceCache cache).cacheAt? number = session.cacheAt? number := by
  have hlength : (session.replaceCache cache).cacheNumber =
      session.cacheNumber + session.cache.toList.length := List.length_append
  rw [cacheAt?, if_neg h, cacheAt?]
  change (session.former ++ session.cache.toList)[number]? = _
  rcases Nat.lt_trichotomy number session.cacheNumber with hlt | rfl | hlt
  · rw [if_neg hlt.ne, List.getElem?_append_left hlt]
  · change (session.former ++ session.cache.toList)[session.former.length]? = _
    rw [if_pos rfl, List.getElem?_append_right (Nat.le_refl _), Nat.sub_self]
    cases hcache : session.cache with
    | none =>
      rw [hcache] at hlength
      exact absurd hlength.symm h
    | some cache => rfl
  · have hbeyond : session.former[number]? = none := List.getElem?_eq_none hlt.le
    rw [if_neg hlt.ne', hbeyond]
    refine List.getElem?_eq_none ?_
    have hone : session.cache.toList.length ≤ 1 := by cases session.cache <;> simp
    have hlt : session.former.length < number := hlt
    rw [List.length_append]
    omega

end Session

/-! ## The view of a refresh -/

/-- The desk with the cache of that number at hand and no others. -/
def Desk.viewAt (number : Nat) (desk : Desk) : Desk :=
  { desk with
    session := { desk.session with cache := desk.session.cacheAt? number, former := [] } }

theorem Desk.viewAt_mapCacheAt (number : Nat) (f : Cache → Cache) (desk : Desk) :
    viewAt number { desk with session := desk.session.mapCacheAt number f } =
      { desk.viewAt number with session := (desk.viewAt number).session.mapCache f } := by
  have hcache := desk.session.cacheAt?_mapCacheAt f number
  obtain ⟨cache, former, hsession⟩ := Session.exists_mapCacheAt_eq f number desk.session
  unfold viewAt
  dsimp only
  rw [hcache, hsession]
  rfl

namespace Session

variable {moment : Moment} {depth number : Nat}

/-- An analysis finds, and does, what it would with its cache at hand. -/
theorem mirrors_answerFrom (moment : Moment) (depth number : Nat) (request : Request) :
    Mirrors ⊤ ⊤ (Desk.viewAt number) (answerFrom (moment.host depth) number request)
      (answer (moment.host depth) request) := by
  cases request with
  | list path => exact (mirrors_pure _).bind mirrors_possible
  | read path => exact (mirrors_pure _).bind mirrors_possible
  | signature path => exact (mirrors_pure _).bind mirrors_possible
  | identity path => exact (mirrors_pure _).bind mirrors_required
  | directoryBound => exact mirrors_pure _
  | lookUp key signature => exact fun desk _ => ⟨rfl, rfl, fun _ _ => trivial⟩
  | remember key signature stats =>
    exact fun desk _ => ⟨rfl, desk.viewAt_mapCacheAt number _, fun _ _ => trivial⟩
  | note record => exact mirrors_pure ()

/-- All that it changes is its cache. -/
theorem exists_mapCacheAt_of_answerFrom (moment : Moment) (depth number : Nat) (request : Request)
    (desk : Desk) : ∃ f, (outcome (answerFrom (moment.host depth) number request) desk).2 =
      { desk with session := desk.session.mapCacheAt number f } := by
  have hsame : desk = { desk with session := desk.session.mapCacheAt number id } := by
    rw [mapCacheAt_id]
  cases request with
  | remember key signature stats => exact ⟨_, rfl⟩
  | list path =>
    exact ⟨id, (congrArg Prod.snd (Desk.outcome_possible (moment.list path) desk)).trans hsame⟩
  | read path =>
    exact ⟨id, (congrArg Prod.snd (Desk.outcome_possible (moment.read path) desk)).trans hsame⟩
  | signature path =>
    exact ⟨id, (congrArg Prod.snd (Desk.outcome_possible (moment.signature path) desk)).trans hsame⟩
  | identity path =>
    exact ⟨id, (congrArg Prod.snd (Desk.outcome_required (moment.identity path) desk)).trans hsame⟩
  | directoryBound | lookUp | note => exact ⟨id, hsame⟩

end Session

end ScriptStats
