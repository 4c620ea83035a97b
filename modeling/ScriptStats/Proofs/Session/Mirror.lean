import ScriptStats.Proofs.Session.Desk

/-!
# Hosts that mirror a desk

There is more to the state of a host than the session and the disk of its cache. What a session does
there it does on a desk, as long as the host sees to the session and the disk and to nothing else.
-/

namespace ScriptStats

open Program

variable {σ α β : Type} {desk : σ → Desk} {I J K : σ → Prop}

/-- Where `I` holds, the program does on the desk what the plain one does, and if it succeeds, `J`
holds afterwards. -/
def Mirrors (I J : σ → Prop) (desk : σ → Desk) (program : Program Failure σ α)
    (plain : Desk.Act α) : Prop :=
  ∀ state, I state → (outcome program state).1 = (outcome plain (desk state)).1 ∧
    desk (outcome program state).2 = (outcome plain (desk state)).2 ∧
      ∀ a, (outcome program state).1 = .ok a → J (outcome program state).2

/-- Where `I` holds, the program succeeds, and leaves the desk as it is. -/
def Leaves (I : σ → Prop) (desk : σ → Desk) (program : Program Failure σ α) : Prop :=
  ∀ state, I state →
    ∃ a left, outcome program state = (.ok a, left) ∧ desk left = desk state ∧ I left

theorem mirrors_pure (a : α) : Mirrors I I desk (pure a) (pure a) :=
  fun _ h => ⟨rfl, rfl, fun _ _ => h⟩

theorem mirrors_throw (failure : Failure) :
    Mirrors I J desk (throw failure : Program Failure σ α) (throw failure) :=
  fun _ _ => ⟨rfl, rfl, fun _ h => nomatch h⟩

theorem Mirrors.bind {program : Program Failure σ α} {plain : Desk.Act α}
    {next : α → Program Failure σ β} {plainNext : α → Desk.Act β}
    (h : Mirrors I J desk program plain) (hnext : ∀ a, Mirrors J K desk (next a) (plainNext a)) :
    Mirrors I K desk (program >>= next) (plain >>= plainNext) := by
  intro state hstate
  obtain ⟨hresult, hleft, hafter⟩ := h state hstate
  rw [outcome_bind, outcome_bind]
  generalize outcome program state = ended at hresult hleft hafter ⊢
  generalize outcome plain (desk state) = plainEnded at hresult hleft ⊢
  obtain ⟨result, left⟩ := ended
  obtain ⟨plainResult, plainLeft⟩ := plainEnded
  obtain rfl : result = plainResult := hresult
  obtain rfl : desk left = plainLeft := hleft
  cases result with
  | error failure => exact ⟨rfl, rfl, fun _ h => nomatch h⟩
  | ok a => exact hnext a left (hafter a rfl)

theorem Mirrors.mono {program : Program Failure σ α} {plain : Desk.Act α}
    (h : Mirrors I J desk program plain) (hle : ∀ state, J state → K state) :
    Mirrors I K desk program plain := by
  intro state hstate
  obtain ⟨hresult, hleft, hafter⟩ := h state hstate
  exact ⟨hresult, hleft, fun a ha => hle _ (hafter a ha)⟩

theorem Leaves.mirrors {program : Program Failure σ Unit} (h : Leaves I desk program) :
    Mirrors I I desk program (pure ()) := by
  intro state hstate
  obtain ⟨a, left, hended, hdesk, hleft⟩ := h state hstate
  rw [hended]
  exact ⟨rfl, hdesk, fun _ _ => hleft⟩

theorem Mirrors.outcome_eq {program : Program Failure σ α} {plain : Desk.Act α}
    (h : Mirrors I J desk program plain) (state : σ) (hstate : I state) :
    outcome plain (desk state) = ((outcome program state).1, desk (outcome program state).2) :=
  Prod.ext (h state hstate).1.symm (h state hstate).2.1.symm

theorem mirrors_possible (found : Except FileError α) :
    Mirrors I I desk (Session.possible found) (Session.possible found) := by
  unfold Session.possible
  cases found with
  | ok a => exact mirrors_pure _
  | error e =>
    dsimp only
    split
    · exact mirrors_pure _
    · exact mirrors_throw _

theorem mirrors_required (found : Except FileError α) :
    Mirrors I I desk (Session.required found) (Session.required found) := by
  cases found with
  | ok a => exact mirrors_pure a
  | error e => exact mirrors_throw _

/-! ## What a session does with its cache -/

/-- As long as `I` holds, the host sees to the session as on a desk, and reads the file of its cache from
the disk there. -/
structure Seats (I : σ → Prop) (depth : Nat) (desk : σ → Desk)
    [MonadStateOf Session (Program Failure σ)] (host : Host (Program Failure σ)) : Prop where
  getSession : Mirrors I I desk (getThe Session) (getThe Session)
  setSession : ∀ session : Session, Mirrors I I desk (set session) (set session)
  mapSession : ∀ f : Session → Session,
    Mirrors I I desk (modifyThe Session f) (modifyThe Session f)
  readCache : ∀ path,
    Mirrors I I desk (host.readCache path) (do return (← getThe Desk).disk.read path)
  cacheDepth : host.cacheDepth = depth
  log : ∀ record, Leaves I desk (host.log record)

namespace Seats

variable {depth : Nat} [MonadStateOf Session (Program Failure σ)] {host : Host (Program Failure σ)}
  (h : Seats I depth desk host)
include h

theorem mirrors_note (moment : Moment) (level : LogLevel) (message : String) :
    Mirrors I I desk (Session.note host level message)
      (Session.note (moment.host depth) level message) :=
  (h.log _).mirrors

theorem mirrors_openCacheFor (moment : Moment) (settings : Settings) :
    Mirrors I I desk (Session.openCacheFor host settings)
      (Session.openCacheFor (moment.host depth) settings) := by
  refine h.getSession.bind fun session => ?_
  cases session.allowsCache settings with
  | false => exact mirrors_pure false
  | true =>
    cases session.cache.isSome with
    | true => exact mirrors_pure true
    | false =>
      refine (h.readCache settings.cachePath).bind fun contents => ?_
      have hdepth : (moment.host depth).cacheDepth = depth := rfl
      rw [h.cacheDepth, hdepth]
      cases Cache.load depth settings.cachePath contents with
      | error failure => exact mirrors_throw _
      | ok cache => exact (h.mapSession _).bind fun _ => mirrors_pure true

theorem mirrors_persistCache (hwrite : ∀ path text, Mirrors I I desk (host.writeCache path text)
    (Desk.changeDisk (Disk.writeText path text))) (moment : Moment) (tree : Node) :
    Mirrors I I desk (Session.persistCache host tree)
      (Session.persistCache (moment.host depth) tree) := by
  refine (h.mapSession _).bind fun _ => h.getSession.bind fun session => ?_
  cases session.cache.bind Cache.due? with
  | none => exact mirrors_pure ()
  | some due =>
    obtain ⟨path, text⟩ := due
    refine (hwrite path text).bind fun written => ?_
    cases written with
    | ok _ => exact h.mapSession _
    | error e =>
      dsimp only
      cases e.isRefusal with
      | true => exact h.mirrors_note moment _ _
      | false => exact mirrors_throw _

theorem mirrors_noteTotals (moment : Moment) (stats : AggregateStats) :
    Mirrors I I desk (Session.noteTotals host stats)
      (Session.noteTotals (moment.host depth) stats) := by
  unfold Session.noteTotals
  split
  · exact h.mirrors_note moment _ _
  · exact mirrors_pure ()

end Seats

end ScriptStats
