import ScriptStats.Session.Host

/-!
# Refreshes step by step

A refresh takes its number and then goes through phases. It opens the cache, asks what the analysis
asks, one request at a time, publishes what came of it or drops it, and sees to the cache. Between
two steps anything may happen to the session, so that refreshes may overlap. The settings that it has
begun with and the cache that it has opened are what a refresh holds on to in the meantime.
-/

namespace ScriptStats

/-- How far a refresh has come. -/
inductive RefreshPhase where
  /-- It has its number and the settings of that time, and nothing else. -/
  | opening (settings : Settings)
  /-- It analyses the workspace with the cache of that number: what is left to be done. -/
  | analysing (number : Nat) (job : Job Node)
  /-- Its snapshot is published, but the cache is not written yet. -/
  | storing (snapshot : Snapshot)

/-- What a step of a refresh leads to. -/
inductive RefreshTurn where
  | goesOn (phase : RefreshPhase)
  | returns (result : Option Snapshot)

namespace Session

variable {m : Type → Type} [Monad m] [MonadStateOf Session m] [MonadExceptOf Failure m]

/-- The next step of the refresh of the given number. -/
def advance (host : Host m) (generation : Nat) : RefreshPhase → m RefreshTurn
  | .opening settings => do
    let withCache ← openCacheFor host settings
    let session ← getThe Session
    return .goesOn (.analysing session.cacheNumber
      (buildTree (session.optionsUnder settings) withCache session.root))
  | .analysing number (.ask request next) => do
    let reply ← answerFrom host number request
    return .goesOn (.analysing number (next reply))
  | .analysing _ (.done tree) => do
    let (snapshot, session) := (← getThe Session).publish generation tree
    set session
    match snapshot with
    | none =>
      note host .debug ("Discarding refresh " ++ toString generation ++ " superseded by "
        ++ toString session.generation)
      return .returns none
    | some snapshot => return .goesOn (.storing snapshot)
  | .storing snapshot => do
    persistCache host snapshot.tree
    noteTotals host snapshot.stats
    return .returns (some snapshot)

/-- Publishes the tree that the refresh of the given number came to, or drops it. -/
def conclude (host : Host m) (generation : Nat) (tree : Node) : m (Option Snapshot) := do
  let (snapshot, session) := (← getThe Session).publish generation tree
  set session
  match snapshot with
  | none =>
    note host .debug ("Discarding refresh " ++ toString generation ++ " superseded by "
      ++ toString session.generation)
    return none
  | some snapshot =>
    persistCache host tree
    noteTotals host snapshot.stats
    return some snapshot

theorem finishRefresh_eq (host : Host m) (generation : Nat) (settings : Settings)
    (withCache : Bool) :
    finishRefresh host generation settings withCache = (do
      let session ← getThe Session
      let tree ← (buildTree (session.optionsUnder settings) withCache session.root).run
        (answerFrom host session.cacheNumber)
      conclude host generation tree) :=
  rfl

/-- What a refresh does from a phase on. -/
def finishFrom (host : Host m) (generation : Nat) : RefreshPhase → m (Option Snapshot)
  | .opening settings => do
    let withCache ← openCacheFor host settings
    finishRefresh host generation settings withCache
  | .analysing number job => do
    let tree ← job.run (answerFrom host number)
    conclude host generation tree
  | .storing snapshot => do
    persistCache host snapshot.tree
    noteTotals host snapshot.stats
    return some snapshot

/-- What is left to be done after a step. -/
def goOn (host : Host m) (generation : Nat) : RefreshTurn → m (Option Snapshot)
  | .goesOn phase => finishFrom host generation phase
  | .returns result => return result

theorem refresh_eq_enter_bind (host : Host m) :
    refresh host = (do
      let (generation, settings) ← enter host
      finishFrom host generation (.opening settings)) :=
  rfl

theorem publish_eq_some {generation : Nat} {tree : Node} {session : Session} {snapshot : Snapshot}
    (h : (session.publish generation tree).1 = some snapshot) :
    snapshot = ⟨generation, session.root, tree⟩ := by
  unfold publish at h
  split at h
  · exact (Option.some.inj h).symm
  · cases h

/-- A refresh is what its steps are, one after the other. -/
theorem finishFrom_eq_advance_bind [LawfulMonad m] (host : Host m) (generation : Nat) (phase : RefreshPhase) :
    finishFrom host generation phase =
      advance host generation phase >>= goOn host generation := by
  cases phase with
  | opening settings => simp only [finishFrom, advance, goOn, finishRefresh_eq, bind_assoc, pure_bind]
  | storing snapshot => simp only [finishFrom, advance, goOn, bind_assoc, pure_bind]
  | analysing number job =>
    cases job with
    | ask request next => simp only [finishFrom, advance, goOn, Job.run, bind_assoc, pure_bind]
    | done tree =>
      simp only [finishFrom, conclude, advance, Job.run, bind_assoc, pure_bind]
      refine bind_congr fun session => ?_
      have hsnapshot (snapshot : Snapshot) := @publish_eq_some generation tree session snapshot
      generalize session.publish generation tree = published at hsnapshot
      obtain ⟨snapshot, left⟩ := published
      cases snapshot with
      | none => simp only [goOn, bind_assoc, pure_bind]
      | some snapshot =>
        obtain rfl := hsnapshot snapshot rfl
        simp only [goOn, finishFrom, pure_bind]

end Session

end ScriptStats
