import ScriptStats.Proofs.Session.Opened

/-!
# Refreshes at moments that agree

A refresh that returns has had all its replies. At any other moment that gives the same replies it does
the same.
-/

namespace ScriptStats

open Program

/-! ## Analyses of some scripts -/

namespace Contract

/-- Nothing is asked of the files but about some scripts. -/
def about (scripts : List Path) : Contract Unit where
  may _
    | .read path | .signature path => path ∈ scripts
    | .lookUp _ _ | .remember _ _ _ | .note _ => True
    | _ => False
  expects _ _ _ := True
  learns _ _ _ := ()

end Contract

namespace Job

variable {scripts : List Path} {script : Path}

theorem meets_about_readStats (hscript : script ∈ scripts) :
    Meets (.about scripts) (fun _ _ => True) () (ScriptFile.readStats script) := by
  refine meets_send_bind hscript fun reply _ => ?_
  cases reply with
  | error e => exact meets_send_bind trivial fun _ _ => trivial
  | ok bytes =>
    dsimp only
    split
    · exact meets_send_bind trivial fun _ _ => trivial
    · trivial

theorem meets_about_freshStats (hscript : script ∈ scripts) :
    Meets (.about scripts) (fun _ _ => True) () (ScriptFile.freshStats script) :=
  (meets_about_readStats hscript).bind fun _ _ _ => trivial

theorem meets_about_cachedStats (hscript : script ∈ scripts) :
    Meets (.about scripts) (fun _ _ => True) () (ScriptFile.cachedStats script) := by
  have hsignature : Meets (.about scripts) (fun _ _ => True) () (ScriptFile.signature script) :=
    meets_send_bind hscript fun reply _ => by cases reply <;> trivial
  refine hsignature.bind fun _ found _ => ?_
  cases found with
  | none => exact meets_about_freshStats hscript
  | some signature =>
    refine meets_send_bind trivial fun found _ => ?_
    cases found with
    | some stats => exact meets_send_bind trivial fun _ _ => trivial
    | none =>
      refine (meets_about_readStats hscript).bind fun _ found _ => ?_
      cases found with
      | none => trivial
      | some stats => exact meets_send_bind trivial fun _ _ => trivial

theorem meets_about_stats (withCache : Bool) (hscript : script ∈ scripts) :
    Meets (.about scripts) (fun _ _ => True) () (ScriptFile.stats withCache script) := by
  cases withCache with
  | true => exact meets_about_cachedStats hscript
  | false => exact meets_about_freshStats hscript

theorem meets_about_analyze (withCache : Bool) {listings : List Listing}
    (hscripts : ∀ listing ∈ listings, ∀ entry ∈ listing.scripts, entry.path ∈ scripts) :
    Meets (.about scripts) (fun _ _ => True) () (Aggregation.analyze withCache listings) := by
  induction listings with
  | nil => trivial
  | cons listing listings ih =>
    rw [List.forall_mem_cons] at hscripts
    have hall : ∀ entry ∈ listing.scripts, ∀ k, Meets (.about scripts) (fun _ _ => True) k
        (ScriptFile.stats withCache entry.path) := fun entry hentry _ =>
      meets_about_stats withCache (hscripts.1 entry hentry)
    exact (ih hscripts.2).bind fun _ _ _ => (meets_mapM hall ()).bind fun _ _ _ => trivial

end Job

/-! ## Moments that agree -/

namespace Moment

variable {moment other : Moment} {depth : Nat} {desk left : Desk} {scripts : List Path} {script : Path}

/-- What the first moment tells of a script, the other one tells as well. -/
structure Agrees (moment other : Moment) (script : Path) : Prop where
  read : ∀ {reply}, (Session.possible (moment.read script) : Except Failure _) = .ok reply →
    (Session.possible (other.read script) : Except Failure _) = .ok reply
  signature : ∀ {reply},
    (Session.possible (moment.signature script) : Except Failure _) = .ok reply →
      (Session.possible (other.signature script) : Except Failure _) = .ok reply

theorem outcome_answer_of_agrees (htime : other.time = moment.time)
    (hagrees : ∀ script ∈ scripts, moment.Agrees other script) {request : Request}
    (hmay : (Contract.about scripts).may () request) {reply : request.Reply}
    (h : outcome (Session.answer (moment.host depth) request) desk = (.ok reply, left)) :
    outcome (Session.answer (other.host depth) request) desk = (.ok reply, left) := by
  cases request with
  | list path => exact absurd hmay id
  | identity path => exact absurd hmay id
  | directoryBound => exact absurd hmay id
  | read path =>
    obtain ⟨hreply, rfl⟩ := Prod.mk.inj
      ((Desk.outcome_possible (moment.read path) desk).symm.trans h)
    exact (Desk.outcome_possible (other.read path) desk).trans
      (by rw [(hagrees path hmay).read hreply])
  | signature path =>
    obtain ⟨hreply, rfl⟩ := Prod.mk.inj
      ((Desk.outcome_possible (moment.signature path) desk).symm.trans h)
    exact (Desk.outcome_possible (other.signature path) desk).trans
      (by rw [(hagrees path hmay).signature hreply])
  | lookUp key signature => exact h
  | remember key signature stats =>
    have hstore : outcome (Session.answer (other.host depth) (.remember key signature stats)) desk =
        (.ok ⟨⟩, desk.withCache (desk.session.cache.map (·.store key signature stats other.time))) :=
      rfl
    rw [hstore, htime]
    exact h
  | note record => exact h

theorem outcome_atWork_of_agrees {α : Type} (htime : other.time = moment.time)
    (hagrees : ∀ script ∈ scripts, moment.Agrees other script) {job : Job α}
    (hmeets : job.Meets (.about scripts) (fun _ _ => True) ()) {a : α}
    (h : outcome (moment.atWork depth job) desk = (.ok a, left)) :
    outcome (other.atWork depth job) desk = (.ok a, left) := by
  induction job generalizing desk with
  | done b => exact h
  | ask request next ih =>
    obtain ⟨reply, mid, hanswer, hrest⟩ := exists_of_outcome_bind_ok h
    have hsame := outcome_answer_of_agrees htime hagrees hmeets.1 hanswer
    exact (outcome_bind_ok hsame _).trans (ih reply (hmeets.2 reply trivial) hrest)

/-- The same tree is built where a walk finds the same scripts and all are as they are. -/
theorem outcome_buildTree_of_agrees {options : WalkOptions} {withCache : Bool} {root : Path}
    {listings : List Listing} (hwalk : moment.eval (walk options root) = .ok listings)
    (hother : other.eval (walk options root) = .ok listings) (htime : other.time = moment.time)
    (hagrees : ∀ script ∈ scriptsOf listings, moment.Agrees other script) {tree : Node}
    (h : outcome (moment.atWork depth (buildTree options withCache root)) desk = (.ok tree, left)) :
    outcome (other.atWork depth (buildTree options withCache root)) desk = (.ok tree, left) := by
  have hwalked : outcome (moment.atWork depth (walk options root)) desk = (.ok listings, desk) := by
    rw [steady_walk, hwalk]
  have hagain : outcome (other.atWork depth (walk options root)) desk = (.ok listings, desk) := by
    rw [steady_walk, hother]
  rw [buildTree, atWork_bind, outcome_bind_ok hwalked] at h
  rw [buildTree, atWork_bind, outcome_bind_ok hagain]
  have hmeets : Job.Meets (.about (scriptsOf listings)) (fun _ _ => True) () (do
      let found ← Aggregation.analyze withCache listings
      return (Aggregation.root? root found).getD (Node.ofDirectory root [])) :=
    (Job.meets_about_analyze withCache mem_scriptsOf).bind fun _ _ _ => trivial
  exact outcome_atWork_of_agrees htime hagrees hmeets h

end Moment

/-! ## Refreshes that return -/

namespace Session

variable {moment other : Moment} {depth : Nat} {desk opened mid left : Desk} {tree : Node}
  {withCache : Bool} {result : Option Snapshot}

/-- What a refresh does from the beginning to its end. -/
structure Returns (moment : Moment) (depth : Nat) (desk : Desk) (result : Option Snapshot)
    (left : Desk) : Prop where
  isDirectory : moment.isDirectory desk.session.root = .ok true
  steps : ∃ withCache opened tree mid,
    outcome (openCache (moment.host depth)) { desk with session := desk.session.begin.2 } =
      (.ok withCache, opened) ∧
    outcome (moment.atWork depth (buildTree desk.session.options withCache desk.session.root)) opened =
      (.ok tree, mid) ∧
    outcome (conclude (moment.host depth) (desk.session.generation + 1) tree) mid = (.ok result, left)

theorem returns_iff : outcome (refresh (moment.host depth)) desk = (.ok result, left) ↔
    Returns moment depth desk result left := by
  constructor
  · intro h
    have hdirectory : moment.isDirectory desk.session.root = .ok true := by
      by_contra hdirectory
      obtain ⟨e, hrefresh⟩ := outcome_refresh_of_not_isDirectory depth hdirectory
      rw [hrefresh] at h
      cases h
    refine ⟨hdirectory, ?_⟩
    cases hopen : outcome (openCache (moment.host depth))
        { desk with session := desk.session.begin.2 } with
    | mk found opened =>
      cases found with
      | error failure =>
        rw [outcome_refresh_of_error hdirectory hopen] at h
        cases h
      | ok withCache =>
        rw [outcome_refresh_of_openCache hdirectory hopen] at h
        obtain ⟨tree, mid, htree, hconclude⟩ := exists_of_outcome_bind_ok h
        exact ⟨withCache, opened, tree, mid, rfl, htree, hconclude⟩
  · rintro ⟨hdirectory, withCache, opened, tree, mid, hopen, htree, hconclude⟩
    rw [outcome_refresh_of_openCache hdirectory hopen, outcome_bind_ok htree]
    exact hconclude

/-- At a moment that agrees about the workspace, a refresh that returns does the same. -/
theorem outcome_refresh_of_agrees {listings : List Listing}
    (h : outcome (refresh (moment.host depth)) desk = (.ok result, left))
    (hdirectory : other.isDirectory desk.session.root = .ok true)
    (hwalk : moment.eval (walk desk.session.options desk.session.root) = .ok listings)
    (hother : other.eval (walk desk.session.options desk.session.root) = .ok listings)
    (htime : other.time = moment.time)
    (hagrees : ∀ script ∈ Moment.scriptsOf listings, moment.Agrees other script) :
    outcome (refresh (other.host depth)) desk = (.ok result, left) := by
  obtain ⟨-, withCache, opened, tree, mid, hopen, htree, hconclude⟩ := returns_iff.1 h
  have hsame := Moment.outcome_buildTree_of_agrees hwalk hother htime hagrees htree
  exact returns_iff.2 ⟨hdirectory, withCache, opened, tree, mid, hopen, hsame, hconclude⟩

/-! ## What a refresh returns -/

variable {snapshot : Snapshot}

/-- A refresh returns what its analysis has come to. -/
theorem tree_eq_of_conclude {generation : Nat}
    (h : outcome (conclude (moment.host depth) generation tree) desk = (.ok (some snapshot), left)) :
    snapshot.tree = tree := by
  rw [conclude, outcome_bind_ok (Desk.outcome_get desk)] at h
  dsimp only at h
  cases hpublish : desk.session.publish generation tree with
  | mk found session =>
    rw [hpublish, outcome_bind_ok (Desk.outcome_set session desk)] at h
    cases found with
    | none => cases h
    | some found =>
      have hfound : (desk.session.publish generation tree).1 = some found := by rw [hpublish]
      obtain ⟨_, _, -, h⟩ := exists_of_outcome_bind_ok h
      obtain ⟨_, _, -, h⟩ := exists_of_outcome_bind_ok h
      obtain rfl : found = snapshot := Option.some_inj.1 (Except.ok.inj (congrArg Prod.fst h))
      rw [publish_eq_some hfound]

theorem publishes_of_refresh (henabled : desk.session.cacheEnabled = true)
    (h : outcome (refresh (moment.host depth)) desk = (.ok (some snapshot), left)) :
    Publishes desk.session snapshot.tree (outcome (refresh (moment.host depth)) desk) := by
  obtain ⟨hdirectory, withCache, opened, tree, mid, hopen, htree, hconclude⟩ := returns_iff.1 h
  obtain rfl := tree_eq_of_conclude hconclude
  cases hopened : desk.opened? depth with
  | none =>
    obtain ⟨failure, hfailure⟩ := @exists_failure_of_opened? moment depth
      { desk with session := desk.session.begin.2 } henabled hopened
    rw [hfailure] at hopen
    cases hopen
  | some before =>
    rw [outcome_openCache_begin henabled hopened] at hopen
    cases hopen
    have hpublishes := @publishes_refresh moment depth (desk.withCache (some before)) mid before
      hdirectory henabled rfl snapshot.tree htree
    rw [← outcome_refresh_withCache henabled hopened hdirectory] at hpublishes
    exact ⟨hpublishes.isOf, hpublishes.result⟩

/-- A session that does without a cache returns the tree of the workspace. -/
theorem eval_buildTree_of_refresh (hdisabled : desk.session.cacheEnabled = false)
    (h : outcome (refresh (moment.host depth)) desk = (.ok (some snapshot), left)) :
    moment.eval (buildTree desk.session.options false desk.session.root) = .ok snapshot.tree := by
  obtain ⟨-, withCache, opened, tree, mid, hopen, htree, hconclude⟩ := returns_iff.1 h
  obtain rfl := tree_eq_of_conclude hconclude
  rw [@outcome_openCache_of_not_enabled depth moment
    { desk with session := desk.session.begin.2 } hdisabled] at hopen
  cases hopen
  rw [Moment.steady_buildTree] at htree
  exact (Prod.mk.inj htree).1

/-! ## What a refresh leaves as it is -/

section Kept

variable {I : Desk → Prop}
  (hcache : ∀ (f : Cache → Cache) desk, I desk → I { desk with session := mapCache f desk.session })
  (hwrite : ∀ path text desk, I desk →
    I { desk with disk := (outcome (Disk.writeText path text) desk.disk).2 })
include hcache hwrite

theorem keeps_persistCache_of (tree : Node) : Keeps I (persistCache (moment.host depth) tree) := by
  have hmap (f : Cache → Cache) : Keeps I (modifyThe Session (mapCache f) : Desk.Act PUnit) :=
    hcache f
  refine (hmap _).bind fun _ => keeps_getThe_bind fun desk hdesk => ?_
  split
  next => exact hdesk
  next path text _ =>
    have hchange : Keeps I ((moment.host depth).writeCache path text) := hwrite path text
    refine hchange.bind (fun written => ?_) desk hdesk
    split
    · exact hmap _
    · split
      · exact fun _ h => h
      · exact keeps_throw _

theorem keeps_conclude_of (hpublish : ∀ generation tree desk, I desk →
      I { desk with session := (desk.session.publish generation tree).2 })
    (generation : Nat) (tree : Node) : Keeps I (conclude (moment.host depth) generation tree) := by
  intro desk hdesk
  have hafter := hpublish generation tree desk hdesk
  rw [conclude, outcome_bind_ok (Desk.outcome_get desk)]
  dsimp only
  generalize desk.session.publish generation tree = published at hafter ⊢
  obtain ⟨snapshot, session⟩ := published
  rw [outcome_bind_ok (Desk.outcome_set session desk)]
  cases snapshot with
  | none => exact hafter
  | some snapshot =>
    refine ((keeps_persistCache_of hcache hwrite tree).bind fun _ => ?_) _ hafter
    exact (keeps_noteTotals snapshot.stats).bind fun _ => keeps_pure _

/-- What holds when the analysis is over holds after a refresh that returns. -/
theorem Returns.keeps (h : Returns moment depth desk result left)
    (hpublish : ∀ generation tree desk, I desk →
      I { desk with session := (desk.session.publish generation tree).2 })
    (hdesk : ∀ cache, I ⟨{ desk.session.begin.2 with cache }, desk.disk⟩) : I left := by
  obtain ⟨-, withCache, opened, tree, mid, hopen, htree, hconclude⟩ := h
  have hopened := remembers_openCache moment depth { desk with session := desk.session.begin.2 }
  rw [hopen] at hopened
  have hmid := Moment.remembers_atWork moment depth
    (buildTree desk.session.options withCache desk.session.root) opened
  rw [htree] at hmid
  obtain ⟨cache, hcached⟩ := hopened.isOf
  obtain ⟨later, hlater⟩ := hmid.isOf
  have hbefore : I mid := by
    have hmid : mid = ⟨{ desk.session.begin.2 with cache := later }, desk.disk⟩ := by
      obtain ⟨session, disk⟩ := mid
      obtain rfl : session = _ := hlater
      obtain rfl : disk = _ := hmid.disk_eq.trans hopened.disk_eq
      rw [hcached]
    exact hmid ▸ hdesk later
  have hafter := @keeps_conclude_of moment depth I hcache hwrite hpublish
    (desk.session.generation + 1) tree mid hbefore
  rwa [hconclude] at hafter

end Kept

theorem publish_configuredLike {session other : Session} (h : session.ConfiguredLike other)
    (generation : Nat) (tree : Node) : (session.publish generation tree).2.ConfiguredLike other := by
  unfold publish
  split <;> exact ⟨h.root_eq, h.settings_eq, h.extraExcludes_eq, h.useCache_eq⟩

/-- A refresh that returns leaves the session with its configuration. -/
theorem Returns.configuredLike (h : Returns moment depth desk result left) :
    left.session.ConfiguredLike desk.session :=
  @Returns.keeps moment depth desk left result (fun left => left.session.ConfiguredLike desk.session)
    (fun _ _ h => ⟨h.root_eq, h.settings_eq, h.extraExcludes_eq, h.useCache_eq⟩) (fun _ _ _ h => h) h
    (fun generation tree _ h => publish_configuredLike h generation tree)
    fun _ => ⟨rfl, rfl, rfl, rfl⟩

/-- It has done nothing to the disk but to write the file of its cache. -/
theorem Returns.disk {J : Disk → Prop} (hwrite : ∀ path text, Keeps J (Disk.writeText path text))
    (h : Returns moment depth desk result left) (hdisk : J desk.disk) : J left.disk :=
  @Returns.keeps moment depth desk left result (fun left => J left.disk) (fun _ _ h => h)
    (fun path text desk => hwrite path text desk.disk) h (fun _ _ _ h => h) fun _ => hdisk

/-! ## What is written by a refresh -/

/-- The disk of the second desk is that of the first, but that the cache may have been written to its
file. -/
def Writes (cache : Option Cache) (desk left : Desk) : Prop :=
  left.disk = desk.disk ∨ ∃ path text, cache.bind Cache.path = some path ∧
    left.disk = (outcome (Disk.writeText path text) desk.disk).2

theorem writes_persistCache (moment : Moment) (depth : Nat) (tree : Node) (desk : Desk) :
    Writes desk.session.cache desk (outcome (persistCache (moment.host depth) tree) desk).2 := by
  have hprune : outcome (modifyThe Session (mapCache (·.prune tree.scriptPaths)) : Desk.Act PUnit)
      desk = (.ok ⟨⟩, { desk with session := mapCache (·.prune tree.scriptPaths) desk.session }) :=
    rfl
  rw [persistCache, outcome_bind_ok hprune, outcome_bind_ok (Desk.outcome_get _)]
  dsimp only
  split
  next => exact .inl rfl
  next path text hdue =>
    obtain ⟨pruned, hpruned, hdue⟩ := Option.bind_eq_some_iff.1 hdue
    obtain ⟨cache, hcache, rfl⟩ := Option.map_eq_some_iff.1 hpruned
    obtain ⟨-, hpath, -⟩ := Cache.due?_eq_some hdue
    rw [Cache.path_prune] at hpath
    refine .inr ⟨path, text, by rw [hcache, Option.bind_some, hpath], ?_⟩
    rw [outcome_bind_ok (outcome_writeCache moment depth path text _)]
    dsimp only
    generalize outcome (Disk.writeText path text) desk.disk = written
    obtain ⟨_ | _, disk⟩ := written
    · dsimp only
      split <;> rfl
    · rfl

theorem writes_conclude (moment : Moment) (depth : Nat) (generation : Nat) (tree : Node) (desk : Desk) :
    Writes desk.session.cache desk (outcome (conclude (moment.host depth) generation tree) desk).2 := by
  have hcache : (desk.session.publish generation tree).2.cache = desk.session.cache := by
    unfold publish
    split <;> rfl
  rw [conclude, outcome_bind_ok (Desk.outcome_get desk)]
  dsimp only
  generalize desk.session.publish generation tree = published at hcache ⊢
  obtain ⟨snapshot, session⟩ := published
  rw [outcome_bind_ok (Desk.outcome_set session desk)]
  cases snapshot with
  | none => exact .inl rfl
  | some snapshot =>
    have hpersist := writes_persistCache moment depth tree ⟨session, desk.disk⟩
    rw [hcache] at hpersist
    dsimp only
    rw [outcome_bind]
    generalize outcome (persistCache (moment.host depth) tree) ⟨session, desk.disk⟩ = ended at hpersist ⊢
    obtain ⟨_ | _, stored⟩ := ended
    · exact hpersist
    · dsimp only
      rw [outcome_bind_ok (outcome_noteTotals moment depth snapshot.stats stored)]
      exact hpersist

theorem mem_opened?_of_openCache (hopen : outcome (openCache (moment.host depth))
      { desk with session := desk.session.begin.2 } = (.ok withCache, opened)) {cache : Cache}
    (hcache : opened.session.cache = some cache) : desk.opened? depth = some cache := by
  cases henabled : desk.session.cacheEnabled with
  | false =>
    rw [@outcome_openCache_of_not_enabled depth moment
      { desk with session := desk.session.begin.2 } henabled] at hopen
    obtain rfl := (Prod.mk.inj hopen).2
    have hcache : desk.session.cache = some cache := hcache
    rw [Desk.opened?, hcache, Option.some_or]
  | true =>
    cases hopened : desk.opened? depth with
    | none =>
      obtain ⟨failure, hfailure⟩ := @exists_failure_of_opened? moment depth
        { desk with session := desk.session.begin.2 } henabled hopened
      rw [hfailure] at hopen
      cases hopen
    | some before =>
      rw [outcome_openCache_begin henabled hopened] at hopen
      obtain rfl := (Prod.mk.inj hopen).2
      exact hcache

/-- A refresh writes no file but that of the cache with which it has begun. -/
theorem writes_of_refresh (h : outcome (refresh (moment.host depth)) desk = (.ok result, left)) :
    Writes (desk.opened? depth) desk left := by
  obtain ⟨-, withCache, opened, tree, mid, hopen, htree, hconclude⟩ := returns_iff.1 h
  have hbegun : AtHand (fun cache => cache.path = (desk.opened? depth).bind Cache.path) opened := by
    intro cache hcache
    rw [mem_opened?_of_openCache hopen hcache, Option.bind_some]
  have hanalysed := @keeps_atHand_atWork moment depth
    (fun cache => cache.path = (desk.opened? depth).bind Cache.path) (fun _ _ _ _ _ h => h) _
    (buildTree desk.session.options withCache desk.session.root) _ hbegun
  have hdisk := (remembers_openCache moment depth { desk with session := desk.session.begin.2 }).disk_eq
  have hdisk' := (Moment.remembers_atWork moment depth
    (buildTree desk.session.options withCache desk.session.root) opened).disk_eq
  rw [hopen] at hdisk
  rw [htree] at hanalysed hdisk'
  have hwrites := writes_conclude moment depth (desk.session.generation + 1) tree mid
  rw [hconclude] at hwrites
  obtain hleft | ⟨path, text, hpath, hleft⟩ := hwrites
  · exact .inl (hleft.trans (hdisk'.trans hdisk))
  · obtain ⟨cache, hcache, hpath⟩ := Option.bind_eq_some_iff.1 hpath
    refine .inr ⟨path, text, (hanalysed cache hcache).symm.trans hpath, ?_⟩
    rw [hleft, hdisk', hdisk]

end Session

end ScriptStats
