import ScriptStats.Proofs.Session.Adding

/-!
# Analyses side by side

The scripts of one directory may be analysed side by side, by as many workers as there are. Their
requests are then answered in any order, and every one sees what the others have remembered before.
The tree and what the cache holds in the end are the same as when one script is analysed after the
other.
-/

namespace ScriptStats

open Program

namespace Moment

variable (moment : Moment) (depth : Nat)

/-! ## Turns -/

/-- Jobs at one desk take turns, in any order and each at a time of its own, until all have come to
their results. -/
inductive Together {α : Type} : List (Job α) → Desk → List α → Desk → Prop where
  | done (results : List α) (desk : Desk) : Together (results.map .done) desk results desk
  | turn (before : List (Job α)) {after : List (Job α)} {request : Request}
      {next : request.Reply → Job α} {time : String} {reply : request.Reply}
      {desk mid left : Desk} {results : List α} :
      outcome (Session.answer ({ moment with time }.host depth) request) desk = (.ok reply, mid) →
      Together (before ++ next reply :: after) mid results left →
      Together (before ++ .ask request next :: after) desk results left

/-- The scripts of each directory are analysed side by side, the directories one after the other. -/
inductive AnalysesTogether (withCache : Bool) : List Listing → Desk → List Findings → Desk → Prop
    where
  | nil (desk : Desk) : AnalysesTogether withCache [] desk [] desk
  | cons {listing : Listing} {more : List Listing} {found : List Findings} {stats : List FileStats}
      {desk mid left : Desk} :
      AnalysesTogether withCache more desk found mid →
      moment.Together depth (listing.scripts.map fun entry => ScriptFile.stats withCache entry.path)
        mid stats left →
      AnalysesTogether withCache (listing :: more) desk (⟨listing, stats⟩ :: found) left

/-- The tree below `root` is built, as `buildTree` does, but with the scripts of each directory
analysed side by side. -/
structure BuildsTogether (options : WalkOptions) (withCache : Bool) (root : Path) (desk : Desk)
    (tree : Node) (left : Desk) : Prop where
  runs : ∃ listings walked found,
    outcome (moment.atWork depth (walk options root)) desk = (.ok listings, walked) ∧
      moment.AnalysesTogether depth withCache listings walked found left ∧
        tree = (Aggregation.root? root found).getD (Node.ofDirectory root [])

variable {moment depth} {α β : Type}

/-! ### One after the other -/

theorem together_cons_done (a : α) {jobs : List (Job α)} {desk left : Desk} {results : List α}
    (h : moment.Together depth jobs desk results left) :
    moment.Together depth (.done a :: jobs) desk (a :: results) left := by
  induction h with
  | done results desk => exact .done (a :: results) desk
  | turn before hanswer _ ih => exact .turn (.done a :: before) hanswer ih

/-- The first job may have all its turns before the others. -/
theorem together_cons {job : Job α} {a : α} {jobs : List (Job α)} {desk mid left : Desk}
    {results : List α} (hjob : outcome (moment.atWork depth job) desk = (.ok a, mid))
    (h : moment.Together depth jobs mid results left) :
    moment.Together depth (job :: jobs) desk (a :: results) left := by
  induction job generalizing desk with
  | done b =>
    cases hjob
    exact together_cons_done a h
  | ask request next ih =>
    obtain ⟨reply, first, hanswer, hrest⟩ := exists_of_outcome_bind_ok hjob
    exact .turn [] hanswer (ih reply hrest)

theorem together_mapM {items : List α} {job : α → Job β} {results : List β} {desk left : Desk}
    (h : outcome (moment.atWork depth (items.mapM job)) desk = (.ok results, left)) :
    moment.Together depth (items.map job) desk results left := by
  induction items generalizing desk results with
  | nil =>
    cases h
    exact .done [] _
  | cons item items ih =>
    rw [List.mapM_cons, atWork_bind] at h
    obtain ⟨b, mid, hjob, h⟩ := exists_of_outcome_bind_ok h
    rw [atWork_bind] at h
    obtain ⟨bs, last, hjobs, h⟩ := exists_of_outcome_bind_ok h
    cases h
    exact together_cons hjob (ih hjobs)

theorem analysesTogether_analyze {withCache : Bool} {listings : List Listing}
    {found : List Findings} {desk left : Desk}
    (h : outcome (moment.atWork depth (Aggregation.analyze withCache listings)) desk =
      (.ok found, left)) : moment.AnalysesTogether depth withCache listings desk found left := by
  induction listings generalizing found left with
  | nil =>
    cases h
    exact .nil desk
  | cons listing listings ih =>
    rw [Aggregation.analyze, atWork_bind] at h
    obtain ⟨others, mid, hothers, h⟩ := exists_of_outcome_bind_ok h
    rw [atWork_bind] at h
    obtain ⟨stats, last, hstats, h⟩ := exists_of_outcome_bind_ok h
    cases h
    exact .cons (ih hothers) (together_mapM hstats)

/-- Analysing one script after the other is one of the ways. -/
theorem buildsTogether_buildTree {options : WalkOptions} {withCache : Bool} {root : Path}
    {desk left : Desk} {tree : Node}
    (h : outcome (moment.atWork depth (buildTree options withCache root)) desk = (.ok tree, left)) :
    moment.BuildsTogether depth options withCache root desk tree left := by
  rw [buildTree, atWork_bind] at h
  obtain ⟨listings, walked, hwalk, h⟩ := exists_of_outcome_bind_ok h
  rw [atWork_bind] at h
  obtain ⟨found, last, hfound, h⟩ := exists_of_outcome_bind_ok h
  cases h
  exact ⟨listings, walked, found, hwalk, analysesTogether_analyze hfound, rfl⟩

/-! ## What is left in the end -/

section Analysed

variable {memory : Option Cache} {scripts : List Path}

/-- An analysis that has come so far. -/
def UnderWay (moment : Moment) (memory : Option Cache) (scripts : List Path) (desk : Desk)
    (script : Path) (job : Job FileStats) : Prop :=
  ∃ known,
    Job.Meets (.adding moment memory scripts) (Job.Analysed moment memory script) known job ∧
      ∀ other : Path, known other.text → desk.Holds moment memory other

/-- An analysis that is over: the cache holds what it has added, and its result is what the cache
has told at first or else what was read. -/
def Settled (moment : Moment) (memory : Option Cache) (desk : Desk) (script : Path)
    (stats : FileStats) : Prop :=
  desk.Holds moment memory script ∧ stats = moment.toldStats memory script

theorem settled_of_underWay_done {desk : Desk} {script : Path} {stats : FileStats}
    (h : moment.UnderWay memory scripts desk script (.done stats)) :
    moment.Settled memory desk script stats := by
  obtain ⟨known, ⟨hstats, hadded⟩, hholds⟩ := h
  exact ⟨fun text added hadds => hholds script (hadded text added hadds) text added hadds, hstats⟩

/-- Whatever turns the analyses of some scripts take, all come to what they would come to alone. -/
theorem Together.settled (hbyText : moment.ByText) {jobs : List (Job FileStats)}
    {desk left : Desk} {results : List FileStats}
    (h : moment.Together depth jobs desk results left)
    (hgrown : desk.Grown moment memory scripts) {paths : List Path}
    (hjobs : List.Forall₂ (moment.UnderWay memory scripts desk) paths jobs) :
    left.Grown moment memory scripts ∧
      (∀ script, desk.Holds moment memory script → left.Holds moment memory script) ∧
        List.Forall₂ (moment.Settled memory left) paths results := by
  induction h with
  | done results desk =>
    refine ⟨hgrown, fun _ hholds => hholds, ?_⟩
    exact (List.forall₂_map_right_iff.1 hjobs).imp fun _ _ => settled_of_underWay_done
  | @turn before after request next _ reply desk mid left results hanswer _ ih =>
    have hbefore := List.forall₂_take_append _ _ _ hjobs
    have hafter := List.forall₂_drop_append _ _ _ hjobs
    rw [List.forall₂_cons_right_iff] at hafter
    obtain ⟨script, others, ⟨known, ⟨hmay, hnext⟩, hknown⟩, hothers, hsplit⟩ := hafter
    have hanswered := hgrown.answered hbyText hmay hanswer
    have hkept {path : Path} {job : Job FileStats}
        (hjob : moment.UnderWay memory scripts desk path job) :
        moment.UnderWay memory scripts mid path job := by
      obtain ⟨known, hmeets, hholds⟩ := hjob
      exact ⟨known, hmeets, fun other hother => hanswered.holds other (hholds other hother)⟩
    have hturn : moment.UnderWay memory scripts mid script (next reply) :=
      ⟨_, hnext reply hanswered.expects, hanswered.learns hknown⟩
    have hmid : List.Forall₂ (moment.UnderWay memory scripts mid) paths
        (before ++ next reply :: after) := by
      rw [← List.take_append_drop before.length paths, hsplit]
      exact List.rel_append (hbefore.imp fun _ _ => hkept)
        (.cons hturn (hothers.imp fun _ _ => hkept))
    obtain ⟨hleft, hholds, hsettled⟩ := ih hanswered.grown hmid
    exact ⟨hleft, fun path hpath => hholds path (hanswered.holds path hpath), hsettled⟩

/-- A listing together with what the analyses of its scripts come to. -/
def toldFindings (moment : Moment) (memory : Option Cache) (listing : Listing) : Findings :=
  ⟨listing, listing.scripts.map fun entry => moment.toldStats memory entry.path⟩

theorem AnalysesTogether.settled (hbyText : moment.ByText) {listings : List Listing}
    {desk left : Desk} {found : List Findings}
    (h : moment.AnalysesTogether depth memory.isSome listings desk found left)
    (hgrown : desk.Grown moment memory scripts)
    (hscripts : ∀ listing ∈ listings, ∀ entry ∈ listing.scripts, entry.path ∈ scripts) :
    left.Grown moment memory scripts ∧
      found = listings.map (moment.toldFindings memory) ∧
        ∀ listing ∈ listings, ∀ entry ∈ listing.scripts, left.Holds moment memory entry.path := by
  induction h with
  | nil desk => exact ⟨hgrown, rfl, fun _ hlisting => absurd hlisting List.not_mem_nil⟩
  | @cons listing more found stats desk mid left _ htogether ih =>
    rw [List.forall_mem_cons] at hscripts
    obtain ⟨hmid, rfl, hmore⟩ := ih hgrown hscripts.2
    have hbegun : List.Forall₂ (moment.UnderWay memory scripts mid)
        (listing.scripts.map Entry.path)
        (listing.scripts.map fun entry => ScriptFile.stats memory.isSome entry.path) := by
      rw [List.forall₂_map_left_iff, List.forall₂_map_right_iff, List.forall₂_same]
      exact fun entry hentry =>
        ⟨fun _ => False, Job.meets_adding_stats hbyText (hscripts.1 entry hentry) _,
          fun _ hfalse => hfalse.elim⟩
    obtain ⟨hleft, hkept, hsettled⟩ := htogether.settled hbyText hmid hbegun
    have hresults := (List.forall₂_and_left _ _).1 hsettled
    rw [List.forall_mem_map, List.forall₂_map_left_iff] at hresults
    obtain ⟨hholds, hstats⟩ := hresults
    have hstats : stats = listing.scripts.map fun entry => moment.toldStats memory entry.path := by
      rw [← List.forall₂_eq_eq_eq, List.forall₂_map_right_iff]
      exact hstats.flip
    refine ⟨hleft, by rw [hstats]; rfl, List.forall_mem_cons.2 ⟨hholds, fun other hother => ?_⟩⟩
    exact fun entry hentry => hkept _ (hmore other hother entry hentry)

/-- The paths of the scripts of some listings. -/
def scriptsOf (listings : List Listing) : List Path :=
  listings.flatMap fun listing => listing.scripts.map Entry.path

theorem mem_scriptsOf {listings : List Listing} :
    ∀ listing ∈ listings, ∀ entry ∈ listing.scripts, entry.path ∈ scriptsOf listings :=
  fun listing hlisting _ hentry =>
    List.mem_flatMap.2 ⟨listing, hlisting, List.mem_map_of_mem hentry⟩

/-- What is known of a workspace whose scripts have been analysed, in whatever order. -/
structure Analysed (moment : Moment) (options : WalkOptions) (root : Path)
    (memory : Option Cache) (tree : Node) (left : Desk) : Prop where
  exists_listings : ∃ listings, moment.eval (walk options root) = .ok listings ∧
    tree = (Aggregation.root? root (listings.map (moment.toldFindings memory))).getD
      (Node.ofDirectory root []) ∧
    left.Grown moment memory (scriptsOf listings) ∧
    ∀ script ∈ scriptsOf listings, left.Holds moment memory script

theorem BuildsTogether.analysed (hbyText : moment.ByText) {options : WalkOptions} {root : Path}
    {desk left : Desk} {tree : Node}
    (h : moment.BuildsTogether depth options desk.session.cache.isSome root desk tree left) :
    moment.Analysed options root desk.session.cache tree left := by
  obtain ⟨listings, walked, found, hwalk, hfound, rfl⟩ := h.runs
  rw [steady_walk] at hwalk
  obtain ⟨hlistings, rfl⟩ := Prod.mk.inj hwalk
  obtain ⟨hgrown, rfl, hholds⟩ :=
    hfound.settled hbyText (Desk.grown_refl moment _ _) mem_scriptsOf
  refine ⟨listings, hlistings, rfl, hgrown, fun script hscript => ?_⟩
  obtain ⟨listing, hlisting, hscript⟩ := List.mem_flatMap.1 hscript
  obtain ⟨entry, hentry, rfl⟩ := List.mem_map.1 hscript
  exact hholds listing hlisting entry hentry

theorem Analysed.eq {options : WalkOptions} {root : Path} {memory : Option Cache}
    {tree others : Node} {left right : Desk}
    (h : moment.Analysed options root memory tree left)
    (h' : moment.Analysed options root memory others right) :
    others = tree ∧
      ∀ key, Cache.held? right.session.cache key = Cache.held? left.session.cache key := by
  obtain ⟨listings, hwalk, rfl, hgrown, hholds⟩ := h
  obtain ⟨again, hagain, rfl, hgrown', hholds'⟩ := h'
  obtain rfl := Except.ok.inj (hwalk.symm.trans hagain)
  exact ⟨rfl, hgrown.held?_eq hholds hgrown' hholds'⟩

/-- On files that nobody writes, the tree that is built from scripts analysed side by side is the
tree that is built from scripts analysed one after the other, and the caches hold the same under
every key. -/
theorem buildsTogether_eq (hpossible : moment.Possible) (hbyText : moment.ByText) (depth : Nat)
    (options : WalkOptions) (root : Path) (desk : Desk) :
    ∃ tree left,
      outcome (moment.atWork depth (buildTree options desk.session.cache.isSome root)) desk =
        (.ok tree, left) ∧
      moment.BuildsTogether depth options desk.session.cache.isSome root desk tree left ∧
      ∀ together last,
        moment.BuildsTogether depth options desk.session.cache.isSome root desk together last →
          together = tree ∧
          ∀ key, Cache.held? last.session.cache key = Cache.held? left.session.cache key := by
  obtain ⟨tree, left, htree⟩ :=
    hpossible.exists_atWork depth (buildTree options desk.session.cache.isSome root) desk
  have hbuilds := buildsTogether_buildTree htree
  refine ⟨tree, left, htree, hbuilds, fun together last htogether => ?_⟩
  exact (hbuilds.analysed hbyText).eq (htogether.analysed hbyText)

end Analysed

/-- The workspace `/w` with a second script, which cannot be read. -/
def busy : Moment :=
  { World.draft [64] 1 with
    list := fun _ => .ok [⟨"a.nani", ⟨.root, ["w", "a.nani"]⟩, false⟩,
      ⟨"b.nani", ⟨.root, ["w", "b.nani"]⟩, false⟩]
    read := fun path => if path.text = "/w/a.nani" then .ok [64] else .error (.refused "busy") }

theorem possible_busy : busy.Possible where
  list _ _ h := by cases h
  signature _ _ h := by cases h
  identity path := ⟨path.text, rfl⟩
  read path e h := by
    simp only [busy] at h
    split at h
    · cases h
    · cases h
      rfl

theorem byText_busy : busy.ByText := by
  intro p q htext
  refine ⟨rfl, ?_⟩
  simp only [busy, htext]

/-- One script is known to the cache, and of the other nothing can be known. -/
theorem buildsTogether_eq_busy :
    busy.Possible ∧ busy.ByText ∧ ∃ tree left,
      outcome (busy.atWork 980 (buildTree {} true ⟨.root, ["w"]⟩))
        ⟨{ World.writer with cache := some World.known }, {}⟩ = (.ok tree, left) ∧
      ∀ together last, busy.BuildsTogether 980 {} true ⟨.root, ["w"]⟩
        ⟨{ World.writer with cache := some World.known }, {}⟩ together last → together = tree := by
  obtain ⟨tree, left, htree, -, htogether⟩ := buildsTogether_eq possible_busy byText_busy 980 {}
    ⟨.root, ["w"]⟩ ⟨{ World.writer with cache := some World.known }, {}⟩
  exact ⟨possible_busy, byText_busy, tree, left, htree,
    fun together last h => (htogether together last h).1⟩

end Moment

end ScriptStats
