import ScriptStats.Proofs.Analysis.Coverage

/-!
# Walks with a bound on their depth

A walk goes deep before it goes wide, and a directory keeps the level on which it was met first. A bound
on the depth leaves out what lies below a directory at the bound, even where a shorter way leads there.
-/

namespace ScriptStats.StillFiles

/-- The same directories, found level by level. -/
def reachedIn (files : StillFiles) (excluded : List String) (root : Path) : Nat → List Path
  | 0 => [root]
  | n + 1 => (files.reachedIn excluded root n).flatMap fun directory =>
      ((files.entries directory).filter fun entry =>
        entry.isDirectory && !excluded.contains entry.name).map Entry.path

/-- How many listings lead down to a directory, each to the next. -/
inductive LiesOn (listings : List Listing) (root : Path) : Nat → Path → Prop where
  | root : LiesOn listings root 0 root
  | entry {level listing entry} : listing ∈ listings → LiesOn listings root level listing.directory →
      entry ∈ listing.directories → LiesOn listings root (level + 1) entry.path

/-- The directory lies on a level that the bound allows. -/
structure IsPlaced (options : WalkOptions) (root : Path) (listings : List Listing) (level : Nat)
    (directory : Path) : Prop where
  lies : LiesOn listings root level directory
  within : ∀ limit : Nat, options.maxDepth = some (limit : Int) → level ≤ limit

/-- The identities of the directories that a walk lists. -/
def listedIdentities (files : StillFiles) (options : WalkOptions) (root : Path) : List String :=
  (files.run (walk options root)).map fun listing => files.identity listing.directory

/-- A way of `n` names to a directory is cut off by the walk: it passes a directory that the walk has
met by a longer way, at the bound. -/
def IsCutOff (files : StillFiles) (options : WalkOptions) (root : Path) (limit n : Nat)
    (directory : Path) : Prop :=
  ∃ i < n, ∃ passed, ReachesIn files options.excluded root i passed ∧
    ReachesIn files options.excluded passed (n - i) directory ∧
    ∃ listing ∈ files.run (walk options root),
      files.identity listing.directory = files.identity passed ∧
        LiesOn (files.run (walk options root)) root limit listing.directory

/-- The scripts that are listed in a directory. -/
def scriptsIn (files : StillFiles) (options : WalkOptions) (directory : Path) : List Entry :=
  (files.entries directory).filter fun entry =>
    !entry.isDirectory && Walk.isScriptName options entry.name

variable {files other : StillFiles} {options : WalkOptions} {root directory : Path}
  {excluded : List String} {listings : List Listing} {limit n : Nat}

theorem mem_reachedIn_iff : directory ∈ files.reachedIn excluded root n ↔
    ReachesIn files excluded root n directory := by
  constructor
  · intro hmem
    induction n generalizing directory with
    | zero => exact List.mem_singleton.1 hmem ▸ .root
    | succ n ih =>
      obtain ⟨above, habove, hmem⟩ := List.mem_flatMap.1 hmem
      obtain ⟨entry, hentry, rfl⟩ := List.mem_map.1 hmem
      simp only [List.mem_filter, Bool.and_eq_true, Bool.not_eq_true',
        List.contains_eq_mem, decide_eq_false_iff_not] at hentry
      exact .entry (ih habove) hentry.1 hentry.2.1 hentry.2.2
  · intro hreaches
    induction hreaches with
    | root => exact List.mem_singleton_self _
    | entry _ hentry hkind hname ih =>
      refine List.mem_flatMap.2 ⟨_, ih, List.mem_map.2 ⟨_, List.mem_filter.2 ⟨hentry, ?_⟩, rfl⟩⟩
      simp [hkind, hname]

/-! ## Where directories lie -/

theorem tooDeep_eq_false_iff_lt (hlimit : options.maxDepth = some (limit : Int)) :
    Walk.tooDeep options n = false ↔ n < limit := by
  simp [Walk.tooDeep, hlimit]

theorem isPlaced_root : IsPlaced options root listings 0 root where
  lies := .root
  within _ _ := Nat.zero_le _

/-- What becomes due below a directory is placed one level below it. -/
theorem IsPlaced.below {level : Nat} {met met' : Walk.Identities} {kept : List Entry}
    (h : IsPlaced options root listings level directory)
    (hkeeps : Keeps files options level met (files.entries directory) kept met')
    (hlisting : ⟨directory, kept⟩ ∈ listings) :
    ∀ due ∈ Listing.below ⟨directory, kept⟩ level, IsPlaced options root listings due.2 due.1 := by
  intro due hdue
  obtain ⟨entry, hentry, rfl⟩ := List.mem_map.1 hdue
  obtain ⟨hkept, hkind⟩ := List.mem_filter.1 hentry
  refine ⟨.entry hlisting h.lies hentry, fun limit hlimit => ?_⟩
  exact (tooDeep_eq_false_iff_lt hlimit).1 (hkeeps.admitted hkept hkind).2

/-- As many names lead to a directory as the level has on which it lies. -/
theorem LiesOn.reachesIn {level : Nat}
    (h : LiesOn (files.run (walk options root)) root level directory) :
    ReachesIn files options.excluded root level directory := by
  induction h with
  | root => exact .root
  | entry hlisting _ hentry ih =>
    obtain ⟨hkept, hkind⟩ := List.mem_filter.1 hentry
    obtain ⟨depth, met, met', hkeeps⟩ := (files.enters_walk options root).keeps hlisting
    exact .entry ih (hkeeps.sublist.subset hkept) hkind (hkeeps.admitted hkept hkind).1

/-- Every directory that is listed has its place, and where the bound allows it, all that may be entered
from there is listed as well. -/
theorem exists_isPlaced (files : StillFiles) (options : WalkOptions) (root : Path) {listing : Listing}
    (hlisting : listing ∈ files.run (walk options root)) :
    ∃ level, IsPlaced options root (files.run (walk options root)) level listing.directory ∧
      (Walk.tooDeep options level = false → ∀ entry ∈ files.entries listing.directory,
        entry.isDirectory = true → entry.name ∉ options.excluded →
        files.identity entry.path ∈ files.listedIdentities options root) := by
  obtain ⟨level, hplaced, hcovers⟩ := (files.enters_walk options root).exists_depth
    (IsPlaced options root (files.run (walk options root))) (by simpa using isPlaced_root)
    (fun h hkeeps hmem => h.below hkeeps hmem) hlisting
  refine ⟨level, hplaced, fun hdeep entry hentry hkind hexcluded => ?_⟩
  refine (hcovers hdeep entry hentry hkind hexcluded).elim (fun hmet => ?_) id
  simp only [Std.ExtTreeSet.mem_insert, Std.compare_eq_iff_eq, Std.ExtTreeSet.not_mem_empty,
    or_false] at hmet
  exact hmet ▸ files.identity_root_mem options root

/-! ## What lies within the bound -/

/-- What can be reached within the bound is listed, or else every way there is cut off. -/
theorem listed_or_isCutOff (hlimit : options.maxDepth = some (limit : Int))
    (hlists : files.ListsByIdentity) (hn : n ≤ limit)
    (hreaches : ReachesIn files options.excluded root n directory) :
    files.identity directory ∈ files.listedIdentities options root ∨
      files.IsCutOff options root limit n directory := by
  induction hreaches with
  | root => exact .inl (files.identity_root_mem options root)
  | @entry n directory entry hreaches hentry hkind hexcluded ih =>
    rcases ih (Nat.le_of_succ_le hn) with hlisted | ⟨i, hi, passed, hpassed, hleft, hat⟩
    · obtain ⟨listing, hlisting, heq⟩ := List.mem_map.1 hlisted
      obtain ⟨level, hplaced, hcovers⟩ := exists_isPlaced files options root hlisting
      rcases Nat.lt_or_ge level limit with hlevel | hlevel
      · left
        obtain ⟨entry', hentry', hkind', hname, hidentity⟩ :=
          hlists.exists_entry heq.symm hentry hkind
        rw [← hidentity]
        exact hcovers ((tooDeep_eq_false_iff_lt hlimit).2 hlevel) entry' hentry' hkind' (hname ▸ hexcluded)
      · right
        obtain rfl := Nat.le_antisymm hlevel (hplaced.within limit hlimit)
        refine ⟨n, Nat.lt_succ_self n, directory, hreaches, ?_, listing, hlisting, heq, hplaced.lies⟩
        rw [Nat.add_sub_cancel_left]
        exact .entry .root hentry hkind hexcluded
    · right
      refine ⟨i, Nat.lt_succ_of_lt hi, passed, hpassed, ?_, hat⟩
      rw [Nat.succ_sub hi.le]
      exact .entry hleft hentry hkind hexcluded

/-- A way that is cut off passes a directory to which another way has as many names as the bound
allows. -/
theorem IsCutOff.exists_longer (hn : n ≤ limit) (h : files.IsCutOff options root limit n directory) :
    ∃ i < limit, ∃ passed longer, ReachesIn files options.excluded root i passed ∧
      ReachesIn files options.excluded root limit longer ∧
        files.identity passed = files.identity longer := by
  obtain ⟨i, hi, passed, hpassed, -, listing, -, hidentity, hlies⟩ := h
  exact ⟨i, hi.trans_le hn, passed, listing.directory, hpassed, hlies.reachesIn, hidentity.symm⟩

/-- No directory that as many names lead to as the bound allows can be reached by fewer names as well. -/
def HasNoShortcuts (files : StillFiles) (excluded : List String) (root : Path) (limit : Nat) : Prop :=
  ∀ i < limit, ∀ directory other, ReachesIn files excluded root i directory →
    ReachesIn files excluded root limit other → files.identity directory ≠ files.identity other

/-- What is listed can be reached within the bound. -/
theorem exists_reachesIn_of_mem (hlimit : options.maxDepth = some (limit : Int)) {identity : String}
    (hmem : identity ∈ files.listedIdentities options root) :
    ∃ n ≤ limit, ∃ directory, ReachesIn files options.excluded root n directory ∧
      files.identity directory = identity := by
  obtain ⟨listing, hlisting, rfl⟩ := List.mem_map.1 hmem
  obtain ⟨level, hplaced, -⟩ := exists_isPlaced files options root hlisting
  exact ⟨level, hplaced.within limit hlimit, _, hplaced.lies.reachesIn, rfl⟩

/-- Without shortcuts to the bound, a walk lists what can be reached within it. -/
theorem mem_listedIdentities_iff (hlimit : options.maxDepth = some (limit : Int))
    (hlists : files.ListsByIdentity)
    (hshortcuts : files.HasNoShortcuts options.excluded root limit) {identity : String} :
    identity ∈ files.listedIdentities options root ↔
      ∃ n ≤ limit, ∃ directory, ReachesIn files options.excluded root n directory ∧
        files.identity directory = identity := by
  refine ⟨exists_reachesIn_of_mem hlimit, ?_⟩
  rintro ⟨n, hn, directory, hreaches, rfl⟩
  refine (listed_or_isCutOff hlimit hlists hn hreaches).resolve_right fun hcut => ?_
  obtain ⟨i, hi, passed, longer, hpassed, hlonger, hidentity⟩ := hcut.exists_longer hn
  exact hshortcuts i hi passed longer hpassed hlonger hidentity

/-! ## What is counted -/

theorem scriptStats_eq (files : StillFiles) (options : WalkOptions) (root : Path) :
    files.scriptStats (files.run (walk options root)) =
      (files.run (walk options root)).flatMap fun listing =>
        (files.scriptsIn options listing.directory).map fun entry => .file (files.stats entry.path) := by
  refine List.flatMap_congr fun listing hlisting => ?_
  obtain ⟨depth, met, met', hkeeps⟩ := (files.enters_walk options root).keeps hlisting
  rw [Listing.scripts, hkeeps.scripts_eq, scriptsIn]

namespace Reordered

theorem hasNoShortcuts (h : files.Reordered other)
    (hshortcuts : files.HasNoShortcuts excluded root limit) :
    other.HasNoShortcuts excluded root limit := by
  intro i hi directory directory' hreaches hreaches'
  rw [h.identity_eq]
  exact hshortcuts i hi _ _ (h.reachesIn_iff.1 hreaches) (h.reachesIn_iff.1 hreaches')

/-- Without shortcuts to the bound, the order of listings changes nothing but the order of words. -/
theorem exists_alike (h : files.Reordered other) (hlimit : options.maxDepth = some (limit : Int))
    (hlists : files.ListsByIdentity) (hreads : files.ReadsByIdentity)
    (hshortcuts : files.HasNoShortcuts options.excluded root limit) :
    ∃ total total', (files.run (buildTree options false root)).stats = .aggregate total ∧
      (other.run (buildTree options false root)).stats = .aggregate total' ∧ total.Alike total' := by
  obtain ⟨total, hstats, halike⟩ := files.buildTree_alike options root
  obtain ⟨total', hstats', halike'⟩ := other.buildTree_alike options root
  have hsame : ∀ identity, identity ∈ files.listedIdentities options root ↔
      identity ∈ other.listedIdentities options root := by
    intro identity
    rw [mem_listedIdentities_iff hlimit hlists hshortcuts, mem_listedIdentities_iff hlimit
      (h.listsByIdentity hlists) (h.hasNoShortcuts hshortcuts)]
    simp only [h.reachesIn_iff, h.identity_eq]
  have hperm := h.scriptStats_perm_of_mem_iff root hlists hreads hsame
  exact ⟨total, total', hstats, hstats',
    halike.trans ((AggregateStats.Alike.of_perm hperm).trans halike'.symm)⟩

end Reordered

/-- A walk with a bound on its depth lists no identity twice and nothing beyond the bound. It may leave
out what lies within the bound, but only where it has met a directory on the way there at the bound
before. Without shortcuts to the bound it leaves out nothing, whatever the order of listings. -/
theorem walk_within (options : WalkOptions) (root : Path) (limit : Nat)
    (hlimit : options.maxDepth = some (limit : Int)) (hlists : files.ListsByIdentity) :
    (files.listedIdentities options root).Nodup ∧
      (∀ identity ∈ files.listedIdentities options root, ∃ n ≤ limit, ∃ directory,
        ReachesIn files options.excluded root n directory ∧ files.identity directory = identity) ∧
      (∀ n ≤ limit, ∀ directory, ReachesIn files options.excluded root n directory →
        files.identity directory ∈ files.listedIdentities options root ∨
          files.IsCutOff options root limit n directory) ∧
      (∃ total, (files.run (buildTree options false root)).stats = .aggregate total ∧
        total.Alike (AggregateStats.merge ((files.run (walk options root)).flatMap fun listing =>
          (files.scriptsIn options listing.directory).map fun entry =>
            .file (files.stats entry.path)))) ∧
      (files.HasNoShortcuts options.excluded root limit →
        (∀ identity, identity ∈ files.listedIdentities options root ↔ ∃ n ≤ limit, ∃ directory,
          ReachesIn files options.excluded root n directory ∧ files.identity directory = identity) ∧
        ∀ other, files.ReadsByIdentity → files.Reordered other →
          ∃ total total', (files.run (buildTree options false root)).stats = .aggregate total ∧
            (other.run (buildTree options false root)).stats = .aggregate total' ∧
            total.Alike total') := by
  have hnodup := ((files.enters_walk options root).identities_nodup (files.isFrontier_root root)).1
  obtain ⟨total, hstats, halike⟩ := files.buildTree_alike options root
  rw [scriptStats_eq] at halike
  exact ⟨hnodup, fun identity => exists_reachesIn_of_mem hlimit,
    fun n hn directory => listed_or_isCutOff hlimit hlists hn, ⟨total, hstats, halike⟩,
    fun hshortcuts => ⟨fun identity => mem_listedIdentities_iff hlimit hlists hshortcuts,
      fun other hreads hreordered => hreordered.exists_alike hlimit hlists hreads hshortcuts⟩⟩

/-! ## Two ways of different lengths -/

/-- A directory, where it is really and what is listed in it. -/
structure Room where
  directory : Path
  identity : String
  entries : List Entry

/-- The directories of a workspace in which `t` can be reached through `a` and `b` and through `c`. -/
def rooms : List Room :=
  let w : Path := ⟨.root, ["w"]⟩
  let a := w.child "a"
  let b := a.child "b"
  let c := w.child "c"
  let room (t : Path) : List Room :=
    [⟨t, "/w/c/t", [⟨"u", t.child "u", true⟩]⟩,
      ⟨t.child "u", "/w/c/t/u", [⟨"s.nani", (t.child "u").child "s.nani", false⟩]⟩]
  [⟨w, "/w", [⟨"a", a, true⟩, ⟨"c", c, true⟩]⟩, ⟨a, "/w/a", [⟨"b", b, true⟩]⟩,
    ⟨b, "/w/a/b", [⟨"t", b.child "t", true⟩]⟩, ⟨c, "/w/c", [⟨"t", c.child "t", true⟩]⟩] ++
    room (b.child "t") ++ room (c.child "t")

def room? (directory : Path) : Option Room :=
  rooms.find? (·.directory = directory)

theorem mem_rooms_of_room?_eq_some {room : Room} (h : room? directory = some room) : room ∈ rooms :=
  List.mem_of_find?_eq_some h

/-- Files in which the longer way to `t` is listed first. -/
def detour : StillFiles where
  list directory := match room? directory with
    | some room => .ok room.entries
    | none => .error .notFound
  read _ := .ok [104, 105]
  signature _ := .error .notFound
  identity directory := ((room? directory).map Room.identity).getD ""
  directoryBound := 5
  listed := {"/w/a", "/w/c", "/w/a/b", "/w/c/t", "/w/c/t/u"}
  identity_mem_listed {directory entries} hlist entry hentry hkind := by
    have hall : ∀ room ∈ rooms, ∀ entry ∈ room.entries, entry.isDirectory = true →
        ((room? entry.path).map Room.identity).getD "" ∈
          ({"/w/a", "/w/c", "/w/a/b", "/w/c/t", "/w/c/t/u"} : Finset String) := by
      decide +kernel
    cases hroom : room? directory with
    | none => simp [hroom] at hlist
    | some room =>
      simp only [hroom, Except.ok.injEq] at hlist
      exact hall room (mem_rooms_of_room?_eq_some hroom) entry (hlist ▸ hentry) hkind
  card_listed_le := by decide

theorem entries_detour (directory : Path) :
    detour.entries directory = ((room? directory).map Room.entries).getD [] := by
  have hlist : detour.list directory = match room? directory with
      | some room => .ok room.entries
      | none => .error .notFound := rfl
  rw [entries, hlist]
  cases room? directory <;> rfl

theorem listsByIdentity_detour : detour.ListsByIdentity := by
  have hsame : ∀ room ∈ rooms, ∀ other ∈ rooms, room.identity = other.identity →
      room.entries.map detour.seen = other.entries.map detour.seen := by
    decide +kernel
  have hnamed : ∀ room ∈ rooms, room.identity ≠ "" := by decide
  intro directory other hidentity
  rw [entries_detour, entries_detour]
  change ((room? directory).map Room.identity).getD "" = ((room? other).map Room.identity).getD ""
    at hidentity
  cases hroom : room? directory <;> cases hroom' : room? other <;>
    simp only [hroom, hroom', Option.map_none, Option.map_some, Option.getD_none, Option.getD_some]
      at hidentity ⊢
  case none.none => exact .refl _
  case none.some room => exact absurd hidentity.symm (hnamed room (mem_rooms_of_room?_eq_some hroom'))
  case some.none room => exact absurd hidentity (hnamed room (mem_rooms_of_room?_eq_some hroom))
  case some.some room room' =>
    exact .of_eq (hsame room (mem_rooms_of_room?_eq_some hroom) room'
      (mem_rooms_of_room?_eq_some hroom') hidentity)

theorem hasNoShortcuts_detour : detour.HasNoShortcuts [] ⟨.root, ["w"]⟩ 2 := by
  have hnone : ∀ i < 2, ∀ directory ∈ detour.reachedIn [] ⟨.root, ["w"]⟩ i,
      ∀ other ∈ detour.reachedIn [] ⟨.root, ["w"]⟩ 2,
        detour.identity directory ≠ detour.identity other := by
    decide +kernel
  intro i hi directory other hreaches hreaches'
  exact hnone i hi directory (mem_reachedIn_iff.2 hreaches) other (mem_reachedIn_iff.2 hreaches')

/-- With a bound of three names a directory is left out, and the way there is cut off. With a bound of
two names none is. -/
theorem walk_within_detour :
    ({ maxDepth := some 3 } : WalkOptions).maxDepth = some ((3 : Nat) : Int) ∧
      detour.ListsByIdentity ∧
      (∃ directory, detour.identity directory = "/w/c/t/u" ∧
        detour.IsCutOff { maxDepth := some 3 } ⟨.root, ["w"]⟩ 3 3 directory) ∧
      detour.HasNoShortcuts [] ⟨.root, ["w"]⟩ 2 ∧
      ∀ identity, identity ∈ detour.listedIdentities { maxDepth := some 2 } ⟨.root, ["w"]⟩ ↔
        ∃ n ≤ 2, ∃ directory, ReachesIn detour [] ⟨.root, ["w"]⟩ n directory ∧
          detour.identity directory = identity := by
  obtain ⟨-, -, hthree, -⟩ := @walk_within detour { maxDepth := some 3 } ⟨.root, ["w"]⟩ 3 rfl
    listsByIdentity_detour
  obtain ⟨-, -, -, -, htwo⟩ := @walk_within detour { maxDepth := some 2 } ⟨.root, ["w"]⟩ 2 rfl
    listsByIdentity_detour
  have hreaches : ReachesIn detour [] ⟨.root, ["w"]⟩ 3 ⟨.root, ["w", "c", "t", "u"]⟩ :=
    mem_reachedIn_iff.1 (by decide +kernel)
  have hidentity : detour.identity ⟨.root, ["w", "c", "t", "u"]⟩ = "/w/c/t/u" := by decide +kernel
  refine ⟨rfl, listsByIdentity_detour, ⟨_, hidentity, (hthree 3 le_rfl _ hreaches).resolve_left ?_⟩,
    hasNoShortcuts_detour, (htwo hasNoShortcuts_detour).1⟩
  rw [hidentity]
  decide +kernel

theorem listedIdentities_detour : detour.listedIdentities { maxDepth := some 3 } ⟨.root, ["w"]⟩ =
    ["/w", "/w/a", "/w/a/b", "/w/c/t", "/w/c"] := by
  decide +kernel

/-- What lies within the bound may be left out if a longer way to it is listed first. -/
theorem not_walk_within : ¬ ∀ (files : StillFiles) (options : WalkOptions) (root : Path) (limit : Nat),
    options.maxDepth = some (limit : Int) → files.ListsByIdentity →
      ∀ identity, identity ∈ files.listedIdentities options root ↔ ∃ n ≤ limit, ∃ directory,
        ReachesIn files options.excluded root n directory ∧ files.identity directory = identity := by
  intro h
  have hiff := h detour { maxDepth := some 3 } ⟨.root, ["w"]⟩ 3 rfl listsByIdentity_detour "/w/c/t/u"
  rw [listedIdentities_detour] at hiff
  have hreaches : ReachesIn detour [] ⟨.root, ["w"]⟩ 3 ⟨.root, ["w", "c", "t", "u"]⟩ :=
    mem_reachedIn_iff.1 (by decide +kernel)
  have hidentity : detour.identity ⟨.root, ["w", "c", "t", "u"]⟩ = "/w/c/t/u" := by decide +kernel
  exact absurd (hiff.2 ⟨3, le_rfl, _, hreaches, hidentity⟩) (by decide)

end ScriptStats.StillFiles
