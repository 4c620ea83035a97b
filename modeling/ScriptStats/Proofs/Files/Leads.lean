import Mathlib.Data.List.Induction
import Mathlib.Data.List.Perm.Subperm
import ScriptStats.Proofs.Files.Disk

/-!
# Where paths lead

A path leads from one directory to the next, and where it meets a link it goes the way of the link
first. The real path of a directory is the way to the place to which all that leads, in whatever terms
the directory is named.
-/

namespace ScriptStats.Disk

/-- What can be the name of an entry of a directory. -/
def IsEntryName (name : String) : Prop :=
  name ≠ "" ∧ name ≠ "." ∧ name ≠ ".." ∧ '/' ∉ name.toList ∧ name.contains '\x00' = false

/-- A disk as it comes about: at every place there is one item at most, and it is in a directory. -/
structure Proper (disk : Disk) : Prop where
  nodup : (disk.items.map Prod.fst).Nodup
  ne_nil : ∀ found ∈ disk.items, found.1 ≠ []
  named : ∀ found ∈ disk.items, ∀ name ∈ found.1, IsEntryName name
  within : ∀ found ∈ disk.items, disk.item? found.1.dropLast = some .directory
  current : disk.item? disk.current = some .directory

variable {disk : Disk} {here : Place} {name : String}

theorem item?_nil (disk : Disk) : disk.item? [] = some .directory :=
  if_pos rfl

theorem mem_items {place : Place} {item : DiskItem} (hplace : place ≠ [])
    (h : disk.item? place = some item) : (place, item) ∈ disk.items := by
  rw [item?, if_neg hplace] at h
  obtain ⟨before, after, hitems, -⟩ := List.lookup_eq_some_iff.1 h
  rw [hitems]
  exact List.mem_append_right _ (List.mem_cons_self ..)

namespace Proper

variable (h : disk.Proper)
include h

theorem isEntryName {item : DiskItem} (hitem : disk.item? (here ++ [name]) = some item) :
    IsEntryName name :=
  h.named _ (mem_items (List.concat_ne_nil _ _) hitem) name (by simp)

theorem item?_dropLast {place : Place} {item : DiskItem} (hitem : disk.item? place = some item) :
    disk.item? place.dropLast = some .directory := by
  by_cases hplace : place = []
  · rw [hplace]
    exact item?_nil disk
  · exact h.within _ (mem_items hplace hitem)

/-- Below nothing there is nothing. -/
theorem item?_append {place : Place} (hnone : disk.item? place = none) (more : List String) :
    disk.item? (place ++ more) = none := by
  induction more using List.reverseRecOn with
  | nil => rwa [List.append_nil]
  | append_singleton more name ih =>
    rw [Option.eq_none_iff_forall_ne_some]
    intro item hitem
    have hbefore := h.item?_dropLast hitem
    rw [← List.append_assoc, List.dropLast_concat, ih] at hbefore
    cases hbefore

theorem item?_start (absolute : Bool) : disk.item? (disk.start absolute) = some .directory := by
  cases absolute with
  | true => exact item?_nil disk
  | false => exact h.current

end Proper

theorem item?_of_mem (hnodup : (disk.items.map Prod.fst).Nodup) {place : Place} (hplace : place ≠ [])
    {item : DiskItem} (hmem : (place, item) ∈ disk.items) : disk.item? place = some item := by
  rw [item?, if_neg hplace]
  obtain ⟨before, after, hitems⟩ := List.append_of_mem hmem
  refine List.lookup_eq_some_iff.2 ⟨before, after, hitems, fun found hfound => ?_⟩
  rw [hitems, List.map_append, List.map_cons] at hnodup
  have hne := (List.nodup_append.1 hnodup).2.2 found.1 (List.mem_map_of_mem hfound) place
    (List.mem_cons_self ..)
  exact bne_iff_ne.2 hne.symm

/-! ## The way of a path -/

/-- Where the way of a link begins that is met in a directory. -/
def linkStart (text : String) (here : Place) : Place :=
  if text.toList.head? = some '/' then [] else here

/-- The steps lead from one directory to another, and on their way as many links are followed. -/
inductive Leads (disk : Disk) : Nat → Place → List String → Place → Prop where
  | here {place : Place} : Leads disk 0 place [] place
  | skip {n : Nat} {here target : Place} {name : String} {rest : List String} :
      name = "" ∨ name = "." → Leads disk n here rest target → Leads disk n here (name :: rest) target
  | up {n : Nat} {here target : Place} {rest : List String} : Leads disk n here.dropLast rest target →
      Leads disk n here (".." :: rest) target
  | enter {n : Nat} {here target : Place} {name : String} {rest : List String} : IsEntryName name →
      disk.item? (here ++ [name]) = some .directory → Leads disk n (here ++ [name]) rest target →
      Leads disk n here (name :: rest) target
  | follow {m n : Nat} {here mid target : Place} {name text : String} {rest : List String} :
      IsEntryName name →
      disk.item? (here ++ [name]) = some (.link text) →
      Leads disk m (linkStart text here) (textSteps text) mid → Leads disk n mid rest target →
      Leads disk (m + n + 1) here (name :: rest) target

variable {target other : Place} {text : String} {steps rest : List String} {m n : Nat}

namespace Leads

theorem unique (h : disk.Leads m here steps target) (h' : disk.Leads n here steps other) :
    m = n ∧ target = other := by
  induction h generalizing n other with
  | here =>
    cases h'
    exact ⟨rfl, rfl⟩
  | skip hname _ ih =>
    cases h' with
    | skip _ hrest => exact ih hrest
    | up => simp at hname
    | enter hentry | follow hentry => exact absurd hname (by simp [hentry.1, hentry.2.1])
  | up _ ih =>
    cases h' with
    | skip hname => simp at hname
    | up hrest => exact ih hrest
    | enter hentry | follow hentry => exact absurd rfl hentry.2.2.1
  | enter hentry hitem _ ih =>
    cases h' with
    | skip hname => exact absurd hname (by simp [hentry.1, hentry.2.1])
    | up => exact absurd rfl hentry.2.2.1
    | enter _ _ hrest => exact ih hrest
    | follow _ hlink => exact absurd (hitem.symm.trans hlink) (by simp)
  | follow hentry hlink _ _ ihlink ihrest =>
    cases h' with
    | skip hname => exact absurd hname (by simp [hentry.1, hentry.2.1])
    | up => exact absurd rfl hentry.2.2.1
    | enter _ hitem => exact absurd (hitem.symm.trans hlink) (by simp)
    | follow _ hlink' hway hrest =>
      obtain rfl : _ = _ := DiskItem.link.inj (Option.some_inj.1 (hlink.symm.trans hlink'))
      obtain ⟨rfl, rfl⟩ := ihlink hway
      obtain ⟨rfl, rfl⟩ := ihrest hrest
      exact ⟨rfl, rfl⟩

theorem append {mid : Place} (h : disk.Leads m here steps mid)
    (hrest : disk.Leads n mid rest target) : disk.Leads (m + n) here (steps ++ rest) target := by
  induction h with
  | here => rwa [Nat.zero_add]
  | skip hname _ ih => exact .skip hname (ih hrest)
  | up _ ih => exact .up (ih hrest)
  | enter hentry hitem _ ih => exact .enter hentry hitem (ih hrest)
  | @follow m k _ _ _ _ _ _ hentry hlink hway _ _ ih =>
    rw [show m + k + 1 + n = m + (k + n) + 1 by omega]
    exact .follow hentry hlink hway (ih hrest)

theorem exists_of_append (h : disk.Leads n here (steps ++ rest) target) :
    ∃ m k mid, n = m + k ∧ disk.Leads m here steps mid ∧ disk.Leads k mid rest target := by
  induction steps generalizing n here with
  | nil => exact ⟨0, n, here, (Nat.zero_add n).symm, .here, h⟩
  | cons name steps ih =>
    cases h with
    | skip hname hrest =>
      obtain ⟨m, k, mid, rfl, hsteps, hrest⟩ := ih hrest
      exact ⟨m, k, mid, rfl, .skip hname hsteps, hrest⟩
    | up hrest =>
      obtain ⟨m, k, mid, rfl, hsteps, hrest⟩ := ih hrest
      exact ⟨m, k, mid, rfl, .up hsteps, hrest⟩
    | enter hentry hitem hrest =>
      obtain ⟨m, k, mid, rfl, hsteps, hrest⟩ := ih hrest
      exact ⟨m, k, mid, rfl, .enter hentry hitem hsteps, hrest⟩
    | @follow links _ _ _ _ _ _ _ hentry hlink hway hrest =>
      obtain ⟨m, k, mid, rfl, hsteps, hrest⟩ := ih hrest
      exact ⟨links + m + 1, k, mid, by omega, .follow hentry hlink hway hsteps, hrest⟩

/-- Empty steps do not count. -/
theorem of_filter (h : disk.Leads n here (steps.filter (· ≠ "")) target) :
    disk.Leads n here steps target := by
  induction steps generalizing n here with
  | nil => exact h
  | cons name steps ih =>
    by_cases hname : name = ""
    · rw [List.filter_cons_of_neg (by simp [hname])] at h
      exact .skip (.inl hname) (ih h)
    · rw [List.filter_cons_of_pos (by simp [hname])] at h
      cases h with
      | skip hskipped hrest => exact .skip hskipped (ih hrest)
      | up hrest => exact .up (ih hrest)
      | enter hentry hitem hrest => exact .enter hentry hitem (ih hrest)
      | follow hentry hlink hway hrest => exact .follow hentry hlink hway (ih hrest)

/-- The steps that are found for a link are the way of its text. -/
theorem of_linkSteps (h : disk.Leads n here (linkSteps text).2 target) :
    disk.Leads n here (textSteps text) target := by
  have hsteps := h.of_filter
  split at hsteps
  next =>
    obtain ⟨m, k, mid, rfl, htext, hdot⟩ := hsteps.exists_of_append
    obtain ⟨rfl, rfl⟩ := (Leads.skip (.inr rfl) .here).unique hdot
    exact htext
  next => exact hsteps

theorem isDirectory (hproper : disk.Proper) (h : disk.Leads n here steps target)
    (hhere : disk.item? here = some .directory) : disk.item? target = some .directory := by
  induction h with
  | here => exact hhere
  | skip _ _ ih => exact ih hhere
  | up _ ih => exact ih (hproper.item?_dropLast hhere)
  | enter _ hitem _ ih => exact ih hitem
  | follow _ _ _ _ ihway ih =>
    refine ih (ihway ?_)
    unfold linkStart
    split
    · exact item?_nil disk
    · exact hhere

end Leads

/-- Where a directory is found, the steps lead to it. -/
theorem exists_leads_of_find (hproper : disk.Proper) {budget : Nat}
    (h : disk.find .follow budget here steps = .ok (target, some .directory)) :
    ∃ n, disk.Leads n here steps target := by
  generalize hlast : LastLink.follow = last at h
  fun_induction find disk last budget here steps with
  | case1 last budget here =>
    obtain ⟨rfl, -⟩ := Prod.mk.inj (Except.ok.inj h)
    exact ⟨0, .here⟩
  | case2 last budget here rest ih =>
    obtain ⟨n, hrest⟩ := ih hlast h
    exact ⟨n, .skip (.inr rfl) hrest⟩
  | case3 last budget here rest _ ih =>
    obtain ⟨n, hrest⟩ := ih hlast h
    exact ⟨n, .up hrest⟩
  | case7 last budget here name rest _ _ _ place hitem ih =>
    obtain ⟨n, hrest⟩ := ih hlast h
    exact ⟨n, .enter (hproper.isEntryName hitem) hitem hrest⟩
  | case10 _ _ _ _ _ _ _ _ _ _ _ hkeep => exact absurd (hlast.trans hkeep.2) (by decide)
  | case12 last here name rest _ _ _ place text hitem _ budget absolute steps hsteps start _ ih =>
    obtain ⟨n, hrest⟩ := ih hlast h
    obtain ⟨m, k, mid, rfl, hway, hrest⟩ := hrest.exists_of_append
    have hstart : start = linkStart text here := by
      have habsolute : (linkSteps text).1 = absolute := congrArg Prod.fst hsteps
      simp only [start, linkStart, ← habsolute, linkSteps, decide_eq_true_eq, dite_eq_ite]
    have hway : disk.Leads m (linkStart text here) (linkSteps text).2 mid := by
      rw [hsteps, ← hstart]
      exact hway
    exact ⟨_, .follow (hproper.isEntryName hitem) hitem hway.of_linkSteps hrest⟩
  | _ => simp at h

/-! ## Real paths -/

/-- A path as it is built when links are followed: without single dots, and with double dots only where
they lead above the current directory. -/
structure IsReal (path : Path) : Prop where
  anchor : path.anchor ≠ .doubleRoot
  dots : "." ∉ path.names
  ups : path.isAbsolute = true → ".." ∉ path.names

variable {path there : Path}

theorem plainSteps_concat (steps : List String) (hname : name ≠ "." ∧ name ≠ "..") :
    plainSteps (steps ++ [name]) = plainSteps steps ++ [name] := by
  simp [plainSteps, hname]

theorem plainSteps_up (steps : List String) :
    plainSteps (steps ++ [".."]) = (plainSteps steps).dropLast := by
  simp [plainSteps]

theorem absolutePath_child (disk : Disk) (path : Path) (hname : IsEntryName name) :
    (disk.absolutePath (path.child name)).names = (disk.absolutePath path).names ++ [name] := by
  change plainSteps (disk.start path.isAbsolute ++ (path.names ++ [name])) = _
  rw [← List.append_assoc, plainSteps_concat _ ⟨hname.2.1, hname.2.2.1⟩]
  rfl

theorem IsReal.child (h : IsReal path) (hname : IsEntryName name) : IsReal (path.child name) where
  anchor := h.anchor
  dots hmem := by
    rcases List.mem_append.1 hmem with hmem | hmem
    · exact h.dots hmem
    · exact hname.2.1 (List.mem_singleton.1 hmem).symm
  ups habsolute hmem := by
    rcases List.mem_append.1 hmem with hmem | hmem
    · exact h.ups habsolute hmem
    · exact hname.2.2.1 (List.mem_singleton.1 hmem).symm

theorem isReal_start (absolute : Bool) : IsReal (if absolute then pathOf [] else ⟨.here, []⟩) := by
  cases absolute <;> exact ⟨by decide, by decide, by decide⟩

theorem IsReal.up (h : IsReal path) : IsReal (up path) ∧
    (disk.absolutePath (Disk.up path)).names = (disk.absolutePath path).names.dropLast := by
  rw [Disk.up]
  split
  next habove =>
    have hrelative : (path.child "..").isAbsolute = false := by simp [Path.isAbsolute, Path.child, habove.1]
    refine ⟨⟨h.anchor, fun hmem => ?_, fun habsolute => ?_⟩, ?_⟩
    · rcases List.mem_append.1 hmem with hmem | hmem
      · exact h.dots hmem
      · exact absurd hmem (by decide)
    · rw [hrelative] at habsolute
      cases habsolute
    · change plainSteps (disk.start path.isAbsolute ++ (path.names ++ [".."])) = _
      rw [← List.append_assoc, plainSteps_up]
      rfl
  next hbelow =>
    refine ⟨⟨h.anchor, fun hmem => h.dots (List.dropLast_subset _ hmem),
      fun habsolute hmem => h.ups habsolute (List.dropLast_subset _ hmem)⟩, ?_⟩
    change plainSteps (disk.start path.isAbsolute ++ path.names.dropLast) =
      (plainSteps (disk.start path.isAbsolute ++ path.names)).dropLast
    cases hlast : path.names.getLast? with
    | none =>
      have hnames : path.names = [] := List.getLast?_eq_none_iff.1 hlast
      have habsolute : path.isAbsolute = true := by
        simpa [Path.isAbsolute, hnames] using hbelow
      rw [hnames, habsolute]
      rfl
    | some name =>
      obtain ⟨before, hnames⟩ := List.getLast?_eq_some_iff.1 hlast
      have hname : name ≠ "." ∧ name ≠ ".." := by
        refine ⟨fun heq => h.dots (by simp [hnames, heq]), fun heq => ?_⟩
        by_cases habsolute : path.isAbsolute = true
        · exact h.ups habsolute (by simp [hnames, heq])
        · refine hbelow ⟨by simpa [Path.isAbsolute] using habsolute, .inr ?_⟩
          rw [Path.name, hlast, heq]
          rfl
      rw [hnames, List.dropLast_concat, ← List.append_assoc, plainSteps_concat _ hname,
        List.dropLast_concat]

/-- The link is being followed, on a way on which at least as many links are met. -/
def IsBusy (disk : Disk) (n : Nat) (path : Path) : Prop :=
  ∃ text m mid, disk.item? (disk.absolutePath path).names = some (.link text) ∧ n ≤ m ∧
    disk.Leads m (linkStart text (disk.absolutePath path).names.dropLast) (textSteps text) mid

theorem IsBusy.mono (h : disk.IsBusy n path) (hle : m ≤ n) : disk.IsBusy m path := by
  obtain ⟨text, k, mid, hlink, hk, hway⟩ := h
  exact ⟨text, k, mid, hlink, Nat.le_trans hle hk, hway⟩

/-- No way meets the link again that it is the way of. -/
theorem IsBusy.ne (h : disk.IsBusy n there) {mid : Place}
    (hlink : disk.item? (disk.absolutePath path).names = some (.link text))
    (hway : disk.Leads m (linkStart text (disk.absolutePath path).names.dropLast) (textSteps text) mid)
    (hlt : m < n) : (disk.absolutePath path).names ≠ (disk.absolutePath there).names := by
  intro heq
  obtain ⟨other, k, last, hother, hk, hbusy⟩ := h
  rw [← heq] at hother hbusy
  obtain rfl := DiskItem.link.inj (Option.some_inj.1 (hlink.symm.trans hother))
  obtain ⟨rfl, -⟩ := hway.unique hbusy
  omega

/-- There are no more links than are counted. -/
theorem length_le_linkCount {places : List Place} (hnodup : places.Nodup)
    (hlinks : ∀ place ∈ places, ∃ text, disk.item? place = some (.link text)) :
    places.length ≤ disk.linkCount := by
  rw [linkCount, List.countP_eq_length_filter, ← List.length_map Prod.fst]
  refine (hnodup.subperm fun place hplace => ?_).length_le
  obtain ⟨text, hlink⟩ := hlinks place hplace
  have hne : place ≠ [] := by
    rintro rfl
    rw [item?_nil] at hlink
    cases hlink
  exact List.mem_map.2 ⟨_, List.mem_filter.2 ⟨mem_items hne hlink, rfl⟩, rfl⟩

/-- The links that are being followed at once, under the paths by which they were met. No two are the same, so
with this fuel another one can be followed. -/
structure AreBusy (disk : Disk) (n fuel : Nat) (busy : List Path) : Prop where
  isBusy : ∀ path ∈ busy, disk.IsBusy n path
  nodup : (busy.map fun path => (disk.absolutePath path).names).Nodup
  lt : disk.linkCount < fuel + busy.length

namespace AreBusy

variable {fuel : Nat} {busy : List Path}

theorem mono (h : disk.AreBusy n fuel busy) (hle : m ≤ n) : disk.AreBusy m fuel busy :=
  ⟨fun path hpath => (h.isBusy path hpath).mono hle, h.nodup, h.lt⟩

/-- A link that is met on the ways of others is none of them, and is followed with the fuel that is left. -/
theorem exists_fuel (h : disk.AreBusy n fuel busy) {mid : Place}
    (hlink : disk.item? (disk.absolutePath path).names = some (.link text))
    (hway : disk.Leads m (linkStart text (disk.absolutePath path).names.dropLast) (textSteps text) mid)
    (hlt : m < n) : path ∉ busy ∧ ∃ left, fuel = left + 1 ∧ disk.AreBusy m left (path :: busy) := by
  have hnew : ∀ other ∈ busy, (disk.absolutePath path).names ≠ (disk.absolutePath other).names :=
    fun other hother => (h.isBusy other hother).ne hlink hway hlt
  have hbusy : ∀ other ∈ path :: busy, disk.IsBusy m other :=
    List.forall_mem_cons.2 ⟨⟨text, m, mid, hlink, Nat.le_refl m, hway⟩,
      fun other hother => (h.isBusy other hother).mono (Nat.le_of_lt hlt)⟩
  have hnodup : ((path :: busy).map fun path => (disk.absolutePath path).names).Nodup := by
    refine List.nodup_cons.2 ⟨fun hmem => ?_, h.nodup⟩
    obtain ⟨other, hother, heq⟩ := List.mem_map.1 hmem
    exact hnew other hother heq.symm
  have hcount := length_le_linkCount hnodup <| by
    rw [List.forall_mem_map]
    intro other hother
    obtain ⟨text, _, _, hlink, -⟩ := hbusy other hother
    exact ⟨text, hlink⟩
  rw [List.length_map, List.length_cons] at hcount
  have hfuel := h.lt
  refine ⟨fun hmem => hnew path hmem rfl, fuel - 1, by omega, hbusy, hnodup, ?_⟩
  rw [List.length_cons]
  omega

end AreBusy

theorem isReal_linkStart (hreal : IsReal path) (text : String) :
    IsReal (if text.toList.head? = some '/' then pathOf [] else path) ∧
      (disk.absolutePath (if text.toList.head? = some '/' then pathOf [] else path)).names =
        linkStart text (disk.absolutePath path).names := by
  unfold linkStart
  split
  · exact ⟨isReal_start true, rfl⟩
  · exact ⟨hreal, rfl⟩

/-- A link is followed, unless it is being followed already. -/
theorem realSteps_link {fuel : Nat} {busy : List Path} {here : Path} {name text : String}
    {rest : List String} {found : Path × Bool} (hskip : ¬ (name = "" ∨ name = ".")) (hup : name ≠ "..")
    (hlink : disk.item? (disk.absolutePath (here.child name)).names = some (.link text))
    (hway : disk.realSteps fuel (here.child name :: busy)
      (if text.toList.head? = some '/' then pathOf [] else here) (textSteps text) = found) :
    disk.realSteps (fuel + 1) busy here (name :: rest) =
      if busy.contains (here.child name) then (unfollowed (here.child name) rest, false)
      else if found.2 then disk.realSteps (fuel + 1) busy found.1 rest
      else (unfollowed found.1 rest, false) := by
  obtain ⟨there, followed⟩ := found
  rw [realSteps, if_neg hskip, if_neg hup]
  simp only [hlink, hway]
  cases followed <;> rfl

/-- The real path goes the way on which the steps lead. -/
theorem Leads.realSteps (h : disk.Leads n here steps target) {start : Path} (hreal : IsReal start)
    (hstart : (disk.absolutePath start).names = here) {fuel : Nat} {busy : List Path}
    (hbusy : disk.AreBusy n fuel busy) :
    ∃ there, disk.realSteps fuel busy start steps = (there, true) ∧ IsReal there ∧
      (disk.absolutePath there).names = target := by
  induction h generalizing start fuel busy with
  | here =>
    refine ⟨start, ?_, hreal, hstart⟩
    rw [Disk.realSteps]
  | skip hname _ ih =>
    rw [Disk.realSteps, if_pos hname]
    exact ih hreal hstart hbusy
  | up _ ih =>
    obtain ⟨hup, hplace⟩ := @IsReal.up disk start hreal
    rw [Disk.realSteps, if_neg (by decide), if_pos rfl]
    exact ih hup (by rw [hplace, hstart]) hbusy
  | @enter n here target name rest hentry hitem _ ih =>
    have hplace := absolutePath_child disk start hentry
    rw [hstart] at hplace
    rw [Disk.realSteps, if_neg (by simp [hentry.1, hentry.2.1]), if_neg hentry.2.2.1]
    obtain ⟨there, hthere, hleads⟩ := ih (hreal.child hentry) hplace hbusy
    refine ⟨there, ?_, hleads⟩
    dsimp only
    rw [hplace, hitem]
    cases fuel <;> exact hthere
  | @follow m n here mid target name text rest hentry hlink hway _ ihway ih =>
    have hplace := absolutePath_child disk start hentry
    rw [hstart] at hplace
    rw [← hplace] at hlink
    obtain ⟨hnew, fuel, rfl, hmet⟩ :=
      hbusy.exists_fuel hlink (by rwa [hplace, List.dropLast_concat]) (by omega)
    obtain ⟨hreal', hstart'⟩ := @isReal_linkStart disk start hreal text
    obtain ⟨there, hthere, hmid⟩ := ihway hreal' (by rw [hstart', hstart]) hmet
    obtain ⟨last, hlast, hleads⟩ := ih hmid.1 hmid.2 (hbusy.mono (by omega))
    refine ⟨last, ?_, hleads⟩
    rw [realSteps_link (by simp [hentry.1, hentry.2.1]) hentry.2.2.1 hlink hthere,
      if_neg (mt List.contains_iff_mem.1 hnew), if_pos rfl]
    exact hlast

theorem plainSteps_eq_self (h : ∀ name ∈ steps, IsEntryName name) : plainSteps steps = steps := by
  suffices hfrom : ∀ before, plainSteps before = before → plainSteps (before ++ steps) = before ++ steps
    from hfrom [] rfl
  induction steps with
  | nil => exact fun before hbefore => by rwa [List.append_nil]
  | cons name steps ih =>
    intro before hbefore
    rw [List.forall_mem_cons] at h
    have hname := plainSteps_concat before ⟨h.1.2.1, h.1.2.2.1⟩
    rw [hbefore] at hname
    simpa using ih h.2 _ hname

theorem Proper.plainSteps_start (h : disk.Proper) (absolute : Bool) :
    plainSteps (disk.start absolute) = disk.start absolute := by
  cases absolute with
  | true => rfl
  | false =>
    refine plainSteps_eq_self fun name hname => ?_
    have hcurrent : disk.current ≠ [] := by
      rintro hnil
      rw [show disk.start false = [] from hnil] at hname
      cases hname
    exact h.named _ (mem_items hcurrent h.current) name hname

/-- The real path of a directory is the way to its place. -/
theorem Leads.realPath (h : disk.Leads n (disk.start path.isAbsolute) path.names target)
    (hcurrent : plainSteps (disk.start path.isAbsolute) = disk.start path.isAbsolute)
    (hnull : path.hasNull = false) : disk.realPath path = .ok (pathOf target) := by
  have hstart : (disk.absolutePath (if path.isAbsolute then pathOf [] else ⟨.here, []⟩)).names =
      disk.start path.isAbsolute := by
    rw [← hcurrent]
    cases path.isAbsolute
    · exact congrArg plainSteps (List.append_nil _)
    · rfl
  have hbusy : disk.AreBusy n (disk.linkCount * (disk.current.length + 2) + 1) [] := by
    have hle := Nat.le_mul_of_pos_right disk.linkCount (show 0 < disk.current.length + 2 by omega)
    exact ⟨fun _ hpath => absurd hpath List.not_mem_nil, List.nodup_nil, Nat.lt_succ_of_le hle⟩
  obtain ⟨there, hthere, hreal, rfl⟩ := h.realSteps (isReal_start path.isAbsolute) hstart hbusy
  unfold Disk.realPath
  dsimp only
  rw [hnull, if_neg Bool.false_ne_true, hthere]
  have hanchor : (if there.anchor = .doubleRoot then Anchor.doubleRoot else .root) = .root :=
    if_neg hreal.anchor
  exact congrArg (fun anchor => Except.ok (Path.mk anchor (disk.absolutePath there).names)) hanchor

end ScriptStats.Disk
