import ScriptStats.Proofs.Files.Touched
import ScriptStats.Proofs.Session.Agree
import ScriptStats.Proofs.Session.DiskWorld
import ScriptStats.Proofs.Session.Unseen

/-!
# What a walk does not see

What a write puts on the disk is out of sight of a walk if it lies in no directory that is listed, or
does not count there, as a directory does not that is left out. But nothing may lead to it either, so
links that lead nowhere and scripts that are the file itself have to be excluded.
-/

namespace ScriptStats

open Moment (level scriptsOf)

namespace Disk

variable {disk left : Disk} {followLinks directory : Bool} {options : WalkOptions} {root : Path}
  {listings : List Listing} {home : Place}

/-- What a write begins to put at a place is hidden from a walk that has come to these listings. -/
structure Hides (disk : Disk) (followLinks : Bool) (options : WalkOptions) (root : Path)
    (listings : List Listing) (directory : Bool) (home : Place) : Prop where
  readable : ∀ listing ∈ listings, disk.isDirectory listing.directory = .ok true
  /-- Where the walk comes by, it does not count. -/
  uncounted : ∀ listing ∈ listings, ∀ place name,
    disk.status listing.directory = .ok (place, .directory) → home = place ++ [name] →
      Walk.counts options (level root listing.directory)
        ⟨name, listing.directory.child name, directory⟩ = false
  /-- No link has led nowhere. -/
  links : followLinks = true → ∀ listing ∈ listings, ∀ place name text,
    disk.status listing.directory = .ok (place, .directory) →
      disk.item? (place ++ [name]) = some (.link text) →
        ∃ target, disk.status (pathOf (place ++ [name])) = .ok target
  scripts : ∀ script ∈ scriptsOf listings, ∃ place item,
    disk.status script = .ok (place, item) ∧ place ≠ home

/-- Outside of all that is listed nothing counts, and nowhere does a directory that is left out by name. -/
theorem uncounted_of_outside_or_excluded
    (h : (∀ listing ∈ listings, disk.status listing.directory ≠ .ok (home.dropLast, .directory)) ∨
      directory = true ∧ ∃ name ∈ options.excluded, home.getLast? = some name) :
    ∀ listing ∈ listings, ∀ place name,
      disk.status listing.directory = .ok (place, .directory) → home = place ++ [name] →
        Walk.counts options (level root listing.directory)
          ⟨name, listing.directory.child name, directory⟩ = false := by
  rintro listing hlisting place name hstatus rfl
  obtain houtside | ⟨rfl, excluded, hexcluded, hname⟩ := h
  · rw [List.dropLast_concat] at houtside
    exact absurd hstatus (houtside listing hlisting)
  · rw [List.getLast?_concat] at hname
    obtain rfl := Option.some_inj.1 hname
    rw [Walk.counts, if_pos rfl, List.contains_iff_mem.2 hexcluded, Bool.not_true, Bool.false_and]

section Unseen

variable (hproper : disk.Proper) (hgrows : disk.GrowsAt directory home left) (hfree : disk.IsFree home)
  (hhides : disk.Hides followLinks options root listings directory home)
include hproper hgrows hfree hhides

/-- In a directory that is listed, an entry that counts was there, just as it is. -/
theorem mem_entriesAt_of_hides {listing : Listing} (hlisting : listing ∈ listings) {entry : Entry}
    (hentry : entry ∈ left.entriesAt followLinks listing.directory)
    (hcounts : Walk.counts options (level root listing.directory) entry = true) :
    entry ∈ disk.entriesAt followLinks listing.directory := by
  obtain ⟨place, hstatus⟩ := isDirectory_eq_true_iff.1 (hhides.readable listing hlisting)
  have hnodup := hgrows.grows.nodup hproper.nodup
  obtain ⟨place', name, found, hstatus', hfound, rfl⟩ := exists_item_of_mem hnodup hentry
  rw [hgrows.grows.status_directory hstatus] at hstatus'
  obtain rfl := (Prod.mk.inj (Except.ok.inj hstatus')).1
  have hplace := item?_of_status hproper hstatus
  by_cases hhome : home = place ++ [name]
  · have hnot := hhides.uncounted listing hlisting place name hstatus hhome
    have hkind := hgrows.kind found (hhome ▸ hfound)
    have hacts : left.actsAsDirectory followLinks place name found = directory := by
      cases found with
      | directory => exact (hkind.1 rfl).symm
      | file => exact (Bool.eq_false_iff.2 fun h => by cases hkind.2 h).symm
      | link text => exact absurd (hhome ▸ hgrows.grows.link hfound) (hfree.not_link text)
    rw [hacts, hnot] at hcounts
    cases hcounts
  · have hbelow : ¬ home <+: place ++ [name] := by
      rw [List.prefix_concat_iff]
      rintro (heq | hprefix)
      · exact hhome heq
      · exact hfree.not_prefix hproper hplace (fun heq => hfree.not_directory (heq ▸ hplace)) hprefix
    have hitem := hfound
    rw [hgrows.outside _ hbelow] at hitem
    rw [hgrows.grows.actsAsDirectory_eq_of_leads hitem hfound fun hfollow text hlink =>
      hhides.links hfollow listing hlisting place name text hstatus (hlink ▸ hitem)]
    rw [entriesAt_eq_of_list (list_eq hstatus)]
    exact (mem_entries hproper.nodup hstatus (list_eq hstatus)).2 ⟨name, found, hitem, rfl⟩

/-- What is hidden from a walk is not seen by it. -/
theorem unseen_of_hides : disk.Unseen left followLinks options root listings where
  added listing hlisting entry hentry hcounts :=
    mem_entriesAt_of_hides hproper hgrows hfree hhides hlisting hentry hcounts
  turned listing hlisting entry hentry hcounts hkind hturned := by
    obtain ⟨place, name, item, hstatus, hitem, rfl⟩ := exists_item_of_mem hproper.nodup hentry
    have hnodup := hgrows.grows.nodup hproper.nodup
    obtain ⟨place', name', found, hstatus', hfound, heq⟩ := exists_item_of_mem hnodup hturned
    rw [hgrows.grows.status_directory hstatus] at hstatus'
    obtain rfl := (Prod.mk.inj (Except.ok.inj hstatus')).1
    obtain ⟨rfl, -, hacts⟩ := Entry.mk.inj heq
    rw [hgrows.grows.actsAsDirectory_eq_of_leads hitem hfound fun hfollow text hlink =>
      hhides.links hfollow listing hlisting place _ text hstatus (hlink ▸ hitem)] at hacts
    exact absurd (hacts.trans hkind) (by decide)
  scripts script hscript := by
    obtain ⟨place, item, hstatus, hne⟩ := hhides.scripts script hscript
    have hitem := item?_of_status hproper hstatus
    have hsame : left.status script = .ok (place, item) := by
      obtain ⟨found, hfound, hbare⟩ := hgrows.grows.status_some hstatus
      by_cases hdirectory : found = .directory
      · subst hdirectory
        rwa [DiskItem.eq_directory_of_bare hbare.symm]
      · have hthere := item?_of_find (locate_eq_ok_iff.1 (status_eq_ok_iff.1 hfound)).2.2 hdirectory
        rw [hgrows.outside _ (hfree.not_prefix hproper hitem hne), hitem] at hthere
        rwa [Option.some_inj.1 hthere]
    rw [read, read, signature, signature, hsame, hstatus]
    exact ⟨rfl, rfl⟩

end Unseen

end Disk

namespace DiskWorld

open Program

variable {settings : Disk → Path → Except SettingsFailure Settings} {world left : DiskWorld}
  {listings : List Listing} {path : Path} {directory : Bool} {home : Place} {first : Option Snapshot}

/-- A refresh puts nothing on the disk that its walk would see, if the place to which its cache is written
is hidden from the walk. -/
theorem unseen_of_refresh (hproper : world.disk.Proper) (hquiet : world.IsQuiet)
    (hfirst : outcome (Session.refresh (host settings)) world = (.ok first, left))
    (hpath : (world.desk.opened? 980).bind Cache.path = some path)
    (haffects : world.disk.Affects path directory home)
    (hhides : world.disk.Hides world.followLinks world.session.options world.session.root listings
      directory home) :
    world.disk.Unseen left.disk world.followLinks world.session.options world.session.root listings := by
  have hfirst' := @outcome_refresh world settings hquiet
  rw [hfirst] at hfirst'
  refine Disk.unseen_of_hides hproper ?_ haffects.isFree hhides
  obtain hdisk | ⟨written, text, hwritten, hdisk⟩ := Session.writes_of_refresh hfirst'
  · exact (show left.disk = world.disk from hdisk) ▸ haffects.growsAt
  · obtain rfl := Option.some_inj.1 (hwritten.symm.trans hpath)
    exact (show left.disk = _ from hdisk) ▸ haffects.growsAt_writeText hproper text

end DiskWorld

end ScriptStats
