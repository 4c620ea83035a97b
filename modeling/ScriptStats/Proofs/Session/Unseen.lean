import ScriptStats.Proofs.Session.OnDisk

/-!
# Walks after something was written

Where nothing that was written counts for a walk, and no link has come to lead to a directory that
does, the next walk comes to the same listings.
-/

namespace ScriptStats

open Moment (level scriptsOf)

namespace Disk

/-- What is new on the second disk is out of sight of a walk that has come to these listings: no entry
counts that was not there, no entry that counts has become a directory, and the scripts are as they
were. -/
structure Unseen (disk left : Disk) (followLinks : Bool) (options : WalkOptions) (root : Path)
    (listings : List Listing) : Prop where
  added : ∀ listing ∈ listings, ∀ entry ∈ left.entriesAt followLinks listing.directory,
    Walk.counts options (level root listing.directory) entry = true →
      entry ∈ disk.entriesAt followLinks listing.directory
  turned : ∀ listing ∈ listings, ∀ entry ∈ disk.entriesAt followLinks listing.directory,
    Walk.counts options (level root listing.directory) entry = true → entry.isDirectory = false →
      { entry with isDirectory := true } ∉ left.entriesAt followLinks listing.directory
  scripts : ∀ script ∈ scriptsOf listings,
    left.read script = disk.read script ∧ left.signature script = disk.signature script

variable {disk left : Disk} {followLinks : Bool} {options : WalkOptions} {root directory : Path}
  {listings : List Listing} {time : String}

/-- What leads to a directory leads to the same directory afterwards. -/
theorem identity_eq_of_leads (hproper : disk.Proper) (hgrows : disk.Grows left) {n : Nat}
    {target : Place}
    (hleads : disk.Leads n (disk.start directory.isAbsolute) directory.names target)
    (hnull : directory.hasNull = false) : (left.moment followLinks time).identity directory =
      .ok ((disk.files followLinks hproper).identity directory) := by
  have hreal := hleads.realPath (hproper.plainSteps_start _) hnull
  have hleft := hgrows.leads hleads
  rw [← hgrows.start_eq] at hleft
  have hreal' := hleft.realPath (by rw [hgrows.start_eq, hproper.plainSteps_start]) hnull
  change (left.realPath directory).map Path.text =
    .ok (((disk.realPath directory).map Path.text).toOption.getD "")
  rw [hreal, hreal']
  rfl

/-- Every directory that is listed shows the same entries that count, under the same identities. -/
theorem looksAlike_of_unseen (hproper : disk.Proper) (hgrows : disk.Grows left)
    (hdirectory : disk.isDirectory root = .ok true)
    (hunseen : Unseen disk left followLinks options root listings) {listing : Listing}
    (hlisting : listing ∈ listings)
    (hreaches : StillFiles.Reaches (disk.files followLinks hproper) options.excluded root
      listing.directory) (around : Moment) :
    ((disk.files followLinks hproper).moment around).LooksAlike (left.moment followLinks time) options
      (level root listing.directory) listing.directory
      (disk.entriesAt followLinks listing.directory) where
  listed := by
    obtain ⟨hnull, -⟩ := exists_leads_of_reaches hreaches hdirectory
    refine ⟨left.entriesAt followLinks listing.directory, ?_, ?_⟩
    · cases hothers : left.list followLinks listing.directory with
      | ok others =>
        rw [entriesAt_eq_of_list hothers]
        exact Moment.eval_list_eq_ok_iff.2 (.inl hothers)
      | error e =>
        refine Moment.eval_list_eq_ok_iff.2 (.inr ⟨?_, e, hothers, isRefusal_of_list hnull hothers⟩)
        rw [Disk.entriesAt, hothers]
        rfl
    · have hadded := hunseen.added listing hlisting
      have hturned := hunseen.turned listing hlisting
      cases hlist : disk.list followLinks listing.directory with
      | ok entries =>
        obtain ⟨place, hstatus⟩ := exists_status_of_list hlist
        have hothers := @list_eq left followLinks _ place (hgrows.status_directory hstatus)
        rw [entriesAt_eq_of_list hlist] at hadded hturned ⊢
        rw [entriesAt_eq_of_list hothers] at hadded hturned ⊢
        exact hgrows.filter_entries_eq hproper.nodup hstatus hlist hothers hadded hturned
      | error e =>
        have hnone : disk.entriesAt followLinks listing.directory = [] := by
          rw [Disk.entriesAt, hlist]
          rfl
        rw [hnone] at hadded ⊢
        rw [List.filter_nil, List.filter_eq_nil_iff]
        exact fun entry hentry hcounts => absurd (hadded entry hentry hcounts) List.not_mem_nil
  identity := by
    intro entry hentry _ hkind identity hidentity
    obtain ⟨hnull, n, target, hleads, -⟩ := exists_leads_of_mem hproper hentry hkind
    rw [← hidentity]
    exact identity_eq_of_leads hproper hgrows hleads hnull

/-- The next walk comes to the same listings. -/
theorem eval_walk_of_unseen (hproper : disk.Proper) (hgrows : disk.Grows left)
    (hdirectory : disk.isDirectory root = .ok true) {before : String}
    (hwalk : (disk.moment followLinks before).eval (walk options root) = .ok listings)
    (hunseen : Unseen disk left followLinks options root listings) :
    (left.moment followLinks time).eval (walk options root) = .ok listings := by
  obtain ⟨henters, hlength⟩ := enters_of_eval_walk hproper hdirectory hwalk
  have hreaches := henters.reaches (by simpa using StillFiles.Reaches.root)
  have hcount := hgrows.directoryCount_le hproper.ne_nil hproper.nodup
  have hrun := henters.run_eq (show listings.length ≤ left.directoryCount + 1 by omega)
  have hfiles := @StillFiles.eval_moment (disk.files followLinks hproper)
    (disk.moment followLinks before) _ (Walk.enter options (left.directoryCount + 1)
      ((∅ : Walk.Identities).insert ((disk.files followLinks hproper).identity root)) [(root, 0)])
  rw [hrun] at hfiles
  have hroot : ((disk.files followLinks hproper).Reaches options.excluded root root) := .root
  obtain ⟨hnull, n, target, hleads, -⟩ := exists_leads_of_reaches hroot hdirectory
  have halike : ∀ listing ∈ listings, ∀ entries,
      ((disk.files followLinks hproper).moment (disk.moment followLinks before)).eval
        (Walk.list listing.directory) = .ok entries →
      (∀ entry ∈ entries, entry.path = listing.directory.child entry.name) ∧
        ((disk.files followLinks hproper).moment (disk.moment followLinks before)).LooksAlike
          (left.moment followLinks time) options (level root listing.directory) listing.directory
          entries := by
    intro listing hlisting entries hlist
    rw [StillFiles.eval_moment, StillFiles.run_list, entries_files] at hlist
    obtain rfl := Except.ok.inj hlist
    refine ⟨fun entry hentry => ?_, looksAlike_of_unseen hproper hgrows hdirectory hunseen hlisting
      (hreaches listing hlisting) _⟩
    obtain ⟨place, name, item, -, -, rfl⟩ := exists_item_of_mem hproper.nodup hentry
    rfl
  have henter := Moment.eval_enter_congr halike (by simp [level]) hfiles
  exact Moment.eval_walk_of_enter (identity_eq_of_leads hproper hgrows hleads hnull) henter

end Disk

end ScriptStats
