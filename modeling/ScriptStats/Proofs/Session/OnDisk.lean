import ScriptStats.Proofs.Files.Growth
import ScriptStats.Proofs.Session.Alike
import ScriptStats.Proofs.Session.Reuse
import ScriptStats.Proofs.Text.Spelling

/-!
# Workspaces on a disk

What an analysis sees of a disk are files that nobody writes. A walk enters no more directories than there
are on the disk, so the bound on its steps is never reached.
-/

namespace ScriptStats

open Program

namespace StillFiles

variable {files : StillFiles} {options : WalkOptions} {met : Walk.Identities}

/-! ## Walks with any bound -/

theorem Keeps.run_eq {depth : Nat} {met' : Walk.Identities} {entries kept : List Entry}
    (h : Keeps files options depth met entries kept met') :
    files.run (Walk.keep options depth met entries) = (kept, met') := by
  induction h with
  | nil => rfl
  | enter hdirectory hexcluded hdeep hnew _ ih =>
    simp [Walk.keep, run_admits, hdirectory, hexcluded, hdeep, hnew, ih]
  | skip hdirectory hskipped _ ih =>
    simp [Walk.keep, run_admits, hdirectory, hskipped, ih]
  | script hkind hname _ ih | other hkind hname _ ih => simp [Walk.keep, hkind, hname, ih]

/-- A walk that may go on for as many steps as there are listings comes to them all. -/
theorem Enters.run_eq {due : List (Path × Nat)} {listings : List Listing}
    (h : Enters files options met due listings) {fuel : Nat} (hfuel : listings.length ≤ fuel) :
    files.run (Walk.enter options fuel met due) = listings := by
  induction h generalizing fuel with
  | done => cases fuel <;> rfl
  | @next _ _ directory depth due kept more hkeeps _ ih =>
    obtain ⟨fuel, rfl⟩ := Nat.exists_eq_add_of_le' (show 1 ≤ fuel by simp at hfuel; omega)
    have hmore := ih (show more.length ≤ fuel by simpa using hfuel)
    simp only [Walk.enter, run_bind, run_list, hkeeps.run_eq, run_pure]
    exact congrArg (_ :: ·) hmore

theorem length_run_enter_le (fuel : Nat) (met : Walk.Identities) (due : List (Path × Nat)) :
    (files.run (Walk.enter options fuel met due)).length ≤ fuel := by
  induction fuel generalizing met due with
  | zero => exact Nat.le_refl 0
  | succ fuel ih =>
    cases due with
    | nil => exact Nat.zero_le _
    | cons entered due =>
      simp only [Walk.enter, run_bind, run_pure, List.length_cons]
      exact Nat.succ_le_succ (ih _ _)

end StillFiles

/-! ## What an analysis sees of a disk -/

namespace Disk

/-- What an analysis sees of a disk while nobody writes it. -/
def moment (disk : Disk) (followLinks : Bool) (time : String) : Moment where
  isDirectory := disk.isDirectory
  list := disk.list followLinks
  read := disk.read
  signature := disk.signature
  identity path := (disk.realPath path).map Path.text
  directoryBound := disk.directoryCount
  settings root := .ok { root }
  time

/-- What the files reply to requests that are possible. All others they refuse. -/
def refusing {α : Type} (found : Except FileError α) : Except Refusal α :=
  match found with
  | .ok a => .ok a
  | .error e => if h : e.isRefusal = true then .error ⟨e, h⟩ else .error .notFound

variable {disk left : Disk} {followLinks : Bool} {time : String}

theorem refusing_eq_ok {α : Type} {found : Except FileError α} {a : α}
    (h : refusing found = .ok a) : found = .ok a := by
  unfold refusing at h
  split at h
  next => rw [Except.ok.inj h]
  next => split at h <;> cases h

theorem exists_refusing_error {α : Type} (e : FileError) :
    ∃ refusal, (refusing (.error e) : Except Refusal α) = .error refusal := by
  unfold refusing
  dsimp only
  split <;> exact ⟨_, rfl⟩

theorem mapError_refusing {α : Type} {found reply : Except FileError α}
    (h : (Session.possible found : Except Failure _) = .ok reply) :
    (refusing found).mapError Subtype.val = reply := by
  obtain rfl := Session.possible_eq_ok h
  cases reply with
  | ok a => rfl
  | error e =>
    cases hrefusal : e.isRefusal with
    | true => simp [refusing, hrefusal, Except.mapError]
    | false =>
      simp [Session.possible, hrefusal] at h

/-- The files on the disk, where scripts are asked for by text. Each directory on the disk has one
identity, the real path to its place. -/
def files (disk : Disk) (followLinks : Bool) (hproper : disk.Proper) : StillFiles where
  list path := refusing (disk.list followLinks path)
  read path := refusing (disk.read (.ofString path.text))
  signature path := refusing (disk.signature (.ofString path.text))
  identity path := ((disk.realPath path).map Path.text).toOption.getD ""
  directoryBound := disk.directoryCount + 1
  listed := (disk.directoryPlaces.map fun place => (pathOf place).text).toFinset
  identity_mem_listed := by
    intro directory entries hlist entry hentry hdirectory
    have hlist := refusing_eq_ok hlist
    rw [← entriesAt_eq_of_list hlist] at hentry
    obtain ⟨hnull, n, target, hleads, htarget⟩ := exists_leads_of_mem hproper hentry hdirectory
    rw [hleads.realPath (hproper.plainSteps_start _) hnull, List.mem_toFinset]
    exact List.mem_map_of_mem (mem_directoryPlaces htarget)
  card_listed_le := by
    refine (List.toFinset_card_le _).trans ?_
    rw [List.length_map, length_directoryPlaces]

variable {options : WalkOptions} {root : Path} {listings : List Listing}

theorem isSpelt_of_mem (hproper : disk.Proper) {directory : Path} {entry : Entry}
    (hentry : entry ∈ disk.entriesAt followLinks directory) (hdirectory : directory.IsSpelt) :
    entry.path.IsSpelt := by
  obtain ⟨place, name, item, -, hitem, rfl⟩ := exists_item_of_mem hproper.nodup hentry
  obtain ⟨hne, hdot, -, hslash, -⟩ := hproper.isEntryName hitem
  exact hdirectory.child ⟨by simp [Path.isName, hne, hdot], hslash⟩

theorem eval_list_eq_entriesAt {directory : Path} {entries : List Entry}
    (h : (disk.moment followLinks time).eval (Walk.list directory) = .ok entries) :
    entries = disk.entriesAt followLinks directory := by
  rcases Moment.eval_list_eq_ok_iff.1 h with hlist | ⟨rfl, e, hlist, -⟩
  · exact (entriesAt_eq_of_list hlist).symm
  · rw [Disk.entriesAt, show disk.list followLinks directory = .error e from hlist]
    rfl

theorem eval_list_files (hproper : disk.Proper) (around : Moment) {directory : Path}
    {entries : List Entry}
    (h : (disk.moment followLinks time).eval (Walk.list directory) = .ok entries) :
    ((disk.files followLinks hproper).moment around).eval (Walk.list directory) = .ok entries := by
  refine Moment.eval_list_eq_ok_iff.2 ?_
  rcases Moment.eval_list_eq_ok_iff.1 h with hlist | ⟨rfl, e, hlist, hrefusal⟩
  · left
    have hpossible : (Session.possible (disk.list followLinks directory) : Except Failure _) =
        .ok (.ok entries) := by
      rw [show disk.list followLinks directory = .ok entries from hlist]
      rfl
    exact mapError_refusing hpossible
  · right
    refine ⟨rfl, e, ?_, hrefusal⟩
    have hpossible : (Session.possible (disk.list followLinks directory) : Except Failure _) =
        .ok (.error e) := by
      rw [show disk.list followLinks directory = .error e from hlist, Session.possible, if_pos hrefusal]
      rfl
    exact mapError_refusing hpossible

theorem identity_files (hproper : disk.Proper) {directory : Path} {identity : String}
    (h : (disk.realPath directory).map Path.text = .ok identity) :
    (disk.files followLinks hproper).identity directory = identity := by
  change ((disk.realPath directory).map Path.text).toOption.getD "" = identity
  rw [h]
  rfl

theorem identity_mem_listed_files (hproper : disk.Proper)
    (hdirectory : disk.isDirectory root = .ok true) :
    (disk.files followLinks hproper).identity root ∈ (disk.files followLinks hproper).listed := by
  obtain ⟨place, hstatus⟩ := isDirectory_eq_true_iff.1 hdirectory
  obtain ⟨hnull, ⟨n, hleads⟩, hplace⟩ := exists_leads_of_status hproper hstatus
  change ((disk.realPath root).map Path.text).toOption.getD "" ∈
    (disk.directoryPlaces.map fun place => (pathOf place).text).toFinset
  rw [hleads.realPath (hproper.plainSteps_start _) hnull, List.mem_toFinset]
  exact List.mem_map_of_mem (mem_directoryPlaces hplace)

/-- What the disk lists in a directory looks to a walk as what the files list there. -/
theorem looksAlike_files (hproper : disk.Proper) (depth : Nat) {directory : Path} {entries : List Entry}
    (hlist : (disk.moment followLinks time).eval (Walk.list directory) = .ok entries) :
    (disk.moment followLinks time).LooksAlike
      ((disk.files followLinks hproper).moment (disk.moment followLinks time)) options depth directory
      entries :=
  ⟨⟨entries, eval_list_files hproper _ hlist, rfl⟩,
    fun _ _ _ _ _ hknown => congrArg _ (identity_files hproper hknown)⟩

/-- The bound on the steps of a walk is never reached: it enters no more directories than there are on the
disk. -/
theorem enters_of_eval_walk (hproper : disk.Proper) (hdirectory : disk.isDirectory root = .ok true)
    (hwalk : (disk.moment followLinks time).eval (walk options root) = .ok listings) :
    StillFiles.Enters (disk.files followLinks hproper) options
        ((∅ : Walk.Identities).insert ((disk.files followLinks hproper).identity root)) [(root, 0)]
        listings ∧
      listings.length ≤ disk.directoryCount + 1 := by
  obtain ⟨identity, hidentity, henter⟩ := Moment.exists_of_eval_walk hwalk
  have hroot : (disk.files followLinks hproper).identity root = identity :=
    identity_files hproper hidentity
  have hlisted := @identity_mem_listed_files disk followLinks root hproper hdirectory
  -- The root has been met, so one step is left for each other directory on the disk.
  have hunmet : [(root, 0)].length + StillFiles.Keeps.unmet
      (insert ((disk.files followLinks hproper).identity root)
        (disk.files followLinks hproper).listed) ((∅ : Walk.Identities).insert identity) ≤
          disk.directoryCount + 1 := by
    rw [Finset.insert_eq_of_mem hlisted, List.length_singleton, Nat.add_comm]
    refine le_trans ?_ (disk.files followLinks hproper).card_listed_le
    rw [Nat.add_one_le_iff, StillFiles.Keeps.unmet]
    exact Finset.card_lt_card (Finset.filter_ssubset.2 ⟨_, hlisted, by simp [hroot]⟩)
  have halike : ∀ listing ∈ listings, ∀ entries,
      (disk.moment followLinks time).eval (Walk.list listing.directory) = .ok entries →
        (∀ entry ∈ entries, entry.path = listing.directory.child entry.name) ∧
          (disk.moment followLinks time).LooksAlike
            ((disk.files followLinks hproper).moment (disk.moment followLinks time)) options
            (Moment.level root listing.directory) listing.directory entries := by
    intro listing _ entries hlist
    refine ⟨fun entry hentry => ?_, looksAlike_files hproper _ hlist⟩
    rw [eval_list_eq_entriesAt hlist] at hentry
    obtain ⟨place, name, item, -, -, rfl⟩ := exists_item_of_mem hproper.nodup hentry
    rfl
  have hfiles := Moment.eval_enter_congr halike (by simp [Moment.level]) henter
  rw [StillFiles.eval_moment] at hfiles
  have hrun := Except.ok.inj hfiles
  have henters := @StillFiles.enters_run (disk.files followLinks hproper) options root _ _ _
    (by simpa using StillFiles.Reaches.root) hunmet
  rw [hroot]
  exact ⟨hrun ▸ henters, hrun ▸ StillFiles.length_run_enter_le _ _ _⟩

theorem run_walk_files (hproper : disk.Proper) (hdirectory : disk.isDirectory root = .ok true)
    (hwalk : (disk.moment followLinks time).eval (walk options root) = .ok listings) :
    (disk.files followLinks hproper).run (walk options root) = listings := by
  obtain ⟨henters, hlength⟩ := enters_of_eval_walk hproper hdirectory hwalk
  have hrun := henters.run_eq (show listings.length ≤ disk.directoryCount + 1 + 1 by omega)
  simp only [walk, StillFiles.run_bind, StillFiles.run_send_identity,
    StillFiles.run_send_directoryBound, StillFiles.run_pure]
  exact hrun

/-! ## What is listed -/

theorem byText_files (hproper : disk.Proper) (around : Moment) :
    ((disk.files followLinks hproper).moment around).ByText := by
  intro p q htext
  simp only [StillFiles.moment, files, htext, and_self]

theorem entries_files (hproper : disk.Proper) (directory : Path) :
    (disk.files followLinks hproper).entries directory = disk.entriesAt followLinks directory := by
  have hlist : (disk.files followLinks hproper).list directory =
      refusing (disk.list followLinks directory) := rfl
  rw [StillFiles.entries, hlist, Disk.entriesAt]
  cases disk.list followLinks directory with
  | ok entries => rfl
  | error e =>
    obtain ⟨refusal, hrefusing⟩ := @exists_refusing_error (List Entry) e
    rw [hrefusing]
    rfl

section Reached

variable {hproper : disk.Proper} {excluded : List String} {directory : Path}
  (h : StillFiles.Reaches (disk.files followLinks hproper) excluded root directory)
include h

/-- Whatever may be entered is a directory. -/
theorem exists_leads_of_reaches (hdirectory : disk.isDirectory root = .ok true) :
    directory.hasNull = false ∧ ∃ n target,
      disk.Leads n (disk.start directory.isAbsolute) directory.names target ∧
        disk.item? target = some .directory := by
  cases h with
  | root =>
    obtain ⟨place, hstatus⟩ := isDirectory_eq_true_iff.1 hdirectory
    obtain ⟨hnull, ⟨n, hleads⟩, hplace⟩ := exists_leads_of_status hproper hstatus
    exact ⟨hnull, n, place, hleads, hplace⟩
  | entry _ hentry hkind =>
    exact exists_leads_of_mem hproper (entries_files hproper _ ▸ hentry) hkind

theorem isSpelt_of_reaches (hroot : root.IsSpelt) : directory.IsSpelt := by
  induction h with
  | root => exact hroot
  | entry _ hentry _ _ ih =>
    exact isSpelt_of_mem hproper (entries_files hproper _ ▸ hentry) ih

end Reached

end Disk

end ScriptStats
