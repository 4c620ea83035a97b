import Mathlib.Data.List.Nodup
import ScriptStats.Proofs.Analysis.Still

/-!
# Discovery

What a walk over still files does, as a relation that knows no bound on its steps. The bound under
which the walk runs is never reached if the identities that can be met are no more.
-/

namespace ScriptStats

namespace Listing

/-- The directories that a listing adds to those that are due. -/
def below (listing : Listing) (depth : Nat) : List (Path × Nat) :=
  listing.directories.map fun entry => (entry.path, depth + 1)

end Listing

namespace StillFiles

/-- The directories to which the names of directories lead that are not left out. -/
inductive Reaches (files : StillFiles) (excluded : List String) (root : Path) : Path → Prop where
  | root : Reaches files excluded root root
  | entry {directory entry} : Reaches files excluded root directory →
      entry ∈ files.entries directory → entry.isDirectory = true → entry.name ∉ excluded →
      Reaches files excluded root entry.path

/-- The directories to which so many names of directories lead, one after the other, that are not left
out. -/
inductive ReachesIn (files : StillFiles) (excluded : List String) (root : Path) : Nat → Path → Prop where
  | root : ReachesIn files excluded root 0 root
  | entry {n directory entry} : ReachesIn files excluded root n directory →
      entry ∈ files.entries directory → entry.isDirectory = true → entry.name ∉ excluded →
      ReachesIn files excluded root (n + 1) entry.path

/-- The entries of one directory that count, and the identities that are met afterwards. -/
inductive Keeps (files : StillFiles) (options : WalkOptions) (depth : Nat) :
    Walk.Identities → List Entry → List Entry → Walk.Identities → Prop where
  | nil {met} : Keeps files options depth met [] [] met
  | enter {met met' entry entries kept} : entry.isDirectory = true →
      entry.name ∉ options.excluded → Walk.tooDeep options depth = false →
      files.identity entry.path ∉ met →
      Keeps files options depth (met.insert (files.identity entry.path)) entries kept met' →
      Keeps files options depth met (entry :: entries) (entry :: kept) met'
  | skip {met met' entry entries kept} : entry.isDirectory = true →
      (entry.name ∈ options.excluded ∨ Walk.tooDeep options depth = true ∨
        files.identity entry.path ∈ met) →
      Keeps files options depth met entries kept met' →
      Keeps files options depth met (entry :: entries) kept met'
  | script {met met' entry entries kept} : entry.isDirectory = false →
      Walk.isScriptName options entry.name = true →
      Keeps files options depth met entries kept met' →
      Keeps files options depth met (entry :: entries) (entry :: kept) met'
  | other {met met' entry entries kept} : entry.isDirectory = false →
      Walk.isScriptName options entry.name = false →
      Keeps files options depth met entries kept met' →
      Keeps files options depth met (entry :: entries) kept met'

/-- The listings of the directories that are due and of all that are found below them. -/
inductive Enters (files : StillFiles) (options : WalkOptions) :
    Walk.Identities → List (Path × Nat) → List Listing → Prop where
  | done {met} : Enters files options met [] []
  | next {met met' directory depth due kept more} :
      Keeps files options depth met (files.entries directory) kept met' →
      Enters files options met' (Listing.below ⟨directory, kept⟩ depth ++ due) more →
      Enters files options met ((directory, depth) :: due) (⟨directory, kept⟩ :: more)

variable {files : StillFiles} {options : WalkOptions} {depth : Nat}

/-! ## The entries of one directory -/

theorem run_admits (met : Walk.Identities) (entry : Entry) :
    files.run (Walk.admits options depth met entry) =
      if entry.name ∈ options.excluded ∨ Walk.tooDeep options depth = true ∨
          files.identity entry.path ∈ met then (false, met)
      else (true, met.insert (files.identity entry.path)) := by
  simp only [Walk.admits, List.contains_iff_mem, Std.ExtTreeSet.contains_iff_mem]
  by_cases hexcluded : entry.name ∈ options.excluded
  · simp [hexcluded]
  by_cases hdeep : Walk.tooDeep options depth = true
  · simp [hexcluded, hdeep]
  by_cases hmet : files.identity entry.path ∈ met
  · simp [hexcluded, hdeep, hmet]
  · simp [hexcluded, hdeep, hmet]

theorem keeps_run (files : StillFiles) (options : WalkOptions) (depth : Nat)
    (met : Walk.Identities) (entries : List Entry) :
    Keeps files options depth met entries
      (files.run (Walk.keep options depth met entries)).1
      (files.run (Walk.keep options depth met entries)).2 := by
  induction entries generalizing met with
  | nil => exact .nil
  | cons entry entries ih =>
    rw [Walk.keep]
    by_cases hdirectory : entry.isDirectory = true
    · simp only [hdirectory, if_true, run_bind, run_pure, run_admits]
      split
      next hskip => simpa using Keeps.skip hdirectory hskip (ih met)
      next henter =>
        simp only [not_or, Bool.not_eq_true] at henter
        simpa using Keeps.enter hdirectory henter.1 henter.2.1 henter.2.2 (ih _)
    · simp only [Bool.not_eq_true] at hdirectory
      simp only [hdirectory, Bool.false_eq_true, if_false, run_bind, run_pure]
      by_cases hscript : Walk.isScriptName options entry.name = true
      · simpa [hscript] using Keeps.script hdirectory hscript (ih met)
      · simp only [Bool.not_eq_true] at hscript
        simpa [hscript] using Keeps.other hdirectory hscript (ih met)

/-- The identities of the directories among some entries. -/
def identities (files : StillFiles) (entries : List Entry) : List String :=
  (entries.filter (·.isDirectory)).map fun entry => files.identity entry.path

theorem identities_cons_of_directory {entry : Entry} (h : entry.isDirectory = true)
    (entries : List Entry) :
    files.identities (entry :: entries) =
      files.identity entry.path :: files.identities entries := by
  simp [identities, h]

theorem identities_cons_of_script {entry : Entry} (h : entry.isDirectory = false)
    (entries : List Entry) : files.identities (entry :: entries) = files.identities entries := by
  simp [identities, h]

namespace Keeps

variable {met met' : Walk.Identities} {entries kept : List Entry}

theorem sublist (h : Keeps files options depth met entries kept met') : kept.Sublist entries := by
  induction h with
  | nil => exact List.Sublist.slnil
  | enter _ _ _ _ _ ih => exact ih.cons_cons _
  | skip _ _ _ ih => exact ih.cons _
  | script _ _ _ ih => exact ih.cons_cons _
  | other _ _ _ ih => exact ih.cons _

theorem mem_iff (h : Keeps files options depth met entries kept met') {identity : String} :
    identity ∈ met' ↔ identity ∈ met ∨ identity ∈ files.identities kept := by
  induction h with
  | nil => simp [identities]
  | enter hdirectory _ _ _ _ ih =>
    rw [ih, identities_cons_of_directory hdirectory, List.mem_cons,
      Std.ExtTreeSet.mem_insert, Std.compare_eq_iff_eq, eq_comm]
    tauto
  | skip _ _ _ ih => exact ih
  | script hscript _ _ ih => rwa [identities_cons_of_script hscript]
  | other _ _ _ ih => exact ih

theorem notMem (h : Keeps files options depth met entries kept met') {identity : String}
    (hidentity : identity ∈ files.identities kept) : identity ∉ met := by
  induction h with
  | nil => simp [identities] at hidentity
  | enter hdirectory _ _ hnew _ ih =>
    rw [identities_cons_of_directory hdirectory, List.mem_cons] at hidentity
    rcases hidentity with rfl | hidentity
    · exact hnew
    · exact fun hmet => ih hidentity (by simp [hmet])
  | skip _ _ _ ih => exact ih hidentity
  | script hscript _ _ ih => exact ih (identities_cons_of_script hscript _ ▸ hidentity)
  | other _ _ _ ih => exact ih hidentity

theorem nodup (h : Keeps files options depth met entries kept met') :
    (files.identities kept).Nodup := by
  induction h with
  | nil => exact List.nodup_nil
  | enter hdirectory _ _ _ hkeeps ih =>
    rw [identities_cons_of_directory hdirectory, List.nodup_cons]
    exact ⟨fun hmem => hkeeps.notMem hmem (by simp), ih⟩
  | skip _ _ _ ih => exact ih
  | script hscript _ _ ih => rwa [identities_cons_of_script hscript]
  | other _ _ _ ih => exact ih

/-- A directory that is kept may be entered. -/
theorem admitted (h : Keeps files options depth met entries kept met') {entry : Entry}
    (hentry : entry ∈ kept) (hdirectory : entry.isDirectory = true) :
    entry.name ∉ options.excluded ∧ Walk.tooDeep options depth = false := by
  induction h with
  | nil => simp at hentry
  | enter _ hexcluded hdeep _ _ ih =>
    rcases List.mem_cons.1 hentry with rfl | hentry
    · exact ⟨hexcluded, hdeep⟩
    · exact ih hentry
  | skip _ _ _ ih => exact ih hentry
  | script hscript _ _ ih =>
    rcases List.mem_cons.1 hentry with rfl | hentry
    · simp [hscript] at hdirectory
    · exact ih hentry
  | other _ _ _ ih => exact ih hentry

/-- Every directory that may be entered has been met in the end. -/
theorem covers (h : Keeps files options depth met entries kept met') {entry : Entry}
    (hentry : entry ∈ entries) (hdirectory : entry.isDirectory = true)
    (hexcluded : entry.name ∉ options.excluded) (hdeep : Walk.tooDeep options depth = false) :
    files.identity entry.path ∈ met' := by
  induction h with
  | nil => simp at hentry
  | enter _ _ _ _ hkeeps ih =>
    rcases List.mem_cons.1 hentry with rfl | hentry
    · exact hkeeps.mem_iff.2 (.inl (by simp))
    · exact ih hentry
  | skip _ hskip hkeeps ih =>
    rcases List.mem_cons.1 hentry with rfl | hentry
    · refine hkeeps.mem_iff.2 (.inl ?_)
      simpa [hexcluded, hdeep] using hskip
    · exact ih hentry
  | script hscript _ _ ih =>
    rcases List.mem_cons.1 hentry with rfl | hentry
    · simp [hscript] at hdirectory
    · exact ih hentry
  | other hother _ _ ih =>
    rcases List.mem_cons.1 hentry with rfl | hentry
    · simp [hother] at hdirectory
    · exact ih hentry

/-- What is kept of the entries that are no directories are the scripts. -/
theorem scripts_eq (h : Keeps files options depth met entries kept met') :
    kept.filter (!·.isDirectory) =
      entries.filter fun entry =>
        !entry.isDirectory && Walk.isScriptName options entry.name := by
  induction h with
  | nil => rfl
  | enter hdirectory _ _ _ _ ih => simpa [hdirectory] using ih
  | skip hdirectory _ _ ih => simpa [hdirectory] using ih
  | script hscript hname _ ih => simpa [hscript, hname] using ih
  | other hother hname _ ih => simpa [hother, hname] using ih

/-- How many of the identities have not been met. -/
def unmet (identities : Finset String) (met : Walk.Identities) : Nat :=
  (identities.filter (· ∉ met)).card

theorem unmet_insert_lt {all : Finset String} {met : Walk.Identities} {identity : String}
    (hall : identity ∈ all) (hnew : identity ∉ met) :
    unmet all (met.insert identity) < unmet all met := by
  refine Finset.card_lt_card (Finset.ssubset_iff.2 ⟨identity, by simp, fun other hother => ?_⟩)
  simp only [Finset.mem_insert, Finset.mem_filter] at hother ⊢
  rcases hother with rfl | ⟨hmem, hnot⟩
  · exact ⟨hall, hnew⟩
  · exact ⟨hmem, fun hmet => hnot (by simp [hmet])⟩

/-- Every directory that becomes due takes one identity from those not met yet. -/
theorem length_add_unmet_le (h : Keeps files options depth met entries kept met')
    (all : Finset String) (hall : ∀ identity ∈ files.identities kept, identity ∈ all) :
    (files.identities kept).length + unmet all met' ≤ unmet all met := by
  induction h with
  | nil => simp [identities]
  | enter hdirectory _ _ hnew _ ih =>
    rw [identities_cons_of_directory hdirectory] at hall ⊢
    simp only [List.mem_cons, forall_eq_or_imp, List.length_cons] at hall ⊢
    have hless := unmet_insert_lt hall.1 hnew
    have hrest := ih hall.2
    omega
  | skip _ _ _ ih => exact ih hall
  | script hscript _ _ ih =>
    rw [identities_cons_of_script hscript] at hall ⊢
    exact ih hall
  | other _ _ _ ih => exact ih hall

end Keeps

end StillFiles

end ScriptStats
