import ScriptStats.Proofs.Analysis.Discovery

/-!
# The frontier of a walk

What holds between the directories that are due and the listings that come of them. A walk without
a bound on its depth ends with the reachable identities, each met once.
-/

namespace ScriptStats.StillFiles

variable {files : StillFiles} {options : WalkOptions}

theorem identities_below (files : StillFiles) (directory : Path) (kept : List Entry) (depth : Nat) :
    (Listing.below ⟨directory, kept⟩ depth).map (fun due => files.identity due.1) =
      files.identities kept := by
  simp [Listing.below, Listing.directories, identities]

theorem reaches_below {root directory : Path} {depth : Nat} {met met' : Walk.Identities}
    {kept : List Entry} (hkeeps : Keeps files options depth met (files.entries directory) kept met')
    (hdirectory : Reaches files options.excluded root directory) :
    ∀ due ∈ Listing.below ⟨directory, kept⟩ depth, Reaches files options.excluded root due.1 := by
  intro due hdue
  simp only [Listing.below, Listing.directories, List.mem_map, List.mem_filter] at hdue
  obtain ⟨entry, ⟨hentry, hkind⟩, rfl⟩ := hdue
  exact .entry hdirectory (hkeeps.sublist.subset hentry) hkind (hkeeps.admitted hentry hkind).1

/-- Every directory that is due has been met, and none twice. -/
structure IsFrontier (files : StillFiles) (met : Walk.Identities) (due : List (Path × Nat)) :
    Prop where
  nodup : (due.map fun directory => files.identity directory.1).Nodup
  met : ∀ directory ∈ due, files.identity directory.1 ∈ met

theorem isFrontier_root (files : StillFiles) (root : Path) : files.IsFrontier
    ((∅ : Walk.Identities).insert (files.identity root)) [(root, 0)] where
  nodup := by simp
  met := by simp

/-- The directories that one step makes due have not been met before. -/
theorem IsFrontier.next {met met' : Walk.Identities} {directory : Path} {depth : Nat}
    {due : List (Path × Nat)} {kept : List Entry}
    (h : files.IsFrontier met ((directory, depth) :: due))
    (hkeeps : Keeps files options depth met (files.entries directory) kept met') :
    files.IsFrontier met' (Listing.below ⟨directory, kept⟩ depth ++ due) := by
  have hbelow := files.identities_below directory kept depth
  have hnodup := h.nodup
  have hmet := h.met
  simp only [List.map_cons, List.nodup_cons, List.mem_cons, forall_eq_or_imp] at hnodup hmet
  refine ⟨?_, fun other hother => hkeeps.mem_iff.2 ?_⟩
  · rw [List.map_append, hbelow, List.nodup_append]
    refine ⟨hkeeps.nodup, hnodup.2, ?_⟩
    rintro identity hnew _ hdue rfl
    obtain ⟨other, hother, rfl⟩ := List.mem_map.1 hdue
    exact hkeeps.notMem hnew (hmet.2 other hother)
  · rcases List.mem_append.1 hother with hother | hother
    · exact .inr (hbelow ▸ List.mem_map_of_mem hother)
    · exact .inl (hmet.2 other hother)

/-! ## A bound on the steps -/

theorem Reaches.identity_mem {excluded : List String} {root directory : Path}
    (h : Reaches files excluded root directory) :
    files.identity directory ∈ insert (files.identity root) files.listed := by
  cases h with
  | root => exact Finset.mem_insert_self ..
  | entry _ hentry hkind _ =>
    exact Finset.mem_insert_of_mem (identity_mem_listed_of_entries hentry hkind)

/-- With a step for each directory that is due and each identity not met yet, a walk runs to its
end. -/
theorem enters_run {root : Path} {fuel : Nat} {met : Walk.Identities}
    {due : List (Path × Nat)}
    (hdue : ∀ directory ∈ due, Reaches files options.excluded root directory.1)
    (hfuel : due.length + Keeps.unmet (insert (files.identity root) files.listed) met ≤ fuel) :
    Enters files options met due (files.run (Walk.enter options fuel met due)) := by
  induction fuel generalizing met due with
  | zero =>
    obtain rfl : due = [] := List.length_eq_zero_iff.1 (by omega)
    exact .done
  | succ fuel ih =>
    obtain _ | ⟨⟨directory, depth⟩, due⟩ := due
    · exact .done
    simp only [List.mem_cons, forall_eq_or_imp] at hdue
    have hkeeps := keeps_run files options depth met (files.entries directory)
    have hbelow := reaches_below hkeeps hdue.1
    have hless := hkeeps.length_add_unmet_le (insert (files.identity root) files.listed)
        fun identity hidentity => by
      rw [← files.identities_below directory _ depth, List.mem_map] at hidentity
      obtain ⟨below, hmem, rfl⟩ := hidentity
      exact (hbelow below hmem).identity_mem
    simp only [Walk.enter, run_bind, run_list, run_pure]
    refine .next hkeeps (ih ?_ ?_)
    · simp only [List.mem_append]
      rintro entered (hmem | hmem)
      · exact hbelow entered hmem
      · exact hdue.2 entered hmem
    · rw [← files.identities_below directory _ depth, List.length_map] at hless
      simp only [List.length_append, List.length_cons] at hfuel ⊢
      omega

theorem enters_walk (files : StillFiles) (options : WalkOptions) (root : Path) :
    Enters files options ((∅ : Walk.Identities).insert (files.identity root)) [(root, 0)]
      (files.run (walk options root)) := by
  simp only [walk, run_bind, run_send_directoryBound, run_send_identity, run_pure]
  refine enters_run (by simpa using Reaches.root) ?_
  have hcard : (insert (files.identity root) files.listed).card ≤ files.directoryBound + 1 :=
    (Finset.card_insert_le ..).trans (Nat.add_le_add_right files.card_listed_le 1)
  generalize hall : insert (files.identity root) files.listed = all at hcard ⊢
  have hroot : Keeps.unmet all ((∅ : Walk.Identities).insert (files.identity root)) <
      Keeps.unmet all ∅ := Keeps.unmet_insert_lt (hall ▸ Finset.mem_insert_self ..) (by simp)
  have htotal : Keeps.unmet all ∅ ≤ all.card := Finset.card_filter_le _ _
  simp only [List.length_singleton]
  omega

/-! ## What a walk finds -/

namespace Enters

variable {met : Walk.Identities} {due : List (Path × Nat)} {listings : List Listing}

/-- What is due is found in the order in which it is due, whatever comes between. -/
theorem due_sublist (h : Enters files options met due listings) :
    (due.map Prod.fst).Sublist (listings.map Listing.directory) := by
  induction h with
  | done => exact List.Sublist.slnil
  | next _ _ ih =>
    rw [List.map_append] at ih
    exact ((List.sublist_append_right _ _).trans ih).cons_cons _

theorem keeps (h : Enters files options met due listings) {listing : Listing}
    (hlisting : listing ∈ listings) : ∃ depth met met',
      Keeps files options depth met (files.entries listing.directory) listing.entries met' := by
  induction h with
  | done => simp at hlisting
  | next hkeeps _ ih =>
    rcases List.mem_cons.1 hlisting with rfl | hlisting
    · exact ⟨_, _, _, hkeeps⟩
    · exact ih hlisting

theorem reaches {root : Path} (h : Enters files options met due listings)
    (hdue : ∀ directory ∈ due, Reaches files options.excluded root directory.1) :
    ∀ listing ∈ listings, Reaches files options.excluded root listing.directory := by
  induction h with
  | done => simp
  | next hkeeps _ ih =>
    simp only [List.mem_cons, forall_eq_or_imp] at hdue ⊢
    refine ⟨hdue.1, ih fun directory hmem => ?_⟩
    rcases List.mem_append.1 hmem with hmem | hmem
    · exact reaches_below hkeeps hdue.1 directory hmem
    · exact hdue.2 directory hmem

/-- The directories that are found have identities of their own. Those that were not due have not
been met before. -/
theorem identities_nodup (h : Enters files options met due listings)
    (hfrontier : files.IsFrontier met due) :
    (listings.map fun listing => files.identity listing.directory).Nodup ∧
      ∀ listing ∈ listings, files.identity listing.directory ∈ met →
        files.identity listing.directory ∈ due.map fun directory => files.identity directory.1 := by
  induction h with
  | done => simp
  | @next met met' directory depth due kept more hkeeps _ ih =>
    obtain ⟨hnodup, hold⟩ := ih (hfrontier.next hkeeps)
    obtain ⟨hdue, hmet⟩ := hfrontier
    simp only [List.map_cons, List.nodup_cons, List.mem_cons, forall_eq_or_imp] at hdue hmet ⊢
    rw [List.map_append, files.identities_below directory kept depth] at hold
    have hmore : ∀ listing ∈ more, files.identity listing.directory ∈ met →
        files.identity listing.directory ∈ due.map fun directory => files.identity directory.1 := by
      intro listing hlisting hold'
      have hin := hold listing hlisting (hkeeps.mem_iff.2 (.inl hold'))
      exact (List.mem_append.1 hin).resolve_left fun hnew => hkeeps.notMem hnew hold'
    refine ⟨⟨?_, hnodup⟩, fun _ => .inl trivial, fun listing hlisting hold' =>
      .inr (hmore listing hlisting hold')⟩
    rw [List.mem_map]
    rintro ⟨listing, hlisting, heq⟩
    exact hdue.1 (heq ▸ hmore listing hlisting (heq ▸ hmet.1))

/-- What holds of the directories that are due, with their depths, and goes on to hold below them, holds
of all that are found. Where the depth allows it, all that may be entered from there has been met. -/
theorem exists_depth (h : Enters files options met due listings) (P : Nat → Path → Prop)
    (hdue : ∀ directory ∈ due, P directory.2 directory.1)
    (hbelow : ∀ {depth met met' directory kept}, P depth directory →
      Keeps files options depth met (files.entries directory) kept met' →
      ⟨directory, kept⟩ ∈ listings →
      ∀ below ∈ Listing.below ⟨directory, kept⟩ depth, P below.2 below.1)
    {listing : Listing} (hlisting : listing ∈ listings) :
    ∃ depth, P depth listing.directory ∧ (Walk.tooDeep options depth = false →
      ∀ entry ∈ files.entries listing.directory, entry.isDirectory = true →
        entry.name ∉ options.excluded →
        files.identity entry.path ∈ met ∨ files.identity entry.path ∈
          listings.map fun listing => files.identity listing.directory) := by
  induction h with
  | done => simp at hlisting
  | @next met met' directory depth due kept more hkeeps hmore ih =>
    have hfound : ∀ identity ∈ met', identity ∈ met ∨ identity ∈
        more.map fun listing => files.identity listing.directory := by
      intro identity hidentity
      refine (hkeeps.mem_iff.1 hidentity).imp_right fun hnew => ?_
      have hsub := (hmore.due_sublist.map files.identity).subset
      rw [← files.identities_below directory kept depth] at hnew
      simp only [List.map_map, List.map_append] at hsub
      exact hsub (List.mem_append_left _ hnew)
    simp only [List.mem_cons, forall_eq_or_imp] at hdue
    rcases List.mem_cons.1 hlisting with rfl | hlisting
    · refine ⟨depth, hdue.1, fun hdeep entry hentry hdirectory hexcluded => ?_⟩
      have hmet' := hkeeps.covers hentry hdirectory hexcluded hdeep
      exact (hfound _ hmet').imp_right fun h => List.mem_cons_of_mem _ h
    · have hdue' : ∀ below ∈ Listing.below ⟨directory, kept⟩ depth ++ due, P below.2 below.1 := by
        intro below hmem
        rcases List.mem_append.1 hmem with hmem | hmem
        · exact hbelow hdue.1 hkeeps (List.mem_cons_self ..) below hmem
        · exact hdue.2 below hmem
      obtain ⟨depth, hdepth, hcovers⟩ := ih hdue'
        (fun hP hkeeps hmem => hbelow hP hkeeps (List.mem_cons_of_mem _ hmem)) hlisting
      refine ⟨depth, hdepth, fun hdeep entry hentry hdirectory hexcluded => ?_⟩
      rcases hcovers hdeep entry hentry hdirectory hexcluded with hmet' | hmem
      · exact (hfound _ hmet').imp_right fun h => List.mem_cons_of_mem _ h
      · exact .inr (List.mem_cons_of_mem _ hmem)

/-- Where a walk has entered a directory, it has met all that may be entered from there. -/
theorem covers (h : Enters files options met due listings) (hdepth : options.maxDepth = none)
    {listing : Listing} (hlisting : listing ∈ listings) {entry : Entry}
    (hentry : entry ∈ files.entries listing.directory) (hdirectory : entry.isDirectory = true)
    (hexcluded : entry.name ∉ options.excluded) :
    files.identity entry.path ∈ met ∨ files.identity entry.path ∈
      listings.map fun listing => files.identity listing.directory := by
  obtain ⟨depth, -, hcovers⟩ := h.exists_depth (fun _ _ => True) (fun _ _ => trivial)
    (fun _ _ _ _ _ => trivial) hlisting
  exact hcovers (by simp [Walk.tooDeep, hdepth]) entry hentry hdirectory hexcluded

end Enters

/-- A walk enters no directory twice. -/
theorem directories_nodup (files : StillFiles) (options : WalkOptions) (root : Path) :
    ((files.run (walk options root)).map Listing.directory).Nodup := by
  have hnodup := ((files.enters_walk options root).identities_nodup (files.isFrontier_root root)).1
  exact List.Nodup.of_map files.identity (by rwa [List.map_map])

theorem identity_root_mem (files : StillFiles) (options : WalkOptions) (root : Path) :
    files.identity root ∈ (files.run (walk options root)).map
      fun listing => files.identity listing.directory := by
  have hsub := ((files.enters_walk options root).due_sublist.map files.identity).subset
  simp only [List.map_map] at hsub
  exact hsub (List.mem_cons_self ..)

end ScriptStats.StillFiles
