import ScriptStats.Proofs.Files.Listing
import ScriptStats.Proofs.Files.Write

/-!
# Real paths of what is there

The real path of what a path leads to is the way to its place (`realPath_of_status`). For a directory that is
known from the steps that lead to it. Links are all that counts for a real path, so a file may be taken for a
directory.
-/

namespace ScriptStats.Disk

variable {disk left : Disk} {place : Place} {path : Path} {item : DiskItem}

/-! ## Only links count -/

theorem realSteps_congr (hcurrent : left.current = disk.current)
    (hlinks : ∀ place text, left.item? place = some (.link text) ↔ disk.item? place = some (.link text))
    (fuel : Nat) (busy : List Path) (here : Path) (steps : List String) :
    left.realSteps fuel busy here steps = disk.realSteps fuel busy here steps := by
  have habsolute (path : Path) : left.absolutePath path = disk.absolutePath path := by
    rw [absolutePath, absolutePath, start, start, hcurrent]
  have hlink {path : Path} {text : String} : left.item? (left.absolutePath path).names = some (.link text) ↔
      disk.item? (disk.absolutePath path).names = some (.link text) := by
    rw [habsolute, hlinks]
  fun_induction realSteps disk fuel busy here steps with
  | case1 => rw [realSteps]
  | case2 _ _ _ _ _ hskip ih =>
    rw [realSteps, if_pos hskip]
    exact ih
  | case3 _ _ _ _ hskip ih =>
    rw [realSteps, if_neg hskip, if_pos rfl]
    exact ih
  | case4 _ _ _ _ hskip hup _ _ _ hitem hmet =>
    rw [realSteps_link hskip hup (hlink.2 hitem) rfl, if_pos hmet]
  | case5 _ _ _ _ hskip hup _ _ _ hitem hmet start _ hway ihway ih =>
    simp only [start, dite_eq_ite] at ihway hway
    rw [realSteps_link hskip hup (hlink.2 hitem) (ihway.trans hway), if_neg hmet, if_pos rfl]
    exact ih
  | case6 _ _ _ _ hskip hup _ _ _ hitem hmet start _ hway ihway =>
    simp only [start, dite_eq_ite] at ihway hway
    rw [realSteps_link hskip hup (hlink.2 hitem) (ihway.trans hway), if_neg hmet]
    rfl
  | case7 _ _ _ _ hskip hup _ _ hnone ih =>
    rw [realSteps, if_neg hskip, if_neg hup]
    dsimp only
    split
    next hitem => exact (hnone _ _ rfl (hlink.1 hitem)).elim
    next => exact ih

section Put

variable (hfree : disk.IsFree place) (hitem : ∀ text, item ≠ .link text)
include hfree hitem

theorem item?_put_link_iff (there : Place) (text : String) :
    (disk.put place item).item? there = some (.link text) ↔ disk.item? there = some (.link text) := by
  by_cases heq : there = place
  · subst heq
    rw [item?_put_self hfree.ne_nil]
    exact iff_of_false (fun h => hitem text (Option.some_inj.1 h)) (hfree.not_link text)
  · rw [item?_put_of_ne heq]

/-- What is put leaves all links and is none. -/
theorem linkCount_put (hnodup : (disk.items.map Prod.fst).Nodup) :
    (disk.put place item).linkCount = disk.linkCount := by
  have hnew : ∀ text, (place, item).2 ≠ .link text := hitem
  rw [linkCount, linkCount, put, List.countP_cons_of_neg (by cases item <;> simp_all),
    List.countP_filter]
  refine List.countP_congr fun found hfound => ?_
  obtain ⟨there, found⟩ := found
  cases found with
  | link text =>
    have hne : there ≠ place := by
      rintro rfl
      exact hfree.not_link text (item?_of_mem hnodup hfree.ne_nil hfound)
    simp [hne]
  | _ => simp

theorem realPath_put (hnodup : (disk.items.map Prod.fst).Nodup) (path : Path) :
    (disk.put place item).realPath path = disk.realPath path := by
  have hcurrent : (disk.put place item).current = disk.current := rfl
  simp only [realPath, linkCount_put hfree hitem hnodup, hcurrent,
    realSteps_congr hcurrent (item?_put_link_iff hfree hitem)]
  rfl

end Put

/-! ## What led to a directory -/

theorem Leads.put {n : Nat} {here target : Place} {steps : List String}
    (h : disk.Leads n here steps target) (hfree : disk.IsFree place) (item : DiskItem) :
    (disk.put place item).Leads n here steps target := by
  have hkept {there : Place} {found : DiskItem} (hthere : disk.item? there = some found)
      (hne : there ≠ place) : (disk.put place item).item? there = some found := by
    rwa [item?_put_of_ne hne]
  induction h with
  | here => exact .here
  | skip hname _ ih => exact .skip hname ih
  | up _ ih => exact .up ih
  | enter hname hdirectory _ ih =>
    exact .enter hname (hkept hdirectory fun heq => hfree.not_directory (heq ▸ hdirectory)) ih
  | follow hname hlink _ _ ihway ih =>
    exact .follow hname (hkept hlink fun heq => hfree.not_link _ (heq ▸ hlink)) ihway ih

/-- Where steps would lead if there were a directory at a free place, the real path leads already. -/
theorem realPath_of_leads_put {n : Nat} {target : Place} (hproper : disk.Proper)
    (hfree : disk.IsFree place) (hnull : path.hasNull = false)
    (h : (disk.put place .directory).Leads n (disk.start path.isAbsolute) path.names target) :
    disk.realPath path = .ok (pathOf target) := by
  rw [← @realPath_put disk _ .directory hfree nofun hproper.nodup]
  exact Leads.realPath h (hproper.plainSteps_start path.isAbsolute) hnull

/-- In a directory, the real path of a name is the way to its place if it is not that of a link. -/
theorem Leads.realPath_child {n : Nat} {target : Place} {name : String}
    (h : disk.Leads n (disk.start path.isAbsolute) path.names target) (hproper : disk.Proper)
    (hname : IsEntryName name) (hnull : path.hasNull = false)
    (hlink : ∀ text, disk.item? (target ++ [name]) ≠ some (.link text)) :
    disk.realPath (path.child name) = .ok (pathOf (target ++ [name])) := by
  have hnull' : (path.child name).hasNull = false := by rwa [hname.hasNull_child]
  by_cases hdirectory : disk.item? (target ++ [name]) = some .directory
  · exact Leads.realPath (h.append (.enter hname hdirectory .here))
      (hproper.plainSteps_start path.isAbsolute) hnull'
  · have hfree : disk.IsFree (target ++ [name]) := ⟨List.concat_ne_nil _ _, hdirectory, hlink⟩
    have hthere : (disk.put (target ++ [name]) .directory).item? (target ++ [name]) = some .directory :=
      item?_put_self hfree.ne_nil .directory
    exact realPath_of_leads_put hproper hfree hnull'
      ((h.put hfree .directory).append (.enter hname hthere .here))

/-- A disk on which a file becomes a directory. -/
theorem Proper.put_directory (h : disk.Proper) {bytes : Bytes} {modified : Int}
    (hfree : disk.IsFree place) (hfile : disk.item? place = some (.file bytes modified)) :
    (disk.put place .directory).Proper := by
  have hnamed : ∀ name ∈ place, IsEntryName name := h.named _ (mem_items hfree.ne_nil hfile)
  have hdirectory {there : Place} (hthere : disk.item? there = some .directory) :
      (disk.put place .directory).item? there = some .directory := by
    have hne : there ≠ place := fun heq => hfree.not_directory (heq ▸ hthere)
    rwa [item?_put_of_ne hne]
  refine ⟨nodup_put h.nodup, ?_, ?_, ?_, hdirectory h.current⟩
  all_goals
    rw [put, List.forall_mem_cons]
  · exact ⟨hfree.ne_nil, fun found hfound => h.ne_nil found (List.mem_filter.1 hfound).1⟩
  · exact ⟨hnamed, fun found hfound => h.named found (List.mem_filter.1 hfound).1⟩
  · exact ⟨hdirectory (h.item?_dropLast hfile), fun found hfound =>
      hdirectory (h.within found (List.mem_filter.1 hfound).1)⟩

theorem item?_of_find {last : LastLink} {budget : Nat} {here : Place} {steps : List String}
    (h : disk.find last budget here steps = .ok (place, some item)) (hitem : item ≠ .directory) :
    disk.item? place = some item := by
  fun_induction find disk last budget here steps with
  | case1 => exact absurd (Option.some_inj.1 (Prod.mk.inj (Except.ok.inj h)).2).symm hitem
  | case2 _ _ _ _ ih => exact ih h
  | case3 _ _ _ _ _ ih => exact ih h
  | case7 _ _ _ _ _ _ _ _ _ _ ih => exact ih h
  | case8 _ _ _ _ _ _ _ _ _ _ hfound =>
    obtain ⟨rfl, heq⟩ := Prod.mk.inj (Except.ok.inj h)
    exact hfound.trans heq
  | case10 _ _ _ _ _ _ _ _ _ _ hfound =>
    obtain ⟨rfl, heq⟩ := Prod.mk.inj (Except.ok.inj h)
    exact hfound.trans heq
  | case12 _ _ _ _ _ _ _ _ _ _ _ _ _ _ _ _ _ ih => exact ih h
  | _ => simp at h

/-! ## Real paths -/

theorem realPath_of_resolve {real : Path} (h : disk.resolve path = .ok real) :
    disk.realPath path = .ok real := by
  unfold resolve at h
  cases hreal : disk.realPath path with
  | error e =>
    rw [hreal] at h
    cases h
  | ok found =>
    rw [hreal] at h
    dsimp only [bind, Except.bind] at h
    split at h
    · cases h
    · exact h

/-- A real path is what a path is resolved to, unless too many links are met on it. -/
theorem resolve_eq {real : Path} (hreal : disk.realPath path = .ok real)
    (hlocate : ∀ text, disk.locate .follow real ≠ .error (.fault .tooManyLinks text)) :
    disk.resolve path = .ok real := by
  rw [resolve, hreal]
  dsimp only [bind, Except.bind]
  split
  next text htext => exact absurd htext (hlocate text)
  next => rfl

section Proper

variable (hproper : disk.Proper)
include hproper

theorem item?_of_status (hstatus : disk.status path = .ok (place, item)) :
    disk.item? place = some item := by
  by_cases hitem : item = .directory
  · subst hitem
    exact (exists_leads_of_status hproper hstatus).2.2
  · exact item?_of_find (locate_eq_ok_iff.1 (status_eq_ok_iff.1 hstatus)).2.2 hitem

/-- The real path of what a path leads to is the way to its place. -/
theorem realPath_of_status (hstatus : disk.status path = .ok (place, item)) :
    disk.realPath path = .ok (pathOf place) := by
  obtain ⟨hnull, -, hfind⟩ := locate_eq_ok_iff.1 (status_eq_ok_iff.1 hstatus)
  have hplace := item?_of_status hproper hstatus
  cases item with
  | directory =>
    obtain ⟨n, hleads⟩ := exists_leads_of_find hproper hfind
    exact hleads.realPath (hproper.plainSteps_start path.isAbsolute) hnull
  | file bytes modified =>
    have hfree := isFree_of_find (by decide) hfind (by simp)
    -- As a directory the file is where steps lead to, and its real path is the same.
    have hput : (disk.put place .directory).find .follow linkLimit _ _ = _ :=
      find_put hfree (by decide) hfind (by simp) nofun
    obtain ⟨n, hleads⟩ := exists_leads_of_find (hproper.put_directory hfree hplace) hput
    exact realPath_of_leads_put hproper hfree hnull hleads
  | link text => exact absurd hplace ((isFree_of_find (by decide) hfind (by simp)).not_link text)

theorem item?_of_append {more : List String} (h : disk.item? (place ++ more) = some .directory) :
    disk.item? place = some .directory := by
  induction more using List.reverseRecOn with
  | nil => rwa [List.append_nil] at h
  | append_singleton more name ih =>
    refine ih ?_
    have hbefore := hproper.item?_dropLast h
    rwa [← List.append_assoc, List.dropLast_concat] at hbefore

/-- No link is met on the way from directory to directory. -/
theorem find_ne_tooManyLinks {last : LastLink} {budget : Nat} {here : Place} {steps : List String}
    (h : disk.item? (here ++ steps) = some .directory) :
    disk.find last budget here steps ≠ .error .tooManyLinks := by
  induction steps generalizing here with
  | nil => simp [find]
  | cons name steps ih =>
    have hname : IsEntryName name := hproper.named _ (mem_items (by simp) h) name (by simp)
    rw [List.append_cons] at h
    rw [find, if_neg hname.2.1, if_neg hname.2.2.1]
    split
    next => simp
    next =>
      dsimp only
      rw [item?_of_append hproper h]
      exact ih h

/-- A path with the real path of a directory is resolved. -/
theorem resolve_of_realPath (hreal : disk.realPath path = .ok (pathOf place))
    (hplace : disk.item? place = some .directory) : disk.resolve path = .ok (pathOf place) := by
  have hfind : disk.find .follow linkLimit [] place ≠ .error .tooManyLinks :=
    find_ne_tooManyLinks hproper hplace
  refine resolve_eq hreal fun text => ?_
  unfold locate
  split
  · simp
  split
  · simp
  change (disk.find .follow linkLimit [] place).mapError _ ≠ _
  cases hfound : disk.find .follow linkLimit [] place with
  | ok target => nofun
  | error fault =>
    rintro ⟨⟩
    exact hfind hfound

theorem hasNull_pathOf (hplace : disk.item? place = some item) : (pathOf place).hasNull = false := by
  rw [Path.hasNull, List.any_eq_false]
  intro name hname
  have hnamed := hproper.named _ (mem_items (List.ne_nil_of_mem hname) hplace) name hname
  rw [hnamed.2.2.2.2]
  exact Bool.false_ne_true

/-- From the root, the names of a directory are its real path. -/
theorem resolve_pathOf (hplace : disk.item? place = some .directory) :
    disk.resolve (pathOf place) = .ok (pathOf place) := by
  refine resolve_of_realPath hproper ?_ hplace
  exact (leads_place hproper hplace).realPath (hproper.plainSteps_start _)
    (hasNull_pathOf hproper hplace)

end Proper

end ScriptStats.Disk
