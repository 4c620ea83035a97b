import Mathlib.Data.List.Induction
import Mathlib.Data.List.Sort
import ScriptStats.Proofs.Files.Leads

/-!
# What a directory lists

A directory lists each of its items once, in the order of that directory. Its directories are known by the
places to which they lead, of which there are no more than directories on the disk.
-/

namespace ScriptStats.Disk

variable {disk : Disk} {followLinks : Bool} {path : Path} {place : Place} {entries : List Entry}

/-- Whether an item of a directory counts as a directory. -/
def actsAsDirectory (disk : Disk) (followLinks : Bool) (place : Place) (name : String) :
    DiskItem → Bool
  | .directory => true
  | .file .. => false
  | .link _ => followLinks && (disk.isDirectory (pathOf (place ++ [name]))).toOption.getD false

/-- The items of a directory by their names. -/
def within (disk : Disk) (place : Place) : List (String × DiskItem) :=
  disk.items.filterMap fun (p, item) =>
    if p.dropLast = place then p.getLast?.map (·, item) else none

theorem list_eq (hstatus : disk.status path = .ok (place, .directory)) :
    disk.list followLinks path =
      .ok (((disk.within place).mergeSort fun a b => (disk.order place).le a.1 b.1).map fun found =>
        ⟨found.1, path.child found.1, disk.actsAsDirectory followLinks place found.1 found.2⟩) := by
  rw [list, hstatus]
  refine congrArg (Except.ok ∘ (List.map · _)) (funext fun found => ?_)
  obtain ⟨name, item⟩ := found
  cases item <;> rfl

theorem mem_within {name : String} {item : DiskItem} :
    (name, item) ∈ disk.within place ↔ (place ++ [name], item) ∈ disk.items := by
  rw [within, List.mem_filterMap]
  constructor
  · rintro ⟨⟨p, found⟩, hmem, hfound⟩
    dsimp only at hfound
    split at hfound
    next hdrop =>
      obtain ⟨last, hlast, heq⟩ := Option.map_eq_some_iff.1 hfound
      obtain ⟨rfl, rfl⟩ := Prod.mk.inj heq
      obtain ⟨before, rfl⟩ := List.getLast?_eq_some_iff.1 hlast
      rw [List.dropLast_concat] at hdrop
      rwa [← hdrop]
    next => cases hfound
  · intro hmem
    exact ⟨_, hmem, by simp⟩

theorem places_within_sublist : ((disk.within place).map fun found => place ++ [found.1]).Sublist
    (disk.items.map Prod.fst) := by
  unfold within
  induction disk.items with
  | nil => exact .slnil
  | cons found items ih =>
    obtain ⟨p, item⟩ := found
    rw [List.filterMap_cons]
    dsimp only
    split
    next => exact ih.cons _
    next found hfound =>
      split at hfound
      next hdrop =>
        obtain ⟨last, hlast, rfl⟩ := Option.map_eq_some_iff.1 hfound
        obtain ⟨before, rfl⟩ := List.getLast?_eq_some_iff.1 hlast
        rw [List.dropLast_concat] at hdrop
        subst hdrop
        exact ih.cons_cons _
      next => cases hfound

theorem nodup_names_within (hnodup : (disk.items.map Prod.fst).Nodup) :
    ((disk.within place).map Prod.fst).Nodup := by
  have hplaces := (@places_within_sublist disk place).nodup hnodup
  rw [← Function.comp_def (place ++ [·]) Prod.fst, ← List.map_map] at hplaces
  exact hplaces.of_map

section Entries

variable (hnodup : (disk.items.map Prod.fst).Nodup)
  (hstatus : disk.status path = .ok (place, .directory))
  (hlist : disk.list followLinks path = .ok entries)
include hnodup hstatus hlist

theorem mem_entries {entry : Entry} : entry ∈ entries ↔ ∃ name item,
    disk.item? (place ++ [name]) = some item ∧
      entry = ⟨name, path.child name, disk.actsAsDirectory followLinks place name item⟩ := by
  rw [list_eq hstatus] at hlist
  obtain rfl := Except.ok.inj hlist
  simp only [List.mem_map, List.mem_mergeSort, Prod.exists]
  refine exists_congr fun name => exists_congr fun item => ?_
  rw [mem_within, eq_comm]
  refine and_congr_left fun _ => ⟨item?_of_mem hnodup (List.concat_ne_nil _ _), fun hitem => ?_⟩
  exact mem_items (List.concat_ne_nil _ _) hitem

omit hnodup in
theorem pairwise_entries : entries.Pairwise fun a b => (disk.order place).le a.name b.name := by
  rw [list_eq hstatus] at hlist
  obtain rfl := Except.ok.inj hlist
  rw [List.pairwise_map]
  exact @List.pairwise_mergeSort (String × DiskItem) (fun a b => (disk.order place).le a.1 b.1)
    (fun _ _ _ => (disk.order place).trans _ _ _) (fun _ _ => (disk.order place).total _ _)
    (disk.within place)

theorem nodup_entries : (entries.map Entry.name).Nodup := by
  rw [list_eq hstatus] at hlist
  obtain rfl := Except.ok.inj hlist
  rw [List.map_map]
  exact ((List.mergeSort_perm _ _).map _).nodup_iff.2 (nodup_names_within hnodup)

end Entries

/-- Entries in order, each name once, are known by which they are. -/
theorem entries_eq {order : NameOrder} {first second : List Entry}
    (hfirst : first.Pairwise fun a b => order.le a.name b.name)
    (hsecond : second.Pairwise fun a b => order.le a.name b.name)
    (hnodup : (first.map Entry.name).Nodup) (hnodup' : (second.map Entry.name).Nodup)
    (hmem : ∀ entry, entry ∈ first ↔ entry ∈ second) : first = second := by
  have hperm : first.Perm second :=
    (List.perm_ext_iff_of_nodup hnodup.of_map hnodup'.of_map).2 hmem
  refine hperm.eq_of_pairwise (fun a b ha hb hab hba => ?_) hfirst hsecond
  exact List.inj_on_of_nodup_map hnodup' ((hmem a).1 ha) hb (order.antisymm _ _ hab hba)

/-! ## The directories among the entries -/

theorem isDirectory_eq_true_iff : disk.isDirectory path = .ok true ↔
    ∃ place, disk.status path = .ok (place, .directory) := by
  unfold isDirectory holds
  cases disk.status path with
  | ok found =>
    obtain ⟨place, item⟩ := found
    cases item <;> simp
  | error e =>
    cases e with
    | fault fault text => cases fault <;> simp
    | _ => simp

theorem getD_toOption_eq_true {found : Except FileError Bool} :
    found.toOption.getD false = true ↔ found = .ok true := by
  cases found with
  | error e => simp [Except.toOption]
  | ok answer => simp [Except.toOption]

theorem status_eq_ok_iff {item : DiskItem} :
    disk.status path = .ok (place, item) ↔ disk.locate .follow path = .ok (place, some item) := by
  unfold status
  cases disk.locate .follow path with
  | error e => simp
  | ok found =>
    obtain ⟨place, _ | item⟩ := found <;> simp

theorem exists_status_of_list (hlist : disk.list followLinks path = .ok entries) :
    ∃ place, disk.status path = .ok (place, .directory) := by
  unfold list at hlist
  cases hstatus : disk.status path with
  | error e =>
    rw [hstatus] at hlist
    cases hlist
  | ok found =>
    obtain ⟨place, item⟩ := found
    rw [hstatus] at hlist
    cases item with
    | directory => exact ⟨place, rfl⟩
    | _ => cases hlist

/-- The entries of a directory. One that cannot be listed seems to have none. -/
def entriesAt (disk : Disk) (followLinks : Bool) (path : Path) : List Entry :=
  (disk.list followLinks path).toOption.getD []

theorem entriesAt_eq_of_list (hlist : disk.list followLinks path = .ok entries) :
    disk.entriesAt followLinks path = entries := by
  rw [Disk.entriesAt, hlist]
  rfl

theorem exists_item_of_mem (hnodup : (disk.items.map Prod.fst).Nodup) {entry : Entry}
    (hentry : entry ∈ disk.entriesAt followLinks path) : ∃ place name item,
      disk.status path = .ok (place, .directory) ∧ disk.item? (place ++ [name]) = some item ∧
        entry = ⟨name, path.child name, disk.actsAsDirectory followLinks place name item⟩ := by
  cases hlist : disk.list followLinks path with
  | error e =>
    rw [Disk.entriesAt, hlist] at hentry
    exact absurd hentry List.not_mem_nil
  | ok entries =>
    rw [entriesAt_eq_of_list hlist] at hentry
    obtain ⟨place, hstatus⟩ := exists_status_of_list hlist
    obtain ⟨name, item, hfound⟩ := (mem_entries hnodup hstatus hlist).1 hentry
    exact ⟨place, name, item, hstatus, hfound⟩

/-- What cannot be listed is refused, unless the path is impossible. -/
theorem isRefusal_of_list {e : FileError} (hnull : path.hasNull = false)
    (h : disk.list followLinks path = .error e) : e.isRefusal = true := by
  have hstatus {e : FileError} (h : disk.status path = .error e) : e.isRefusal = true := by
    have hlocate {e : FileError} (h : disk.locate .follow path = .error e) :
        e.isRefusal = true := by
      rw [locate, hnull, if_neg Bool.false_ne_true] at h
      split at h
      · cases h
        rfl
      · cases hfind : disk.find .follow linkLimit (disk.start path.isAbsolute)
            path.names with
        | ok target =>
          rw [hfind] at h
          cases h
        | error fault =>
          rw [hfind] at h
          cases h
          rfl
    unfold status at h
    split at h
    next => cases h
    next =>
      cases h
      rfl
    next hlocated =>
      cases h
      exact hlocate hlocated
  unfold list at h
  split at h
  next hfound =>
    cases h
    exact hstatus hfound
  next => cases h
  next =>
    cases h
    rfl

theorem IsEntryName.hasNull_child {name : String} (h : IsEntryName name) (path : Path) :
    (path.child name).hasNull = path.hasNull := by
  simp only [Path.hasNull, Path.child, List.any_append, List.any_cons, List.any_nil, h.2.2.2.2,
    Bool.or_false]

section Places

variable (hproper : disk.Proper)
include hproper

theorem exists_leads_of_status (hstatus : disk.status path = .ok (place, .directory)) :
    path.hasNull = false ∧ (∃ n, disk.Leads n (disk.start path.isAbsolute) path.names place) ∧
      disk.item? place = some .directory := by
  obtain ⟨hnull, -, hfind⟩ := locate_eq_ok_iff.1 (status_eq_ok_iff.1 hstatus)
  obtain ⟨n, hleads⟩ := exists_leads_of_find hproper hfind
  exact ⟨hnull, ⟨n, hleads⟩, hleads.isDirectory hproper (hproper.item?_start path.isAbsolute)⟩

/-- From the root, the names of a directory lead to it. -/
theorem leads_place (hplace : disk.item? place = some .directory) : disk.Leads 0 [] place place := by
  induction place using List.reverseRecOn with
  | nil => exact .here
  | append_singleton before name ih =>
    have hbefore := hproper.item?_dropLast hplace
    rw [List.dropLast_concat] at hbefore
    exact (ih hbefore).append (.enter (hproper.isEntryName hplace) hplace .here)

/-- An entry that counts as a directory leads to one. -/
theorem exists_leads_of_mem {entry : Entry} (hentry : entry ∈ disk.entriesAt followLinks path)
    (hdirectory : entry.isDirectory = true) : entry.path.hasNull = false ∧
      ∃ n target, disk.Leads n (disk.start entry.path.isAbsolute) entry.path.names target ∧
        disk.item? target = some .directory := by
  obtain ⟨place, name, item, hstatus, hitem, rfl⟩ := exists_item_of_mem hproper.nodup hentry
  obtain ⟨hnull, ⟨n, hleads⟩, hplace⟩ := exists_leads_of_status hproper hstatus
  have hname := hproper.isEntryName hitem
  refine ⟨by rwa [hname.hasNull_child], ?_⟩
  cases item with
  | directory => exact ⟨n + 0, _, hleads.append (.enter hname hitem .here), hitem⟩
  | file => cases hdirectory
  | link text =>
    have hthere := getD_toOption_eq_true.1 (Bool.and_eq_true_iff.1 hdirectory).2
    obtain ⟨target, htarget⟩ := isDirectory_eq_true_iff.1 hthere
    obtain ⟨-, ⟨m, hway⟩, htarget⟩ := exists_leads_of_status hproper htarget
    obtain ⟨k, l, mid, rfl, hbefore, hlink⟩ := hway.exists_of_append
    obtain ⟨-, rfl⟩ := (leads_place hproper hplace).unique hbefore
    exact ⟨n + l, target, hleads.append hlink, htarget⟩

end Places

/-! ## How many directories there are -/

/-- The places of all directories. -/
def directoryPlaces (disk : Disk) : List Place :=
  [] :: (disk.items.filter (·.2 = .directory)).map Prod.fst

theorem length_directoryPlaces (disk : Disk) :
    disk.directoryPlaces.length = disk.directoryCount + 1 := by
  rw [directoryPlaces, List.length_cons, List.length_map, directoryCount,
    List.countP_eq_length_filter]

theorem mem_directoryPlaces (hplace : disk.item? place = some .directory) :
    place ∈ disk.directoryPlaces := by
  by_cases hnil : place = []
  · rw [hnil]
    exact List.mem_cons_self ..
  · refine List.mem_cons_of_mem _ (List.mem_map.2 ⟨(place, .directory), ?_, rfl⟩)
    exact List.mem_filter.2 ⟨mem_items hnil hplace, decide_eq_true rfl⟩

theorem item?_of_mem_directoryPlaces (hnodup : (disk.items.map Prod.fst).Nodup)
    (hplace : place ∈ disk.directoryPlaces) : disk.item? place = some .directory := by
  rcases List.mem_cons.1 hplace with rfl | hplace
  · exact item?_nil disk
  · obtain ⟨⟨there, item⟩, hfound, rfl⟩ := List.mem_map.1 hplace
    obtain ⟨hmem, hitem⟩ := List.mem_filter.1 hfound
    obtain rfl : item = .directory := of_decide_eq_true hitem
    by_cases hnil : there = []
    · rw [hnil]
      exact item?_nil disk
    · exact item?_of_mem hnodup hnil hmem

end ScriptStats.Disk
