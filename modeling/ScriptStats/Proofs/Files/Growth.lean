import ScriptStats.Proofs.Files.Listing
import ScriptStats.Proofs.Files.Write

/-!
# What writing leaves as it is

Whoever writes a text makes directories and one file, and at most another file gives way to it. All
directories and links stay where they are, so what led to a directory leads there still, and a directory
lists what it listed, with new directories and a new file among it.
-/

namespace ScriptStats

/-- The item without the contents of a file. -/
def DiskItem.bare : DiskItem → DiskItem
  | file _ _ => file [] 0
  | item => item

theorem DiskItem.eq_directory_of_bare {item : DiskItem} (h : item.bare = .directory) :
    item = .directory := by
  cases item with
  | directory => rfl
  | file => cases h
  | link => cases h

namespace Disk

/-- The second disk has all the items of the first, though files may have changed, and what is new on it
are directories and files. -/
structure Grows (disk left : Disk) : Prop where
  current_eq : left.current = disk.current
  order_eq : left.order = disk.order
  nodup : (disk.items.map Prod.fst).Nodup → (left.items.map Prod.fst).Nodup
  kept : ∀ {place item}, disk.item? place = some item →
    (left.item? place).map DiskItem.bare = some item.bare
  link : ∀ {place text}, left.item? place = some (.link text) → disk.item? place = some (.link text)

variable {disk mid left : Disk} {place : Place} {item : DiskItem}

theorem Grows.refl (disk : Disk) : disk.Grows disk :=
  ⟨rfl, rfl, id, fun hitem => by rw [hitem]; rfl, id⟩

theorem Grows.trans (h : disk.Grows mid) (hnext : mid.Grows left) : disk.Grows left where
  current_eq := hnext.current_eq.trans h.current_eq
  order_eq := hnext.order_eq.trans h.order_eq
  nodup := hnext.nodup ∘ h.nodup
  kept hitem := by
    obtain ⟨found, hfound, hbare⟩ := Option.map_eq_some_iff.1 (h.kept hitem)
    rw [hnext.kept hfound, hbare]
  link hitem := h.link (hnext.link hitem)

/-- Something is put where there is nothing, or a file in place of a file. -/
theorem grows_put (hplace : place ≠ []) (hitem : ∀ text, item ≠ .link text)
    (hfound : ∀ found, disk.item? place = some found → found.bare = item.bare) :
    disk.Grows (disk.put place item) where
  current_eq := rfl
  order_eq := rfl
  nodup := nodup_put
  kept {there found} hthere := by
    by_cases heq : there = place
    · subst heq
      rw [item?_put_self hplace, Option.map_some, hfound found hthere]
    · rw [item?_put_of_ne heq, hthere, Option.map_some]
  link {there text} hthere := by
    by_cases heq : there = place
    · subst heq
      rw [item?_put_self hplace] at hthere
      exact absurd (Option.some_inj.1 hthere) (hitem text)
    · rwa [item?_put_of_ne heq] at hthere

theorem grows_clock (disk : Disk) (clock : Int) : disk.Grows { disk with clock } where
  current_eq := rfl
  order_eq := rfl
  nodup := id
  kept := (Grows.refl disk).kept
  link := id

namespace Grows

variable (h : disk.Grows left)
include h

theorem item?_directory (hitem : disk.item? place = some .directory) :
    left.item? place = some .directory := by
  obtain ⟨found, hfound, hbare⟩ := Option.map_eq_some_iff.1 (h.kept hitem)
  rw [hfound, DiskItem.eq_directory_of_bare hbare]

theorem item?_link {text : String} (hitem : disk.item? place = some (.link text)) :
    left.item? place = some (.link text) := by
  obtain ⟨found, hfound, hbare⟩ := Option.map_eq_some_iff.1 (h.kept hitem)
  cases found <;> simp_all [DiskItem.bare]

theorem start_eq (absolute : Bool) : left.start absolute = disk.start absolute := by
  rw [start, start, h.current_eq]

/-! ## What led somewhere -/

/-- What is found is found there afterwards, though a file may have changed. -/
theorem find_some {budget : Nat} {here : Place} {steps : List String}
    (hfind : disk.find .follow budget here steps = .ok (place, some item)) :
    ∃ found, left.find .follow budget here steps = .ok (place, some found) ∧
      found.bare = item.bare := by
  generalize hlast : LastLink.follow = last at hfind ⊢
  fun_induction find disk last budget here steps with
  | case1 =>
    obtain ⟨rfl, heq⟩ := Prod.mk.inj (Except.ok.inj hfind)
    obtain rfl := Option.some_inj.1 heq
    exact ⟨.directory, by rw [find], rfl⟩
  | case2 _ _ _ _ ih =>
    rw [find, if_pos rfl]
    exact ih hlast hfind
  | case3 _ _ _ _ hdot ih =>
    rw [find, if_neg hdot, if_pos rfl]
    exact ih hlast hfind
  | case7 _ _ _ _ _ hdot hup hlength there hitem ih =>
    rw [find, if_neg hdot, if_neg hup, if_neg hlength]
    dsimp only
    rw [h.item?_directory hitem]
    exact ih hlast hfind
  | case8 _ _ _ _ hdot hup hlength there bytes modified hitem =>
    obtain ⟨rfl, heq⟩ := Prod.mk.inj (Except.ok.inj hfind)
    obtain rfl := Option.some_inj.1 heq
    obtain ⟨found, hfound, hbare⟩ := Option.map_eq_some_iff.1 (h.kept hitem)
    rw [find, if_neg hdot, if_neg hup, if_neg hlength]
    dsimp only
    rw [hfound]
    cases found with
    | directory => cases hbare
    | file => exact ⟨_, rfl, hbare⟩
    | link => cases hbare
  | case10 _ _ _ _ _ _ _ _ _ _ _ hkeep => exact absurd (hlast.trans hkeep.2) (by decide)
  | case12 last here name rest hdot hup hlength there target hitem hkeep budget absolute steps
      hsteps start hslash ih =>
    rw [find, if_neg hdot, if_neg hup, if_neg hlength]
    dsimp only
    rw [h.item?_link hitem]
    subst hlast
    simp only [reduceCtorEq, and_false, if_false, hsteps]
    exact ih rfl hfind
  | _ => simp at hfind

theorem find_directory {budget : Nat} {here : Place} {steps : List String}
    (hfind : disk.find .follow budget here steps = .ok (place, some .directory)) :
    left.find .follow budget here steps = .ok (place, some .directory) := by
  obtain ⟨found, hfound, hbare⟩ := h.find_some hfind
  obtain rfl := DiskItem.eq_directory_of_bare hbare
  exact hfound

theorem status_some {path : Path} (hstatus : disk.status path = .ok (place, item)) :
    ∃ found, left.status path = .ok (place, found) ∧ found.bare = item.bare := by
  obtain ⟨hnull, hlength, hfind⟩ := locate_eq_ok_iff.1 (status_eq_ok_iff.1 hstatus)
  obtain ⟨found, hfound, hbare⟩ := h.find_some hfind
  rw [← h.start_eq] at hfound
  exact ⟨found, status_eq_ok_iff.2 (locate_eq_ok_iff.2 ⟨hnull, hlength, hfound⟩), hbare⟩

theorem status_directory {path : Path} (hstatus : disk.status path = .ok (place, .directory)) :
    left.status path = .ok (place, .directory) := by
  obtain ⟨found, hfound, hbare⟩ := h.status_some hstatus
  obtain rfl := DiskItem.eq_directory_of_bare hbare
  exact hfound

theorem isDirectory {path : Path} (hdirectory : disk.isDirectory path = .ok true) :
    left.isDirectory path = .ok true := by
  obtain ⟨place, hstatus⟩ := isDirectory_eq_true_iff.1 hdirectory
  exact isDirectory_eq_true_iff.2 ⟨place, h.status_directory hstatus⟩

theorem leads {n : Nat} {here target : Place} {steps : List String}
    (hleads : disk.Leads n here steps target) : left.Leads n here steps target := by
  induction hleads with
  | here => exact .here
  | skip hname _ ih => exact .skip hname ih
  | up _ ih => exact .up ih
  | enter hname hitem _ ih => exact .enter hname (h.item?_directory hitem) ih
  | follow hname hitem _ _ ihway ih => exact .follow hname (h.item?_link hitem) ihway ih

end Grows

/-! ## Writing -/

open Program

variable {start : Disk}

theorem item?_eq_none_of_find {last : LastLink} {budget : Nat} {here : Place} {steps : List String}
    (hfind : disk.find last budget here steps = .ok (place, none)) :
    place ≠ [] ∧ disk.item? place = none := by
  fun_induction find disk last budget here steps with
  | case2 _ _ _ _ ih => exact ih hfind
  | case3 _ _ _ _ _ ih => exact ih hfind
  | case5 _ _ _ _ _ _ _ there hitem =>
    obtain ⟨rfl, -⟩ := Prod.mk.inj (Except.ok.inj hfind)
    exact ⟨List.concat_ne_nil _ _, hitem⟩
  | case7 _ _ _ _ _ _ _ _ _ _ ih => exact ih hfind
  | case12 _ _ _ _ _ _ _ _ _ _ _ _ _ _ _ _ _ ih => exact ih hfind
  | _ => simp at hfind

theorem grows_put_directory {path : Path} (hlocate : disk.locate .keep path = .ok (place, none)) :
    disk.Grows (disk.put place .directory) := by
  obtain ⟨hplace, hnone⟩ := item?_eq_none_of_find (locate_eq_ok_iff.1 hlocate).2.2
  refine grows_put hplace (by simp) fun found hfound => ?_
  rw [hnone] at hfound
  cases hfound

theorem grows_put_file {path : Path} {found : Option DiskItem}
    (hlocate : disk.locate .create path = .ok (place, found)) (hfound : found ≠ some .directory)
    (bytes : Bytes) (modified : Int) : disk.Grows (disk.put place (.file bytes modified)) := by
  have hfree := isFree_of_find (by decide) (locate_eq_ok_iff.1 hlocate).2.2 hfound
  refine grows_put hfree.ne_nil (by simp) fun item hitem => ?_
  cases item with
  | file => rfl
  | directory => exact absurd hitem hfree.not_directory
  | link text => exact absurd hitem (hfree.not_link text)

theorem keeps_grows_makeDirectory (path : Path) : Keeps start.Grows (makeDirectory path) := by
  refine keeps_get_bind fun disk h => ?_
  split
  next => exact h
  next => exact h
  next place hlocate => exact h.trans (grows_put_directory hlocate)

theorem keeps_grows_writeWith (path : Path) (contents : Bytes → Bytes) :
    Keeps start.Grows (writeWith path contents) := by
  refine keeps_get_bind fun disk h => ?_
  dsimp only
  have hclock := h.trans (grows_clock disk (disk.clock + 1000000))
  split
  next => exact h
  next => exact h
  next place bytes _ hlocate => exact hclock.trans (grows_put_file hlocate (by simp) _ _)
  next place found hdirectory _ hlocate =>
    exact hclock.trans (grows_put_file hlocate (fun heq => hdirectory heq) _ _)

/-- Whatever becomes of a write, it leaves all directories and links where they are. -/
theorem keeps_grows_writeText (path : Path) (text : RawText) :
    Keeps start.Grows (writeText path text) :=
  keeps_writeText_of (fun above _ _ => keeps_grows_makeDirectory above) (keeps_grows_writeWith path _)
    fun _ _ => keeps_grows_writeWith path _

/-! ## What a directory lists afterwards -/

namespace Grows

variable {followLinks : Bool} {path : Path} {entries : List Entry} (h : disk.Grows left)
include h

/-- An item goes on counting as what it was, unless it is a link that has come to lead to a
directory. -/
theorem actsAsDirectory_eq {name : String} {found : DiskItem}
    (hitem : disk.item? (place ++ [name]) = some item)
    (hfound : left.item? (place ++ [name]) = some found)
    (hturned : disk.actsAsDirectory followLinks place name item = false →
      left.actsAsDirectory followLinks place name found = false) :
    left.actsAsDirectory followLinks place name found =
      disk.actsAsDirectory followLinks place name item := by
  cases hacts : disk.actsAsDirectory followLinks place name item with
  | false => exact hturned hacts
  | true =>
    cases item with
    | directory =>
      obtain rfl := Option.some_inj.1 (hfound.symm.trans (h.item?_directory hitem))
      rfl
    | file => cases hacts
    | link text =>
      obtain rfl := Option.some_inj.1 (hfound.symm.trans (h.item?_link hitem))
      obtain ⟨hfollow, hdirectory⟩ := Bool.and_eq_true_iff.1 hacts
      have hthere := h.isDirectory (getD_toOption_eq_true.1 hdirectory)
      exact Bool.and_eq_true_iff.2 ⟨hfollow, getD_toOption_eq_true.2 hthere⟩

/-- A link that has led somewhere goes on leading to a directory or to none. -/
theorem actsAsDirectory_eq_of_leads {name : String} {found : DiskItem}
    (hitem : disk.item? (place ++ [name]) = some item)
    (hfound : left.item? (place ++ [name]) = some found)
    (hlink : followLinks = true → ∀ text, item = .link text →
      ∃ target, disk.status (pathOf (place ++ [name])) = .ok target) :
    left.actsAsDirectory followLinks place name found =
      disk.actsAsDirectory followLinks place name item := by
  refine h.actsAsDirectory_eq hitem hfound fun hacts => ?_
  have hkept := h.kept hitem
  rw [hfound, Option.map_some, Option.some_inj] at hkept
  cases item with
  | directory => cases hacts
  | file =>
    cases found with
    | file => rfl
    | directory => cases hkept
    | link => cases hkept
  | link text =>
    obtain rfl := Option.some_inj.1 (hfound.symm.trans (h.item?_link hitem))
    by_contra hturned
    obtain ⟨hfollow, hthere⟩ := Bool.and_eq_true_iff.1 (Bool.eq_true_of_not_eq_false hturned)
    obtain ⟨there, hstatus'⟩ := isDirectory_eq_true_iff.1 (getD_toOption_eq_true.1 hthere)
    obtain ⟨⟨target, kind⟩, hstatus⟩ := hlink hfollow text rfl
    obtain ⟨other, hother, hbare⟩ := h.status_some hstatus
    rw [hstatus'] at hother
    obtain ⟨rfl, rfl⟩ := Prod.mk.inj (Except.ok.inj hother)
    obtain rfl := DiskItem.eq_directory_of_bare hbare.symm
    have hbefore : disk.isDirectory (pathOf (place ++ [name])) = .ok true :=
      isDirectory_eq_true_iff.2 ⟨there, hstatus⟩
    change (followLinks && (disk.isDirectory (pathOf (place ++ [name]))).toOption.getD false) = false
      at hacts
    rw [hfollow, hbefore] at hacts
    cases hacts

/-- A directory goes on listing all that is asked for, if nothing new in it is asked for and nothing that
is asked for has become a directory. -/
theorem filter_entries_eq (hnodup : (disk.items.map Prod.fst).Nodup)
    (hstatus : disk.status path = .ok (place, .directory))
    (hlist : disk.list followLinks path = .ok entries) {others : List Entry}
    (hothers : left.list followLinks path = .ok others) {p : Entry → Bool}
    (hadded : ∀ entry ∈ others, p entry = true → entry ∈ entries)
    (hturned : ∀ entry ∈ entries, p entry = true → entry.isDirectory = false →
      { entry with isDirectory := true } ∉ others) :
    others.filter p = entries.filter p := by
  have hstatus' := h.status_directory hstatus
  have hpairwise := pairwise_entries hstatus' hothers
  rw [h.order_eq] at hpairwise
  refine entries_eq (hpairwise.sublist List.filter_sublist) ?_ ?_ ?_ fun entry => ?_
  · exact (pairwise_entries hstatus hlist).sublist List.filter_sublist
  · exact (List.filter_sublist.map _).nodup (nodup_entries (h.nodup hnodup) hstatus' hothers)
  · exact (List.filter_sublist.map _).nodup (nodup_entries hnodup hstatus hlist)
  rw [List.mem_filter, List.mem_filter]
  refine ⟨fun ⟨hentry, hp⟩ => ⟨hadded entry hentry hp, hp⟩, fun ⟨hentry, hp⟩ => ⟨?_, hp⟩⟩
  have hnot := hturned entry hentry hp
  obtain ⟨name, item, hitem, rfl⟩ := (mem_entries hnodup hstatus hlist).1 hentry
  obtain ⟨found, hfound, -⟩ := Option.map_eq_some_iff.1 (h.kept hitem)
  have hmem (acts : Bool) (hacts : left.actsAsDirectory followLinks place name found = acts) :
      ⟨name, path.child name, acts⟩ ∈ others :=
    (mem_entries (h.nodup hnodup) hstatus' hothers).2 ⟨name, found, hfound, by rw [hacts]⟩
  refine hmem _ (h.actsAsDirectory_eq hitem hfound fun hacts => ?_)
  by_contra hturned
  exact hnot hacts (hmem true (Bool.eq_true_of_not_eq_false hturned))

/-- No directory is lost. -/
theorem directoryCount_le (hne : ∀ found ∈ disk.items, found.1 ≠ [])
    (hnodup : (disk.items.map Prod.fst).Nodup) : disk.directoryCount ≤ left.directoryCount := by
  have hplaces : disk.directoryPlaces.Nodup := by
    refine List.nodup_cons.2 ⟨fun hmem => ?_, (List.filter_sublist.map _).nodup hnodup⟩
    obtain ⟨found, hfound, hnil⟩ := List.mem_map.1 hmem
    exact hne found (List.mem_filter.1 hfound).1 hnil
  have hsub : disk.directoryPlaces ⊆ left.directoryPlaces := fun place hplace =>
    mem_directoryPlaces (h.item?_directory (item?_of_mem_directoryPlaces hnodup hplace))
  have hle := (hplaces.subperm hsub).length_le
  rw [length_directoryPlaces, length_directoryPlaces] at hle
  omega

end Grows

end Disk

end ScriptStats
