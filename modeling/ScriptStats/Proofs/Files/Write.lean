import ScriptStats.Proofs.Files.Disk

/-!
# Files read after they were written

What was written to a path is read from it. A file is put where the path leads, so no directory and
no link on the way to it is replaced.
-/

namespace ScriptStats.Disk

variable {disk : Disk} {place : Place}

theorem item?_put_self (h : place ≠ []) (item : DiskItem) :
    (disk.put place item).item? place = some item := by
  rw [item?, if_neg h, put, List.lookup_cons_self]

theorem lookup_filter_ne {items : List (Place × DiskItem)} {other : Place} (h : other ≠ place) :
    (items.filter fun found => found.1 ≠ place).lookup other = items.lookup other := by
  induction items with
  | nil => rfl
  | cons found items ih =>
    obtain ⟨there, item⟩ := found
    rw [List.filter_cons]
    split
    next => rw [List.lookup_cons, List.lookup_cons, ih]
    next hsame =>
      obtain rfl : there = place := by simpa using hsame
      rw [ih, List.lookup_cons, beq_false_of_ne h]

theorem item?_put_of_ne {other : Place} (h : other ≠ place) (item : DiskItem) :
    (disk.put place item).item? other = disk.item? other := by
  rw [item?, item?, put, List.lookup_cons, beq_false_of_ne h, lookup_filter_ne h]

theorem nodup_put {item : DiskItem} (h : (disk.items.map Prod.fst).Nodup) :
    ((disk.put place item).items.map Prod.fst).Nodup := by
  rw [put, List.map_cons, List.nodup_cons]
  refine ⟨fun hmem => ?_, (List.filter_sublist.map _).nodup h⟩
  obtain ⟨found, hmem, rfl⟩ := List.mem_map.1 hmem
  simpa using (List.mem_filter.1 hmem).2

/-- A file can be put at a place where there is nothing or another file. -/
structure IsFree (disk : Disk) (place : Place) : Prop where
  ne_nil : place ≠ []
  not_directory : disk.item? place ≠ some .directory
  not_link : ∀ target, disk.item? place ≠ some (.link target)

/-- Where a path leads whose links are followed, there is a directory, or a file can be put. -/
theorem isFree_of_find {last : LastLink} (hlast : last ≠ .keep) {budget : Nat} {here : Place}
    {steps : List String} {found : Option DiskItem}
    (h : disk.find last budget here steps = .ok (place, found))
    (hfound : found ≠ some .directory) : disk.IsFree place := by
  fun_induction find disk last budget here steps with
  | case1 => exact absurd (Prod.mk.inj (Except.ok.inj h)).2.symm hfound
  | case2 _ _ _ _ ih => exact ih hlast h
  | case3 _ _ _ _ _ ih => exact ih hlast h
  | case5 _ _ _ _ _ _ _ _ hitem =>
    obtain ⟨rfl, rfl⟩ := Prod.mk.inj (Except.ok.inj h)
    exact ⟨List.concat_ne_nil _ _, by simp [hitem], by simp [hitem]⟩
  | case7 _ _ _ _ _ _ _ _ _ _ ih => exact ih hlast h
  | case8 _ _ _ _ _ _ _ _ _ _ hitem =>
    obtain ⟨rfl, rfl⟩ := Prod.mk.inj (Except.ok.inj h)
    exact ⟨List.concat_ne_nil _ _, by simp [hitem], by simp [hitem]⟩
  | case10 _ _ _ _ _ _ _ _ _ _ _ hkeep => exact absurd hkeep.2 hlast
  | case12 _ _ _ _ _ _ _ _ _ _ _ _ _ _ _ _ _ ih => exact ih hlast h
  | _ => cases h

/-- The last name of a path leads to what is there under that name, if it is no link. -/
theorem find_last {last : LastLink} {budget : Nat} {here : Place} {name : String} {item : DiskItem}
    (hdot : name ≠ ".") (hup : name ≠ "..") (hlength : ¬ name.utf8ByteSize > nameLimit)
    (hthere : disk.item? (here ++ [name]) = some item) (hitem : ∀ text, item ≠ .link text) :
    disk.find last budget here [name] = .ok (here ++ [name], some item) := by
  rw [find, if_neg hdot, if_neg hup, if_neg hlength]
  dsimp only
  rw [hthere]
  cases item with
  | directory =>
    dsimp only
    rw [find]
  | file => rfl
  | link text => exact absurd rfl (hitem text)

/-- What is put where a path leads is found by the same path. -/
theorem find_put (hfree : disk.IsFree place) {last : LastLink} (hlast : last ≠ .keep) {budget : Nat}
    {here : Place} {steps : List String} {found : Option DiskItem}
    (h : disk.find last budget here steps = .ok (place, found))
    (hfound : found ≠ some .directory) {item : DiskItem} (hitem : ∀ text, item ≠ .link text) :
    (disk.put place item).find .follow budget here steps = .ok (place, some item) := by
  fun_induction find disk last budget here steps with
  | case1 => exact absurd (Prod.mk.inj (Except.ok.inj h)).2.symm hfound
  | case2 _ _ _ _ ih =>
    rw [find, if_pos rfl]
    exact ih hlast h
  | case3 _ _ _ _ hdot ih =>
    rw [find, if_neg hdot, if_pos rfl]
    exact ih hlast h
  | case5 _ _ _ _ hdot hup hlength _ hnone =>
    obtain ⟨rfl, rfl⟩ := Prod.mk.inj (Except.ok.inj h)
    exact find_last hdot hup hlength (item?_put_self hfree.ne_nil item) hitem
  | case7 _ _ _ _ _ hdot hup hlength there hdirectory ih =>
    have hne : there ≠ place := fun heq => hfree.not_directory (heq ▸ hdirectory)
    rw [find, if_neg hdot, if_neg hup, if_neg hlength]
    dsimp only
    rw [item?_put_of_ne hne, hdirectory]
    exact ih hlast h
  | case8 _ _ _ _ hdot hup hlength _ _ _ hfile =>
    obtain ⟨rfl, rfl⟩ := Prod.mk.inj (Except.ok.inj h)
    exact find_last hdot hup hlength (item?_put_self hfree.ne_nil item) hitem
  | case10 _ _ _ _ _ _ _ _ _ _ _ hkeep => exact absurd hkeep.2 hlast
  | case12 last here name rest hdot hup hlength there target hlink hkeep budget absolute steps
      hsteps start hslash ih =>
    have hne : there ≠ place := fun heq => hfree.not_link target (heq ▸ hlink)
    rw [find, if_neg hdot, if_neg hup, if_neg hlength]
    dsimp only
    rw [item?_put_of_ne hne, hlink]
    simp only [reduceCtorEq, and_false, if_false, hsteps]
    exact ih hlast h
  | _ => cases h

/-! ## Reading -/

theorem read_put {last : LastLink} (hlast : last ≠ .keep) {path : Path} {found : Option DiskItem}
    (h : disk.locate last path = .ok (place, found)) (hfound : found ≠ some .directory)
    (bytes : Bytes) (modified : Int) :
    (disk.put place (.file bytes modified)).read path = .ok bytes := by
  obtain ⟨hnull, hlength, hfind⟩ := locate_eq_ok_iff.1 h
  have hput : (disk.put place (.file bytes modified)).find .follow linkLimit _ _ = _ :=
    find_put (isFree_of_find hlast hfind hfound) hlast hfind hfound nofun
  rw [read, status, locate_eq_ok_iff.2 ⟨hnull, hlength, hput⟩]

open Program

theorem read_of_write {path : Path} {bytes : Bytes} {left : Disk}
    (h : outcome (write path bytes) disk = (.ok (), left)) : left.read path = .ok bytes := by
  rw [write, writeWith, outcome_get_bind] at h
  dsimp only at h
  split at h
  next => cases h
  next => cases h
  next hlocate =>
    obtain rfl := (Prod.mk.inj h).2
    exact read_put (by decide) hlocate (by simp) bytes _
  next hdirectory _ hlocate =>
    obtain rfl := (Prod.mk.inj h).2
    exact read_put (by decide) hlocate hdirectory bytes _

/-- What was written is read. -/
theorem read_of_writeText {path : Path} {text : RawText} {left : Disk}
    (h : outcome (writeText path text) disk = (.ok (), left)) :
    ∃ bytes, Text.Utf8.encodeRaw text = .ok bytes ∧ left.read path = .ok bytes := by
  rw [writeText, outcome_bind] at h
  split at h
  next =>
    split at h
    next bytes hbytes => exact ⟨bytes, hbytes, read_of_write h⟩
    next =>
      rw [outcome_bind] at h
      split at h <;> cases h
  next => cases h

/-! ## A directory in the way -/

theorem locate_root (disk : Disk) (last : LastLink) :
    disk.locate last ⟨.root, []⟩ = .ok ([], some .directory) := by
  refine locate_eq_ok_iff.2 ⟨by simp [Path.hasNull], by decide, ?_⟩
  rw [find]
  rfl

/-- A path of one name leads to what is there under that name, if it is no link. -/
theorem locate_item {name : String} (hname : IsRootName name) {item : DiskItem}
    (hthere : disk.item? [name] = some item) (hitem : ∀ text, item ≠ .link text) (last : LastLink) :
    disk.locate last ⟨.root, [name]⟩ = .ok ([name], some item) :=
  locate_eq_ok_iff.2 ⟨hname.hasNull_eq, hname.path_le,
    find_last hname.ne_dots.1 hname.ne_dots.2 hname.length_le hthere hitem⟩

theorem outcome_ensureDirectories_root (disk : Disk) :
    outcome (ensureDirectories ⟨.root, []⟩) disk = (.ok (), disk) := by
  have hmake : outcome (makeDirectory ⟨.root, []⟩) disk =
      (.error (.fault .alreadyExists "/"), disk) := by
    rw [makeDirectory, outcome_get_bind, locate_root]
    rfl
  have hdirectory : outcome (hasDirectory ⟨.root, []⟩) disk = (.ok true, disk) := by
    rw [hasDirectory, outcome_get_bind, isDirectory, holds, status, locate_root]
    rfl
  change outcome (ensureDirectory ⟨.root, []⟩) disk = _
  rw [ensureDirectory, outcome_tryCatch, hmake]
  dsimp only
  rw [outcome_bind_ok hdirectory]
  rfl

/-- Where there is a directory no text is written. -/
theorem outcome_writeText_of_directory {name : String} (hname : IsRootName name)
    (hitem : disk.item? [name] = some .directory) (text : RawText) :
    outcome (writeText ⟨.root, [name]⟩ text) disk =
      (.error (.fault .isDirectory (Path.text ⟨.root, [name]⟩)), disk) := by
  have hwrite (bytes : Bytes) : outcome (write ⟨.root, [name]⟩ bytes) disk =
      (.error (.fault .isDirectory (Path.text ⟨.root, [name]⟩)), disk) := by
    have hlocate : Disk.locate { disk with clock := disk.clock + 1000000 } .create ⟨.root, [name]⟩ =
        .ok ([name], some .directory) := by
      refine locate_item hname ?_ (by simp) .create
      exact hitem
    rw [write, writeWith, outcome_get_bind]
    dsimp only
    rw [hlocate]
    rfl
  have hparent : Path.parent ⟨.root, [name]⟩ = ⟨.root, []⟩ := rfl
  rw [writeText, hparent, outcome_bind_ok (outcome_ensureDirectories_root disk)]
  cases Text.Utf8.encodeRaw text with
  | ok bytes => exact hwrite bytes
  | error fault =>
    dsimp only
    rw [outcome_bind_error (hwrite [])]

/-- A file is written anew where it is. -/
theorem outcome_write_of_file {name : String} (hname : IsRootName name) {old : Bytes} {modified : Int}
    (hitem : disk.item? [name] = some (.file old modified)) (bytes : Bytes) :
    outcome (write ⟨.root, [name]⟩ bytes) disk =
      (.ok (), put { disk with clock := disk.clock + 1000000 } [name]
        (.file bytes (disk.clock + 1000000))) := by
  have hlocate : Disk.locate { disk with clock := disk.clock + 1000000 } .create ⟨.root, [name]⟩ =
      .ok ([name], some (.file old modified)) := by
    refine locate_item hname ?_ (by simp) .create
    exact hitem
  rw [write, writeWith, outcome_get_bind]
  dsimp only
  rw [hlocate]
  rfl

/-- Where there is nothing, a text is written that can be encoded. -/
theorem exists_outcome_writeText_of_missing {name : String} (hname : IsRootName name)
    (hitem : disk.item? [name] = none) {text : RawText} {bytes : Bytes}
    (hencode : Text.Utf8.encodeRaw text = .ok bytes) :
    ∃ left, outcome (writeText ⟨.root, [name]⟩ text) disk = (.ok (), left) := by
  have hlocate : Disk.locate { disk with clock := disk.clock + 1000000 } .create ⟨.root, [name]⟩ =
      .ok ([name], none) := by
    refine locate_missing hname ?_ .create
    exact hitem
  have hparent : Path.parent ⟨.root, [name]⟩ = ⟨.root, []⟩ := rfl
  rw [writeText, hparent, outcome_bind_ok (outcome_ensureDirectories_root disk), hencode]
  dsimp only
  rw [write, writeWith, outcome_get_bind]
  dsimp only
  rw [hlocate]
  exact ⟨_, rfl⟩

end ScriptStats.Disk
