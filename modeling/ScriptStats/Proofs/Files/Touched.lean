import ScriptStats.Proofs.Files.Growth
import ScriptStats.Proofs.Files.Real

/-!
# What writing a text touches

A text goes to a file in a directory that is there, or below the first directory that has to be made
for it. Nothing else on the disk is touched, whatever becomes of the write.
-/

namespace ScriptStats.Disk

variable {disk mid left : Disk} {last : LastLink} {budget : Nat} {here there place home : Place}
  {steps rest : List String} {found : Option DiskItem}

/-! ## Paths, name by name -/

/-- To find something takes the items of the disk and no more. -/
theorem find_clock (clock : Int) (last : LastLink) (budget : Nat) (here : Place)
    (steps : List String) :
    find { disk with clock } last budget here steps = disk.find last budget here steps := by
  fun_induction find disk last budget here steps with
  | case1 => rw [find]
  | case2 _ _ _ _ ih => rw [find, if_pos rfl, ih]
  | case3 _ _ _ _ hdot ih => rw [find, if_neg hdot, if_pos rfl, ih]
  | case4 _ _ _ _ _ hdot hup hlength => rw [find, if_neg hdot, if_neg hup, if_pos hlength]
  | _ =>
    have hitems (place : Place) : item? { disk with clock } place = disk.item? place := rfl
    rw [find, if_neg (by assumption), if_neg (by assumption), if_neg (by assumption)]
    simp_all +zetaDelta only [dite_eq_ite, if_true, if_false, and_self]

/-- Where nothing is found, there is nothing behind it either. -/
theorem find_append_of_missing (h : disk.find .keep budget here steps = .ok (place, none))
    (rest : List String) :
    disk.find .follow budget here (steps ++ rest) =
      if rest = [] then .ok (place, none) else .error .notFound := by
  generalize hlast : LastLink.keep = last at h
  fun_induction find disk last budget here steps with
  | case2 _ _ _ _ ih =>
    rw [List.cons_append, find, if_pos rfl]
    exact ih hlast h
  | case3 _ _ _ _ hdot ih =>
    rw [List.cons_append, find, if_neg hdot, if_pos rfl]
    exact ih hlast h
  | case5 _ _ _ _ hdot hup hlength _ hitem =>
    obtain ⟨rfl, -⟩ := Prod.mk.inj (Except.ok.inj h)
    rw [List.cons_append, find, if_neg hdot, if_neg hup, if_neg hlength]
    dsimp only
    rw [hitem]
    rfl
  | case7 _ _ _ _ _ hdot hup hlength _ hitem ih =>
    rw [List.cons_append, find, if_neg hdot, if_neg hup, if_neg hlength]
    dsimp only
    rw [hitem]
    exact ih hlast h
  | case12 last here name more hdot hup hlength there target hitem hkeep budget absolute steps hsteps
      start hslash ih =>
    rw [List.cons_append, find, if_neg hdot, if_neg hup, if_neg hlength]
    dsimp only
    rw [hitem]
    simp only [reduceCtorEq, and_false, if_false, hsteps]
    rw [← List.append_assoc]
    exact ih hlast h
  | _ => simp at h

/-- What is behind a directory is found from there. -/
theorem find_append (h : disk.find .follow budget here steps = .ok (there, some .directory))
    (hrest : rest ≠ []) (last : LastLink) :
    ∃ budget', disk.find last budget here (steps ++ rest) = disk.find last budget' there rest := by
  generalize hkind : LastLink.follow = kind at h
  fun_induction find disk kind budget here steps with
  | case1 =>
    obtain ⟨rfl, -⟩ := Prod.mk.inj (Except.ok.inj h)
    exact ⟨_, rfl⟩
  | case2 _ _ _ _ ih =>
    rw [List.cons_append, find, if_pos rfl]
    exact ih hkind h
  | case3 _ _ _ _ hdot ih =>
    rw [List.cons_append, find, if_neg hdot, if_pos rfl]
    exact ih hkind h
  | case7 _ _ _ _ _ hdot hup hlength _ hitem ih =>
    rw [List.cons_append, find, if_neg hdot, if_neg hup, if_neg hlength]
    dsimp only
    rw [hitem]
    exact ih hkind h
  | case10 _ _ _ _ _ _ _ _ _ _ _ hkeep => exact absurd (hkind.trans hkeep.2) (by decide)
  | case12 _ here name more hdot hup hlength _ target hitem hkeep budget absolute steps hsteps
      start hslash ih =>
    have hmore : more ++ rest ≠ [] := List.append_ne_nil_of_right_ne_nil more hrest
    rw [List.cons_append, find, if_neg hdot, if_neg hup, if_neg hlength]
    dsimp only
    rw [hitem]
    simp only [hmore, false_and, if_false, hsteps]
    rw [← List.append_assoc]
    exact ih hkind h
  | _ => simp at h

/-- Where no link is met, the names of a path are the way to its place. -/
theorem place_eq_of_find (hplain : ∀ name ∈ steps, name ≠ "." ∧ name ≠ "..")
    (hlinks : ∀ before, before <+: steps → ∀ text, disk.item? (here ++ before) ≠ some (.link text))
    (h : disk.find last budget here steps = .ok (place, found)) : place = here ++ steps := by
  induction steps generalizing here with
  | nil =>
    rw [find] at h
    rw [List.append_nil, (Prod.mk.inj (Except.ok.inj h)).1]
  | cons name rest ih =>
    rw [List.forall_mem_cons] at hplain
    have hbelow : ∀ before, before <+: rest → ∀ text,
        disk.item? (here ++ [name] ++ before) ≠ some (.link text) := fun before hbefore => by
      rw [List.append_assoc]
      exact hlinks _ (List.cons_prefix_cons.2 ⟨rfl, hbefore⟩)
    have hlink := hbelow [] List.nil_prefix
    rw [List.append_nil] at hlink
    have hlast {found' : Option DiskItem} {fault : FileFault}
        (h : (if rest = [] then .ok (here ++ [name], found') else .error fault :
          Except FileFault Target) = .ok (place, found)) : place = here ++ name :: rest := by
      split at h
      next hrest =>
        rw [hrest]
        exact (Prod.mk.inj (Except.ok.inj h)).1.symm
      next => cases h
    rw [find, if_neg hplain.1.1, if_neg hplain.1.2] at h
    split at h
    · cases h
    dsimp only at h
    cases hitem : disk.item? (here ++ [name]) with
    | none =>
      rw [hitem] at h
      exact hlast h
    | some item =>
      rw [hitem] at h
      cases item with
      | directory =>
        rw [ih hplain.2 hbelow h, List.append_assoc]
        rfl
      | file => exact hlast h
      | link text => exact absurd hitem (hlink text)

/-! ## What is touched -/

/-- The place at which a text that is written to a path begins to change the disk, and whether that is a
directory. If the directory of the path is there, it is the place of the file, and else the first directory
that is made. -/
inductive Affects (disk : Disk) (path : Path) : Bool → Place → Prop
  | file {place : Place} {found : Option DiskItem} : disk.isDirectory path.parent = .ok true →
      disk.locate .create path = .ok (place, found) → found ≠ some .directory →
      Affects disk path false place
  | directory {there : Place} {outer inner : List String} {name : String} :
      path.names = outer ++ name :: inner → inner ≠ [] →
      (∀ step ∈ name :: inner, step ≠ "." ∧ step ≠ "..") →
      disk.find .follow linkLimit (disk.start path.isAbsolute) outer = .ok (there, some .directory) →
      disk.item? (there ++ [name]) = none → Affects disk path true (there ++ [name])

/-- The disk has grown, and all that may have changed is below one place, where there is a directory now
or a file. -/
structure GrowsAt (disk : Disk) (directory : Bool) (home : Place) (left : Disk) : Prop where
  grows : disk.Grows left
  outside : ∀ place, ¬ home <+: place → left.item? place = disk.item? place
  kind : ∀ item, left.item? home = some item → (item = .directory ↔ directory = true)

variable {path : Path} {directory : Bool} {item : DiskItem}

theorem Affects.isFree (h : disk.Affects path directory home) : disk.IsFree home := by
  cases h with
  | file _ hlocate hfound =>
    exact isFree_of_find (by decide) (locate_eq_ok_iff.1 hlocate).2.2 hfound
  | directory _ _ _ _ hnone => exact ⟨List.concat_ne_nil _ _, by simp [hnone], by simp [hnone]⟩

theorem Affects.growsAt (h : disk.Affects path directory home) : disk.GrowsAt directory home disk where
  grows := .refl disk
  outside _ _ := rfl
  kind item hitem := by
    have hfree := h.isFree
    cases h with
    | file =>
      refine ⟨fun hdirectory => absurd hitem (hdirectory ▸ hfree.not_directory), fun h => ?_⟩
      cases h
    | directory _ _ _ _ hnone =>
      rw [hnone] at hitem
      cases hitem

/-- What is on the disk is not below a place where a file can be put. -/
theorem IsFree.not_prefix (hfree : disk.IsFree home) (hproper : disk.Proper)
    (hitem : disk.item? place = some item) (hne : place ≠ home) : ¬ home <+: place := by
  rintro ⟨more, rfl⟩
  have hmore : more ≠ [] := fun hnil => hne (by rw [hnil, List.append_nil])
  have hbefore := hproper.item?_dropLast hitem
  rw [List.dropLast_append_of_ne_nil hmore] at hbefore
  exact hfree.not_directory (item?_of_append hproper hbefore)

namespace GrowsAt

variable (h : disk.GrowsAt directory home mid) (hne : home ≠ [])
include h

theorem clock (clock : Int) : disk.GrowsAt directory home { mid with clock } :=
  ⟨h.grows.trans (grows_clock mid clock), h.outside, h.kind⟩

include hne

theorem put (hplace : home <+: place) (hgrows : mid.Grows (mid.put place item))
    (hkind : place = home → (item = .directory ↔ directory = true)) :
    disk.GrowsAt directory home (mid.put place item) where
  grows := h.grows.trans hgrows
  outside there hthere := by
    have hother : there ≠ place := fun heq => hthere (heq ▸ hplace)
    rw [item?_put_of_ne hother, h.outside there hthere]
  kind found hfound := by
    by_cases hsame : home = place
    · subst hsame
      rw [item?_put_self hne] at hfound
      exact Option.some_inj.1 hfound ▸ hkind rfl
    · rw [item?_put_of_ne hsame] at hfound
      exact h.kind found hfound

open Program

theorem makeDirectory (hlocate : ∀ place, mid.locate .keep path = .ok (place, none) →
      home <+: place ∧ directory = true) :
    disk.GrowsAt directory home (outcome (Disk.makeDirectory path) mid).2 := by
  rw [Disk.makeDirectory, outcome_get_bind]
  split
  next => exact h
  next => exact h
  next place hplace =>
    obtain ⟨hbelow, hdirectory⟩ := hlocate place hplace
    exact h.put hne hbelow (grows_put_directory hplace) fun _ => iff_of_true rfl hdirectory

theorem write (hlocate : ∀ place found, mid.locate .create path = .ok (place, found) →
      found ≠ some .directory → home <+: place ∧ (place = home → directory = false)) (bytes : Bytes) :
    disk.GrowsAt directory home (outcome (Disk.write path bytes) mid).2 := by
  have hput {place : Place} {found : Option DiskItem}
      (hplace : locate { mid with clock := mid.clock + 1000000 } .create path = .ok (place, found))
      (hfound : found ≠ some .directory) (time : Int) : disk.GrowsAt directory home
        (Disk.put { mid with clock := mid.clock + 1000000 } place (.file bytes time)) := by
    have hplace' : mid.locate .create path = .ok (place, found) := by
      obtain ⟨hnull, hlength, hfind⟩ := locate_eq_ok_iff.1 hplace
      rw [find_clock] at hfind
      exact locate_eq_ok_iff.2 ⟨hnull, hlength, hfind⟩
    obtain ⟨hbelow, hkind⟩ := hlocate place found hplace' hfound
    refine (h.clock _).put hne hbelow (grows_put_file hplace hfound _ _) fun heq => ?_
    simp [hkind heq]
  rw [Disk.write, writeWith, outcome_get_bind]
  dsimp only
  split
  next => exact h
  next => exact h
  next hplace => exact hput hplace (by simp) _
  next hdirectory _ hplace => exact hput hplace (fun heq => hdirectory heq) _

end GrowsAt

open Program

/-- What is left by writing a text is left by making directories, or by writing a file after that. -/
theorem writeText_cases (path : Path) (text : RawText) (disk : Disk) :
    (outcome (writeText path text) disk).2 = (outcome (ensureDirectories path.parent) disk).2 ∨
      ∃ bytes, (outcome (writeText path text) disk).2 =
        (outcome (write path bytes) (outcome (ensureDirectories path.parent) disk).2).2 := by
  rw [writeText, outcome_bind]
  generalize outcome (ensureDirectories path.parent) disk = ended
  obtain ⟨_ | _, mid⟩ := ended
  · exact .inl rfl
  · dsimp only
    split
    next bytes _ => exact .inr ⟨bytes, rfl⟩
    next =>
      refine .inr ⟨[], ?_⟩
      rw [outcome_bind]
      generalize outcome (write path []) mid = written
      obtain ⟨_ | _, left⟩ := written <;> rfl

section Above

variable {above : Path} {outer : List String}
  (hfind : disk.find .follow linkLimit (disk.start path.isAbsolute) outer =
    .ok (there, some .directory))
  (hanchor : above.anchor = path.anchor)
include hfind hanchor

omit hfind in
theorem isAbsolute_eq : above.isAbsolute = path.isAbsolute := by
  rw [Path.isAbsolute, Path.isAbsolute, hanchor]

/-- On the way to a directory nothing is missing. -/
theorem locate_ne_missing (hgrows : disk.Grows mid) (habove : above.names <+: outer) (place : Place) :
    mid.locate .keep above ≠ .ok (place, none) := by
  intro hlocate
  obtain ⟨rest, rfl⟩ := habove
  have hmissing := find_append_of_missing (locate_eq_ok_iff.1 hlocate).2.2 rest
  rw [isAbsolute_eq hanchor, hgrows.start_eq, hgrows.find_directory hfind] at hmissing
  split at hmissing <;> simp at hmissing

/-- Behind the directories that are there no link is met, so the names are the way to the place. -/
theorem place_eq_of_locate (hproper : disk.Proper) (hgrows : disk.Grows mid) {name : String}
    {more : List String} (hplain : ∀ step ∈ name :: more, step ≠ "." ∧ step ≠ "..")
    (hnone : disk.item? (there ++ [name]) = none) (habove : above.names = outer ++ name :: more)
    (hlocate : mid.locate last above = .ok (place, found)) : place = there ++ name :: more := by
  obtain ⟨n, hleads⟩ := exists_leads_of_find hproper hfind
  have hthere := hleads.isDirectory hproper (hproper.item?_start path.isAbsolute)
  obtain ⟨budget, hreach⟩ :=
    find_append (hgrows.find_directory hfind) (List.cons_ne_nil name more) last
  have hfound := (locate_eq_ok_iff.1 hlocate).2.2
  rw [isAbsolute_eq hanchor, hgrows.start_eq, habove, hreach] at hfound
  refine place_eq_of_find hplain (fun before hbefore text hlink => ?_) hfound
  have hlink := hgrows.link hlink
  cases before with
  | nil =>
    rw [List.append_nil, hthere] at hlink
    cases hlink
  | cons first before =>
    obtain ⟨rfl, -⟩ := List.cons_prefix_cons.1 hbefore
    rw [List.append_cons, hproper.item?_append hnone] at hlink
    cases hlink

/-- What is missing on the way to a file is the first directory that is missing, or below it. -/
theorem prefix_of_missing (hproper : disk.Proper) (hgrows : disk.Grows mid) {name : String}
    {inner : List String} (hplain : ∀ step ∈ name :: inner, step ≠ "." ∧ step ≠ "..")
    (hnone : disk.item? (there ++ [name]) = none) (habove : above.names <+: outer ++ name :: inner)
    (hlocate : mid.locate .keep above = .ok (place, none)) : there ++ [name] <+: place := by
  have hbehind : ¬ above.names <+: outer := fun hprefix =>
    locate_ne_missing hfind hanchor hgrows hprefix place hlocate
  obtain hprefix | ⟨more, hmore⟩ :=
    List.prefix_or_prefix_of_prefix habove (List.prefix_append outer _)
  · exact absurd hprefix hbehind
  rw [← hmore, List.prefix_append_right_inj] at habove
  cases more with
  | nil => exact absurd (hmore ▸ (List.append_nil outer).symm ▸ List.prefix_rfl) hbehind
  | cons first more =>
    obtain ⟨rfl, -⟩ := List.cons_prefix_cons.1 habove
    obtain rfl := place_eq_of_locate hfind hanchor hproper hgrows
      (fun step hstep => hplain step (habove.subset hstep)) hnone hmore.symm hlocate
    exact ⟨more, (List.append_cons ..).symm⟩

end Above

/-- Where there is a directory, none is made. -/
theorem disk_ensureDirectories_of_isDirectory (h : disk.isDirectory path = .ok true) :
    (outcome (ensureDirectories path) disk).2 = disk := by
  obtain ⟨there, hstatus⟩ := isDirectory_eq_true_iff.1 h
  have hfind := (locate_eq_ok_iff.1 (status_eq_ok_iff.1 hstatus)).2.2
  have hkeeps : Keeps (· = disk) (ensureDirectories path) := by
    refine keeps_ensureDirectoriesFrom _ fun above hanchor habove mid hmid => ?_
    subst hmid
    rw [makeDirectory, outcome_get_bind]
    split
    next => rfl
    next => rfl
    next place hplace => exact absurd hplace (locate_ne_missing hfind hanchor (.refl _) habove place)
  exact hkeeps disk rfl

theorem Affects.growsAt_ensureDirectories (hproper : disk.Proper)
    (h : disk.Affects path directory home) :
    disk.GrowsAt directory home (outcome (ensureDirectories path.parent) disk).2 ∧
      (directory = false → (outcome (ensureDirectories path.parent) disk).2 = disk) := by
  have hstart := h.growsAt
  have hne := h.isFree.ne_nil
  cases h with
  | file hparent =>
    rw [disk_ensureDirectories_of_isDirectory hparent]
    exact ⟨hstart, fun _ => rfl⟩
  | @directory there outer inner name hnames hinner hplain hfind hnone =>
    refine ⟨?_, fun h => by cases h⟩
    have hkeeps : Keeps (disk.GrowsAt true (there ++ [name])) (ensureDirectories path.parent) := by
      refine keeps_ensureDirectoriesFrom _ fun above hanchor habove mid hmid => ?_
      refine hmid.makeDirectory hne fun place hplace => ⟨?_, rfl⟩
      have hpath : above.names <+: outer ++ name :: inner :=
        hnames ▸ habove.trans (List.dropLast_prefix path.names)
      exact prefix_of_missing hfind hanchor hproper hmid.grows hplain hnone hpath hplace
    exact hkeeps disk hstart

/-- Whatever becomes of a write, it touches nothing but the place that it affects and what is below. -/
theorem Affects.growsAt_writeText (hproper : disk.Proper) (h : disk.Affects path directory home)
    (text : RawText) : disk.GrowsAt directory home (outcome (writeText path text) disk).2 := by
  obtain ⟨hmade, hsame⟩ := h.growsAt_ensureDirectories hproper
  obtain hleft | ⟨bytes, hleft⟩ := writeText_cases path text disk
  · rw [hleft]
    exact hmade
  rw [hleft]
  refine hmade.write h.isFree.ne_nil (fun place other hplace _ => ?_) bytes
  cases h with
  | file hparent hlocate hfound =>
    rw [hsame rfl, hlocate] at hplace
    obtain ⟨rfl, -⟩ := Prod.mk.inj (Except.ok.inj hplace)
    exact ⟨List.prefix_rfl, fun _ => rfl⟩
  | @directory there outer inner name hnames hinner hplain hfind hnone =>
    obtain rfl := place_eq_of_locate hfind rfl hproper hmade.grows hplain hnone hnames hplace
    refine ⟨⟨inner, (List.append_cons ..).symm⟩, fun heq => ?_⟩
    exact absurd (List.cons.inj (List.append_cancel_left heq)).2 hinner

end ScriptStats.Disk
