import ScriptStats.Files.Disk
import ScriptStats.Proofs.Program

/-!
# The files on a disk

What holds of the bytes of all files on a disk holds of all that can be read from it. Writing a text
keeps it if it holds of the text that is written and of an empty file, which a failure leaves
behind.
-/

namespace ScriptStats.Disk

/-- The bytes of every file on the disk satisfy `Q`. -/
def EveryFile (Q : Bytes → Prop) (disk : Disk) : Prop :=
  ∀ place bytes modified, (place, DiskItem.file bytes modified) ∈ disk.items → Q bytes

variable {Q : Bytes → Prop} {disk : Disk}

theorem EveryFile.mono {R : Bytes → Prop} (h : EveryFile Q disk)
    (hle : ∀ bytes, Q bytes → R bytes) : EveryFile R disk :=
  fun place bytes modified hmem => hle bytes (h place bytes modified hmem)

/-! ## Reading -/

theorem mem_items_of_item? {place : Place} {bytes : Bytes} {modified : Int}
    (h : disk.item? place = some (.file bytes modified)) :
    (place, .file bytes modified) ∈ disk.items := by
  unfold item? at h
  split at h
  next => cases h
  next =>
    obtain ⟨before, after, hitems, -⟩ := List.lookup_eq_some_iff.1 h
    rw [hitems]
    simp

theorem mem_items_of_find {last : LastLink} {budget : Nat} {here : Place} {steps : List String}
    {place : Place} {bytes : Bytes} {modified : Int}
    (h : disk.find last budget here steps = .ok (place, some (.file bytes modified))) :
    (place, .file bytes modified) ∈ disk.items := by
  fun_induction find disk last budget here steps with
  | case2 _ _ _ _ ih => exact ih h
  | case3 _ _ _ _ _ ih => exact ih h
  | case7 _ _ _ _ _ _ _ _ _ _ ih => exact ih h
  | case8 _ _ _ _ _ _ _ _ _ _ hitem =>
    obtain ⟨hplace, hfile⟩ := Prod.mk.inj (Except.ok.inj h)
    exact mem_items_of_item? (hplace ▸ hitem.trans hfile)
  | case12 _ _ _ _ _ _ _ _ _ _ _ _ _ _ _ _ _ ih => exact ih h
  | _ => simp at h

theorem locate_eq_ok_iff {last : LastLink} {path : Path} {target : Target} :
    disk.locate last path = .ok target ↔ path.hasNull = false ∧
      ¬ path.text.utf8ByteSize > pathLimit ∧
      disk.find last linkLimit (disk.start path.isAbsolute) path.names = .ok target := by
  unfold locate
  cases path.hasNull with
  | true => simp
  | false =>
    by_cases hlength : path.text.utf8ByteSize > pathLimit
    · simp [hlength]
    · rw [if_neg Bool.false_ne_true, if_neg hlength]
      cases disk.find last linkLimit (disk.start path.isAbsolute) path.names with
      | error e =>
        constructor
        · intro h
          cases h
        · rintro ⟨-, -, ⟨⟩⟩
      | ok found =>
        rw [Except.ok.injEq]
        exact ⟨fun h => ⟨rfl, hlength, Except.ok.inj h⟩, fun h => congrArg _ h.2.2⟩

/-- A name that can be looked for at the root. -/
structure IsRootName (name : String) : Prop where
  ne_dots : name ≠ "." ∧ name ≠ ".."
  length_le : ¬ name.utf8ByteSize > nameLimit
  hasNull_eq : Path.hasNull ⟨.root, [name]⟩ = false
  path_le : ¬ (Path.text ⟨.root, [name]⟩).utf8ByteSize > pathLimit

theorem isRootName_c : IsRootName "c" :=
  ⟨by decide, by decide, by simp [Path.hasNull], by decide⟩

/-- Where nothing is to be found under a name at the root, the path leads there all the same. -/
theorem locate_missing {name : String} (hname : IsRootName name) (hitem : disk.item? [name] = none)
    (last : LastLink) : disk.locate last ⟨.root, [name]⟩ = .ok ([name], none) := by
  refine locate_eq_ok_iff.2 ⟨hname.hasNull_eq, hname.path_le, ?_⟩
  have hthere : disk.item? (disk.start (Path.isAbsolute ⟨.root, [name]⟩) ++ [name]) = none := hitem
  rw [find, if_neg hname.ne_dots.1, if_neg hname.ne_dots.2, if_neg hname.length_le]
  dsimp only
  rw [hthere]
  rfl

theorem EveryFile.read (h : EveryFile Q disk) {path : Path} {bytes : Bytes}
    (hread : disk.read path = .ok bytes) : Q bytes := by
  unfold Disk.read Disk.status at hread
  cases hlocate : disk.locate .follow path with
  | error e =>
    rw [hlocate] at hread
    cases hread
  | ok target =>
    obtain ⟨place, _ | item⟩ := target
    · rw [hlocate] at hread
      cases hread
    · rw [hlocate] at hread
      cases item with
      | file found modified =>
        obtain rfl : found = bytes := Except.ok.inj hread
        exact h _ _ _ (mem_items_of_find (locate_eq_ok_iff.1 hlocate).2.2)
      | _ => cases hread

/-! ## Changes of the items -/

theorem EveryFile.put (h : EveryFile Q disk) (place : Place) {item : DiskItem}
    (hitem : ∀ bytes modified, item = .file bytes modified → Q bytes) :
    EveryFile Q (disk.put place item) := by
  intro at_ bytes modified hmem
  rcases List.mem_cons.1 hmem with heq | hmem
  · exact hitem bytes modified (Prod.mk.inj heq).2.symm
  · exact h at_ bytes modified (List.mem_filter.1 hmem).1

theorem EveryFile.remove (h : EveryFile Q disk) (place : Place) :
    EveryFile Q (disk.remove place) :=
  fun at_ bytes modified hmem => h at_ bytes modified (List.mem_filter.1 hmem).1

/-! ## Writing -/

open Program

section Keeps

variable {I : Disk → Prop}

theorem keeps_hasDirectory (path : Path) : Keeps I (hasDirectory path) := by
  refine keeps_get_bind fun disk h => ?_
  split <;> exact h

theorem keeps_unless_hasDirectory (path : Path) (e : FileError) :
    Keeps I (do unless ← hasDirectory path do throw e) := by
  refine (keeps_hasDirectory path).bind fun found => ?_
  cases found
  · exact keeps_throw e
  · exact keeps_pure ()

theorem keeps_ensureDirectory {path : Path} (hmake : Keeps I (makeDirectory path)) :
    Keeps I (ensureDirectory path) :=
  hmake.tryCatch fun e => keeps_unless_hasDirectory path e

/-- Only directories on the way of the path are made. -/
theorem keeps_ensureDirectoriesFrom (fuel : Nat) {path : Path}
    (hmake : ∀ above : Path, above.anchor = path.anchor → above.names <+: path.names →
      Keeps I (makeDirectory above)) : Keeps I (ensureDirectoriesFrom fuel path) := by
  induction fuel generalizing path with
  | zero => exact keeps_ensureDirectory (hmake path rfl List.prefix_rfl)
  | succ fuel ih =>
    have hpath := hmake path rfl List.prefix_rfl
    unfold ensureDirectoriesFrom
    refine Keeps.bind ?_ fun made => ?_
    · exact fun disk h => hpath disk h
    split
    next => exact keeps_pure ()
    next text =>
      split
      · exact keeps_throw _
      · refine Keeps.bind (ih fun above hanchor habove => ?_) fun _ => keeps_ensureDirectory hpath
        exact hmake above hanchor (habove.trans (List.dropLast_prefix _))
    next e _ => exact keeps_unless_hasDirectory path e

/-- A text that cannot be written down leaves an empty file. -/
theorem keeps_writeText_of {path : Path} {text : RawText}
    (hmake : ∀ above : Path, above.anchor = path.anchor → above.names <+: path.parent.names →
      Keeps I (makeDirectory above)) (hnil : Keeps I (write path []))
    (hwrite : ∀ bytes, Text.Utf8.encodeRaw text = .ok bytes → Keeps I (write path bytes)) :
    Keeps I (writeText path text) := by
  refine (keeps_ensureDirectoriesFrom _ hmake).bind fun _ => ?_
  split
  next bytes hbytes => exact hwrite bytes hbytes
  next => exact hnil.bind fun _ => keeps_throw _

end Keeps

theorem keeps_makeDirectory (path : Path) : Keeps (EveryFile Q) (makeDirectory path) := by
  refine keeps_get_bind fun disk h => ?_
  split
  next => exact h
  next => exact h
  next => exact h.put _ (by simp)

theorem keeps_writeWith (path : Path) {contents : Bytes → Bytes}
    (hcontents : ∀ bytes, Q (contents bytes)) : Keeps (EveryFile Q) (writeWith path contents) := by
  refine keeps_get_bind fun disk h => ?_
  have hput (place : Place) (bytes : Bytes) (time : Int) : EveryFile Q
      (Disk.put { disk with clock := time } place (.file (contents bytes) time)) :=
    EveryFile.put h place fun found _ heq => (DiskItem.file.inj heq).1 ▸ hcontents bytes
  dsimp only
  split
  next => exact h
  next => exact h
  next => exact hput _ _ _
  next => exact hput _ _ _

theorem keeps_writeText (path : Path) {text : RawText} (hnil : Q [])
    (htext : ∀ bytes, Text.Utf8.encodeRaw text = .ok bytes → Q bytes) :
    Keeps (EveryFile Q) (writeText path text) :=
  keeps_writeText_of (fun above _ _ => keeps_makeDirectory above) (keeps_writeWith path fun _ => hnil)
    fun bytes hbytes => keeps_writeWith path fun _ => htext bytes hbytes

end ScriptStats.Disk
