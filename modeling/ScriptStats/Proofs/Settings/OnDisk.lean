import Mathlib
import ScriptStats.Proofs.Settings.Reading
import ScriptStats.Proofs.Text.Utf8
import ScriptStats.Settings.OnDisk

/-!
# What the file of the settings may hold

A file that holds a document gives settings just if the document is not refused. Some contents are not
refused as invalid but end the loading: a value that does not exist, and a number that is to be a text and is
too long.
-/

namespace ScriptStats.Settings

open Yaml Text
open Text.Utf8 (decode)

variable {disk : Disk} {path file root : Path} {bytes : Bytes} {document : Document}

/-! ## The file -/

/-- The settings for `path` are in `file`, of the workspace at `root`, and these are its contents. -/
structure Finds (disk : Disk) (path file root : Path) (bytes : Bytes) : Prop where
  located : ∃ own isDirectory, path.expanded = .ok own ∧ disk.isDirectory own = .ok isDirectory ∧
    disk.resolve (fileFor isDirectory own) = .ok file
  root : disk.resolve file.parent = .ok root
  read : disk.read file = .ok bytes

/-- A file that can be read is there. -/
theorem exists?_of_read (h : disk.read file = .ok bytes) : disk.exists? file = .ok true := by
  unfold Disk.read at h
  unfold Disk.exists? Disk.holds
  cases hstatus : disk.status file with
  | error e =>
    rw [hstatus] at h
    cases h
  | ok found => rfl

theorem inFiles_bind {α β : Type} {found : Except FileError α} {a : α} (h : found = .ok a)
    (next : α → Except SettingsFailure β) : inFiles found >>= next = next a := by
  rw [h]
  rfl

theorem Finds.load_eq (h : Finds disk path file root bytes) :
    load disk path = ofFile file root (.ok bytes) := by
  obtain ⟨own, isDirectory, hown, hdirectory, hfile⟩ := h.located
  rw [load, inFiles_bind hown, inFiles_bind hdirectory, inFiles_bind hfile, inFiles_bind h.root,
    inFiles_bind (exists?_of_read h.read), if_pos rfl, h.read]

/-! ## The text -/

/-- What a text says. A blank one says as much as an empty document. -/
inductive Says (text : List Char) : Document → Prop where
  | blank : text.all isBlank = true → Says text ⟨#[], 0⟩
  | document {document : Document} : text.all isBlank = false → Document.ofText text = .ok document →
      Says text document

/-- What the bytes of a file say. All line ends are alike. -/
def HoldsDocument (bytes : Bytes) (document : Document) : Prop :=
  ∃ text, decode bytes = .ok text ∧ Says (unifyLineEnds text) document

theorem Says.ofText_eq {text : List Char} (h : Says text document) (name : String) (root : Path) :
    ofText name root text = ofDocument root document := by
  cases h with
  | blank hblank =>
    rw [ofText, if_pos hblank]
    rfl
  | document hblank hdocument => rw [ofText, hblank, if_neg Bool.false_ne_true, hdocument]

theorem ofFile_ok (file root : Path) (bytes : Bytes) : ofFile file root (.ok bytes) =
    match decode bytes with
    | .ok text => ofText file.name root (unifyLineEnds text)
    | .error fault => .error (.invalid ("Failed to read " ++ file.name ++ ": " ++ fault.message)) := by
  change (decode bytes).mapError _ >>= _ = _
  cases decode bytes <;> rfl

theorem HoldsDocument.ofFile_eq (h : HoldsDocument bytes document) (file root : Path) :
    ofFile file root (.ok bytes) = ofDocument root document := by
  obtain ⟨text, hdecode, htext⟩ := h
  rw [ofFile_ok, hdecode]
  exact htext.ofText_eq _ _

/-! ## Documents -/

/-- The failures that a session makes up for. -/
def IsInvalid (failure : SettingsFailure) : Prop :=
  ∃ message, failure = .invalid message

/-- A document is refused for the reasons that there are, and else it gives settings that make sense. -/
theorem load_of_document (hfound : Finds disk path file root bytes)
    (hdocument : HoldsDocument bytes document) :
    (∀ failure, load disk path = .error failure ↔ Refused document failure) ∧
      ((∀ failure, ¬ Refused document failure) →
        ∃ settings, load disk path = .ok settings ∧ Suits root document settings) := by
  rw [hfound.load_eq, hdocument.ofFile_eq]
  refine ⟨fun failure => ofDocument_eq_error_iff, fun hnone => ?_⟩
  cases hsettings : ofDocument root document with
  | error failure => exact absurd (ofDocument_eq_error_iff.1 hsettings) (hnone failure)
  | ok settings => exact ⟨settings, rfl, suits_of_ofDocument hsettings⟩

/-- A disk with the settings of its root directory. -/
def diskOf (bytes : Bytes) : Disk where
  items := [([fileName], .file bytes 0)]

def rootPath : Path :=
  ⟨.root, []⟩

theorem finds_diskOf (bytes : Bytes) :
    Finds (diskOf bytes) rootPath (rootPath.child fileName) rootPath bytes where
  located := ⟨rootPath, true, by cbv, by cbv, by cbv⟩
  root := by cbv
  read := by cbv

theorem holdsDocument_encode {text : String} (h : Says (unifyLineEnds text.toList) document) :
    HoldsDocument (Utf8.encode text.toList) document :=
  ⟨text.toList, Utf8.decode_encode text.toList, h⟩

theorem load_diskOf {text : String} (h : Says (unifyLineEnds text.toList) document) :
    load (diskOf (Utf8.encode text.toList)) rootPath = ofDocument rootPath document := by
  rw [(finds_diskOf _).load_eq, (holdsDocument_encode h).ofFile_eq]

def idleText : String := "workers: 0\n"

def busyText : String := "workers: 2\n"

/-- What the texts say. -/
def workersDocument (workers : Int) : Document where
  contents := #[some (.mapping [(1, 2)]), some (.scalar (.text (RawText.ofString "workers"))),
    some (.scalar (.int workers))]
  root := 0

theorem says_idleText : Says (unifyLineEnds idleText.toList) (workersDocument 0) :=
  .document (by decide) (by cbv)

theorem says_busyText : Says (unifyLineEnds busyText.toList) (workersDocument 2) :=
  .document (by decide) (by cbv)

theorem idle_refused : Refused (workersDocument 0) noWorkers := by
  refine .workers ?_ ?_ ⟨0, by cbv, by decide⟩
  · rintro ⟨extension, hextension, -⟩
    have hnone : setting (workersDocument 0) "extension" = none := by cbv
    rw [hnone] at hextension
    cases hextension
  · rintro ⟨n, hn, -⟩
    have hnone : int? (setting (workersDocument 0) "max_depth") = none := by cbv
    rw [hnone] at hn
    cases hn

theorem busy_not_refused (failure : SettingsFailure) : ¬ Refused (workersDocument 2) failure := by
  intro h
  have hsettings : (ofDocument rootPath (workersDocument 2)).toOption.isSome = true := by cbv
  rw [ofDocument_eq_error_iff.2 h] at hsettings
  cases hsettings

/-- No workers are refused, and two are taken. -/
theorem load_of_document_workers :
    load (diskOf (Utf8.encode idleText.toList)) rootPath = .error noWorkers ∧
      ∃ settings, load (diskOf (Utf8.encode busyText.toList)) rootPath = .ok settings ∧
        settings.workers = 2 ∧ settings.extension.toList.head? = some '.' := by
  refine ⟨((load_of_document (finds_diskOf _) (holdsDocument_encode says_idleText)).1 _).2
    idle_refused, ?_⟩
  obtain ⟨settings, hload, hsuits⟩ :=
    (load_of_document (finds_diskOf _) (holdsDocument_encode says_busyText)).2 busy_not_refused
  have hworkers : int? (setting (workersDocument 2) "workers") = some 2 := by cbv
  exact ⟨settings, hload, by rw [hsuits.workers_eq, hworkers]; rfl, hsuits.extension⟩

def emptyListText : String := "[]\n"

def emptyListDocument : Document where
  contents := #[some (.list [])]
  root := 0

theorem says_emptyListText : Says (unifyLineEnds emptyListText.toList) emptyListDocument :=
  .document (by decide) (by cbv)

theorem content_emptyListDocument :
    emptyListDocument.content emptyListDocument.root = .list [] :=
  rfl

/-- An empty list is neither a mapping nor null, but it is not refused. -/
theorem load_emptyList : ¬ ∀ disk path file root bytes document,
    Finds disk path file root bytes → HoldsDocument bytes document →
      ((∃ failure, IsInvalid failure ∧ load disk path = .error failure) ↔
        ((∀ fields, document.content document.root ≠ .mapping fields) ∧
            document.content document.root ≠ .scalar .null) ∨
          HasNegativeDepth document ∨ LacksWorkers document) := by
  intro h
  have hload : load (diskOf (Utf8.encode emptyListText.toList)) rootPath = .ok { root := rootPath } :=
    load_diskOf says_emptyListText
  have hmapping : ∀ fields,
      emptyListDocument.content emptyListDocument.root ≠ .mapping fields := by
    simp [content_emptyListDocument]
  have hnull : emptyListDocument.content emptyListDocument.root ≠ .scalar .null := by
    simp [content_emptyListDocument]
  obtain ⟨failure, -, hfailure⟩ := (h _ _ _ _ _ _ (finds_diskOf _)
    (holdsDocument_encode says_emptyListText)).2 (.inl ⟨hmapping, hnull⟩)
  rw [hfailure] at hload
  cases hload

/-! ## Failures -/

/-- The texts with which the loading ends, though not because the settings are invalid. -/
inductive Breaks (text : List Char) : SettingsFailure → Prop where
  | value {fault : Fault} : text.all isBlank = false → Document.ofText text = .error fault →
      fault ≠ .malformed → Breaks text (.value fault)
  | longNumber {document : Document} : Says text document → Refused document .longNumber →
      Breaks text .longNumber

/-- The contents of a file with which the loading ends, though not because the settings are invalid. -/
def Escapes (bytes : Bytes) (failure : SettingsFailure) : Prop :=
  ∃ text, decode bytes = .ok text ∧ Breaks (unifyLineEnds text) failure

section Failures

variable {text : List Char} {name : String} {failure : SettingsFailure}

theorem Refused.isInvalid_or (h : Refused document failure) :
    IsInvalid failure ∨ failure = .longNumber := by
  cases h with
  | root | maxDepth | workers => exact .inl ⟨_, rfl⟩
  | extension | texts => exact .inr rfl

theorem Escapes.not_isInvalid (h : Escapes bytes failure) : ¬ IsInvalid failure := by
  obtain ⟨text, -, hbreaks⟩ := h
  rintro ⟨message, rfl⟩
  cases hbreaks

theorem ofText_of_fault {fault : Fault} (hblank : text.all isBlank = false)
    (hfault : Document.ofText text = .error fault) (hmalformed : fault ≠ .malformed) :
    ofText name root text = .error (.value fault) := by
  rw [ofText, hblank, if_neg Bool.false_ne_true, hfault]
  cases fault with
  | malformed => exact absurd rfl hmalformed
  | _ => rfl

theorem Breaks.ofText_eq (h : Breaks text failure) (name : String) (root : Path) :
    ofText name root text = .error failure := by
  cases h with
  | value hblank hfault hmalformed => exact ofText_of_fault hblank hfault hmalformed
  | longNumber htext hrefused =>
    rw [htext.ofText_eq]
    exact ofDocument_eq_error_iff.2 hrefused

theorem Says.isInvalid_or_breaks (htext : Says text document)
    (h : ofText name root text = .error failure) : IsInvalid failure ∨ Breaks text failure := by
  rw [htext.ofText_eq] at h
  have hrefused := ofDocument_eq_error_iff.1 h
  refine hrefused.isInvalid_or.imp_right ?_
  rintro rfl
  exact .longNumber htext hrefused

theorem isInvalid_or_breaks (h : ofText name root text = .error failure) :
    IsInvalid failure ∨ Breaks text failure := by
  cases hblank : text.all isBlank with
  | true => exact (Says.blank hblank).isInvalid_or_breaks h
  | false =>
    cases hfault : Document.ofText text with
    | ok document => exact (Says.document hblank hfault).isInvalid_or_breaks h
    | error fault =>
      by_cases hmalformed : fault = .malformed
      · rw [ofText, hblank, if_neg Bool.false_ne_true, hfault, hmalformed] at h
        cases h
        exact .inl ⟨_, rfl⟩
      · rw [ofText_of_fault hblank hfault hmalformed] at h
        cases h
        exact .inr (.value hblank hfault hmalformed)

theorem Escapes.ofFile_eq (h : Escapes bytes failure) (file root : Path) :
    ofFile file root (.ok bytes) = .error failure := by
  obtain ⟨text, hdecode, hbreaks⟩ := h
  rw [ofFile_ok, hdecode]
  exact hbreaks.ofText_eq _ _

theorem isInvalid_or_escapes (h : ofFile file root (.ok bytes) = .error failure) :
    IsInvalid failure ∨ Escapes bytes failure := by
  rw [ofFile_ok] at h
  cases hdecode : decode bytes with
  | error fault =>
    rw [hdecode] at h
    cases h
    exact .inl ⟨_, rfl⟩
  | ok text =>
    rw [hdecode] at h
    exact (isInvalid_or_breaks h).imp_right fun hbreaks => ⟨text, hdecode, hbreaks⟩

/-- A file fails to be loaded because its settings are invalid or because of contents that escape. -/
theorem Finds.load_eq_error_iff (h : Finds disk path file root bytes) (hvalid : ¬ IsInvalid failure) :
    load disk path = .error failure ↔ Escapes bytes failure := by
  rw [h.load_eq]
  constructor
  · intro hload
    exact (isInvalid_or_escapes hload).resolve_left hvalid
  · intro hescapes
    exact hescapes.ofFile_eq file root

end Failures

end ScriptStats.Settings
