import ScriptStats.Proofs.Files.Real
import ScriptStats.Proofs.Settings.OnDisk

/-!
# The root of the settings

The settings of a directory are those of the directory in which their file really lies (`load_root`). That is
the directory that was asked about, with all links on the way to it followed, unless the file itself is a link.
The cache is kept below that root, or where the file says.
-/

namespace ScriptStats.Settings

open Yaml

variable {disk : Disk} {path file root : Path} {settings : Settings} {document : Document}

/-! ## The place of the cache -/

/-- The file gives a path for the cache. -/
def GivesCachePath (disk : Disk) (file : Path) (text : RawText) : Prop :=
  ∃ bytes document fields, disk.read file = .ok bytes ∧ HoldsDocument bytes document ∧
    setting document "cache" = some (.mapping fields) ∧
    nonEmptyText? (document.field? fields "path") = .ok (some text)

/-- The cache is kept where the file says from the root on, or else in the directory for state. -/
structure PlacesCache (disk : Disk) (file : Path) (settings : Settings) : Prop where
  given : ∀ text, GivesCachePath disk file text →
    settings.cachePath = settings.root.join (Path.ofString (pathText text))
  otherwise : (∀ text, ¬ GivesCachePath disk file text) →
    settings.cachePath = (settings.root.child stateDirectory).child cacheFileName

theorem cacheSettings_of_ofDocument (h : ofDocument root document = .ok settings) :
    cacheSettings root document (setting document "cache") = .ok settings.cache := by
  rw [ofDocument] at h
  cases hfields : fields? document with
  | none =>
    rw [hfields] at h
    cases h
  | some fields =>
    rw [hfields] at h
    simp only [field?_eq_setting hfields] at h
    obtain ⟨extension, -, h⟩ := exists_of_bind_eq_ok h
    obtain ⟨depth, -, h⟩ := exists_of_bind_eq_ok h
    obtain ⟨workers, -, h⟩ := exists_of_bind_eq_ok h
    obtain ⟨cache, hcache, h⟩ := exists_of_bind_eq_ok h
    obtain ⟨names, -, h⟩ := exists_of_bind_eq_ok h
    cases h
    exact hcache

theorem path_eq_none_of_cacheSettings {content : Option Content} {cache : CacheSettings}
    (h : cacheSettings root document content = .ok cache)
    (hnone : ∀ fields text, content = some (.mapping fields) →
      nonEmptyText? (document.field? fields "path") ≠ .ok (some text)) : cache.path = none := by
  unfold cacheSettings at h
  split at h
  next fields =>
    obtain ⟨path, hpath, h⟩ := exists_of_bind_eq_ok h
    cases h
    cases path with
    | none => rfl
    | some text => exact absurd hpath (hnone fields text rfl)
  next =>
    cases h
    rfl

theorem exists_document_of_ofFile {bytes : Bytes} (h : ofFile file root (.ok bytes) = .ok settings) :
    ∃ document, HoldsDocument bytes document ∧ ofDocument root document = .ok settings := by
  rw [ofFile_ok] at h
  cases hdecode : Text.Utf8.decode bytes with
  | error fault =>
    rw [hdecode] at h
    cases h
  | ok text =>
    rw [hdecode] at h
    dsimp only at h
    obtain ⟨document, hsays⟩ : ∃ document, Says (Text.unifyLineEnds text) document := by
      cases hblank : (Text.unifyLineEnds text).all Text.isBlank with
      | true => exact ⟨_, .blank hblank⟩
      | false =>
        rw [ofText, hblank, if_neg Bool.false_ne_true] at h
        cases hdocument : Document.ofText (Text.unifyLineEnds text) with
        | ok document => exact ⟨document, .document hblank hdocument⟩
        | error fault =>
          rw [hdocument] at h
          cases fault <;> cases h
    exact ⟨document, ⟨text, hdecode, hsays⟩, hsays.ofText_eq _ _ ▸ h⟩

/-- The cache of a workspace whose settings were read. -/
theorem placesCache_of_read {bytes : Bytes} (hread : disk.read file = .ok bytes)
    (h : ofFile file root (.ok bytes) = .ok settings) :
    settings.root = root ∧ PlacesCache disk file settings := by
  obtain ⟨document, hholds, hdocument⟩ := exists_document_of_ofFile h
  have hroot := (suits_of_ofDocument hdocument).root_eq
  refine ⟨hroot, ?_, ?_⟩
  · rintro text ⟨found, other, fields, hfound, hother, hfields, htext⟩
    obtain rfl : bytes = found := Except.ok.inj (hread.symm.trans hfound)
    rw [hother.ofFile_eq] at h
    have hcache := cacheSettings_of_ofDocument h
    rw [hfields, cacheSettings, htext] at hcache
    rw [cachePath, ← Except.ok.inj hcache, hroot]
    rfl
  · intro hnone
    rw [cachePath, path_eq_none_of_cacheSettings (cacheSettings_of_ofDocument hdocument)]
    · rfl
    · exact fun fields text hfields htext =>
        hnone text ⟨bytes, document, fields, hread, hholds, hfields, htext⟩

/-! ## The root -/

theorem inFiles_eq_ok {α : Type} {found : Except FileError α} {a : α} (h : inFiles found = .ok a) :
    found = .ok a := by
  cases found with
  | error e => cases h
  | ok found => exact congrArg _ (Except.ok.inj h)

theorem eq_of_expanded {own : Path} (h : path.expanded = .ok own) : own = path := by
  unfold Path.expanded at h
  split at h
  · exact (Except.ok.inj h).symm
  · split at h <;> cases h

/-- The root of a directory is the one of the file of its settings. -/
theorem exists_file_of_load (hdirectory : disk.isDirectory path = .ok true)
    (hload : load disk path = .ok settings) :
    ∃ file, disk.resolve (path.child fileName) = .ok file ∧
      disk.resolve file.parent = .ok settings.root ∧ PlacesCache disk file settings := by
  obtain ⟨own, hown, hown'⟩ := exists_of_bind_eq_ok hload
  rw [eq_of_expanded (inFiles_eq_ok hown)] at hown'
  obtain ⟨found, hfound, hfound'⟩ := exists_of_bind_eq_ok hown'
  obtain rfl : found = true := Except.ok.inj ((inFiles_eq_ok hfound).symm.trans hdirectory)
  obtain ⟨file, hfile, hfile'⟩ := exists_of_bind_eq_ok hfound'
  obtain ⟨root, hroot, hroot'⟩ := exists_of_bind_eq_ok hfile'
  obtain ⟨there, hthere, hthere'⟩ := exists_of_bind_eq_ok hroot'
  refine ⟨file, inFiles_eq_ok hfile, ?_⟩
  cases there with
  | true =>
    rw [if_pos rfl] at hthere'
    cases hread : disk.read file with
    | error e =>
      rw [hread] at hthere'
      cases hthere'
    | ok bytes =>
      rw [hread] at hthere'
      obtain ⟨heq, hcache⟩ := placesCache_of_read hread hthere'
      exact ⟨heq ▸ inFiles_eq_ok hroot, hcache⟩
  | false =>
    obtain rfl : { root } = settings := Except.ok.inj hthere'
    refine ⟨inFiles_eq_ok hroot, ?_, fun _ => rfl⟩
    rintro text ⟨bytes, _, _, hread, -⟩
    cases (inFiles_eq_ok hthere).symm.trans (exists?_of_read hread)

theorem isEntryName_fileName : Disk.IsEntryName fileName :=
  ⟨by decide, by decide, by decide, by decide, by simp [fileName]⟩

/-- The settings of a directory that is there. If their file is no link, or there is none, they are those of
the directory itself, with all links followed. If a link leads to the file, they are those of the directory in
which it lies. The cache is placed from there. -/
theorem load_root (hproper : disk.Proper) (hdirectory : disk.isDirectory path = .ok true)
    (hload : load disk path = .ok settings) :
    ∃ home file, disk.resolve path = .ok home ∧ disk.resolve (path.child fileName) = .ok file ∧
      disk.resolve file.parent = .ok settings.root ∧
      ((∀ text, disk.item? (home.names ++ [fileName]) ≠ some (.link text)) → settings.root = home) ∧
      (∀ place item, disk.status (path.child fileName) = .ok (place, item) →
        settings.root = Disk.pathOf place.dropLast) ∧
      PlacesCache disk file settings := by
  obtain ⟨place, hstatus⟩ := Disk.isDirectory_eq_true_iff.1 hdirectory
  obtain ⟨hnull, ⟨n, hleads⟩, hplace⟩ := Disk.exists_leads_of_status hproper hstatus
  obtain ⟨file, hfile, hroot, hcache⟩ := exists_file_of_load hdirectory hload
  have hhome := Disk.resolve_of_realPath hproper (Disk.realPath_of_status hproper hstatus) hplace
  -- The root is the way to the directory of the file, as soon as the place of the file is known.
  have hparent {there : Place} (hreal : disk.realPath (path.child fileName) = .ok (Disk.pathOf there))
      (hthere : disk.item? there.dropLast = some .directory) :
      settings.root = Disk.pathOf there.dropLast := by
    obtain rfl := Except.ok.inj ((Disk.realPath_of_resolve hfile).symm.trans hreal)
    exact Except.ok.inj (hroot.symm.trans (Disk.resolve_pathOf hproper hthere))
  refine ⟨_, file, hhome, hfile, hroot, fun hlink => ?_, fun there item hthere => ?_, hcache⟩
  · have hreal := hleads.realPath_child hproper isEntryName_fileName hnull hlink
    have hroot' := hparent hreal (by rwa [List.dropLast_concat])
    rwa [List.dropLast_concat] at hroot'
  · exact hparent (Disk.realPath_of_status hproper hthere)
      (hproper.item?_dropLast (Disk.item?_of_status hproper hthere))

/-! ## Settings that are shared through a link -/

theorem proper_diskOf (bytes : Bytes) : (diskOf bytes).Proper where
  nodup := by simp [diskOf]
  ne_nil := by simp [diskOf]
  named := by simpa [diskOf] using isEntryName_fileName
  within := by simp [diskOf, Disk.item?]
  current := rfl

def workPath : Path :=
  ⟨.root, ["w"]⟩

def sharedPath : Path :=
  ⟨.root, ["shared"]⟩

/-- A disk with a workspace whose settings are a link to those in a shared directory. -/
def sharedDisk (bytes : Bytes) : Disk where
  items := [(["shared"], .directory), (["shared", "settings.yml"], .file bytes 0), (["w"], .directory),
    (["w", fileName], .link "../shared/settings.yml")]

theorem proper_sharedDisk (bytes : Bytes) : (sharedDisk bytes).Proper where
  nodup := by
    change [["shared"], ["shared", "settings.yml"], ["w"], ["w", fileName]].Nodup
    decide
  ne_nil := by simp [sharedDisk]
  named := by simp [sharedDisk, Disk.IsEntryName, fileName]
  within := by simp [sharedDisk, Disk.item?, List.lookup_cons]
  current := rfl

theorem linkSteps_shared : Disk.linkSteps "../shared/settings.yml" =
    (false, ["..", "shared", "settings.yml"]) := by
  decide +kernel

theorem status_sharedDisk (bytes : Bytes) : (sharedDisk bytes).status (workPath.child fileName) =
    .ok (["shared", "settings.yml"], .file bytes 0) := by
  refine Disk.status_eq_ok_iff.2 (Disk.locate_eq_ok_iff.2 ⟨by cbv, by decide +kernel, ?_⟩)
  change (sharedDisk bytes).find .follow 40 [] ["w", fileName] = _
  simp [Disk.find, Disk.item?, sharedDisk, linkSteps_shared, List.lookup_cons, fileName, Disk.nameLimit]
  rfl

/-- The only link leads to the shared settings. -/
theorem exists_status_of_link {bytes : Bytes} {place : Place} {text : String}
    (h : (sharedDisk bytes).item? place = some (.link text)) :
    ∃ found, (sharedDisk bytes).status (Disk.pathOf place) = .ok found := by
  have hplace : place ≠ [] := by
    rintro rfl
    cases h
  obtain ⟨rfl, -⟩ : place = ["w", fileName] ∧ text = "../shared/settings.yml" := by
    simpa [sharedDisk] using Disk.mem_items hplace h
  exact ⟨_, status_sharedDisk bytes⟩

theorem finds_sharedDisk (bytes : Bytes) :
    Finds (sharedDisk bytes) workPath (sharedPath.child "settings.yml") sharedPath bytes where
  located := by
    refine ⟨workPath, true, by cbv, by cbv, ?_⟩
    have hreal := Disk.realPath_of_status (proper_sharedDisk bytes) (status_sharedDisk bytes)
    have hlocate : (sharedDisk bytes).locate .follow (Disk.pathOf ["shared", "settings.yml"]) =
        .ok (["shared", "settings.yml"], some (.file bytes 0)) := by cbv
    refine Disk.resolve_eq hreal fun text hloop => ?_
    cases hlocate.symm.trans hloop
  root := by cbv
  read := by cbv

theorem isDirectory_workPath (bytes : Bytes) : (sharedDisk bytes).isDirectory workPath = .ok true := by
  cbv

def busyBytes : Bytes :=
  Text.Utf8.encode busyText.toList

theorem load_sharedDisk :
    load (sharedDisk busyBytes) workPath = .ok { root := sharedPath, workers := 2 } := by
  rw [(finds_sharedDisk _).load_eq, busyBytes, (holdsDocument_encode says_busyText).ofFile_eq]
  cbv

/-- A workspace with a file of its own is its own root. One with a link is not, though the settings are found
for it. -/
theorem load_root_shared :
    (∃ settings, load (diskOf busyBytes) rootPath = .ok settings ∧ settings.root = rootPath) ∧
    ∃ settings, load (sharedDisk busyBytes) workPath = .ok settings ∧
      settings.root = sharedPath ∧ (sharedDisk busyBytes).resolve workPath = .ok workPath := by
  constructor
  · have hload : load (diskOf busyBytes) rootPath = .ok { root := rootPath, workers := 2 } := by
      rw [busyBytes, load_diskOf says_busyText]
      cbv
    obtain ⟨home, file, hhome, -, -, hroot, -⟩ := load_root (proper_diskOf busyBytes) (by cbv) hload
    have hresolve : (diskOf busyBytes).resolve rootPath = .ok rootPath := by cbv
    obtain rfl := Except.ok.inj (hresolve.symm.trans hhome)
    have hitem : (diskOf busyBytes).item? [fileName] = some (.file busyBytes 0) := rfl
    refine ⟨_, hload, hroot fun text hlink => ?_⟩
    cases hitem.symm.trans hlink
  · obtain ⟨home, file, hhome, -, -, -, hroot, -⟩ :=
      load_root (proper_sharedDisk busyBytes) (isDirectory_workPath _) load_sharedDisk
    refine ⟨_, load_sharedDisk, hroot _ _ (status_sharedDisk busyBytes), ?_⟩
    cbv

/-- The settings of a workspace need not be those of its own directory, even if every link leads somewhere. -/
theorem not_load_root : ¬ ∀ (disk : Disk) (path : Path) (settings : Settings), disk.Proper →
    (∀ place text, disk.item? place = some (.link text) →
      ∃ found, disk.status (Disk.pathOf place) = .ok found) →
    disk.isDirectory path = .ok true → load disk path = .ok settings →
    ∃ home, disk.resolve path = .ok home ∧ settings.root = home := by
  intro h
  obtain ⟨home, hhome, hroot⟩ := h _ _ _ (proper_sharedDisk busyBytes)
    (fun _ _ => exists_status_of_link) (isDirectory_workPath _) load_sharedDisk
  have hresolve : (sharedDisk busyBytes).resolve workPath = .ok workPath := by cbv
  obtain rfl := Except.ok.inj (hresolve.symm.trans hhome)
  exact absurd hroot (by decide)

end ScriptStats.Settings
