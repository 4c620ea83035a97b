import Mathlib
import ScriptStats.Machine.OnDisk
import ScriptStats.Proofs.Session.DiskWorld
import ScriptStats.Proofs.Settings.OnDisk

/-!
# Sessions and the file of their settings

A session goes on with the defaults if its settings are invalid. It cannot be opened, and a change of its
settings cannot be handled, just if the contents of the file escape.
-/

namespace ScriptStats

open Program Settings

namespace DiskWorld

variable {depth : Nat} {world : DiskWorld} {root own file workspace : Path} {bytes : Bytes}
  {failure : SettingsFailure}

/-! ## Notes in the log -/

/-- A record is written or lost, but it does no harm to the session. -/
theorem exists_outcome_writeRecord (record : LogRecord) (world : DiskWorld) :
    ∃ left, outcome (writeRecord record) world = (.ok (), left) ∧ left.session = world.session ∧
      (world.IsQuiet → left.disk = world.disk) := by
  have hget : outcome (getThe DiskWorld : Act DiskWorld) world = (.ok world, world) := rfl
  unfold writeRecord
  rw [outcome_bind_ok hget]
  dsimp only
  split
  next =>
    cases hfile : world.logFile with
    | none => exact ⟨_, rfl, rfl, fun _ => rfl⟩
    | some path => exact ⟨_, rfl, rfl, fun hquiet => by cases hfile.symm.trans hquiet⟩
  next => exact ⟨world, rfl, rfl, fun _ => rfl⟩

/-- The world after a note. -/
def noted (depth : Nat) (world : DiskWorld) (level : LogLevel) (message : String) : DiskWorld :=
  (outcome (Session.note (machine depth).toHost level message) world).2

theorem outcome_note (depth : Nat) (world : DiskWorld) (level : LogLevel) (message : String) :
    outcome (Session.note (machine depth).toHost level message) world =
        (.ok (), world.noted depth level message) ∧
      (world.noted depth level message).session = world.session ∧
      (world.IsQuiet → (world.noted depth level message).disk = world.disk) := by
  obtain ⟨left, hleft, hsession, hdisk⟩ :=
    exists_outcome_writeRecord ⟨.session, level, message⟩ world
  have hnote : outcome (Session.note (machine depth).toHost level message) world = (.ok (), left) :=
    hleft
  rw [noted, hnote]
  exact ⟨rfl, hsession, hdisk⟩

/-! ## Loading -/

/-- The settings that can be loaded for `own`, or else the defaults. -/
def settingsOr (disk : Disk) (own : Path) : Settings :=
  (load disk own).toOption.getD { root := own }

theorem outcome_settings (depth : Nat) (own : Path) (world : DiskWorld) :
    outcome ((machine depth).settings own) world = (.ok (load world.disk own), world) :=
  rfl

theorem outcome_loadSettings_of_escapes (hfound : Finds world.disk own file workspace bytes)
    (h : Escapes bytes failure) :
    outcome (Session.loadSettings (machine depth).toHost own) world =
      (.error (.settings failure), world) := by
  rw [Session.loadSettings, outcome_bind_ok (outcome_settings depth own world),
    (hfound.load_eq_error_iff h.not_isInvalid).2 h]
  cases failure with
  | invalid message => exact absurd ⟨message, rfl⟩ h.not_isInvalid
  | _ => rfl

theorem exists_outcome_loadSettings (hfound : Finds world.disk own file workspace bytes)
    (h : ∀ failure, ¬ Escapes bytes failure) :
    ∃ left, outcome (Session.loadSettings (machine depth).toHost own) world =
        (.ok (settingsOr world.disk own), left) ∧ left.session = world.session := by
  rw [Session.loadSettings, outcome_bind_ok (outcome_settings depth own world), settingsOr]
  cases hload : load world.disk own with
  | ok settings => exact ⟨world, rfl, rfl⟩
  | error failure =>
    -- Only invalid settings are left, and they are noted before the defaults take their place.
    have hinvalid : IsInvalid failure := by
      by_contra hvalid
      exact h failure ((hfound.load_eq_error_iff hvalid).1 hload)
    obtain ⟨message, rfl⟩ := hinvalid
    obtain ⟨hnote, hsession, -⟩ :=
      outcome_note depth world .warning ("Ignoring invalid configuration: " ++ message)
    exact ⟨_, outcome_bind_ok hnote _, hsession⟩

/-! ## Sessions -/

section Start

variable (hroot : root.expanded = .ok own) (hfound : Finds world.disk own file workspace bytes)
  (extraExcludes : List String) (useCache : Option Bool)
include hroot hfound

theorem outcome_start_of_escapes (h : Escapes bytes failure) :
    outcome (Session.start (machine depth).toHost root extraExcludes useCache) world =
      (.error (.settings failure), world) := by
  rw [Session.start, outcome_bind_ok (outcome_required hroot world),
    outcome_bind_error (outcome_loadSettings_of_escapes hfound h)]

theorem outcome_start (h : ∀ failure, ¬ Escapes bytes failure) :
    (outcome (Session.start (machine depth).toHost root extraExcludes useCache) world).1 =
      .ok { root := own, settings := settingsOr world.disk own, extraExcludes, useCache } := by
  obtain ⟨left, hsettings, -⟩ := @exists_outcome_loadSettings depth _ _ _ _ _ hfound h
  rw [Session.start, outcome_bind_ok (outcome_required hroot world), outcome_bind_ok hsettings]
  rfl

end Start

/-- The world in which a change of the settings is handled: that is noted first. -/
def informed (depth : Nat) (world : DiskWorld) : DiskWorld :=
  world.noted depth .debug ("Received " ++ Trigger.configurationChanged.name)

section Reload

variable (hfound : Finds world.disk world.session.root file workspace bytes)
include hfound

theorem outcome_reload_of_escapes (h : Escapes bytes failure) :
    outcome (Session.reload (machine depth).toHost) world = (.error (.settings failure), world) := by
  rw [Session.reload, outcome_bind_ok (outcome_getSession world),
    outcome_bind_error (outcome_loadSettings_of_escapes hfound h)]

theorem exists_outcome_reload (h : ∀ failure, ¬ Escapes bytes failure) :
    ∃ left, outcome (Session.reload (machine depth).toHost) world =
        (.ok (settingsOr world.disk world.session.root), left) ∧
      left.session = world.session.reconfigure (settingsOr world.disk world.session.root) := by
  obtain ⟨left, hsettings, hsession⟩ := @exists_outcome_loadSettings depth _ _ _ _ _ hfound h
  rw [Session.reload, outcome_bind_ok (outcome_getSession world), outcome_bind_ok hsettings, ← hsession]
  exact ⟨_, rfl, rfl⟩

end Reload

section Handle

variable (hfound : Finds (world.informed depth).disk world.session.root file workspace bytes)
  (path : Option Path)
include hfound

theorem outcome_handle_of_escapes (h : Escapes bytes failure) :
    outcome (Session.handle (machine depth).toHost .configurationChanged path) world =
      (.error (.settings failure), world.informed depth) := by
  obtain ⟨hnote, hsession, -⟩ :=
    outcome_note depth world .debug ("Received " ++ Trigger.configurationChanged.name)
  rw [← hsession] at hfound
  have hprepare : outcome (Session.prepare (machine depth).toHost .configurationChanged path)
      (world.informed depth) = (.error (.settings failure), world.informed depth) :=
    outcome_bind_error (outcome_reload_of_escapes hfound h) _
  rw [Session.handle, outcome_bind_ok hnote]
  exact outcome_bind_error hprepare _

/-- The session goes on with the settings that there are. -/
theorem exists_outcome_handle (h : ∀ failure, ¬ Escapes bytes failure) :
    ∃ ready, ready.session = world.session.reconfigure
        (settingsOr (world.informed depth).disk world.session.root) ∧
      outcome (Session.handle (machine depth).toHost .configurationChanged path) world =
        outcome (Session.refresh (machine depth).toHost) ready := by
  obtain ⟨hnote, hsession, -⟩ :=
    outcome_note depth world .debug ("Received " ++ Trigger.configurationChanged.name)
  rw [← hsession] at hfound
  obtain ⟨ready, hreload, hready⟩ := @exists_outcome_reload depth _ _ _ _ hfound h
  have hprepare : outcome (Session.prepare (machine depth).toHost .configurationChanged path)
      (world.informed depth) = (.ok (), ready) :=
    outcome_bind_ok hreload _
  rw [informed, hsession] at hready
  refine ⟨ready, hready, ?_⟩
  rw [Session.handle, outcome_bind_ok hnote]
  exact outcome_bind_ok hprepare _

end Handle

/-- What the file of the settings holds ends the loading if it escapes, and then no session is opened and
the change of the settings is not handled. All other contents give settings, or they are invalid and a
session goes on with the defaults. -/
theorem settings_escape (bytes : Bytes) :
    (∀ disk path file root, Finds disk path file root bytes → ∀ failure, ¬ IsInvalid failure →
      (load disk path = .error failure ↔ Escapes bytes failure)) ∧
    (∀ failure, Escapes bytes failure → ¬ IsInvalid failure) ∧
    (∀ (depth : Nat) (world : DiskWorld) (root own file workspace : Path) (extraExcludes : List String)
      (useCache : Option Bool), root.expanded = .ok own → Finds world.disk own file workspace bytes →
        (∀ failure, Escapes bytes failure →
          outcome (Session.start (machine depth).toHost root extraExcludes useCache) world =
            (.error (.settings failure), world)) ∧
        ((∀ failure, ¬ Escapes bytes failure) →
          (outcome (Session.start (machine depth).toHost root extraExcludes useCache) world).1 =
            .ok { root := own, settings := settingsOr world.disk own, extraExcludes, useCache })) ∧
    ∀ (depth : Nat) (world : DiskWorld) (file workspace : Path) (path : Option Path),
      Finds (world.informed depth).disk world.session.root file workspace bytes →
        (∀ failure, Escapes bytes failure →
          outcome (Session.handle (machine depth).toHost .configurationChanged path) world =
            (.error (.settings failure), world.informed depth)) ∧
        ((∀ failure, ¬ Escapes bytes failure) →
          ∃ ready, ready.session = world.session.reconfigure
              (settingsOr (world.informed depth).disk world.session.root) ∧
            outcome (Session.handle (machine depth).toHost .configurationChanged path) world =
              outcome (Session.refresh (machine depth).toHost) ready) := by
  refine ⟨fun disk path file root hfound failure hvalid => hfound.load_eq_error_iff hvalid,
    fun failure h => h.not_isInvalid, ?_, ?_⟩
  · intro depth world root own file workspace extraExcludes useCache hroot hfound
    exact ⟨fun failure h => outcome_start_of_escapes hroot hfound extraExcludes useCache h,
      fun h => outcome_start hroot hfound extraExcludes useCache h⟩
  · intro depth world file workspace path hfound
    exact ⟨fun failure h => outcome_handle_of_escapes hfound path h,
      fun h => exists_outcome_handle hfound path h⟩

/-! ## A thirteenth month -/

def monthText : String := "a: 2001-13-01\n"

theorem escapes_monthText : Escapes (Text.Utf8.encode monthText.toList) (.value (.date .month)) :=
  ⟨_, Text.Utf8.decode_encode _, .value (by decide) (by cbv) (by decide)⟩

theorem load_idleText : load (diskOf (Text.Utf8.encode idleText.toList)) rootPath =
    .error noWorkers := by
  rw [load_diskOf says_idleText]
  exact ofDocument_eq_error_iff.2 idle_refused

theorem not_escapes_idleText (failure : SettingsFailure) :
    ¬ Escapes (Text.Utf8.encode idleText.toList) failure := by
  intro h
  have hload := ((finds_diskOf _).load_eq_error_iff h.not_isInvalid).2 h
  rw [load_idleText] at hload
  exact h.not_isInvalid ⟨_, (Except.error.inj hload).symm⟩

/-- A machine whose only file holds the settings, and a session that is opened there. -/
def settled (text : String) : DiskWorld where
  disk := diskOf (Text.Utf8.encode text.toList)
  session := { root := rootPath, settings := { root := rootPath } }

theorem expanded_rootPath : rootPath.expanded = .ok rootPath := by
  cbv

theorem settingsOr_idleText : settingsOr (settled idleText).disk rootPath = { root := rootPath } := by
  rw [settingsOr, settled, load_idleText]
  rfl

theorem finds_informed_settled (text : String) : Finds ((settled text).informed 980).disk
    (settled text).session.root (rootPath.child fileName) rootPath (Text.Utf8.encode text.toList) := by
  have hdisk : ((settled text).informed 980).disk = (settled text).disk :=
    (outcome_note 980 (settled text) _ _).2.2 rfl
  rw [hdisk]
  exact finds_diskOf _

/-- A session is opened where no workers are asked for, but not in a thirteenth month. -/
theorem settings_escape_month :
    load (settled monthText).disk rootPath = .error (.value (.date .month)) ∧
    outcome (Session.start (machine 980).toHost rootPath) (settled monthText) =
      (.error (.settings (.value (.date .month))), settled monthText) ∧
    outcome (Session.handle (machine 980).toHost .configurationChanged none) (settled monthText) =
      (.error (.settings (.value (.date .month))), (settled monthText).informed 980) ∧
    (outcome (Session.start (machine 980).toHost rootPath) (settled idleText)).1 =
      .ok { root := rootPath, settings := { root := rootPath } } ∧
    ∃ ready, ready.session = (settled idleText).session.reconfigure
        (settingsOr ((settled idleText).informed 980).disk rootPath) ∧
      outcome (Session.handle (machine 980).toHost .configurationChanged none) (settled idleText) =
        outcome (Session.refresh (machine 980).toHost) ready := by
  obtain ⟨hload, -, hstart, hhandle⟩ := settings_escape (Text.Utf8.encode monthText.toList)
  obtain ⟨-, -, hstart', hhandle'⟩ := settings_escape (Text.Utf8.encode idleText.toList)
  refine ⟨(hload _ _ _ _ (finds_diskOf _) _ escapes_monthText.not_isInvalid).2 escapes_monthText,
    (hstart 980 (settled monthText) _ _ _ _ [] none expanded_rootPath (finds_diskOf _)).1 _
      escapes_monthText,
    (hhandle 980 _ _ _ none (finds_informed_settled _)).1 _ escapes_monthText, ?_,
    (hhandle' 980 _ _ _ none (finds_informed_settled _)).2 not_escapes_idleText⟩
  rw [(hstart' 980 (settled idleText) _ _ _ _ [] none expanded_rootPath (finds_diskOf _)).2
    not_escapes_idleText, settingsOr_idleText]

/-- The file is there, but the loading ends neither with settings nor with invalid ones. -/
theorem load_monthText :
    (¬ ∀ disk path file root bytes, Finds disk path file root bytes →
      (∃ settings, load disk path = .ok settings) ∨
        ∃ failure, IsInvalid failure ∧ load disk path = .error failure) ∧
    (¬ ∀ (depth : Nat) (world : DiskWorld) (root own file workspace : Path) (bytes : Bytes),
      root.expanded = .ok own → Finds world.disk own file workspace bytes →
        ∃ session, (outcome (Session.start (machine depth).toHost root) world).1 = .ok session) ∧
    ¬ ∀ (depth : Nat) (world : DiskWorld) (file workspace : Path) (bytes : Bytes) (path : Option Path),
      Finds (world.informed depth).disk world.session.root file workspace bytes → ∀ failure,
        (outcome (Session.handle (machine depth).toHost .configurationChanged path) world).1 ≠
          .error (.settings failure) := by
  refine ⟨fun h => ?_, fun h => ?_, fun h => ?_⟩
  · have hload := ((finds_diskOf _).load_eq_error_iff escapes_monthText.not_isInvalid).2 escapes_monthText
    obtain ⟨settings, hsettings⟩ | ⟨failure, hinvalid, hfailure⟩ := h _ _ _ _ _ (finds_diskOf _)
    · rw [hload] at hsettings
      cases hsettings
    · rw [hload] at hfailure
      exact escapes_monthText.not_isInvalid (Except.error.inj hfailure ▸ hinvalid)
  · obtain ⟨session, hsession⟩ := h 980 (settled monthText) _ _ _ _ _ expanded_rootPath (finds_diskOf _)
    rw [outcome_start_of_escapes expanded_rootPath (finds_diskOf _) [] none escapes_monthText] at hsession
    cases hsession
  · refine h 980 (settled monthText) _ _ _ none (finds_informed_settled _) (.value (.date .month)) ?_
    rw [outcome_handle_of_escapes (finds_informed_settled _) none escapes_monthText]

end DiskWorld

end ScriptStats
