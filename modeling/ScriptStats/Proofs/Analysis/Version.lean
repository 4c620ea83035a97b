import ScriptStats.Proofs.Analysis.Truthful

/-!
# A script that stays as it is

For a while a script is not written. Whoever analyses it in that while finds the statistics that the
cache has for its signature, and if there are none, those of its contents. So it is up to the cache
whether what is shown of the script is true.
-/

namespace ScriptStats

/-- A script as it is for a while. -/
structure Version where
  path : String
  signature : Except FileError Signature
  contents : Except FileError Bytes

namespace Version

/-- The statistics of the contents; a script that cannot be read counts as empty. -/
def fresh (v : Version) : FileStats :=
  (v.contents.toOption.bind Script.read?).getD {}

/-- The signature of the script, as it is written in a cache. -/
def IsSigned (v : Version) (text : String) : Prop :=
  ∃ signature, v.signature = .ok signature ∧ signature.text = text

/-- What a cache may answer if the script is to be shown with these statistics. -/
structure Tells (v : Version) (stats : FileStats) (found : Option FileStats) : Prop where
  hit : ∀ known ∈ found, known = stats
  miss : found = none → stats = v.fresh

/-- The script stays as it is, and the cache goes on telling these statistics. -/
def contract (v : Version) (stats : FileStats) : Contract Unit where
  may _
    | .remember key text found => key = v.path →
        (v.IsSigned text → found = stats) ∧ (¬ v.IsSigned text → stats = v.fresh)
    | _ => True
  expects _
    | .read path, reply => path.text = v.path → reply = v.contents
    | .signature path, reply => path.text = v.path → reply = v.signature
    | .lookUp key text, found => key = v.path → v.IsSigned text → v.Tells stats found
    | _, _ => True
  learns _ _ _ := ()

variable {v : Version} {stats : FileStats}

theorem tells_fresh {found : Option FileStats} (h : ∀ known ∈ found, known = v.fresh) :
    v.Tells v.fresh found :=
  ⟨h, fun _ => rfl⟩

theorem contract_allowsQuiet : (v.contract stats).AllowsQuiet := by
  intro k request h
  cases request with
  | list | identity | directoryBound | note => trivial
  | read | signature | lookUp | remember => exact absurd h id

end Version

namespace Job

variable {v : Version} {stats : FileStats}

/-! ## What is shown of the script -/

theorem meets_version_signature (path : Path) :
    Meets (v.contract stats) (fun _ found => path.text = v.path →
      found = v.signature.toOption.map Signature.text) () (ScriptFile.signature path) := by
  refine meets_send_bind trivial fun reply hreply => ?_
  cases reply with
  | error e =>
    intro hpath
    rw [← hreply hpath]
    rfl
  | ok signature =>
    intro hpath
    rw [← hreply hpath]
    rfl

theorem meets_version_readStats (path : Path) :
    Meets (v.contract stats) (fun _ found => path.text = v.path →
      found = v.contents.toOption.bind Script.read?) () (ScriptFile.readStats path) := by
  refine meets_send_bind trivial fun reply hreply => ?_
  cases reply with
  | error e =>
    refine meets_send_bind trivial fun _ _ hpath => ?_
    rw [← hreply hpath]
    rfl
  | ok bytes =>
    have hread : path.text = v.path →
        v.contents.toOption.bind Script.read? = Script.read? bytes := fun hpath => by
      rw [← hreply hpath]
      rfl
    dsimp only
    cases hdecode : Script.decode bytes with
    | error e =>
      refine meets_send_bind trivial fun _ _ hpath => ?_
      rw [hread hpath, Script.read?, hdecode]
      rfl
    | ok text =>
      intro hpath
      rw [hread hpath, Script.read?, hdecode]
      rfl

theorem meets_version_freshStats (path : Path) :
    Meets (v.contract stats) (fun _ found => path.text = v.path → found = v.fresh) ()
      (ScriptFile.freshStats path) := by
  refine (meets_version_readStats path).bind fun _ found hread hpath => ?_
  rw [hread hpath]
  rfl

theorem meets_version_cachedStats (hunsigned : v.signature.toOption = none → stats = v.fresh)
    (path : Path) :
    Meets (v.contract stats) (fun _ found => path.text = v.path → found = stats) ()
      (ScriptFile.cachedStats path) := by
  refine (meets_version_signature path).bind fun _ found htaken => ?_
  cases found with
  | none =>
    refine (meets_version_freshStats path).mono fun _ found hfresh hpath => ?_
    rw [hfresh hpath, hunsigned (Option.map_eq_none_iff.1 (htaken hpath).symm)]
  | some text =>
    have hsigned : path.text = v.path → v.IsSigned text := fun hpath => by
      obtain ⟨signature, hsignature, htext⟩ := Option.map_eq_some_iff.1 (htaken hpath).symm
      refine ⟨signature, ?_, htext⟩
      cases hv : v.signature with
      | error e =>
        rw [hv] at hsignature
        cases hsignature
      | ok found =>
        rw [hv] at hsignature
        exact congrArg Except.ok (Option.some_inj.1 hsignature)
    refine meets_send_bind trivial fun known hknown => ?_
    cases known with
    | some known =>
      refine meets_send_bind trivial fun _ _ hpath => ?_
      exact (hknown hpath (hsigned hpath)).hit known rfl
    | none =>
      have hmiss : path.text = v.path → stats = v.fresh := fun hpath =>
        (hknown hpath (hsigned hpath)).miss rfl
      refine (meets_version_readStats path).bind fun _ found hread => ?_
      have hfresh : path.text = v.path → found.getD {} = stats := fun hpath => by
        rw [hread hpath, hmiss hpath]
        rfl
      cases found with
      | none => exact hfresh
      | some found =>
        refine meets_send_bind (fun hpath => ⟨fun _ => hfresh hpath, fun hnot => ?_⟩) fun _ _ => hfresh
        exact absurd (hsigned hpath) hnot

theorem meets_version_buildTree (hunsigned : v.signature.toOption = none → stats = v.fresh)
    {withCache : Bool} (hwithout : withCache = false → stats = v.fresh) (options : WalkOptions)
    (root : Path) :
    Meets (v.contract stats) (fun _ tree => tree.Tells fun text found => text = v.path → found = stats)
      () (buildTree options withCache root) := by
  refine meets_buildTree (fun path _ => ?_) Version.contract_allowsQuiet options root ()
  cases withCache with
  | true => exact meets_version_cachedStats hunsigned path
  | false =>
    refine (meets_version_freshStats path).mono fun _ found hfresh hpath => ?_
    rw [hfresh hpath, hwithout rfl]

/-- A job that is truthful and has read nothing but the contents of the script remembers nothing else
of it, as long as it stays as it is. -/
theorem Meets.version {α : Type} {job : Job α} {k : Learnt}
    (h : Meets (.truthful v.path) (fun _ _ => True) k job)
    (hbytes : ∀ bytes, k.bytes = some bytes → v.contents = .ok bytes) :
    Meets (v.contract v.fresh) (fun _ _ => True) () job := by
  induction job generalizing k with
  | done a => trivial
  | ask request next ih =>
    obtain ⟨hmay, hnext⟩ := h
    refine ⟨?_, fun reply hreply => ih reply (hnext reply trivial) ?_⟩
    · cases request with
      | remember key text found =>
        refine fun hkey => ⟨fun _ => ?_, fun _ => rfl⟩
        obtain ⟨_, bytes, -, -, hread, hfound⟩ := hmay hkey
        rw [Version.fresh, hbytes bytes hread]
        exact (Option.getD_eq_iff.2 (.inl hfound)).symm
      | list | read | signature | identity | directoryBound | lookUp | note => trivial
    · cases request with
      | read path =>
        intro bytes hread
        by_cases hkey : path.text = v.path
        · simp only [Contract.truthful, hkey, if_true] at hread
          rw [← hreply hkey]
          cases reply with
          | ok found => exact congrArg Except.ok (Option.some_inj.1 hread)
          | error e => cases hread
        · simp only [Contract.truthful, hkey, if_false] at hread
          cases hread
      | signature path =>
        intro bytes hread
        simp only [Contract.truthful] at hread
        split at hread <;> cases hread
      | list | identity | directoryBound | lookUp | remember | note => exact fun _ hread => by cases hread

/-- Only a job that is about to remember other statistics under the signature of the script does not
keep the contract. -/
theorem Meets.version_of_idle {α : Type} {job : Job α} {k : Learnt}
    (h : Meets (.truthful v.path) (fun _ _ => True) k job)
    (hidle : ∀ text found next, job = .ask (.remember v.path text found) next → v.IsSigned text →
      found = v.fresh) : Meets (v.contract v.fresh) (fun _ _ => True) () job := by
  cases job with
  | done a => trivial
  | ask request next =>
    by_cases hrequest : ∃ text found, request = .remember v.path text found
    · obtain ⟨text, found, rfl⟩ := hrequest
      refine ⟨fun _ => ⟨hidle text found next rfl, fun _ => rfl⟩, fun reply _ => ?_⟩
      exact (h.2 reply trivial).version fun _ hbytes => by cases hbytes
    · refine (h.forget fun text found heq => hrequest ⟨text, found, heq⟩).version ?_
      exact fun _ hbytes => by cases hbytes

end Job

end ScriptStats
