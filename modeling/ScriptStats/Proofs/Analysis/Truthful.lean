import ScriptStats.Proofs.Analysis.Contract

/-!
# Truthful analyses

An analysis takes the signature of a script, and only then it reads the bytes. What it remembers under
that signature are the statistics of the bytes that it has read right before.
-/

namespace ScriptStats

/-- The statistics of a script file, if it can be decoded. -/
def Script.read? (bytes : Bytes) : Option FileStats :=
  (decode bytes).toOption.map stats

/-- What an analysis has learnt of one script. -/
structure Learnt where
  /-- The signature that was taken last. -/
  signature : Option Signature := none
  /-- The bytes, if they were read right before. -/
  bytes : Option Bytes := none

namespace Learnt

def forget (k : Learnt) : Learnt :=
  { k with bytes := none }

end Learnt

namespace Contract

/-- What is asked about the script with that key, is asked under the signature that was taken last,
and what is remembered are the statistics of the bytes read right before. -/
def truthful (key : String) : Contract Learnt where
  may k
    | .lookUp found text => found = key → ∃ s, k.signature = some s ∧ text = s.text
    | .remember found text stats => found = key → ∃ s bytes, k.signature = some s ∧
        text = s.text ∧ k.bytes = some bytes ∧ Script.read? bytes = some stats
    | _ => True
  expects _ _ _ := True
  learns k
    | .signature path, reply => if path.text = key then { signature := reply.toOption } else k.forget
    | .read path, reply => if path.text = key then { k with bytes := reply.toOption } else k.forget
    | _, _ => k.forget

variable {key : String}

theorem truthful_allowsQuiet : (truthful key).AllowsQuiet := by
  intro k request h
  cases request with
  | list | identity | directoryBound | note => trivial
  | read | signature | lookUp | remember => exact absurd h id

end Contract

namespace Job

variable {key : String} {k : Learnt}

theorem meets_truthful_signature (key : String) (k : Learnt) (path : Path) :
    Meets (.truthful key) (fun k found => ∀ text, found = some text → path.text = key →
      ∃ s, k.signature = some s ∧ text = s.text) k (ScriptFile.signature path) := by
  refine meets_send_bind trivial fun reply _ => ?_
  cases reply with
  | error e => exact fun _ h => by cases h
  | ok s =>
    intro text htext hkey
    have htaken : ((Contract.truthful key).learns k (.signature path) (.ok s)).signature = some s := by
      simp [Contract.truthful, hkey, Except.toOption]
    exact ⟨s, htaken, (Option.some_inj.1 htext).symm⟩

theorem meets_truthful_readStats (key : String) (k : Learnt) (path : Path) :
    Meets (.truthful key) (fun left found => left.signature = k.signature ∧
      ∀ stats, found = some stats → path.text = key →
        ∃ bytes, left.bytes = some bytes ∧ Script.read? bytes = some stats)
      k (ScriptFile.readStats path) := by
  refine meets_send_bind trivial fun reply _ => ?_
  have hsignature : ((Contract.truthful key).learns k (.read path) reply).signature = k.signature := by
    simp only [Contract.truthful]
    split <;> rfl
  cases reply with
  | error e => exact meets_send_bind trivial fun _ _ => ⟨hsignature, fun _ h => by cases h⟩
  | ok bytes =>
    dsimp only
    cases hdecode : Script.decode bytes with
    | error e => exact meets_send_bind trivial fun _ _ => ⟨hsignature, fun _ h => by cases h⟩
    | ok text =>
      refine meets_pure ⟨hsignature, fun stats hstats hkey => ⟨bytes, ?_, ?_⟩⟩
      · simp [Contract.truthful, hkey, Except.toOption]
      · rw [Script.read?, hdecode]
        exact hstats

theorem meets_truthful_freshStats (key : String) (k : Learnt) (path : Path) :
    Meets (.truthful key) (fun _ _ => True) k (ScriptFile.freshStats path) :=
  (meets_truthful_readStats key k path).bind fun _ _ _ => trivial

theorem meets_truthful_cachedStats (key : String) (k : Learnt) (path : Path) :
    Meets (.truthful key) (fun _ _ => True) k (ScriptFile.cachedStats path) := by
  refine (meets_truthful_signature key k path).bind fun k found htaken => ?_
  cases found with
  | none => exact meets_truthful_freshStats key k path
  | some text =>
    have htext : path.text = key → ∃ s, k.signature = some s ∧ text = s.text := htaken text rfl
    refine meets_send_bind htext fun known _ => ?_
    cases known with
    | some stats => exact meets_send_bind trivial fun _ _ => trivial
    | none =>
      refine (meets_truthful_readStats key k.forget path).bind fun left found hread => ?_
      obtain ⟨hsignature, hbytes⟩ := hread
      cases found with
      | none => trivial
      | some stats =>
        refine meets_send_bind (fun hkey => ?_) fun _ _ => trivial
        obtain ⟨s, htaken, htext⟩ := htext hkey
        obtain ⟨bytes, hread, hstats⟩ := hbytes stats rfl hkey
        exact ⟨s, bytes, hsignature.trans htaken, htext, hread, hstats⟩

theorem meets_truthful_stats (key : String) (withCache : Bool) (path : Path) (k : Learnt) :
    Meets (.truthful key) (fun _ _ => True) k (ScriptFile.stats withCache path) := by
  cases withCache
  · exact meets_truthful_freshStats key k path
  · exact meets_truthful_cachedStats key k path

theorem meets_truthful_buildTree (key : String) (k : Learnt) (options : WalkOptions)
    (withCache : Bool) (root : Path) :
    Meets (.truthful key) (fun _ _ => True) k (buildTree options withCache root) := by
  have htree := meets_buildTree (P := fun _ _ => True) (meets_truthful_stats key withCache)
    Contract.truthful_allowsQuiet options root k
  exact htree.mono fun _ _ _ => trivial

/-- Unless something is remembered of the script right now, the bytes that were read play no part any
more. -/
theorem Meets.forget {α : Type} {Q : Learnt → α → Prop} {request : Request}
    {next : request.Reply → Job α} (h : Meets (.truthful key) Q k (ask request next))
    (hrequest : ∀ text stats, request ≠ .remember key text stats) :
    Meets (.truthful key) Q k.forget (ask request next) := by
  cases request with
  | remember found text stats =>
    have hother : found ≠ key := by
      rintro rfl
      exact hrequest text stats rfl
    exact ⟨fun hkey => absurd hkey hother, h.2⟩
  | list | read | signature | identity | directoryBound | lookUp | note => exact h

end Job

end ScriptStats
