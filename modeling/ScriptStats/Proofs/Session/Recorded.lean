import Std.Data.String.ToInt
import ScriptStats.Proofs.Cache.Sound
import ScriptStats.Proofs.Json.Numeral
import ScriptStats.Proofs.Session.Steady

/-!
# What caches record

A cache records what the statistics of scripts were at earlier moments, by their signatures. As long
as a signature tells what the bytes are, this is what they are.
-/

namespace ScriptStats

/-! ## Signatures as texts -/

namespace Signature

theorem digitsOf_text (s : Signature) : Json.digitsOf s.text.toList =
    (Nat.toDigits 10 s.size, ':' :: (toString s.stamp).toList) := by
  have htext : s.text.toList = Nat.toDigits 10 s.size ++ ':' :: (toString s.stamp).toList := by
    simp [text]
  rw [htext]
  refine Json.digitsOf_append (fun c => Json.isDigit_of_mem_toDigits) fun c hc => ?_
  obtain rfl := Option.some_inj.1 hc
  rfl

theorem text_injective {s t : Signature} (h : s.text = t.text) : s = t := by
  have hdigits := s.digitsOf_text
  rw [h, t.digitsOf_text, Prod.mk.injEq, List.cons_inj_right, String.toList_inj] at hdigits
  obtain ⟨hsize, hstamp⟩ := hdigits
  have hsize : t.size = s.size := by
    rw [← Json.natOf_toDigits t.size, hsize, Json.natOf_toDigits]
  cases s
  cases t
  exact congr (congrArg mk hsize.symm) (Int.repr_injective hstamp).symm

end Signature

/-! ## What is recorded -/

namespace Moment

/-- The statistics of the script at `path`, if it can be read. -/
def stats? (moment : Moment) (path : Path) : Option FileStats :=
  (moment.read path).toOption.bind fun bytes => (Script.decode bytes).toOption.map Script.stats

/-- Files are asked for by the texts of their paths. -/
def ByText (moment : Moment) : Prop :=
  ∀ p q : Path, p.text = q.text →
    moment.signature p = moment.signature q ∧ moment.read p = moment.read q

/-- At no two of the moments a path has the same signature, but not the same bytes or none. -/
def SignaturesTell (seen : List Moment) : Prop :=
  ∀ f ∈ seen, ∀ g ∈ seen, ∀ (p q : Path) (signature : Signature), p.text = q.text →
    f.signature p = .ok signature → g.signature q = .ok signature →
      (f.read p).toOption = (g.read q).toOption

/-- The statistics are those that a script of that path had at one of the moments, when it had that
signature. -/
def Recorded (seen : List Moment) : Knowledge := fun key signature stats =>
  ∃ moment ∈ seen, ∃ (path : Path) (found : Signature), key = RawText.ofString path.text ∧
    signature = RawText.ofString found.text ∧ moment.signature path = .ok found ∧
      moment.stats? path = some stats

theorem Recorded.mono {seen more : List Moment} (h : seen ⊆ more) {key signature : RawText}
    {stats : FileStats} (hrecorded : Recorded seen key signature stats) :
    Recorded more key signature stats := by
  obtain ⟨moment, hmem, hmoment⟩ := hrecorded
  exact ⟨moment, h hmem, hmoment⟩

variable {seen : List Moment} {moment : Moment}

/-- What is recorded under the present signature of a script is what its statistics are. -/
theorem Recorded.stats?_eq (htell : SignaturesTell seen) (hmoment : moment ∈ seen) {path : Path}
    {signature : Signature} (hsignature : moment.signature path = .ok signature)
    {stats : FileStats} (h : Recorded seen (RawText.ofString path.text)
      (RawText.ofString signature.text) stats) : moment.stats? path = some stats := by
  obtain ⟨earlier, hearlier, other, found, hkey, htext, hfound, hstats⟩ := h
  obtain rfl := Signature.text_injective (RawText.ofString_injective htext)
  have hread := htell moment hmoment earlier hearlier path other signature
    (RawText.ofString_injective hkey) hsignature hfound
  rw [stats?, hread]
  exact hstats

/-- Reading a script fails only if the request is impossible. -/
theorem eval_readStats (moment : Moment) (path : Path) :
    moment.eval (ScriptFile.readStats path) = do
      let _ ← Session.possible (moment.read path)
      return moment.stats? path := by
  rw [ScriptFile.readStats, eval_bind, eval_send, answer, stats?]
  cases moment.read path with
  | error e => cases hrefusal : e.isRefusal <;> simp only [Session.possible, hrefusal] <;> rfl
  | ok bytes =>
    simp only [Session.possible, Except.toOption, pure_bind, Option.bind_some]
    cases Script.decode bytes <;> rfl

theorem stats?_eq_of_eval {path : Path} {found : Option FileStats}
    (h : moment.eval (ScriptFile.readStats path) = .ok found) : moment.stats? path = found := by
  rw [eval_readStats] at h
  cases hread : (Session.possible (moment.read path) : Except Failure _) with
  | error e =>
    rw [hread] at h
    cases h
  | ok outcome =>
    rw [hread] at h
    exact Except.ok.inj h

theorem eval_freshStats {path : Path} {stats : FileStats}
    (h : moment.stats? path = some stats) :
    moment.eval (ScriptFile.freshStats path) = .ok stats := by
  rw [ScriptFile.freshStats, eval_bind, eval_readStats, h]
  cases hread : moment.read path with
  | error e =>
    rw [stats?, hread] at h
    cases h
  | ok bytes => rfl

/-- The signature of a script is taken in the form in which a cache keeps it. -/
theorem exists_of_eval_signature {path : Path} {text : String}
    (h : moment.eval (ScriptFile.signature path) = .ok (some text)) :
    ∃ signature, moment.signature path = .ok signature ∧ text = signature.text := by
  rw [ScriptFile.signature, eval_bind, eval_send, answer] at h
  cases hsignature : moment.signature path with
  | error e =>
    rw [hsignature] at h
    cases hrefusal : e.isRefusal <;> simp only [Session.possible, hrefusal] at h <;> cases h
  | ok signature =>
    rw [hsignature] at h
    exact ⟨signature, rfl, (Option.some_inj.1 (Except.ok.inj h)).symm⟩

end Moment

end ScriptStats
