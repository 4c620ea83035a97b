import ScriptStats.Proofs.Session.Saved

/-!
# What analyses add to a cache

On files that nobody writes the analysis of a script adds at most one thing to the cache: the
statistics of the script under its signature, if the cache has had nothing to tell under it. While
several scripts are analysed, and be it step by step in turn, the cache therefore holds under each
key what it held at first or what the analysis of that script adds.
-/

namespace ScriptStats

open Program

/-! ## What a cache holds -/

/-- The signature and the statistics of an entry, as they are written. -/
def CacheEntry.bare (entry : CacheEntry) : RawText × Json :=
  (entry.signature, entry.stats)

namespace Cache

variable {cache : Option Cache}

/-- What the cache holds under a key, whenever it was stored. -/
def held? (cache : Option Cache) (key : RawText) : Option (RawText × Json) :=
  (cache.bind fun cache => cache.entries[key]?).map CacheEntry.bare

/-- What the cache tells under a key and a signature. -/
def tells? (cache : Option Cache) (key signature : String) : Option FileStats :=
  cache.bind fun cache => cache.get? key signature

theorem tells?_eq (cache : Option Cache) (key signature : String) : tells? cache key signature =
    (held? cache (RawText.ofString key)).bind fun held =>
      if held.1 = RawText.ofString signature then FileStats.ofCached? held.2 else none := by
  cases cache with
  | none => rfl
  | some cache =>
    simp only [tells?, held?, Option.bind_some, get?]
    cases cache.entries[RawText.ofString key]? <;> rfl

theorem held?_store (cache : Cache) (changed signature : String) (stats : FileStats)
    (time : String) (key : RawText) :
    held? (some (cache.store changed signature stats time)) key =
      if RawText.ofString changed = key then some (RawText.ofString signature, stats.toCached)
      else held? (some cache) key := by
  simp only [held?, Option.bind_some, getElem?_store]
  split <;> rfl

end Cache

/-! ## What an analysis adds -/

namespace Moment

variable {moment : Moment} {memory : Option Cache} {script other : Path}

/-- The analysis of the script adds these statistics, under that signature, to what the cache has
held at first. -/
structure Adds (moment : Moment) (memory : Option Cache) (script : Path) (signature : String)
    (stats : FileStats) : Prop where
  signed : ∃ taken, moment.signature script = .ok taken ∧ taken.text = signature
  missing : ∃ cache, memory = some cache ∧ cache.get? script.text signature = none
  read : moment.stats? script = some stats

/-- What the cache has told of the script at first. -/
def told? (moment : Moment) (memory : Option Cache) (script : Path) : Option FileStats :=
  (moment.signature script).toOption.bind fun signature =>
    Cache.tells? memory script.text signature.text

/-- The statistics that an analysis of the script comes to. -/
def toldStats (moment : Moment) (memory : Option Cache) (script : Path) : FileStats :=
  (moment.told? memory script).getD (moment.freshStats script)

theorem told?_eq (memory : Option Cache) {signature : Signature}
    (h : moment.signature script = .ok signature) :
    moment.told? memory script = Cache.tells? memory script.text signature.text := by
  rw [told?, h]
  rfl

theorem Adds.unique {first second : String} {stats others : FileStats}
    (h : moment.Adds memory script first stats) (h' : moment.Adds memory script second others) :
    first = second ∧ stats = others := by
  obtain ⟨taken, htaken, rfl⟩ := h.signed
  obtain ⟨again, hagain, rfl⟩ := h'.signed
  rw [htaken] at hagain
  obtain rfl := Except.ok.inj hagain
  exact ⟨rfl, Option.some_inj.1 (h.read.symm.trans h'.read)⟩

/-- Files that are asked for by text add the same under every path of that text. -/
theorem Adds.congr (hbyText : moment.ByText) {signature : String} {stats : FileStats}
    (h : moment.Adds memory script signature stats) (htext : script.text = other.text) :
    moment.Adds memory other signature stats where
  signed := (hbyText script other htext).1 ▸ h.signed
  missing := htext ▸ h.missing
  read := by
    have hread := h.read
    rwa [stats?, (hbyText script other htext).2] at hread

theorem Adds.told?_eq_none {signature : String} {stats : FileStats}
    (h : moment.Adds memory script signature stats) : moment.told? memory script = none := by
  obtain ⟨taken, htaken, rfl⟩ := h.signed
  obtain ⟨cache, rfl, hmissing⟩ := h.missing
  rw [told?, htaken]
  exact hmissing

theorem Adds.toldStats_eq {signature : String} {stats : FileStats}
    (h : moment.Adds memory script signature stats) : moment.toldStats memory script = stats := by
  rw [toldStats, h.told?_eq_none, freshStats, h.read]
  rfl

end Moment

/-! ## One analysis -/

namespace Contract

/-- The analysis of some scripts asks about these alone, reads one only if the cache has told
nothing of it at first, and remembers what it adds. What is looked up under a key is what the cache
has told at first or what has been added since. What is learnt is under which keys something has
been added. -/
def adding (moment : Moment) (memory : Option Cache) (scripts : List Path) :
    Contract (String → Prop) where
  may _
    | .read path => path ∈ scripts ∧ moment.told? memory path = none
    | .signature path => path ∈ scripts
    | .lookUp key text => ∃ script ∈ scripts, script.text = key ∧
        ∃ taken, moment.signature script = .ok taken ∧ taken.text = text
    | .remember key text stats =>
      ∃ script ∈ scripts, script.text = key ∧ moment.Adds memory script text stats
    | .note _ => True
    | _ => False
  expects _
    | .read path, reply => reply = moment.read path
    | .signature path, reply => reply = moment.signature path
    | .lookUp key text, found => found = Cache.tells? memory key text ∨
        ∃ script stats, script.text = key ∧ moment.Adds memory script text stats ∧
          found = some stats
    | _, _ => True
  learns known
    | .lookUp key text, found => fun other =>
      known other ∨ other = key ∧ found ≠ none ∧ Cache.tells? memory key text = none
    | .remember key _ _, _ => fun other => known other ∨ other = key
    | _, _ => known

end Contract

namespace Job

variable {moment : Moment} {memory : Option Cache} {scripts : List Path} {script : Path}

/-- The analysis is over: it has come to what the cache has told of the script, or else to what was
read, and if it has anything to add, this is known to be remembered. -/
def Analysed (moment : Moment) (memory : Option Cache) (script : Path) (known : String → Prop)
    (stats : FileStats) : Prop :=
  stats = moment.toldStats memory script ∧
    ∀ text added, moment.Adds memory script text added → known script.text

section Single

variable (hscript : script ∈ scripts) (known : String → Prop)
include hscript

theorem meets_adding_readStats (htold : moment.told? memory script = none) :
    Meets (.adding moment memory scripts)
      (fun left found => left = known ∧ found = moment.stats? script) known
      (ScriptFile.readStats script) := by
  refine meets_send_bind ⟨hscript, htold⟩ fun reply hreply => ?_
  obtain rfl : reply = moment.read script := hreply
  unfold Moment.stats?
  cases hread : moment.read script with
  | error e => exact meets_send_bind trivial fun _ _ => ⟨rfl, rfl⟩
  | ok bytes =>
    dsimp only [Except.toOption, Option.bind_some]
    cases Script.decode bytes with
    | error fault => exact meets_send_bind trivial fun _ _ => ⟨rfl, rfl⟩
    | ok text => exact ⟨rfl, rfl⟩

/-- A script is read for good if the cache has told nothing of it, and adds nothing if there is no
cache or no signature for it. -/
theorem meets_adding_freshStats (htold : moment.told? memory script = none)
    (hnothing : ∀ text added, ¬ moment.Adds memory script text added) :
    Meets (.adding moment memory scripts) (Analysed moment memory script) known
      (ScriptFile.freshStats script) := by
  refine (meets_adding_readStats hscript known htold).bind fun left found hfound => ?_
  refine ⟨?_, fun text added hadds => absurd hadds (hnothing text added)⟩
  rw [Moment.toldStats, htold, Moment.freshStats, hfound.2]
  rfl

theorem meets_adding_signature :
    Meets (.adding moment memory scripts) (fun left found => left = known ∧
      found = (moment.signature script).toOption.map Signature.text)
      known (ScriptFile.signature script) := by
  refine meets_send_bind hscript fun reply hreply => ?_
  obtain rfl : reply = moment.signature script := hreply
  cases moment.signature script with
  | error e => exact ⟨rfl, rfl⟩
  | ok taken => exact ⟨rfl, rfl⟩

end Single

section Cached

variable {cache : Cache} {taken : Signature} (htaken : moment.signature script = .ok taken)
  (known : String → Prop)
include htaken

/-- What is found, by whichever analysis it was added, is what the analysis comes to. -/
theorem analysed_of_found (hbyText : moment.ByText) {found : FileStats}
    (hfound : (Contract.adding moment (some cache) scripts).expects known
      (.lookUp script.text taken.text) (some found)) :
    Analysed moment (some cache) script ((Contract.adding moment (some cache) scripts).learns known
      (.lookUp script.text taken.text) (some found)) found := by
  have htold := Moment.told?_eq (some cache) htaken
  rcases hfound with hfound | ⟨other, stats, hkey, hadds, hfound⟩
  · rw [← hfound] at htold
    refine ⟨?_, fun text added hadds => ?_⟩
    · rw [Moment.toldStats, htold]
      rfl
    · rw [hadds.told?_eq_none] at htold
      cases htold
  · obtain rfl := Option.some_inj.1 hfound
    have hadds := hadds.congr hbyText hkey
    rw [hadds.told?_eq_none] at htold
    exact ⟨hadds.toldStats_eq.symm, fun _ _ _ => .inr ⟨rfl, Option.some_ne_none _, htold.symm⟩⟩

/-- Of a script that is not found, nothing has been told at first. -/
theorem told?_eq_none_of_not_found
    (hfound : (Contract.adding moment (some cache) scripts).expects known
      (.lookUp script.text taken.text) none) : moment.told? (some cache) script = none := by
  rcases hfound with hfound | ⟨other, stats, -, -, hfound⟩
  · exact (Moment.told?_eq (some cache) htaken).trans hfound.symm
  · cases hfound

theorem meets_adding_missed (hscript : script ∈ scripts)
    (htold : moment.told? (some cache) script = none) :
    Meets (.adding moment (some cache) scripts) (Analysed moment (some cache) script) known (do
      match ← ScriptFile.readStats script with
      | none => return {}
      | some stats =>
        Job.send (.remember script.text taken.text stats)
        return stats) := by
  refine (meets_adding_readStats hscript known htold).bind fun left found hread => ?_
  obtain ⟨rfl, rfl⟩ := hread
  have hshown : moment.toldStats (some cache) script = (moment.stats? script).getD {} := by
    rw [Moment.toldStats, htold]
    rfl
  cases hstats : moment.stats? script with
  | none =>
    rw [hstats] at hshown
    refine ⟨hshown.symm, fun text added hadds => ?_⟩
    rw [hadds.read] at hstats
    cases hstats
  | some stats =>
    rw [hstats] at hshown
    have hmissing := (Moment.told?_eq (some cache) htaken).symm.trans htold
    have hadds : moment.Adds (some cache) script taken.text stats :=
      ⟨⟨taken, htaken, rfl⟩, ⟨cache, rfl, hmissing⟩, hstats⟩
    refine meets_send_bind ⟨script, hscript, rfl, hadds⟩ fun _ _ => ⟨hshown.symm, ?_⟩
    exact fun _ _ _ => .inr rfl

end Cached

section Script

variable (hbyText : moment.ByText) (hscript : script ∈ scripts) (known : String → Prop)
include hbyText hscript

theorem meets_adding_cachedStats (cache : Cache) :
    Meets (.adding moment (some cache) scripts) (Analysed moment (some cache) script) known
      (ScriptFile.cachedStats script) := by
  refine (meets_adding_signature hscript known).bind fun left found hfound => ?_
  obtain ⟨rfl, rfl⟩ := hfound
  cases htaken : moment.signature script with
  | error e =>
    refine meets_adding_freshStats hscript _ (by rw [Moment.told?, htaken]; rfl) ?_
    rintro text added ⟨⟨taken, hsigned, -⟩, -, -⟩
    rw [htaken] at hsigned
    cases hsigned
  | ok taken =>
    refine meets_send_bind ⟨script, hscript, rfl, taken, htaken, rfl⟩ fun found hfound => ?_
    cases found with
    | some found =>
      exact meets_send_bind trivial fun _ _ => analysed_of_found htaken _ hbyText hfound
    | none =>
      exact meets_adding_missed htaken _ hscript (told?_eq_none_of_not_found htaken _ hfound)

theorem meets_adding_stats :
    Meets (.adding moment memory scripts) (Analysed moment memory script) known
      (ScriptFile.stats memory.isSome script) := by
  cases memory with
  | some cache => exact meets_adding_cachedStats hbyText hscript known cache
  | none =>
    refine meets_adding_freshStats hscript known ?_ ?_
    · unfold Moment.told?
      cases moment.signature script <;> rfl
    · rintro text added ⟨-, ⟨cache, hcache, -⟩, -⟩
      cases hcache

end Script

end Job

/-! ## The cache while scripts are analysed -/

namespace Desk

/-- Besides what was there at first, the cache holds nothing but what the analyses of some scripts
add. -/
structure Grown (moment : Moment) (memory : Option Cache) (scripts : List Path) (desk : Desk) :
    Prop where
  isSome_eq : desk.session.cache.isSome = memory.isSome
  held : ∀ key, Cache.held? desk.session.cache key = Cache.held? memory key ∨
    ∃ script ∈ scripts, ∃ text stats, RawText.ofString script.text = key ∧
      moment.Adds memory script text stats ∧
        Cache.held? desk.session.cache key = some (RawText.ofString text, stats.toCached)

/-- What the analysis of the script adds is in the cache. -/
def Holds (moment : Moment) (memory : Option Cache) (script : Path) (desk : Desk) : Prop :=
  ∀ text stats, moment.Adds memory script text stats →
    Cache.held? desk.session.cache (RawText.ofString script.text) =
      some (RawText.ofString text, stats.toCached)

variable {moment : Moment} {memory : Option Cache} {scripts : List Path} {desk : Desk}

theorem grown_refl (moment : Moment) (scripts : List Path) (desk : Desk) :
    desk.Grown moment desk.session.cache scripts :=
  ⟨rfl, fun _ => .inl rfl⟩

/-- Two caches that began alike and have got all that there is to be added hold the same. -/
theorem Grown.held?_eq {other : Desk} (h : desk.Grown moment memory scripts)
    (hall : ∀ script ∈ scripts, desk.Holds moment memory script)
    (hother : other.Grown moment memory scripts)
    (hothers : ∀ script ∈ scripts, other.Holds moment memory script) (key : RawText) :
    Cache.held? other.session.cache key = Cache.held? desk.session.cache key := by
  rcases h.held key with hsame | ⟨script, hscript, text, stats, rfl, hadds, hheld⟩
  · rcases hother.held key with hsame' | ⟨script, hscript, text, stats, rfl, hadds, hheld⟩
    · exact hsame'.trans hsame.symm
    · exact hheld.trans (hall script hscript text stats hadds).symm
  · exact (hothers script hscript text stats hadds).trans hheld.symm

theorem Holds.tells? {script : Path} (h : desk.Holds moment memory script) {text : String}
    {stats : FileStats} (hadds : moment.Adds memory script text stats) :
    Cache.tells? desk.session.cache script.text text = some stats := by
  rw [Cache.tells?_eq, h text stats hadds, Option.bind_some, if_pos rfl,
    FileStats.ofCached?_toCached]

section Answer

variable (hbyText : moment.ByText) {script : Path} {text : String}
include hbyText

theorem Holds.congr {other : Path} (h : desk.Holds moment memory script)
    (htext : script.text = other.text) : desk.Holds moment memory other := by
  intro text stats hadds
  rw [← htext]
  exact h text stats (hadds.congr hbyText htext.symm)

/-- Under its present signature the cache tells of a script what it has told at first, unless what
the analysis of the script adds is in the cache. -/
theorem Grown.tells? (h : desk.Grown moment memory scripts)
    (hsigned : ∃ taken, moment.signature script = .ok taken ∧ taken.text = text) :
    Cache.tells? desk.session.cache script.text text = Cache.tells? memory script.text text ∨
      desk.Holds moment memory script ∧ ∃ stats, moment.Adds memory script text stats ∧
        Cache.tells? desk.session.cache script.text text = some stats := by
  rcases h.held (RawText.ofString script.text) with
    hsame | ⟨other, -, sign, stats, hkey, hadds, hheld⟩
  · exact .inl (by rw [Cache.tells?_eq, Cache.tells?_eq, hsame])
  · have hadds := hadds.congr hbyText (RawText.ofString_injective hkey)
    obtain ⟨taken, htaken, rfl⟩ := hsigned
    obtain rfl : taken.text = sign := by
      obtain ⟨again, hagain, rfl⟩ := hadds.signed
      rw [htaken] at hagain
      exact congrArg Signature.text (Except.ok.inj hagain)
    have hholds : desk.Holds moment memory script := fun text added hadded => by
      obtain ⟨rfl, rfl⟩ := hadds.unique hadded
      exact hheld
    exact .inr ⟨hholds, stats, hadds, hholds.tells? hadds⟩

variable {stats : FileStats} (h : desk.Grown moment memory scripts)
  (hadds : moment.Adds memory script text stats) (time : String)
include h hadds

omit hbyText in
theorem Grown.held?_remember (key : RawText) :
    Cache.held? (desk.session.cache.map (·.store script.text text stats time)) key =
      if RawText.ofString script.text = key then some (RawText.ofString text, stats.toCached)
      else Cache.held? desk.session.cache key := by
  obtain ⟨known, rfl, -⟩ := hadds.missing
  obtain ⟨cache, hcache⟩ := Option.isSome_iff_exists.1 h.isSome_eq
  rw [hcache]
  exact Cache.held?_store cache script.text text stats time key

theorem Grown.holds_remember {other : Path}
    (hother : desk.Holds moment memory other ∨ script.text = other.text) :
    Holds moment memory other
      (desk.withCache (desk.session.cache.map (·.store script.text text stats time))) := by
  intro sign added hadded
  refine (h.held?_remember hadds time _).trans ?_
  split
  next hkey =>
    obtain ⟨rfl, rfl⟩ := hadds.unique (hadded.congr hbyText (RawText.ofString_injective hkey).symm)
    rfl
  next hkey =>
    rcases hother with hother | htext
    · exact hother sign added hadded
    · exact absurd (congrArg RawText.ofString htext) hkey

omit hbyText in
theorem Grown.remember (hscript : script ∈ scripts) :
    Grown moment memory scripts
      (desk.withCache (desk.session.cache.map (·.store script.text text stats time))) where
  isSome_eq := by
    rw [← h.isSome_eq]
    exact Option.isSome_map
  held key := by
    have hheld := h.held?_remember hadds time key
    by_cases hkey : RawText.ofString script.text = key
    · rw [if_pos hkey] at hheld
      exact .inr ⟨script, hscript, text, stats, hkey, hadds, hheld⟩
    · rw [if_neg hkey] at hheld
      rcases h.held key with hsame | ⟨other, hother, sign, added, hof, hadded, hkept⟩
      · exact .inl (hheld.trans hsame)
      · exact .inr ⟨other, hother, sign, added, hof, hadded, hheld.trans hkept⟩

end Answer

/-- What a request of an analysis is answered with, and what it leaves. -/
structure Answered (moment : Moment) (memory : Option Cache) (scripts : List Path)
    (known : String → Prop) (request : Request) (desk : Desk) (reply : request.Reply)
    (left : Desk) : Prop where
  expects : (Contract.adding moment memory scripts).expects known request reply
  grown : left.Grown moment memory scripts
  holds : ∀ script, desk.Holds moment memory script → left.Holds moment memory script
  learns : (∀ script : Path, known script.text → desk.Holds moment memory script) →
    ∀ script : Path,
      (Contract.adding moment memory scripts).learns known request reply script.text →
        left.Holds moment memory script

theorem Grown.answered (hbyText : moment.ByText) (h : desk.Grown moment memory scripts)
    {known : String → Prop} {request : Request}
    (hmay : (Contract.adding moment memory scripts).may known request) {time : String} {depth : Nat}
    {reply : request.Reply} {left : Desk}
    (hanswer : outcome (Session.answer ({ moment with time }.host depth) request) desk =
      (.ok reply, left)) :
    Answered moment memory scripts known request desk reply left := by
  cases request with
  | list path => exact absurd hmay id
  | identity path => exact absurd hmay id
  | directoryBound => exact absurd hmay id
  | read path =>
    have hpossible := (Desk.outcome_possible (moment.read path) desk).symm.trans hanswer
    obtain ⟨hreply, rfl⟩ := Prod.mk.inj hpossible
    exact ⟨Session.possible_eq_ok hreply, h, fun _ hholds => hholds, id⟩
  | signature path =>
    have hpossible := (Desk.outcome_possible (moment.signature path) desk).symm.trans hanswer
    obtain ⟨hreply, rfl⟩ := Prod.mk.inj hpossible
    exact ⟨Session.possible_eq_ok hreply, h, fun _ hholds => hholds, id⟩
  | lookUp key text =>
    obtain ⟨script, -, rfl, hsigned⟩ := hmay
    obtain ⟨hreply, rfl⟩ := Prod.mk.inj hanswer
    obtain rfl : Cache.tells? desk.session.cache script.text text = reply := Except.ok.inj hreply
    rcases h.tells? hbyText hsigned with htold | ⟨hholds, stats, hadds, htold⟩
    · refine ⟨.inl htold, h, fun _ hother => hother, fun hknown other hlearnt => ?_⟩
      rcases hlearnt with hother | ⟨-, hfound, hmissing⟩
      · exact hknown other hother
      · exact absurd (htold.trans hmissing) hfound
    · refine ⟨.inr ⟨script, stats, rfl, hadds, htold⟩, h, fun _ hother => hother, ?_⟩
      rintro hknown other (hother | ⟨hkey, -, -⟩)
      · exact hknown other hother
      · exact hholds.congr hbyText hkey.symm
  | remember key text stats =>
    obtain ⟨script, hscript, rfl, hadds⟩ := hmay
    obtain ⟨-, rfl⟩ := Prod.mk.inj hanswer
    refine ⟨trivial, h.remember hadds time hscript,
      fun other hother => h.holds_remember hbyText hadds time (.inl hother), ?_⟩
    rintro hknown other (hother | hkey)
    · exact h.holds_remember hbyText hadds time (.inl (hknown other hother))
    · exact h.holds_remember hbyText hadds time (.inr hkey.symm)
  | note record =>
    obtain ⟨-, rfl⟩ := Prod.mk.inj hanswer
    exact ⟨trivial, h, fun _ hholds => hholds, id⟩

end Desk

end ScriptStats
