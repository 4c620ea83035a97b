import ScriptStats.Dialogue
import ScriptStats.Proofs.Text.Trimming

/-!
# Who speaks

A line names its speaker just when it can be cut into a name, blanks, a colon and the rest. Since no
name holds a colon or a blank, there is at most one such cut.
-/

namespace ScriptStats.Dialogue

open Text Markup

/-- A name: not nothing, and neither colons nor blanks in it. -/
def IsName (name : String) : Prop :=
  name ≠ "" ∧ ∀ c ∈ name.toList, c ≠ ':' ∧ Text.isBlank c = false

/-- The line begins with the name of its speaker, up to a colon that blanks may stand before. -/
structure NamesSpeaker (line : List Char) (name : String) (blanks rest : List Char) : Prop where
  line_eq : line = name.toList ++ (blanks ++ ':' :: rest)
  isName : IsName name
  isBlanks : Blanks blanks

theorem inName_eq_true_iff {c : Char} : inName c = true ↔ c ≠ ':' ∧ isBlank c = false := by
  simp [inName]

theorem isBlank_colon : isBlank ':' = false := by
  decide

/-! ## Reading a name -/

theorem inName_eq_false_of_head {blanks rest : List Char} (h : Blanks blanks) {c : Char}
    (hc : (blanks ++ ':' :: rest).head? = some c) : inName c = false := by
  cases blanks with
  | nil =>
    obtain rfl := Option.some_inj.1 hc
    decide
  | cons blank blanks =>
    obtain rfl := Option.some_inj.1 hc
    simp [inName, h blank (List.mem_cons_self ..)]

theorem span_inName {name rest : List Char} (hname : ∀ c ∈ name, inName c = true)
    (hrest : ∀ c, rest.head? = some c → inName c = false) :
    (name ++ rest).takeWhile inName = name ∧ (name ++ rest).dropWhile inName = rest := by
  rw [List.takeWhile_append_of_pos hname, List.dropWhile_append_of_pos hname]
  cases rest with
  | nil => simp
  | cons c rest => simp [hrest c rfl]

namespace NamesSpeaker

variable {line blanks rest : List Char} {name : String}

theorem span_eq (h : NamesSpeaker line name blanks rest) :
    line.takeWhile inName = name.toList ∧ line.dropWhile inName = blanks ++ ':' :: rest := by
  rw [h.line_eq]
  refine span_inName (fun c hc => inName_eq_true_iff.2 (h.isName.2 c hc)) fun c hc => ?_
  exact inName_eq_false_of_head h.isBlanks hc

theorem dropBlanks_eq (h : Blanks blanks) (rest : List Char) :
    (blanks ++ ':' :: rest).takeWhile isBlank = blanks ∧
      (blanks ++ ':' :: rest).dropWhile isBlank = ':' :: rest := by
  rw [List.takeWhile_append_of_pos h, List.dropWhile_append_of_pos h]
  simp [isBlank_colon]

/-- A line can be cut in one way only. -/
theorem unique (h : NamesSpeaker line name blanks rest) {other : String}
    {blanks' rest' : List Char} (h' : NamesSpeaker line other blanks' rest') :
    other = name ∧ blanks' = blanks ∧ rest' = rest := by
  have hname : other = name := String.toList_injective (h'.span_eq.1.symm.trans h.span_eq.1)
  have hcut : blanks' ++ ':' :: rest' = blanks ++ ':' :: rest :=
    h'.span_eq.2.symm.trans h.span_eq.2
  have hblanks := dropBlanks_eq h'.isBlanks rest'
  rw [hcut, (dropBlanks_eq h.isBlanks rest).1, (dropBlanks_eq h.isBlanks rest).2] at hblanks
  exact ⟨hname, hblanks.1.symm, (List.cons.inj hblanks.2).2.symm⟩

theorem ofTrimmed_eq (h : NamesSpeaker line name blanks rest) :
    ofTrimmed line = ⟨some name, trim rest⟩ := by
  have hname : name.toList ≠ [] := fun hnil => h.isName.1 (String.toList_injective hnil)
  simp only [ofTrimmed, h.span_eq.1, h.span_eq.2, (dropBlanks_eq h.isBlanks rest).2, if_neg hname,
    String.ofList_toList]

/-- Trimming leaves the name where it is, since neither it nor the colon is blank. -/
theorem trim (h : NamesSpeaker line name blanks rest) :
    ∃ kept, NamesSpeaker (Text.trim line) name blanks kept ∧ Text.trim kept = Text.trim rest := by
  refine ⟨rest.rdropWhile isBlank, ⟨?_, h.isName, h.isBlanks⟩, trimBy_rdropWhile rest⟩
  have hfront : Text.trim line = line.rdropWhile isBlank := by
    rw [h.line_eq]
    cases hname : name.toList with
    | nil => exact absurd (String.toList_injective hname) h.isName.1
    | cons c more => exact trimBy_cons (h.isName.2 c (hname ▸ List.mem_cons_self ..)).2 _
  rw [hfront, h.line_eq, ← List.append_assoc, rdropWhile_append_cons isBlank_colon,
    List.append_assoc]

end NamesSpeaker

/-- A line that names no speaker is narration. -/
theorem exists_namesSpeaker_or (line : List Char) :
    (∃ name blanks rest, NamesSpeaker line name blanks rest) ∨ ofTrimmed line = ⟨none, line⟩ := by
  cases hrest : (line.dropWhile inName).dropWhile isBlank with
  | nil => exact .inr (by simp only [ofTrimmed, hrest])
  | cons c rest =>
    by_cases hread : c = ':' ∧ line.takeWhile inName ≠ []
    · obtain ⟨rfl, hname⟩ := hread
      refine .inl ⟨String.ofList (line.takeWhile inName), (line.dropWhile inName).takeWhile isBlank,
        rest, ?_, ⟨fun hempty => hname ?_, fun c hc => ?_⟩, blanks_takeWhile _⟩
      · rw [String.toList_ofList, ← hrest, List.takeWhile_append_dropWhile,
          List.takeWhile_append_dropWhile]
      · simpa using congrArg String.toList hempty
      · rw [String.toList_ofList] at hc
        exact inName_eq_true_iff.1 (List.mem_takeWhile_imp hc)
    · -- Without a name in front of it a colon is part of what is said.
      refine .inr ?_
      by_cases hc : c = ':'
      · subst hc
        simp_all [ofTrimmed]
      · simp [ofTrimmed, hrest, hc]

/-! ## Reading a line -/

variable {line blanks rest : List Char} {name : String}

theorem ofLine_eq_of_namesSpeaker (h : NamesSpeaker line name blanks rest) :
    ofLine line = ⟨some name, Text.trim rest⟩ := by
  obtain ⟨kept, hkept, hrest⟩ := h.trim
  rw [ofLine, hkept.ofTrimmed_eq, hrest]

theorem speaker_eq_some_iff : (ofLine line).speaker = some name ↔
    ∃ blanks rest, NamesSpeaker (Text.trim line) name blanks rest := by
  constructor
  · intro h
    rcases exists_namesSpeaker_or (Text.trim line) with ⟨other, blanks, rest, hnames⟩ | hnarration
    · rw [ofLine, hnames.ofTrimmed_eq] at h
      exact Option.some_inj.1 h ▸ ⟨blanks, rest, hnames⟩
    · rw [ofLine, hnarration] at h
      cases h
  · rintro ⟨blanks, rest, h⟩
    rw [ofLine, h.ofTrimmed_eq]

theorem trim_content (line : List Char) :
    Text.trim (ofLine line).content = (ofLine line).content := by
  rcases exists_namesSpeaker_or (Text.trim line) with ⟨name, blanks, rest, hnames⟩ | hnarration
  · rw [ofLine, hnames.ofTrimmed_eq]
    exact trimBy_trimBy isBlank rest
  · rw [ofLine, hnarration]
    exact trimBy_trimBy isBlank line

theorem isName_of_speaker (h : (ofLine line).speaker = some name) : IsName name := by
  obtain ⟨_, _, hnames⟩ := speaker_eq_some_iff.1 h
  exact hnames.isName

/-- A line has a speaker just when it names one, once its ends are trimmed, and it can be cut at the
name in one way only. What follows the colon, or else the whole line, is trimmed and said. -/
theorem ofLine_names :
    (∀ line name, (ofLine line).speaker = some name ↔
      ∃ blanks rest, NamesSpeaker (Text.trim line) name blanks rest) ∧
    (∀ line name blanks rest, NamesSpeaker (Text.trim line) name blanks rest →
      ofLine line = ⟨some name, Text.trim rest⟩ ∧
        ∀ other blanks' rest', NamesSpeaker (Text.trim line) other blanks' rest' →
          other = name ∧ blanks' = blanks ∧ rest' = rest) ∧
    (∀ line, (∀ name blanks rest, ¬ NamesSpeaker (Text.trim line) name blanks rest) →
      ofLine line = ⟨none, Text.trim line⟩) ∧
    (∀ line, Text.trim (ofLine line).content = (ofLine line).content) ∧
    ∀ name before after content, IsName name → Blanks before → Blanks after →
      Text.trim content = content →
        ofLine (name.toList ++ (before ++ ':' :: (after ++ content))) = ⟨some name, content⟩ := by
  refine ⟨fun line name => speaker_eq_some_iff, fun line name blanks rest h => ⟨h.ofTrimmed_eq,
    fun other blanks' rest' h' => h.unique h'⟩, fun line h => ?_, trim_content, ?_⟩
  · refine (exists_namesSpeaker_or _).resolve_left ?_
    rintro ⟨name, blanks, rest, hnames⟩
    exact h name blanks rest hnames
  · intro name before after content hname hbefore hafter hcontent
    rw [ofLine_eq_of_namesSpeaker ⟨rfl, hname, hbefore⟩, Text.trim, trimBy_append_left hafter]
    exact congrArg (Dialogue.mk (some name)) hcontent

/-- Of two colons the first one ends the name, and a colon at the front ends none. -/
theorem ofLine_names_colons :
    (IsName "Kohaku" ∧ Blanks [' '] ∧ Blanks ['\u3000'] ∧
      Text.trim "then: go".toList = "then: go".toList ∧
      ofLine ("Kohaku".toList ++ ([' '] ++ ':' :: (['\u3000'] ++ "then: go".toList))) =
        ⟨some "Kohaku", "then: go".toList⟩ ∧
      NamesSpeaker (Text.trim "Kohaku :\u3000then: go".toList) "Kohaku" [' ']
        "\u3000then: go".toList) ∧
    (∀ name blanks rest, ¬ NamesSpeaker (Text.trim " : go ".toList) name blanks rest) ∧
      ofLine " : go ".toList = ⟨none, ": go".toList⟩ := by
  have hletters : "Kohaku".toList.all inName = true := by decide
  have hname : IsName "Kohaku" :=
    ⟨by decide, fun c hc => inName_eq_true_iff.1 (List.all_eq_true.1 hletters c hc)⟩
  have hbefore : Blanks [' '] := blanks_singleton (by decide)
  have hafter : Blanks ['\u3000'] := blanks_singleton (by decide)
  have htrim : Text.trim "then: go".toList = "then: go".toList := by decide
  have hnone : ∀ name blanks rest, ¬ NamesSpeaker (Text.trim " : go ".toList) name blanks rest := by
    intro name blanks rest h
    have hspeaker := (ofLine_names.1 " : go ".toList name).2 ⟨blanks, rest, h⟩
    rw [show (ofLine " : go ".toList).speaker = none by decide] at hspeaker
    cases hspeaker
  refine ⟨⟨hname, hbefore, hafter, htrim, ofLine_names.2.2.2.2 _ _ _ _ hname hbefore hafter htrim,
    by decide, hname, hbefore⟩, hnone, ?_⟩
  rw [ofLine_names.2.2.1 _ hnone]
  decide

end ScriptStats.Dialogue
