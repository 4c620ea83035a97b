import ScriptStats.Proofs.Markup.Context
import ScriptStats.Proofs.Script.Lines
import ScriptStats.Proofs.Text.Trimming

/-!
# Padded lines

Blanks at the ends of a line count for nothing. No markup can begin or end in them, so what is left
of the line has the same blanks at its ends, and these are trimmed. Line ends are a case of this,
since a carriage return before a line feed is a blank at the end of a line.
-/

namespace ScriptStats

open Markup (Blanks)

/-! ## One line -/

/-- `padded` is the line with blanks put at its ends. -/
def PaddedLine (line padded : List Char) : Prop :=
  ∃ before after, Blanks before ∧ Blanks after ∧ padded = before ++ (line ++ after)

namespace PaddedLine

variable {line padded : List Char}

theorem trim_eq (h : PaddedLine line padded) : Text.trim padded = Text.trim line := by
  obtain ⟨before, after, hbefore, hafter, rfl⟩ := h
  rw [Text.trim, Text.trim, Text.trimBy_append_left hbefore, Text.trimBy_append_right hafter]

theorem notMem_of_blanks {blanks : List Char} (h : Blanks blanks) {c : Char}
    (hc : Text.isBlank c = false) : c ∉ blanks := by
  intro hmem
  rw [h c hmem] at hc
  cases hc

theorem apart_of_blanks {before after : List Char} (hbefore : Blanks before)
    (hafter : Blanks after) : Markup.Apart before after where
  opens_none := ⟨notMem_of_blanks hbefore (by decide), notMem_of_blanks hbefore (by decide)⟩
  not_escaping hlast := notMem_of_blanks hbefore (by decide) (List.mem_of_getLast? hlast)
  closes_none := ⟨notMem_of_blanks hafter (by decide), notMem_of_blanks hafter (by decide)⟩

theorem normalize (h : PaddedLine line padded) :
    PaddedLine (Markup.normalize line) (Markup.normalize padded) := by
  obtain ⟨before, after, hbefore, hafter, rfl⟩ := h
  have hapart := apart_of_blanks hbefore hafter
  exact ⟨before, after, hbefore, hafter, Markup.normalize_between hapart line⟩

theorem ofText_eq (h : PaddedLine line padded) : Line.ofText padded = Line.ofText line := by
  have hkind : LineKind.ofLine padded = LineKind.ofLine line := by
    rw [LineKind.ofLine, LineKind.ofLine, h.trim_eq]
  have hdialogue : Dialogue.ofLine (Markup.normalize padded) =
      Dialogue.ofLine (Markup.normalize line) := by
    rw [Dialogue.ofLine, Dialogue.ofLine, h.normalize.trim_eq]
  rw [Line.ofText, Line.ofText, hkind, hdialogue]

/-- The carriage return that is dropped from a line has padded it. -/
theorem dropReturn (line : List Char) : PaddedLine (Text.dropReturn line) line := by
  unfold Text.dropReturn
  split
  next hlast =>
    refine ⟨[], ['\r'], Markup.blanks_nil, Markup.blanks_singleton (by decide), ?_⟩
    obtain ⟨start, rfl⟩ := List.getLast?_eq_some_iff.1 hlast
    simp
  next => exact ⟨[], [], Markup.blanks_nil, Markup.blanks_nil, by simp⟩

/-- No blank is a byte order mark. -/
theorem head?_eq (h : PaddedLine line padded) (hmark : padded.head? = some Script.byteOrderMark) :
    line.head? = some Script.byteOrderMark := by
  have hblank : Text.isBlank Script.byteOrderMark = false := by decide
  obtain ⟨before, after, hbefore, hafter, rfl⟩ := h
  cases before with
  | cons c before =>
    obtain rfl := Option.some_inj.1 hmark
    exact absurd (List.mem_cons_self ..) (notMem_of_blanks hbefore hblank)
  | nil =>
    cases line with
    | cons c line => exact hmark
    | nil =>
      have hmem : Script.byteOrderMark ∈ after := List.mem_of_mem_head? hmark
      exact absurd hmem (notMem_of_blanks hafter hblank)

end PaddedLine

/-! ## Whole scripts -/

/-- `padded` is the text with blanks put at the ends of its lines. -/
def Padded (text padded : List Char) : Prop :=
  List.Forall₂ PaddedLine (Text.pieces (· = '\n') text) (Text.pieces (· = '\n') padded)

/-- The text with a carriage return before each of its line feeds. -/
def withReturns (text : List Char) : List Char :=
  text.flatMap fun c => if c = '\n' then ['\r', '\n'] else [c]

theorem map_ofText_eq {lines padded : List (List Char)} (h : List.Forall₂ PaddedLine lines padded) :
    padded.map Line.ofText = lines.map Line.ofText := by
  induction h with
  | nil => rfl
  | cons hline _ ih => rw [List.map_cons, List.map_cons, hline.ofText_eq, ih]

namespace Padded

variable {text padded : List Char}

theorem lines_eq (h : Padded text padded) :
    (Text.lines padded).map Line.ofText = (Text.lines text).map Line.ofText := by
  have hreturn (line : List Char) : Line.ofText (Text.dropReturn line) = Line.ofText line :=
    (PaddedLine.dropReturn line).ofText_eq.symm
  simp only [Text.lines, List.map_map, Function.comp_def, hreturn]
  exact map_ofText_eq h

theorem head?_eq (h : Padded text padded) (hmark : padded.head? = some Script.byteOrderMark) :
    text.head? = some Script.byteOrderMark := by
  have hnot : decide (Script.byteOrderMark = '\n') = false := by decide
  obtain ⟨line, lines, hlines⟩ := List.exists_cons_of_ne_nil (Text.pieces_ne_nil (· = '\n') text)
  obtain ⟨piece, more, hpieces⟩ := (Text.head?_eq_some_iff_pieces (· = '\n') hnot).1 hmark
  rw [Padded, hlines, hpieces, List.forall₂_cons] at h
  obtain ⟨rest, hline⟩ := List.head?_eq_some_iff.1 (h.1.head?_eq rfl)
  exact (Text.head?_eq_some_iff_pieces (· = '\n') hnot).2 ⟨rest, lines, hline ▸ hlines⟩

/-- All that is put into the text stands at the ends of lines. -/
theorem forall₂_withReturns (text : List Char) :
    List.Forall₂ (fun line padded => padded = line ∨ padded = line ++ ['\r'])
      (Text.pieces (· = '\n') text) (Text.pieces (· = '\n') (ScriptStats.withReturns text)) := by
  induction text with
  | nil => exact .cons (.inl rfl) .nil
  | cons c text ih =>
    by_cases hc : c = '\n'
    · subst hc
      have hpadded : Text.pieces (· = '\n') (ScriptStats.withReturns ('\n' :: text)) =
          ['\r'] :: Text.pieces (· = '\n') (ScriptStats.withReturns text) :=
        Text.pieces_append rfl ['\r'] _
      rw [Text.pieces_mark (· = '\n') rfl, hpadded]
      exact .cons (.inr rfl) ih
    · have hmark : decide (c = '\n') = false := decide_eq_false hc
      have hsame : ScriptStats.withReturns (c :: text) = c :: ScriptStats.withReturns text := by
        simp [ScriptStats.withReturns, hc]
      obtain ⟨line, lines, hlines⟩ :=
        List.exists_cons_of_ne_nil (Text.pieces_ne_nil (· = '\n') text)
      obtain ⟨piece, pieces, hpieces⟩ := List.exists_cons_of_ne_nil
        (Text.pieces_ne_nil (· = '\n') (ScriptStats.withReturns text))
      rw [hlines, hpieces, List.forall₂_cons] at ih
      rw [hsame, Text.pieces_cons (· = '\n') hmark hlines, Text.pieces_cons (· = '\n') hmark hpieces]
      refine .cons ?_ ih.2
      rcases ih.1 with rfl | rfl
      · exact .inl rfl
      · exact .inr rfl

theorem withReturns (text : List Char) : Padded text (ScriptStats.withReturns text) := by
  refine (forall₂_withReturns text).imp fun line padded hpadded => ?_
  rcases hpadded with rfl | rfl
  · exact ⟨[], [], Markup.blanks_nil, Markup.blanks_nil, by simp⟩
  · exact ⟨[], ['\r'], Markup.blanks_nil, Markup.blanks_singleton (by decide), by simp⟩

end Padded

namespace Script

theorem dropMark_withReturns (text : List Char) :
    dropMark (withReturns text) = withReturns (dropMark text) := by
  cases text with
  | nil => rfl
  | cons c text =>
    by_cases hfeed : c = '\n'
    · subst hfeed
      rfl
    · have hsame : withReturns (c :: text) = c :: withReturns text := by simp [withReturns, hfeed]
      rw [hsame, dropMark, dropMark]
      split
      next => rfl
      next => rw [hsame]

/-- Blanks at the ends of lines change nothing about the statistics of a script, and so carriage
returns before its line feeds do not. -/
theorem stats_padded (text : List Char) :
    (text.head? ≠ some byteOrderMark → ∀ padded, Padded text padded → stats padded = stats text) ∧
      stats (withReturns text) = stats text := by
  constructor
  · intro hmark padded hpadded
    have hkept : padded.head? ≠ some byteOrderMark := fun h => hmark (hpadded.head?_eq h)
    rw [stats, stats, lines, lines, dropMark_eq_self hmark, dropMark_eq_self hkept,
      hpadded.lines_eq]
  · rw [stats, stats, lines, lines, dropMark_withReturns, (Padded.withReturns _).lines_eq]

/-- A line with markup between a tab and a carriage return, and an indented command. -/
theorem stats_padded_markup :
    ['A', ':', '<', 'b', 'r', '>', 'x', '\n', '@', 'c'].head? ≠ some byteOrderMark ∧
      Padded ['A', ':', '<', 'b', 'r', '>', 'x', '\n', '@', 'c']
        ['\t', 'A', ':', '<', 'b', 'r', '>', 'x', '\r', '\n', ' ', '@', 'c'] ∧
      stats ['\t', 'A', ':', '<', 'b', 'r', '>', 'x', '\r', '\n', ' ', '@', 'c'] =
        stats ['A', ':', '<', 'b', 'r', '>', 'x', '\n', '@', 'c'] := by
  have hmark : ['A', ':', '<', 'b', 'r', '>', 'x', '\n', '@', 'c'].head? ≠ some byteOrderMark := by
    decide
  have hdialogue : PaddedLine ['A', ':', '<', 'b', 'r', '>', 'x']
      ['\t', 'A', ':', '<', 'b', 'r', '>', 'x', '\r'] :=
    ⟨['\t'], ['\r'], Markup.blanks_singleton (by decide), Markup.blanks_singleton (by decide), rfl⟩
  have hcommand : PaddedLine ['@', 'c'] [' ', '@', 'c'] :=
    ⟨[' '], [], Markup.blanks_singleton (by decide), Markup.blanks_nil, rfl⟩
  have hpadded : Padded ['A', ':', '<', 'b', 'r', '>', 'x', '\n', '@', 'c']
      ['\t', 'A', ':', '<', 'b', 'r', '>', 'x', '\r', '\n', ' ', '@', 'c'] :=
    .cons hdialogue (.cons hcommand .nil)
  exact ⟨hmark, hpadded, (stats_padded _).1 hmark _ hpadded⟩

end Script

end ScriptStats
