import ScriptStats.Proofs.Stats.Merge
import ScriptStats.Proofs.Text.Pieces
import ScriptStats.Script

/-!
# Scripts line by line

All that is counted of a script is counted of its lines, so the statistics of two texts, one below
the other, are what theirs amount to together. The only thing that does not carry over is a byte
order mark: it is none behind a line feed.
-/

namespace ScriptStats

/-! ## Cutting joined texts -/

namespace Text

/-- The carriage return before the line feed, if there is one, belongs to the first text. -/
theorem lines_append (before after : List Char) :
    lines (before ++ '\n' :: after) = lines before ++ lines after := by
  have hcut : pieces (· = '\n') (before ++ '\n' :: after) =
      pieces (· = '\n') before ++ pieces (· = '\n') after := pieces_append rfl before after
  rw [lines, hcut, List.map_append, lines, lines]

end Text

namespace Script

theorem dropMark_eq_self {text : List Char} (h : text.head? ≠ some byteOrderMark) :
    dropMark text = text := by
  cases text with
  | nil => rfl
  | cons c text =>
    have hc : c ≠ byteOrderMark := fun heq => h (congrArg some heq)
    rw [dropMark, if_neg hc]

theorem dropMark_append (before after : List Char) :
    dropMark (before ++ '\n' :: after) = dropMark before ++ '\n' :: after := by
  cases before with
  | nil => rfl
  | cons c before =>
    rw [List.cons_append, dropMark, dropMark]
    split <;> rfl

theorem lines_append {after : List Char} (h : after.head? ≠ some byteOrderMark)
    (before : List Char) : lines (before ++ '\n' :: after) = lines before ++ lines after := by
  rw [lines, dropMark_append, Text.lines_append, List.map_append, lines, lines, dropMark_eq_self h]

end Script

/-! ## Counting joined texts -/

/-- The same statistics, however many scripts they are about. -/
structure Stats.Agree (a b : Stats) : Prop where
  bodyChars : a.bodyChars = b.bodyChars
  wordCount : a.wordCount = b.wordCount
  speakers : a.speakers = b.speakers
  words : a.words = b.words
  scriptLines : a.scriptLines = b.scriptLines

namespace NameSet

theorem mem_ofList {names : List String} {name : String} : name ∈ ofList names ↔ name ∈ names := by
  rw [ofList, Std.ExtTreeSet.mem_ofList, List.contains_iff_mem]

end NameSet

namespace Script

theorem mem_speakers_statsOfLines {lines : List Line} {name : String} :
    name ∈ (statsOfLines lines).speakers ↔ ∃ line ∈ lines, line.speaker? = some name := by
  rw [statsOfLines, NameSet.mem_ofList, List.mem_filterMap]

/-- Counting is done line by line. -/
theorem statsOfLines_append (lines more : List Line) :
    Stats.Agree (.file (statsOfLines (lines ++ more)))
      (.aggregate (.merge [.file (statsOfLines lines), .file (statsOfLines more)])) where
  bodyChars := by
    simp [Stats.bodyChars, statsOfLines, AggregateStats.merge, AggregateStats.total, Count.ofNat,
      Count.value]
  wordCount := by
    simp [Stats.wordCount, statsOfLines, AggregateStats.merge, AggregateStats.total, Count.ofNat,
      Count.value]
  speakers := Std.ExtTreeSet.ext_mem fun name => by
    change name ∈ (statsOfLines (lines ++ more)).speakers ↔ name ∈ (AggregateStats.merge _).speakers
    rw [AggregateStats.mem_speakers_merge]
    simp only [List.mem_cons, List.not_mem_nil, or_false, exists_eq_left, Stats.speakers,
      mem_speakers_statsOfLines, List.mem_append, or_and_right, exists_or]
  words := by
    simp [Stats.words, statsOfLines, AggregateStats.merge]
  scriptLines := by
    simp [Stats.scriptLines, statsOfLines, AggregateStats.merge, AggregateStats.total, Count.ofNat,
      Count.value]

/-- Two texts, one below the other, have the statistics that theirs amount to together, unless the
second one begins with a byte order mark. -/
theorem stats_append_line {after : List Char} (h : after.head? ≠ some byteOrderMark)
    (before : List Char) :
    Stats.Agree (.file (stats (before ++ '\n' :: after)))
      (.aggregate (.merge [.file (stats before), .file (stats after)])) := by
  have hlines := lines_append h before
  have hcounted := statsOfLines_append (lines before) (lines after)
  rwa [← hlines] at hcounted

/-- The mark before the first text is dropped, the carriage return at its end as well. -/
theorem stats_append_line_marked :
    ['#', 'a'].head? ≠ some byteOrderMark ∧
      Stats.Agree (.file (stats ('\uFEFF' :: '@' :: 'x' :: '\r' :: '\n' :: ['#', 'a'])))
        (.aggregate (.merge [.file (stats ['\uFEFF', '@', 'x', '\r']), .file (stats ['#', 'a'])])) :=
  have hmark : ['#', 'a'].head? ≠ some byteOrderMark := by decide
  ⟨hmark, stats_append_line hmark ['\uFEFF', '@', 'x', '\r']⟩

/-- Behind a line feed the mark is a character of the dialogue. -/
example : ¬ Stats.Agree (.file (stats ('\n' :: [byteOrderMark])))
    (.aggregate (.merge [.file (stats []), .file (stats [byteOrderMark])])) := by
  intro h
  have hchars := h.bodyChars
  revert hchars
  decide +kernel

end Script

end ScriptStats
