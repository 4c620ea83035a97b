import Mathlib.Data.List.Perm.Basic
import ScriptStats.Stats.Basic

/-!
# Merged statistics

Items may be merged in groups, and their order matters for nothing but the order of the words.
-/

namespace ScriptStats.AggregateStats

theorem total_append (count : Stats → Int) (items more : List Stats) :
    total count (items ++ more) = total count items + total count more := by
  induction items with
  | nil => simp [total]
  | cons item items ih => simp [total, ih, Int.add_assoc]

theorem total_perm (count : Stats → Int) {items more : List Stats} (h : items.Perm more) :
    total count items = total count more := by
  induction h with
  | nil => rfl
  | cons item _ ih => simp [total, ih]
  | swap a b items => simp [total, Int.add_left_comm]
  | trans _ _ ih₁ ih₂ => exact ih₁.trans ih₂

theorem mem_foldl_union {items : List Stats} {names : NameSet} {name : String} :
    name ∈ items.foldl (fun names s => names ∪ s.speakers) names ↔
      name ∈ names ∨ ∃ item ∈ items, name ∈ item.speakers := by
  induction items generalizing names with
  | nil => simp
  | cons item items ih => simp [ih, or_assoc]

theorem mem_speakers_merge {items : List Stats} {name : String} :
    name ∈ (merge items).speakers ↔ ∃ item ∈ items, name ∈ item.speakers := by
  simp [merge, mem_foldl_union]

/-- A group of items may be merged before the others. -/
theorem merge_group (before group after : List Stats) :
    merge (before ++ .aggregate (merge group) :: after) = merge (before ++ group ++ after) := by
  have hspeakers : (merge (before ++ .aggregate (merge group) :: after)).speakers =
      (merge (before ++ group ++ after)).speakers := by
    refine Std.ExtTreeSet.ext_mem fun name => ?_
    rw [mem_speakers_merge, mem_speakers_merge]
    simp only [List.mem_append, List.mem_cons, or_and_right, exists_or, exists_eq_left,
      Stats.speakers, mem_speakers_merge, or_assoc]
  have htotal (count : Stats → Int) (h : count (.aggregate (merge group)) = total count group) :
      total count (before ++ .aggregate (merge group) :: after) =
        total count (before ++ group ++ after) := by
    rw [total_append, total_append, total_append, total, h, Int.add_assoc]
  have hwords : (before ++ .aggregate (merge group) :: after).flatMap Stats.words =
      (before ++ group ++ after).flatMap Stats.words := by
    simp [Stats.words, merge]
  simp only [merge, AggregateStats.mk.injEq] at hspeakers ⊢
  exact ⟨htotal _ rfl, htotal _ rfl, hspeakers, hwords, htotal _ rfl, htotal _ rfl⟩

/-- The same statistics but for the order of the words. -/
structure Alike (a b : AggregateStats) : Prop where
  fileCount : a.fileCount = b.fileCount
  bodyChars : a.bodyChars = b.bodyChars
  wordCount : a.wordCount = b.wordCount
  scriptLines : a.scriptLines = b.scriptLines
  speakers : a.speakers = b.speakers
  words : a.words.Perm b.words

namespace Alike

variable {a b c : AggregateStats} {items more : List Stats}

theorem refl (a : AggregateStats) : Alike a a :=
  ⟨rfl, rfl, rfl, rfl, rfl, .refl _⟩

theorem symm (h : Alike a b) : Alike b a :=
  ⟨h.fileCount.symm, h.bodyChars.symm, h.wordCount.symm, h.scriptLines.symm, h.speakers.symm,
    h.words.symm⟩

theorem trans (h : Alike a b) (h' : Alike b c) : Alike a c :=
  ⟨h.fileCount.trans h'.fileCount, h.bodyChars.trans h'.bodyChars,
    h.wordCount.trans h'.wordCount, h.scriptLines.trans h'.scriptLines,
    h.speakers.trans h'.speakers, h.words.trans h'.words⟩

theorem of_perm (h : items.Perm more) : Alike (merge items) (merge more) where
  fileCount := total_perm _ h
  bodyChars := total_perm _ h
  wordCount := total_perm _ h
  scriptLines := total_perm _ h
  speakers := Std.ExtTreeSet.ext_mem fun name => by
    simp only [mem_speakers_merge, h.mem_iff]
  words := h.flatMap_right _

/-- Statistics that are alike may stand for each other among those that are merged. -/
theorem append_left (before : List Stats) (h : Alike (merge items) (merge more)) :
    Alike (merge (before ++ items)) (merge (before ++ more)) where
  fileCount := by simpa [merge, total_append] using h.fileCount
  bodyChars := by simpa [merge, total_append] using h.bodyChars
  wordCount := by simpa [merge, total_append] using h.wordCount
  scriptLines := by simpa [merge, total_append] using h.scriptLines
  speakers := Std.ExtTreeSet.ext_mem fun name => by
    have hname : name ∈ (merge items).speakers ↔ name ∈ (merge more).speakers := by
      rw [h.speakers]
    simp only [mem_speakers_merge, List.mem_append, or_and_right, exists_or] at hname ⊢
    rw [hname]
  words := by
    simp only [merge, List.flatMap_append]
    exact h.words.append_left _

end Alike

end ScriptStats.AggregateStats
