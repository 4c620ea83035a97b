import ScriptStats.Proofs.Stats.Merge

/-!
# Statistics put together in groups

However statistics are put into groups, and these into further ones, they amount to the same as all of
them in a row. So they may be added up one by one, and but for the order of the words it does not
matter in which order they come.
-/

namespace ScriptStats.AggregateStats

/-- Statistics as they are put together: some that stand for themselves, or what a group amounts to. A
group may be empty. -/
inductive Grouping where
  | item (stats : Stats)
  | group (parts : List Grouping)

namespace Grouping

mutual

/-- All that is put together, in order. -/
def items : Grouping → List Stats
  | item stats => [stats]
  | group parts => itemsOf parts

def itemsOf : List Grouping → List Stats
  | [] => []
  | part :: parts => part.items ++ itemsOf parts

end

mutual

/-- What is put together, each group merged as soon as its parts are. -/
def stats : Grouping → Stats
  | item stats => stats
  | group parts => .aggregate (merge (statsOf parts))

def statsOf : List Grouping → List Stats
  | [] => []
  | part :: parts => part.stats :: statsOf parts

end

/-! A group takes the place of its items, whatever stands before and behind it. -/

mutual

theorem merge_part (before after : List Stats) :
    ∀ part : Grouping, merge (before ++ part.stats :: after) = merge (before ++ part.items ++ after)
  | item stats => by rw [Grouping.stats, items, List.append_assoc, List.singleton_append]
  | group parts => by
    rw [stats, items, merge_group]
    exact merge_parts before after parts

theorem merge_parts (before after : List Stats) : ∀ parts : List Grouping,
    merge (before ++ statsOf parts ++ after) = merge (before ++ itemsOf parts ++ after)
  | [] => rfl
  | part :: parts => by
    calc merge (before ++ statsOf (part :: parts) ++ after)
        = merge (before ++ part.stats :: (statsOf parts ++ after)) := by
          rw [statsOf, List.append_assoc, List.cons_append]
      _ = merge (before ++ part.items ++ (statsOf parts ++ after)) := merge_part _ _ part
      _ = merge (before ++ part.items ++ statsOf parts ++ after) := by simp only [List.append_assoc]
      _ = merge (before ++ part.items ++ itemsOf parts ++ after) := merge_parts _ _ parts
      _ = merge (before ++ itemsOf (part :: parts) ++ after) := by
          rw [itemsOf]
          simp only [List.append_assoc]

end

end Grouping

open Grouping

/-- Adding up one by one is merging two groups of which the second holds a single item. -/
theorem add_merge (items : List Stats) (item : Stats) :
    add (merge items) item = merge (items ++ [item]) :=
  merge_group [] items [item]

theorem foldl_add (before items : List Stats) :
    items.foldl add (merge before) = merge (before ++ items) := by
  induction items generalizing before with
  | nil => rw [List.foldl_nil, List.append_nil]
  | cons item items ih => rw [List.foldl_cons, add_merge, ih, List.append_assoc, List.singleton_append]

/-- Merged statistics do not tell how they were grouped, nor, apart from the words, in which order they
were merged. -/
theorem merge_regrouped :
    (∀ parts : List Grouping, merge (statsOf parts) = merge (itemsOf parts)) ∧
    (∀ items : List Stats, items.foldl add {} = merge items) ∧
    ∀ items more : List Stats, items.Perm more → Alike (merge items) (merge more) := by
  refine ⟨fun parts => ?_, foldl_add [], fun items more h => .of_perm h⟩
  have hparts := merge_parts [] [] parts
  rwa [List.append_nil, List.nil_append, List.append_nil, List.nil_append] at hparts

/-- A script, an empty group beside a group in which another script stands in a group of its own, and what
three scripts amount to. -/
def mixed : List Grouping :=
  [.item (.file { bodyChars := .number 3, wordCount := .flag true, words := ["one"] }),
    .group [.group [], .group [.item (.file { bodyChars := .number 6, words := ["two"] })]],
    .item (.aggregate { bodyChars := 9, words := ["six", "ten"], fileCount := 3 })]

/-- Turned round, too, the groups amount to five scripts. -/
theorem merge_regrouped_mixed :
    merge (statsOf mixed) = merge (itemsOf mixed) ∧
    (itemsOf mixed).foldl add {} = merge (itemsOf mixed) ∧
    ((itemsOf mixed).Perm (itemsOf mixed).reverse ∧
      Alike (merge (itemsOf mixed)) (merge (itemsOf mixed).reverse)) ∧
    (merge (statsOf mixed)).fileCount = 5 ∧ (merge (statsOf mixed)).words = ["one", "two", "six", "ten"] :=
  ⟨merge_regrouped.1 mixed, merge_regrouped.2.1 (itemsOf mixed),
    ⟨(List.reverse_perm _).symm, merge_regrouped.2.2 _ _ (List.reverse_perm _).symm⟩, rfl, rfl⟩

end ScriptStats.AggregateStats
