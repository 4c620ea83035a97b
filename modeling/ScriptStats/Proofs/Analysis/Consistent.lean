import Mathlib
import ScriptStats.Proofs.Analysis.Contract
import ScriptStats.Proofs.Analysis.Coverage
import ScriptStats.Proofs.Program
import ScriptStats.Proofs.Script.Lines
import ScriptStats.Proofs.Script.Speaker
import ScriptStats.Proofs.Text.Words

/-!
# Consistent statistics

What is counted of a script fits together, and so does what is counted of several scripts, however they
are put together: the words are as many as the word count says, they are words, and there is room for all
of them in the body; the speakers have names.
-/

namespace ScriptStats

/-! ## Words -/

theorem sum_length_words_le (text : List Char) :
    ((words text).map List.length).sum ≤ text.length := by
  rw [← List.length_flatten, flatten_words]
  exact List.length_filter_le _ _

/-! ## Consistency -/

/-- The parts of the statistics fit together. -/
structure Stats.IsConsistent (stats : Stats) : Prop where
  wordCount : stats.wordCount.value = stats.words.length
  words : ∀ word ∈ stats.words, word ≠ "" ∧ ∀ c ∈ word.toList, Text.isSeparator c = false
  wordChars : ((stats.words.map String.length).sum : Int) ≤ stats.bodyChars.value
  speakers : ∀ name ∈ stats.speakers, Dialogue.IsName name

/-- No word is empty, so there are no more words than characters. -/
theorem Stats.IsConsistent.wordCount_le {stats : Stats} (h : stats.IsConsistent) :
    stats.wordCount.value ≤ stats.bodyChars.value := by
  have hlength : (stats.words.map String.length).length ≤ (stats.words.map String.length).sum := by
    refine List.length_le_sum_of_one_le _ (List.forall_mem_map.2 fun word hword => ?_)
    rw [Nat.one_le_iff_ne_zero, ← String.length_toList]
    simpa using (h.words word hword).1
  have hchars := h.wordChars
  rw [h.wordCount]
  rw [List.length_map] at hlength
  omega

namespace Line

theorem sum_length_words_le (line : Line) :
    (line.words.map String.length).sum ≤ line.content.length := by
  have hlengths : line.words.map String.length = (ScriptStats.words line.content).map List.length := by
    rw [words, List.map_map]
    exact List.map_congr_left fun word _ => String.length_ofList
  exact hlengths ▸ ScriptStats.sum_length_words_le line.content

theorem isName_of_speaker? {text : List Char} {name : String}
    (h : (ofText text).speaker? = some name) : Dialogue.IsName name := by
  unfold ofText at h
  dsimp only at h
  split at h
  next => cases h
  next =>
    split at h
    next => cases h
    next => exact Dialogue.isName_of_speaker h

end Line

namespace Script

theorem sum_length_words_le (lines : List Line) :
    ((lines.flatMap Line.words).map String.length).sum ≤ (lines.flatMap Line.content).length := by
  induction lines with
  | nil => exact Nat.zero_le _
  | cons line lines ih =>
    simp only [List.flatMap_cons, List.map_append, List.sum_append, List.length_append]
    exact Nat.add_le_add line.sum_length_words_le ih

theorem isConsistent_stats (text : List Char) : (Stats.file (stats text)).IsConsistent where
  wordCount := rfl
  words word hword := by
    obtain ⟨line, -, hword⟩ := List.mem_flatMap.1 hword
    obtain ⟨chars, hchars, rfl⟩ := List.mem_map.1 hword
    obtain ⟨hne, hseparators⟩ := forall_mem_words line.content chars hchars
    refine ⟨fun hempty => hne ?_, ?_⟩
    · simpa using congrArg String.toList hempty
    · rwa [String.toList_ofList]
  wordChars := Int.ofNat_le.2 (sum_length_words_le (lines text))
  speakers name hname := by
    obtain ⟨line, hline, hspeaker⟩ := mem_speakers_statsOfLines.1 hname
    obtain ⟨written, -, rfl⟩ := List.mem_map.1 hline
    exact Line.isName_of_speaker? hspeaker

theorem length_lines (text : List Char) :
    (Text.lines text).length = text.countP (· = '\n') + 1 := by
  rw [Text.lines, List.length_map, Text.length_pieces]

/-- There are no more script lines than lines. -/
theorem scriptLines_le (text : List Char) :
    (stats text).scriptLines.value ≤ (Text.lines text).length := by
  have hmark : (dropMark text).countP (· = '\n') = text.countP (· = '\n') := by
    cases text with
    | nil => rfl
    | cons c text =>
      rw [dropMark]
      split
      next hc => rw [hc, List.countP_cons_of_neg (by decide)]
      next => rfl
  have hlines : (lines text).length = (Text.lines text).length := by
    rw [lines, List.length_map, length_lines, length_lines, hmark]
  exact Int.ofNat_le.2 (hlines ▸ List.countP_le_length)

end Script

namespace AggregateStats

theorem isConsistent_merge {items : List Stats} (h : ∀ item ∈ items, item.IsConsistent) :
    (Stats.aggregate (merge items)).IsConsistent where
  wordCount := by
    change total (·.wordCount.value) items = ((items.flatMap Stats.words).length : Int)
    induction items with
    | nil => rfl
    | cons item items ih =>
      rw [List.forall_mem_cons] at h
      rw [total, ih h.2, h.1.wordCount, List.flatMap_cons, List.length_append, Int.natCast_add]
  words word hword := by
    obtain ⟨item, hitem, hword⟩ := List.mem_flatMap.1 hword
    exact (h item hitem).words word hword
  wordChars := by
    change (((items.flatMap Stats.words).map String.length).sum : Int) ≤
      total (·.bodyChars.value) items
    induction items with
    | nil => rfl
    | cons item items ih =>
      rw [List.forall_mem_cons] at h
      rw [total, List.flatMap_cons, List.map_append, List.sum_append, Int.natCast_add]
      exact Int.add_le_add h.1.wordChars (ih h.2)
  speakers name hname := by
    obtain ⟨item, hitem, hname⟩ := mem_speakers_merge.1 hname
    exact (h item hitem).speakers name hname

end AggregateStats

/-! ## Whatever the files tell -/

namespace Job

/-- What a job may come to, whatever it is told. -/
inductive MayReturn {α : Type} : Job α → α → Prop where
  | done (a : α) : MayReturn (.done a) a
  | ask {request : Request} {next : request.Reply → Job α} {reply : request.Reply} {a : α} :
      MayReturn (next reply) a → MayReturn (.ask request next) a

variable {α : Type} {job : Job α} {a : α}

/-- Whoever runs the job, and whatever happens meanwhile, it comes to what it may come to. -/
theorem mayReturn_of_outcome {ε σ : Type} {answer : (request : Request) → Program ε σ request.Reply}
    {state left : σ} (h : Program.outcome (job.run answer) state = (.ok a, left)) :
    job.MayReturn a := by
  induction job generalizing state with
  | done result =>
    obtain rfl := Except.ok.inj (Prod.mk.inj h).1
    exact .done result
  | ask request next ih =>
    obtain ⟨reply, mid, -, hnext⟩ := Program.exists_of_outcome_bind_ok h
    exact .ask (ih reply hnext)

theorem mayReturn_run (files : StillFiles) (job : Job α) : job.MayReturn (files.run job) := by
  induction job with
  | done a => exact .done a
  | ask request next ih => exact .ask (ih (files.answer request))

end Job

/-- Anything may be told, but nothing is remembered. -/
def Contract.uncached : Contract Unit where
  may
    | _, .lookUp _ _ | _, .remember _ _ _ => False
    | _, _ => True
  expects _ _ _ := True
  learns _ _ _ := ()

namespace Job

theorem uncached_allowsQuiet : Contract.uncached.AllowsQuiet := by
  intro k request h
  cases request with
  | list | identity | directoryBound | note => trivial
  | read | signature | lookUp | remember => exact absurd h id

theorem Meets.of_mayReturn {α : Type} {Q : Unit → α → Prop} {job : Job α} {a : α}
    (h : job.Meets .uncached Q ()) (hreturn : job.MayReturn a) : Q () a := by
  induction hreturn with
  | done a => exact h
  | ask _ ih => exact ih (h.2 _ trivial)

theorem meets_uncached_stats (path : Path) (k : Unit) :
    Meets .uncached (fun _ stats => (Stats.file stats).IsConsistent) k
      (ScriptFile.stats false path) := by
  have hempty : (Stats.file {}).IsConsistent := Script.isConsistent_stats []
  have hread : Meets .uncached (fun _ found => ∀ stats ∈ found, (Stats.file stats).IsConsistent) k
      (ScriptFile.readStats path) := by
    refine meets_send_bind trivial fun reply _ => ?_
    cases reply with
    | error e => exact (meets_note uncached_allowsQuiet _ _ _ _).bind fun _ _ _ _ h => by cases h
    | ok bytes =>
      cases hdecode : Script.decode bytes with
      | error fault =>
        simp only [hdecode]
        exact (meets_note uncached_allowsQuiet _ _ _ _).bind fun _ _ _ _ h => by cases h
      | ok text =>
        simp only [hdecode]
        intro stats hstats
        obtain rfl := Option.some_inj.1 hstats
        exact Script.isConsistent_stats text
  refine hread.bind fun k found hfound => ?_
  cases found with
  | none => exact hempty
  | some stats => exact hfound stats rfl

end Job

namespace Node

/-- The node is the tree or somewhere in it. -/
inductive Holds : Node → Node → Prop where
  | itself {node : Node} : Holds node node
  | within {node child held : Node} : child ∈ node.children → Holds child held → Holds node held

theorem carries_isConsistent : Carries (fun _ stats => (Stats.file stats).IsConsistent)
    fun node => ∀ held, node.Holds held → held.stats.IsConsistent where
  script := by
    intro entry stats hstats held hheld
    cases hheld with
    | itself => exact hstats
    | within hchild => exact absurd hchild List.not_mem_nil
  directory := by
    intro path children hchildren held hheld
    cases hheld with
    | itself =>
      refine AggregateStats.isConsistent_merge (List.forall_mem_map.2 fun child hchild => ?_)
      exact hchildren child hchild child .itself
    | within hchild hheld => exact hchildren _ hchild held hheld

end Node

/-! ## All that is counted -/

namespace Stats

/-- What is counted without a cache: the statistics of texts, of script files, of the directories of a
tree, and what any of them amount to together. -/
inductive IsCounted : Stats → Prop where
  | text (text : List Char) : IsCounted (.file (Script.stats text))
  | script {path : Path} {stats : FileStats} :
      (ScriptFile.stats false path).MayReturn stats → IsCounted (.file stats)
  | tree {options : WalkOptions} {root : Path} {tree node : Node} :
      (buildTree options false root).MayReturn tree → tree.Holds node → IsCounted node.stats
  | merge {items : List Stats} : (∀ item ∈ items, IsCounted item) →
      IsCounted (.aggregate (AggregateStats.merge items))

theorem IsCounted.isConsistent {stats : Stats} (h : stats.IsCounted) : stats.IsConsistent := by
  induction h with
  | text text => exact Script.isConsistent_stats text
  | script hreturn => exact (Job.meets_uncached_stats _ ()).of_mayReturn hreturn
  | tree hreturn hheld =>
    exact (Job.meets_buildTree_of_carries Job.meets_uncached_stats Node.carries_isConsistent
      Job.uncached_allowsQuiet _ _ ()).of_mayReturn hreturn _ hheld
  | merge _ ih => exact AggregateStats.isConsistent_merge ih

/-- All statistics that are counted without a cache fit together. -/
theorem counted_consistent :
    (∀ stats : Stats, stats.IsCounted →
      stats.IsConsistent ∧ stats.wordCount.value ≤ stats.bodyChars.value) ∧
    ∀ text, (Script.stats text).scriptLines.value ≤ (Text.lines text).length :=
  ⟨fun _ h => ⟨h.isConsistent, h.isConsistent.wordCount_le⟩, Script.scriptLines_le⟩

/-- Two texts and the tree of a workspace, put together in two steps. -/
def nested : Stats :=
  .aggregate (.merge [.aggregate (.merge [.file (Script.stats ['A', ':', 'b', '-', 'c']),
    .file (Script.stats ['d'])]), (StillFiles.circle.run (buildTree {} false ⟨.root, ["w"]⟩)).stats])

theorem isCounted_nested : nested.IsCounted := by
  refine .merge (List.forall_mem_cons.2 ⟨.merge ?_, List.forall_mem_singleton.2 ?_⟩)
  · simp only [List.forall_mem_cons]
    exact ⟨.text _, .text _, fun _ h => absurd h List.not_mem_nil⟩
  · exact .tree (Job.mayReturn_run StillFiles.circle _) .itself

theorem counted_consistent_nested :
    nested.IsCounted ∧ nested.IsConsistent ∧ nested.wordCount.value = 4 ∧ 4 ≤ nested.bodyChars.value := by
  obtain ⟨hconsistent, hle⟩ := counted_consistent.1 nested isCounted_nested
  have hcount : nested.wordCount.value = 4 := by decide +kernel
  exact ⟨isCounted_nested, hconsistent, hcount, hcount ▸ hle⟩

end Stats

end ScriptStats
