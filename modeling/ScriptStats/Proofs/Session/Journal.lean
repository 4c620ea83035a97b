import ScriptStats.Session.Host

/-!
# The journal of overlapping refreshes

What happens to the refreshes of a session, the latest first. A journal is in order when a refresh
finishes with a snapshot just if none has begun after it, and returns what it has finished with.
-/

namespace ScriptStats

inductive RefreshEvent where
  | began (generation : Nat)
  /-- It has published a snapshot, or dropped what it came to. -/
  | finished (generation : Nat) (result : Option Snapshot)
  | returned (generation : Nat) (outcome : Except Failure (Option Snapshot))

namespace RefreshEvent

def published? : RefreshEvent → Option Snapshot
  | finished _ result => result
  | _ => none

/-- Whether the event may follow those before it. -/
def Fits (earlier : List RefreshEvent) : RefreshEvent → Prop
  | began generation => ∀ other, .began other ∈ earlier → other < generation
  | finished generation result =>
    .began generation ∈ earlier ∧ (∀ former, .finished generation former ∉ earlier) ∧
      (∀ snapshot ∈ result, snapshot.generation = generation) ∧
      (result.isSome ↔ ∀ other, .began other ∈ earlier → other ≤ generation)
  | returned generation (.ok result) => .finished generation result ∈ earlier
  | returned _ (.error _) => True

end RefreshEvent

abbrev Journal : Type :=
  List RefreshEvent

namespace Journal

open RefreshEvent

/-- Some refresh has begun after that of the given number. -/
def Overtaken (journal : Journal) (generation : Nat) : Prop :=
  ∃ other later earlier, journal = later ++ began generation :: earlier ∧ began other ∈ later

/-- The snapshots that were published, the latest first. -/
def published (journal : Journal) : List Snapshot :=
  journal.filterMap published?

def InOrder : Journal → Prop
  | [] => True
  | event :: earlier => event.Fits earlier ∧ InOrder earlier

variable {journal later earlier : Journal} {generation : Nat}

theorem InOrder.of_append (h : InOrder (later ++ earlier)) : InOrder earlier := by
  induction later with
  | nil => exact h
  | cons event later ih => exact ih h.2

/-- Numbers grow, so it is the greater ones that have begun later. -/
theorem InOrder.overtaken_iff (h : InOrder journal) (hbegan : began generation ∈ journal) :
    Overtaken journal generation ↔ ∃ other, began other ∈ journal ∧ generation < other := by
  constructor
  · rintro ⟨other, later, earlier, rfl, hother⟩
    refine ⟨other, List.mem_append_left _ hother, ?_⟩
    obtain ⟨between, before, rfl⟩ := List.append_of_mem hother
    rw [List.append_assoc] at h
    exact h.of_append.1 generation (by simp)
  · rintro ⟨other, hother, hlt⟩
    obtain ⟨later, earlier, rfl⟩ := List.append_of_mem hbegan
    refine ⟨other, later, earlier, rfl, ?_⟩
    simp only [List.mem_append, List.mem_cons, began.injEq] at hother
    rcases hother with hother | rfl | hother
    · exact hother
    · exact absurd hlt (Nat.lt_irrefl _)
    · exact absurd (h.of_append.1 other hother) (Nat.lt_asymm hlt)

theorem InOrder.not_overtaken_iff (h : InOrder journal) (hbegan : began generation ∈ journal) :
    ¬ Overtaken journal generation ↔ ∀ other, began other ∈ journal → other ≤ generation := by
  rw [h.overtaken_iff hbegan]
  simp only [not_exists, not_and, Nat.not_lt]

theorem InOrder.finished_of_returned (h : InOrder journal) {result : Option Snapshot}
    (hreturned : returned generation (.ok result) ∈ journal) :
    finished generation result ∈ journal := by
  obtain ⟨later, earlier, rfl⟩ := List.append_of_mem hreturned
  exact List.mem_append_right _ (List.mem_cons_of_mem _ h.of_append.1)

theorem InOrder.isSome_iff_of_finished {result : Option Snapshot}
    (h : InOrder (later ++ finished generation result :: earlier)) :
    result.isSome ↔ ¬ Overtaken earlier generation := by
  obtain ⟨⟨hbegan, -, -, hresult⟩, hearlier⟩ := h.of_append
  rw [hresult, hearlier.not_overtaken_iff hbegan]

theorem InOrder.began_of_finished (h : InOrder journal) {result : Option Snapshot}
    (hfinished : finished generation result ∈ journal) : began generation ∈ journal := by
  obtain ⟨later, earlier, rfl⟩ := List.append_of_mem hfinished
  exact List.mem_append_right _ (List.mem_cons_of_mem _ h.of_append.1.1)

theorem InOrder.finished_unique (h : InOrder journal) {result other : Option Snapshot}
    (hresult : finished generation result ∈ journal) (hother : finished generation other ∈ journal) :
    result = other := by
  induction journal with
  | nil => cases hresult
  | cons event journal ih =>
    rcases List.mem_cons.1 hresult with rfl | hresult' <;>
      rcases List.mem_cons.1 hother with heq | hother'
    · cases heq
      rfl
    · exact absurd hother' (h.1.2.1 other)
    · subst heq
      exact absurd hresult' (h.1.2.1 result)
    · exact ih h.2 hresult' hother'

theorem InOrder.generation_of_finished (h : InOrder journal) {snapshot : Snapshot}
    (hfinished : finished generation (some snapshot) ∈ journal) :
    snapshot.generation = generation := by
  obtain ⟨later, earlier, rfl⟩ := List.append_of_mem hfinished
  exact h.of_append.1.2.2.1 snapshot rfl

theorem InOrder.mem_published (h : InOrder journal) {snapshot : Snapshot}
    (hsnapshot : snapshot ∈ journal.published) :
    finished snapshot.generation (some snapshot) ∈ journal ∧
      began snapshot.generation ∈ journal := by
  obtain ⟨event, hevent, hpublished⟩ := List.mem_filterMap.1 hsnapshot
  cases event with
  | finished generation result =>
    obtain rfl : result = some snapshot := hpublished
    obtain rfl := h.generation_of_finished hevent
    exact ⟨hevent, h.began_of_finished hevent⟩
  | began | returned => cases hpublished

/-- The numbers of published snapshots grow. -/
theorem InOrder.pairwise_published (h : InOrder journal) :
    journal.published.Pairwise fun later earlier => earlier.generation < later.generation := by
  induction journal with
  | nil => exact .nil
  | cons event journal ih =>
    rw [published, List.filterMap_cons]
    split
    next => exact ih h.2
    next snapshot hpublished =>
      refine List.pairwise_cons.2 ⟨fun former hformer => ?_, ih h.2⟩
      cases event with
      | began | returned => cases hpublished
      | finished generation result =>
        obtain rfl : result = some snapshot := hpublished
        obtain ⟨-, hunfinished, hnumber, hnewest⟩ := h.1
        obtain ⟨hfinished, hbegan⟩ := h.2.mem_published hformer
        rw [hnumber snapshot rfl]
        refine Nat.lt_of_le_of_ne (hnewest.1 rfl _ hbegan) fun hsame => ?_
        exact hunfinished _ (hsame ▸ hfinished)

/-- A refresh after which none has begun finishes with the snapshot that is published last. -/
theorem InOrder.head?_published (h : InOrder journal) {result : Option Snapshot}
    (hfinished : finished generation result ∈ journal) (hnewest : ¬ Overtaken journal generation) :
    ∃ snapshot, result = some snapshot ∧ journal.published.head? = some snapshot := by
  have hlatest := (h.not_overtaken_iff (h.began_of_finished hfinished)).1 hnewest
  obtain ⟨snapshot, rfl⟩ : ∃ snapshot, result = some snapshot := by
    obtain ⟨later, earlier, rfl⟩ := List.append_of_mem hfinished
    refine Option.isSome_iff_exists.1 (h.of_append.1.2.2.2.2 fun other hother => ?_)
    exact hlatest other (List.mem_append_right _ (List.mem_cons_of_mem _ hother))
  refine ⟨snapshot, rfl, ?_⟩
  have hmem : snapshot ∈ journal.published := List.mem_filterMap.2 ⟨_, hfinished, rfl⟩
  have hnumber := h.generation_of_finished hfinished
  have hpairwise := h.pairwise_published
  cases hpublished : journal.published with
  | nil =>
    rw [hpublished] at hmem
    cases hmem
  | cons last others =>
    rw [hpublished] at hmem hpairwise
    rcases List.mem_cons.1 hmem with rfl | hothers
    · rfl
    · have hlt := (List.pairwise_cons.1 hpairwise).1 snapshot hothers
      have hlast : last ∈ journal.published := hpublished ▸ List.mem_cons_self
      have hle := hlatest _ (h.mem_published hlast).2
      omega

end Journal

end ScriptStats
