import ScriptStats.Proofs.Analysis.Recursion
import ScriptStats.Proofs.Session.Steady

/-!
# Walks through directories that look alike

What a walk makes of a directory depends on the entries that count for it. Where those are the same, and
under the same identities, walks come to the same listings.
-/

namespace ScriptStats

open Program

namespace Walk

/-- The entry counts for a walk that comes upon it at that depth: it is a script or a directory that may
be entered. -/
def counts (options : WalkOptions) (depth : Nat) (entry : Entry) : Bool :=
  if entry.isDirectory then !options.excluded.contains entry.name && !tooDeep options depth
  else isScriptName options entry.name

end Walk

namespace Moment

variable {moment other : Moment} {options : WalkOptions} {depth : Nat}

theorem eval_bind_of_ok {α β : Type} {job : Job α} {a : α} (h : moment.eval job = .ok a)
    (next : α → Job β) : moment.eval (job >>= next) = moment.eval (next a) := by
  rw [eval_bind, h]
  rfl

theorem exists_of_eval_bind {α β : Type} {job : Job α} {next : α → Job β} {b : β}
    (h : moment.eval (job >>= next) = .ok b) :
    ∃ a, moment.eval job = .ok a ∧ moment.eval (next a) = .ok b := by
  rw [eval_bind] at h
  cases hjob : moment.eval job with
  | error e =>
    rw [hjob] at h
    cases h
  | ok a =>
    rw [hjob] at h
    exact ⟨a, rfl, h⟩

/-- Whether an entry is kept, and what has been met then. -/
def keepsOne (moment : Moment) (options : WalkOptions) (depth : Nat) (met : Walk.Identities)
    (entry : Entry) : Except Failure (Bool × Walk.Identities) :=
  if entry.isDirectory then moment.eval (Walk.admits options depth met entry)
  else .ok (Walk.isScriptName options entry.name, met)

theorem eval_keep_cons (moment : Moment) (options : WalkOptions) (depth : Nat)
    (met : Walk.Identities) (entry : Entry) (entries : List Entry) :
    moment.eval (Walk.keep options depth met (entry :: entries)) = do
      let (kept, met) ← moment.keepsOne options depth met entry
      let (more, met) ← moment.eval (Walk.keep options depth met entries)
      return (if kept then entry :: more else more, met) := by
  rw [Walk.keep, keepsOne]
  cases entry.isDirectory with
  | true =>
    simp only [if_true, eval_bind]
    rfl
  | false =>
    simp only [Bool.false_eq_true, if_false, eval_bind]
    rfl

theorem eval_admits (moment : Moment) (options : WalkOptions) (depth : Nat)
    (met : Walk.Identities) (entry : Entry) :
    moment.eval (Walk.admits options depth met entry) =
      if options.excluded.contains entry.name ∨ Walk.tooDeep options depth then .ok (false, met)
      else do
        let identity ← Session.required (moment.identity entry.path)
        return if met.contains identity then (false, met) else (true, met.insert identity) := by
  rw [Walk.admits]
  cases options.excluded.contains entry.name with
  | true => rfl
  | false =>
    cases Walk.tooDeep options depth with
    | true => rfl
    | false =>
      change (Session.required (moment.identity entry.path) >>= fun identity => _) = _
      refine bind_congr fun identity => ?_
      change moment.eval (if met.contains identity then _ else _) = _
      split <;> rfl

/-- What does not count is passed over, and its identity is not asked for. -/
theorem keepsOne_of_not_counts {met : Walk.Identities} {entry : Entry}
    (h : Walk.counts options depth entry = false) :
    moment.keepsOne options depth met entry = .ok (false, met) := by
  unfold Walk.counts at h
  rw [keepsOne]
  split at h
  next hdirectory =>
    rw [if_pos hdirectory, eval_admits, if_pos]
    simpa [imp_iff_not_or] using h
  next hdirectory => rw [if_neg hdirectory, h]

/-- Entries that do not count make no difference. -/
theorem eval_keep_filter (moment : Moment) (options : WalkOptions) (depth : Nat)
    (met : Walk.Identities) (entries : List Entry) :
    moment.eval (Walk.keep options depth met (entries.filter (Walk.counts options depth))) =
      moment.eval (Walk.keep options depth met entries) := by
  induction entries generalizing met with
  | nil => rfl
  | cons entry entries ih =>
    rw [eval_keep_cons]
    cases hcounts : Walk.counts options depth entry with
    | true =>
      rw [List.filter_cons_of_pos hcounts, eval_keep_cons]
      simp only [ih]
    | false =>
      rw [List.filter_cons_of_neg (by simp [hcounts]), ih, keepsOne_of_not_counts hcounts]
      exact (bind_pure _).symm

theorem keepsOne_congr {met : Walk.Identities} {entry : Entry}
    (h : entry.isDirectory = true → ∀ identity,
      moment.identity entry.path = .ok identity → other.identity entry.path = .ok identity)
    {found : Bool × Walk.Identities}
    (hkeeps : moment.keepsOne options depth met entry = .ok found) :
    other.keepsOne options depth met entry = .ok found := by
  rw [keepsOne] at hkeeps ⊢
  split
  next hdirectory =>
    rw [if_pos hdirectory, eval_admits] at hkeeps
    rw [eval_admits]
    split
    next hskipped => rwa [if_pos hskipped] at hkeeps
    next hadmitted =>
      rw [if_neg hadmitted] at hkeeps
      cases hidentity : moment.identity entry.path with
      | error e =>
        rw [hidentity] at hkeeps
        cases hkeeps
      | ok identity =>
        rw [hidentity] at hkeeps
        rwa [h hdirectory identity hidentity]
  next hdirectory => rwa [if_neg hdirectory] at hkeeps

theorem exists_of_eval_keep_cons {entry : Entry} {entries : List Entry} {met : Walk.Identities}
    {kept : List Entry × Walk.Identities}
    (hkeep : moment.eval (Walk.keep options depth met (entry :: entries)) = .ok kept) :
    ∃ found rest, moment.keepsOne options depth met entry = .ok found ∧
      moment.eval (Walk.keep options depth found.2 entries) = .ok rest ∧
        kept = (if found.1 then entry :: rest.1 else rest.1, rest.2) := by
  rw [eval_keep_cons] at hkeep
  cases hfound : moment.keepsOne options depth met entry with
  | error e =>
    rw [hfound] at hkeep
    cases hkeep
  | ok found =>
    rw [hfound] at hkeep
    change (moment.eval (Walk.keep options depth found.2 entries) >>= _) = _ at hkeep
    cases hrest : moment.eval (Walk.keep options depth found.2 entries) with
    | error e =>
      rw [hrest] at hkeep
      cases hkeep
    | ok rest =>
      rw [hrest] at hkeep
      exact ⟨found, rest, rfl, hrest, (Except.ok.inj hkeep).symm⟩

/-- The same entries are kept if the directories among them are met under the same identities. -/
theorem eval_keep_congr {entries : List Entry}
    (h : ∀ entry ∈ entries, entry.isDirectory = true → ∀ identity,
      moment.identity entry.path = .ok identity → other.identity entry.path = .ok identity)
    {met : Walk.Identities} {kept : List Entry × Walk.Identities}
    (hkeep : moment.eval (Walk.keep options depth met entries) = .ok kept) :
    other.eval (Walk.keep options depth met entries) = .ok kept := by
  induction entries generalizing met kept with
  | nil => exact hkeep
  | cons entry entries ih =>
    rw [List.forall_mem_cons] at h
    obtain ⟨found, rest, hfound, hrest, rfl⟩ := exists_of_eval_keep_cons hkeep
    rw [eval_keep_cons, keepsOne_congr h.1 hfound]
    change (other.eval (Walk.keep options depth found.2 entries) >>= _) = _
    rw [ih h.2 hrest]
    rfl

theorem sublist_of_eval_keep {entries : List Entry} {met : Walk.Identities}
    {kept : List Entry × Walk.Identities}
    (hkeep : moment.eval (Walk.keep options depth met entries) = .ok kept) :
    kept.1.Sublist entries := by
  induction entries generalizing met kept with
  | nil =>
    obtain rfl : ([], met) = kept := Except.ok.inj hkeep
    exact .slnil
  | cons entry entries ih =>
    obtain ⟨found, rest, -, hrest, rfl⟩ := exists_of_eval_keep_cons hkeep
    dsimp only
    split
    · exact (ih hrest).cons_cons entry
    · exact (ih hrest).cons entry

/-! ## Walks -/

/-- At the other moment the directory shows the same entries that count, under the same identities. -/
structure LooksAlike (moment other : Moment) (options : WalkOptions) (depth : Nat) (directory : Path)
    (entries : List Entry) : Prop where
  listed : ∃ others, other.eval (Walk.list directory) = .ok others ∧
    others.filter (Walk.counts options depth) = entries.filter (Walk.counts options depth)
  identity : ∀ entry ∈ entries, Walk.counts options depth entry = true →
    entry.isDirectory = true → ∀ identity, moment.identity entry.path = .ok identity →
      other.identity entry.path = .ok identity

/-- How many levels below the root a directory is found. -/
def level (root directory : Path) : Nat :=
  directory.names.length - root.names.length

/-- Walks come to the same listings if all directories that are listed look alike. -/
theorem eval_enter_congr {root : Path} {listings : List Listing}
    (h : ∀ listing ∈ listings, ∀ entries, moment.eval (Walk.list listing.directory) = .ok entries →
      (∀ entry ∈ entries, entry.path = listing.directory.child entry.name) ∧
        moment.LooksAlike other options (level root listing.directory) listing.directory entries)
    {fuel : Nat} {met : Walk.Identities} {due : List (Path × Nat)}
    (hdue : ∀ entered ∈ due, root.names.length ≤ entered.1.names.length ∧
      entered.2 = level root entered.1)
    (henter : moment.eval (Walk.enter options fuel met due) = .ok listings) :
    other.eval (Walk.enter options fuel met due) = .ok listings := by
  induction fuel generalizing met due listings with
  | zero => exact henter
  | succ fuel ih =>
    cases due with
    | nil => exact henter
    | cons entered due =>
      obtain ⟨directory, depth⟩ := entered
      rw [Walk.enter] at henter ⊢
      obtain ⟨entries, hlist, henter⟩ := exists_of_eval_bind henter
      obtain ⟨kept, hkeep, henter⟩ := exists_of_eval_bind henter
      obtain ⟨more, hmore, hlistings⟩ := exists_of_eval_bind henter
      obtain rfl : ⟨directory, kept.1⟩ :: more = listings := Except.ok.inj hlistings
      rw [List.forall_mem_cons] at h hdue
      obtain ⟨⟨hlevel, hdepth⟩, hdue⟩ := hdue
      have hdepth : depth = level root directory := hdepth
      subst hdepth
      obtain ⟨hchildren, halike⟩ := h.1 entries hlist
      obtain ⟨others, hothers, hsame⟩ := halike.listed
      have hkeep' : other.eval (Walk.keep options (level root directory) met others) = .ok kept := by
        rw [← eval_keep_filter, hsame]
        rw [← eval_keep_filter] at hkeep
        refine eval_keep_congr (fun entry hentry => ?_) hkeep
        exact halike.identity entry (List.mem_filter.1 hentry).1 (List.mem_filter.1 hentry).2
      rw [eval_bind_of_ok hothers, eval_bind_of_ok hkeep', eval_bind_of_ok (ih h.2 ?_ hmore)]
      · rfl
      · refine List.forall_mem_append.2 ⟨List.forall_mem_map.2 fun entry hentry => ?_, hdue⟩
        have hchild := hchildren entry
          ((sublist_of_eval_keep hkeep).subset (List.mem_filter.1 hentry).1)
        have hlength : entry.path.names.length = directory.names.length + 1 := by
          rw [hchild]
          exact List.length_append
        have hlevel : root.names.length ≤ directory.names.length := hlevel
        dsimp only [level]
        omega

theorem exists_of_eval_walk {root : Path} {listings : List Listing}
    (h : moment.eval (walk options root) = .ok listings) :
    ∃ identity, moment.identity root = .ok identity ∧
      moment.eval (Walk.enter options (moment.directoryBound + 1)
        ((∅ : Walk.Identities).insert identity) [(root, 0)]) = .ok listings := by
  rw [walk] at h
  obtain ⟨bound, hbound, h⟩ := exists_of_eval_bind h
  obtain rfl : moment.directoryBound = bound := Except.ok.inj hbound
  obtain ⟨identity, hidentity, h⟩ := exists_of_eval_bind h
  obtain ⟨found, henter, h⟩ := exists_of_eval_bind h
  obtain rfl : found = listings := Except.ok.inj h
  refine ⟨identity, ?_, henter⟩
  cases hroot : moment.identity root with
  | ok known =>
    rw [eval_send, answer, hroot] at hidentity
    exact congrArg Except.ok (Except.ok.inj hidentity)
  | error e =>
    rw [eval_send, answer, hroot] at hidentity
    cases hidentity

theorem eval_walk_of_enter {root : Path} {identity : String} {listings : List Listing}
    (hidentity : moment.identity root = .ok identity)
    (henter : moment.eval (Walk.enter options (moment.directoryBound + 1)
      ((∅ : Walk.Identities).insert identity) [(root, 0)]) = .ok listings) :
    moment.eval (walk options root) = .ok listings := by
  have hbound : moment.eval (Job.send .directoryBound) = .ok moment.directoryBound := rfl
  have hroot : moment.eval (Job.send (.identity root)) = .ok identity := by
    rw [eval_send, answer, hidentity]
    rfl
  rw [walk, eval_bind_of_ok hbound, eval_bind_of_ok hroot, eval_bind_of_ok henter]
  rfl

/-- A directory that cannot be listed seems to be empty. -/
theorem eval_list_eq_ok_iff {directory : Path} {entries : List Entry} :
    moment.eval (Walk.list directory) = .ok entries ↔ moment.list directory = .ok entries ∨
      entries = [] ∧ ∃ e, moment.list directory = .error e ∧ e.isRefusal = true := by
  rw [Walk.list, eval_bind, eval_send, answer]
  cases moment.list directory with
  | ok listed =>
    change Except.ok listed = _ ↔ _
    simp
  | error e =>
    cases hrefusal : e.isRefusal with
    | true =>
      simp only [Session.possible, hrefusal, if_true]
      refine ⟨fun h => .inr ⟨(Except.ok.inj h).symm, e, rfl, hrefusal⟩, ?_⟩
      rintro (hlist | ⟨rfl, -⟩)
      · cases hlist
      · rfl
    | false =>
      simp only [Session.possible, hrefusal, Bool.false_eq_true, if_false]
      change Except.error _ = _ ↔ _
      simp [hrefusal]

end Moment

end ScriptStats
