/-!
# Programs with failures and a state

What a program leaves of a state, whether it fails or not.
-/

namespace ScriptStats

/-- A program on a state. What it changed before a failure stays changed. -/
abbrev Program (ε σ α : Type) : Type :=
  ExceptT ε (StateM σ) α

namespace Program

variable {ε σ α β : Type}

/-- How a program ends, and the state that it leaves. -/
def outcome (program : Program ε σ α) (state : σ) : Except ε α × σ :=
  program.run.run state

theorem outcome_bind (program : Program ε σ α) (next : α → Program ε σ β) (state : σ) :
    outcome (program >>= next) state =
      match outcome program state with
      | (.ok a, state) => outcome (next a) state
      | (.error e, state) => (.error e, state) := by
  change (ExceptT.bindCont next (program.run.run state).1).run (program.run.run state).2 = _
  unfold outcome
  generalize program.run.run state = ended
  obtain ⟨_ | a, state⟩ := ended <;> rfl

theorem outcome_tryCatch (program : Program ε σ α) (handle : ε → Program ε σ α) (state : σ) :
    outcome (tryCatch program handle) state =
      match outcome program state with
      | (.ok a, state) => (.ok a, state)
      | (.error e, state) => outcome (handle e) state := by
  unfold outcome
  change (match (program.run.run state).1 with
    | .ok a => (pure (.ok a) : StateM σ (Except ε α))
    | .error e => (handle e).run).run (program.run.run state).2 = _
  generalize program.run.run state = ended
  obtain ⟨_ | a, state⟩ := ended <;> rfl

theorem outcome_bind_ok {program : Program ε σ α} {state left : σ} {a : α}
    (h : outcome program state = (.ok a, left)) (next : α → Program ε σ β) :
    outcome (program >>= next) state = outcome (next a) left := by
  rw [outcome_bind, h]

theorem outcome_bind_error {program : Program ε σ α} {state left : σ} {e : ε}
    (h : outcome program state = (.error e, left)) (next : α → Program ε σ β) :
    outcome (program >>= next) state = (.error e, left) := by
  rw [outcome_bind, h]

theorem outcome_get_bind (next : σ → Program ε σ α) (state : σ) :
    outcome (do next (← get)) state = outcome (next state) state :=
  rfl

theorem exists_of_outcome_bind_ok {program : Program ε σ α} {next : α → Program ε σ β}
    {state left : σ} {b : β} (h : outcome (program >>= next) state = (.ok b, left)) :
    ∃ a mid, outcome program state = (.ok a, mid) ∧ outcome (next a) mid = (.ok b, left) := by
  rw [outcome_bind] at h
  generalize outcome program state = ended at h ⊢
  obtain ⟨e | a, mid⟩ := ended
  · cases h
  · exact ⟨a, mid, rfl, h⟩

/-! ## Invariants -/

/-- Whatever becomes of the program, `I` is kept. -/
def Keeps (I : σ → Prop) (program : Program ε σ α) : Prop :=
  ∀ state, I state → I (outcome program state).2

variable {I : σ → Prop}

theorem keeps_pure (a : α) : Keeps I (pure a : Program ε σ α) :=
  fun _ h => h

theorem keeps_throw (e : ε) : Keeps I (throw e : Program ε σ α) :=
  fun _ h => h

theorem Keeps.bind {program : Program ε σ α} {next : α → Program ε σ β} (h : Keeps I program)
    (hnext : ∀ a, Keeps I (next a)) : Keeps I (program >>= next) := by
  intro state hstate
  have hmid := h state hstate
  rw [outcome_bind]
  generalize outcome program state = ended at hmid ⊢
  obtain ⟨_ | a, left⟩ := ended
  · exact hmid
  · exact hnext a left hmid

theorem keeps_get_bind {next : σ → Program ε σ α}
    (h : ∀ state, I state → I (outcome (next state) state).2) :
    Keeps I (do next (← get)) :=
  h

theorem Keeps.tryCatch {program : Program ε σ α} {handle : ε → Program ε σ α}
    (h : Keeps I program) (hhandle : ∀ e, Keeps I (handle e)) :
    Keeps I (tryCatch program handle) := by
  intro state hstate
  have hmid := h state hstate
  rw [outcome_tryCatch]
  generalize outcome program state = ended at hmid ⊢
  obtain ⟨e | a, left⟩ := ended
  · exact hhandle e left hmid
  · exact hmid

end Program

end ScriptStats
