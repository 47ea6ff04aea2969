import Mathlib.Tactic

/-!
# Runs of a state machine

A deterministic state machine and the runs in which every step meets a condition on the state
before it. A property that such steps preserve holds in every state such a run reaches.
-/

namespace OpenDove

section Runs

variable {σ ε : Type}

/-- The state after a list of events. -/
def run (step : σ → ε → σ) (start : σ) (events : List ε) : σ :=
  events.foldl step start

/-- Every event of a run meets a condition in the state before it. -/
def Admissible (step : σ → ε → σ) (meets : σ → ε → Prop) : σ → List ε → Prop
  | _, [] => True
  | state, event :: events => meets state event ∧ Admissible step meets (step state event) events

instance Admissible.decidable (step : σ → ε → σ) (meets : σ → ε → Prop)
    [∀ state event, Decidable (meets state event)] :
    ∀ (state : σ) (events : List ε), Decidable (Admissible step meets state events)
  | _, [] => inferInstanceAs (Decidable True)
  | state, event :: events =>
    have := Admissible.decidable step meets (step state event) events
    inferInstanceAs (Decidable (meets state event ∧ _))

variable {step : σ → ε → σ} {meets : σ → ε → Prop} {start : σ} {events : List ε}

variable (invariant : σ → Prop)

/-- What holds at the start and is preserved by every step that meets the condition holds at the
end of every admissible run. -/
theorem run_invariant
    (preserved : ∀ state event, invariant state → meets state event → invariant (step state event))
    (initially : invariant start) (admissible : Admissible step meets start events) :
    invariant (run step start events) := by
  induction events generalizing start with
  | nil => exact initially
  | cons event events ih =>
    exact ih (preserved start event initially admissible.1) admissible.2

variable {event : ε} {first second : List ε} {other : σ → ε → Prop}

/-- A loop leaves alone what each of its rounds leaves alone. -/
theorem foldl_view {α : Type} (view : σ → α)
    (keeps : ∀ state event, view (step state event) = view state) (events : List ε) (start : σ) :
    view (events.foldl step start) = view start :=
  List.foldlRecOn (motive := fun state => view state = view start) events step rfl
    fun state same event _ => (keeps state event).trans same

/-- A condition that always holds admits every run. -/
theorem Admissible.of_forall (always : ∀ state event, meets state event) (start : σ)
    (events : List ε) : Admissible step meets start events := by
  induction events generalizing start with
  | nil => exact True.intro
  | cons event events ih => exact ⟨always start event, ih _⟩

/-- A run is admissible if each of its events meets the condition after the events before it. -/
theorem Admissible.of_splits (every : ∀ before event after, events = before ++ event :: after →
      meets (run step start before) event) : Admissible step meets start events := by
  induction events generalizing start with
  | nil => exact True.intro
  | cons event events ih =>
    refine ⟨every [] event events rfl, ih fun before other after split => ?_⟩
    exact every (event :: before) other after (congrArg (event :: ·) split)

/-- Every prefix of an admissible run is admissible. -/
theorem Admissible.of_append (admissible : Admissible step meets start (first ++ second)) :
    Admissible step meets start first := by
  induction first generalizing start with
  | nil => exact True.intro
  | cons event first ih =>
    exact ⟨admissible.1, ih admissible.2⟩

/-- Every suffix of an admissible run is admissible from the state that it starts in. -/
theorem Admissible.after_append (admissible : Admissible step meets start (first ++ second)) :
    Admissible step meets (run step start first) second := by
  induction first generalizing start with
  | nil => exact admissible
  | cons event first ih => exact ih admissible.2

theorem run_append (step : σ → ε → σ) (start : σ) (first second : List ε) :
    run step start (first ++ second) = run step (run step start first) second :=
  List.foldl_append

/-- A run whose events all have a property meets the condition together with it. -/
theorem Admissible.and_of_forall_mem {property : ε → Prop}
    (admissible : Admissible step meets start events)
    (every : ∀ event ∈ events, property event) :
    Admissible step (fun state event => meets state event ∧ property event) start events := by
  induction events generalizing start with
  | nil => exact True.intro
  | cons event events ih =>
    refine ⟨⟨admissible.1, every event List.mem_cons_self⟩, ih admissible.2 ?_⟩
    exact fun other listed => every other (List.mem_cons_of_mem event listed)

/-- The last event of an admissible run meets the condition in the state before it. -/
theorem Admissible.last (admissible : Admissible step meets start (events ++ [event])) :
    meets (run step start events) event := by
  induction events generalizing start with
  | nil => exact admissible.1
  | cons first events ih => exact ih admissible.2

/-- Under an invariant that the steps of one condition keep, a run that meets the condition meets
what follows from it and the invariant. -/
theorem Admissible.imp
    (preserved : ∀ state event, invariant state → meets state event → invariant (step state event))
    (implies : ∀ state event, invariant state → meets state event → other state event)
    (initially : invariant start) (admissible : Admissible step meets start events) :
    Admissible step other start events := by
  induction events generalizing start with
  | nil => exact True.intro
  | cons event events ih =>
    have later := preserved start event initially admissible.1
    exact ⟨implies start event initially admissible.1, ih later admissible.2⟩

/-- Under an invariant that the steps of one condition keep, another condition that agrees with it
wherever the invariant holds admits the same runs. -/
theorem admissible_iff
    (preserved : ∀ state event, invariant state → meets state event → invariant (step state event))
    (agree : ∀ state event, invariant state → (other state event ↔ meets state event))
    (initially : invariant start) :
    Admissible step other start events ↔ Admissible step meets start events := by
  constructor
  · exact Admissible.imp invariant
      (fun state event holds met => preserved state event holds ((agree state event holds).mp met))
      (fun state event holds => (agree state event holds).mp) initially
  · exact Admissible.imp invariant preserved
      (fun state event holds => (agree state event holds).mpr) initially

/-- The state after the first events of an endless run. -/
def stateAt (step : σ → ε → σ) (start : σ) (events : Nat → ε) : Nat → σ
  | 0 => start
  | count + 1 => step (stateAt step start events count) (events count)

/-- What holds at the start and is preserved by every step that meets the condition holds all along
an endless run. -/
theorem stateAt_invariant
    (preserved : ∀ state event, invariant state → meets state event → invariant (step state event))
    {start : σ} {events : Nat → ε} (initially : invariant start)
    (admissible : ∀ count, meets (stateAt step start events count) (events count)) (count : Nat) :
    invariant (stateAt step start events count) := by
  induction count with
  | zero => exact initially
  | succ count ih =>
    exact preserved _ _ ih (admissible count)

/-- A property that every step keeps unless another one is reached holds as long as the other one is
not reached. -/
theorem stateAt_unless {states : Nat → σ} {property reached : σ → Prop} {first : Nat}
    (holds : property (states first))
    (kept : ∀ count, first ≤ count → property (states count) →
      property (states (count + 1)) ∨ reached (states (count + 1)))
    {last : Nat} (later : first ≤ last) :
    property (states last) ∨ ∃ count, first ≤ count ∧ reached (states count) := by
  induction later with
  | refl => exact .inl holds
  | @step count later ih =>
    rcases ih with still | already
    · rcases kept count later still with still | now
      · exact .inl still
      · exact .inr ⟨count + 1, Nat.le_succ_of_le later, now⟩
    · exact .inr already

end Runs

end OpenDove
