import Mathlib.Data.List.Basic

/-!
# Runs of a machine driven by events

A machine is a total function from a state and an event to the next state; a
run is the left fold over a list of events.  `Each` says something about every
event of a run in the state that meets it.
-/

namespace DlpSystem.Lib

universe u v

variable {σ : Type u} {ε : Type v}

/-- `holds` is true of every event of the run, in the state before it. -/
def Each (next : σ → ε → σ) (holds : σ → ε → Prop) : σ → List ε → Prop
  | _, [] => True
  | state, event :: events => holds state event ∧ Each next holds (next state event) events

variable {next : σ → ε → σ} {holds : σ → ε → Prop}

@[simp]
theorem each_nil (state : σ) : Each next holds state [] :=
  trivial

@[simp]
theorem each_cons (state : σ) (event : ε) (events : List ε) :
    Each next holds state (event :: events) ↔
      holds state event ∧ Each next holds (next state event) events :=
  Iff.rfl

/-- A condition that can be decided can be decided along a run. -/
instance Each.decidable [∀ state event, Decidable (holds state event)] :
    ∀ (state : σ) (events : List ε), Decidable (Each next holds state events)
  | _, [] => isTrue trivial
  | state, event :: events =>
      @instDecidableAnd _ _ _ (Each.decidable (next state event) events)

theorem each_append (state : σ) (before after : List ε) :
    Each next holds state (before ++ after) ↔
      Each next holds state before ∧ Each next holds (before.foldl next state) after := by
  induction before generalizing state with
  | nil => simp
  | cons event before ih => simp [ih, and_assoc]

/-- The event at any cut of the run. -/
theorem Each.at_cut {state : σ} {before after : List ε} {event : ε}
    (each : Each next holds state (before ++ event :: after)) :
    holds (before.foldl next state) event :=
  ((each_append state before (event :: after)).mp each).2.1

/-- Two conditions on the events of one run. -/
theorem Each.and {other : σ → ε → Prop} {state : σ} {events : List ε}
    (each : Each next holds state events) (others : Each next other state events) :
    Each next (fun state event => holds state event ∧ other state event) state events := by
  induction events generalizing state with
  | nil => trivial
  | cons event events ih => exact ⟨⟨each.1, others.1⟩, ih each.2 others.2⟩

/-- `Each` by the cuts of the run. -/
theorem each_iff_cuts (state : σ) (events : List ε) :
    Each next holds state events ↔
      ∀ (before : List ε) (event : ε) (after : List ε), events = before ++ event :: after →
        holds (before.foldl next state) event := by
  constructor
  · rintro each before event after rfl
    exact each.at_cut
  · intro cuts
    induction events generalizing state with
    | nil => trivial
    | cons event events ih =>
        constructor
        · exact cuts [] event events rfl
        · apply ih
          rintro before later after rfl
          exact cuts (event :: before) later after rfl

/-- Invariant rule: what every event of the run preserves holds at its end. -/
theorem Each.invariant {invariant : σ → Prop}
    (preserved : ∀ state event, invariant state → holds state event →
      invariant (next state event))
    {state : σ} {events : List ε} (each : Each next holds state events)
    (initially : invariant state) : invariant (events.foldl next state) := by
  induction events generalizing state with
  | nil => exact initially
  | cons event events ih =>
      exact ih each.2 (preserved state event initially each.1)

/-- A condition that an invariant and another condition imply holds along a run of the
other one. -/
theorem Each.imp_of_invariant {invariant : σ → Prop} {other : σ → ε → Prop}
    (preserved : ∀ state event, invariant state → holds state event →
      invariant (next state event))
    (implied : ∀ state event, invariant state → holds state event → other state event)
    {state : σ} {events : List ε} (each : Each next holds state events)
    (initially : invariant state) : Each next other state events := by
  induction events generalizing state with
  | nil => trivial
  | cons event events ih =>
      exact ⟨implied state event initially each.1,
        ih each.2 (preserved state event initially each.1)⟩

/-- Two conditions that agree under an invariant that the first one preserves
agree over runs. -/
theorem each_congr {invariant : σ → Prop} {other : σ → ε → Prop} {state : σ} {events : List ε}
    (preserved : ∀ state, ∀ event ∈ events, invariant state → holds state event →
      invariant (next state event))
    (agree : ∀ state, ∀ event ∈ events, invariant state → (holds state event ↔ other state event))
    (initially : invariant state) :
    Each next holds state events ↔ Each next other state events := by
  induction events generalizing state with
  | nil => exact Iff.rfl
  | cons event events ih =>
      have restOf : invariant (next state event) →
          (Each next holds (next state event) events ↔ Each next other (next state event) events) :=
        ih (fun state later member => preserved state later (List.mem_cons_of_mem event member))
          (fun state later member => agree state later (List.mem_cons_of_mem event member))
      have first := agree state event List.mem_cons_self initially
      have kept := preserved state event List.mem_cons_self initially
      rw [each_cons, each_cons]
      constructor
      · rintro ⟨held, rest⟩
        exact ⟨first.mp held, (restOf (kept held)).mp rest⟩
      · rintro ⟨held, rest⟩
        exact ⟨first.mpr held, (restOf (kept (first.mpr held))).mpr rest⟩

/-- A property that a step keeps exactly if `holds` is true of it is there at every point of
a run exactly if `holds` is true of all its events. -/
theorem at_cuts_iff_each {property : σ → Prop}
    (kept : ∀ state event, property state → (property (next state event) ↔ holds state event))
    {state : σ} (initially : property state) (events : List ε) :
    (∀ before after, events = before ++ after → property (before.foldl next state)) ↔
      Each next holds state events := by
  constructor
  · intro throughout
    apply (each_iff_cuts state events).mpr
    intro before event after run
    have met := throughout before (event :: after) run
    have left := throughout (before ++ [event]) after (by simp [run])
    rw [List.foldl_append] at left
    exact (kept _ event met).mp left
  · rintro each before after rfl
    have part := ((each_append state before after).mp each).1
    exact part.invariant (fun state event met held => (kept state event met).mpr held) initially

/-- An invariant of every step holds throughout any run. -/
theorem foldl_invariant {invariant : σ → Prop}
    (preserved : ∀ state event, invariant state → invariant (next state event))
    {state : σ} (events : List ε) (initially : invariant state) :
    invariant (events.foldl next state) := by
  induction events generalizing state with
  | nil => exact initially
  | cons event events ih => exact ih (preserved state event initially)

end DlpSystem.Lib
