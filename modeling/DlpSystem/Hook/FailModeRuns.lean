import DlpSystem.Hook.FailMode
import Mathlib.Data.List.DropRight

/-!
# Runs of the fail-mode state machine

The outcomes of pipe calls, recorded one at a time from a new `FailModeState`.  The two
counters hold the lengths of the trailing runs of failures and of successes as far as 32
bits go, and the version word the version of the last success.
-/

namespace DlpSystem.Hook

/-- What is recorded of a pipe call. -/
inductive PipeOutcome
  | success (cacheVersion : UInt64)
  | failure
  deriving DecidableEq

namespace PipeOutcome

def isSuccess : PipeOutcome → Bool
  | success _ => true
  | failure => false

def isFailure : PipeOutcome → Bool
  | success _ => false
  | failure => true

/-- The version that is recorded with a success. -/
def version? : PipeOutcome → Option UInt64
  | success cacheVersion => some cacheVersion
  | failure => none

end PipeOutcome

/-- The number of failures at the end of a run. -/
def trailingFailures (outcomes : List PipeOutcome) : Nat :=
  (outcomes.rtakeWhile PipeOutcome.isFailure).length

/-- The number of successes at the end of a run. -/
def trailingSuccesses (outcomes : List PipeOutcome) : Nat :=
  (outcomes.rtakeWhile PipeOutcome.isSuccess).length

/-- The version of the last success of a run; before any it counts as 0. -/
def lastVersion (outcomes : List PipeOutcome) : UInt64 :=
  ((outcomes.filterMap PipeOutcome.version?).getLast?).getD 0

namespace FailModeState

/-- One recorded outcome. -/
def record (mode : FailModeState) : PipeOutcome → FailModeState
  | .success cacheVersion => mode.recordPipeSuccess cacheVersion
  | .failure => mode.recordPipeFailure

/-- The state after a run of outcomes. -/
def stateAfter (outcomes : List PipeOutcome) : FailState :=
  (outcomes.foldl record .new).state

end FailModeState

open FailModeState

/-- What a step of a run may do, after the outcomes before it. -/
structure StepCharacterised (outcomes : List PipeOutcome) (outcome : PipeOutcome) : Prop where
  entersDegraded : stateAfter outcomes ≠ .degraded →
    stateAfter (outcomes ++ [outcome]) = .degraded →
      stateAfter outcomes = .healthy ∧ outcome = .failure ∧
        trailingFailures (outcomes ++ [outcome]) = 3
  entersIsolated : stateAfter outcomes ≠ .isolated →
    stateAfter (outcomes ++ [outcome]) = .isolated →
      (stateAfter outcomes = .degraded ∧ 10 ≤ trailingFailures (outcomes ++ [outcome])) ∨
        (stateAfter outcomes = .resync ∧ outcome = .failure)
  leavesDegraded : stateAfter outcomes = .degraded →
    stateAfter (outcomes ++ [outcome]) = .healthy →
      3 ≤ trailingSuccesses (outcomes ++ [outcome])
  entersResync : stateAfter outcomes ≠ .resync →
    stateAfter (outcomes ++ [outcome]) = .resync →
      stateAfter outcomes = .isolated ∧
        ∃ cacheVersion, outcome = .success cacheVersion ∧ lastVersion outcomes < cacheVersion
  leavesResync : stateAfter outcomes = .resync →
    stateAfter (outcomes ++ [outcome]) = .healthy →
      5 ≤ trailingSuccesses (outcomes ++ [outcome])

/-! ## Trailing runs -/

section Trailing

variable (outcomes : List PipeOutcome) (cacheVersion : UInt64)

@[simp]
theorem trailingFailures_failure :
    trailingFailures (outcomes ++ [.failure]) = trailingFailures outcomes + 1 := by
  simp [trailingFailures, List.rtakeWhile_concat, PipeOutcome.isFailure]

@[simp]
theorem trailingFailures_success :
    trailingFailures (outcomes ++ [.success cacheVersion]) = 0 := by
  simp [trailingFailures, PipeOutcome.isFailure]

@[simp]
theorem trailingSuccesses_failure : trailingSuccesses (outcomes ++ [.failure]) = 0 := by
  simp [trailingSuccesses, PipeOutcome.isSuccess]

@[simp]
theorem trailingSuccesses_success :
    trailingSuccesses (outcomes ++ [.success cacheVersion]) = trailingSuccesses outcomes + 1 := by
  simp [trailingSuccesses, List.rtakeWhile_concat, PipeOutcome.isSuccess]

@[simp]
theorem lastVersion_failure : lastVersion (outcomes ++ [.failure]) = lastVersion outcomes := by
  simp [lastVersion, PipeOutcome.version?]

@[simp]
theorem lastVersion_success :
    lastVersion (outcomes ++ [.success cacheVersion]) = cacheVersion := by
  simp [lastVersion, PipeOutcome.version?]

end Trailing

/-! ## Steps -/

namespace FailModeState

variable (mode : FailModeState)

/-- Every change of the state by a success, with its guard. -/
theorem recordPipeSuccess_cases (cacheVersion : UInt64) :
    (mode.recordPipeSuccess cacheVersion).state = mode.state ∨
      (mode.state = .degraded ∧ (mode.recordPipeSuccess cacheVersion).state = .healthy ∧
        mode.consecutiveSuccesses + 1 ≥ degradedExitHysteresis) ∨
      (mode.state = .isolated ∧ (mode.recordPipeSuccess cacheVersion).state = .resync ∧
        cacheVersion > mode.cacheVersionSeenAt) ∨
      (mode.state = .resync ∧ (mode.recordPipeSuccess cacheVersion).state = .healthy ∧
        mode.consecutiveSuccesses + 1 ≥ isolatedExitHysteresis) := by
  rw [recordPipeSuccess_state]
  cases state : mode.state with
  | healthy => exact .inl (by simp only [stateAfterSuccess, state])
  | degraded =>
      simp only [stateAfterSuccess, state]
      split
      · rename_i reached
        exact .inr (.inl ⟨trivial, rfl, reached⟩)
      · exact .inl rfl
  | isolated =>
      simp only [stateAfterSuccess, state]
      split
      · rename_i fresh
        exact .inr (.inr (.inl ⟨trivial, rfl, fresh⟩))
      · exact .inl rfl
  | resync =>
      simp only [stateAfterSuccess, state]
      split
      · rename_i reached
        exact .inr (.inr (.inr ⟨trivial, rfl, reached⟩))
      · exact .inl rfl

/-- Every change of the state by a failure, with its guard. -/
theorem recordPipeFailure_cases :
    mode.recordPipeFailure.state = mode.state ∨
      (mode.state = .healthy ∧ mode.recordPipeFailure.state = .degraded ∧
        mode.consecutiveFailures + 1 ≥ healthyToDegradedThreshold) ∨
      (mode.state = .degraded ∧ mode.recordPipeFailure.state = .isolated ∧
        mode.consecutiveFailures + 1 ≥ degradedToIsolatedThreshold) ∨
      (mode.state = .resync ∧ mode.recordPipeFailure.state = .isolated) := by
  rw [recordPipeFailure_state]
  cases state : mode.state with
  | healthy =>
      simp only [stateAfterFailure, state]
      split
      · rename_i reached
        exact .inr (.inl ⟨trivial, rfl, reached⟩)
      · exact .inl rfl
  | degraded =>
      simp only [stateAfterFailure, state]
      split
      · rename_i reached
        exact .inr (.inr (.inl ⟨trivial, rfl, reached⟩))
      · exact .inl rfl
  | isolated => exact .inl (by simp only [stateAfterFailure, state])
  | resync => exact .inr (.inr (.inr ⟨rfl, by simp only [stateAfterFailure, state]⟩))

end FailModeState

/-! ## Counters -/

/-- What the counters and the version word know of a run. -/
structure Counted (outcomes : List PipeOutcome) (mode : FailModeState) : Prop where
  failures : mode.consecutiveFailures.toNat = trailingFailures outcomes % 2 ^ 32
  successes : mode.consecutiveSuccesses.toNat = trailingSuccesses outcomes % 2 ^ 32
  seen : mode.cacheVersionSeenAt = lastVersion outcomes
  few : mode.state = .healthy → trailingFailures outcomes < 3

namespace Counted

variable {outcomes : List PipeOutcome} {mode : FailModeState}

/-- A counter after one more increment. -/
theorem toNat_succ {counter : UInt32} {length : Nat}
    (counted : counter.toNat = length % 2 ^ 32) :
    (counter + 1).toNat = (length + 1) % 2 ^ 32 := by
  rw [UInt32.toNat_add, counted, UInt32.toNat_one, Nat.mod_add_mod]

/-- The trailing run is at least as long as a threshold that its counter has reached. -/
theorem le_length {counter threshold : UInt32} {length : Nat}
    (counted : counter.toNat = length % 2 ^ 32) (reached : counter ≥ threshold) :
    threshold.toNat ≤ length :=
  calc
    threshold.toNat ≤ counter.toNat := UInt32.le_iff_toNat_le.mp reached
    _ = length % 2 ^ 32 := counted
    _ ≤ length := Nat.mod_le length _

/-- A new state has counted nothing. -/
theorem new : Counted [] FailModeState.new where
  failures := rfl
  successes := rfl
  seen := rfl
  few _ := by decide

theorem success (counted : Counted outcomes mode) (cacheVersion : UInt64) :
    Counted (outcomes ++ [.success cacheVersion]) (mode.recordPipeSuccess cacheVersion) where
  failures := by simp [recordPipeSuccess]
  successes := by
    rw [trailingSuccesses_success]
    exact toNat_succ counted.successes
  seen := by simp [recordPipeSuccess]
  few _ := by simp

theorem failure (counted : Counted outcomes mode) :
    Counted (outcomes ++ [.failure]) mode.recordPipeFailure where
  failures := by
    rw [trailingFailures_failure]
    exact toNat_succ counted.failures
  successes := by simp [recordPipeFailure]
  seen := by
    rw [lastVersion_failure]
    exact counted.seen
  few healthy := by
    rw [trailingFailures_failure]
    rcases mode.recordPipeFailure_cases with same | ⟨-, entered, -⟩ | ⟨-, entered, -⟩ | ⟨-, entered⟩
    · -- Fewer than three failures were counted, so that the counter has not wrapped.
      have few := counted.few (same.symm.trans healthy)
      by_contra many
      have three : trailingFailures outcomes + 1 = 3 := by omega
      have reached : mode.consecutiveFailures + 1 ≥ healthyToDegradedThreshold := by
        apply UInt32.le_iff_toNat_le.mpr
        rw [toNat_succ counted.failures, three]
        decide
      have degraded : mode.recordPipeFailure.state = .degraded := by
        rw [recordPipeFailure_state, stateAfterFailure, same.symm.trans healthy]
        exact if_pos reached
      exact absurd (degraded.symm.trans healthy) (by decide)
    · exact absurd (entered.symm.trans healthy) (by decide)
    · exact absurd (entered.symm.trans healthy) (by decide)
    · exact absurd (entered.symm.trans healthy) (by decide)

/-- The counters along a run. -/
theorem run (outcomes : List PipeOutcome) : Counted outcomes (outcomes.foldl record .new) := by
  induction outcomes using List.reverseRecOn with
  | nil => exact new
  | append_singleton outcomes outcome ih =>
      rw [List.foldl_concat]
      cases outcome with
      | success cacheVersion => exact ih.success cacheVersion
      | failure => exact ih.failure

end Counted

/-! ## The characterisation -/

theorem stateAfter_concat (outcomes : List PipeOutcome) (outcome : PipeOutcome) :
    stateAfter (outcomes ++ [outcome]) = ((outcomes.foldl record .new).record outcome).state := by
  rw [stateAfter, List.foldl_concat]

/-- What must be known of a step that goes from one state to another. -/
def AllowedChange (outcomes : List PipeOutcome) (outcome : PipeOutcome) :
    FailState → FailState → Prop
  | .healthy, .degraded =>
      outcome = .failure ∧ trailingFailures (outcomes ++ [outcome]) = 3
  | .degraded, .isolated => 10 ≤ trailingFailures (outcomes ++ [outcome])
  | .resync, .isolated => outcome = .failure
  | .degraded, .healthy => 3 ≤ trailingSuccesses (outcomes ++ [outcome])
  | .isolated, .resync =>
      ∃ cacheVersion, outcome = .success cacheVersion ∧ lastVersion outcomes < cacheVersion
  | .resync, .healthy => 5 ≤ trailingSuccesses (outcomes ++ [outcome])
  | before, after => before = after

/-- The characterisation by the states before and after the step. -/
theorem stepCharacterised_of_allowed {outcomes : List PipeOutcome} {outcome : PipeOutcome}
    {before after : FailState} (isBefore : stateAfter outcomes = before)
    (isAfter : stateAfter (outcomes ++ [outcome]) = after)
    (allowed : AllowedChange outcomes outcome before after) :
    StepCharacterised outcomes outcome := by
  subst isBefore isAfter
  constructor
  case entersDegraded =>
    intro notBefore isAfter
    rw [isAfter] at allowed
    cases before : stateAfter outcomes with
    | degraded => exact absurd before notBefore
    | healthy =>
        rw [before] at allowed
        exact ⟨rfl, allowed⟩
    | isolated =>
        rw [before] at allowed
        cases allowed
    | resync =>
        rw [before] at allowed
        cases allowed
  case entersIsolated =>
    intro notBefore isAfter
    rw [isAfter] at allowed
    cases before : stateAfter outcomes with
    | isolated => exact absurd before notBefore
    | degraded =>
        rw [before] at allowed
        exact Or.inl ⟨rfl, allowed⟩
    | resync =>
        rw [before] at allowed
        exact Or.inr ⟨rfl, allowed⟩
    | healthy =>
        rw [before] at allowed
        cases allowed
  case leavesDegraded =>
    intro isBefore isAfter
    rwa [isBefore, isAfter] at allowed
  case entersResync =>
    intro notBefore isAfter
    rw [isAfter] at allowed
    cases before : stateAfter outcomes with
    | resync => exact absurd before notBefore
    | isolated =>
        rw [before] at allowed
        exact ⟨rfl, allowed⟩
    | healthy =>
        rw [before] at allowed
        cases allowed
    | degraded =>
        rw [before] at allowed
        cases allowed
  case leavesResync =>
    intro isBefore isAfter
    rwa [isBefore, isAfter] at allowed

/-- A step that leaves the state alone. -/
theorem allowedChange_refl (outcomes : List PipeOutcome) (outcome : PipeOutcome)
    (state : FailState) : AllowedChange outcomes outcome state state := by
  cases state <;> rfl

/-- A success changes the state only as the guards allow. -/
theorem stepCharacterised_success (outcomes : List PipeOutcome) (cacheVersion : UInt64) :
    StepCharacterised outcomes (.success cacheVersion) := by
  have counted := Counted.run outcomes
  have long : ∀ threshold : UInt32,
      (outcomes.foldl record .new).consecutiveSuccesses + 1 ≥ threshold →
        threshold.toNat ≤ trailingSuccesses (outcomes ++ [.success cacheVersion]) := by
    intro threshold reached
    rw [trailingSuccesses_success]
    exact Counted.le_length (Counted.toNat_succ counted.successes) reached
  have next := stateAfter_concat outcomes (.success cacheVersion)
  rcases (outcomes.foldl record .new).recordPipeSuccess_cases cacheVersion with
    same | ⟨before, after, reached⟩ | ⟨before, after, fresh⟩ | ⟨before, after, reached⟩
  · exact stepCharacterised_of_allowed rfl (next.trans same) (allowedChange_refl ..)
  · exact stepCharacterised_of_allowed before (next.trans after) (long _ reached)
  · exact stepCharacterised_of_allowed before (next.trans after)
      ⟨cacheVersion, rfl, counted.seen ▸ fresh⟩
  · exact stepCharacterised_of_allowed before (next.trans after) (long _ reached)

/-- A failure changes the state only as the guards allow. -/
theorem stepCharacterised_failure (outcomes : List PipeOutcome) :
    StepCharacterised outcomes .failure := by
  have counted := Counted.run outcomes
  have long : ∀ threshold : UInt32,
      (outcomes.foldl record .new).consecutiveFailures + 1 ≥ threshold →
        threshold.toNat ≤ trailingFailures (outcomes ++ [.failure]) := by
    intro threshold reached
    rw [trailingFailures_failure]
    exact Counted.le_length (Counted.toNat_succ counted.failures) reached
  have next := stateAfter_concat outcomes .failure
  rcases (outcomes.foldl record .new).recordPipeFailure_cases with
    same | ⟨before, after, reached⟩ | ⟨before, after, reached⟩ | ⟨before, after⟩
  · exact stepCharacterised_of_allowed rfl (next.trans same) (allowedChange_refl ..)
  · have three : trailingFailures (outcomes ++ [.failure]) = 3 := by
      have atLeast : 3 ≤ trailingFailures (outcomes ++ [.failure]) := long _ reached
      have few := counted.few before
      rw [trailingFailures_failure] at atLeast ⊢
      omega
    exact stepCharacterised_of_allowed before (next.trans after) ⟨rfl, three⟩
  · exact stepCharacterised_of_allowed before (next.trans after) (long _ reached)
  · exact stepCharacterised_of_allowed before (next.trans after) rfl

/-- In Healthy fewer than three failures are at the end of the run, and every step of
every run changes the state only as its trailing runs allow. -/
theorem failMode_runs (outcomes : List PipeOutcome) :
    (stateAfter outcomes = .healthy → trailingFailures outcomes < 3) ∧
      ∀ outcome : PipeOutcome, StepCharacterised outcomes outcome := by
  constructor
  · exact (Counted.run outcomes).few
  · intro outcome
    cases outcome with
    | success cacheVersion => exact stepCharacterised_success outcomes cacheVersion
    | failure => exact stepCharacterised_failure outcomes

end DlpSystem.Hook
