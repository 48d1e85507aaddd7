import DlpSystem.Hook.CacheReader

/-!
# The fail-mode state machine

`FailModeState` with its counters, the decisions taken without the agent, and
the tick of the background thread.  Each method is one function on the record;
the atomics of the source are its fields.  `last_pipe_attempt_epoch_secs` is
only ever written and is left out.
-/

namespace DlpSystem.Hook

open Common

/-- `FailState`. -/
inductive FailState
  | healthy
  | degraded
  | isolated
  | resync
  deriving DecidableEq, Repr

/-- `HEALTHY_TO_DEGRADED_THRESHOLD`. -/
def healthyToDegradedThreshold : UInt32 := 3

/-- `DEGRADED_TO_ISOLATED_THRESHOLD`. -/
def degradedToIsolatedThreshold : UInt32 := 10

/-- `DEGRADED_EXIT_HYSTERESIS`. -/
def degradedExitHysteresis : UInt32 := 3

/-- `ISOLATED_EXIT_HYSTERESIS`. -/
def isolatedExitHysteresis : UInt32 := 5

/-- `DEGRADED_RETRY_INTERVAL`. -/
def degradedRetryInterval : UInt32 := 10

/-- `FailModeState`. -/
structure FailModeState where
  state : FailState
  consecutiveFailures : UInt32
  consecutiveSuccesses : UInt32
  cacheVersionSeenAt : UInt64
  degradedRetryCounter : UInt32
  deriving DecidableEq, Repr

namespace FailModeState

/-- `FailModeState::new`. -/
def new : FailModeState where
  state := .healthy
  consecutiveFailures := 0
  consecutiveSuccesses := 0
  cacheVersionSeenAt := 0
  degradedRetryCounter := 0

/-- The state that `record_pipe_success` goes to, from the success count after
the increment. -/
def stateAfterSuccess (mode : FailModeState) (successes : UInt32) (cacheVersion : UInt64) :
    FailState :=
  match mode.state with
  | .healthy => .healthy
  | .degraded => if successes ≥ degradedExitHysteresis then .healthy else .degraded
  | .isolated => if cacheVersion > mode.cacheVersionSeenAt then .resync else .isolated
  | .resync => if successes ≥ isolatedExitHysteresis then .healthy else .resync

/-- `record_pipe_success`. -/
def recordPipeSuccess (mode : FailModeState) (cacheVersion : UInt64) : FailModeState :=
  let successes := mode.consecutiveSuccesses + 1
  { mode with
    consecutiveSuccesses := successes
    consecutiveFailures := 0
    state := mode.stateAfterSuccess successes cacheVersion
    cacheVersionSeenAt := cacheVersion }

/-- The state that `record_pipe_failure` goes to, from the failure count after
the increment. -/
def stateAfterFailure (mode : FailModeState) (failures : UInt32) : FailState :=
  match mode.state with
  | .healthy => if failures ≥ healthyToDegradedThreshold then .degraded else .healthy
  | .degraded => if failures ≥ degradedToIsolatedThreshold then .isolated else .degraded
  | .isolated => .isolated
  | .resync => .isolated

/-- `record_pipe_failure`. -/
def recordPipeFailure (mode : FailModeState) : FailModeState :=
  let failures := mode.consecutiveFailures + 1
  { mode with
    consecutiveFailures := failures
    consecutiveSuccesses := 0
    state := mode.stateAfterFailure failures }

/-- `should_retry_pipe`. -/
def shouldRetryPipe (mode : FailModeState) : Bool × FailModeState :=
  if mode.state ≠ .degraded then (false, mode)
  else
    let counter := mode.degradedRetryCounter + 1
    (counter % degradedRetryInterval == 0, { mode with degradedRetryCounter := counter })

/-- `reset_counters`. -/
def resetCounters (mode : FailModeState) : FailModeState :=
  { mode with consecutiveFailures := 0, consecutiveSuccesses := 0, degradedRetryCounter := 0 }

/-- `set_state`. -/
def setState (mode : FailModeState) (state : FailState) : FailModeState :=
  { mode with state := state }

/-- One round of `background_thread_loop` that sees `versionWord` in the cache
header.  `none` stands for a null or no longer valid mapping. -/
def backgroundTick (mode : FailModeState) (versionWord : Option UInt64) : FailModeState :=
  match mode.state, versionWord with
  | .isolated, some word =>
      if word &&& 1 ≠ 0 then mode
      else if word >>> 1 > mode.cacheVersionSeenAt then mode.recordPipeSuccess (word >>> 1)
      else mode
  | _, _ => mode

@[simp]
theorem recordPipeSuccess_state (mode : FailModeState) (cacheVersion : UInt64) :
    (mode.recordPipeSuccess cacheVersion).state =
      mode.stateAfterSuccess (mode.consecutiveSuccesses + 1) cacheVersion := rfl

@[simp]
theorem recordPipeFailure_state (mode : FailModeState) :
    mode.recordPipeFailure.state = mode.stateAfterFailure (mode.consecutiveFailures + 1) := rfl

@[simp]
theorem setState_state (mode : FailModeState) (state : FailState) :
    (mode.setState state).state = state := rfl

/-- Asking for a retry leaves the state alone. -/
@[simp]
theorem shouldRetryPipe_state (mode : FailModeState) :
    mode.shouldRetryPipe.2.state = mode.state := by
  unfold shouldRetryPipe
  split <;> rfl

/-- Recording a success outside of Isolated and Resync leads to neither. -/
theorem recordPipeSuccess_connected {mode : FailModeState} (cacheVersion : UInt64)
    (state : mode.state = .healthy ∨ mode.state = .degraded) :
    (mode.recordPipeSuccess cacheVersion).state = .healthy ∨
      (mode.recordPipeSuccess cacheVersion).state = .degraded := by
  rcases state with healthy | degraded
  · exact .inl (by simp [stateAfterSuccess, healthy])
  · simp only [recordPipeSuccess_state, stateAfterSuccess, degraded]
    split
    · exact .inl rfl
    · exact .inr rfl

/-- Recording a failure never leads to Resync. -/
theorem recordPipeFailure_ne_resync (mode : FailModeState) :
    mode.recordPipeFailure.state ≠ .resync := by
  rw [recordPipeFailure_state]
  cases state : mode.state with
  | healthy =>
      simp only [stateAfterFailure, state]
      split <;> simp
  | degraded =>
      simp only [stateAfterFailure, state]
      split <;> simp
  | isolated => simp [stateAfterFailure, state]
  | resync => simp [stateAfterFailure, state]

/-- A tick does something in Isolated only, and leads from there to Resync at most. -/
theorem backgroundTick_cases (mode : FailModeState) (versionWord : Option UInt64) :
    mode.backgroundTick versionWord = mode ∨
      (mode.state = .isolated ∧ (mode.backgroundTick versionWord).state = .resync) := by
  unfold backgroundTick
  split
  · rename_i word isolated
    split
    · exact .inl rfl
    · split
      · rename_i fresh
        refine .inr ⟨isolated, ?_⟩
        simp only [recordPipeSuccess_state, stateAfterSuccess, isolated]
        exact if_pos fresh
      · exact .inl rfl
  · exact .inl rfl

end FailModeState

/-! ## Decisions without the agent -/

/-- `decide_isolated`. -/
def decideIsolated (classification : Option Classification) (op : HookOp) : Option DenyReturn :=
  match classification, op with
  | some .T3, .write => some .boolFalse
  | some .T4, .write => some .boolFalse
  | some .T3, .read => none
  | some .T4, .read => none
  | some .T1, _ => none
  | some .T2, _ => none
  | none, .write => some .boolFalse
  | none, .read => none

/-- `decide_degraded`: a hit and a miss go to `decide_isolated` alike. -/
def decideDegraded (classification : Option Classification) (op : HookOp) : Option DenyReturn :=
  if classification.isSome then decideIsolated classification op
  else decideIsolated classification op

/-- The tiers that fail open. -/
def IsLowTier (classification : Option Classification) : Prop :=
  classification = some .T1 ∨ classification = some .T2

instance (classification : Option Classification) : Decidable (IsLowTier classification) :=
  inferInstanceAs (Decidable (_ ∨ _))

@[simp]
theorem decideDegraded_eq (classification : Option Classification) (op : HookOp) :
    decideDegraded classification op = decideIsolated classification op := by
  unfold decideDegraded
  split <;> rfl

/-- A write without the agent goes through for a known low tier only. -/
theorem decideIsolated_write_eq_none_iff (classification : Option Classification) :
    decideIsolated classification .write = none ↔ IsLowTier classification := by
  cases classification with
  | none => decide
  | some tier => cases tier <;> decide

/-- The cache hit denies exactly writes to the two upper tiers. -/
theorem decideCached_eq_none_iff (classification : Classification) (op : HookOp) :
    decideCached classification op = none ↔ op = .read ∨ IsLowTier (some classification) := by
  cases classification <;> cases op <;> decide

end DlpSystem.Hook
