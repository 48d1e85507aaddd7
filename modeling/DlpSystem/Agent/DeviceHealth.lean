import DlpSystem.Common.Abac
import DlpSystem.Lib.EventRun

/-!
# The health of the device

`HEALTH_STATUS` and the heartbeat loop of `OfflineManager`.  A failed heartbeat moves a
counter of eight bits, and the third and the tenth failure in a row write a status, whatever
the status is by then.  A heartbeat that is sent after failures writes `Healthy`.
-/

namespace DlpSystem.Agent

open Abac Lib

/-- Where an iteration of the heartbeat loop is. -/
inductive HeartbeatStage
  | waiting
  /-- A heartbeat was sent after failures, and the status is to be looked at. -/
  | recovering
  /-- A heartbeat was sent after failures, and `Healthy` is to be written. -/
  | recovered
  /-- A heartbeat has failed, and the status is to be written. -/
  | failing (status : DeviceHealthStatus)
  deriving DecidableEq

/-- The status that a failed heartbeat is about to write. -/
def HeartbeatStage.pending : HeartbeatStage → Option DeviceHealthStatus
  | .failing status => some status
  | _ => none

/-- The status, the counter `heartbeat_failures` and the heartbeat loop. -/
structure HealthAgent where
  status : DeviceHealthStatus
  failures : UInt8
  stage : HeartbeatStage
  deriving DecidableEq

/-- The steps of a run. -/
inductive HealthStep
  | heartbeatSent
  | heartbeatFailed
  /-- The heartbeat loop goes on after its send. -/
  | goOn
  | reportTamperDetected
  deriving DecidableEq

namespace HealthAgent

/-- The status that a failure calls for, by the number of failures in a row. -/
def statusAfterFailures (failures : UInt8) : Option DeviceHealthStatus :=
  if failures = 3 then some .degraded
  else if failures = 10 then some .offline
  else none

/-- One step.  The status is exchanged by `transition_health`. -/
def next (agent : HealthAgent) : HealthStep → HealthAgent
  | .heartbeatSent =>
      if agent.stage = .waiting then
        { agent with
          failures := 0
          stage := if 0 < agent.failures then .recovering else .waiting }
      else agent
  | .heartbeatFailed =>
      if agent.stage = .waiting then
        { agent with
          failures := agent.failures + 1
          stage := (statusAfterFailures (agent.failures + 1)).elim .waiting .failing }
      else agent
  | .goOn =>
      match agent.stage with
      | .waiting => agent
      | .recovering =>
          { agent with stage := if agent.status ≠ .healthy then .recovered else .waiting }
      | .recovered => { agent with status := .healthy, stage := .waiting }
      | .failing status => { agent with status := status, stage := .waiting }
  | .reportTamperDetected => { agent with status := .tampered }

/-- The heartbeat loop starts; the status may be restored from the registry. -/
def start (status : DeviceHealthStatus) (failures : UInt8) : HealthAgent :=
  ⟨status, failures, .waiting⟩

end HealthAgent

/-- If the step lowers the status, it is the recovery of a heartbeat that was sent. -/
def LoweredOnSuccess (agent : HealthAgent) (step : HealthStep) : Prop :=
  (agent.next step).status.severity < agent.status.severity →
    agent.stage = .recovered ∧ step = .goOn

/-- The condition on a step.  The failure that makes the counter 3 meets neither `Offline` nor
`Tampered`, the one that makes it 10 does not meet `Tampered`, and no tampering is reported
between such a failure and the status that it writes. -/
def FailureInOrder (agent : HealthAgent) : HealthStep → Prop
  | .heartbeatFailed =>
      agent.stage = .waiting →
        (agent.failures + 1 = 3 → agent.status ≠ .offline ∧ agent.status ≠ .tampered) ∧
          (agent.failures + 1 = 10 → agent.status ≠ .tampered)
  | .reportTamperDetected => agent.stage.pending = none
  | _ => True

instance (agent : HealthAgent) (step : HealthStep) : Decidable (LoweredOnSuccess agent step) :=
  inferInstanceAs (Decidable (_ → _))

instance (agent : HealthAgent) : ∀ step, Decidable (FailureInOrder agent step)
  | .heartbeatFailed => inferInstanceAs (Decidable (agent.stage = .waiting →
      (agent.failures + 1 = 3 → agent.status ≠ .offline ∧ agent.status ≠ .tampered) ∧
        (agent.failures + 1 = 10 → agent.status ≠ .tampered)))
  | .reportTamperDetected => inferInstanceAs (Decidable (agent.stage.pending = none))
  | .heartbeatSent | .goOn => inferInstanceAs (Decidable True)

/-! ## A pending status is no better than the current one -/

theorem severity_le_tampered (status : DeviceHealthStatus) :
    status.severity ≤ DeviceHealthStatus.tampered.severity := by
  cases status <;> decide

/-- What a failure is about to write does not lower the status, and is not `Tampered`. -/
def PendingNoBetter (agent : HealthAgent) : Prop :=
  ∀ status ∈ agent.stage.pending,
    agent.status.severity ≤ status.severity ∧ status ≠ .tampered

namespace HealthAgent

variable {agent : HealthAgent}

theorem statusAfterFailures_eq_some {failures : UInt8} {status : DeviceHealthStatus}
    (called : statusAfterFailures failures = some status) :
    failures = 3 ∧ status = .degraded ∨ failures = 10 ∧ status = .offline := by
  unfold statusAfterFailures at called
  split at called
  · rename_i three
    exact .inl ⟨three, (Option.some.inj called).symm⟩
  · split at called
    · rename_i ten
      exact .inr ⟨ten, (Option.some.inj called).symm⟩
    · cases called

/-- A failure that meets the condition calls for no better status. -/
theorem noBetter_heartbeatFailed (waiting : agent.stage = .waiting)
    (inOrder : FailureInOrder agent .heartbeatFailed) :
    PendingNoBetter (agent.next .heartbeatFailed) := by
  obtain ⟨third, tenth⟩ := inOrder waiting
  rw [next, if_pos waiting]
  intro status pending
  cases called : statusAfterFailures (agent.failures + 1) with
  | none =>
      simp only [called] at pending
      cases pending
  | some written =>
      simp only [called] at pending
      cases pending
      rcases statusAfterFailures_eq_some called with ⟨three, rfl⟩ | ⟨ten, rfl⟩
      · refine ⟨?_, by decide⟩
        obtain ⟨online, untampered⟩ := third three
        cases here : agent.status with
        | healthy => decide
        | degraded => decide
        | offline => exact (online here).elim
        | tampered => exact (untampered here).elim
      · refine ⟨?_, by decide⟩
        cases here : agent.status with
        | healthy => decide
        | degraded => decide
        | offline => decide
        | tampered => exact (tenth ten here).elim

theorem noBetter_next {step : HealthStep} (noBetter : PendingNoBetter agent)
    (inOrder : FailureInOrder agent step) : PendingNoBetter (agent.next step) := by
  cases step with
  | heartbeatSent =>
      rw [next]
      split
      · intro status pending
        dsimp only at pending
        split at pending
        · cases pending
        · cases pending
      · exact noBetter
  | heartbeatFailed =>
      by_cases waiting : agent.stage = .waiting
      · exact noBetter_heartbeatFailed waiting inOrder
      · rw [next, if_neg waiting]
        exact noBetter
  | goOn =>
      rw [next]
      split
      · exact noBetter
      · intro status pending
        dsimp only at pending
        split at pending
        · cases pending
        · cases pending
      · rintro status ⟨⟩
      · rintro status ⟨⟩
  | reportTamperDetected =>
      have nothing : agent.stage.pending = none := inOrder
      intro status pending
      rw [next, nothing] at pending
      cases pending

theorem loweredOnSuccess_of_noBetter (noBetter : PendingNoBetter agent) (step : HealthStep) :
    LoweredOnSuccess agent step := by
  intro lower
  cases step with
  | heartbeatSent =>
      rw [next] at lower
      split at lower
      · exact (Nat.lt_irrefl _ lower).elim
      · exact (Nat.lt_irrefl _ lower).elim
  | heartbeatFailed =>
      rw [next] at lower
      split at lower
      · exact (Nat.lt_irrefl _ lower).elim
      · exact (Nat.lt_irrefl _ lower).elim
  | goOn =>
      rw [next] at lower
      split at lower
      · exact (Nat.lt_irrefl _ lower).elim
      · exact (Nat.lt_irrefl _ lower).elim
      · rename_i stage
        exact ⟨stage, rfl⟩
      · rename_i status stage
        have pending : status ∈ agent.stage.pending := by
          rw [stage]
          rfl
        exact (Nat.not_lt.mpr (noBetter status pending).1 lower).elim
  | reportTamperDetected =>
      exact (Nat.not_lt.mpr (severity_le_tampered agent.status) lower).elim

/-- A better status is about to be written after a failure. -/
def BetterPending (agent : HealthAgent) : Prop :=
  ∃ status, agent.stage = .failing status ∧ status.severity < agent.status.severity

theorem betterPending_heartbeatFailed (disorder : ¬FailureInOrder agent .heartbeatFailed) :
    BetterPending (agent.next .heartbeatFailed) := by
  by_cases waiting : agent.stage = .waiting
  · have called (status : DeviceHealthStatus)
        (after : statusAfterFailures (agent.failures + 1) = some status) :
        (agent.next .heartbeatFailed).stage = .failing status := by
      rw [next, if_pos waiting, after]
      rfl
    have same : (agent.next .heartbeatFailed).status = agent.status := by
      rw [next, if_pos waiting]
    unfold BetterPending
    rw [same]
    by_cases three : agent.failures + 1 = 3
    · refine ⟨.degraded, called _ (if_pos three), ?_⟩
      cases here : agent.status with
      | healthy => simp [FailureInOrder, here] at disorder
      | degraded => simp [FailureInOrder, here] at disorder
      | offline => decide
      | tampered => decide
    by_cases ten : agent.failures + 1 = 10
    · refine ⟨.offline, called _ (by rw [statusAfterFailures, if_neg three, if_pos ten]), ?_⟩
      cases here : agent.status with
      | tampered => decide
      | healthy | degraded | offline =>
          exact (disorder fun _ => ⟨fun now => (three now).elim, by simp [here]⟩).elim
    · exact (disorder fun _ => ⟨fun now => (three now).elim, fun now => (ten now).elim⟩).elim
  · exact (disorder fun now => (waiting now).elim).elim

theorem betterPending_reportTamperDetected (noBetter : PendingNoBetter agent)
    (pending : agent.stage.pending ≠ none) :
    BetterPending (agent.next .reportTamperDetected) := by
  cases stage : agent.stage with
  | failing status =>
      have untampered := (noBetter status (by rw [stage]; rfl)).2
      have lower : status.severity < DeviceHealthStatus.tampered.severity := by
        cases status with
        | tampered => exact (untampered rfl).elim
        | healthy | degraded | offline => decide
      exact ⟨status, stage, lower⟩
  | waiting | recovering | recovered =>
      rw [stage] at pending
      exact (pending rfl).elim

/-- A better status that is pending is written in the end. -/
theorem BetterPending.not_each (better : BetterPending agent) (steps : List HealthStep) :
    ¬Each HealthAgent.next LoweredOnSuccess agent (steps ++ [.goOn]) := by
  obtain ⟨status, failing, lower⟩ := better
  induction steps generalizing agent with
  | nil =>
      rintro ⟨held, -⟩
      have written : (agent.next .goOn).status = status := by
        rw [next, failing]
      cases failing.symm.trans (held (written.symm ▸ lower)).1
  | cons step steps ih =>
      rintro ⟨held, rest⟩
      have busy : agent.stage ≠ .waiting := by
        rw [failing]
        exact HeartbeatStage.noConfusion
      cases step with
      | heartbeatSent =>
          rw [next, if_neg busy] at rest
          exact ih failing lower rest
      | heartbeatFailed =>
          rw [next, if_neg busy] at rest
          exact ih failing lower rest
      | goOn =>
          have written : (agent.next .goOn).status = status := by
            rw [next, failing]
          cases failing.symm.trans (held (written.symm ▸ lower)).1
      | reportTamperDetected =>
          have stays : (agent.next .reportTamperDetected).stage = .failing status := failing
          have still : status.severity <
              (agent.next .reportTamperDetected).status.severity :=
            Nat.lt_of_lt_of_le lower (severity_le_tampered agent.status)
          exact ih stays still rest

theorem not_each_of_disorder {step : HealthStep} {steps : List HealthStep}
    (noBetter : PendingNoBetter agent) (disorder : ¬FailureInOrder agent step) :
    ¬Each HealthAgent.next LoweredOnSuccess (agent.next step) (steps ++ [.goOn]) := by
  cases step with
  | heartbeatFailed => exact (betterPending_heartbeatFailed disorder).not_each steps
  | reportTamperDetected =>
      exact (betterPending_reportTamperDetected noBetter disorder).not_each steps
  | heartbeatSent | goOn => exact (disorder trivial).elim

theorem lowered_iff_inOrder (noBetter : PendingNoBetter agent) (steps : List HealthStep) :
    Each HealthAgent.next LoweredOnSuccess agent (steps ++ [.goOn]) ↔
      Each HealthAgent.next FailureInOrder agent steps := by
  induction steps generalizing agent with
  | nil => simp [loweredOnSuccess_of_noBetter noBetter .goOn]
  | cons step steps ih =>
      rw [List.cons_append, each_cons, each_cons]
      by_cases inOrder : FailureInOrder agent step
      · rw [ih (noBetter_next noBetter inOrder)]
        simp [inOrder, loweredOnSuccess_of_noBetter noBetter step]
      · simp [inOrder, not_each_of_disorder noBetter inOrder]

end HealthAgent

/-- In a run of any steps, up to the status that the last heartbeat writes, only heartbeats
that are sent lower the status, exactly if every step meets the condition. -/
theorem health_lowered_by_sent_heartbeats_iff (status : DeviceHealthStatus) (failures : UInt8)
    (steps : List HealthStep) :
    Each HealthAgent.next LoweredOnSuccess (.start status failures) (steps ++ [.goOn]) ↔
      Each HealthAgent.next FailureInOrder (.start status failures) steps := by
  apply HealthAgent.lowered_iff_inOrder
  rintro status ⟨⟩

/-- Tampering is reported, and three heartbeats fail: the device counts as degraded only. -/
theorem tampered_lowered_by_failures :
    ¬Each HealthAgent.next LoweredOnSuccess (.start .healthy 0)
      [.reportTamperDetected, .heartbeatFailed, .heartbeatFailed, .heartbeatFailed, .goOn] := by
  decide

end DlpSystem.Agent
