import DlpSystem.Ipc.Messages

/-!
# The control thread of the hook DLL

`control_thread_loop` polls the agent for commands, and unhooks the process when the agent has
not answered for a while.  Everything that the thread reads from outside, clocks included, is
part of a round.  Instants are in nanoseconds.
-/

namespace DlpSystem.Hook

open Ipc

/-! ## Constants -/

/-- `CONTROL_POLL_INTERVAL_MS`. -/
def controlPollIntervalMs : Nat :=
  1000

/-- `WATCHDOG_TIMEOUT_MS`. -/
def watchdogTimeoutMs : Nat :=
  30000

/-- `MAX_FAILURES`. -/
def maxFailures : UInt32 :=
  3

/-- The nanoseconds of a number of milliseconds. -/
def nanoseconds (milliseconds : Nat) : Nat :=
  milliseconds * 1000000

/-! ## The loop -/

/-- The variables of the loop.  It is left at a `break`, or as the thread exits. -/
structure ControlLoop where
  lastPollAttempt : Nat
  consecutiveFailures : UInt32
  firstFailureTime : Option Nat
  running : Bool
  deriving DecidableEq

/-- What the thread reads in one round. -/
structure ControlRound where
  /-- The clock before the wait. -/
  now : Nat
  /-- The wait ended because the shutdown event was signaled. -/
  signaled : Bool
  /-- `CONTROL_THREAD_STOPPING`. -/
  stopping : Bool
  /-- The clock before the poll. -/
  attempt : Nat
  /-- `process_creation_time`. -/
  creationTime : Option UInt64
  /-- `poll_control`, without the kind of the error. -/
  poll : Option (Option UnhookCommand)
  /-- The clock right behind a poll that failed. -/
  failedAt : Nat
  /-- The clock when the time since the first failure is taken. -/
  checkedAt : Nat
  /-- `shutdown_background_thread`. -/
  backgroundStopped : Bool
  /-- `unhook_all_internal`. -/
  unhooked : Bool
  /-- `self_unload` does not return. -/
  unloads : Bool

/-- What the thread does. -/
inductive ControlAction
  | waitForShutdown (milliseconds : Nat)
  | pollControl (poll : PollControl)
  | persistWatchdogEvidence (pid : UInt32) (creationTime : UInt64)
  | stopAndUnhook
  | sendUnhookAck (ack : UnhookAck)
  | selfUnload
  deriving DecidableEq

/-- `stop_and_unhook`. -/
def ControlRound.stopAndUnhook (round : ControlRound) : Bool :=
  round.backgroundStopped && round.unhooked

/-- `Instant::elapsed` in milliseconds, as a `u64`. -/
def elapsedMs (earlier now : Nat) : Nat :=
  (now - earlier) / 1000000 % 2 ^ 64

namespace ControlLoop

variable (loop : ControlLoop) (round : ControlRound)

/-- The loop before its first round. -/
def start (now : Nat) : ControlLoop :=
  ⟨now, 0, none, true⟩

/-- The next poll, or the end of the grace window if that comes first. -/
def nextWake : Nat :=
  let nextPoll := loop.lastPollAttempt + nanoseconds controlPollIntervalMs
  match loop.firstFailureTime with
  | some firstFailure =>
      if maxFailures ≤ loop.consecutiveFailures then
        min (firstFailure + nanoseconds watchdogTimeoutMs) nextPoll
      else nextPoll
  | none => nextPoll

/-- `wait_ms`. -/
def waitMs (now : Nat) : Nat :=
  if loop.nextWake ≤ now then 0
  else min ((loop.nextWake - now) / 1000000 % 2 ^ 32) controlPollIntervalMs

/-- The loop after a poll that was answered. -/
def answered : ControlLoop :=
  { loop with
    lastPollAttempt := round.attempt
    consecutiveFailures := 0
    firstFailureTime := none }

/-- `handle_unhook_command`. -/
def handleUnhookCommand (pid : UInt32) (creationTime : UInt64) :
    ControlLoop × List ControlAction :=
  let unhookOk := round.stopAndUnhook
  let ack : UnhookAck :=
    ⟨pid, creationTime, unhookOk, if unhookOk then none else some "UnhookAll failed"⟩
  if unhookOk then
    ({ loop with running := !round.unloads }, [.stopAndUnhook, .sendUnhookAck ack, .selfUnload])
  else (loop, [.stopAndUnhook, .sendUnhookAck ack])

/-- The loop after a poll that failed, before it looks at the watchdog.  The counter wraps. -/
def failed : ControlLoop :=
  { loop with
    lastPollAttempt := round.attempt
    consecutiveFailures := loop.consecutiveFailures + 1
    firstFailureTime := some (loop.firstFailureTime.getD round.failedAt) }

/-- Enough failures in a row, and enough time since the first. -/
def watchdogDue : Prop :=
  maxFailures ≤ loop.consecutiveFailures ∧
    ∃ firstFailure ∈ loop.firstFailureTime,
      watchdogTimeoutMs ≤ elapsedMs firstFailure round.checkedAt

instance : Decidable (loop.watchdogDue round) :=
  inferInstanceAs (Decidable (_ ∧ ∃ firstFailure ∈ loop.firstFailureTime, _))

/-- The watchdog.  Whether or not it can unhook and unload, the loop is left. -/
def watchdog (pid : UInt32) (creationTime : UInt64) : ControlLoop × List ControlAction :=
  if loop.watchdogDue round then
    ({ loop with running := false },
      [.persistWatchdogEvidence pid creationTime, .stopAndUnhook] ++
        if round.stopAndUnhook then [.selfUnload] else [])
  else (loop, [])

/-- A poll and what follows from its outcome. -/
def afterPoll (pid : UInt32) (creationTime : UInt64) : ControlLoop × List ControlAction :=
  match round.poll with
  | some (some _) => (loop.answered round).handleUnhookCommand round pid creationTime
  | some none => (loop.answered round, [])
  | none => (loop.failed round).watchdog round pid creationTime

/-- `control_thread_loop`, one round. -/
def next (pid : UInt32) : ControlLoop × List ControlAction :=
  if loop.running then
    let wait := ControlAction.waitForShutdown (loop.waitMs round.now)
    if round.signaled || round.stopping then ({ loop with running := false }, [wait])
    else
      match round.creationTime with
      | none => ({ loop with lastPollAttempt := round.attempt }, [wait])
      | some creationTime =>
          let rest := loop.afterPoll round pid creationTime
          (rest.1, wait :: .pollControl ⟨pid, creationTime⟩ :: rest.2)
  else (loop, [])

end ControlLoop

end DlpSystem.Hook
