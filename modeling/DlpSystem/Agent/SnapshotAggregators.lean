import DlpSystem.Ipc.Messages
import DlpSystem.Lib.StableSort

/-!
# Snapshots of the hook on the agent

`HealthAggregator`: the agent keeps the last health snapshots of the hook DLL, computes a
status from each, and reports when the status stays low or becomes critical.
-/

namespace DlpSystem.Agent

open Ipc

/-- `HealthStatus`. -/
inductive HealthStatus
  | healthy
  | degraded
  | critical
  deriving DecidableEq

/-- `HealthStatus::as_str`. -/
def HealthStatus.asStr : HealthStatus → String
  | .healthy => "healthy"
  | .degraded => "degraded"
  | .critical => "critical"

/-- `MAX_HISTORY_LEN`. -/
def maxHistoryLen : Nat := 12

/-- `CONSECUTIVE_DEGRADED_THRESHOLD`. -/
def consecutiveDegradedThreshold : Nat := 2

/-- An `f64`, by its bits, is less than 0.80.  Nothing that is not a number is. -/
def isLowHitRate (bits : UInt64) : Bool :=
  decide (bits &&& 0x7FFFFFFFFFFFFFFF ≤ 0x7FF0000000000000) &&
    (decide (0x8000000000000000 ≤ bits) || decide (bits < 0x3FE999999999999A))

/-- `compute_status`. -/
def computeStatus (snapshot : HookHealthSnapshot) : HealthStatus :=
  if snapshot.currentFailState = 2 ∨ snapshot.pipeRoundTrips60s = 0 then .critical
  else if isLowHitRate snapshot.cacheHitRate60s = true ∨ snapshot.currentFailState = 1 then
    .degraded
  else .healthy

/-- What the audit event of a transition says; its other fields are the same for all. -/
structure HealthEvent where
  /-- It is an `Alert`, and else a `Block`. -/
  isAlert : Bool
  policyId : String
  policyName : String
  policyMode : String
  /-- The alert router is called if there is one. -/
  isRouted : Bool
  deriving DecidableEq

/-- `emit_health_audit_event`, for a way to write a hit rate with two decimals. -/
def emitHealthAuditEvent (showRate : UInt64 → String) (severity : String)
    (snapshot : HookHealthSnapshot) (oldStatus newStatus : HealthStatus) : HealthEvent where
  isAlert := severity = "crit"
  policyId := "hook-health-" ++ newStatus.asStr
  policyName :=
    "Hook health transitioned from " ++ oldStatus.asStr ++ " to " ++ newStatus.asStr ++
      " (injected_pids=" ++ toString snapshot.injectedPids.toNat ++ ", patched_modules=" ++
      toString snapshot.patchedModules.toNat ++ ", cache_hit_rate=" ++
      showRate snapshot.cacheHitRate60s ++ ", pipe_round_trips=" ++
      toString snapshot.pipeRoundTrips60s.toNat ++ ")"
  policyMode := severity
  isRouted := severity = "crit"

/-- `HealthAggregator`. -/
structure HealthAggregator where
  history : List HookHealthSnapshot
  lastStatus : HealthStatus
  consecutiveDegraded : Nat

namespace HealthAggregator

/-- `HealthAggregator::new`. -/
def new : HealthAggregator :=
  ⟨[], .healthy, 0⟩

/-- The history with another snapshot, without the oldest one if there are too many. -/
def pushHistory (history : List HookHealthSnapshot) (snapshot : HookHealthSnapshot) :
    List HookHealthSnapshot :=
  if (history ++ [snapshot]).length > maxHistoryLen then (history ++ [snapshot]).tail
  else history ++ [snapshot]

/-- `ingest_snapshot`, with the event that it emits. -/
def ingestSnapshot (showRate : UInt64 → String) (aggregator : HealthAggregator)
    (snapshot : HookHealthSnapshot) : HealthAggregator × Option HealthEvent :=
  let history := pushHistory aggregator.history snapshot
  let newStatus := computeStatus snapshot
  let oldStatus := aggregator.lastStatus
  match newStatus with
  | .degraded =>
      let count :=
        if oldStatus = .healthy then aggregator.consecutiveDegraded + 1
        else aggregator.consecutiveDegraded
      if count ≥ consecutiveDegradedThreshold then
        (⟨history, newStatus, 0⟩,
          some (emitHealthAuditEvent showRate "warn" snapshot oldStatus newStatus))
      else (⟨history, newStatus, count⟩, none)
  | .critical =>
      (⟨history, newStatus, 0⟩,
        some (emitHealthAuditEvent showRate "crit" snapshot oldStatus newStatus))
  | .healthy => (⟨history, newStatus, 0⟩, none)

end HealthAggregator

/-! ## Diagnostic snapshots on their way to the server

`DiagnosticAggregator` buffers the snapshots of each hook DLL, and `diagnostic_push_loop`
drains the buffers, submits what it found, and puts it back if that fails.  Snapshots may come
in between any two of its steps.  The buffers take any kind of snapshot with a timestamp.
-/

open Lib

/-- `DEFAULT_MAX_ENTRIES_PER_DLL`. -/
def defaultMaxEntriesPerDll : Nat :=
  1000

/-- `DiagnosticAggregator`.  A key without snapshots has the empty list. -/
structure DiagnosticAggregator (Snapshot : Type) where
  snapshots : String → List Snapshot
  maxEntriesPerDll : Nat

/-- The key of a process on an agent. -/
def snapshotKey (agentId : String) (pid : UInt32) : String :=
  toString pid.toNat ++ "_" ++ agentId

namespace DiagnosticAggregator

variable {Snapshot : Type}

/-- `DiagnosticAggregator::with_capacity`. -/
def withCapacity (maxEntriesPerDll : Nat) : DiagnosticAggregator Snapshot :=
  ⟨fun _ => [], maxEntriesPerDll⟩

/-- The entry of a key with more snapshots. -/
def appended (aggregator : DiagnosticAggregator Snapshot) (key : String)
    (newSnapshots : List Snapshot) : List Snapshot :=
  aggregator.snapshots key ++ newSnapshots

/-- How many snapshots are over the capacity. -/
def excess (aggregator : DiagnosticAggregator Snapshot) (key : String)
    (newSnapshots : List Snapshot) : Nat :=
  (aggregator.appended key newSnapshots).length - aggregator.maxEntriesPerDll

/-- `ingest`: the excess is cut off at the front. -/
def ingest (aggregator : DiagnosticAggregator Snapshot) (agentId : String) (pid : UInt32)
    (newSnapshots : List Snapshot) : DiagnosticAggregator Snapshot :=
  let key := snapshotKey agentId pid
  { aggregator with
    snapshots := Function.update aggregator.snapshots key
      ((aggregator.appended key newSnapshots).drop (aggregator.excess key newSnapshots)) }

/-- A round of the loop of `drain_all`: the snapshots of a key are taken out. -/
def removeKey (aggregator : DiagnosticAggregator Snapshot) (key : String) :
    List Snapshot × DiagnosticAggregator Snapshot :=
  (aggregator.snapshots key,
    { aggregator with snapshots := Function.update aggregator.snapshots key [] })

end DiagnosticAggregator

/-! ### The push loop -/

/-- Where the loop is.  After a signal to shut down it drains and submits once more. -/
inductive PushStage (Snapshot : Type)
  | waiting
  /-- `drain_all` has listed the keys, and has taken out the snapshots of some. -/
  | draining (shutdown : Bool) (keys : List String) (out : List Snapshot)
  /-- The submission of a batch has not come back. -/
  | submitting (shutdown : Bool) (batch : List Snapshot)
  | stopped

/-- The loop, its aggregator, and the batches that the server has taken. -/
structure PushLoop (Snapshot : Type) where
  aggregator : DiagnosticAggregator Snapshot
  stage : PushStage Snapshot
  submitted : List Snapshot

/-- What happens: a DLL reports, the timer or a shutdown starts a drain that lists some keys,
the drain comes to the next key or ends, and the submission comes back. -/
inductive PushEvent (Snapshot : Type)
  | ingest (agentId : String) (pid : UInt32) (newSnapshots : List Snapshot)
  | startDrain (shutdown : Bool) (keys : List String)
  | continueDrain
  | submitReturns (succeeds : Bool)

namespace PushLoop

variable {Snapshot : Type} (qpc : Snapshot → Nat) (agentId : String)

/-- A loop with empty buffers. -/
def start (maxEntriesPerDll : Nat) : PushLoop Snapshot :=
  ⟨.withCapacity maxEntriesPerDll, .waiting, []⟩

/-- The stage after a round of the loop. -/
def afterRound (shutdown : Bool) : PushStage Snapshot :=
  if shutdown then .stopped else .waiting

/-- `diagnostic_push_loop`, one step.  The drained snapshots are sorted newest first, and a
batch that fails is put back under the key of the process 0. -/
def next (loop : PushLoop Snapshot) (event : PushEvent Snapshot) : PushLoop Snapshot :=
  match event, loop.stage with
  | .ingest reporter pid newSnapshots, _ =>
      { loop with aggregator := loop.aggregator.ingest reporter pid newSnapshots }
  | .startDrain shutdown keys, .waiting => { loop with stage := .draining shutdown keys [] }
  | .continueDrain, .draining shutdown (key :: keys) out =>
      { loop with
        aggregator := (loop.aggregator.removeKey key).2
        stage := .draining shutdown keys (out ++ (loop.aggregator.removeKey key).1) }
  | .continueDrain, .draining shutdown [] out =>
      if out = [] then { loop with stage := afterRound shutdown }
      else { loop with stage := .submitting shutdown (sortDescending qpc out) }
  | .submitReturns true, .submitting shutdown batch =>
      { loop with stage := afterRound shutdown, submitted := loop.submitted ++ batch }
  | .submitReturns false, .submitting true _ => { loop with stage := .stopped }
  | .submitReturns false, .submitting false batch =>
      { loop with
        aggregator := loop.aggregator.ingest agentId 0 batch
        stage := .waiting }
  | _, _ => loop

end PushLoop

/-! ### The loop without a part of its snapshots -/

section Map

variable {Snapshot Other : Type} (f : Snapshot → Other)

def DiagnosticAggregator.map (aggregator : DiagnosticAggregator Snapshot) :
    DiagnosticAggregator Other :=
  ⟨fun key => (aggregator.snapshots key).map f, aggregator.maxEntriesPerDll⟩

def PushStage.map : PushStage Snapshot → PushStage Other
  | .waiting => .waiting
  | .draining shutdown keys out => .draining shutdown keys (out.map f)
  | .submitting shutdown batch => .submitting shutdown (batch.map f)
  | .stopped => .stopped

def PushLoop.map (loop : PushLoop Snapshot) : PushLoop Other :=
  ⟨loop.aggregator.map f, loop.stage.map f, loop.submitted.map f⟩

def PushEvent.map : PushEvent Snapshot → PushEvent Other
  | .ingest agentId pid newSnapshots => .ingest agentId pid (newSnapshots.map f)
  | .startDrain shutdown keys => .startDrain shutdown keys
  | .continueDrain => .continueDrain
  | .submitReturns succeeds => .submitReturns succeeds

theorem DiagnosticAggregator.map_ingest (aggregator : DiagnosticAggregator Snapshot)
    (agentId : String) (pid : UInt32) (newSnapshots : List Snapshot) :
    (aggregator.ingest agentId pid newSnapshots).map f =
      (aggregator.map f).ingest agentId pid (newSnapshots.map f) := by
  simp only [map, ingest, appended, excess, ← List.map_append, List.length_map, mk.injEq,
    and_true]
  funext key
  by_cases same : key = snapshotKey agentId pid
  · rw [same, Function.update_self, Function.update_self, List.map_drop]
  · rw [Function.update_of_ne same, Function.update_of_ne same]

theorem DiagnosticAggregator.map_removeKey (aggregator : DiagnosticAggregator Snapshot)
    (key : String) :
    (aggregator.removeKey key).2.map f = ((aggregator.map f).removeKey key).2 := by
  simp only [map, removeKey, mk.injEq, and_true]
  funext other
  by_cases same : other = key
  · rw [same, Function.update_self, Function.update_self, List.map_nil]
  · rw [Function.update_of_ne same, Function.update_of_ne same]

theorem PushLoop.map_afterRound (shutdown : Bool) :
    (PushLoop.afterRound shutdown).map f = PushLoop.afterRound shutdown := by
  cases shutdown <;> rfl

/-- The loop only looks at the timestamps. -/
theorem PushLoop.map_next (qpc : Other → Nat) (agentId : String) (loop : PushLoop Snapshot)
    (event : PushEvent Snapshot) :
    (loop.next (fun snapshot => qpc (f snapshot)) agentId event).map f =
      (loop.map f).next qpc agentId (event.map f) := by
  rcases loop with ⟨aggregator, stage, submitted⟩
  cases event with
  | ingest reporter pid newSnapshots =>
      exact congrArg (PushLoop.mk · _ _) (aggregator.map_ingest f reporter pid newSnapshots)
  | startDrain shutdown keys => cases stage <;> rfl
  | continueDrain =>
      cases stage with
      | waiting => rfl
      | draining shutdown keys out =>
          cases keys with
          | nil =>
              by_cases empty : out = []
              · subst empty
                exact congrArg (PushLoop.mk _ · _) (map_afterRound f shutdown)
              · have notEmpty : out.map f ≠ [] := by simpa using empty
                simp only [next, map, PushStage.map, PushEvent.map, if_neg empty,
                  if_neg notEmpty, map_sortDescending]
          | cons key keys =>
              simp only [next, map, aggregator.map_removeKey f key, PushStage.map,
                List.map_append]
              rfl
      | submitting shutdown batch => rfl
      | stopped => rfl
  | submitReturns succeeds =>
      cases stage with
      | waiting => cases succeeds <;> rfl
      | draining shutdown keys out => cases succeeds <;> rfl
      | submitting shutdown batch =>
          cases succeeds with
          | true =>
              change PushLoop.mk (aggregator.map f) ((afterRound shutdown).map f)
                ((submitted ++ batch).map f) =
                PushLoop.mk (aggregator.map f) (afterRound shutdown)
                  (submitted.map f ++ batch.map f)
              rw [map_afterRound, List.map_append]
          | false =>
              cases shutdown with
              | true => rfl
              | false =>
                  exact congrArg (PushLoop.mk · _ _) (aggregator.map_ingest f agentId 0 batch)
      | stopped => cases succeeds <;> rfl

end Map

end DlpSystem.Agent
