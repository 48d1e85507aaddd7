import DlpSystem.Agent.OfflineAuditQueue

/-!
# The relay of audit events to the server

`emit_audit` stamps an event and hands it to the `AuditBuffer`.  The flush task
sends the buffer and diverts it to the offline queue when the send fails; every
successful heartbeat drains that queue.  Calls, flush task and heartbeat
interleave at the locks they take and at their requests to the server.
-/

namespace DlpSystem.Agent

open Audit

/-- A call of `emit_audit` behind `EMITTER.emit`: its event, and whether it found a
buffer once it has looked for one. -/
structure Caller where
  event : AuditEvent
  foundBuffer : Option Bool

/-- Where the flush task is, with the batch it holds. -/
inductive FlushPhase
  | idle
  | sending (events : List AuditEvent)
  | diverting (events : List AuditEvent)

/-- Where the heartbeat is in its drain, under the drain lock. -/
inductive DrainPhase
  | idle
  | sending (batch : List (Nat × String))
  | deleting (ids : List Nat)

/-- The agent, and what the server has stored for it. -/
structure RelayState where
  emitted : List AuditEvent
  callers : List Caller
  bufferSet : Bool
  buffer : List AuditEvent
  flush : FlushPhase
  queue : OfflineQueue
  drain : DrainPhase
  delivered : List AuditEvent

def RelayState.initial : RelayState :=
  ⟨[], [], false, [], .idle, ⟨[], 1⟩, .idle, []⟩

/-- A request to the server is stored and answered, stored while its answer is lost,
or not stored. -/
inductive SendOutcome
  | acknowledged
  | unacknowledged
  | failed

section Operations

variable (json : EventJson)

/-- The end of `emit_audit`: the event goes to the buffer, or to the offline queue by
a call that found no buffer.  A full queue makes the emitter log an overflow event,
which is not relayed. -/
def RelayState.relay (state : RelayState) (caller : Nat) (databaseReady : Bool)
    (outcome : InsertOutcome) (overflow : AuditEvent) : RelayState :=
  match state.callers[caller]? with
  | some ⟨event, some true⟩ =>
      { state with callers := state.callers.eraseIdx caller, buffer := state.buffer ++ [event] }
  | some ⟨event, some false⟩ =>
      let state := { state with callers := state.callers.eraseIdx caller }
      if databaseReady then
        match enqueueWithOverflowEvent json state.queue event defaultMaxQueueSize outcome with
        | .ok queue => { state with queue }
        | .error (.atCapacity _) => { state with emitted := state.emitted ++ [overflow] }
        | .error _ => state
      else state
  | _ => state

/-- The loop of `flush` over a batch that was not sent. -/
def divert : OfflineQueue → List AuditEvent → (Nat → InsertOutcome) → OfflineQueue
  | queue, [], _ => queue
  | queue, event :: rest, outcomes =>
      let after :=
        match json.toJson event with
        | none => queue
        | some eventJson =>
            match enqueue queue eventJson defaultMaxQueueSize (outcomes 0) with
            | .ok after => after
            | .error _ => queue
      divert after rest fun index => outcomes (index + 1)

/-- The request of `flush`. -/
def RelayState.flushSend (state : RelayState) (outcome : SendOutcome) : RelayState :=
  match state.flush with
  | .sending events =>
      match outcome with
      | .acknowledged => { state with flush := .idle, delivered := state.delivered ++ events }
      | .unacknowledged =>
          { state with flush := .diverting events, delivered := state.delivered ++ events }
      | .failed => { state with flush := .diverting events }
  | _ => state

/-- `flush` after a failed request. -/
def RelayState.flushDivert (state : RelayState) (databaseReady : Bool)
    (outcomes : Nat → InsertOutcome) : RelayState :=
  match state.flush with
  | .diverting events =>
      { state with
        flush := .idle
        queue := if databaseReady then divert json state.queue events outcomes else state.queue }
  | _ => state

/-- The heartbeat reads a batch. -/
def RelayState.drainRead (state : RelayState) (outcome : DrainOutcome) : RelayState :=
  match state.drain with
  | .idle =>
      if state.queue.rows = [] then state
      else
        match Agent.drain state.queue defaultBatchSize outcome with
        | .error _ => state
        | .ok ([], queue) => { state with queue }
        | .ok (batch, queue) => { state with queue, drain := .sending batch }
  | _ => state

/-- `send_audit_events_json`.  The server refuses a batch with a text that it cannot
parse. -/
def RelayState.drainSend (state : RelayState) (outcome : SendOutcome) : RelayState :=
  match state.drain with
  | .sending batch =>
      match outcome, batch.mapM fun entry => json.fromJson entry.2 with
      | .acknowledged, some events =>
          { state with
            drain := .deleting (batch.map Prod.fst), delivered := state.delivered ++ events }
      | .unacknowledged, some events =>
          { state with drain := .idle, delivered := state.delivered ++ events }
      | _, _ => { state with drain := .idle }
  | _ => state

/-- The heartbeat deletes what the server has acknowledged. -/
def RelayState.drainDelete (state : RelayState) (succeeds : Bool) : RelayState :=
  match state.drain with
  | .deleting ids =>
      { state with
        drain := .idle
        queue := if succeeds then state.queue.delete ids else state.queue }
  | _ => state

/-- What happens in the agent. -/
inductive RelayEvent
  | setBuffer
  | emit (event : AuditEvent)
  | look (caller : Nat)
  | relay (caller : Nat) (databaseReady : Bool) (outcome : InsertOutcome) (overflow : AuditEvent)
  | flushTake
  | flushSend (outcome : SendOutcome)
  | flushDivert (databaseReady : Bool) (outcomes : Nat → InsertOutcome)
  | drainRead (outcome : DrainOutcome)
  | drainSend (outcome : SendOutcome)
  | drainDelete (succeeds : Bool)

/-- One event. -/
def RelayState.next (state : RelayState) : RelayEvent → RelayState
  | .setBuffer => { state with bufferSet := true }
  | .emit event =>
      { state with emitted := state.emitted ++ [event], callers := state.callers ++ [⟨event, none⟩] }
  | .look caller =>
      { state with
        callers := state.callers.modify caller fun call =>
          { call with foundBuffer := call.foundBuffer.or (some state.bufferSet) } }
  | .relay caller databaseReady outcome overflow =>
      state.relay json caller databaseReady outcome overflow
  | .flushTake =>
      match state.flush, state.buffer with
      | .idle, first :: rest => { state with buffer := [], flush := .sending (first :: rest) }
      | _, _ => state
  | .flushSend outcome => state.flushSend outcome
  | .flushDivert databaseReady outcomes => state.flushDivert json databaseReady outcomes
  | .drainRead outcome => state.drainRead outcome
  | .drainSend outcome => state.drainSend json outcome
  | .drainDelete succeeds => state.drainDelete succeeds

end Operations

end DlpSystem.Agent
