import DlpSystem.Lib.Rfc3339
import DlpSystem.Lib.StableSort
import DlpSystem.Lib.UniqueTable
import DlpSystem.Server.SecretStore
import Mathlib.Data.String.Basic

/-!
# The syslog queue and its drain workers

`peek_and_claim` selects the eligible rows, leases them and selects them again.  Each of the
three statements commits by itself, so that those of several workers interleave.
-/

namespace DlpSystem.Server

open Lib

/-- A row of `syslog_queue`, with the columns of its retries. -/
structure SyslogRow extends QueueRow where
  createdAt : Int
  retryCount : Int
  lastError : String
  nextAttemptAt : String
  leasedUntil : String
  deriving DecidableEq

/-- `QueuedEvent`. -/
structure QueuedEvent where
  id : Int
  eventJson : String
  retryCount : Int
  lastError : String
  deriving DecidableEq

/-! ## Statements -/

/-- A row that may be sent at a time, given as text, and that nobody leases then. -/
def SyslogRow.eligible (now : String) (row : SyslogRow) : Bool :=
  (row.nextAttemptAt = "" || row.nextAttemptAt ≤ now) &&
    (row.leasedUntil = "" || row.leasedUntil ≤ now)

/-- The first statement: the ids of the oldest eligible rows. -/
def selectEligible (queue : List SyslogRow) (now : String) (batchSize : Nat) : List Int :=
  ((sortAscending SyslogRow.createdAt (queue.filter (SyslogRow.eligible now))).take batchSize).map
    fun row => row.id

/-- The second statement: it leases the rows of the ids, whatever their lease is. -/
def leaseRows (queue : List SyslogRow) (ids : List Int) (leaseUntil : String) : List SyslogRow :=
  queue.map fun row => if row.id ∈ ids then { row with leasedUntil := leaseUntil } else row

/-- A row as it is returned, decrypted. -/
def SyslogRow.event (gcm : Aes256Gcm) (crypto : SecretCrypto) (row : SyslogRow) :
    Except TrioError QueuedEvent := do
  let eventJson ← openTrio gcm crypto (aadFor "syslog_queue" "event_json")
    row.eventJsonEncrypted row.eventJsonNonce
  return ⟨row.id, eventJson, row.retryCount, row.lastError⟩

/-- The third statement: the rows of the ids. -/
def selectClaimed (gcm : Aes256Gcm) (crypto : SecretCrypto) (queue : List SyslogRow)
    (ids : List Int) : Except TrioError (List QueuedEvent) :=
  (sortAscending SyslogRow.createdAt (queue.filter fun row => row.id ∈ ids)).mapM
    (SyslogRow.event gcm crypto)

/-! ## Calls in progress -/

/-- How far a call of `peek_and_claim` has come. -/
inductive ClaimStage
  | started
  | selected (ids : List Int)
  | leased (ids : List Int)
  | returned (events : List QueuedEvent)
  | failed
  deriving DecidableEq

/-- A call, with its two readings of the clock: the time that rows are compared with, and the
end of the lease.  Times are nanoseconds since the start of 1970. -/
structure ClaimCall where
  now : Nat
  leaseUntil : Nat
  batchSize : Nat
  stage : ClaimStage
  deriving DecidableEq

/-- The queue and the calls of all workers. -/
structure DrainSystem where
  queue : List SyslogRow
  calls : List ClaimCall

/-- A worker calls, or the next statement of a call runs, which may fail. -/
inductive DrainStep
  | call (now leaseNow batchSize leaseDurationSecs : Nat)
  | advance (index : Nat) (fails : Bool)
  deriving DecidableEq

section Steps

variable (gcm : Aes256Gcm) (crypto : SecretCrypto) (toRfc3339 : Nat → String)

/-- The rows that the first statement of a call selects. -/
def ClaimCall.eligibleIds (queue : List SyslogRow) (call : ClaimCall) : List Int :=
  selectEligible queue (toRfc3339 call.now) call.batchSize

/-- The stage after the next statement of a call. -/
def ClaimCall.nextStage (queue : List SyslogRow) (call : ClaimCall) : ClaimStage :=
  match call.stage with
  | .started =>
      -- Without eligible rows the other statements are left out.
      if call.eligibleIds toRfc3339 queue = [] then .returned []
      else .selected (call.eligibleIds toRfc3339 queue)
  | .selected ids => .leased ids
  | .leased ids =>
      match selectClaimed gcm crypto queue ids with
      | .ok events => .returned events
      | .error _ => .failed
  | .returned events => .returned events
  | .failed => .failed

/-- The queue after the next statement of a call. -/
def ClaimCall.nextQueue (queue : List SyslogRow) (call : ClaimCall) : List SyslogRow :=
  match call.stage with
  | .selected ids => leaseRows queue ids (toRfc3339 call.leaseUntil)
  | _ => queue

/-- The stage after a statement has failed. -/
def ClaimStage.afterError : ClaimStage → ClaimStage
  | .returned events => .returned events
  | _ => .failed

/-- The effect of a step. -/
def DrainSystem.next (system : DrainSystem) : DrainStep → DrainSystem
  | .call now leaseNow batchSize leaseDurationSecs =>
      { system with
        calls := system.calls ++
          [⟨now, leaseNow + leaseDurationSecs * 1000000000, batchSize, .started⟩] }
  | .advance index fails =>
      match system.calls[index]? with
      | none => system
      | some call =>
          if fails then
            { system with
              calls := system.calls.set index { call with stage := call.stage.afterError } }
          else
            { queue := call.nextQueue toRfc3339 system.queue
              calls := system.calls.set index
                { call with stage := call.nextStage gcm crypto toRfc3339 system.queue } }

end Steps

/-! ## The drain loop of the syslog queue

A tick claims a batch of events, parses all of them and forwards them together.  What
happens then happens to the whole batch: it is deleted, scheduled for another attempt, or
marked as corrupt.
-/

/-! ### Statements of the repository -/

/-- `syslog_queue`.  `id` is the primary key. -/
abbrev SyslogTable := UniqueTable fun row : SyslogRow => row.id

namespace SyslogTable

/-- The lease that `peek_and_claim` sets. -/
def lease (table : SyslogTable) (ids : List Int) (leaseUntil : String) : SyslogTable :=
  table.update ids (fun row => { row with leasedUntil := leaseUntil }) fun _ => rfl

theorem lease_rows (table : SyslogTable) (ids : List Int) (leaseUntil : String) :
    (table.lease ids leaseUntil).rows = leaseRows table.rows ids leaseUntil :=
  rfl

/-- `mark_failed`. -/
def markFailed (table : SyslogTable) (id : Int) (error nextAttemptAt : String) : SyslogTable :=
  table.update [id] (fun row =>
    { row with
      retryCount := row.retryCount + 1
      lastError := error
      nextAttemptAt := nextAttemptAt }) fun _ => rfl

/-- `release_lease`. -/
def releaseLease (table : SyslogTable) (ids : List Int) : SyslogTable :=
  table.update ids (fun row => { row with leasedUntil := "" }) fun _ => rfl

/-- `count_ready`. -/
def countReady (table : SyslogTable) (now : String) : Nat :=
  table.rows.countP fun row => row.nextAttemptAt = "" || row.nextAttemptAt ≤ now

end SyslogTable

/-- Why `enqueue` leaves an event out. -/
inductive EnqueueError
  | atCapacity (maxSize : Int)
  | encrypt (error : CryptoError)
  deriving DecidableEq

/-- `enqueue`, with the nonce that it draws, its time in seconds and the id that the row
gets. -/
def SyslogTable.enqueue (gcm : Aes256Gcm) (table : SyslogTable) (id createdAt : Int) (nonce : Nonce)
    (eventJson : String) (crypto : SecretCrypto) (maxSize : Int) :
    Except EnqueueError SyslogTable :=
  if maxSize ≤ table.rows.length then .error (.atCapacity maxSize)
  else
    match crypto.encrypt gcm nonce (utf8 eventJson) (aadFor "syslog_queue" "event_json") with
    | .error error => .error (.encrypt error)
    | .ok envelope =>
        .ok (table.insertIgnore (fun _ => true)
          { id := id
            eventJsonEncrypted := envelope.ciphertext
            eventJsonNonce := envelope.nonce.bytes
            createdAt := createdAt
            retryCount := 0
            lastError := ""
            nextAttemptAt := ""
            leasedUntil := "" })

/-! ### Backoff

Times are nanoseconds since the start of 1970. -/

/-- `Utc::now().to_rfc3339()`. -/
def utcText (now : Nat) : String :=
  rfc3339 (utcTime now)

/-- `syslog_backoff`.  The jitter is taken from the clock. -/
def syslogBackoff (consecutiveFailures : UInt32) (clock : Nat) : Nat :=
  let exp := min consecutiveFailures.toNat 6
  let delay := min (1 * 2 ^ exp) 60
  let jitter := clock % 1000000000 % 500000000
  delay * 1000000000 + jitter

/-- `compute_next_attempt`, which reads the clock twice. -/
def computeNextAttempt (consecutiveFailures : UInt32) (clock now : Nat) : String :=
  utcText (now + syslogBackoff consecutiveFailures clock)

/-! ### Ticks -/

/-- Where the database fails in `peek_and_claim`. -/
inductive ClaimFault
  | beforeLease
  | afterLease
  deriving DecidableEq

/-- What a tick meets.  `markFails` says of which rows the transaction of `mark_failed`
fails. -/
structure DrainTick where
  countFails : Bool
  countReadyFails : Bool
  countReadyAt : Nat
  crypto : SecretCrypto
  claimAt : Nat
  leaseAt : Nat
  claimFault : Option ClaimFault
  markFails : Int → Bool
  forwarding : Except String Unit
  deleteFails : Bool
  jitterClock : Nat
  rescheduleAt : Nat
  rescheduleFails : Bool

/-- What the loop holds between two ticks. -/
structure DrainState where
  queue : SyslogTable
  consecutiveFailures : UInt32

def drainBatchSize : Nat := 100

def drainLeaseSecs : Nat := 300

/-- When a corrupt event is tried again. -/
def farFuture : String := "2099-01-01T00:00:00Z"

section Ticks

variable {Event : Type} (gcm : Aes256Gcm) (parse : String → Except String Event)

/-- The ids of the rows that a tick finds eligible. -/
def DrainTick.eligibleIds (tick : DrainTick) (queue : SyslogTable) : List Int :=
  selectEligible queue.rows (utcText tick.claimAt) drainBatchSize

/-- The queue with the lease of a tick. -/
def DrainTick.leased (tick : DrainTick) (queue : SyslogTable) : SyslogTable :=
  queue.lease (tick.eligibleIds queue)
    (utcText (tick.leaseAt + drainLeaseSecs * 1000000000))

/-- `peek_and_claim`.  Without a result it has failed; then the lease stays if it was set. -/
def peekAndClaim (queue : SyslogTable) (tick : DrainTick) :
    SyslogTable × Option (List QueuedEvent) :=
  if tick.claimFault = some .beforeLease then (queue, none)
  else if tick.eligibleIds queue = [] then (queue, some [])
  else if tick.claimFault = some .afterLease then (tick.leased queue, none)
  else
    (tick.leased queue,
      (selectClaimed gcm tick.crypto (tick.leased queue).rows (tick.eligibleIds queue)).toOption)

/-- The loop that marks every event of a batch as corrupt, each in a transaction of its
own. -/
def markCorrupt (queue : SyslogTable) (batch : List QueuedEvent) (markFails : Int → Bool) :
    SyslogTable :=
  batch.foldl (fun queue event =>
    if markFails event.id then queue
    else queue.markFailed event.id "deserialization error" farFuture) queue

/-- The transaction that schedules a batch for another attempt. -/
def reschedule (queue : SyslogTable) (batch : List QueuedEvent) (error nextAttempt : String) :
    SyslogTable :=
  SyslogTable.releaseLease
    (batch.foldl (fun queue event => queue.markFailed event.id error nextAttempt) queue)
    (batch.map QueuedEvent.id)

/-- A tick of the loop, and the events that it forwards. -/
def DrainState.tick (state : DrainState) (tick : DrainTick) : DrainState × List Event :=
  if tick.countFails || state.queue.rows.length = 0 then
    ({ state with consecutiveFailures := 0 }, [])
  else if tick.countReadyFails || state.queue.countReady (utcText tick.countReadyAt) = 0 then
    (state, [])
  else
    match peekAndClaim gcm state.queue tick with
    | (queue, none) => (⟨queue, state.consecutiveFailures + 1⟩, [])
    | (queue, some batch) =>
        if batch = [] then (⟨queue, 0⟩, [])
        else
          match batch.mapM fun event => parse event.eventJson with
          | .error _ => (⟨markCorrupt queue batch tick.markFails, state.consecutiveFailures⟩, [])
          | .ok events =>
              match tick.forwarding with
              | .ok () =>
                  -- Events that cannot be deleted are forwarded again later.
                  (⟨if tick.deleteFails then queue else queue.delete (batch.map QueuedEvent.id),
                    0⟩, events)
              | .error error =>
                  let nextAttempt := computeNextAttempt state.consecutiveFailures
                    tick.jitterClock tick.rescheduleAt
                  (⟨if tick.rescheduleFails then queue
                    else reschedule queue batch error nextAttempt,
                    state.consecutiveFailures + 1⟩, [])

/-! ### Runs -/

/-- A tick, or what happens to the queue between ticks: an event is queued, or the rotation
of the KEK writes the encrypted columns of a row. -/
inductive DrainEvent
  | tick (tick : DrainTick)
  | enqueue (id createdAt : Int) (nonce : Nonce) (eventJson : String) (crypto : SecretCrypto)
      (maxSize : Int)
  | reencrypt (id : Int) (eventJsonEncrypted eventJsonNonce : List UInt8)

/-- The effect of an event on the loop and the queue. -/
def DrainState.next (state : DrainState) : DrainEvent → DrainState
  | .tick tick => (state.tick gcm parse tick).1
  | .enqueue id createdAt nonce eventJson crypto maxSize =>
      match SyslogTable.enqueue gcm state.queue id createdAt nonce eventJson crypto maxSize with
      | .error _ => state
      | .ok queue => { state with queue := queue }
  | .reencrypt id eventJsonEncrypted eventJsonNonce =>
      { state with
        queue := state.queue.update [id] (fun row =>
          { row with
            eventJsonEncrypted := eventJsonEncrypted
            eventJsonNonce := eventJsonNonce }) fun _ => rfl }

end Ticks

end DlpSystem.Server
