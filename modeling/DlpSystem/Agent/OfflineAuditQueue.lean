import Mathlib.Data.List.Sort
import DlpSystem.Audit.LocalLog

/-!
# The offline audit queue

The SQLite table in which the agent keeps events that it could not send.  Rows
have the time of their insertion in seconds and are read back in that order.
-/

namespace DlpSystem.Agent

open Audit

/-- A row of `offline_audit_queue`.  DPAPI and the retry count, which nothing reads,
are left out of it. -/
structure QueueRow where
  id : Nat
  eventJson : String
  createdAt : Int
  deriving DecidableEq

/-- The table, rows in the order of their ids, and the next id. -/
structure OfflineQueue where
  rows : List QueueRow
  nextId : Nat

/-- `DEFAULT_MAX_QUEUE_SIZE`. -/
def defaultMaxQueueSize : Nat := 10000

/-- `DEFAULT_BATCH_SIZE`. -/
def defaultBatchSize : Nat := 100

/-- `OfflineQueueError`. -/
inductive OfflineQueueError
  | atCapacity (maxSize : Nat)
  | encrypt
  | decrypt
  | database
  deriving DecidableEq

/-- What DPAPI, the database and the clock do in one `enqueue`. -/
structure InsertOutcome where
  countFails : Bool
  encryptFails : Bool
  now : Int
  insertFails : Bool

/-- `enqueue`. -/
def enqueue (queue : OfflineQueue) (eventJson : String) (maxSize : Nat)
    (outcome : InsertOutcome) : Except OfflineQueueError OfflineQueue :=
  if outcome.countFails then .error .database
  else if maxSize ≤ queue.rows.length then .error (.atCapacity maxSize)
  else if outcome.encryptFails then .error .encrypt
  else if outcome.insertFails then .error .database
  else .ok ⟨queue.rows ++ [⟨queue.nextId, eventJson, outcome.now⟩], queue.nextId + 1⟩

/-- `enqueue_with_overflow_event`. -/
def enqueueWithOverflowEvent (json : EventJson) (queue : OfflineQueue) (event : AuditEvent)
    (maxSize : Nat) (outcome : InsertOutcome) : Except OfflineQueueError OfflineQueue :=
  match json.toJson event with
  | none => .error .encrypt
  | some eventJson => enqueue queue eventJson maxSize outcome

/-- `delete`. -/
def OfflineQueue.delete (queue : OfflineQueue) (ids : List Nat) : OfflineQueue :=
  { queue with rows := queue.rows.filter fun row => row.id ∉ ids }

/-- `ORDER BY created_at`.  The index on that column orders equal times by id. -/
def NotLater (first second : QueueRow) : Prop :=
  first.createdAt ≤ second.createdAt

instance : DecidableRel NotLater :=
  fun first second => inferInstanceAs (Decidable (first.createdAt ≤ second.createdAt))

/-- What the database and DPAPI do in one `drain`. -/
structure DrainOutcome where
  queryFails : Bool
  corrupt : Nat → Bool
  deleteFails : Bool

/-- `drain`: the ids and texts of the oldest rows.  Corrupt ones among them are
deleted. -/
def drain (queue : OfflineQueue) (batchSize : Nat) (outcome : DrainOutcome) :
    Except OfflineQueueError (List (Nat × String) × OfflineQueue) :=
  let oldest := (queue.rows.insertionSort NotLater).take batchSize
  let corruptIds := (oldest.filter fun row => outcome.corrupt row.id).map QueueRow.id
  let results := oldest.filter fun row => !outcome.corrupt row.id
  if outcome.queryFails then .error .database
  else if corruptIds ≠ [] ∧ outcome.deleteFails then .error .database
  else .ok (results.map fun row => (row.id, row.eventJson), queue.delete corruptIds)

/-! ## What an operation can do -/

/-- The events of some rows. -/
def rowEvents (json : EventJson) (rows : List QueueRow) : List AuditEvent :=
  rows.filterMap fun row => json.fromJson row.eventJson

theorem rowEvents_append (json : EventJson) (first second : List QueueRow) :
    rowEvents json (first ++ second) = rowEvents json first ++ rowEvents json second :=
  List.filterMap_append

theorem rowEvents_sublist {json : EventJson} {first second : List QueueRow}
    (sublist : first.Sublist second) : (rowEvents json first).Sublist (rowEvents json second) :=
  sublist.filterMap _

theorem enqueue_eq_ok {queue after : OfflineQueue} {eventJson : String} {maxSize : Nat}
    {outcome : InsertOutcome} (inserted : enqueue queue eventJson maxSize outcome = .ok after) :
    after = ⟨queue.rows ++ [⟨queue.nextId, eventJson, outcome.now⟩], queue.nextId + 1⟩ ∧
      outcome.insertFails = false := by
  unfold enqueue at inserted
  split at inserted
  · exact absurd inserted (by simp)
  · split at inserted
    · exact absurd inserted (by simp)
    · split at inserted
      · exact absurd inserted (by simp)
      · split at inserted
        · exact absurd inserted (by simp)
        · rename_i accepted
          exact ⟨(Except.ok.inj inserted).symm, Bool.eq_false_of_not_eq_true accepted⟩

/-- Deleting the corrupt ones among the first rows leaves the others in front. -/
theorem prefix_delete_corrupt (queue : OfflineQueue) (corrupt : Nat → Bool) (count : Nat) :
    ((queue.rows.take count).filter fun row => !corrupt row.id) <+:
      (queue.delete
        (((queue.rows.take count).filter fun row => corrupt row.id).map QueueRow.id)).rows := by
  have kept : ∀ row ∈ queue.rows.take count,
      (!corrupt row.id) = decide (row.id ∉
        ((queue.rows.take count).filter fun row => corrupt row.id).map QueueRow.id) := by
    intro row member
    cases isCorrupt : corrupt row.id with
    | true =>
        have listed : row.id ∈
            ((queue.rows.take count).filter fun row => corrupt row.id).map QueueRow.id :=
          List.mem_map.mpr ⟨row, List.mem_filter.mpr ⟨member, isCorrupt⟩, rfl⟩
        rw [decide_eq_false (not_not_intro listed)]
        rfl
    | false =>
        have unlisted : row.id ∉
            ((queue.rows.take count).filter fun row => corrupt row.id).map QueueRow.id := by
          intro listed
          rcases List.mem_map.mp listed with ⟨other, inside, same⟩
          have isOther := (List.mem_filter.mp inside).2
          rw [same, isCorrupt] at isOther
          exact absurd isOther (by simp)
        rw [decide_eq_true unlisted]
        rfl
  rw [List.filter_congr kept]
  exact (List.take_prefix count queue.rows).filter _

/-- A table in the order of its times is read from the front, and what is read stays
at the front. -/
theorem drain_eq_ok {queue after : OfflineQueue} {batchSize : Nat} {outcome : DrainOutcome}
    {batch : List (Nat × String)} (sorted : queue.rows.Pairwise NotLater)
    (drained : drain queue batchSize outcome = .ok (batch, after)) :
    after.rows.Sublist queue.rows ∧
      ∃ read, read <+: after.rows ∧ batch = read.map fun row => (row.id, row.eventJson) := by
  unfold drain at drained
  rw [sorted.insertionSort_eq] at drained
  simp only at drained
  split at drained
  · exact absurd drained (by simp)
  · split at drained
    · exact absurd drained (by simp)
    · rcases Prod.mk.inj (Except.ok.inj drained) with ⟨isBatch, isAfter⟩
      rw [← isAfter]
      exact ⟨List.filter_sublist, _, prefix_delete_corrupt queue outcome.corrupt batchSize,
        isBatch.symm⟩

end DlpSystem.Agent
