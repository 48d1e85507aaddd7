import DlpSystem.Agent.AuditRelay

/-!
# The order in which events arrive

Between the emitter and the server an event passes the offline queue, the batch of
the flush task, the buffer and the hands of its caller.  Read in this order they
hold what is still to come as long as nothing overtakes: that is what
`RelayInvariant` says and what a `Prompt` step respects.
-/

namespace DlpSystem.Audit

open Agent Lib

/-! ## The property and the condition -/

/-- The server has stored a subsequence of what was emitted. -/
def DeliveredInOrder (state : RelayState) : Prop :=
  state.delivered.Sublist state.emitted

instance (state : RelayState) : Decidable (DeliveredInOrder state) :=
  inferInstanceAs (Decidable (List.Sublist _ _))

/-- The batch of the flush task. -/
def heldByFlush : FlushPhase → List AuditEvent
  | .idle => []
  | .sending events => events
  | .diverting events => events

/-- The rows that the server has acknowledged and the heartbeat is about to delete. -/
def acknowledgedIds : DrainPhase → List Nat
  | .deleting ids => ids
  | _ => []

/-- The rows that are still to be sent. -/
def undelivered (state : RelayState) : List QueueRow :=
  (state.queue.delete (acknowledgedIds state.drain)).rows

/-- The insertions of a loop, as far as they come to pass, are not dated before a row
that waits, nor before one another. -/
def ClockForward (rows : List QueueRow) (outcomes : Nat → InsertOutcome) (count : Nat) : Prop :=
  (∀ row ∈ rows, ∀ index < count, (outcomes index).insertFails = false →
    row.createdAt ≤ (outcomes index).now) ∧
  ∀ first second, first < second → second < count → (outcomes first).insertFails = false →
    (outcomes second).insertFails = false → (outcomes first).now ≤ (outcomes second).now

/-- The steps by which no event overtakes another.  A call hands its event over in the
order of the emitter, and to the queue only while buffer and flush task are empty; a
flush reaches the server only while no row waits; the clock does not go back; and
what the server has stored is acknowledged and deleted. -/
def Prompt (state : RelayState) : RelayEvent → Prop
  | .relay caller _ outcome _ => ∀ call ∈ state.callers[caller]?,
      (call.foundBuffer ≠ none → caller = 0) ∧
        (call.foundBuffer = some false → state.buffer = [] ∧ heldByFlush state.flush = [] ∧
          ClockForward (undelivered state) (fun _ => outcome) 1)
  | .flushSend outcome => ∀ events, state.flush = .sending events →
      match outcome with
      | .acknowledged => undelivered state = []
      | .unacknowledged => False
      | .failed => True
  | .flushDivert _ outcomes => ∀ events, state.flush = .diverting events →
      ClockForward (undelivered state) outcomes events.length
  | .drainSend outcome => ∀ batch, state.drain = .sending batch → outcome ≠ .unacknowledged
  | .drainDelete succeeds => ∀ ids, state.drain = .deleting ids → succeeds = true
  | _ => True

/-! ## The invariant -/

/-- Everything between emitter and server, in the order in which it is to arrive. -/
def backlog (json : EventJson) (state : RelayState) : List AuditEvent :=
  rowEvents json (undelivered state) ++ (heldByFlush state.flush ++ (state.buffer ++
    state.callers.map Caller.event))

/-- What is delivered and what is to come are in the order of the emitter; the rows are
in the order of their times; a batch that is being sent stands in front of the queue. -/
structure RelayInvariant (json : EventJson) (state : RelayState) : Prop where
  order : (state.delivered ++ backlog json state).Sublist state.emitted
  sorted : (undelivered state).Pairwise NotLater
  batch : ∀ batch, state.drain = .sending batch → ∃ read, read <+: state.queue.rows ∧
    batch = read.map fun row => (row.id, row.eventJson)

section Invariant

variable {json : EventJson} {state : RelayState}

theorem relayInvariant_initial : RelayInvariant json RelayState.initial := by
  constructor
  · exact List.Sublist.refl _
  · exact List.Pairwise.nil
  · intro batch isSending
    cases isSending

theorem RelayInvariant.deliveredInOrder (invariant : RelayInvariant json state) :
    DeliveredInOrder state :=
  (List.sublist_append_left _ _).trans invariant.order

/-- A step that changes neither the rows nor the batch has to keep the order only. -/
theorem RelayInvariant.of_order {after : RelayState} (invariant : RelayInvariant json state)
    (sameQueue : after.queue = state.queue) (sameDrain : after.drain = state.drain)
    (order : (after.delivered ++ backlog json after).Sublist after.emitted) :
    RelayInvariant json after where
  order := order
  sorted := by
    rw [undelivered, sameQueue, sameDrain]
    exact invariant.sorted
  batch := by
    rw [sameQueue, sameDrain]
    exact invariant.batch

theorem delete_nil (queue : OfflineQueue) : (queue.delete []).rows = queue.rows := by
  simp [OfflineQueue.delete]

/-- New rows are at most added to the rows that wait. -/
theorem delete_append_sublist {queue after : OfflineQueue} {added : List QueueRow}
    (appended : after.rows = queue.rows ++ added) (ids : List Nat) :
    (after.delete ids).rows.Sublist ((queue.delete ids).rows ++ added) := by
  rw [OfflineQueue.delete, appended, List.filter_append]
  exact (List.Sublist.refl _).append List.filter_sublist

/-! ## Calls -/

theorem map_event_modify (callers : List Caller) (index : Nat) (found : Bool) :
    (callers.modify index fun call =>
        { call with foundBuffer := call.foundBuffer.or (some found) }).map Caller.event =
      callers.map Caller.event := by
  induction callers generalizing index with
  | nil => simp
  | cons call rest ih =>
      cases index with
      | zero => simp
      | succ index => rw [List.modify_succ_cons, List.map_cons, List.map_cons, ih]

theorem RelayInvariant.emit (invariant : RelayInvariant json state) (event : AuditEvent) :
    RelayInvariant json (state.next json (.emit event)) := by
  apply invariant.of_order
  · rfl
  · rfl
  have appended : backlog json (state.next json (.emit event)) = backlog json state ++ [event] := by
    simp [backlog, RelayState.next, undelivered]
  rw [appended, ← List.append_assoc]
  exact invariant.order.append (List.Sublist.refl [event])

theorem RelayInvariant.look (invariant : RelayInvariant json state) (caller : Nat) :
    RelayInvariant json (state.next json (.look caller)) := by
  apply invariant.of_order
  · rfl
  · rfl
  have unchanged : backlog json (state.next json (.look caller)) = backlog json state := by
    simp only [backlog, RelayState.next, undelivered, map_event_modify]
  rw [unchanged]
  exact invariant.order

/-- Rows that are inserted for the first events behind the queue keep the order. -/
theorem RelayInvariant.insert {after : RelayState} {added : List QueueRow}
    {inserted rest : List AuditEvent} (invariant : RelayInvariant json state)
    (appended : after.queue.rows = state.queue.rows ++ added)
    (sameDrain : after.drain = state.drain)
    (sorted : (undelivered state ++ added).Pairwise NotLater)
    (events : (rowEvents json added).Sublist inserted)
    (before : backlog json state = rowEvents json (undelivered state) ++ (inserted ++ rest))
    (behind : heldByFlush after.flush ++ (after.buffer ++ after.callers.map Caller.event) = rest)
    (delivered : after.delivered = state.delivered) (emitted : after.emitted = state.emitted) :
    RelayInvariant json after := by
  have rows : (undelivered after).Sublist (undelivered state ++ added) := by
    rw [undelivered, sameDrain]
    exact delete_append_sublist appended _
  have moved : (rowEvents json (undelivered after)).Sublist
      (rowEvents json (undelivered state) ++ inserted) := by
    apply (rowEvents_sublist rows).trans
    rw [rowEvents_append]
    exact (List.Sublist.refl _).append events
  constructor
  · have order := invariant.order
    rw [before, ← List.append_assoc (rowEvents json (undelivered state))] at order
    rw [delivered, emitted, backlog, behind]
    exact ((List.Sublist.refl _).append (moved.append (List.Sublist.refl rest))).trans order
  · exact sorted.sublist rows
  · intro batch isSending
    rw [sameDrain] at isSending
    rcases invariant.batch batch isSending with ⟨read, isPrefix, isBatch⟩
    exact ⟨read, appended ▸ isPrefix.trans (List.prefix_append _ _), isBatch⟩

/-- A queue that took one event. -/
theorem enqueueWithOverflowEvent_eq_ok {queue after : OfflineQueue} {event : AuditEvent}
    {maxSize : Nat} {outcome : InsertOutcome}
    (inserted : enqueueWithOverflowEvent json queue event maxSize outcome = .ok after) :
    ∃ row, after.rows = queue.rows ++ [row] ∧ rowEvents json [row] = [event] ∧
      row.createdAt = outcome.now ∧ outcome.insertFails = false := by
  unfold enqueueWithOverflowEvent at inserted
  split at inserted
  · exact absurd inserted (by simp)
  · rename_i eventJson printed
    rcases enqueue_eq_ok inserted with ⟨rfl, took⟩
    have read : rowEvents json [⟨queue.nextId, eventJson, outcome.now⟩] = [event] := by
      simp [rowEvents, json.fromJson_toJson printed]
    exact ⟨_, rfl, read, rfl, took⟩

/-- Without the call in front the rest is still in order. -/
theorem RelayInvariant.drop_caller {call : Caller} {rest : List Caller} {emitted : List AuditEvent}
    (invariant : RelayInvariant json state) (callers : state.callers = call :: rest)
    (longer : state.emitted.Sublist emitted) :
    RelayInvariant json { state with callers := rest, emitted := emitted } := by
  apply invariant.of_order
  · rfl
  · rfl
  have fewer : (rest.map Caller.event).Sublist (state.callers.map Caller.event) := by
    rw [callers]
    exact List.sublist_cons_self _ _
  apply List.Sublist.trans _ (invariant.order.trans longer)
  exact (List.Sublist.refl _).append ((List.Sublist.refl _).append ((List.Sublist.refl _).append
    ((List.Sublist.refl _).append fewer)))

theorem ClockForward.sorted_append {rows : List QueueRow} {row : QueueRow}
    {outcomes : Nat → InsertOutcome} {count : Nat}
    (forward : ClockForward rows outcomes (count + 1)) (sorted : rows.Pairwise NotLater)
    (dated : row.createdAt = (outcomes 0).now) (took : (outcomes 0).insertFails = false) :
    (rows ++ [row]).Pairwise NotLater := by
  have behind : ∀ earlier ∈ rows, ∀ later ∈ [row], NotLater earlier later := by
    intro earlier member later isRow
    cases List.mem_singleton.mp isRow
    rw [NotLater, dated]
    exact forward.1 earlier member 0 (Nat.succ_pos count) took
  exact List.pairwise_append.mpr ⟨sorted, List.pairwise_singleton _ _, behind⟩

/-- The rest of a loop that did not insert its first event. -/
theorem ClockForward.tail {rows : List QueueRow} {outcomes : Nat → InsertOutcome} {count : Nat}
    (forward : ClockForward rows outcomes (count + 1)) :
    ClockForward rows (fun index => outcomes (index + 1)) count := by
  constructor
  · intro row member index below
    exact forward.1 row member (index + 1) (Nat.succ_lt_succ below)
  · intro first second less below
    exact forward.2 (first + 1) (second + 1) (Nat.succ_lt_succ less) (Nat.succ_lt_succ below)

/-- The rest of a loop that inserted its first event. -/
theorem ClockForward.tail_append {rows : List QueueRow} {row : QueueRow}
    {outcomes : Nat → InsertOutcome} {count : Nat}
    (forward : ClockForward rows outcomes (count + 1))
    (dated : row.createdAt = (outcomes 0).now) (took : (outcomes 0).insertFails = false) :
    ClockForward (rows ++ [row]) (fun index => outcomes (index + 1)) count := by
  constructor
  · intro other member index below later
    rcases List.mem_append.mp member with old | new
    · exact forward.tail.1 other old index below later
    · cases List.mem_singleton.mp new
      rw [dated]
      exact forward.2 0 (index + 1) (Nat.succ_pos index) (Nat.succ_lt_succ below) took later
  · exact forward.tail.2

theorem RelayInvariant.relay {caller : Nat} {databaseReady : Bool} {outcome : InsertOutcome}
    {overflow : AuditEvent} (invariant : RelayInvariant json state)
    (prompt : Prompt state (.relay caller databaseReady outcome overflow)) :
    RelayInvariant json (state.relay json caller databaseReady outcome overflow) := by
  unfold RelayState.relay
  split
  · rename_i event found
    rcases prompt _ found with ⟨isFirst, _⟩
    cases isFirst (by simp)
    rcases List.head?_eq_some_iff.mp (List.head?_eq_getElem? ▸ found) with ⟨rest, callers⟩
    apply invariant.of_order
    · rfl
    · rfl
    have moved : backlog json { state with
        callers := state.callers.eraseIdx 0, buffer := state.buffer ++ [event] } =
          backlog json state := by
      simp [backlog, undelivered, callers]
    rw [moved]
    exact invariant.order
  · rename_i event found
    rcases prompt _ found with ⟨isFirst, toQueue⟩
    cases isFirst (by simp)
    rcases List.head?_eq_some_iff.mp (List.head?_eq_getElem? ▸ found) with ⟨rest, callers⟩
    rcases toQueue rfl with ⟨noBuffer, noFlush, forward⟩
    have dropped := invariant.drop_caller callers (List.Sublist.refl _)
    have erased : state.callers.eraseIdx 0 = rest := by rw [callers]; rfl
    rw [erased]
    simp only
    split
    · split
      · rename_i queue inserted
        rcases enqueueWithOverflowEvent_eq_ok inserted with ⟨row, appended, events, dated, took⟩
        have sublist : (rowEvents json [row]).Sublist [event] := by
          rw [events]
        have before : backlog json state =
            rowEvents json (undelivered state) ++ ([event] ++ rest.map Caller.event) := by
          simp [backlog, noBuffer, noFlush, callers]
        have behind : heldByFlush state.flush ++ (state.buffer ++ rest.map Caller.event) =
            rest.map Caller.event := by
          rw [noBuffer, noFlush]
          rfl
        exact invariant.insert appended rfl (forward.sorted_append invariant.sorted dated took)
          sublist before behind rfl rfl
      · exact invariant.drop_caller callers (List.sublist_append_left _ _)
      · exact dropped
    · exact dropped
  · exact invariant

/-! ## The flush task -/

theorem RelayInvariant.flushTake (invariant : RelayInvariant json state) :
    RelayInvariant json (state.next json .flushTake) := by
  unfold RelayState.next
  simp only
  split
  · rename_i idle buffered
    apply invariant.of_order
    · rfl
    · rfl
    have order := invariant.order
    simp only [backlog, idle, buffered, heldByFlush, List.nil_append] at order
    exact order
  · exact invariant

theorem RelayInvariant.flushSend {outcome : SendOutcome} (invariant : RelayInvariant json state)
    (prompt : Prompt state (.flushSend outcome)) :
    RelayInvariant json (state.flushSend outcome) := by
  unfold RelayState.flushSend
  split
  · rename_i events sending
    have allowed := prompt events sending
    have order := invariant.order
    cases outcome with
    | acknowledged =>
        have noRow : undelivered state = [] := allowed
        apply invariant.of_order
        · rfl
        · rfl
        have moved : state.delivered ++ backlog json state = state.delivered ++ events ++
            backlog json { state with flush := .idle, delivered := state.delivered ++ events } := by
          change _ ++ (rowEvents json (undelivered state) ++ _) =
            _ ++ _ ++ (rowEvents json (undelivered state) ++ _)
          rw [noRow, sending]
          simp [rowEvents, heldByFlush]
        exact moved ▸ order
    | unacknowledged => exact absurd allowed id
    | failed =>
        apply invariant.of_order
        · rfl
        · rfl
        simp only [backlog, sending, heldByFlush] at order
        exact order
  · exact invariant

/-- The rows that a batch leaves in the queue. -/
theorem divert_rows {events : List AuditEvent} {queue : OfflineQueue} {rows : List QueueRow}
    {outcomes : Nat → InsertOutcome} (sorted : rows.Pairwise NotLater)
    (forward : ClockForward rows outcomes events.length) :
    ∃ added, (divert json queue events outcomes).rows = queue.rows ++ added ∧
      (rows ++ added).Pairwise NotLater ∧ (rowEvents json added).Sublist events := by
  induction events generalizing queue rows outcomes with
  | nil => exact ⟨[], by simp [divert], by simpa using sorted, by simp [rowEvents]⟩
  | cons event rest ih =>
      have notInserted := @ih queue rows (fun index => outcomes (index + 1)) sorted forward.tail
      cases printed : json.toJson event with
      | none =>
          rcases notInserted with ⟨added, appended, inOrder, sublist⟩
          simp only [divert, printed]
          exact ⟨added, appended, inOrder, sublist.trans (List.sublist_cons_self _ _)⟩
      | some eventJson =>
          cases inserted : enqueue queue eventJson defaultMaxQueueSize (outcomes 0) with
          | error error =>
              rcases notInserted with ⟨added, appended, inOrder, sublist⟩
              simp only [divert, printed, inserted]
              exact ⟨added, appended, inOrder, sublist.trans (List.sublist_cons_self _ _)⟩
          | ok after =>
              rcases enqueue_eq_ok inserted with ⟨rfl, took⟩
              let row : QueueRow := ⟨queue.nextId, eventJson, (outcomes 0).now⟩
              obtain ⟨added, appended, inOrder, sublist⟩ :=
                @ih ⟨queue.rows ++ [row], queue.nextId + 1⟩ (rows ++ [row])
                  (fun index => outcomes (index + 1)) (forward.sorted_append sorted rfl took)
                  (forward.tail_append rfl took)
              simp only [divert, printed, inserted]
              use row :: added
              constructor
              · rw [appended, List.append_assoc]
                rfl
              constructor
              · rw [List.append_assoc] at inOrder
                exact inOrder
              · have own : rowEvents json (row :: added) = event :: rowEvents json added := by
                  simp [rowEvents, row, json.fromJson_toJson printed]
                rw [own]
                exact sublist.cons_cons event

theorem RelayInvariant.flushDivert {databaseReady : Bool} {outcomes : Nat → InsertOutcome}
    (invariant : RelayInvariant json state)
    (prompt : Prompt state (.flushDivert databaseReady outcomes)) :
    RelayInvariant json (state.flushDivert json databaseReady outcomes) := by
  unfold RelayState.flushDivert
  split
  · rename_i events diverting
    have before : backlog json state = rowEvents json (undelivered state) ++ (events ++
        (state.buffer ++ state.callers.map Caller.event)) := by
      rw [backlog, diverting]
      rfl
    cases databaseReady with
    | true =>
        obtain ⟨added, appended, sorted, sublist⟩ :=
          divert_rows invariant.sorted (prompt events diverting)
        exact invariant.insert appended rfl sorted sublist before rfl rfl rfl
    | false =>
        have sorted : (undelivered state ++ []).Pairwise NotLater := by
          rw [List.append_nil]
          exact invariant.sorted
        exact invariant.insert (List.append_nil _).symm rfl sorted (List.nil_sublist events) before
          rfl rfl rfl
  · exact invariant

/-! ## The heartbeat -/

/-- While the heartbeat deletes nothing, all rows are to be sent. -/
theorem undelivered_eq_rows (nothing : acknowledgedIds state.drain = []) :
    undelivered state = state.queue.rows := by
  rw [undelivered, nothing, delete_nil]

/-- Rows may be lost, unless some of them are being sent. -/
theorem RelayInvariant.shrink {queue : OfflineQueue} {phase : DrainPhase}
    (invariant : RelayInvariant json state)
    (rows : (queue.delete (acknowledgedIds phase)).rows.Sublist (undelivered state))
    (batch : ∀ batch, phase = .sending batch → ∃ read, read <+: queue.rows ∧
      batch = read.map fun row => (row.id, row.eventJson)) :
    RelayInvariant json { state with queue, drain := phase } := by
  constructor
  · apply List.Sublist.trans _ invariant.order
    exact (List.Sublist.refl _).append ((rowEvents_sublist rows).append (List.Sublist.refl _))
  · exact invariant.sorted.sublist rows
  · exact batch

theorem RelayInvariant.drainRead {outcome : DrainOutcome} (invariant : RelayInvariant json state) :
    RelayInvariant json (state.drainRead outcome) := by
  unfold RelayState.drainRead
  split
  · rename_i idle
    have allRows := @undelivered_eq_rows state (by rw [idle]; rfl)
    have sorted : state.queue.rows.Pairwise NotLater := allRows ▸ invariant.sorted
    split
    · exact invariant
    · split
      · exact invariant
      · rename_i queue drained
        rcases drain_eq_ok sorted drained with ⟨kept, _⟩
        apply invariant.shrink
        · rw [allRows, idle]
          exact (delete_nil queue).symm ▸ kept
        · intro batch isSending
          exact absurd (idle.symm.trans isSending) (by simp)
      · rename_i batch queue _ drained
        rcases drain_eq_ok sorted drained with ⟨kept, read, isPrefix, isBatch⟩
        apply invariant.shrink
        · rw [allRows]
          exact (delete_nil queue).symm ▸ kept
        · intro other isSending
          cases isSending
          exact ⟨read, isPrefix, isBatch⟩
  · exact invariant

theorem rowEvents_of_mapM {read : List QueueRow} {events : List AuditEvent}
    (parsed : (read.map fun row => (row.id, row.eventJson)).mapM
      (fun entry => json.fromJson entry.2) = some events) : rowEvents json read = events := by
  induction read generalizing events with
  | nil =>
      cases parsed
      rfl
  | cons row rest ih =>
      simp only [List.map_cons, List.mapM_cons, Option.bind_eq_bind, Option.bind_eq_some_iff,
        Option.pure_def, Option.some.injEq] at parsed
      rcases parsed with ⟨event, own, others, parsedRest, rfl⟩
      rw [← ih parsedRest]
      simp [rowEvents, own]

/-- Of the rows in front nothing is left once they are acknowledged. -/
theorem delete_read_sublist {queue : OfflineQueue} {read rest : List QueueRow}
    (rows : queue.rows = read ++ rest) : (queue.delete (read.map QueueRow.id)).rows.Sublist rest := by
  have removed : (read.filter fun row => decide (row.id ∉ read.map QueueRow.id)) = [] := by
    apply List.filter_eq_nil_iff.mpr
    intro row member
    simpa using ⟨row, member, rfl⟩
  rw [OfflineQueue.delete, rows, List.filter_append, removed, List.nil_append]
  exact List.filter_sublist

theorem RelayInvariant.drainSend {outcome : SendOutcome} (invariant : RelayInvariant json state)
    (prompt : Prompt state (.drainSend outcome)) :
    RelayInvariant json (state.drainSend json outcome) := by
  unfold RelayState.drainSend
  split
  · rename_i batch sending
    have allRows := @undelivered_eq_rows state (by rw [sending]; rfl)
    split
    · rename_i events parsed
      rcases invariant.batch batch sending with ⟨read, ⟨rest, rows⟩, rfl⟩
      have ids : (read.map fun row => (row.id, row.eventJson)).map Prod.fst =
          read.map QueueRow.id := List.map_map
      have left := delete_read_sublist rows.symm
      have order := invariant.order
      rw [backlog, allRows, ← rows, rowEvents_append, rowEvents_of_mapM parsed] at order
      have sorted := invariant.sorted
      rw [allRows, ← rows] at sorted
      rw [ids]
      constructor
      · apply List.Sublist.trans _ order
        rw [List.append_assoc, List.append_assoc]
        exact (List.Sublist.refl _).append ((List.Sublist.refl _).append
          ((rowEvents_sublist left).append (List.Sublist.refl _)))
      · exact (List.pairwise_append.mp sorted).2.1.sublist left
      · intro other isSending
        exact absurd isSending (by simp)
    · exact absurd rfl (prompt batch sending)
    · apply invariant.shrink
      · rw [allRows]
        exact (delete_nil state.queue).symm ▸ List.Sublist.refl _
      · intro other isSending
        exact absurd isSending (by simp)
  · exact invariant

theorem RelayInvariant.drainDelete {succeeds : Bool} (invariant : RelayInvariant json state)
    (prompt : Prompt state (.drainDelete succeeds)) :
    RelayInvariant json (state.drainDelete succeeds) := by
  unfold RelayState.drainDelete
  split
  · rename_i ids deleting
    cases prompt ids deleting
    apply invariant.shrink
    · rw [undelivered, deleting]
      exact (delete_nil (state.queue.delete ids)).symm ▸ List.Sublist.refl _
    · intro other isSending
      exact absurd isSending (by simp)
  · exact invariant

/-! ## Runs -/

theorem RelayInvariant.next (event : RelayEvent) (invariant : RelayInvariant json state)
    (prompt : Prompt state event) : RelayInvariant json (state.next json event) := by
  cases event with
  | setBuffer => exact ⟨invariant.order, invariant.sorted, invariant.batch⟩
  | emit event => exact invariant.emit event
  | look caller => exact invariant.look caller
  | relay caller databaseReady outcome overflow => exact invariant.relay prompt
  | flushTake => exact invariant.flushTake
  | flushSend outcome => exact invariant.flushSend prompt
  | flushDivert databaseReady outcomes => exact invariant.flushDivert prompt
  | drainRead outcome => exact invariant.drainRead
  | drainSend outcome => exact invariant.drainSend prompt
  | drainDelete succeeds => exact invariant.drainDelete prompt

end Invariant

/-- In every run of prompt steps the server has stored the events in the order of the
emitter, at every point. -/
theorem deliveredInOrder_of_prompt (json : EventJson) (events : List RelayEvent)
    (prompt : Each (RelayState.next json) Prompt RelayState.initial events)
    (before after : List RelayEvent) (split : events = before ++ after) :
    DeliveredInOrder (before.foldl (RelayState.next json) RelayState.initial) := by
  subst split
  have promptBefore := ((each_append _ before after).mp prompt).1
  have preserved : ∀ state event, RelayInvariant json state → Prompt state event →
      RelayInvariant json (state.next json event) :=
    fun _ event invariant allowed => invariant.next event allowed
  exact (promptBefore.invariant preserved relayInvariant_initial).deliveredInOrder

/-! ## One failed flush -/

/-- An insertion that succeeds. -/
def insertAt (now : Int) : InsertOutcome := ⟨false, false, now, false⟩

/-- A call of `emit_audit` that nothing interrupts, and a flush. -/
def emitAndFlush (event : AuditEvent) (outcome : SendOutcome) : List RelayEvent :=
  [.emit event, .look 0, .relay 0 true (insertAt 0) event, .flushTake, .flushSend outcome]

/-- The heartbeat drains the queue without an error. -/
def cleanDrain : List RelayEvent :=
  [.drainRead ⟨false, fun _ => false, false⟩, .drainSend .acknowledged, .drainDelete true]

/-- The first flush fails, and its event goes to the queue. -/
def failedFlush : List RelayEvent :=
  .setBuffer :: emitAndFlush firstEvent .failed ++ [.flushDivert true fun _ => insertAt 100]

/-- The heartbeat comes before the next flush. -/
theorem drained_before_flush_inOrder :
    DeliveredInOrder
      ((failedFlush ++ cleanDrain ++ emitAndFlush (secondEvent "01" "012") .acknowledged).foldl
        (RelayState.next sampleJson) RelayState.initial) := by
  apply deliveredInOrder_of_prompt sampleJson _ _ _ [] (List.append_nil _).symm
  refine ⟨trivial, trivial, trivial, ?_, trivial, ?_, ?_, trivial, ?_, ?_, trivial, trivial, ?_,
    trivial, ?_, trivial⟩
  · intro call found
    cases found
    exact ⟨fun _ => rfl, fun notFound => absurd notFound (by decide)⟩
  · intro events sending
    trivial
  · intro events diverting
    cases diverting
    constructor
    · intro row member
      cases member
    · intro first second less below
      change second < 1 at below
      omega
  · intro batch sending
    simp
  · intro ids deleting
    rfl
  · intro call found
    cases found
    exact ⟨fun _ => rfl, fun notFound => absurd notFound (by decide)⟩
  · intro events sending
    change undelivered _ = []
    decide +kernel

/-- The next flush comes before the heartbeat. -/
theorem flushed_before_drain_not_inOrder :
    ¬DeliveredInOrder
      ((failedFlush ++ emitAndFlush (secondEvent "01" "012") .acknowledged ++ cleanDrain).foldl
        (RelayState.next sampleJson) RelayState.initial) := by
  decide +kernel

end DlpSystem.Audit
