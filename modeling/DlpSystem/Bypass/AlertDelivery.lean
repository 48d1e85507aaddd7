import DlpSystem.Agent.BypassCorrelator
import DlpSystem.Lib.EventRun
import Mathlib.Algebra.Order.Group.Multiset
import Mathlib.Data.Multiset.Range
import Mathlib.Tactic.Abel

/-!
# Delivery of bypass alerts

Alerts are pushed by two tasks while any number of `flush_batch` calls are under
way.  A flush takes the batch, posts it without holding the lock, and on an error
takes the lock again to requeue.  The run tags each alert with its push number
and with the outcomes of the posts that included it; without the tags its batch
is the batch of the correlator.
-/

namespace DlpSystem.Bypass

open Common Agent Lib

/-- A pushed alert with its number and the outcomes of its posts so far. -/
structure Tagged where
  id : Nat
  pending : PendingAlert
  outcomes : List Bool

/-- A critical section or an answer. -/
inductive DeliveryEvent
  | emit (env : CallEnv) (event : EtwFileEvent) (reason : BypassReason)
  | submit (env : CallEnv) (alert : BypassAlert)
  /-- A flush takes the batch. -/
  | take
  /-- `post_bypass` returns to one of the flushes that wait for it. -/
  | answer (flush : Nat) (ok : Bool)
  /-- One of the flushes whose post failed gets the lock. -/
  | requeue (flush : Nat) (freshBatchIds : Nat → Nat)

/-- Where the pushed alerts are. -/
structure DeliveryState where
  batch : List Tagged
  posting : List (List Tagged)
  rejected : List (List Tagged)
  delivered : List Tagged
  dropped : List Tagged
  pushed : Nat

/-- Nothing pushed yet. -/
def DeliveryState.start : DeliveryState := ⟨[], [], [], [], [], 0⟩

/-- One more alert at the end of the batch. -/
def DeliveryState.push (state : DeliveryState) (pending : PendingAlert) : DeliveryState :=
  { state with batch := state.batch ++ [⟨state.pushed, pending, []⟩], pushed := state.pushed + 1 }

/-- The alerts that `requeue_with_retry` keeps, and those it drops. -/
def requeueTagged (maxAlertRetry : UInt32) (freshBatchIds : Nat → Nat) :
    Nat → List Tagged → List Tagged × List Tagged
  | _, [] => ([], [])
  | index, tagged :: rest =>
      let (kept, lost) := requeueTagged maxAlertRetry freshBatchIds (index + 1) rest
      match retried maxAlertRetry (freshBatchIds index) tagged.pending with
      | some pending => ({ tagged with pending := pending } :: kept, lost)
      | none => (kept, tagged :: lost)

/-- The alerts of a post, with its outcome noted. -/
def noteOutcome (ok : Bool) (alerts : List Tagged) : List Tagged :=
  alerts.map fun tagged => { tagged with outcomes := tagged.outcomes ++ [ok] }

variable (setup : CorrelatorSetup)

/-- One step. -/
def DeliveryState.next (state : DeliveryState) : DeliveryEvent → DeliveryState
  | .emit env event reason =>
      if setup.config.enforcementMode = .audit then state
      else state.push (PendingAlert.new (etwAlert setup env event reason) env.freshBatchId)
  | .submit env alert =>
      if setup.config.enforcementMode = .audit then state
      else state.push (PendingAlert.new (hookAlert setup env alert) env.freshBatchId)
  | .take =>
      if state.batch = [] then state
      else { state with batch := [], posting := state.posting ++ [state.batch] }
  | .answer flush ok =>
      match state.posting[flush]? with
      | none => state
      | some alerts =>
          if ok then
            { state with
              posting := state.posting.eraseIdx flush
              delivered := state.delivered ++ noteOutcome true alerts }
          else
            { state with
              posting := state.posting.eraseIdx flush
              rejected := state.rejected ++ [noteOutcome false alerts] }
  | .requeue flush freshBatchIds =>
      match state.rejected[flush]? with
      | none => state
      | some alerts =>
          let (kept, lost) := requeueTagged setup.config.maxAlertRetry freshBatchIds 0 alerts
          { state with
            rejected := state.rejected.eraseIdx flush
            batch := state.batch ++ kept
            dropped := state.dropped ++ lost }

/-! ## The batch of the correlator -/

/-- What the critical section of an event does to the correlator. -/
def DeliveryState.codeStep (state : DeliveryState) (correlator : Correlator) :
    DeliveryEvent → Correlator
  | .emit env event reason => emitAlert setup env event reason correlator
  | .submit env alert => submitBypassAlert setup env alert correlator
  | .take => (takeBatch correlator).2
  | .answer _ _ => correlator
  | .requeue flush freshBatchIds =>
      match state.rejected[flush]? with
      | none => correlator
      | some alerts =>
          requeueWithRetry setup freshBatchIds (alerts.map Tagged.pending) correlator

theorem requeueTagged_pending (maxAlertRetry : UInt32) (freshBatchIds : Nat → Nat) (index : Nat)
    (alerts : List Tagged) :
    (requeueTagged maxAlertRetry freshBatchIds index alerts).1.map Tagged.pending =
      retryAll maxAlertRetry freshBatchIds index (alerts.map Tagged.pending) := by
  induction alerts generalizing index with
  | nil => rfl
  | cons tagged rest ih =>
      simp only [requeueTagged, List.map_cons, retryAll, ← ih]
      cases retried maxAlertRetry (freshBatchIds index) tagged.pending with
      | none => rfl
      | some pending => rfl

/-- Without its tags, the batch of the run is the batch of the correlator. -/
theorem untagged_batch {state : DeliveryState} {correlator : Correlator}
    (same : state.batch.map Tagged.pending = correlator.alertBatch) (event : DeliveryEvent) :
    (state.next setup event).batch.map Tagged.pending =
      (state.codeStep setup correlator event).alertBatch := by
  cases event with
  | emit env event reason =>
      simp only [DeliveryState.next, DeliveryState.codeStep, emitAlert]
      split
      · exact same
      · simp [DeliveryState.push, Correlator.push, same]
  | submit env alert =>
      simp only [DeliveryState.next, DeliveryState.codeStep, submitBypassAlert]
      split
      · exact same
      · simp [DeliveryState.push, Correlator.push, same]
  | take =>
      simp only [DeliveryState.next, DeliveryState.codeStep, takeBatch]
      split
      · rename_i empty
        simp [empty]
      · rfl
  | answer flush ok =>
      simp only [DeliveryState.next, DeliveryState.codeStep]
      split
      · exact same
      · split <;> exact same
  | requeue flush freshBatchIds =>
      simp only [DeliveryState.next, DeliveryState.codeStep]
      split
      · exact same
      · simp [requeueWithRetry, requeueTagged_pending, same]

/-- The correlator after the critical sections of some events. -/
def DeliveryState.codeRun : DeliveryState → Correlator → List DeliveryEvent → Correlator
  | _, correlator, [] => correlator
  | state, correlator, event :: rest =>
      (state.next setup event).codeRun (state.codeStep setup correlator event) rest

theorem untagged_run (events : List DeliveryEvent) {state : DeliveryState}
    {correlator : Correlator} (same : state.batch.map Tagged.pending = correlator.alertBatch) :
    (events.foldl (DeliveryState.next setup) state).batch.map Tagged.pending =
      (state.codeRun setup correlator events).alertBatch := by
  induction events generalizing state correlator with
  | nil => exact same
  | cons event rest ih => exact ih (untagged_batch setup same event)

/-! ## Accounting -/

/-- The numbers of some alerts. -/
def ids (alerts : List Tagged) : Multiset Nat :=
  (alerts.map Tagged.id : List Nat)

@[simp]
theorem ids_nil : ids [] = 0 := rfl

@[simp]
theorem ids_append (left right : List Tagged) : ids (left ++ right) = ids left + ids right := by
  simp [ids]

@[simp]
theorem ids_cons (tagged : Tagged) (rest : List Tagged) :
    ids (tagged :: rest) = tagged.id ::ₘ ids rest := rfl

@[simp]
theorem ids_noteOutcome (ok : Bool) (alerts : List Tagged) :
    ids (noteOutcome ok alerts) = ids alerts := by
  rw [ids, noteOutcome, List.map_map]
  rfl

/-- Taking one group out of several. -/
theorem ids_flatten_eraseIdx {groups : List (List Tagged)} {index : Nat} {group : List Tagged}
    (found : groups[index]? = some group) :
    ids groups.flatten = ids group + ids (groups.eraseIdx index).flatten := by
  rcases List.getElem?_eq_some_iff.mp found with ⟨bound, rfl⟩
  have reordered := (List.getElem_cons_eraseIdx_perm bound).flatten
  have counted : ids (groups[index] :: groups.eraseIdx index).flatten = ids groups.flatten :=
    Multiset.coe_eq_coe.mpr (reordered.map Tagged.id)
  rw [← counted, List.flatten_cons, ids_append]

theorem ids_requeueTagged (maxAlertRetry : UInt32) (freshBatchIds : Nat → Nat) (index : Nat)
    (alerts : List Tagged) :
    ids (requeueTagged maxAlertRetry freshBatchIds index alerts).1 +
      ids (requeueTagged maxAlertRetry freshBatchIds index alerts).2 = ids alerts := by
  induction alerts generalizing index with
  | nil => rfl
  | cons tagged rest ih =>
      simp only [requeueTagged, ids_cons, ← ih (index + 1)]
      cases retried maxAlertRetry (freshBatchIds index) tagged.pending with
      | none => simp
      | some pending => simp

namespace DeliveryState

/-- The alerts in the hands of a flush. -/
def beingPosted (state : DeliveryState) : List Tagged :=
  state.posting.flatten ++ state.rejected.flatten

/-- All alerts, place by place. -/
def everywhere (state : DeliveryState) : List Tagged :=
  state.batch ++ state.beingPosted ++ state.delivered ++ state.dropped

end DeliveryState

/-- An alert that waits for a post, with as many failures as it has retries. -/
def Waiting (maxRetry : Nat) (tagged : Tagged) : Prop :=
  tagged.outcomes = List.replicate tagged.pending.retryCount.toNat false ∧
    tagged.pending.retryCount.toNat ≤ maxRetry

/-- An alert whose last failure is not counted yet. -/
def JustFailed (maxRetry : Nat) (tagged : Tagged) : Prop :=
  tagged.outcomes = List.replicate (tagged.pending.retryCount.toNat + 1) false ∧
    tagged.pending.retryCount.toNat ≤ maxRetry

/-- An alert whose last post succeeded. -/
def Delivered (maxRetry : Nat) (tagged : Tagged) : Prop :=
  ∃ failures ≤ maxRetry, tagged.outcomes = List.replicate failures false ++ [true]

/-- An alert that failed once more than it may be retried. -/
def Exhausted (maxRetry : Nat) (tagged : Tagged) : Prop :=
  tagged.outcomes = List.replicate (maxRetry + 1) false

/-- Every pushed alert is in one place, with the post history of that place. -/
structure Accounted (maxRetry : Nat) (state : DeliveryState) : Prop where
  places : ids state.everywhere = Multiset.range state.pushed
  batch : ∀ tagged ∈ state.batch, Waiting maxRetry tagged
  posting : ∀ tagged ∈ state.posting.flatten, Waiting maxRetry tagged
  rejected : ∀ tagged ∈ state.rejected.flatten, JustFailed maxRetry tagged
  delivered : ∀ tagged ∈ state.delivered, Delivered maxRetry tagged
  dropped : ∀ tagged ∈ state.dropped, Exhausted maxRetry tagged

theorem accounted_start (maxRetry : Nat) : Accounted maxRetry DeliveryState.start :=
  ⟨rfl, by simp [DeliveryState.start], by simp [DeliveryState.start],
    by simp [DeliveryState.start], by simp [DeliveryState.start], by simp [DeliveryState.start]⟩

/-! ## Steps -/

section Steps

variable {setup} {state : DeliveryState} {maxRetry : Nat}

/-- Membership in one of several groups, and in the groups without it. -/
theorem mem_flatten_of_group {groups : List (List Tagged)} {index : Nat} {group : List Tagged}
    (found : groups[index]? = some group) {tagged : Tagged} (member : tagged ∈ group) :
    tagged ∈ groups.flatten :=
  List.mem_flatten.mpr ⟨group, List.mem_of_getElem? found, member⟩

theorem mem_flatten_of_eraseIdx {groups : List (List Tagged)} {index : Nat} {tagged : Tagged}
    (member : tagged ∈ (groups.eraseIdx index).flatten) : tagged ∈ groups.flatten := by
  rcases List.mem_flatten.mp member with ⟨group, inside, member⟩
  exact List.mem_flatten.mpr ⟨group, List.mem_of_mem_eraseIdx inside, member⟩

theorem Accounted.push (accounted : Accounted maxRetry state) (alert : BypassAlert)
    (freshBatchId : Nat) :
    Accounted maxRetry (state.push (PendingAlert.new alert freshBatchId)) := by
  have places := accounted.places
  refine ⟨?_, ?_, accounted.posting, accounted.rejected, accounted.delivered, accounted.dropped⟩
  · simp only [DeliveryState.everywhere, DeliveryState.beingPosted, ids_append] at places
    simp only [DeliveryState.push, DeliveryState.everywhere, DeliveryState.beingPosted, ids_append,
      ids_cons, ids_nil, Multiset.range_succ, ← places, ← Multiset.singleton_add]
    abel
  · intro tagged member
    rcases List.mem_append.mp member with earlier | new
    · exact accounted.batch tagged earlier
    · rw [List.mem_singleton.mp new]
      exact ⟨rfl, Nat.zero_le maxRetry⟩

theorem Accounted.take (accounted : Accounted maxRetry state) :
    Accounted maxRetry (state.next setup .take) := by
  simp only [DeliveryState.next]
  split
  · exact accounted
  · have places := accounted.places
    refine ⟨?_, by simp, ?_, accounted.rejected, accounted.delivered, accounted.dropped⟩
    · simp only [DeliveryState.everywhere, DeliveryState.beingPosted, ids_append] at places
      simp only [DeliveryState.everywhere, DeliveryState.beingPosted, ids_append, ids_nil,
        List.flatten_append, List.flatten_cons, List.flatten_nil, List.append_nil, ← places]
      abel
    · intro tagged member
      simp only [List.flatten_append, List.flatten_cons, List.flatten_nil, List.append_nil,
        List.mem_append] at member
      rcases member with earlier | taken
      · exact accounted.posting tagged earlier
      · exact accounted.batch tagged taken

/-- A success ends the history of an alert that was waiting. -/
theorem Waiting.succeed {tagged : Tagged} (waiting : Waiting maxRetry tagged) :
    Delivered maxRetry { tagged with outcomes := tagged.outcomes ++ [true] } :=
  ⟨tagged.pending.retryCount.toNat, waiting.2, by rw [waiting.1]⟩

theorem Waiting.fail {tagged : Tagged} (waiting : Waiting maxRetry tagged) :
    JustFailed maxRetry { tagged with outcomes := tagged.outcomes ++ [false] } := by
  refine ⟨?_, waiting.2⟩
  simp only
  rw [waiting.1, List.replicate_succ']

theorem Accounted.answer (accounted : Accounted maxRetry state) (flush : Nat) (ok : Bool) :
    Accounted maxRetry (state.next setup (.answer flush ok)) := by
  simp only [DeliveryState.next]
  split
  · exact accounted
  · rename_i alerts found
    have places := accounted.places
    have inFlight := ids_flatten_eraseIdx found
    have waiting : ∀ tagged ∈ alerts, Waiting maxRetry tagged :=
      fun tagged member => accounted.posting tagged (mem_flatten_of_group found member)
    have others : ∀ tagged ∈ (state.posting.eraseIdx flush).flatten, Waiting maxRetry tagged :=
      fun tagged member => accounted.posting tagged (mem_flatten_of_eraseIdx member)
    simp only [DeliveryState.everywhere, DeliveryState.beingPosted, ids_append, inFlight] at places
    cases ok with
    | true =>
        refine ⟨?_, accounted.batch, others, accounted.rejected, ?_, accounted.dropped⟩
        · simp only [DeliveryState.everywhere, DeliveryState.beingPosted, ids_append,
            ids_noteOutcome, if_true, ← places]
          abel
        · intro tagged member
          rcases List.mem_append.mp member with earlier | posted
          · exact accounted.delivered tagged earlier
          · rcases List.mem_map.mp posted with ⟨source, inside, rfl⟩
            exact (waiting source inside).succeed
    | false =>
        refine ⟨?_, accounted.batch, others, ?_, accounted.delivered, accounted.dropped⟩
        · simp only [DeliveryState.everywhere, DeliveryState.beingPosted, ids_append,
            ids_noteOutcome, Bool.false_eq_true, if_false, List.flatten_append, List.flatten_cons,
            List.flatten_nil, List.append_nil, ← places]
          abel
        · intro tagged member
          simp only [Bool.false_eq_true, if_false, List.flatten_append, List.flatten_cons,
            List.flatten_nil, List.append_nil, List.mem_append] at member
          rcases member with earlier | posted
          · exact accounted.rejected tagged earlier
          · rcases List.mem_map.mp posted with ⟨source, inside, rfl⟩
            exact (waiting source inside).fail

/-- Requeueing sorts failed alerts into those that may wait for another post and
those that have used up their retries. -/
theorem requeueTagged_sorts {maxAlertRetry : UInt32} (bounded : maxAlertRetry ≠ 4294967295)
    (freshBatchIds : Nat → Nat) (index : Nat) {alerts : List Tagged}
    (failed : ∀ tagged ∈ alerts, JustFailed maxAlertRetry.toNat tagged) :
    (∀ tagged ∈ (requeueTagged maxAlertRetry freshBatchIds index alerts).1,
      Waiting maxAlertRetry.toNat tagged) ∧
    (∀ tagged ∈ (requeueTagged maxAlertRetry freshBatchIds index alerts).2,
      Exhausted maxAlertRetry.toNat tagged) := by
  induction alerts generalizing index with
  | nil => simp [requeueTagged]
  | cons tagged rest ih =>
      obtain ⟨kept, lost⟩ :=
        ih (index + 1) fun other member => failed other (List.mem_cons_of_mem tagged member)
      rcases failed tagged List.mem_cons_self with ⟨history, within⟩
      -- The retry counter stays below the limit, so the increment does not wrap.
      have below : maxAlertRetry.toNat < 4294967295 := by
        have range := maxAlertRetry.toNat_lt
        have other : maxAlertRetry.toNat ≠ 4294967295 := fun equal =>
          bounded (UInt32.toNat_inj.mp equal)
        omega
      have increment : (tagged.pending.retryCount + 1).toNat =
          tagged.pending.retryCount.toNat + 1 := by
        rw [UInt32.toNat_add]
        change (tagged.pending.retryCount.toNat + 1) % 4294967296 = _
        omega
      simp only [requeueTagged]
      cases outcome : retried maxAlertRetry (freshBatchIds index) tagged.pending with
      | none =>
          refine ⟨kept, List.forall_mem_cons.mpr ⟨?_, lost⟩⟩
          unfold retried at outcome
          split at outcome
          · rename_i above
            rw [gt_iff_lt, UInt32.lt_iff_toNat_lt, increment] at above
            have limit : tagged.pending.retryCount.toNat = maxAlertRetry.toNat := by omega
            rw [Exhausted, history, limit]
          · exact absurd outcome (by simp)
      | some pending =>
          refine ⟨List.forall_mem_cons.mpr ⟨?_, kept⟩, lost⟩
          unfold retried at outcome
          split at outcome
          · exact absurd outcome (by simp)
          · rename_i notAbove
            rw [gt_iff_lt, UInt32.lt_iff_toNat_lt, increment] at notAbove
            cases Option.some.inj outcome
            constructor
            · simp only [increment]
              exact history
            · simp only [increment]
              omega

theorem Accounted.requeue (bounded : setup.config.maxAlertRetry ≠ 4294967295)
    (accounted : Accounted setup.config.maxAlertRetry.toNat state) (flush : Nat)
    (freshBatchIds : Nat → Nat) :
    Accounted setup.config.maxAlertRetry.toNat
      (state.next setup (.requeue flush freshBatchIds)) := by
  simp only [DeliveryState.next]
  split
  · exact accounted
  · rename_i alerts found
    have places := accounted.places
    have inFlight := ids_flatten_eraseIdx found
    have sorted := ids_requeueTagged setup.config.maxAlertRetry freshBatchIds 0 alerts
    obtain ⟨kept, lost⟩ := requeueTagged_sorts bounded freshBatchIds 0
      fun tagged member => accounted.rejected tagged (mem_flatten_of_group found member)
    simp only [DeliveryState.everywhere, DeliveryState.beingPosted, ids_append, inFlight,
      ← sorted] at places
    refine ⟨?_, ?_, accounted.posting, ?_, accounted.delivered, ?_⟩
    · simp only [DeliveryState.everywhere, DeliveryState.beingPosted, ids_append, ← places]
      abel
    · intro tagged member
      rcases List.mem_append.mp member with earlier | back
      · exact accounted.batch tagged earlier
      · exact kept tagged back
    · exact fun tagged member => accounted.rejected tagged (mem_flatten_of_eraseIdx member)
    · intro tagged member
      rcases List.mem_append.mp member with earlier | given
      · exact accounted.dropped tagged earlier
      · exact lost tagged given

/-- Every step keeps the account. -/
theorem Accounted.next (bounded : setup.config.maxAlertRetry ≠ 4294967295)
    (accounted : Accounted setup.config.maxAlertRetry.toNat state) (event : DeliveryEvent) :
    Accounted setup.config.maxAlertRetry.toNat (state.next setup event) := by
  cases event with
  | emit env event reason =>
      simp only [DeliveryState.next]
      split
      · exact accounted
      · exact accounted.push _ _
  | submit env alert =>
      simp only [DeliveryState.next]
      split
      · exact accounted
      · exact accounted.push _ _
  | take => exact accounted.take
  | answer flush ok => exact accounted.answer flush ok
  | requeue flush freshBatchIds => exact accounted.requeue bounded flush freshBatchIds

end Steps

/-! ## Runs -/

/-- In a history of failures with at most one success at the end, nothing comes
after a success. -/
theorem nothing_after_success {failures : Nat} {tail before after : List Bool}
    (ending : tail = [] ∨ tail = [true])
    (split : List.replicate failures false ++ tail = before ++ true :: after) : after = [] := by
  induction failures generalizing before with
  | zero =>
      rcases ending with rfl | rfl
      · exact absurd split (by simp)
      · cases before with
        | nil => exact (List.cons.inj split).2.symm
        | cons head rest => exact absurd (List.cons.inj split).2 (by simp)
  | succ failures ih =>
      cases before with
      | nil => exact absurd (List.cons.inj split).1 (by decide)
      | cons head rest => exact ih (List.cons.inj split).2

/-- What the history of an alert looks like, wherever the alert is. -/
theorem Accounted.history {maxRetry : Nat} {state : DeliveryState}
    (accounted : Accounted maxRetry state) {tagged : Tagged}
    (member : tagged ∈ state.everywhere) :
    ∃ failures tail, tagged.outcomes = List.replicate failures false ++ tail ∧
      (tail = [] ∨ tail = [true]) ∧ failures + tail.length ≤ maxRetry + 1 := by
  have posted : ∀ failures, tagged.outcomes = List.replicate failures false →
      failures ≤ maxRetry + 1 →
      ∃ failures tail, tagged.outcomes = List.replicate failures false ++ tail ∧
        (tail = [] ∨ tail = [true]) ∧ failures + tail.length ≤ maxRetry + 1 :=
    fun failures history few => ⟨failures, [], by simpa using history, .inl rfl, by simpa using few⟩
  simp only [DeliveryState.everywhere, DeliveryState.beingPosted, List.mem_append] at member
  rcases member with ((inBatch | inPosting | inRejected) | inDelivered) | inDropped
  · rcases accounted.batch tagged inBatch with ⟨history, within⟩
    exact posted _ history (by omega)
  · rcases accounted.posting tagged inPosting with ⟨history, within⟩
    exact posted _ history (by omega)
  · rcases accounted.rejected tagged inRejected with ⟨history, within⟩
    exact posted _ history (by omega)
  · rcases accounted.delivered tagged inDelivered with ⟨failures, within, history⟩
    exact ⟨failures, [true], history, .inr rfl, by simpa using within⟩
  · exact posted _ (accounted.dropped tagged inDropped) le_rfl

/-- Over every interleaving of pushes, flushes and answers: each pushed alert is
in exactly one place, it is posted at most `max_alert_retry + 1` times, it is
never posted again after a success, and a dropped one has failed in exactly
`max_alert_retry + 1` posts.  The batch is the one that `emit_alert`, `submit_bypass_alert`,
`take_batch` and `requeue_with_retry` leave in the correlator.  The agent runs with the default
limit of 3. -/
theorem alerts_conserved (bounded : setup.config.maxAlertRetry ≠ 4294967295)
    (events : List DeliveryEvent) :
    let state := events.foldl (DeliveryState.next setup) DeliveryState.start
    (∀ correlator : Correlator, correlator.alertBatch = [] →
      state.batch.map Tagged.pending =
        (DeliveryState.start.codeRun setup correlator events).alertBatch) ∧
    (∀ id < state.pushed,
      (ids state.batch).count id + (ids state.beingPosted).count id +
        (ids state.delivered).count id + (ids state.dropped).count id = 1) ∧
    (∀ tagged ∈ state.everywhere,
      tagged.outcomes.length ≤ setup.config.maxAlertRetry.toNat + 1 ∧
        ∀ before after, tagged.outcomes = before ++ true :: after → after = []) ∧
    (∀ tagged ∈ state.dropped,
      tagged.outcomes = List.replicate (setup.config.maxAlertRetry.toNat + 1) false) := by
  have step : ∀ (state : DeliveryState) (event : DeliveryEvent),
      Accounted setup.config.maxAlertRetry.toNat state →
      Accounted setup.config.maxAlertRetry.toNat (state.next setup event) :=
    fun state event kept => Accounted.next bounded kept event
  have accounted := foldl_invariant step events (accounted_start _)
  refine ⟨?_, ?_, ?_, accounted.dropped⟩
  · intro correlator empty
    exact untagged_run setup events empty.symm
  · intro id pushed
    have once : (Multiset.range
        (events.foldl (DeliveryState.next setup) DeliveryState.start).pushed).count id = 1 :=
      Multiset.count_eq_one_of_mem (Multiset.nodup_range _) (Multiset.mem_range.mpr pushed)
    rw [← accounted.places] at once
    simp only [DeliveryState.everywhere, ids_append, Multiset.count_add] at once
    exact once
  · intro tagged member
    rcases accounted.history member with ⟨failures, tail, history, ending, few⟩
    constructor
    · rw [history]
      simpa using few
    · intro before after split
      exact nothing_after_success ending (history.symm.trans split)

/-- An alert of the hook DLL about an overwritten stub. -/
def overwrittenStub : BypassAlert :=
  ⟨.hookOverwritten, ascii "NtWriteFile", 7, 0, 2, [], [], none, [], [], 0, 0, [], []⟩

/-- A hook alert that is posted once, in vain, and requeued. -/
def requeuedOnce : List DeliveryEvent :=
  [.submit sampleEnv overwrittenStub, .take, .answer 0 false, .requeue 0 id]

theorem requeuedOnce_conserved :
    let state := requeuedOnce.foldl (DeliveryState.next sampleSetup) .start
    state.pushed = 1 ∧
      state.batch.map Tagged.pending =
        (DeliveryState.start.codeRun sampleSetup .new requeuedOnce).alertBatch ∧
      (ids state.batch).count 0 + (ids state.beingPosted).count 0 +
        (ids state.delivered).count 0 + (ids state.dropped).count 0 = 1 := by
  obtain ⟨batch, places, -⟩ := alerts_conserved sampleSetup (by decide) requeuedOnce
  exact ⟨rfl, batch .new rfl, places 0 Nat.one_pos⟩

end DlpSystem.Bypass
