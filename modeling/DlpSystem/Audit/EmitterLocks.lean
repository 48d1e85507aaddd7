import DlpSystem.Lib.LockProgram

/-!
# The locks of the audit emitter

`AuditEmitter::emit` and `rotate` as sequences of lock and unlock steps.  On every
hundredth event `emit` gives up the writer, but not the counter, before a rotation
takes the writer again; a second `emit` takes them in the other order.
-/

namespace DlpSystem.Audit

open Lib

/-- The mutexes of an `AuditEmitter`. -/
inductive EmitterMutex
  | writer
  | lastChainHash
  | eventsSinceCheck
  deriving DecidableEq

/-- Where a thread stands in `emit`, `maybe_rotate` or `rotate`. -/
inductive EmitterPoint
  | idle
  /-- `let mut writer = self.writer.lock()` -/
  | lockWriter
  /-- `self.last_chain_hash.lock().clone()` and the end of that statement -/
  | lockHash
  | unlockHash
  /-- hash, serialisation, write and flush -/
  | write
  /-- a `?` returned, and the guard of the writer is dropped -/
  | writeFailed
  /-- `*self.last_chain_hash.lock() = chain_hash` and the end of that statement -/
  | lockHead
  | unlockHead
  /-- `let mut count = self.events_since_check.lock()` -/
  | lockCounter
  | count
  /-- the guards at the end of `emit`, the last one first -/
  | unlockCounter
  | unlockWriter
  /-- `drop(writer)` -/
  | dropWriter
  | maybeRotate
  /-- `rotate` under the guard of the counter -/
  | nestedLockWriter
  | nestedRotate
  | dropCounter
  /-- `rotate` called on its own -/
  | rotateLockWriter
  | rotate
  deriving DecidableEq

/-- What the environment decides: the call of an idle thread, whether writing
succeeds, and whether the log has reached `max_bytes`. -/
structure EmitterInput where
  callsRotate : Bool
  writeOk : Bool
  full : Bool
  deriving DecidableEq

namespace EmitterPoint

/-- The mutexes held at a point. -/
def held : EmitterPoint → List EmitterMutex
  | idle | lockWriter | rotateLockWriter => []
  | lockHash | write | writeFailed | lockHead | lockCounter | unlockWriter | rotate => [.writer]
  | unlockHash | unlockHead => [.writer, .lastChainHash]
  | count | unlockCounter | dropWriter | nestedRotate => [.writer, .eventsSinceCheck]
  | maybeRotate | nestedLockWriter | dropCounter => [.eventsSinceCheck]

/-- The next action; `events` is the counter. -/
def action (point : EmitterPoint) (events : Nat) (input : EmitterInput) :
    LockAction EmitterMutex EmitterPoint :=
  match point with
  | idle => if input.callsRotate then .jump rotateLockWriter else .jump lockWriter
  | lockWriter => .lock .writer lockHash
  | lockHash => .lock .lastChainHash unlockHash
  | unlockHash => .unlock .lastChainHash write
  | write => if input.writeOk then .jump lockHead else .jump writeFailed
  | writeFailed => .unlock .writer idle
  | lockHead => .lock .lastChainHash unlockHead
  | unlockHead => .unlock .lastChainHash lockCounter
  | lockCounter => .lock .eventsSinceCheck count
  | count => if events + 1 ≥ 100 then .jump dropWriter else .jump unlockCounter
  | unlockCounter => .unlock .eventsSinceCheck unlockWriter
  | unlockWriter => .unlock .writer idle
  | dropWriter => .unlock .writer maybeRotate
  | maybeRotate => if input.full then .jump nestedLockWriter else .jump dropCounter
  | nestedLockWriter => .lock .writer nestedRotate
  | nestedRotate => .unlock .writer dropCounter
  | dropCounter => .unlock .eventsSinceCheck idle
  | rotateLockWriter => .lock .writer rotate
  | rotate => .unlock .writer idle

/-- What happens to the counter. -/
def counted (point : EmitterPoint) (events : Nat) : Nat :=
  match point with
  | count => if events + 1 ≥ 100 then 0 else events + 1
  | _ => events

end EmitterPoint

/-- `emit` and `rotate` as a program over the three mutexes. -/
def emitterProgram : LockProgram EmitterMutex EmitterPoint Nat EmitterInput where
  action := EmitterPoint.action
  update point events _ := point.counted events
  holds point mutex := mutex ∈ point.held
  holds_lock := by
    intro point events input mutex next action other
    cases point <;> simp only [EmitterPoint.action] at action <;>
      (try split at action) <;> cases action <;> cases other <;> decide
  holds_unlock := by
    intro point events input mutex next action
    cases point <;> simp only [EmitterPoint.action] at action <;>
      (try split at action) <;> cases action <;>
      exact ⟨by decide, by rintro (_ | _ | _) <;> decide⟩
  holds_jump := by
    intro point events input next action other
    cases point <;> simp only [EmitterPoint.action] at action <;>
      (try split at action) <;> cases action <;> cases other <;> decide

/-! ## Waiting threads -/

section Threads

variable {Thread : Type} [DecidableEq Thread]

/-- Every thread is idle and the counter is zero. -/
def emitterStart : LockState Thread EmitterMutex EmitterPoint Nat :=
  ⟨fun _ => .idle, fun _ => none, 0⟩

/-- The points of `emit` from the writer lock to the counter lock. -/
def EmitterPoint.BeforeCounter (point : EmitterPoint) : Prop :=
  point ∈ [lockHash, unlockHash, write, lockHead, unlockHead, lockCounter]

/-- A step does not bring an `emit` with the writer and a waiting rotation with the
counter together. -/
def KeepsApart (state : LockState Thread EmitterMutex EmitterPoint Nat)
    (event : Thread × EmitterInput) : Prop :=
  (state.point event.1 = .lockWriter → state.owner .writer = none →
    ∀ other, state.point other ≠ .nestedLockWriter) ∧
  (state.point event.1 = .maybeRotate → event.2.full = true →
    ∀ other, ¬ (state.point other).BeforeCounter)

/-- Ownership is consistent, and no `emit` is between writer and counter while a
rotation of a hundredth event waits for the writer. -/
structure Apart (state : LockState Thread EmitterMutex EmitterPoint Nat) : Prop where
  consistent : emitterProgram.Consistent state
  apart : ∀ rotating emitting, state.point rotating = .nestedLockWriter →
    ¬ (state.point emitting).BeforeCounter

omit [DecidableEq Thread] in
theorem apart_start : Apart (emitterStart : LockState Thread EmitterMutex EmitterPoint Nat) where
  consistent := by
    intro mutex thread
    simp [emitterStart, emitterProgram, EmitterPoint.held]
  apart := by
    intro rotating emitting waiting
    exact absurd waiting (by simp [emitterStart])

/-- An `emit` enters through the writer lock. -/
theorem beforeCounter_of_next {point : EmitterPoint} {events : Nat} {input : EmitterInput}
    (inside : (point.action events input).next.BeforeCounter) :
    point.BeforeCounter ∨ point = .lockWriter := by
  cases point <;> simp only [EmitterPoint.action] at inside <;> (try split at inside) <;>
    simp_all [EmitterPoint.BeforeCounter, LockAction.next]

/-- A rotation inside `emit` starts at a full log. -/
theorem maybeRotate_of_next {point : EmitterPoint} {events : Nat} {input : EmitterInput}
    (waiting : (point.action events input).next = .nestedLockWriter) :
    point = .maybeRotate ∧ input.full = true := by
  cases point <;> simp only [EmitterPoint.action] at waiting <;> (try split at waiting) <;>
    simp_all [LockAction.next]

/-- One step keeps them apart. -/
theorem step_apart (state : LockState Thread EmitterMutex EmitterPoint Nat)
    (event : Thread × EmitterInput) (isApart : Apart state) (keeps : KeepsApart state event) :
    Apart (emitterProgram.step state event) := by
  rcases event with ⟨thread, input⟩
  refine ⟨LockProgram.step_consistent isApart.consistent _, ?_⟩
  intro rotating emitting waiting inside
  rcases LockProgram.step_point_self emitterProgram state thread input with same | ⟨free, moved⟩
  · rw [same] at waiting inside
    exact isApart.apart rotating emitting waiting inside
  · by_cases rotates : rotating = thread <;> by_cases emits : emitting = thread
    · subst rotates emits
      rw [waiting] at inside
      exact absurd inside (by simp [EmitterPoint.BeforeCounter])
    · subst rotates
      rw [LockProgram.step_point_other emits] at inside
      rcases maybeRotate_of_next (moved.symm.trans waiting) with ⟨atCheck, full⟩
      exact keeps.2 atCheck full emitting inside
    · subst emits
      rw [LockProgram.step_point_other rotates] at waiting
      rw [moved] at inside
      rcases beforeCounter_of_next inside with wasInside | entering
      · exact isApart.apart rotating emitting waiting wasInside
      · have owner : state.owner .writer = none := by
          apply free .writer .lockHash
          rw [entering]
          rfl
        exact keeps.1 entering owner rotating waiting
    · rw [LockProgram.step_point_other rotates] at waiting
      rw [LockProgram.step_point_other emits] at inside
      exact isApart.apart rotating emitting waiting inside

/-- Threads that wait for the writer wait for threads that wait for something else,
and those for threads that do not wait. -/
def EmitterPoint.waitRank : EmitterPoint → Nat
  | lockWriter | nestedLockWriter | rotateLockWriter => 2
  | lockHash | lockHead | lockCounter => 1
  | _ => 0

/-- Whoever holds the writer waits for something else, if at all. -/
theorem waitRank_of_holds_writer {point : EmitterPoint} (holds : .writer ∈ point.held) :
    point.waitRank < 2 := by
  cases point <;> simp_all [EmitterPoint.held, EmitterPoint.waitRank]

omit [DecidableEq Thread] in
/-- The rank falls along every wait. -/
theorem waitRank_falls {state : LockState Thread EmitterMutex EmitterPoint Nat}
    (isApart : Apart state) {waiting owning : Thread}
    (waits : emitterProgram.WaitsFor state waiting owning) :
    (state.point owning).waitRank < (state.point waiting).waitRank := by
  rcases waits with ⟨input, mutex, next, action, owner⟩
  have holds : mutex ∈ (state.point owning).held := (isApart.consistent mutex owning).mp owner
  have exclusive : EmitterMutex.writer ∈ (state.point waiting).held →
      EmitterMutex.writer ∈ (state.point owning).held → waiting = owning :=
    LockProgram.eq_of_holds isApart.consistent
  change (state.point waiting).action state.data input = .lock mutex next at action
  cases here : state.point waiting <;> rw [here] at action exclusive <;>
    simp only [EmitterPoint.action] at action <;> (try split at action) <;> cases action
  -- the writer
  case lockWriter | nestedLockWriter | rotateLockWriter =>
    exact waitRank_of_holds_writer holds
  -- the chain hash is only held together with the writer
  case lockHash | lockHead =>
    have alsoWriter : EmitterMutex.writer ∈ (state.point owning).held := by
      cases there : state.point owning <;> simp_all [EmitterPoint.held]
    have same := exclusive (by decide) alsoWriter
    rw [← same, here] at holds
    exact absurd holds (by decide)
  -- the counter is held with the writer, by a waiting rotation, or by a thread that goes on
  case lockCounter =>
    have notWriter : EmitterMutex.writer ∉ (state.point owning).held := by
      intro alsoWriter
      have same := exclusive (by decide) alsoWriter
      rw [← same, here] at holds
      exact absurd holds (by decide)
    have notWaiting : state.point owning ≠ .nestedLockWriter := by
      intro there
      exact isApart.apart owning waiting there (by simp [here, EmitterPoint.BeforeCounter])
    cases there : state.point owning <;>
      simp_all [EmitterPoint.held, EmitterPoint.waitRank]

/-- No deadlock in a run that never lets an `emit` into its critical section while
the rotation of a hundredth event waits for the writer, and never starts such a
rotation while an `emit` is there. -/
theorem not_deadlocked (events : List (Thread × EmitterInput))
    (keeps : Each emitterProgram.step KeepsApart emitterStart events) :
    ¬ emitterProgram.Deadlocked (events.foldl emitterProgram.step emitterStart) := by
  have reached : Apart (events.foldl emitterProgram.step emitterStart) :=
    keeps.invariant step_apart apart_start
  exact LockProgram.not_deadlocked_of_rank
    (fun thread => ((events.foldl emitterProgram.step emitterStart).point thread).waitRank)
    (waitRank_falls reached)

end Threads

/-! ## Two threads at the hundredth event -/

/-- A step of a thread whose write succeeds, at a full log. -/
def goesOn (thread : Bool) : Bool × EmitterInput :=
  (thread, ⟨false, true, true⟩)

/-- A whole call of `emit` below the hundredth event. -/
def wholeEmit (thread : Bool) : List (Bool × EmitterInput) :=
  List.replicate 11 (goesOn thread)

/-- All threads are idle. -/
def idleAt (events : Nat) : LockState Bool EmitterMutex EmitterPoint Nat :=
  ⟨fun _ => .idle, fun _ => none, events⟩

theorem foldl_wholeEmit {events : Nat} (below : events + 1 < 100) :
    (wholeEmit false).foldl emitterProgram.step (idleAt events) = idleAt (events + 1) := by
  have notYet : ¬ 100 ≤ events + 1 := by omega
  simp [wholeEmit, List.replicate, LockProgram.step, emitterProgram, goesOn, idleAt,
    EmitterPoint.action, EmitterPoint.counted, notYet]
  constructor
  · funext thread
    cases thread <;> rfl
  · omega

theorem foldl_wholeEmits (count : Nat) (below : count < 100) :
    (List.replicate count (wholeEmit false)).flatten.foldl emitterProgram.step emitterStart =
      idleAt count := by
  induction count with
  | zero => rfl
  | succ count ih =>
      rw [List.replicate_succ', List.flatten_append, List.foldl_append, ih (by omega)]
      simpa using foldl_wholeEmit below

/-- A whole call of `emit` while a second thread waits for the writer. -/
def overlappingEmits : List (Bool × EmitterInput) :=
  [goesOn false, goesOn false, goesOn true, goesOn true] ++ List.replicate 9 (goesOn false)

theorem overlappingEmits_not_deadlocked :
    ¬ emitterProgram.Deadlocked (overlappingEmits.foldl emitterProgram.step emitterStart) := by
  apply not_deadlocked overlappingEmits
  simp [overlappingEmits, List.replicate, KeepsApart, emitterStart, LockProgram.step,
    emitterProgram, goesOn, EmitterPoint.action, EmitterPoint.counted]

/-- Ninety-nine events, then two threads at once: the first counts its event and
drops the writer, the second comes up to the counter, the first starts to rotate. -/
def hundredthEvent : List (Bool × EmitterInput) :=
  (List.replicate 99 (wholeEmit false)).flatten ++
    (List.replicate 10 (goesOn false) ++ List.replicate 7 (goesOn true) ++ [goesOn false])

/-- The two wait for each other. -/
theorem hundredthEvent_deadlocked :
    emitterProgram.Deadlocked (hundredthEvent.foldl emitterProgram.step emitterStart) := by
  rw [hundredthEvent, List.foldl_append, foldl_wholeEmits 99 (by decide)]
  have rotation : emitterProgram.WaitsFor
      ((List.replicate 10 (goesOn false) ++ List.replicate 7 (goesOn true) ++
        [goesOn false]).foldl emitterProgram.step (idleAt 99)) false true :=
    ⟨⟨false, true, true⟩, .writer, .nestedRotate, by rfl, by rfl⟩
  have emission : emitterProgram.WaitsFor
      ((List.replicate 10 (goesOn false) ++ List.replicate 7 (goesOn true) ++
        [goesOn false]).foldl emitterProgram.step (idleAt 99)) true false :=
    ⟨⟨false, true, true⟩, .eventsSinceCheck, .count, by rfl, by rfl⟩
  exact ⟨false, (Relation.TransGen.single rotation).tail emission⟩

end DlpSystem.Audit
