import DlpSystem.Lib.EventRun
import Mathlib.Logic.Function.Basic
import Mathlib.Logic.Relation

/-!
# Programs that take locks

Threads run one program over a set of mutexes.  A program names for every point
the mutexes a thread holds there, and its actions must agree with that table, so
that ownership can be read off the points.  A deadlock is a cycle of threads that
each wait for a mutex of the next; a rank that falls along every wait excludes it.
-/

namespace DlpSystem.Lib

/-- What a thread does at a point. -/
inductive LockAction (Mutex Point : Type)
  | lock (mutex : Mutex) (next : Point)
  | unlock (mutex : Mutex) (next : Point)
  | jump (next : Point)

/-- The point behind an action. -/
def LockAction.next {Mutex Point : Type} : LockAction Mutex Point → Point
  | .lock _ next => next
  | .unlock _ next => next
  | .jump next => next

/-- A program over mutexes.  `input` is what the environment decides at a step. -/
structure LockProgram (Mutex Point Data Input : Type) where
  action : Point → Data → Input → LockAction Mutex Point
  update : Point → Data → Input → Data
  holds : Point → Mutex → Prop
  holds_lock : ∀ {point data input mutex next}, action point data input = .lock mutex next →
    ∀ other, holds next other ↔ holds point other ∨ other = mutex
  holds_unlock : ∀ {point data input mutex next}, action point data input = .unlock mutex next →
    holds point mutex ∧ ∀ other, holds next other ↔ holds point other ∧ other ≠ mutex
  holds_jump : ∀ {point data input next}, action point data input = .jump next →
    ∀ other, holds next other ↔ holds point other

/-- The threads, the owners of the mutexes, and what the threads share. -/
structure LockState (Thread Mutex Point Data : Type) where
  point : Thread → Point
  owner : Mutex → Option Thread
  data : Data

namespace LockProgram

variable {Thread Mutex Point Data Input : Type} [DecidableEq Thread] [DecidableEq Mutex]
  (program : LockProgram Mutex Point Data Input)

/-- One step of a thread.  A thread that meets a taken mutex stays where it is. -/
def step (state : LockState Thread Mutex Point Data) (event : Thread × Input) :
    LockState Thread Mutex Point Data :=
  let (thread, input) := event
  match program.action (state.point thread) state.data input with
  | .lock mutex next =>
      if state.owner mutex = none then
        { point := Function.update state.point thread next
          owner := Function.update state.owner mutex (some thread)
          data := program.update (state.point thread) state.data input }
      else state
  | .unlock mutex next =>
      { point := Function.update state.point thread next
        owner := Function.update state.owner mutex none
        data := program.update (state.point thread) state.data input }
  | .jump next =>
      { point := Function.update state.point thread next
        owner := state.owner
        data := program.update (state.point thread) state.data input }

/-- The owner of a mutex is the thread that stands where the program holds it. -/
def Consistent (state : LockState Thread Mutex Point Data) : Prop :=
  ∀ mutex thread, state.owner mutex = some thread ↔ program.holds (state.point thread) mutex

variable {program}

/-- The point of a thread changes with its own steps only. -/
theorem step_point_other {state : LockState Thread Mutex Point Data} {thread other : Thread}
    {input : Input} (different : other ≠ thread) :
    (program.step state (thread, input)).point other = state.point other := by
  unfold step
  simp only
  split
  · split
    · exact Function.update_of_ne different ..
    · rfl
  · exact Function.update_of_ne different ..
  · exact Function.update_of_ne different ..

/-- A step brings a thread behind its action, or finds the mutex taken. -/
theorem step_point_self (program : LockProgram Mutex Point Data Input)
    (state : LockState Thread Mutex Point Data) (thread : Thread) (input : Input) :
    program.step state (thread, input) = state ∨
      (∀ mutex next, program.action (state.point thread) state.data input = .lock mutex next →
        state.owner mutex = none) ∧
      (program.step state (thread, input)).point thread =
        (program.action (state.point thread) state.data input).next := by
  unfold step
  simp only
  cases action : program.action (state.point thread) state.data input with
  | lock mutex next =>
      by_cases free : state.owner mutex = none
      · refine Or.inr ⟨?_, by simp [free, LockAction.next]⟩
        intro other otherNext same
        cases same
        exact free
      · exact Or.inl (if_neg free)
  | unlock mutex next => exact Or.inr ⟨by simp, by simp [LockAction.next]⟩
  | jump next => exact Or.inr ⟨by simp, by simp [LockAction.next]⟩

/-- A mutex gets another owner as a thread goes on. -/
theorem Consistent.reassign {state : LockState Thread Mutex Point Data}
    (consistent : program.Consistent state) {thread : Thread} {mutex : Mutex} {next : Point}
    {owner : Option Thread} (here : owner = some thread ↔ program.holds next mutex)
    (elsewhere : ∀ other, other ≠ mutex →
      (program.holds next other ↔ program.holds (state.point thread) other))
    (others : ∀ holder, holder ≠ thread →
      owner ≠ some holder ∧ ¬ program.holds (state.point holder) mutex) (data : Data) :
    program.Consistent
      ⟨Function.update state.point thread next, Function.update state.owner mutex owner, data⟩ := by
  intro other holder
  by_cases sameMutex : other = mutex <;> by_cases sameThread : holder = thread
  · subst sameMutex sameThread
    simpa using here
  · subst sameMutex
    obtain ⟨notOwner, notHeld⟩ := others holder sameThread
    simp [Function.update_of_ne sameThread, notOwner, notHeld]
  · subst sameThread
    simp [sameMutex, elsewhere other sameMutex, consistent other holder]
  · simp [Function.update_of_ne sameMutex, Function.update_of_ne sameThread,
      consistent other holder]

/-- Ownership follows the points along every step. -/
theorem step_consistent {state : LockState Thread Mutex Point Data}
    (consistent : program.Consistent state) (event : Thread × Input) :
    program.Consistent (program.step state event) := by
  rcases event with ⟨thread, input⟩
  unfold step
  simp only
  cases action : program.action (state.point thread) state.data input with
  | lock mutex next =>
      have table := program.holds_lock action
      by_cases free : state.owner mutex = none
      · simp only [free, if_true]
        apply consistent.reassign
        · simp [table]
        · intro other different
          simp [table, different]
        · intro holder different
          rw [← consistent mutex holder, free]
          simp [Ne.symm different]
      · simp only [free, if_false]
        exact consistent
  | unlock mutex next =>
      rcases program.holds_unlock action with ⟨held, table⟩
      apply consistent.reassign
      · simp [table]
      · intro other different
        simp [table, different]
      · intro holder different
        rw [← consistent mutex holder, (consistent mutex thread).mpr held]
        simp [Ne.symm different]
  | jump next =>
      have table := program.holds_jump action
      intro other holder
      by_cases sameThread : holder = thread
      · subst sameThread
        simp [table, consistent other holder]
      · simp [Function.update_of_ne sameThread, consistent other holder]

omit [DecidableEq Thread] [DecidableEq Mutex] in
/-- No two threads hold one mutex. -/
theorem eq_of_holds {state : LockState Thread Mutex Point Data}
    (consistent : program.Consistent state) {mutex : Mutex} {first second : Thread}
    (firstHolds : program.holds (state.point first) mutex)
    (secondHolds : program.holds (state.point second) mutex) : first = second := by
  have firstOwner := (consistent mutex first).mpr firstHolds
  have secondOwner := (consistent mutex second).mpr secondHolds
  exact Option.some.inj (firstOwner.symm.trans secondOwner)

variable (program)

/-- A thread stands before a mutex that another one, or it itself, holds. -/
def WaitsFor (state : LockState Thread Mutex Point Data) (waiting owning : Thread) : Prop :=
  ∃ input mutex next,
    program.action (state.point waiting) state.data input = .lock mutex next ∧
      state.owner mutex = some owning

/-- A cycle of waiting threads. -/
def Deadlocked (state : LockState Thread Mutex Point Data) : Prop :=
  ∃ thread, Relation.TransGen (program.WaitsFor state) thread thread

variable {program}

omit [DecidableEq Thread] [DecidableEq Mutex] in
/-- A rank that falls along every wait excludes cycles. -/
theorem not_deadlocked_of_rank {state : LockState Thread Mutex Point Data} (rank : Thread → Nat)
    (falls : ∀ {waiting owning}, program.WaitsFor state waiting owning →
      rank owning < rank waiting) : ¬ program.Deadlocked state := by
  rintro ⟨thread, cycle⟩
  have descends : ∀ {last}, Relation.TransGen (program.WaitsFor state) thread last →
      rank last < rank thread := by
    intro last path
    induction path with
    | single wait => exact falls wait
    | tail _ wait ih => exact Nat.lt_trans (falls wait) ih
  exact absurd (descends cycle) (Nat.lt_irrefl _)

end LockProgram

end DlpSystem.Lib
