import DlpSystem.Lib.EventRun
import Mathlib.Data.List.Nodup
import Mathlib.Logic.Function.Basic

/-!
# Calls that read a value and then replace it

Calls share one value.  Each reads it once, prepares from it what it is going to write, and
writes that in a later step, with steps of the other calls in between.  A call that reads and
writes in one transaction is refused if another call has written since it has read.

If no call writes what it has prepared from an outdated value, then the calls that succeed
have the effect of running alone, one after the other, in the order in which they write.
-/

namespace DlpSystem.Lib

variable {ι α ε : Type}

/-- A call: what it prepares from the value that it reads. -/
structure RewriteCall (α ε : Type) where
  prepare : α → Except ε α
  transactional : Bool

/-- How far a call has come.  `seen` is the number of writes before it has read. -/
inductive RewriteStage (α : Type)
  | waiting
  | prepared (value : α) (seen : Nat)
  | succeeded
  | failed
  deriving DecidableEq

/-- What a call that is to write has seen. -/
def RewriteStage.seen? : RewriteStage α → Option Nat
  | .prepared _ seen => some seen
  | _ => none

/-- The value, the stages of the calls, and which calls have written, in order. -/
structure Rewriting (ι α : Type) where
  value : α
  stages : ι → RewriteStage α
  order : List ι

/-- The next step of a call, which may fail when it is to write. -/
structure RewriteStep (ι : Type) where
  call : ι
  fails : Bool
  deriving DecidableEq

namespace Rewriting

/-- No call has begun. -/
def start (value : α) : Rewriting ι α :=
  ⟨value, fun _ => .waiting, []⟩

section Steps

variable [DecidableEq ι] (calls : ι → RewriteCall α ε)

/-- The effect of a step. -/
def next (state : Rewriting ι α) (step : RewriteStep ι) : Rewriting ι α :=
  match state.stages step.call with
  | .waiting =>
      match (calls step.call).prepare state.value with
      | .ok value =>
          { state with
            stages := Function.update state.stages step.call (.prepared value state.order.length) }
      | .error _ => { state with stages := Function.update state.stages step.call .failed }
  | .prepared value seen =>
      if step.fails ∨ (calls step.call).transactional ∧ seen ≠ state.order.length then
        { state with stages := Function.update state.stages step.call .failed }
      else
        { value := value
          stages := Function.update state.stages step.call .succeeded
          order := state.order ++ [step.call] }
  | .succeeded => state
  | .failed => state

/-- What a call does alone. -/
def alone (value : α) (call : ι) : α :=
  match (calls call).prepare value with
  | .ok prepared => prepared
  | .error _ => value

/-- The value is that of the calls that have succeeded, run alone one after the other. -/
def Serial (initial : α) (state : Rewriting ι α) : Prop :=
  ∃ order : List ι, order.Nodup ∧ (∀ call, call ∈ order ↔ state.stages call = .succeeded) ∧
    state.value = order.foldl (alone calls) initial

/-- A write without a transaction is of a call that has seen all writes, or that does not
depend on what it reads. -/
def WritesCurrent (state : Rewriting ι α) (step : RewriteStep ι) : Prop :=
  ∀ seen ∈ (state.stages step.call).seen?, step.fails = false →
    (calls step.call).transactional = false →
      seen = state.order.length ∨
        ∀ left right, (calls step.call).prepare left = (calls step.call).prepare right

/-- The calls that have written are those that have succeeded; a call has prepared its value
from some read; and what it has prepared since the last write it would prepare now. -/
structure Invariant (initial : α) (state : Rewriting ι α) : Prop where
  once : state.order.Nodup
  written : ∀ call, call ∈ state.order ↔ state.stages call = .succeeded
  value : state.value = state.order.foldl (alone calls) initial
  seen : ∀ call value seen, state.stages call = .prepared value seen →
    seen ≤ state.order.length
  made : ∀ call value seen, state.stages call = .prepared value seen →
    ∃ read, (calls call).prepare read = .ok value
  current : ∀ call value, state.stages call = .prepared value state.order.length →
    (calls call).prepare state.value = .ok value

variable {calls} {initial : α} {state : Rewriting ι α}

omit [DecidableEq ι] in
theorem invariant_start (initial : α) : Invariant calls initial (start initial) where
  once := List.nodup_nil
  written call := by simp [start]
  value := rfl
  seen call value seen prepared := by cases prepared
  made call value seen prepared := by cases prepared
  current call value prepared := by cases prepared

omit [DecidableEq ι] in
theorem Invariant.serial (invariant : Invariant calls initial state) :
    Serial calls initial state :=
  ⟨state.order, invariant.once, invariant.written, invariant.value⟩

/-- A call that has not written comes to a stage without having written. -/
theorem Invariant.set_stage (invariant : Invariant calls initial state) {call : ι}
    {stage : RewriteStage α} (unwritten : state.stages call ≠ .succeeded)
    (unwriting : stage ≠ .succeeded)
    (prepares : ∀ value seen, stage = .prepared value seen →
      seen = state.order.length ∧ (calls call).prepare state.value = .ok value) :
    Invariant calls initial { state with stages := Function.update state.stages call stage } where
  once := invariant.once
  written other := by
    by_cases same : other = call
    · subst same
      simp only [Function.update_self, unwriting, iff_false]
      exact fun member => unwritten ((invariant.written other).mp member)
    · simp only [Function.update_of_ne same]
      exact invariant.written other
  value := invariant.value
  seen other value seen prepared := by
    by_cases same : other = call
    · subst same
      simp only [Function.update_self] at prepared
      exact Nat.le_of_eq (prepares value seen prepared).1
    · simp only [Function.update_of_ne same] at prepared
      exact invariant.seen other value seen prepared
  made other value seen prepared := by
    by_cases same : other = call
    · subst same
      simp only [Function.update_self] at prepared
      exact ⟨_, (prepares value seen prepared).2⟩
    · simp only [Function.update_of_ne same] at prepared
      exact invariant.made other value seen prepared
  current other value prepared := by
    by_cases same : other = call
    · subst same
      simp only [Function.update_self] at prepared
      exact (prepares value _ prepared).2
    · simp only [Function.update_of_ne same] at prepared
      exact invariant.current other value prepared

/-- A call writes what it would prepare now. -/
theorem Invariant.write (invariant : Invariant calls initial state) {call : ι} {value : α}
    (unwritten : state.stages call ≠ .succeeded)
    (now : (calls call).prepare state.value = .ok value) :
    Invariant calls initial
      { value := value
        stages := Function.update state.stages call .succeeded
        order := state.order ++ [call] } where
  once := by
    apply invariant.once.append (List.nodup_singleton call)
    simpa using fun member => unwritten ((invariant.written call).mp member)
  written other := by
    by_cases same : other = call
    · subst same
      simp
    · simp only [List.mem_append, List.mem_singleton, same, or_false, Function.update_of_ne same]
      exact invariant.written other
  value := by
    simp only [List.foldl_append, List.foldl_cons, List.foldl_nil, ← invariant.value]
    rw [alone, now]
  seen other old seen prepared := by
    by_cases same : other = call
    · subst same
      simp only [Function.update_self] at prepared
      cases prepared
    · simp only [Function.update_of_ne same] at prepared
      simp only [List.length_append, List.length_singleton]
      exact Nat.le_trans (invariant.seen other old seen prepared) (Nat.le_succ _)
  made other old seen prepared := by
    by_cases same : other = call
    · subst same
      simp only [Function.update_self] at prepared
      cases prepared
    · simp only [Function.update_of_ne same] at prepared
      exact invariant.made other old seen prepared
  current other old prepared := by
    by_cases same : other = call
    · subst same
      simp only [Function.update_self] at prepared
      cases prepared
    · -- No other call has seen this write.
      simp only [Function.update_of_ne same] at prepared
      have before := invariant.seen other old _ prepared
      simp only [List.length_append, List.length_singleton] at before
      omega

/-- A step that writes nothing outdated keeps the invariant. -/
theorem Invariant.next {step : RewriteStep ι} (invariant : Invariant calls initial state)
    (current : WritesCurrent calls state step) :
    Invariant calls initial (state.next calls step) := by
  unfold Rewriting.next
  cases stage : state.stages step.call with
  | waiting =>
      have unwritten : state.stages step.call ≠ .succeeded := by simp [stage]
      cases made : (calls step.call).prepare state.value with
      | ok value =>
          apply invariant.set_stage unwritten (by simp)
          rintro other seen ⟨⟩
          exact ⟨rfl, made⟩
      | error failure =>
          apply invariant.set_stage unwritten (by simp)
          rintro value seen ⟨⟩
  | prepared value seen =>
      have unwritten : state.stages step.call ≠ .succeeded := by simp [stage]
      simp only
      split
      · apply invariant.set_stage unwritten (by simp)
        rintro other when ⟨⟩
      · rename_i writes
        obtain ⟨commits, notOutdated⟩ := not_or.mp writes
        apply invariant.write unwritten
        cases inTransaction : (calls step.call).transactional with
        | true =>
            have seenAll : seen = state.order.length := by
              by_contra outdated
              exact notOutdated ⟨inTransaction, outdated⟩
            exact invariant.current step.call value (seenAll ▸ stage)
        | false =>
            have isSeen : seen ∈ (state.stages step.call).seen? := by
              rw [stage]
              rfl
            rcases current seen isSeen (Bool.eq_false_iff.mpr commits) inTransaction with
              seenAll | anyRead
            · exact invariant.current step.call value (seenAll ▸ stage)
            · obtain ⟨read, made⟩ := invariant.made step.call value seen stage
              rw [anyRead state.value read, made]
  | succeeded => exact invariant
  | failed => exact invariant

/-- In a run that writes nothing outdated the calls have a serial order. -/
theorem serial_of_writesCurrent {steps : List (RewriteStep ι)}
    (current : Each (next calls) (WritesCurrent calls) (start initial) steps) :
    Serial calls initial (steps.foldl (next calls) (start initial)) := by
  have invariant : Invariant calls initial (steps.foldl (next calls) (start initial)) := by
    apply Each.invariant _ current (invariant_start initial)
    intro state step holds writes
    exact holds.next writes
  exact invariant.serial

/-- Transactions always have a serial order. -/
theorem serial_of_transactional (transactional : ∀ call, (calls call).transactional = true)
    (initial : α) (steps : List (RewriteStep ι)) :
    Serial calls initial (steps.foldl (next calls) (start initial)) := by
  apply serial_of_writesCurrent
  rw [each_iff_cuts]
  intro before step after _ seen _ _ outside
  cases (transactional step.call).symm.trans outside

end Steps

end Rewriting

end DlpSystem.Lib
