import Mathlib.Data.List.Induction
import Mathlib.Logic.Function.Basic

/-!
# A log kept in slots

A producer writes its values one after the other, the value number `i` into the
slot `slotOf i`.  Slots are reused; what a slot holds is the last value that was
written into it.
-/

namespace DlpSystem.Lib

universe u

variable {α : Type u} (slotOf : Nat → Nat) (blank : Nat → α)

/-- The memory after all values have been written. -/
def replay (values : List α) : Nat → α :=
  values.zipIdx.foldl (fun memory item => Function.update memory (slotOf item.2) item.1) blank

@[simp]
theorem replay_nil : replay slotOf blank [] = blank :=
  rfl

theorem replay_append_singleton (values : List α) (value : α) :
    replay slotOf blank (values ++ [value]) =
      Function.update (replay slotOf blank values) (slotOf values.length) value := by
  simp [replay, List.zipIdx_append]

variable {slotOf blank}

/-- A value that no later one has displaced is still in its slot. -/
theorem replay_of_latest {values : List α} {index : Nat} (bound : index < values.length)
    (latest : ∀ later, index < later → later < values.length → slotOf later ≠ slotOf index) :
    values[index]? = some (replay slotOf blank values (slotOf index)) := by
  induction values using List.reverseRecOn with
  | nil => exact absurd bound (Nat.not_lt_zero index)
  | append_singleton values value ih =>
      rw [replay_append_singleton]
      by_cases last : index = values.length
      · subst last
        simp
      · have earlier : index < values.length := by
          simp only [List.length_append, List.length_singleton] at bound
          omega
        have displaced := latest values.length earlier (by simp)
        rw [Function.update_of_ne displaced.symm, List.getElem?_append_left earlier]
        refine ih earlier fun later after below => latest later after ?_
        simp only [List.length_append, List.length_singleton]
        omega

end DlpSystem.Lib
