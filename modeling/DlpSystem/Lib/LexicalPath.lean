import Mathlib.Data.List.Induction
import Mathlib.Data.List.Infix

/-!
# Walks along the components of a path

A path is a list of steps: stay, go up, or go down by a name.  A walk resolves the steps from
left to right.  From a top that has no parent a step up leads nowhere; from any other start
the steps above it are counted.  Steps that never climb above the place they start at lead
there or below it.
-/

namespace DlpSystem.Lib

universe u

variable {α : Type u}

/-- A component of a path. -/
inductive PathStep (α : Type u)
  | stay
  | up
  | down (name : α)
  deriving DecidableEq

/-- A directory: the steps above the start of the walk, and the names below those. -/
structure Place (α : Type u) where
  ups : Nat
  names : List α
  deriving DecidableEq

namespace Place

/-- Where a walk starts. -/
def start : Place α :=
  ⟨0, []⟩

/-- The place after a step.  The start is the top if the walk is rooted. -/
def next (rooted : Bool) (place : Place α) : PathStep α → Place α
  | .stay => place
  | .up =>
      match place.names with
      | [] => if rooted then place else ⟨place.ups + 1, []⟩
      | names => ⟨place.ups, names.dropLast⟩
  | .down name => ⟨place.ups, place.names ++ [name]⟩

/-- The place after some steps. -/
def walk (rooted : Bool) (place : Place α) (steps : List (PathStep α)) : Place α :=
  steps.foldl (next rooted) place

/-- The other place is this one, or lies below it. -/
def Covers (place other : Place α) : Prop :=
  place.ups = other.ups ∧ place.names <+: other.names

instance [DecidableEq α] (place other : Place α) : Decidable (place.Covers other) :=
  inferInstanceAs (Decidable (place.ups = other.ups ∧ place.names <+: other.names))

/-- The steps never climb above the place they start at. -/
def StaysBelow (steps : List (PathStep α)) : Prop :=
  (walk false start steps).ups = 0

instance (steps : List (PathStep α)) : Decidable (StaysBelow steps) :=
  inferInstanceAs (Decidable ((walk false start steps).ups = 0))

variable {rooted : Bool} {place : Place α} {steps front back : List (PathStep α)}
  {step : PathStep α}

@[simp]
theorem walk_nil : walk rooted place [] = place :=
  rfl

theorem walk_append :
    walk rooted place (front ++ back) = walk rooted (walk rooted place front) back := by
  rw [walk, List.foldl_append, walk, walk]

theorem walk_concat :
    walk rooted place (steps ++ [step]) = next rooted (walk rooted place steps) step := by
  rw [walk, List.foldl_concat, walk]

theorem next_up_concat (ups : Nat) (names : List α) (name : α) :
    next rooted ⟨ups, names ++ [name]⟩ .up = ⟨ups, names⟩ := by
  rw [next]
  split
  · rename_i empty
    simp at empty
  · simp

/-- Steps above the start are never taken back. -/
theorem ups_le_next : place.ups ≤ (next rooted place step).ups := by
  cases step with
  | stay => exact le_refl _
  | down name => exact le_refl _
  | up =>
      rw [next]
      split
      · split
        · exact le_refl _
        · exact Nat.le_succ _
      · exact le_refl _

theorem StaysBelow.of_concat (stays : StaysBelow (steps ++ [step])) : StaysBelow steps := by
  rw [StaysBelow, walk_concat] at stays
  exact Nat.le_zero.mp (stays ▸ ups_le_next)

/-- Steps that stay below lead to the same names from every place. -/
theorem walk_of_staysBelow (stays : StaysBelow steps) :
    walk rooted place steps = ⟨place.ups, place.names ++ (walk false start steps).names⟩ := by
  induction steps using List.reverseRecOn with
  | nil => simp [start]
  | append_singleton steps step ih =>
      have before := stays.of_concat
      rw [StaysBelow, walk_concat] at stays
      rw [walk_concat, walk_concat, ih before]
      have level : walk false start steps = ⟨0, (walk false start steps).names⟩ := by
        rw [StaysBelow] at before
        rw [← before]
      rw [level] at stays ⊢
      cases step with
      | stay => rfl
      | down name => simp [next]
      | up =>
          rcases List.eq_nil_or_concat (walk false start steps).names with
            top | ⟨names, name, below⟩
          · rw [top] at stays
            cases stays
          · rw [below, List.concat_eq_append, ← List.append_assoc, next_up_concat, next_up_concat]

theorem covers_walk_of_staysBelow (stays : StaysBelow steps) :
    place.Covers (walk rooted place steps) := by
  rw [walk_of_staysBelow stays]
  exact ⟨rfl, List.prefix_append _ _⟩

end Place

end DlpSystem.Lib
