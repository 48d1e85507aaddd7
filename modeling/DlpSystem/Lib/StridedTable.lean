import Mathlib.Logic.Function.Basic
import Mathlib.Tactic.Ring

/-!
# Tables in an addressed memory

A memory maps byte offsets to entries of one kind.  A table is the view of the
memory at `offset`, `offset + stride`, and so on.  The file relates writes to the
memory with writes to the table.
-/

namespace DlpSystem.Lib

variable {α : Type}

/-- Write a list of entries to a table, from entry `index` on. -/
def writeAll (offset stride : Nat) : (Nat → α) → Nat → List α → Nat → α
  | memory, _, [] => memory
  | memory, index, entry :: rest =>
      writeAll offset stride (Function.update memory (offset + index * stride) entry)
        (index + 1) rest

variable {offset stride : Nat} {memory : Nat → α}

theorem strided_inj (positive : 0 < stride) {left right : Nat} :
    offset + left * stride = offset + right * stride ↔ left = right := by
  rw [Nat.add_left_cancel_iff, Nat.mul_left_inj (by omega)]

/-- Writing the slot of one entry is updating the table at that entry. -/
theorem update_strided (positive : 0 < stride) (index : Nat) (entry : α) :
    (fun place => Function.update memory (offset + index * stride) entry
      (offset + place * stride)) =
      Function.update (fun place => memory (offset + place * stride)) index entry := by
  funext place
  by_cases same : place = index
  · subst same
    simp
  · rw [Function.update_of_ne same, Function.update_of_ne]
    exact fun equal => same ((strided_inj positive).mp equal)

theorem writeAll_outside {index : Nat} {entries : List α} {address : Nat}
    (outside : ∀ place, index ≤ place → place < index + entries.length →
      address ≠ offset + place * stride) :
    writeAll offset stride memory index entries address = memory address := by
  induction entries generalizing memory index with
  | nil => rfl
  | cons entry rest ih =>
      rw [writeAll, ih]
      · refine Function.update_of_ne ?_ entry memory
        exact outside index (Nat.le_refl index) (by simp)
      · intro place atLeast atMost
        apply outside place (by omega)
        simp only [List.length_cons]
        omega

theorem writeAll_inside (positive : 0 < stride) {index : Nat} {entries : List α} {place : Nat}
    (inside : place < entries.length) :
    writeAll offset stride memory index entries (offset + (index + place) * stride) =
      entries[place] := by
  induction entries generalizing memory index place with
  | nil => simp at inside
  | cons entry rest ih =>
      rw [writeAll]
      cases place with
      | zero =>
          rw [writeAll_outside]
          · simp
          · intro other atLeast _ equal
            have same : index + 0 = other := (strided_inj positive).mp equal
            omega
      | succ place =>
          have shifted : index + (place + 1) = index + 1 + place := by ring
          rw [shifted, ih (by simpa using inside), List.getElem_cons_succ]

/-- A table written as a whole holds the entries of the list. -/
theorem writeAll_get (positive : 0 < stride) {entries : List α} {place : Nat}
    (inside : place < entries.length) :
    writeAll offset stride memory 0 entries (offset + place * stride) = entries[place] := by
  have written : writeAll offset stride memory 0 entries (offset + (0 + place) * stride) =
      entries[place] := writeAll_inside positive inside
  rwa [Nat.zero_add] at written

/-- A table filled with one entry. -/
theorem writeAll_replicate (positive : 0 < stride) {count place : Nat} (entry : α)
    (inside : place < count) :
    writeAll offset stride memory 0 (List.replicate count entry) (offset + place * stride) =
      entry := by
  have listed : place < (List.replicate count entry).length := by simpa using inside
  rw [writeAll_get positive listed, List.getElem_replicate]

/-- Writing entries that are already in place changes nothing. -/
theorem writeAll_eq_self {index : Nat} {entries : List α}
    (inPlace : ∀ place (inside : place < entries.length),
      memory (offset + (index + place) * stride) = entries[place]) :
    writeAll offset stride memory index entries = memory := by
  induction entries generalizing memory index with
  | nil => rfl
  | cons entry rest ih =>
      have first : memory (offset + index * stride) = entry :=
        inPlace 0 (Nat.succ_pos rest.length)
      have unchanged : Function.update memory (offset + index * stride) entry = memory := by
        rw [← first, Function.update_eq_self]
      rw [writeAll, unchanged]
      apply ih
      intro place inside
      have shifted : index + 1 + place = index + (place + 1) := by ring
      rw [shifted, inPlace (place + 1) (by simpa using inside), List.getElem_cons_succ]

end DlpSystem.Lib
