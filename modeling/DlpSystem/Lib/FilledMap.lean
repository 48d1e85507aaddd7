import Mathlib.Data.List.AList
import Mathlib.Data.List.Induction
import Mathlib.Logic.Function.Basic
import Mathlib.Order.Lattice

/-!
# Maps that are filled from a list

Each item is filed under its key, if it has one, over what was filed there before.  A
lookup finds the last item of the key, which in a list of ascending ranks is the one of the
highest rank.
-/

namespace DlpSystem.Lib

universe u v w

variable {α : Type u} {κ : Type v} [DecidableEq κ]

/-- The map after every item was filed under its key. -/
def fillMap (key : α → Option κ) (items : List α) : AList fun _ : κ => α :=
  items.foldl
    (fun map item =>
      match key item with
      | some place => map.insert place item
      | none => map) ∅

variable {key : α → Option κ}

/-- A lookup finds the last item of the key. -/
theorem lookup_fillMap (items : List α) (place : κ) :
    (fillMap key items).lookup place =
      items.reverse.find? fun item => decide (key item = some place) := by
  induction items using List.reverseRecOn with
  | nil => rfl
  | append_singleton items last ih =>
      have step : fillMap key (items ++ [last]) =
          match key last with
          | some place => (fillMap key items).insert place last
          | none => fillMap key items := by
        rw [fillMap, List.foldl_concat]
        rfl
      rw [step, List.reverse_concat, List.find?_cons]
      cases filed : key last with
      | none => simpa using ih
      | some other =>
          by_cases same : place = other
          · subst same
            simp
          · have passed : decide (some other = some place) = false := by
              simpa using Ne.symm same
            simp only [AList.lookup_insert_ne same, passed]
            exact ih

/-- An item that is found under a key is in the list, and has that key. -/
theorem mem_of_lookup_fillMap {items : List α} {place : κ} {item : α}
    (found : (fillMap key items).lookup place = some item) :
    item ∈ items ∧ key item = some place := by
  rw [lookup_fillMap] at found
  constructor
  · exact List.mem_reverse.mp (List.mem_of_find?_eq_some found)
  · simpa using List.find?_some found

/-- Something is found under the key of an item. -/
theorem exists_lookup_fillMap {items : List α} {place : κ} {item : α} (member : item ∈ items)
    (filed : key item = some place) :
    ∃ found, (fillMap key items).lookup place = some found := by
  rw [lookup_fillMap]
  apply Option.isSome_iff_exists.mp
  rw [List.find?_isSome]
  exact ⟨item, List.mem_reverse.mpr member, by simpa using filed⟩

/-- In a list of ascending ranks the item that is found has the highest rank. -/
theorem rank_le_of_lookup_fillMap {ρ : Type w} [LinearOrder ρ] {rank : α → ρ} {items : List α}
    (ascending : items.Pairwise fun left right => rank left ≤ rank right) {place : κ}
    {item other : α} (found : (fillMap key items).lookup place = some item)
    (member : other ∈ items) (filed : key other = some place) : rank other ≤ rank item := by
  rw [lookup_fillMap] at found
  obtain ⟨-, behind, before, split, passed⟩ := List.find?_eq_some_iff_append.mp found
  have order : items = before.reverse ++ item :: behind.reverse := by
    rw [← List.reverse_reverse items, split]
    simp
  rw [order] at ascending member
  rcases List.mem_append.mp member with earlier | later
  · exact (List.pairwise_append.mp ascending).2.2 other earlier item List.mem_cons_self
  · rcases List.mem_cons.mp later with rfl | later
    · exact le_refl _
    · have skipped := passed other (List.mem_reverse.mp later)
      simp [filed] at skipped

/-! ## Maps as functions -/

/-- The map after pairs were written in turn has the keys of the pairs. -/
theorem foldl_update_isSome_iff {ν : Type w} (pairs : List (κ × ν)) (place : κ) :
    ((pairs.foldl (fun (map : κ → Option ν) pair => Function.update map pair.1 (some pair.2))
        fun _ => none) place).isSome = true ↔
      ∃ value, (place, value) ∈ pairs := by
  induction pairs using List.reverseRecOn with
  | nil => simp
  | append_singleton pairs last ih =>
      rw [List.foldl_concat]
      by_cases same : place = last.1
      · subst same
        simp only [Function.update_self, Option.isSome_some, true_iff]
        exact ⟨last.2, by simp⟩
      · rw [Function.update_of_ne same, ih]
        apply exists_congr
        intro value
        have other : (place, value) ≠ last := fun equal => same (congrArg Prod.fst equal)
        simp [other]

end DlpSystem.Lib
