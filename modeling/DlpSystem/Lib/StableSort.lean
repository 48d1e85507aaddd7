import Mathlib.Data.List.Sort
import Mathlib.Data.List.MinMax

/-!
# First match in a table sorted by descending key

A table that is searched from the front returns the first entry that the search
accepts.  When the table was sorted by descending key with a stable sort, that
entry has the largest key of all accepted entries, and among entries of that
key it is the one that stood first in the unsorted list.  In Mathlib's terms it
is the `argmax` of the accepted entries.

A table that is sorted by ascending key can be cut down to some of its rows and columns
before or after the sort, if the key can be told from what is left of a row.
-/

namespace DlpSystem.Lib

variable {α : Type}

/-- Sort by descending key.  The sort is stable. -/
def sortDescending (key : α → Nat) (entries : List α) : List α :=
  entries.insertionSort fun left right => key right ≤ key left

theorem pairwise_sortDescending (key : α → Nat) (entries : List α) :
    (sortDescending key entries).Pairwise fun left right => key right ≤ key left := by
  have total : Std.Total fun left right : α => key right ≤ key left :=
    ⟨fun left right => Nat.le_total (key right) (key left)⟩
  have transitive : IsTrans α fun left right => key right ≤ key left :=
    ⟨fun _ _ _ first second => Nat.le_trans second first⟩
  exact List.pairwise_insertionSort _ entries

theorem perm_sortDescending (key : α → Nat) (entries : List α) :
    (sortDescending key entries).Perm entries :=
  List.perm_insertionSort _ entries

@[simp]
theorem length_sortDescending (key : α → Nat) (entries : List α) :
    (sortDescending key entries).length = entries.length :=
  (perm_sortDescending key entries).length_eq

/-- The sort only looks at the keys. -/
theorem map_sortDescending {β : Type} (key : β → Nat) (f : α → β) (entries : List α) :
    (sortDescending (fun entry => key (f entry)) entries).map f =
      sortDescending key (entries.map f) :=
  List.map_insertionSort _ _ f entries fun _ _ _ _ => Iff.rfl

/-- Inserting an entry that the search rejects does not change its result. -/
private theorem find?_orderedInsert_of_rejected {accept : α → Bool} (key : α → Nat)
    {entry : α} (rejected : accept entry = false) (table : List α) :
    (table.orderedInsert (fun left right => key right ≤ key left) entry).find? accept =
      table.find? accept := by
  induction table with
  | nil => simp [rejected]
  | cons first rest ih =>
      rw [List.orderedInsert_cons]
      split
      · simp [rejected]
      · simp only [List.find?_cons, ih]

/-- Inserting an entry that the search accepts: it is found unless an accepted
entry with a strictly larger key is already in the table. -/
private theorem find?_orderedInsert_of_accepted {accept : α → Bool} (key : α → Nat)
    {entry : α} (accepted : accept entry = true) {table : List α}
    (sorted : table.Pairwise fun left right => key right ≤ key left) :
    (table.orderedInsert (fun left right => key right ≤ key left) entry).find? accept =
      match table.find? accept with
      | none => some entry
      | some found => if key entry < key found then some found else some entry := by
  induction table with
  | nil => simp [accepted]
  | cons first rest ih =>
      rcases List.pairwise_cons.mp sorted with ⟨largest, sortedRest⟩
      rw [List.orderedInsert_cons]
      split
      · rename_i goesFirst
        simp only [List.find?_cons_of_pos accepted]
        cases found : (first :: rest).find? accept with
        | none => rfl
        | some other =>
            -- Everything in the table has a key of at most that of `first`.
            have small : key other ≤ key first := by
              rcases List.mem_cons.mp (List.mem_of_find?_eq_some found) with rfl | inRest
              · exact Nat.le_refl _
              · exact largest other inRest
            simp only [Nat.not_lt.mpr (Nat.le_trans small goesFirst), if_false]
      · rename_i goesLater
        cases acceptFirst : accept first with
        | true =>
            simp only [List.find?_cons_of_pos acceptFirst, Nat.not_le.mp goesLater, if_true]
        | false =>
            simp only [List.find?_cons, acceptFirst]
            exact ih sortedRest

/-- The first match in the sorted table is the match with the largest key, the
earliest one of the original list if there are several. -/
theorem find?_sortDescending (key : α → Nat) (accept : α → Bool) (entries : List α) :
    (sortDescending key entries).find? accept = (entries.filter accept).argmax key := by
  induction entries with
  | nil => rfl
  | cons entry rest ih =>
      have unfolded : sortDescending key (entry :: rest) =
          (sortDescending key rest).orderedInsert
            (fun left right => key right ≤ key left) entry := rfl
      rw [unfolded]
      cases accepted : accept entry with
      | false =>
          rw [find?_orderedInsert_of_rejected key accepted, ih,
            List.filter_cons_of_neg (by simp [accepted])]
      | true =>
          rw [find?_orderedInsert_of_accepted key accepted (pairwise_sortDescending key rest),
            ih, List.filter_cons_of_pos accepted, List.argmax_cons]
          cases (rest.filter accept).argmax key with
          | none => rfl
          | some found => rfl

/-! ## Ascending keys -/

section Ascending

universe u

variable {β : Type} {κ : Type u} [LinearOrder κ]

/-- Sort by ascending key.  The sort is stable. -/
def sortAscending (key : α → κ) (rows : List α) : List α :=
  rows.insertionSort fun left right => key left ≤ key right

@[simp]
theorem mem_sortAscending (key : α → κ) (rows : List α) (row : α) :
    row ∈ sortAscending key rows ↔ row ∈ rows :=
  List.mem_insertionSort _

@[simp]
theorem sortAscending_eq_nil_iff (key : α → κ) (rows : List α) :
    sortAscending key rows = [] ↔ rows = [] := by
  rw [← List.length_eq_zero_iff, ← List.length_eq_zero_iff, sortAscending,
    List.length_insertionSort]

theorem pairwise_sortAscending (key : α → κ) (rows : List α) :
    (sortAscending key rows).Pairwise fun left right => key left ≤ key right := by
  have total : Std.Total fun left right : α => key left ≤ key right :=
    ⟨fun left right => le_total (key left) (key right)⟩
  have transitive : IsTrans α fun left right => key left ≤ key right :=
    ⟨fun _ _ _ first second => first.trans second⟩
  exact List.pairwise_insertionSort _ rows

/-- Rows with different keys are sorted strictly. -/
theorem pairwise_lt_sortAscending {key : α → κ} {rows : List α}
    (distinct : rows.Pairwise fun left right => key left ≠ key right) :
    (sortAscending key rows).Pairwise fun left right => key left < key right := by
  have distinctSorted : (sortAscending key rows).Pairwise fun left right =>
      key left ≠ key right :=
    ((List.perm_insertionSort _ rows).pairwise_iff fun ne => ne.symm).mpr distinct
  apply ((pairwise_sortAscending key rows).and distinctSorted).imp
  rintro left right ⟨le, ne⟩
  exact lt_of_le_of_ne le ne

/-- In rows that are sorted strictly the first accepted row is the accepted one with the
least key. -/
theorem find?_eq_some_iff_least {key : α → κ} {accept : α → Bool} {rows : List α}
    (sorted : rows.Pairwise fun left right => key left < key right) {row : α} :
    rows.find? accept = some row ↔
      row ∈ rows ∧ accept row = true ∧
        ∀ other ∈ rows, accept other = true → key row ≤ key other := by
  induction rows with
  | nil => simp
  | cons first rest ih =>
      rcases List.pairwise_cons.mp sorted with ⟨smallest, sortedRest⟩
      cases accepted : accept first with
      | true =>
          rw [List.find?_cons_of_pos accepted, Option.some.injEq]
          constructor
          · rintro rfl
            constructor
            · exact List.mem_cons_self ..
            constructor
            · exact accepted
            · intro other member _
              rcases List.mem_cons.mp member with rfl | later
              · exact le_refl _
              · exact (smallest other later).le
          · rintro ⟨member, _, least⟩
            rcases List.mem_cons.mp member with rfl | later
            · rfl
            · have before := least first (List.mem_cons_self ..) accepted
              exact absurd before (not_le_of_gt (smallest row later))
      | false =>
          rw [List.find?_cons_of_neg (by simp [accepted]), ih sortedRest]
          constructor
          · rintro ⟨member, holds, least⟩
            constructor
            · exact List.mem_cons_of_mem _ member
            constructor
            · exact holds
            · intro other member' holds'
              rcases List.mem_cons.mp member' with rfl | later
              · rw [accepted] at holds'
                cases holds'
              · exact least other later holds'
          · rintro ⟨member, holds, least⟩
            rcases List.mem_cons.mp member with rfl | later
            · rw [accepted] at holds
              cases holds
            · exact ⟨later, holds, fun other member' =>
                least other (List.mem_cons_of_mem _ member')⟩

/-- Inserting a row that is not kept. -/
private theorem filterMap_orderedInsert_of_none {key : α → κ} {keep : α → Option β} {row : α}
    (dropped : keep row = none) (table : List α) :
    (table.orderedInsert (fun left right => key left ≤ key right) row).filterMap keep =
      table.filterMap keep := by
  induction table with
  | nil => simp [dropped]
  | cons first rest ih =>
      rw [List.orderedInsert_cons]
      split
      · rw [List.filterMap_cons_none dropped]
      · simp only [List.filterMap_cons, ih]

/-- Inserting a row that is kept, into a sorted table. -/
private theorem filterMap_orderedInsert {key : α → κ} {keyOf : β → κ} {keep : α → Option β}
    (told : ∀ row kept, keep row = some kept → keyOf kept = key row) {row : α} {kept : β}
    (keeps : keep row = some kept) {table : List α}
    (sorted : table.Pairwise fun left right => key left ≤ key right) :
    (table.orderedInsert (fun left right => key left ≤ key right) row).filterMap keep =
      (table.filterMap keep).orderedInsert (fun left right => keyOf left ≤ keyOf right) kept := by
  induction table with
  | nil => simp [keeps]
  | cons first rest ih =>
      rcases List.pairwise_cons.mp sorted with ⟨smallest, sortedRest⟩
      rw [List.orderedInsert_cons]
      split
      · rename_i goesFirst
        rw [List.filterMap_cons_some keeps]
        cases left : (first :: rest).filterMap keep with
        | nil => rfl
        | cons head tail =>
            -- The first row that is kept is `first` or comes after it.
            have headKept : head ∈ (first :: rest).filterMap keep := by
              rw [left]
              exact List.mem_cons_self
            obtain ⟨source, member, kept'⟩ := List.mem_filterMap.mp headKept
            have small : key first ≤ key source := by
              rcases List.mem_cons.mp member with rfl | inRest
              · exact le_refl _
              · exact smallest source inRest
            rw [List.orderedInsert_cons_of_le]
            rw [told row kept keeps, told source head kept']
            exact goesFirst.trans small
      · rename_i goesLater
        cases keepFirst : keep first with
        | none => rw [List.filterMap_cons_none keepFirst, List.filterMap_cons_none keepFirst,
            ih sortedRest]
        | some head =>
            rw [List.filterMap_cons_some keepFirst, List.filterMap_cons_some keepFirst,
              ih sortedRest, List.orderedInsert_of_not_le]
            rwa [told row kept keeps, told first head keepFirst]

/-- The rows and columns that are kept of a sorted table are those kept of the table, sorted. -/
theorem filterMap_sortAscending {key : α → κ} {keyOf : β → κ} {keep : α → Option β}
    (told : ∀ row kept, keep row = some kept → keyOf kept = key row) (rows : List α) :
    (sortAscending key rows).filterMap keep = sortAscending keyOf (rows.filterMap keep) := by
  induction rows with
  | nil => rfl
  | cons row rest ih =>
      have unfolded : sortAscending key (row :: rest) =
          (sortAscending key rest).orderedInsert (fun left right => key left ≤ key right) row :=
        rfl
      rw [unfolded]
      cases keeps : keep row with
      | none =>
          rw [List.filterMap_cons_none keeps, ← ih]
          exact filterMap_orderedInsert_of_none keeps _
      | some kept =>
          rw [filterMap_orderedInsert told keeps (pairwise_sortAscending key rest), ih,
            List.filterMap_cons_some keeps]
          rfl

end Ascending

end DlpSystem.Lib
