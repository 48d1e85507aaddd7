import Mathlib.Data.List.Nodup

/-!
# Tables with a unique key

A table in which no two rows have the same key, and insertions that leave out a row that
is not allowed or whose key is taken.  After a list of insertions there is a row for every
key that was offered: the one that was there before, or else the first that was offered.
-/

namespace DlpSystem.Lib

variable {κ ρ : Type} [DecidableEq κ] {key : ρ → κ}

/-- Rows with distinct keys. -/
structure UniqueTable (key : ρ → κ) where
  rows : List ρ
  unique : (rows.map key).Nodup

namespace UniqueTable

/-- The empty table. -/
def empty (key : ρ → κ) : UniqueTable key where
  rows := []
  unique := List.nodup_nil

/-- Insert a row unless it is not allowed or its key is taken. -/
def insertIgnore (allowed : ρ → Bool) (table : UniqueTable key) (row : ρ) : UniqueTable key :=
  if fresh : allowed row = true ∧ key row ∉ table.rows.map key then
    { rows := table.rows ++ [row]
      unique := by
        rw [List.map_append]
        apply table.unique.append (List.nodup_singleton _)
        simpa using fresh.2 }
  else table

omit [DecidableEq κ] in
/-- A row is determined by its key. -/
theorem eq_of_key_eq (table : UniqueTable key) {left right : ρ} (leftMem : left ∈ table.rows)
    (rightMem : right ∈ table.rows) (sameKey : key left = key right) : left = right :=
  List.inj_on_of_nodup_map table.unique leftMem rightMem sameKey

/-- Change the rows of some keys, which keep their keys. -/
def update (table : UniqueTable key) (keys : List κ) (change : ρ → ρ)
    (keeps : ∀ row, key (change row) = key row) : UniqueTable key where
  rows := table.rows.map fun row => if key row ∈ keys then change row else row
  unique := by
    have same : (table.rows.map fun row => if key row ∈ keys then change row else row).map key =
        table.rows.map key := by
      rw [List.map_map]
      apply List.map_congr_left
      intro row _
      by_cases listed : key row ∈ keys <;> simp [listed, keeps]
    rw [same]
    exact table.unique

/-- Remove the rows of some keys. -/
def delete (table : UniqueTable key) (keys : List κ) : UniqueTable key where
  rows := table.rows.filter fun row => key row ∉ keys
  unique := table.unique.sublist ((List.filter_sublist).map key)

@[simp]
theorem mem_delete {table : UniqueTable key} {keys : List κ} {row : ρ} :
    row ∈ (table.delete keys).rows ↔ row ∈ table.rows ∧ key row ∉ keys := by
  simp [delete]

/-- The rows after an insertion. -/
theorem insertIgnore_rows (allowed : ρ → Bool) (table : UniqueTable key) (row : ρ) :
    (table.insertIgnore allowed row).rows =
      if allowed row = true ∧ key row ∉ table.rows.map key then table.rows ++ [row]
      else table.rows := by
  unfold insertIgnore
  split <;> rfl

theorem mem_insertIgnore_of_mem {allowed : ρ → Bool} {table : UniqueTable key} {row old : ρ}
    (member : old ∈ table.rows) : old ∈ (table.insertIgnore allowed row).rows := by
  rw [insertIgnore_rows]
  split
  · exact List.mem_append_left _ member
  · exact member

theorem mem_or_eq_of_mem_insertIgnore {allowed : ρ → Bool} {table : UniqueTable key}
    {row stored : ρ} (member : stored ∈ (table.insertIgnore allowed row).rows) :
    stored ∈ table.rows ∨ stored = row := by
  rw [insertIgnore_rows] at member
  split at member
  · rcases List.mem_append.mp member with old | new
    · exact .inl old
    · exact .inr (List.mem_singleton.mp new)
  · exact .inl member

/-- The key of an allowed row is in the table afterwards. -/
theorem exists_key_insertIgnore {allowed : ρ → Bool} (table : UniqueTable key) {row : ρ}
    (isAllowed : allowed row = true) :
    ∃ stored ∈ (table.insertIgnore allowed row).rows, key stored = key row := by
  rw [insertIgnore_rows]
  by_cases taken : key row ∈ table.rows.map key
  · obtain ⟨stored, member, sameKey⟩ := List.mem_map.mp taken
    refine ⟨stored, ?_, sameKey⟩
    rw [if_neg (fun fresh => fresh.2 taken)]
    exact member
  · refine ⟨row, ?_, rfl⟩
    rw [if_pos ⟨isAllowed, taken⟩]
    exact List.mem_append_right _ List.mem_cons_self

/-- Insert the rows of a list in order. -/
def insertAll (allowed : ρ → Bool) (table : UniqueTable key) (rows : List ρ) : UniqueTable key :=
  rows.foldl (insertIgnore allowed) table

theorem mem_insertAll_of_mem {allowed : ρ → Bool} {table : UniqueTable key} {rows : List ρ}
    {old : ρ} (member : old ∈ table.rows) : old ∈ (table.insertAll allowed rows).rows := by
  induction rows generalizing table with
  | nil => exact member
  | cons row rest ih => exact ih (mem_insertIgnore_of_mem member)

theorem mem_or_mem_of_mem_insertAll {allowed : ρ → Bool} {table : UniqueTable key}
    {rows : List ρ} {stored : ρ} (member : stored ∈ (table.insertAll allowed rows).rows) :
    stored ∈ table.rows ∨ stored ∈ rows := by
  induction rows generalizing table with
  | nil => exact .inl member
  | cons row rest ih =>
      rcases ih member with before | later
      · rcases mem_or_eq_of_mem_insertIgnore before with old | rfl
        · exact .inl old
        · exact .inr List.mem_cons_self
      · exact .inr (List.mem_cons_of_mem _ later)

/-- Every key that was offered with an allowed row is in the table afterwards. -/
theorem exists_key_insertAll {allowed : ρ → Bool} (table : UniqueTable key) {rows : List ρ}
    {row : ρ} (offered : row ∈ rows) (isAllowed : allowed row = true) :
    ∃ stored ∈ (table.insertAll allowed rows).rows, key stored = key row := by
  induction rows generalizing table with
  | nil => cases offered
  | cons first rest ih =>
      rcases List.mem_cons.mp offered with rfl | later
      · obtain ⟨stored, member, sameKey⟩ := exists_key_insertIgnore table isAllowed
        have kept : stored ∈ ((table.insertIgnore allowed row).insertAll allowed rest).rows :=
          mem_insertAll_of_mem member
        exact ⟨stored, kept, sameKey⟩
      · exact ih (table.insertIgnore allowed first) later

section Content

variable {β : Type} (content : ρ → β) {allowed : ρ → Bool} (table : UniqueTable key)
  {rows : List ρ}

/-- After allowed rows were inserted, the content of each of them can be read under its
key if and only if rows with the same key agree on it, those that were there before
included. -/
theorem forall_stored_iff (allAllowed : ∀ row ∈ rows, allowed row = true) :
    (∀ row ∈ rows, ∃ stored ∈ (table.insertAll allowed rows).rows,
        key stored = key row ∧ content stored = content row) ↔
      (∀ left ∈ rows, ∀ right ∈ rows, key left = key right → content left = content right) ∧
        ∀ old ∈ table.rows, ∀ row ∈ rows, key old = key row → content old = content row := by
  constructor
  · intro stored
    constructor
    · intro left leftMem right rightMem sameKey
      obtain ⟨first, firstMem, firstKey, firstContent⟩ := stored left leftMem
      obtain ⟨second, secondMem, secondKey, secondContent⟩ := stored right rightMem
      have same : first = second := by
        apply eq_of_key_eq _ firstMem secondMem
        rw [firstKey, secondKey, sameKey]
      rw [← firstContent, ← secondContent, same]
    · intro old oldMem row rowMem sameKey
      obtain ⟨found, foundMem, foundKey, foundContent⟩ := stored row rowMem
      have same : old = found := by
        apply eq_of_key_eq _ (mem_insertAll_of_mem oldMem) foundMem
        rw [sameKey, foundKey]
      rw [same, foundContent]
  · rintro ⟨among, withOld⟩ row rowMem
    obtain ⟨stored, storedMem, sameKey⟩ :=
      exists_key_insertAll table rowMem (allAllowed row rowMem)
    refine ⟨stored, storedMem, sameKey, ?_⟩
    rcases mem_or_mem_of_mem_insertAll storedMem with old | offered
    · exact withOld stored old row rowMem sameKey
    · exact among stored offered row rowMem sameKey

end Content

end UniqueTable

end DlpSystem.Lib
