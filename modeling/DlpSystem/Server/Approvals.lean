import DlpSystem.Common.Approval
import Mathlib.Data.List.Nodup
import Mathlib.Data.List.Sort
import Mathlib.Order.Basic

/-!
# The approvals repository

The `approvals` table and the statements of `ApprovalRepository` that the handlers run.
The table carries its primary key.  Times are stored and compared as texts.
-/

namespace DlpSystem.Server

open Common

/-- `ApprovalRow`; the table checks that `status` is one of the five texts. -/
structure ApprovalRow where
  id : String
  requesterSid : String
  approverSid : Option String
  dataObjectId : String
  allowedAction : String
  destinationScope : Option String
  validFrom : Option String
  validUntil : Option String
  signature : Option String
  status : ApprovalStatus
  justification : String
  createdAt : String
  updatedAt : String
  deriving DecidableEq

/-- `ApprovalUpsertRow`. -/
structure ApprovalUpsertRow where
  id : String
  requesterSid : String
  dataObjectId : String
  allowedAction : String
  destinationScope : Option String
  justification : String
  createdAt : String
  updatedAt : String
  deriving DecidableEq

/-- The row that an insert writes. -/
def ApprovalUpsertRow.pendingRow (record : ApprovalUpsertRow) : ApprovalRow where
  id := record.id
  requesterSid := record.requesterSid
  approverSid := none
  dataObjectId := record.dataObjectId
  allowedAction := record.allowedAction
  destinationScope := record.destinationScope
  validFrom := none
  validUntil := none
  signature := none
  status := .pending
  justification := record.justification
  createdAt := record.createdAt
  updatedAt := record.updatedAt

/-- The arguments of `update_state`. -/
structure StateUpdate where
  id : String
  expectedCurrentStatus : ApprovalStatus
  newStatus : ApprovalStatus
  approverSid : Option String
  validFrom : Option String
  validUntil : Option String
  signature : Option String
  updatedAt : String
  deriving DecidableEq

namespace StateUpdate

/-- The `WHERE` clause. -/
def applies (update : StateUpdate) (row : ApprovalRow) : Bool :=
  decide (row.id = update.id) && decide (row.status = update.expectedCurrentStatus)

/-- The `SET` clause. -/
def set (update : StateUpdate) (row : ApprovalRow) : ApprovalRow :=
  { row with
    status := update.newStatus
    approverSid := update.approverSid
    validFrom := update.validFrom
    validUntil := update.validUntil
    signature := update.signature
    updatedAt := update.updatedAt }

/-- What the statement makes of a row. -/
def apply (update : StateUpdate) (row : ApprovalRow) : ApprovalRow :=
  if update.applies row then update.set row else row

@[simp]
theorem apply_id (update : StateUpdate) (row : ApprovalRow) : (update.apply row).id = row.id := by
  unfold apply
  split <;> rfl

theorem applies_iff (update : StateUpdate) (row : ApprovalRow) :
    update.applies row ↔ row.id = update.id ∧ row.status = update.expectedCurrentStatus := by
  simp [applies]

end StateUpdate

/-- The `approvals` table, in the order of insertion; `id` is the primary key. -/
structure ApprovalTable where
  rows : List ApprovalRow
  uniqueIds : (rows.map ApprovalRow.id).Nodup

namespace ApprovalTable

@[ext]
theorem ext {left right : ApprovalTable} (rows : left.rows = right.rows) : left = right := by
  cases left
  cases right
  cases rows
  rfl

/-- `get_by_id`; `none` is `QueryReturnedNoRows`. -/
def getById (table : ApprovalTable) (id : String) : Option ApprovalRow :=
  table.rows.find? fun row => row.id = id

theorem nodup_insert {table : ApprovalTable} {row : ApprovalRow}
    (fresh : row.id ∉ table.rows.map ApprovalRow.id) :
    ((table.rows ++ [row]).map ApprovalRow.id).Nodup := by
  rw [List.map_append]
  apply table.uniqueIds.append (List.nodup_singleton _)
  intro id known new
  cases List.mem_singleton.mp new
  exact fresh known

/-- `insert`; `none` is the violated primary key. -/
def insert (table : ApprovalTable) (record : ApprovalUpsertRow) : Option ApprovalTable :=
  if fresh : record.pendingRow.id ∉ table.rows.map ApprovalRow.id then
    some ⟨table.rows ++ [record.pendingRow], nodup_insert fresh⟩
  else none

theorem nodup_update (table : ApprovalTable) (update : StateUpdate) :
    ((table.rows.map update.apply).map ApprovalRow.id).Nodup := by
  have sameIds : (table.rows.map update.apply).map ApprovalRow.id =
      table.rows.map ApprovalRow.id := by
    rw [List.map_map]
    apply List.map_congr_left
    intro row _
    exact update.apply_id row
  rw [sameIds]
  exact table.uniqueIds

/-- `update_state`, with the number of rows affected. -/
def updateState (table : ApprovalTable) (update : StateUpdate) : ApprovalTable × Nat :=
  (⟨table.rows.map update.apply, table.nodup_update update⟩, table.rows.countP update.applies)

/-- The `WHERE` clause of `cleanup_orphaned`. -/
def isOrphaned (before : String) (row : ApprovalRow) : Bool :=
  decide (row.status = .pending) && decide (row.createdAt < before)

/-- `cleanup_orphaned`. -/
def cleanupOrphaned (table : ApprovalTable) (before : String) : ApprovalTable where
  rows := table.rows.filter fun row => !isOrphaned before row
  uniqueIds := table.uniqueIds.sublist (List.filter_sublist.map ApprovalRow.id)

/-- The `WHERE` clause of `list_active_approvals`: a text comparison. -/
def isActive (now : String) (row : ApprovalRow) : Bool :=
  decide (row.status = .approved) &&
    match row.validUntil with
    | none => false
    | some validUntil => decide (now < validUntil)

/-- The `ORDER BY` clause of `list_active_approvals`. -/
def SoonerValid (left right : ApprovalRow) : Prop :=
  left.validUntil.getD "" ≤ right.validUntil.getD ""

instance (left right : ApprovalRow) : Decidable (SoonerValid left right) :=
  inferInstanceAs (Decidable (_ ≤ _))

/-- The query of `list_active_approvals`. -/
def selectActive (table : ApprovalTable) (now : String) : List ApprovalRow :=
  (table.rows.filter (isActive now)).insertionSort SoonerValid

/-! ## What the statements do to one approval -/

theorem getById_eq_some_iff {table : ApprovalTable} {id : String} {row : ApprovalRow} :
    table.getById id = some row ↔ row ∈ table.rows ∧ row.id = id := by
  constructor
  · intro found
    have named := List.find?_some found
    exact ⟨List.mem_of_find?_eq_some found, by simpa using named⟩
  · rintro ⟨member, rfl⟩
    cases found : table.getById row.id with
    | none => exact absurd (List.find?_eq_none.mp found row member) (by simp)
    | some other =>
        have named : other.id = row.id := by simpa using List.find?_some found
        rw [List.inj_on_of_nodup_map table.uniqueIds (List.mem_of_find?_eq_some found) member named]

theorem getById_eq_none_iff {table : ApprovalTable} {id : String} :
    table.getById id = none ↔ ∀ row ∈ table.rows, row.id ≠ id := by
  simp [getById]

theorem getById_updateState (table : ApprovalTable) (update : StateUpdate) (id : String) :
    (table.updateState update).1.getById id = (table.getById id).map update.apply := by
  unfold getById updateState
  rw [List.find?_map]
  congr 2
  funext row
  simp

/-- An update that affects a row meets the expected status. -/
theorem status_of_affected {table : ApprovalTable} {update : StateUpdate}
    (affected : (table.updateState update).2 ≠ 0) :
    ∃ row, table.getById update.id = some row ∧ row.status = update.expectedCurrentStatus := by
  rcases List.countP_pos_iff.mp (Nat.pos_of_ne_zero affected) with ⟨row, member, applies⟩
  rcases (update.applies_iff row).mp applies with ⟨named, status⟩
  exact ⟨row, getById_eq_some_iff.mpr ⟨member, named⟩, status⟩

theorem getById_insert {table left : ApprovalTable} {record : ApprovalUpsertRow} {id : String}
    (inserted : table.insert record = some left) :
    left.getById id = if record.id = id then some record.pendingRow else table.getById id := by
  unfold insert at inserted
  split at inserted
  · next fresh =>
      cases Option.some.inj inserted
      by_cases named : record.id = id
      · rw [if_pos named]
        exact getById_eq_some_iff.mpr ⟨by simp, named⟩
      · rw [if_neg named]
        have other : record.pendingRow.id ≠ id := named
        simp [getById, other]
  · cases inserted

theorem fresh_of_insert {table left : ApprovalTable} {record : ApprovalUpsertRow}
    (inserted : table.insert record = some left) : table.getById record.id = none := by
  unfold insert at inserted
  split at inserted
  · next fresh =>
      apply getById_eq_none_iff.mpr
      intro row member named
      exact fresh (List.mem_map.mpr ⟨row, member, named⟩)
  · cases inserted

theorem getById_cleanupOrphaned (table : ApprovalTable) (before : String) (id : String) :
    (table.cleanupOrphaned before).getById id =
      (table.getById id).filter fun row => !isOrphaned before row := by
  ext row
  rw [getById_eq_some_iff, Option.filter_eq_some_iff, getById_eq_some_iff, cleanupOrphaned,
    List.mem_filter]
  constructor
  · rintro ⟨⟨member, kept⟩, named⟩
    exact ⟨⟨member, named⟩, kept⟩
  · rintro ⟨⟨member, named⟩, kept⟩
    exact ⟨⟨member, kept⟩, named⟩

/-- A listed row is in the table, approved, and has an end. -/
theorem mem_selectActive {table : ApprovalTable} {now : String} {row : ApprovalRow} :
    row ∈ table.selectActive now ↔ row ∈ table.rows ∧ isActive now row := by
  rw [selectActive, List.mem_insertionSort, List.mem_filter]

theorem status_of_isActive {now : String} {row : ApprovalRow} (active : isActive now row) :
    row.status = .approved := by
  simp only [isActive, Bool.and_eq_true, decide_eq_true_eq] at active
  exact active.1

end ApprovalTable

end DlpSystem.Server
