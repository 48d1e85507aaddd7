import DlpSystem.Agent.BypassCorrelator
import DlpSystem.Lib.UniqueTable
import DlpSystem.Server.AdminApi

/-!
# Bypass alerts on the server

`bypass_batch_ingest_handler` turns the alerts of a batch into rows, which `INSERT OR
IGNORE` stores unless they break a constraint of the `bypass_alerts` table.  The ids of
rows and their acknowledgements are left out, and so is the relay that follows.
-/

namespace DlpSystem.Server

open Agent Common Lib

/-- `BypassAlertInsertRow`. -/
structure BypassAlertInsertRow where
  agentId : Str
  pid : Int32
  imagePath : Str
  imageSha256 : Option Str
  filePath : Str
  operation : Str
  fileObject : Int64
  qpcTimestamp : Int64
  createdAt : String
  severity : Str
  correlationReason : Str
  batchId : Option Nat
  deriving DecidableEq

/-- The columns of `idx_bypass_alerts_dedup`. -/
def BypassAlertInsertRow.dedupKey (row : BypassAlertInsertRow) : Str × Int32 × Int64 × Str :=
  (row.agentId, row.pid, row.qpcTimestamp, row.filePath)

/-- The `CHECK` constraints on `severity` and `correlation_reason`. -/
def BypassAlertInsertRow.passesChecks (row : BypassAlertInsertRow) : Bool :=
  [ascii "info", ascii "warn", ascii "crit"].contains row.severity &&
    [ascii "no_hook_journal", ascii "op_mismatch", ascii "hook_overwritten", ascii "PatchRaced",
      ascii "EdrDetected"].contains row.correlationReason

/-- The `bypass_alerts` table. -/
abbrev BypassAlertTable := UniqueTable BypassAlertInsertRow.dedupKey

/-- `BypassAlertBatch`. -/
structure BypassAlertBatch where
  agentId : Str
  batchId : Nat
  alerts : List BypassAlert

/-- `BypassAlertIngestResponse`. -/
structure BypassAlertIngestResponse where
  inserted : Nat
  skipped : Nat
  deriving DecidableEq

/-- `bypass_reason_to_string`. -/
def bypassReasonToString : BypassReason → Str
  | .hookOverwritten => ascii "hook_overwritten"
  | .patchRaced => ascii "PatchRaced"
  | .edrDetected => ascii "EdrDetected"
  | .noHookJournal => ascii "no_hook_journal"
  | .opMismatch => ascii "op_mismatch"

/-- The row of an alert. -/
def bypassAlertRow (agentId : Str) (batchId : Nat) (now : String) (alert : BypassAlert) :
    BypassAlertInsertRow where
  agentId := agentId
  pid := alert.pid.toInt32
  imagePath := alert.imagePath
  imageSha256 := alert.imageSha256
  filePath := alert.filePath
  operation := alert.operation
  fileObject := alert.fileObject.toInt64
  qpcTimestamp := alert.qpcTimestamp.toInt64
  createdAt := now
  severity := alert.severity
  correlationReason := bypassReasonToString alert.reason
  batchId := some batchId

/-- `BypassAlertsRepository::insert_batch`: the table, and how many rows were inserted
and skipped. -/
def insertBatch (table : BypassAlertTable) (rows : List BypassAlertInsertRow) :
    BypassAlertTable × BypassAlertIngestResponse :=
  rows.foldl
    (fun (table, counts) row =>
      let next := table.insertIgnore BypassAlertInsertRow.passesChecks row
      if next.rows.length = table.rows.length then
        (next, { counts with skipped := counts.skipped + 1 })
      else (next, { counts with inserted := counts.inserted + 1 }))
    (table, ⟨0, 0⟩)

/-- `bypass_batch_ingest_handler`. -/
def bypassBatchIngestHandler (now : String) (table : BypassAlertTable)
    (batch : BypassAlertBatch) :
    Except AdminError (BypassAlertTable × BypassAlertIngestResponse) :=
  if batch.alerts = [] then .error (.badRequest "alert batch must not be empty")
  else if batch.alerts.length > 100 then
    .error (.badRequest
      ("batch exceeds maximum of 100 alerts (got " ++ toString batch.alerts.length ++ ")"))
  else .ok (insertBatch table (batch.alerts.map (bypassAlertRow batch.agentId batch.batchId now)))

/-- The counts do not matter for the rows that are stored. -/
theorem insertBatch_fst (table : BypassAlertTable) (rows : List BypassAlertInsertRow) :
    (insertBatch table rows).1 = table.insertAll BypassAlertInsertRow.passesChecks rows := by
  have general : ∀ counts : BypassAlertIngestResponse,
      (rows.foldl
        (fun (table, counts) row =>
          let next := UniqueTable.insertIgnore BypassAlertInsertRow.passesChecks table row
          if next.rows.length = table.rows.length then
            (next, { counts with skipped := counts.skipped + 1 })
          else (next, { counts with inserted := counts.inserted + 1 }))
        (table, counts)).1 = table.insertAll BypassAlertInsertRow.passesChecks rows := by
    induction rows generalizing table with
    | nil =>
        intro counts
        rfl
    | cons row rest ih =>
        intro counts
        rw [List.foldl_cons]
        simp only
        split
        · exact ih _ _
        · exact ih _ _
  exact general ⟨0, 0⟩

end DlpSystem.Server
