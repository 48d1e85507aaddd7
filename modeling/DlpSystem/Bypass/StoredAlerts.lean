import DlpSystem.Lib.EventRun
import DlpSystem.Server.BypassAlerts

/-!
# Bypass alerts in the table of the server

A flush posts the whole batch of the correlator, and the server takes at most a hundred
alerts and one alert for each process, time and path.  The alerts of a batch are all
stored exactly if they keep within both limits.
-/

namespace DlpSystem.Bypass

open Agent Common Lib Server

/-! ## Flushing to a server that can be reached -/

/-- What `flush_batch` posts. -/
def postedBatch (agentId : Str) (first : PendingAlert) (alerts : List PendingAlert) :
    BypassAlertBatch :=
  ⟨agentId, first.batchId, alerts.map PendingAlert.alert⟩

/-- `flush_batch` with a server that answers: the correlator and the table after it. -/
def flushBatch (setup : CorrelatorSetup) (agentId : Str) (now : String)
    (freshBatchIds : Nat → Nat) (correlator : Correlator) (table : BypassAlertTable) :
    Correlator × BypassAlertTable :=
  let (alerts, correlator) := takeBatch correlator
  match alerts with
  | [] => (correlator, table)
  | first :: rest =>
      match bypassBatchIngestHandler now table (postedBatch agentId first (first :: rest)) with
      | .ok (stored, _) => (correlator, stored)
      | .error _ => (requeueWithRetry setup freshBatchIds (first :: rest) correlator, table)

/-- The alerts that `emit_alert` and `submit_bypass_alert` queue, retried or not. -/
inductive Produced (setup : CorrelatorSetup) : PendingAlert → Prop
  | emitted (env : CallEnv) (event : EtwFileEvent) (reason : BypassReason) (retryCount : UInt32)
      (batchId : Nat) : Produced setup ⟨etwAlert setup env event reason, retryCount, batchId⟩
  | submitted (env : CallEnv) (alert : BypassAlert) (retryCount : UInt32) (batchId : Nat) :
      Produced setup ⟨hookAlert setup env alert, retryCount, batchId⟩

/-- Every alert in the batch was queued by the correlator. -/
def AllProduced (setup : CorrelatorSetup) (correlator : Correlator) : Prop :=
  ∀ pending ∈ correlator.alertBatch, Produced setup pending

variable {setup : CorrelatorSetup} {correlator : Correlator}

theorem allProduced_push {alert : BypassAlert} {batchId : Nat}
    (produced : AllProduced setup correlator) (new : Produced setup ⟨alert, 0, batchId⟩) :
    AllProduced setup (correlator.push alert batchId) := by
  intro pending member
  rcases List.mem_append.mp member with old | pushed
  · exact produced pending old
  · rw [List.mem_singleton.mp pushed]
    exact new

theorem allProduced_emitAlert (produced : AllProduced setup correlator) (env : CallEnv)
    (event : EtwFileEvent) (reason : BypassReason) :
    AllProduced setup (emitAlert setup env event reason correlator) := by
  unfold emitAlert
  split
  · exact produced
  · exact allProduced_push produced (.emitted env event reason 0 env.freshBatchId)

theorem allProduced_submitBypassAlert (produced : AllProduced setup correlator) (env : CallEnv)
    (alert : BypassAlert) : AllProduced setup (submitBypassAlert setup env alert correlator) := by
  unfold submitBypassAlert
  split
  · exact produced
  · exact allProduced_push produced (.submitted env alert 0 env.freshBatchId)

theorem Produced.retried {maxAlertRetry : UInt32} {freshBatchId : Nat}
    {pending kept : PendingAlert} (produced : Produced setup pending)
    (again : retried maxAlertRetry freshBatchId pending = some kept) : Produced setup kept := by
  rw [Agent.retried] at again
  split at again
  · cases again
  · cases again
    cases produced with
    | emitted env event reason retryCount batchId => exact .emitted env event reason _ _
    | submitted env alert retryCount batchId => exact .submitted env alert _ _

theorem produced_retryAll {maxAlertRetry : UInt32} {freshBatchIds : Nat → Nat} {index : Nat}
    {alerts : List PendingAlert} (produced : ∀ pending ∈ alerts, Produced setup pending) :
    ∀ pending ∈ retryAll maxAlertRetry freshBatchIds index alerts, Produced setup pending := by
  induction alerts generalizing index with
  | nil =>
      intro pending member
      cases member
  | cons first rest ih =>
      intro pending member
      rw [retryAll] at member
      rcases List.mem_append.mp member with again | later
      · exact (produced first List.mem_cons_self).retried (Option.mem_toList.mp again)
      · exact ih (fun other rests => produced other (List.mem_cons_of_mem first rests)) pending later

/-- What a rejected flush puts back are the same alerts. -/
theorem allProduced_flushBatch (produced : AllProduced setup correlator) (agentId : Str)
    (now : String) (freshBatchIds : Nat → Nat) (table : BypassAlertTable) :
    AllProduced setup (flushBatch setup agentId now freshBatchIds correlator table).1 := by
  have emptied : AllProduced setup { correlator with alertBatch := [] } := by
    intro pending member
    cases member
  rw [flushBatch, takeBatch]
  cases batch : correlator.alertBatch with
  | nil => exact emptied
  | cons first rest =>
      have taken : ∀ pending ∈ first :: rest, Produced setup pending := by
        rw [← batch]
        exact produced
      simp only
      cases bypassBatchIngestHandler now table (postedBatch agentId first (first :: rest)) with
      | ok answer => exact emptied
      | error message =>
          intro pending member
          rcases List.mem_append.mp member with waiting | again
          · exact emptied pending waiting
          · exact produced_retryAll taken pending again

/-- The calls that change the batch of the correlator. -/
inductive BatchCall
  | emit (env : CallEnv) (event : EtwFileEvent) (reason : BypassReason)
  | submit (env : CallEnv) (alert : BypassAlert)
  | flush (agentId : Str) (now : String) (freshBatchIds : Nat → Nat)

/-- One call, with the table of the server. -/
def batchNext (setup : CorrelatorSetup) (state : Correlator × BypassAlertTable) :
    BatchCall → Correlator × BypassAlertTable
  | .emit env event reason => (emitAlert setup env event reason state.1, state.2)
  | .submit env alert => (submitBypassAlert setup env alert state.1, state.2)
  | .flush agentId now freshBatchIds =>
      flushBatch setup agentId now freshBatchIds state.1 state.2

/-- Whatever has been called, the batch has alerts of the correlator only. -/
theorem run_allProduced (calls : List BatchCall) (table : BypassAlertTable) :
    AllProduced setup (calls.foldl (batchNext setup) (Correlator.new, table)).1 := by
  refine @foldl_invariant _ _ (batchNext setup) (fun state => AllProduced setup state.1) ?_ _ calls ?_
  · rintro ⟨correlator, table⟩ call produced
    cases call with
    | emit env event reason => exact allProduced_emitAlert produced env event reason
    | submit env alert => exact allProduced_submitBypassAlert produced env alert
    | flush agentId now freshBatchIds =>
        exact allProduced_flushBatch produced agentId now freshBatchIds table
  · intro pending member
    cases member

/-! ## Rows of alerts -/

theorem bypassReasonToString_injective : Function.Injective bypassReasonToString := by
  intro left right same
  cases left <;> cases right <;> first | rfl | exact absurd same (by decide)

/-- The reasons are those that the table allows. -/
theorem reason_allowed (reason : BypassReason) :
    [ascii "no_hook_journal", ascii "op_mismatch", ascii "hook_overwritten", ascii "PatchRaced",
      ascii "EdrDetected"].contains (bypassReasonToString reason) = true := by
  cases reason <;> decide

/-- The severities are those that the table allows. -/
theorem severity_allowed (setup : CorrelatorSetup) (reason : BypassReason) (filePath : Str) :
    [ascii "info", ascii "warn", ascii "crit"].contains
      (severityForAlert setup reason filePath) = true := by
  unfold severityForAlert
  split <;> decide

theorem severity_of_produced {pending : PendingAlert} (produced : Produced setup pending) :
    pending.alert.severity =
      severityForAlert setup pending.alert.reason pending.alert.filePath := by
  cases produced with
  | emitted env event reason retryCount batchId => rfl
  | submitted env alert retryCount batchId => rfl

theorem passesChecks_of_produced {pending : PendingAlert} (produced : Produced setup pending)
    (agentId : Str) (batchId : Nat) (now : String) :
    (bypassAlertRow agentId batchId now pending.alert).passesChecks = true := by
  have severity : (bypassAlertRow agentId batchId now pending.alert).severity =
      severityForAlert setup pending.alert.reason pending.alert.filePath :=
    severity_of_produced produced
  rw [BypassAlertInsertRow.passesChecks, severity, severity_allowed, Bool.true_and]
  exact reason_allowed pending.alert.reason

/-- What the table keeps one row for, in an alert. -/
def SameOccurrence (left right : BypassAlert) : Prop :=
  left.pid = right.pid ∧ left.qpcTimestamp = right.qpcTimestamp ∧ left.filePath = right.filePath

theorem dedupKey_eq_iff (agentId : Str) (batchId : Nat) (now : String)
    (left right : BypassAlert) :
    (bypassAlertRow agentId batchId now left).dedupKey =
        (bypassAlertRow agentId batchId now right).dedupKey ↔
      SameOccurrence left right := by
  simp only [BypassAlertInsertRow.dedupKey, bypassAlertRow, Prod.mk.injEq, true_and,
    SameOccurrence]
  constructor
  · rintro ⟨pid, time, path⟩
    exact ⟨congrArg Int32.toUInt32 pid, congrArg Int64.toUInt64 time, path⟩
  · rintro ⟨pid, time, path⟩
    exact ⟨congrArg UInt32.toInt32 pid, congrArg UInt64.toInt64 time, path⟩

/-! ## Stored alerts -/

/-- A row of the table is that of an alert: its process, time, path, operation and
reason. -/
structure IsRowOf (agentId : Str) (alert : BypassAlert) (row : BypassAlertInsertRow) : Prop where
  agentId : row.agentId = agentId
  pid : row.pid = alert.pid.toInt32
  qpcTimestamp : row.qpcTimestamp = alert.qpcTimestamp.toInt64
  filePath : row.filePath = alert.filePath
  operation : row.operation = alert.operation
  reason : row.correlationReason = bypassReasonToString alert.reason

/-- What an alert says beside its occurrence. -/
def rowContent (row : BypassAlertInsertRow) : Str × Str :=
  (row.operation, row.correlationReason)

theorem isRowOf_iff (agentId : Str) (batchId : Nat) (now : String) (alert : BypassAlert)
    (row : BypassAlertInsertRow) :
    IsRowOf agentId alert row ↔
      row.dedupKey = (bypassAlertRow agentId batchId now alert).dedupKey ∧
        rowContent row = rowContent (bypassAlertRow agentId batchId now alert) := by
  simp only [BypassAlertInsertRow.dedupKey, rowContent, bypassAlertRow, Prod.mk.injEq]
  constructor
  · intro isRow
    exact ⟨⟨isRow.agentId, isRow.pid, isRow.qpcTimestamp, isRow.filePath⟩, isRow.operation,
      isRow.reason⟩
  · rintro ⟨⟨agent, pid, time, path⟩, operation, reason⟩
    exact ⟨agent, pid, time, path, operation, reason⟩

/-- The limits of the server on a batch. -/
structure WithinLimits (agentId : Str) (table : BypassAlertTable)
    (alerts : List PendingAlert) : Prop where
  fewEnough : alerts.length ≤ 100
  /-- Alerts of one occurrence say the same. -/
  among : ∀ left ∈ alerts, ∀ right ∈ alerts, SameOccurrence left.alert right.alert →
    left.alert.operation = right.alert.operation ∧ left.alert.reason = right.alert.reason
  /-- An alert says the same as the row that is there for its occurrence. -/
  withStored : ∀ row ∈ table.rows, ∀ pending ∈ alerts,
    row.dedupKey = (agentId, pending.alert.pid.toInt32, pending.alert.qpcTimestamp.toInt64,
      pending.alert.filePath) → IsRowOf agentId pending.alert row

section Flush

variable {agentId : Str} {now : String} {freshBatchIds : Nat → Nat} {table : BypassAlertTable}
  {first : PendingAlert} {rest : List PendingAlert}

/-- The rows of the alerts of a flush. -/
def flushedRows (agentId : Str) (now : String) (first : PendingAlert)
    (alerts : List PendingAlert) : List BypassAlertInsertRow :=
  alerts.map fun pending => bypassAlertRow agentId first.batchId now pending.alert

/-- The server accepts a batch of at most a hundred alerts. -/
theorem accepted_iff :
    (∃ stored response, bypassBatchIngestHandler now table
        (postedBatch agentId first (first :: rest)) = .ok (stored, response)) ↔
      (first :: rest).length ≤ 100 := by
  have nonempty : (postedBatch agentId first (first :: rest)).alerts ≠ [] := List.cons_ne_nil _ _
  have sameLength : (postedBatch agentId first (first :: rest)).alerts.length =
      (first :: rest).length := List.length_map _
  rw [bypassBatchIngestHandler, if_neg nonempty, sameLength]
  constructor
  · rintro ⟨stored, response, accepted⟩
    split at accepted
    · cases accepted
    · rename_i short
      exact Nat.not_lt.mp short
  · intro short
    rw [if_neg (Nat.not_lt.mpr short)]
    exact ⟨_, _, rfl⟩

/-- What a flush of few enough alerts leaves in the table. -/
theorem flushBatch_snd (batch : correlator.alertBatch = first :: rest)
    (short : (first :: rest).length ≤ 100) :
    (flushBatch setup agentId now freshBatchIds correlator table).2 =
      table.insertAll BypassAlertInsertRow.passesChecks
        (flushedRows agentId now first (first :: rest)) := by
  have nonempty : (postedBatch agentId first (first :: rest)).alerts ≠ [] := List.cons_ne_nil _ _
  have few : ¬ (postedBatch agentId first (first :: rest)).alerts.length > 100 := by
    rw [postedBatch, List.length_map]
    exact Nat.not_lt.mpr short
  have answered : bypassBatchIngestHandler now table
      (postedBatch agentId first (first :: rest)) =
        .ok (insertBatch table (flushedRows agentId now first (first :: rest))) := by
    rw [bypassBatchIngestHandler, if_neg nonempty, if_neg few, postedBatch, List.map_map]
    rfl
  rw [flushBatch, takeBatch, batch]
  simp only [answered]
  exact insertBatch_fst table _

/-- Within the rows of a flush, the content of each is stored exactly within the limits
of the table. -/
theorem stored_iff (produced : ∀ pending ∈ first :: rest, Produced setup pending) :
    (∀ pending ∈ first :: rest,
        ∃ row ∈ (table.insertAll BypassAlertInsertRow.passesChecks
          (flushedRows agentId now first (first :: rest))).rows,
          IsRowOf agentId pending.alert row) ↔
      (∀ left ∈ first :: rest, ∀ right ∈ first :: rest, SameOccurrence left.alert right.alert →
          left.alert.operation = right.alert.operation ∧
            left.alert.reason = right.alert.reason) ∧
        ∀ row ∈ table.rows, ∀ pending ∈ first :: rest,
          row.dedupKey = (agentId, pending.alert.pid.toInt32, pending.alert.qpcTimestamp.toInt64,
            pending.alert.filePath) → IsRowOf agentId pending.alert row := by
  have allowed : ∀ row ∈ flushedRows agentId now first (first :: rest),
      row.passesChecks = true := by
    intro row member
    obtain ⟨pending, queued, rfl⟩ := List.mem_map.mp member
    exact passesChecks_of_produced (produced pending queued) agentId first.batchId now
  have stored := UniqueTable.forall_stored_iff rowContent table allowed
  simp only [flushedRows, List.forall_mem_map, dedupKey_eq_iff] at stored
  simp only [isRowOf_iff agentId first.batchId now]
  rw [flushedRows, stored]
  constructor
  · rintro ⟨among, withStored⟩
    constructor
    · intro left leftMem right rightMem occurrence
      have same := among left leftMem right rightMem occurrence
      simp only [rowContent, bypassAlertRow, Prod.mk.injEq] at same
      exact ⟨same.1, bypassReasonToString_injective same.2⟩
    · intro row rowMem pending member sameKey
      exact ⟨sameKey, withStored row rowMem pending member sameKey⟩
  · rintro ⟨among, withStored⟩
    constructor
    · intro left leftMem right rightMem occurrence
      obtain ⟨operation, reason⟩ := among left leftMem right rightMem occurrence
      simp only [rowContent, bypassAlertRow, operation, reason]
    · intro row rowMem pending member sameKey
      exact (withStored row rowMem pending member sameKey).2

/-- The server accepts a flush and then has a row for each of its alerts if and only if
the alerts keep within its limits. -/
theorem flush_stores_every_alert_iff (setup : CorrelatorSetup) (agentId : Str) (now : String)
    (freshBatchIds : Nat → Nat) (correlator : Correlator) (table : BypassAlertTable)
    (first : PendingAlert) (rest : List PendingAlert)
    (batch : correlator.alertBatch = first :: rest) (produced : AllProduced setup correlator) :
    ((∃ stored response, bypassBatchIngestHandler now table
          (postedBatch agentId first (first :: rest)) = .ok (stored, response)) ∧
        ∀ pending ∈ first :: rest,
          ∃ row ∈ (flushBatch setup agentId now freshBatchIds correlator table).2.rows,
            IsRowOf agentId pending.alert row) ↔
      WithinLimits agentId table (first :: rest) := by
  rw [AllProduced, batch] at produced
  rw [accepted_iff]
  constructor
  · rintro ⟨short, stored⟩
    rw [flushBatch_snd batch short] at stored
    obtain ⟨among, withStored⟩ := (stored_iff produced).mp stored
    exact ⟨short, among, withStored⟩
  · intro limits
    constructor
    · exact limits.fewEnough
    · rw [flushBatch_snd batch limits.fewEnough]
      exact (stored_iff produced).mpr ⟨limits.among, limits.withStored⟩

end Flush

/-! ## Reports of the hook DLL -/

/-- A report of the hook DLL on process 7, which has no path, operation or time. -/
def hookReport (reason : BypassReason) : BypassAlert where
  reason := reason
  stubName := ascii "NtCreateFile"
  pid := 7
  timestampSecs := 0
  version := 2
  agentId := []
  imagePath := []
  imageSha256 := none
  filePath := []
  operation := []
  fileObject := 0
  qpcTimestamp := 0
  severity := []
  correlationReason := []

/-- A correlator with one report. -/
def oneReport : Correlator :=
  submitBypassAlert sampleSetup sampleEnv (hookReport .hookOverwritten) Correlator.new

/-- The same correlator with a second report, for another reason. -/
def twoReports : Correlator :=
  submitBypassAlert sampleSetup sampleEnv (hookReport .patchRaced) oneReport

/-- The alert that is queued for a report. -/
def queuedReport (reason : BypassReason) : PendingAlert :=
  ⟨hookAlert sampleSetup sampleEnv (hookReport reason), 0, 0⟩

/-- A report on another process. -/
def otherReport : BypassAlert :=
  { hookReport .patchRaced with pid := 8 }

def queuedOther : PendingAlert :=
  ⟨hookAlert sampleSetup sampleEnv otherReport, 0, 0⟩

/-- A correlator with a report on each of two processes. -/
def reportEach : Correlator :=
  submitBypassAlert sampleSetup sampleEnv otherReport oneReport

theorem reportEach_stored :
    (∃ stored response, bypassBatchIngestHandler "t0" (UniqueTable.empty _)
        (postedBatch (ascii "AGENT") (queuedReport .hookOverwritten)
          [queuedReport .hookOverwritten, queuedOther]) = .ok (stored, response)) ∧
      ∀ pending ∈ [queuedReport .hookOverwritten, queuedOther],
        ∃ row ∈ (flushBatch sampleSetup (ascii "AGENT") "t0" (fun _ => 0) reportEach
          (UniqueTable.empty _)).2.rows, IsRowOf (ascii "AGENT") pending.alert row := by
  have produced : AllProduced sampleSetup reportEach := by
    apply allProduced_submitBypassAlert
    apply allProduced_submitBypassAlert
    intro pending member
    cases member
  have limits : WithinLimits (ascii "AGENT") (UniqueTable.empty _)
      [queuedReport .hookOverwritten, queuedOther] := by
    constructor
    · decide
    · simp only [List.forall_mem_cons, List.not_mem_nil, false_implies, implies_true, and_true,
        true_and]
      exact ⟨fun same => absurd same.1 (by decide), fun same => absurd same.1 (by decide)⟩
    · intro row member
      cases member
  exact (flush_stores_every_alert_iff sampleSetup (ascii "AGENT") "t0" (fun _ => 0) reportEach
    (UniqueTable.empty _) (queuedReport .hookOverwritten) [queuedOther] rfl produced).mpr limits

/-- Two reports on one process are posted, the server accepts them, and the second one
leaves no row. -/
theorem twoReports_not_stored :
    twoReports.alertBatch = [queuedReport .hookOverwritten, queuedReport .patchRaced] ∧
      AllProduced sampleSetup twoReports ∧
      ¬ ∀ pending ∈ twoReports.alertBatch,
        ∃ row ∈ (flushBatch sampleSetup (ascii "AGENT") "t0" (fun _ => 0) twoReports
          (UniqueTable.empty _)).2.rows, IsRowOf (ascii "AGENT") pending.alert row := by
  have rows : (flushBatch sampleSetup (ascii "AGENT") "t0" (fun _ => 0) twoReports
      (UniqueTable.empty _)).2.rows =
        [bypassAlertRow (ascii "AGENT") 0 "t0" (queuedReport .hookOverwritten).alert] := by
    decide
  constructor
  · rfl
  constructor
  · apply allProduced_submitBypassAlert
    apply allProduced_submitBypassAlert
    intro pending member
    cases member
  · rw [rows]
    intro stored
    obtain ⟨row, member, isRow⟩ := stored (queuedReport .patchRaced)
      (List.mem_cons_of_mem _ List.mem_cons_self)
    rw [List.mem_singleton.mp member] at isRow
    exact absurd isRow.reason (by decide)

end DlpSystem.Bypass
