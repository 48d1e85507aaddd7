import DlpSystem.Approval.Delivery

/-!
# What the handlers report and what they store

`update_state` writes the approver, the validity, the signature and the time of an update
together with the status; what a handler does not pass becomes `NULL`.  The response of a
grant is built from the same values, the responses of the other two from the row that was
read.
-/

namespace DlpSystem.Approvals

open Common Abac Server
open Lib (bind_eq_ok_iff)

/-! ## Calls that change an approval -/

/-- A call of one of the three handlers, with what it is given besides the id. -/
inductive ApprovalDecision
  | grant (received : DateTime) (body : GrantRequest)
  | reject
  | revoke

/-- An answer with the approval of its response. -/
def reported {Response : Type} (approval : Response → ApprovalRow)
    (answer : Except AppError Response × ApprovalDb) : Except AppError ApprovalRow × ApprovalDb :=
  (answer.1.map approval, answer.2)

namespace ApprovalDecision

/-- The approval that the handler reports, and the database it leaves. -/
def handle (env : ApprovalEnv) (db : ApprovalDb) (faults : Faults) (correlationId id : String)
    (now : DateTime) : ApprovalDecision → Except AppError ApprovalRow × ApprovalDb
  | .grant received body =>
      reported GrantResponse.approval
        (grantApproval env db faults correlationId id received now body)
  | .reject =>
      reported ApprovalResponse.approval (rejectApproval env db faults correlationId id now)
  | .revoke =>
      reported ApprovalResponse.approval (revokeApproval env db faults correlationId id now)

/-- The columns that the handler overwrites and does not report are empty already. -/
def OverwritesNothing (row : ApprovalRow) : ApprovalDecision → Prop
  | .grant _ _ => True
  | .reject => row.validFrom = none ∧ row.validUntil = none ∧ row.signature = none
  | .revoke =>
      row.approverSid = none ∧ row.validFrom = none ∧ row.validUntil = none ∧
        row.signature = none

end ApprovalDecision

/-- The response shows the row that is stored after the call, and a revoke has changed the
status and the time of the update only. -/
structure ReportsStored (env : ApprovalEnv) (now : DateTime) (decision : ApprovalDecision)
    (row approval : ApprovalRow) (stored : Option ApprovalRow) : Prop where
  response : stored = some approval
  revoke : decision = .revoke →
    stored = some { row with status := .revoked, updatedAt := env.toRfc3339 now }

/-! ## The stored row -/

section Stored

variable {env : ApprovalEnv} {db : ApprovalDb} {faults : Faults} {correlationId id : String}
  {received now : DateTime} {body : GrantRequest} {row : ApprovalRow}

/-- What an update in its expected status leaves of the row that was fetched for it. -/
theorem stored_of_update {table left : ApprovalTable} {fetchFails changeFails : Bool}
    {update : StateUpdate} {otherwise : String}
    (committed : commitUpdate table changeFails update = .ok left)
    (fetched : fetchRow table fetchFails update.id update.expectedCurrentStatus otherwise =
      .ok row) :
    table.getById update.id = some row ∧ left.getById update.id = some (update.set row) := by
  obtain ⟨-, found, status⟩ := fetchRow_eq_ok_iff.mp fetched
  obtain ⟨-, -, rfl⟩ := commitUpdate_eq_ok_iff.mp committed
  have named := (ApprovalTable.getById_eq_some_iff.mp found).2
  have applies : update.applies row := (update.applies_iff row).mpr ⟨named, status⟩
  constructor
  · exact found
  · rw [ApprovalTable.getById_updateState, found, Option.map_some, StateUpdate.apply,
      if_pos applies]

/-- A handler that succeeds leaves the approvals of its change. -/
theorem auditChange_eq_ok {Response : Type} {eventType : ApprovalEventType}
    {made : Except AppError (Change Response)} {response : Response}
    (succeeded : (auditChange env db faults eventType correlationId made).1 = .ok response) :
    ∃ change, made = .ok change ∧ change.response = response ∧
      (auditChange env db faults eventType correlationId made).2.approvals = change.approvals := by
  cases made with
  | error error => cases succeeded
  | ok change =>
      simp only [auditChange] at succeeded ⊢
      cases audited : faults.audit with
      | true =>
          rw [audited] at succeeded
          cases succeeded
      | false =>
          rw [audited] at succeeded
          exact ⟨change, rfl, Except.ok.inj succeeded, rfl⟩

theorem grantChange_stores {change : Change GrantResponse}
    (changed : grantChange env db faults id received now body = .ok change) :
    change.approvals.getById id = some change.response.approval := by
  obtain ⟨validUntil, _, changed⟩ := bind_eq_ok_iff.mp changed
  obtain ⟨read, fetched, changed⟩ := bind_eq_ok_iff.mp changed
  obtain ⟨_, _, changed⟩ := bind_eq_ok_iff.mp changed
  obtain ⟨token, _, changed⟩ := bind_eq_ok_iff.mp changed
  obtain ⟨approvals, committed, changed⟩ := bind_eq_ok_iff.mp changed
  cases Except.ok.inj changed
  obtain ⟨found, stored⟩ := stored_of_update committed fetched
  -- The response repeats the id of the request, which is the id of the row.
  have named := (ApprovalTable.getById_eq_some_iff.mp found).2
  have shown : (grantUpdate env id body now validUntil).set read =
      grantedApproval env id read body now validUntil := by
    rw [grantedApproval, ← show read.id = id from named]
    rfl
  rw [show approvals.getById id = _ from stored, shown]

/-- What a change leaves and answers that updates the row it fetched. -/
theorem updated_stores {fetchFails changeFails : Bool} {update : StateUpdate} {otherwise : String}
    {respond : ApprovalRow → ApprovalTable → Change ApprovalResponse}
    {shown : ApprovalRow → ApprovalRow} {change : Change ApprovalResponse}
    (leaves : ∀ read left, (respond read left).approvals = left)
    (answers : ∀ read left, (respond read left).response.approval = shown read)
    (changed : (fetchRow db.approvals fetchFails update.id update.expectedCurrentStatus otherwise
      >>= fun read => commitUpdate db.approvals changeFails update
        >>= fun left => .ok (respond read left)) = .ok change)
    (fetched : db.approvals.getById update.id = some row) :
    change.approvals.getById update.id = some (update.set row) ∧
      change.response.approval = shown row := by
  obtain ⟨read, fetchedOk, changed⟩ := bind_eq_ok_iff.mp changed
  obtain ⟨left, committed, changed⟩ := bind_eq_ok_iff.mp changed
  cases Except.ok.inj changed
  obtain ⟨found, stored⟩ := stored_of_update committed fetchedOk
  cases Option.some.inj (found.symm.trans fetched)
  rw [leaves, answers]
  exact ⟨stored, rfl⟩

theorem rejectChange_stores {change : Change ApprovalResponse}
    (changed : rejectChange env db faults id now = .ok change)
    (fetched : db.approvals.getById id = some row) :
    change.approvals.getById id = some ((rejectUpdate env id now).set row) ∧
      change.response.approval = rejectedApproval env row now :=
  @updated_stores db row _ _ (rejectUpdate env id now) _ _ (rejectedApproval env · now) change
    (fun _ _ => rfl) (fun _ _ => rfl) changed fetched

theorem revokeChange_stores {change : Change ApprovalResponse}
    (changed : revokeChange env db faults id now = .ok change)
    (fetched : db.approvals.getById id = some row) :
    change.approvals.getById id = some ((revokeUpdate env id now).set row) ∧
      change.response.approval = revokedApproval env row now :=
  @updated_stores db row _ _ (revokeUpdate env id now) _ _ (revokedApproval env · now) change
    (fun _ _ => rfl) (fun _ _ => rfl) changed fetched

/-- A response that is read off an answer. -/
theorem reported_eq_ok {Response : Type} {approval : Response → ApprovalRow}
    {answer : Except AppError Response × ApprovalDb} {shown : ApprovalRow}
    (succeeded : (reported approval answer).1 = .ok shown) :
    ∃ response, answer.1 = .ok response ∧ approval response = shown := by
  rcases answer with ⟨result, left⟩
  cases result with
  | error error => cases succeeded
  | ok response => exact ⟨response, rfl, Except.ok.inj succeeded⟩

/-- A rejection stores what it shows if the columns are empty that it does not show. -/
theorem set_rejectUpdate_eq_iff :
    (rejectUpdate env id now).set row = rejectedApproval env row now ↔
      ApprovalDecision.reject.OverwritesNothing row := by
  simp [ApprovalDecision.OverwritesNothing, StateUpdate.set, rejectUpdate, rejectedApproval,
    eq_comm]

/-- So does a revocation, if the approver is empty as well. -/
theorem set_revokeUpdate_eq_iff :
    (revokeUpdate env id now).set row = revokedApproval env row now ↔
      ApprovalDecision.revoke.OverwritesNothing row := by
  simp [ApprovalDecision.OverwritesNothing, StateUpdate.set, revokeUpdate, revokedApproval,
    eq_comm]

end Stored

/-- A handler that succeeds reports the row that is stored, exactly if it overwrites no
column that it does not report.  A grant always does; a rejection and a revocation empty the
validity and the signature, and a revocation the approver. -/
theorem reportsStored_iff (env : ApprovalEnv) (db : ApprovalDb) (faults : Faults)
    (correlationId id : String) (now : DateTime) (decision : ApprovalDecision)
    (row approval : ApprovalRow)
    (succeeded : (decision.handle env db faults correlationId id now).1 = .ok approval)
    (fetched : db.approvals.getById id = some row) :
    ReportsStored env now decision row approval
        ((decision.handle env db faults correlationId id now).2.approvals.getById id) ↔
      decision.OverwritesNothing row := by
  cases decision with
  | grant received body =>
      obtain ⟨response, answered, rfl⟩ := reported_eq_ok succeeded
      obtain ⟨change, changed, rfl, left⟩ := auditChange_eq_ok answered
      have stored := grantChange_stores changed
      constructor
      · exact fun _ => trivial
      · intro _
        constructor
        · exact (congrArg (ApprovalTable.getById · id) left).trans stored
        · exact nofun
  | reject =>
      obtain ⟨response, answered, rfl⟩ := reported_eq_ok succeeded
      obtain ⟨change, changed, rfl, left⟩ := auditChange_eq_ok answered
      obtain ⟨stored, shown⟩ := rejectChange_stores changed fetched
      have after : (auditChange env db faults .approvalRevoke correlationId
          (rejectChange env db faults id now)).2.approvals.getById id =
            some ((rejectUpdate env id now).set row) :=
        (congrArg (ApprovalTable.getById · id) left).trans stored
      rw [ApprovalDecision.handle, reported, rejectApproval, after, shown]
      constructor
      · intro reports
        exact set_rejectUpdate_eq_iff.mp (Option.some.inj reports.response)
      · intro empty
        rw [set_rejectUpdate_eq_iff.mpr empty]
        constructor
        · rfl
        · exact nofun
  | revoke =>
      obtain ⟨response, answered, rfl⟩ := reported_eq_ok succeeded
      obtain ⟨change, changed, rfl, left⟩ := auditChange_eq_ok answered
      obtain ⟨stored, shown⟩ := revokeChange_stores changed fetched
      have after : (auditChange env db faults .approvalRevoke correlationId
          (revokeChange env db faults id now)).2.approvals.getById id =
            some ((revokeUpdate env id now).set row) :=
        (congrArg (ApprovalTable.getById · id) left).trans stored
      rw [ApprovalDecision.handle, reported, revokeApproval, after, shown]
      constructor
      · intro reports
        exact set_revokeUpdate_eq_iff.mp (Option.some.inj reports.response)
      · intro empty
        rw [set_revokeUpdate_eq_iff.mpr empty]
        constructor
        · rfl
        · exact fun _ => rfl

/-! ## A rejection and a revocation -/

/-- A database with one approval. -/
def singleDb (row : ApprovalRow) : ApprovalDb where
  labels := []
  boardKey := none
  approvals := ⟨[row], List.nodup_singleton _⟩
  audit := []

/-- No step fails. -/
def noFaults : Faults :=
  ⟨false, false, false, false, false, false⟩

/-- An approval that nobody has decided on. -/
def undecidedRow : ApprovalRow :=
  { sampleRow with approverSid := none, validFrom := none, validUntil := none, status := .pending }

/-- A rejection of it is reported as it is stored. -/
theorem undecidedRow_rejection_reported :
    ReportsStored sampleEnv sampleNow .reject undecidedRow
      (rejectedApproval sampleEnv undecidedRow sampleNow)
      ((ApprovalDecision.reject.handle sampleEnv (singleDb undecidedRow) noFaults "event-001"
        "approval-001" sampleNow).2.approvals.getById "approval-001") :=
  (reportsStored_iff sampleEnv (singleDb undecidedRow) noFaults "event-001" "approval-001"
    sampleNow .reject undecidedRow _ rfl rfl).mpr ⟨rfl, rfl, rfl⟩

/-- The revocation of an approval is reported with its approver and its validity, which are
no longer stored. -/
theorem sampleRow_revocation_not_reported :
    (ApprovalDecision.revoke.handle sampleEnv (singleDb sampleRow) noFaults "event-001"
        "approval-001" sampleNow).1 = .ok (revokedApproval sampleEnv sampleRow sampleNow) ∧
      ¬ ReportsStored sampleEnv sampleNow .revoke sampleRow
        (revokedApproval sampleEnv sampleRow sampleNow)
        ((ApprovalDecision.revoke.handle sampleEnv (singleDb sampleRow) noFaults "event-001"
          "approval-001" sampleNow).2.approvals.getById "approval-001") := by
  constructor
  · rfl
  · intro reports
    have approver := congrArg (Option.map ApprovalRow.approverSid) reports.response
    exact nomatch approver

end DlpSystem.Approvals
