import DlpSystem.Approval.Delivery
import DlpSystem.Lib.Fallible

/-!
# Approval changes and their audit events

A handler commits the change of the approval and then stores the audit event in a second
transaction.  The two happen together unless a change that has been committed meets a
failing audit transaction or a correlation id that the table already has.
-/

namespace DlpSystem.Approvals

open Common Abac Server
open Lib (bind_eq_ok_iff)

/-! ## Calls -/

/-- A call of one of the four handlers, with the times it reads and the id it draws. -/
inductive ApprovalCall
  | create (id : String) (now : DateTime) (body : CreateApprovalRequest)
  | grant (id : String) (received now : DateTime) (body : GrantRequest)
  | reject (id : String) (now : DateTime)
  | revoke (id : String) (now : DateTime)

/-- An answer without its response. -/
def outcome {Response : Type} (answer : Except AppError Response × ApprovalDb) :
    Except AppError Unit × ApprovalDb :=
  (answer.1.map fun _ => (), answer.2)

namespace ApprovalCall

/-- The approval that a call is about. -/
def id : ApprovalCall → String
  | .create id _ _ => id
  | .grant id _ _ _ => id
  | .reject id _ => id
  | .revoke id _ => id

/-- The type of a call's audit event. -/
def eventType : ApprovalCall → ApprovalEventType
  | .create _ _ _ => .approvalRequest
  | .grant _ _ _ _ => .approvalGrant
  | .reject _ _ => .approvalRevoke
  | .revoke _ _ => .approvalRevoke

/-- Whether the call succeeds, and the database it leaves. -/
def serve (env : ApprovalEnv) (db : ApprovalDb) (faults : Faults) (correlationId : String) :
    ApprovalCall → Except AppError Unit × ApprovalDb
  | .create id now body => outcome (createApproval env db faults correlationId id now body)
  | .grant id received now body =>
      outcome (grantApproval env db faults correlationId id received now body)
  | .reject id now => outcome (rejectApproval env db faults correlationId id now)
  | .revoke id now => outcome (revokeApproval env db faults correlationId id now)

/-- An event that matches a call. -/
def Matches (call : ApprovalCall) (event : ApprovalAuditRow) : Prop :=
  event.eventType = call.eventType ∧ event.resourcePath = "approval:" ++ call.id

/-- The call gets as far as committing its change: its checks pass, the row is there in
the status that the handler asks for, and no step up to the commit fails. -/
def TakesEffect (env : ApprovalEnv) (db : ApprovalDb) (faults : Faults) : ApprovalCall → Prop
  | .create id _ body =>
      body.validate = .ok () ∧ db.approvals.getById id = none ∧ faults.change = false
  | .grant id received now body =>
      ∃ validUntil row token, body.expiry env received = .ok validUntil ∧
        faults.fetch = false ∧ db.approvals.getById id = some row ∧ row.status = .pending ∧
        boardGate env (tierOrNone db.labels faults.tier row.dataObjectId) db.boardKey
          faults.boardKey id row body = .ok () ∧
        env.signToken (approvalClaims row id now validUntil) = .ok token ∧ faults.change = false
  | .reject id _ =>
      ∃ row, faults.fetch = false ∧ db.approvals.getById id = some row ∧ row.status = .pending ∧
        faults.change = false
  | .revoke id _ =>
      ∃ row, faults.fetch = false ∧ db.approvals.getById id = some row ∧ row.status = .approved ∧
        faults.change = false

end ApprovalCall

/-- Change and audit event stand or fall together: an error leaves the approvals as they
were, and a success has stored exactly one event, which matches the call. -/
structure AtomicOutcome (db : ApprovalDb) (call : ApprovalCall)
    (outcome : Except AppError Unit × ApprovalDb) : Prop where
  onError : ∀ error, outcome.1 = .error error → outcome.2.approvals = db.approvals
  onSuccess : outcome.1 = .ok () →
    ∃ event, call.Matches event ∧ outcome.2.audit = db.audit ++ [event]

/-! ## When a change is committed -/

theorem exists_insert_iff {table : ApprovalTable} {record : ApprovalUpsertRow} :
    (∃ left, table.insert record = some left) ↔ table.getById record.id = none := by
  constructor
  · rintro ⟨left, inserted⟩
    exact ApprovalTable.fresh_of_insert inserted
  · intro absent
    unfold ApprovalTable.insert
    have fresh : record.pendingRow.id ∉ table.rows.map ApprovalRow.id := by
      intro member
      rcases List.mem_map.mp member with ⟨row, present, named⟩
      exact ApprovalTable.getById_eq_none_iff.mp absent row present named
    exact ⟨_, dif_pos fresh⟩

/-- An update that meets its row commits. -/
theorem commitUpdate_of_found {table : ApprovalTable} {fails : Bool} {update : StateUpdate}
    {row : ApprovalRow} {left : ApprovalTable} (found : table.getById update.id = some row)
    (expected : row.status = update.expectedCurrentStatus) :
    commitUpdate table fails update = .ok left ↔
      fails = false ∧ (table.updateState update).1 = left := by
  have affected : (table.updateState update).2 ≠ 0 := by
    rcases ApprovalTable.getById_eq_some_iff.mp found with ⟨member, named⟩
    have applies := (update.applies_iff row).mpr ⟨named, expected⟩
    exact Nat.pos_iff_ne_zero.mp (List.countP_pos_iff.mpr ⟨row, member, applies⟩)
  simp [commitUpdate_eq_ok_iff, affected]

/-- A committed update that moves the status changes the table. -/
theorem updateState_ne {table : ApprovalTable} {update : StateUpdate} {row : ApprovalRow}
    (found : table.getById update.id = some row)
    (expected : row.status = update.expectedCurrentStatus)
    (moves : update.newStatus ≠ update.expectedCurrentStatus) :
    (table.updateState update).1 ≠ table := by
  intro same
  have after := table.getById_updateState update update.id
  rw [same, found] at after
  have applies := (update.applies_iff row).mpr
    ⟨(ApprovalTable.getById_eq_some_iff.mp found).2, expected⟩
  have unmoved := congrArg ApprovalRow.status (Option.some.inj after)
  simp only [StateUpdate.apply, applies, if_true, StateUpdate.set, expected] at unmoved
  exact moves unmoved.symm

theorem insert_ne {table left : ApprovalTable} {record : ApprovalUpsertRow}
    (inserted : table.insert record = some left) : left ≠ table := by
  have present : left.getById record.id = some record.pendingRow := by
    rw [ApprovalTable.getById_insert inserted, if_pos rfl]
  rintro rfl
  rw [ApprovalTable.fresh_of_insert inserted] at present
  cases present

/-- The commit of a handler: when it happens, that it changes the table, and whose audit
event follows. -/
structure Commits {Response : Type} (db : ApprovalDb) (id : String) (takesEffect : Prop)
    (change : Except AppError (Change Response)) : Prop where
  committed_iff : (∃ committed, change = .ok committed) ↔ takesEffect
  changes : ∀ committed, change = .ok committed → committed.approvals ≠ db.approvals
  names : ∀ committed, change = .ok committed → committed.approval.id = id

section Handlers

variable (env : ApprovalEnv) (db : ApprovalDb) (faults : Faults) (id : String)

theorem createChange_commits (now : DateTime) (body : CreateApprovalRequest) :
    Commits db id ((ApprovalCall.create id now body).TakesEffect env db faults)
      (createChange env db faults id now body) := by
  have inverted : ∀ committed, createChange env db faults id now body = .ok committed ↔
      body.validate = .ok () ∧ faults.change = false ∧ ∃ left,
        db.approvals.insert (body.record id (env.toRfc3339 now)) = some left ∧
        committed = ⟨left, (body.record id (env.toRfc3339 now)).pendingRow,
          (body.record id (env.toRfc3339 now)).pendingRow,
          tierOrNone db.labels faults.shownTier body.dataObjectId⟩ := by
    intro committed
    simp only [createChange, bind_eq_ok_iff, commitInsert_eq_ok_iff]
    constructor
    · rintro ⟨_, valid, left, ⟨runs, inserted⟩, result⟩
      exact ⟨valid, runs, left, inserted, (Except.ok.inj result).symm⟩
    · rintro ⟨valid, runs, left, inserted, rfl⟩
      exact ⟨(), valid, left, ⟨runs, inserted⟩, rfl⟩
  constructor
  · constructor
    · rintro ⟨committed, success⟩
      rcases (inverted committed).mp success with ⟨valid, runs, left, inserted, _⟩
      exact ⟨valid, ApprovalTable.fresh_of_insert inserted, runs⟩
    · rintro ⟨valid, absent, runs⟩
      have fresh : db.approvals.getById (body.record id (env.toRfc3339 now)).id = none := absent
      rcases exists_insert_iff.mpr fresh with ⟨left, inserted⟩
      exact ⟨_, (inverted _).mpr ⟨valid, runs, left, inserted, rfl⟩⟩
  · intro committed success
    rcases (inverted committed).mp success with ⟨_, _, left, inserted, rfl⟩
    exact insert_ne inserted
  · intro committed success
    rcases (inverted committed).mp success with ⟨_, _, left, _, rfl⟩
    rfl

/-- A handler that fetches a row in a status and moves it on. -/
theorem fetchUpdate_commits {Response : Type} {update : StateUpdate} (otherwise : String)
    (approval : ApprovalRow → ApprovalRow) (response : ApprovalRow → Response)
    (sameId : ∀ row, (approval row).id = row.id)
    (moves : update.newStatus ≠ update.expectedCurrentStatus) :
    Commits db update.id
      (∃ row, faults.fetch = false ∧ db.approvals.getById update.id = some row ∧
        row.status = update.expectedCurrentStatus ∧ faults.change = false)
      (do
        let row ← fetchRow db.approvals faults.fetch update.id update.expectedCurrentStatus
          otherwise
        let approvals ← commitUpdate db.approvals faults.change update
        return ⟨approvals, approval row, response row⟩) := by
  constructor
  · simp only [bind_eq_ok_iff, fetchRow_eq_ok_iff]
    constructor
    · rintro ⟨committed, row, ⟨reads, found, expected⟩, left, updated, _⟩
      exact ⟨row, reads, found, expected, ((commitUpdate_of_found found expected).mp updated).1⟩
    · rintro ⟨row, reads, found, expected, runs⟩
      exact ⟨_, row, ⟨reads, found, expected⟩, _,
        (commitUpdate_of_found found expected).mpr ⟨runs, rfl⟩, rfl⟩
  · simp only [bind_eq_ok_iff, fetchRow_eq_ok_iff]
    rintro committed ⟨row, ⟨_, found, expected⟩, left, updated, result⟩
    rcases (commitUpdate_of_found found expected).mp updated with ⟨_, rfl⟩
    cases Except.ok.inj result
    exact updateState_ne found expected moves
  · simp only [bind_eq_ok_iff, fetchRow_eq_ok_iff]
    rintro committed ⟨row, ⟨_, found, _⟩, left, _, result⟩
    cases Except.ok.inj result
    exact (sameId row).trans (ApprovalTable.getById_eq_some_iff.mp found).2

theorem rejectChange_commits (now : DateTime) :
    Commits db id ((ApprovalCall.reject id now).TakesEffect env db faults)
      (rejectChange env db faults id now) := by
  apply @fetchUpdate_commits db faults _ (rejectUpdate env id now)
    "approval is not in pending status" (rejectedApproval env · now)
  · intro row
    rfl
  · exact show ApprovalStatus.rejected ≠ .pending by decide

theorem revokeChange_commits (now : DateTime) :
    Commits db id ((ApprovalCall.revoke id now).TakesEffect env db faults)
      (revokeChange env db faults id now) := by
  apply @fetchUpdate_commits db faults _ (revokeUpdate env id now)
    "approval is not in approved status" (revokedApproval env · now)
  · intro row
    rfl
  · exact show ApprovalStatus.revoked ≠ .approved by decide

theorem grantChange_commits (received now : DateTime) (body : GrantRequest) :
    Commits db id ((ApprovalCall.grant id received now body).TakesEffect env db faults)
      (grantChange env db faults id received now body) := by
  constructor
  · simp only [grantChange, fetchPending, bind_eq_ok_iff, fetchRow_eq_ok_iff]
    constructor
    · rintro ⟨committed, validUntil, future, row, ⟨reads, found, pending⟩, _, gate, token, signed,
        left, updated, _⟩
      have runs := ((@commitUpdate_of_found _ _ (grantUpdate env id body now validUntil) _ _
        found pending).mp updated).1
      exact ⟨validUntil, row, token, future, reads, found, pending, gate, signed, runs⟩
    · rintro ⟨validUntil, row, token, future, reads, found, pending, gate, signed, runs⟩
      exact ⟨_, validUntil, future, row, ⟨reads, found, pending⟩, (), gate, token, signed, _,
        (@commitUpdate_of_found _ _ (grantUpdate env id body now validUntil) _ _
          found pending).mpr ⟨runs, rfl⟩, rfl⟩
  · simp only [grantChange, fetchPending, bind_eq_ok_iff, fetchRow_eq_ok_iff]
    rintro committed
      ⟨validUntil, _, row, ⟨_, found, pending⟩, _, _, token, _, left, updated, result⟩
    rcases (@commitUpdate_of_found _ _ (grantUpdate env id body now validUntil) _ _
      found pending).mp updated with ⟨_, rfl⟩
    cases Except.ok.inj result
    exact @updateState_ne _ (grantUpdate env id body now validUntil) _ found pending
      (show ApprovalStatus.approved ≠ .pending by decide)
  · simp only [grantChange, bind_eq_ok_iff]
    rintro committed ⟨validUntil, _, row, _, _, _, token, _, left, _, result⟩
    cases Except.ok.inj result
    rfl

end Handlers

/-! ## When the two happen together -/

/-- The end of a handler is atomic exactly when a committed change meets an audit
transaction that works and a correlation id that is new. -/
theorem auditChange_atomic_iff {Response : Type} {env : ApprovalEnv} {db : ApprovalDb}
    {faults : Faults} {correlationId : String} {call : ApprovalCall} {takesEffect : Prop}
    {change : Except AppError (Change Response)} (commits : Commits db call.id takesEffect change) :
    AtomicOutcome db call
        (outcome (auditChange env db faults call.eventType correlationId change)) ↔
      (takesEffect → faults.audit = false ∧
        correlationId ∉ db.audit.map ApprovalAuditRow.correlationId) := by
  rw [← commits.committed_iff]
  cases ended : change with
  | error error =>
      constructor
      · rintro _ ⟨committed, success⟩
        cases success
      · intro _
        constructor
        · intro _ _
          rfl
        · intro success
          cases success
  | ok committed =>
      have changes := commits.changes committed ended
      have names := commits.names committed ended
      cases fails : faults.audit with
      | true =>
          -- the change stands, but the call answers with an error
          simp only [auditChange, outcome, fails, if_true]
          constructor
          · intro atomic
            exact absurd (atomic.onError _ rfl) changes
          · intro works
            cases (works ⟨committed, rfl⟩).1
      | false =>
          simp only [auditChange, outcome, fails, Bool.false_eq_true, if_false]
          by_cases known : correlationId ∈ db.audit.map ApprovalAuditRow.correlationId
          · have ignored : storeEvent db.audit (buildApprovalAuditEvent env call.eventType
                committed.approval "admin" correlationId) = db.audit := if_pos known
            rw [ignored]
            constructor
            · intro atomic
              rcases atomic.onSuccess rfl with ⟨event, _, stored⟩
              exact absurd (congrArg List.length stored) (by simp)
            · intro works
              exact absurd known (works ⟨committed, rfl⟩).2
          · have stored : storeEvent db.audit (buildApprovalAuditEvent env call.eventType
                committed.approval "admin" correlationId) = db.audit ++
                  [buildApprovalAuditEvent env call.eventType committed.approval "admin"
                    correlationId] := if_neg known
            rw [stored]
            constructor
            · intro _ _
              exact ⟨trivial, known⟩
            · intro _
              constructor
              · intro error failed
                cases failed
              · intro _
                exact ⟨_, ⟨rfl, congrArg ("approval:" ++ ·) names⟩, rfl⟩

/-- A call is atomic exactly when, should its change take effect, the audit transaction
does not fail and the correlation id of its event is new. -/
theorem serve_atomic_iff (env : ApprovalEnv) (db : ApprovalDb) (faults : Faults)
    (correlationId : String) (call : ApprovalCall) :
    AtomicOutcome db call (call.serve env db faults correlationId) ↔
      (call.TakesEffect env db faults → faults.audit = false ∧
        correlationId ∉ db.audit.map ApprovalAuditRow.correlationId) := by
  cases call with
  | create id now body =>
    exact auditChange_atomic_iff (createChange_commits env db faults id now body)
  | grant id received now body =>
      exact auditChange_atomic_iff (grantChange_commits env db faults id received now body)
  | reject id now => exact auditChange_atomic_iff (rejectChange_commits env db faults id now)
  | revoke id now => exact auditChange_atomic_iff (revokeChange_commits env db faults id now)

/-! ## A sample call -/

/-- A database with one pending approval and no audit event. -/
def pendingDb : ApprovalDb where
  labels := []
  boardKey := none
  approvals := ⟨[{ sampleRow with
    approverSid := none, validFrom := none, validUntil := none, status := .pending }],
    List.nodup_singleton _⟩
  audit := []

/-- No step fails but, if asked, the audit transaction. -/
def auditFault (audit : Bool) : Faults :=
  ⟨false, false, false, false, audit, false⟩

/-- A grant until the end of the year. -/
def sampleGrant : ApprovalCall :=
  .grant "approval-001" sampleNow sampleNow ⟨"2027-01-01T00:00:00+00:00", none⟩

/-- The audit transaction of a grant fails: the caller gets an error and the approval is
granted. -/
theorem unauditedGrant_not_atomic :
    ¬ AtomicOutcome pendingDb sampleGrant
      (sampleGrant.serve sampleEnv pendingDb (auditFault true) "event-001") := by
  intro atomic
  have failed : (sampleGrant.serve sampleEnv pendingDb (auditFault true) "event-001").1 =
      .error .database := by
    decide +kernel
  have unchanged := congrArg ApprovalTable.rows (atomic.onError _ failed)
  exact absurd unchanged (by decide +kernel)

end DlpSystem.Approvals
