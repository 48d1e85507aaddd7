import DlpSystem.Approval.AuditAtomicity
import DlpSystem.Lib.EventRun
import DlpSystem.Lib.Fallible
import Mathlib.Logic.Function.Basic

/-!
# Approval requests side by side

The server between the database steps of its requests.  A handler reads a row, works on
its copy and writes later; labels, the Board key and other requests move in between.
What was signed, granted and answered is kept as history.
-/

namespace DlpSystem.Approvals

open Common Abac Server
open Lib (ok_bind)

/-! ## Requests in flight -/

/-- The circumstances of a grant: the `valid_until` of its body, and the Board key at the
time of its signature check. -/
structure GrantRecord where
  validUntil : String
  boardKey : Option String
  deriving DecidableEq

/-- How far a grant has come after its fetch. -/
inductive GrantStage
  | fetched
  | tiered (tier : Option Tier)
  | gated (boardKey : Option String)
  | signed (boardKey : Option String) (now : DateTime) (token : String)
  deriving DecidableEq

/-- The handler that a request belongs to. -/
inductive RequestKind
  | create
  | grant
  | reject
  | revoke
  deriving DecidableEq

/-- The audit event type of a handler. -/
def RequestKind.eventType : RequestKind → ApprovalEventType
  | .create => .approvalRequest
  | .grant => .approvalGrant
  | .reject => .approvalRevoke
  | .revoke => .approvalRevoke

/-- A request between two database steps, with the row it has read. -/
inductive Request
  | granting (id : String) (body : GrantRequest) (validUntil : DateTime) (row : ApprovalRow)
      (stage : GrantStage)
  | rejecting (id : String) (row : ApprovalRow)
  | revoking (id : String) (row : ApprovalRow)
  /-- The change is committed, its audit event is not. -/
  | auditing (kind : RequestKind) (id : String) (approval : ApprovalRow)
  /-- The rows of a list that are still to be signed, each with its grant. -/
  | listing (rows : List (ApprovalRow × Option GrantRecord))
  deriving DecidableEq

/-- A token that was signed: its claims, the approval's signature and grant, and the tier
of its object at that moment. -/
structure Signing where
  claims : ApprovalClaims
  signature : Option String
  grant : Option GrantRecord
  tier : Option Tier
  deriving DecidableEq

/-- What a database step of a request does.  A request without a next stage has
answered. -/
structure Effect where
  db : ApprovalDb
  next : Option Request
  granted : Option (String × GrantRecord)
  signing : Option Signing
  success : Option (RequestKind × String)

/-- A step that only takes the request to its next stage. -/
def Effect.proceed (db : ApprovalDb) (next : Request) : Effect :=
  ⟨db, some next, none, none, none⟩

/-- An error response. -/
def Effect.fail (db : ApprovalDb) : Effect :=
  ⟨db, none, none, none, none⟩

namespace Request

/-- The commit of a handler's update, with the request that audits it. -/
def commit (db : ApprovalDb) (fails : Bool) (update : StateUpdate) (kind : RequestKind)
    (approval : ApprovalRow) (granted : Option (String × GrantRecord)) : Effect :=
  match commitUpdate db.approvals fails update with
  | .error _ => .fail db
  | .ok approvals =>
      ⟨{ db with approvals := approvals }, some (.auditing kind update.id approval), granted, none,
        none⟩

/-- The next database step of a request. -/
def advance (env : ApprovalEnv) (db : ApprovalDb) (now : DateTime) (fails : Bool)
    (correlationId : String) : Request → Effect
  | .granting id body validUntil row .fetched =>
      .proceed db (.granting id body validUntil row
        (.tiered (tierOrNone db.labels fails row.dataObjectId)))
  | .granting id body validUntil row (.tiered tier) =>
      match boardGate env tier db.boardKey fails id row body with
      | .error _ => .fail db
      | .ok _ => .proceed db (.granting id body validUntil row (.gated db.boardKey))
  | .granting id body validUntil row (.gated boardKey) =>
      let claims := approvalClaims row id now validUntil
      match env.signToken claims with
      | .error _ => .fail db
      | .ok token =>
          ⟨db, some (.granting id body validUntil row (.signed boardKey now token)), none,
            some ⟨claims, body.signature, some ⟨body.validUntil, boardKey⟩,
              tierOf db.labels row.dataObjectId⟩, none⟩
  | .granting id body validUntil row (.signed boardKey grantedAt _) =>
      commit db fails (grantUpdate env id body grantedAt validUntil) .grant
        (grantedApproval env id row body grantedAt validUntil)
        (some (id, ⟨body.validUntil, boardKey⟩))
  | .rejecting id row =>
      commit db fails (rejectUpdate env id now) .reject (rejectedApproval env row now) none
  | .revoking id row =>
      commit db fails (revokeUpdate env id now) .revoke (revokedApproval env row now) none
  | .auditing kind id approval =>
      if fails then .fail db
      else
        let event := buildApprovalAuditEvent env kind.eventType approval "admin" correlationId
        ⟨{ db with audit := storeEvent db.audit event }, none, none, none, some (kind, id)⟩
  | .listing [] => .fail db
  | .listing ((row, grant) :: rest) =>
      match activeResponse env now row with
      | .error _ => .fail db
      | .ok response =>
          ⟨db, some (.listing rest), none,
            some ⟨response.claims, row.signature, grant, tierOf db.labels row.dataObjectId⟩, none⟩

end Request

/-! ## The server -/

/-- The database, the requests in flight, and the history: the grants by approval, the
tokens signed, and the requests that have answered with success. -/
structure ApprovalServer where
  db : ApprovalDb
  requests : List Request
  grants : String → Option GrantRecord
  signings : List Signing
  successes : List (RequestKind × String)

/-- A step of the server. -/
inductive ServerStep
  | createLabel (row : LabelRow)
  | updateLabel (row : LabelRow)
  | deleteLabel (id : String)
  | updateBoardKey (pubkeyHex : String) (fails : Bool)
  | create (id : String) (now : DateTime) (body : CreateApprovalRequest) (fails : Bool)
  | startGrant (id : String) (now : DateTime) (body : GrantRequest) (fails : Bool)
  | startReject (id : String) (fails : Bool)
  | startRevoke (id : String) (fails : Bool)
  | startList (now : DateTime) (fails : Bool)
  /-- The next database step of a request in flight. -/
  | advance (index : Nat) (now : DateTime) (fails : Bool) (correlationId : String)

/-- The insert of a label, which the primary key may refuse. -/
def insertLabel (labels : List LabelRow) (row : LabelRow) : List LabelRow :=
  if row.id ∈ labels.map LabelRow.id then labels else labels ++ [row]

/-- The update of a label. -/
def setLabel (labels : List LabelRow) (row : LabelRow) : List LabelRow :=
  labels.map fun label => if label.id = row.id then row else label

/-- `update_board_public_key`. -/
def updateBoardKey (env : ApprovalEnv) (boardKey : Option String) (pubkeyHex : String)
    (fails : Bool) : Option String :=
  match env.hexDecode pubkeyHex with
  | .error _ => boardKey
  | .ok bytes => if bytes.length ≠ 32 ∨ fails then boardKey else some pubkeyHex

namespace ApprovalServer

/-- The server with other labels. -/
def withLabels (server : ApprovalServer) (labels : List LabelRow) : ApprovalServer :=
  { server with db := { server.db with labels := labels } }

/-- A request that has passed its first database step joins those in flight. -/
def accept (server : ApprovalServer) : Except AppError Request → ApprovalServer
  | .error _ => server
  | .ok request => { server with requests := server.requests ++ [request] }

/-- The effect of a request's step on the server; the request was at `index`. -/
def absorb (server : ApprovalServer) (index : Nat) (effect : Effect) : ApprovalServer where
  db := effect.db
  requests := server.requests.eraseIdx index ++ effect.next.toList
  grants :=
    match effect.granted with
    | none => server.grants
    | some (id, record) => Function.update server.grants id (some record)
  signings := server.signings ++ effect.signing.toList
  successes := server.successes ++ effect.success.toList

/-- The effect of a step. -/
def next (env : ApprovalEnv) (server : ApprovalServer) : ServerStep → ApprovalServer
  | .createLabel row => server.withLabels (insertLabel server.db.labels row)
  | .updateLabel row => server.withLabels (setLabel server.db.labels row)
  | .deleteLabel id => server.withLabels (server.db.labels.filter fun label => label.id ≠ id)
  | .updateBoardKey pubkeyHex fails =>
      { server with
        db := { server.db with
          boardKey := updateBoardKey env server.db.boardKey pubkeyHex fails } }
  | .create id now body fails =>
      let record := body.record id (env.toRfc3339 now)
      match body.validate, commitInsert server.db.approvals fails record with
      | .ok _, .ok approvals =>
          { server with
            db := { server.db with approvals := approvals }
            requests := server.requests ++ [.auditing .create id record.pendingRow] }
      | _, _ => server
  | .startGrant id now body fails =>
      server.accept do
        let validUntil ← body.expiry env now
        let row ← fetchPending server.db.approvals fails id
        return .granting id body validUntil row .fetched
  | .startReject id fails =>
      server.accept do
        let row ← fetchPending server.db.approvals fails id
        return .rejecting id row
  | .startRevoke id fails =>
      server.accept do
        let row ← fetchApproved server.db.approvals fails id
        return .revoking id row
  | .startList now fails =>
      if fails then server
      else
        { server with
          requests := server.requests ++
            [.listing ((server.db.approvals.selectActive (env.toRfc3339 now)).map fun row =>
              (row, server.grants row.id))] }
  | .advance index now fails correlationId =>
      match server.requests[index]? with
      | none => server
      | some request => server.absorb index (request.advance env server.db now fails correlationId)

end ApprovalServer

/-! ## A call that nobody interrupts -/

/-- The handler of a call. -/
def ApprovalCall.kind : ApprovalCall → RequestKind
  | .create _ _ _ => .create
  | .grant _ _ _ _ => .grant
  | .reject _ _ => .reject
  | .revoke _ _ => .revoke

/-- The steps of a call, one after the other. -/
def ApprovalCall.steps (faults : Faults) (correlationId : String) : ApprovalCall → List ServerStep
  | .create id now body =>
      [.create id now body faults.change, .advance 0 now faults.audit correlationId]
  | .grant id received now body =>
      [.startGrant id received body faults.fetch, .advance 0 now faults.tier correlationId,
        .advance 0 now faults.boardKey correlationId, .advance 0 now false correlationId,
        .advance 0 now faults.change correlationId, .advance 0 now faults.audit correlationId]
  | .reject id now =>
      [.startReject id faults.fetch, .advance 0 now faults.change correlationId,
        .advance 0 now faults.audit correlationId]
  | .revoke id now =>
      [.startRevoke id faults.fetch, .advance 0 now faults.change correlationId,
        .advance 0 now faults.audit correlationId]

/-- Between calls: the database, and the calls that have succeeded. -/
structure Idle (server : ApprovalServer) (db : ApprovalDb)
    (successes : List (RequestKind × String)) : Prop where
  db : server.db = db
  requests : server.requests = []
  successes : server.successes = successes

section Solo

variable (env : ApprovalEnv) {db : ApprovalDb} {grants : String → Option GrantRecord}
  {signings : List Signing} {successes : List (RequestKind × String)}

/-- The answer of a handler, as a server shows it that has served the call. -/
def Answered {Response : Type} (server : ApprovalServer) (successes : List (RequestKind × String))
    (kind : RequestKind) (id : String) (answer : Except AppError Response × ApprovalDb) : Prop :=
  Idle server answer.2 (successes ++ if answer.1.toBool then [(kind, id)] else [])

theorem answered_outcome {Response : Type} {server : ApprovalServer} {kind : RequestKind}
    {id : String} {answer : Except AppError Response × ApprovalDb} :
    Answered server successes kind id (outcome answer) ↔
      Answered server successes kind id answer := by
  rcases answer with ⟨result, db⟩
  cases result with
  | error error => exact Iff.rfl
  | ok response => exact Iff.rfl

/-- The audit event of a call that is alone. -/
theorem answered_of_audit {Response : Type} (change : Change Response) (kind : RequestKind)
    (id : String) (now : DateTime) (faults : Faults) (correlationId : String) :
    Answered
      (ApprovalServer.next env ⟨{ db with approvals := change.approvals },
        [.auditing kind id change.approval], grants, signings, successes⟩
        (.advance 0 now faults.audit correlationId))
      successes kind id (auditChange env db faults kind.eventType correlationId (.ok change)) := by
  unfold Answered auditChange
  cases fails : faults.audit with
  | true => exact ⟨rfl, rfl, rfl⟩
  | false => exact ⟨rfl, rfl, rfl⟩

/-- The commit of a call that is alone, and its audit event. -/
theorem answered_of_commit {Response : Type} {request : Request} {now : DateTime}
    {faults : Faults} {correlationId : String} {update : StateUpdate} {kind : RequestKind}
    {approval : ApprovalRow} {granted : Option (String × GrantRecord)}
    (commits : request.advance env db now faults.change correlationId =
      Request.commit db faults.change update kind approval granted)
    (response : Response) :
    Answered
      ([ServerStep.advance 0 now faults.change correlationId,
        .advance 0 now faults.audit correlationId].foldl (ApprovalServer.next env)
        ⟨db, [request], grants, signings, successes⟩)
      successes kind update.id
      (auditChange env db faults kind.eventType correlationId (do
        let approvals ← commitUpdate db.approvals faults.change update
        return ⟨approvals, approval, response⟩)) := by
  have advanced : ApprovalServer.next env ⟨db, [request], grants, signings, successes⟩
      (.advance 0 now faults.change correlationId) =
        ApprovalServer.absorb ⟨db, [request], grants, signings, successes⟩ 0
          (Request.commit db faults.change update kind approval granted) := by
    rw [← commits]
    rfl
  simp only [List.foldl_cons, List.foldl_nil, advanced, Request.commit]
  cases commitUpdate db.approvals faults.change update with
  | error error =>
      simp only [Effect.fail, ApprovalServer.absorb, Option.toList_none, List.append_nil]
      exact ⟨rfl, rfl, (List.append_nil _).symm⟩
  | ok approvals =>
      simp only [ApprovalServer.absorb, Option.toList_none, Option.toList_some, List.append_nil,
        List.eraseIdx_cons_zero, List.nil_append]
      exact answered_of_audit env ⟨approvals, approval, response⟩ kind update.id now faults
        correlationId

/-- The steps of a call after it has been refused do nothing. -/
theorem answered_of_refused {Response : Type} {kind : RequestKind} {id : String}
    {error : AppError} (left : List (DateTime × Bool × String)) :
    Answered
      ((left.map fun step => ServerStep.advance 0 step.1 step.2.1 step.2.2).foldl
        (ApprovalServer.next env) ⟨db, [], grants, signings, successes⟩)
      successes kind id ((.error error, db) : Except AppError Response × ApprovalDb) := by
  induction left with
  | nil => exact ⟨rfl, rfl, (List.append_nil _).symm⟩
  | cons step left ih => exact ih

/-- A refused request leaves the server as it was, an accepted one is alone in flight. -/
theorem accept_idle (accepted : Except AppError Request) :
    ApprovalServer.accept ⟨db, [], grants, signings, successes⟩ accepted =
      ⟨db, accepted.toOption.toList, grants, signings, successes⟩ := by
  cases accepted with
  | error error => rfl
  | ok request => rfl

theorem answered_create (faults : Faults) (correlationId id : String) (now : DateTime)
    (body : CreateApprovalRequest) :
    Answered (((ApprovalCall.create id now body).steps faults correlationId).foldl
        (ApprovalServer.next env) ⟨db, [], grants, signings, successes⟩)
      successes .create id (createApproval env db faults correlationId id now body) := by
  rw [createApproval, createChange, ApprovalCall.steps, List.foldl_cons]
  have refused := @answered_of_refused env db grants signings successes ApprovalResponse .create id
  cases checked : body.validate with
  | error error =>
      simp only [ApprovalServer.next, checked]
      exact refused [(now, faults.audit, correlationId)]
  | ok _ =>
      cases inserted : commitInsert db.approvals faults.change
          (body.record id (env.toRfc3339 now)) with
      | error error =>
          simp only [ApprovalServer.next, checked, inserted]
          exact refused [(now, faults.audit, correlationId)]
      | ok approvals =>
          simp only [ApprovalServer.next, checked, inserted]
          exact answered_of_audit env ⟨approvals, _, _⟩ .create id now faults correlationId

/-- A call that fetches a row and commits its update. -/
theorem answered_of_fetch {Response : Type} {request : ApprovalRow → Request} {now : DateTime}
    {faults : Faults} {correlationId : String} {update : StateUpdate} {kind : RequestKind}
    {approval : ApprovalRow → ApprovalRow}
    (commits : ∀ row, (request row).advance env db now faults.change correlationId =
      Request.commit db faults.change update kind (approval row) none)
    (fetched : Except AppError ApprovalRow) (response : ApprovalRow → Response) :
    Answered
      ([ServerStep.advance 0 now faults.change correlationId,
        .advance 0 now faults.audit correlationId].foldl (ApprovalServer.next env)
        ⟨db, (fetched.map request).toOption.toList, grants, signings, successes⟩)
      successes kind update.id
      (auditChange env db faults kind.eventType correlationId (do
        let row ← fetched
        let approvals ← commitUpdate db.approvals faults.change update
        return ⟨approvals, approval row, response row⟩)) := by
  cases fetched with
  | error error =>
      exact answered_of_refused env
        [(now, faults.change, correlationId), (now, faults.audit, correlationId)]
  | ok row => exact answered_of_commit env (commits row) (response row)

theorem answered_reject (faults : Faults) (correlationId id : String) (now : DateTime) :
    Answered (((ApprovalCall.reject id now).steps faults correlationId).foldl
        (ApprovalServer.next env) ⟨db, [], grants, signings, successes⟩)
      successes .reject id (rejectApproval env db faults correlationId id now) := by
  have started : ApprovalServer.next env ⟨db, [], grants, signings, successes⟩
      (.startReject id faults.fetch) = _ := accept_idle _
  rw [ApprovalCall.steps, List.foldl_cons, started]
  exact @answered_of_fetch env db grants signings successes _ (.rejecting id) now faults
    correlationId (rejectUpdate env id now) .reject (rejectedApproval env · now) (fun _ => rfl)
    (fetchPending db.approvals faults.fetch id) _

theorem answered_revoke (faults : Faults) (correlationId id : String) (now : DateTime) :
    Answered (((ApprovalCall.revoke id now).steps faults correlationId).foldl
        (ApprovalServer.next env) ⟨db, [], grants, signings, successes⟩)
      successes .revoke id (revokeApproval env db faults correlationId id now) := by
  have started : ApprovalServer.next env ⟨db, [], grants, signings, successes⟩
      (.startRevoke id faults.fetch) = _ := accept_idle _
  rw [ApprovalCall.steps, List.foldl_cons, started]
  exact @answered_of_fetch env db grants signings successes _ (.revoking id) now faults
    correlationId (revokeUpdate env id now) .revoke (revokedApproval env · now) (fun _ => rfl)
    (fetchApproved db.approvals faults.fetch id) _

theorem next_of_proceed {request next : Request} {now : DateTime} {fails : Bool}
    {correlationId : String}
    (proceeds : request.advance env db now fails correlationId = .proceed db next) :
    ApprovalServer.next env ⟨db, [request], grants, signings, successes⟩
      (.advance 0 now fails correlationId) = ⟨db, [next], grants, signings, successes⟩ := by
  change ApprovalServer.absorb _ 0 (request.advance env db now fails correlationId) = _
  rw [proceeds]
  simp [ApprovalServer.absorb, Effect.proceed]

theorem next_of_fail {request : Request} {now : DateTime} {fails : Bool} {correlationId : String}
    (refuses : request.advance env db now fails correlationId = .fail db) :
    ApprovalServer.next env ⟨db, [request], grants, signings, successes⟩
      (.advance 0 now fails correlationId) = ⟨db, [], grants, signings, successes⟩ := by
  change ApprovalServer.absorb _ 0 (request.advance env db now fails correlationId) = _
  rw [refuses]
  simp [ApprovalServer.absorb, Effect.fail]

theorem answered_grant (faults : Faults) (correlationId id : String) (received now : DateTime)
    (body : GrantRequest) :
    Answered (((ApprovalCall.grant id received now body).steps faults correlationId).foldl
        (ApprovalServer.next env) ⟨db, [], grants, signings, successes⟩)
      successes .grant id (grantApproval env db faults correlationId id received now body) := by
  rw [grantApproval, grantChange, ApprovalCall.steps, List.foldl_cons]
  rw [show ApprovalServer.next env ⟨db, [], grants, signings, successes⟩
    (.startGrant id received body faults.fetch) = _ from accept_idle _]
  have refused := @answered_of_refused env db grants signings successes GrantResponse .grant id
  cases body.expiry env received with
  | error error =>
      exact refused [(now, faults.tier, correlationId), (now, faults.boardKey, correlationId),
        (now, false, correlationId), (now, faults.change, correlationId),
        (now, faults.audit, correlationId)]
  | ok validUntil =>
      cases fetchPending db.approvals faults.fetch id with
      | error error =>
          exact refused [(now, faults.tier, correlationId), (now, faults.boardKey, correlationId),
            (now, false, correlationId), (now, faults.change, correlationId),
            (now, faults.audit, correlationId)]
      | ok row =>
          change Answered (List.foldl _ ⟨db, [.granting id body validUntil row .fetched], grants,
            signings, successes⟩ _) _ _ _ _
          rw [List.foldl_cons, next_of_proceed env rfl, List.foldl_cons]
          simp only [ok_bind]
          cases passes : boardGate env (tierOrNone db.labels faults.tier row.dataObjectId)
              db.boardKey faults.boardKey id row body with
          | error error =>
              rw [next_of_fail]
              · exact refused [(now, false, correlationId), (now, faults.change, correlationId),
                  (now, faults.audit, correlationId)]
              · simp only [Request.advance, passes]
          | ok _ =>
              rw [@next_of_proceed _ _ _ _ _ _
                (.granting id body validUntil row (.gated db.boardKey)), List.foldl_cons]
              · simp only [ok_bind]
                cases signed : env.signToken (approvalClaims row id now validUntil) with
                | error error =>
                    rw [next_of_fail]
                    · exact refused [(now, faults.change, correlationId),
                        (now, faults.audit, correlationId)]
                    · simp only [Request.advance, signed]
                | ok token =>
                    have signs : ApprovalServer.next env ⟨db, [.granting id body validUntil row
                        (.gated db.boardKey)], grants, signings, successes⟩
                        (.advance 0 now false correlationId) =
                          ⟨db, [.granting id body validUntil row (.signed db.boardKey now token)],
                            grants, signings ++ [⟨approvalClaims row id now validUntil,
                              body.signature, some ⟨body.validUntil, db.boardKey⟩,
                              tierOf db.labels row.dataObjectId⟩], successes⟩ := by
                      simp [ApprovalServer.next, Request.advance, signed, ApprovalServer.absorb]
                    rw [signs]
                    exact @answered_of_commit env db grants _ successes _
                      (.granting id body validUntil row (.signed db.boardKey now token)) now faults
                      correlationId _ _ _ _ rfl _
              · simp only [Request.advance, passes]

end Solo

/-- A call that nobody interrupts does in its steps what the handler does. -/
theorem answered_call (env : ApprovalEnv) {server : ApprovalServer} (idle : server.requests = [])
    (faults : Faults) (correlationId : String) (call : ApprovalCall) :
    Answered ((call.steps faults correlationId).foldl (ApprovalServer.next env) server)
      server.successes call.kind call.id (call.serve env server.db faults correlationId) := by
  rcases server with ⟨db, requests, grants, signings, successes⟩
  cases idle
  cases call with
  | create id now body =>
      exact answered_outcome.mpr (answered_create env faults correlationId id now body)
  | grant id received now body =>
      exact answered_outcome.mpr (answered_grant env faults correlationId id received now body)
  | reject id now => exact answered_outcome.mpr (answered_reject env faults correlationId id now)
  | revoke id now => exact answered_outcome.mpr (answered_revoke env faults correlationId id now)

end DlpSystem.Approvals
