import DlpSystem.Lib.Fallible
import DlpSystem.Lib.JsonTree
import DlpSystem.Server.Approvals
import DlpSystem.Server.LabelService

/-!
# The approval handlers

`create_approval`, `grant_approval`, `reject_approval`, `revoke_approval` and
`list_active_approvals`.  A handler reads with one connection and writes with another;
the change of the approval and its audit event are two transactions.  Alerts follow the
response and are left out.
-/

namespace DlpSystem.Server

open Common Abac
open Lib (Json bind_eq_ok_iff exists_of_mem_mapM)

/-- The `AppError` variants of the handlers. -/
inductive AppError
  | database
  | badRequest (message : String)
  | conflict (message : String)
  | internal (message : String)
  deriving DecidableEq

/-- `DateTime<FixedOffset>`: nanoseconds since the epoch, and the offset in seconds. -/
structure DateTime where
  nanos : Int
  offset : Int
  deriving DecidableEq

/-- `DateTime::timestamp`. -/
def DateTime.timestamp (time : DateTime) : Int :=
  time.nanos / 1000000000

/-- What the handlers take from libraries: `chrono` texts, hexadecimal texts, Ed25519 keys
and signatures, the signing of tokens, and the upper case of a text. -/
structure ApprovalEnv where
  parseRfc3339 : String → Except String DateTime
  toRfc3339 : DateTime → String
  hexDecode : String → Except String (List UInt8)
  /-- Why 32 bytes are no public key. -/
  keyError : List UInt8 → Option String
  /-- Why bytes are no signature. -/
  signatureError : List UInt8 → Option String
  verifies : List UInt8 → String → List UInt8 → Bool
  signToken : ApprovalClaims → Except AppError String
  toUppercase : String → String

/-! ## Board signatures -/

/-- `t4_canonical_message`. -/
def t4CanonicalMessage (jti sub obj act validUntil : String) : String :=
  "DLP-T4-SIGNATURE:" ++ jti ++ ":" ++ sub ++ ":" ++ obj ++ ":" ++ act ++ ":" ++ validUntil

/-- `verify_board_signature`. -/
def verifyBoardSignature (env : ApprovalEnv) (pubkeyHex message signatureHex : String) :
    Except AppError Bool := do
  let pubkeyBytes ← (env.hexDecode pubkeyHex).mapError fun error =>
    .badRequest ("invalid board pubkey hex: " ++ error)
  if pubkeyBytes.length ≠ 32 then
    throw (.badRequest "board pubkey must be exactly 32 bytes")
  if let some error := env.keyError pubkeyBytes then
    throw (.badRequest ("invalid board pubkey: " ++ error))
  let signatureBytes ← (env.hexDecode signatureHex).mapError fun error =>
    .badRequest ("invalid signature hex: " ++ error)
  if let some error := env.signatureError signatureBytes then
    throw (.badRequest ("invalid signature: " ++ error))
  return env.verifies pubkeyBytes message signatureBytes

/-! ## The database -/

/-- `EventType`, as far as the handlers use it. -/
inductive ApprovalEventType
  | approvalRequest
  | approvalGrant
  | approvalRevoke
  deriving DecidableEq

/-- `Action`, as far as `action_from_str` knows it. -/
inductive ApprovalAction
  | read
  | write
  | copy
  | delete
  | move
  | paste
  | dragDrop
  | cloudUpload
  | print
  deriving DecidableEq

/-- The columns of `audit_events` that `build_approval_audit_event` fills; the rest is
constant. -/
structure ApprovalAuditRow where
  eventType : ApprovalEventType
  userSid : String
  userName : String
  resourcePath : String
  actionAttempted : ApprovalAction
  correlationId : String
  deriving DecidableEq

/-- The tables that the handlers read and write, and the Board key in `system_kv`. -/
structure ApprovalDb where
  labels : List LabelRow
  boardKey : Option String
  approvals : ApprovalTable
  audit : List ApprovalAuditRow

/-- `LabelRepository::get_by_id`, the tier of it. -/
def tierOf (labels : List LabelRow) (dataObjectId : String) : Option Tier :=
  (labels.find? fun row => row.id = dataObjectId).map LabelRow.tier

/-- `resolve_tier`. -/
def resolveTier (labels : List LabelRow) (fails : Bool) (dataObjectId : String) :
    Except AppError (Option Tier) :=
  if fails then .error .database else .ok (tierOf labels dataObjectId)

/-- `resolve_tier(..).ok().flatten()`. -/
def tierOrNone (labels : List LabelRow) (fails : Bool) (dataObjectId : String) : Option Tier :=
  match resolveTier labels fails dataObjectId with
  | .ok tier => tier
  | .error _ => none

/-- `action_from_str`. -/
def actionFromStr (env : ApprovalEnv) (text : String) : ApprovalAction :=
  match env.toUppercase text with
  | "READ" => .read
  | "WRITE" => .write
  | "COPY" => .copy
  | "DELETE" => .delete
  | "MOVE" => .move
  | "PASTE" => .paste
  | "DRAG_DROP" => .dragDrop
  | "CLOUD_UPLOAD" => .cloudUpload
  | "PRINT" => .print
  | _ => .read

/-- `build_approval_audit_event`; the correlation id is a random UUID. -/
def buildApprovalAuditEvent (env : ApprovalEnv) (eventType : ApprovalEventType)
    (approval : ApprovalRow) (adminName correlationId : String) : ApprovalAuditRow where
  eventType := eventType
  userSid := approval.requesterSid
  userName := adminName
  resourcePath := "approval:" ++ approval.id
  actionAttempted := actionFromStr env approval.allowedAction
  correlationId := correlationId

/-- `store_events_sync` of one event: `INSERT OR IGNORE`. -/
def storeEvent (audit : List ApprovalAuditRow) (event : ApprovalAuditRow) :
    List ApprovalAuditRow :=
  if event.correlationId ∈ audit.map ApprovalAuditRow.correlationId then audit
  else audit ++ [event]

/-! ## The parts of the handlers -/

/-- `CreateApprovalRequest`; the device fingerprint is not used. -/
structure CreateApprovalRequest where
  requesterSid : String
  dataObjectId : String
  allowedAction : String
  destinationScope : Option String
  justification : String
  deriving DecidableEq

/-- `CreateApprovalRequest::validate`. -/
def CreateApprovalRequest.validate (body : CreateApprovalRequest) : Except AppError Unit :=
  if body.justification.utf8ByteSize > 500 then
    .error (.badRequest "justification exceeds 500 characters")
  else if (body.destinationScope.getD "").utf8ByteSize > 200 then
    .error (.badRequest "destination_scope exceeds 200 characters")
  else .ok ()

/-- The record that `create_approval` inserts. -/
def CreateApprovalRequest.record (body : CreateApprovalRequest) (id now : String) :
    ApprovalUpsertRow where
  id := id
  requesterSid := body.requesterSid
  dataObjectId := body.dataObjectId
  allowedAction := body.allowedAction
  destinationScope := body.destinationScope
  justification := body.justification
  createdAt := now
  updatedAt := now

/-- `GrantRequest`. -/
structure GrantRequest where
  validUntil : String
  signature : Option String
  deriving DecidableEq

/-- The expiry of a grant, which must lie in the future. -/
def GrantRequest.expiry (env : ApprovalEnv) (now : DateTime) (body : GrantRequest) :
    Except AppError DateTime :=
  match env.parseRfc3339 body.validUntil with
  | .error error => .error (.badRequest ("invalid valid_until: " ++ error))
  | .ok validUntil =>
      if validUntil.nanos ≤ now.nanos then
        .error (.badRequest "valid_until must be in the future")
      else .ok validUntil

/-- The fetch of a handler, with the status it asks for. -/
def fetchRow (table : ApprovalTable) (fails : Bool) (id : String) (status : ApprovalStatus)
    (otherwise : String) : Except AppError ApprovalRow :=
  if fails then .error .database
  else
    match table.getById id with
    | none => .error .database
    | some row => if row.status = status then .ok row else .error (.conflict otherwise)

/-- The fetch of `grant_approval` and `reject_approval`. -/
def fetchPending (table : ApprovalTable) (fails : Bool) (id : String) :
    Except AppError ApprovalRow :=
  fetchRow table fails id .pending "approval is not in pending status"

/-- The fetch of `revoke_approval`. -/
def fetchApproved (table : ApprovalTable) (fails : Bool) (id : String) :
    Except AppError ApprovalRow :=
  fetchRow table fails id .approved "approval is not in approved status"

/-- The Board signature that `grant_approval` asks for when it has read tier T4. -/
def boardGate (env : ApprovalEnv) (tier : Option Tier) (boardKey : Option String)
    (keyFails : Bool) (id : String) (row : ApprovalRow) (body : GrantRequest) :
    Except AppError Unit :=
  if tier = some .T4 then
    match body.signature with
    | none => .error (.badRequest "T4 approval requires valid Board signature")
    | some signature =>
        if keyFails then .error (.internal "db error reading board pubkey")
        else
          match boardKey with
          | none => .error (.badRequest "Board public key not configured")
          | some pubkeyHex =>
              let canonical := t4CanonicalMessage id row.requesterSid row.dataObjectId
                row.allowedAction body.validUntil
              match verifyBoardSignature env pubkeyHex canonical signature with
              | .error error => .error error
              | .ok true => .ok ()
              | .ok false => .error (.badRequest "T4 approval requires valid Board signature")
  else .ok ()

/-- The claims of `grant_approval` and `list_active_approvals`. -/
def approvalClaims (row : ApprovalRow) (jti : String) (now validUntil : DateTime) :
    ApprovalClaims where
  iss := "dlp-server"
  sub := row.requesterSid
  obj := row.dataObjectId
  act := row.allowedAction
  dst := row.destinationScope
  dev := none
  iat := now.timestamp
  exp := validUntil.timestamp
  jti := jti

/-- The update of `grant_approval`. -/
def grantUpdate (env : ApprovalEnv) (id : String) (body : GrantRequest)
    (now validUntil : DateTime) : StateUpdate where
  id := id
  expectedCurrentStatus := .pending
  newStatus := .approved
  approverSid := some "admin"
  validFrom := some (env.toRfc3339 now)
  validUntil := some (env.toRfc3339 validUntil)
  signature := body.signature
  updatedAt := env.toRfc3339 now

/-- The update of `reject_approval`. -/
def rejectUpdate (env : ApprovalEnv) (id : String) (now : DateTime) : StateUpdate where
  id := id
  expectedCurrentStatus := .pending
  newStatus := .rejected
  approverSid := some "admin"
  validFrom := none
  validUntil := none
  signature := none
  updatedAt := env.toRfc3339 now

/-- The update of `revoke_approval`. -/
def revokeUpdate (env : ApprovalEnv) (id : String) (now : DateTime) : StateUpdate where
  id := id
  expectedCurrentStatus := .approved
  newStatus := .revoked
  approverSid := none
  validFrom := none
  validUntil := none
  signature := none
  updatedAt := env.toRfc3339 now

/-- The transaction of an insert. -/
def commitInsert (table : ApprovalTable) (fails : Bool) (record : ApprovalUpsertRow) :
    Except AppError ApprovalTable :=
  if fails then .error .database
  else
    match table.insert record with
    | none => .error .database
    | some inserted => .ok inserted

/-- The transaction of an update; a row that is no longer in the expected status is a
conflict. -/
def commitUpdate (table : ApprovalTable) (fails : Bool) (update : StateUpdate) :
    Except AppError ApprovalTable :=
  if fails then .error .database
  else if (table.updateState update).2 = 0 then
    .error (.conflict "approval was already processed")
  else .ok (table.updateState update).1

theorem fetchRow_eq_ok_iff {table : ApprovalTable} {fails : Bool} {id : String}
    {status : ApprovalStatus} {otherwise : String} {row : ApprovalRow} :
    fetchRow table fails id status otherwise = .ok row ↔
      fails = false ∧ table.getById id = some row ∧ row.status = status := by
  unfold fetchRow
  cases fails with
  | true => simp
  | false =>
      cases table.getById id with
      | none => simp
      | some found =>
          by_cases asked : found.status = status
          · simp only [Bool.false_eq_true, if_false, if_pos asked, Except.ok.injEq, true_and,
              Option.some.injEq]
            constructor
            · rintro rfl
              exact ⟨rfl, asked⟩
            · exact And.left
          · simp only [Bool.false_eq_true, if_false, if_neg asked, reduceCtorEq, true_and,
              Option.some.injEq, false_iff]
            rintro ⟨rfl, same⟩
            exact asked same

theorem commitInsert_eq_ok_iff {table : ApprovalTable} {fails : Bool}
    {record : ApprovalUpsertRow} {left : ApprovalTable} :
    commitInsert table fails record = .ok left ↔
      fails = false ∧ table.insert record = some left := by
  unfold commitInsert
  cases fails with
  | true => simp
  | false => cases table.insert record <;> simp

theorem commitUpdate_eq_ok_iff {table : ApprovalTable} {fails : Bool} {update : StateUpdate}
    {left : ApprovalTable} :
    commitUpdate table fails update = .ok left ↔
      fails = false ∧ (table.updateState update).2 ≠ 0 ∧ (table.updateState update).1 = left := by
  unfold commitUpdate
  cases fails with
  | true => simp
  | false => by_cases unaffected : (table.updateState update).2 = 0 <;> simp [unaffected]

/-- The approval in the response of `grant_approval`. -/
def grantedApproval (env : ApprovalEnv) (id : String) (row : ApprovalRow) (body : GrantRequest)
    (now validUntil : DateTime) : ApprovalRow where
  id := id
  requesterSid := row.requesterSid
  approverSid := some "admin"
  dataObjectId := row.dataObjectId
  allowedAction := row.allowedAction
  destinationScope := row.destinationScope
  validFrom := some (env.toRfc3339 now)
  validUntil := some (env.toRfc3339 validUntil)
  signature := body.signature
  status := .approved
  justification := row.justification
  createdAt := row.createdAt
  updatedAt := env.toRfc3339 now

/-- The approval in the response of `reject_approval`: the row as it was read, but for
status, approver and time. -/
def rejectedApproval (env : ApprovalEnv) (row : ApprovalRow) (now : DateTime) : ApprovalRow :=
  { row with
    status := .rejected
    approverSid := some "admin"
    updatedAt := env.toRfc3339 now }

/-- The approval in the response of `revoke_approval`. -/
def revokedApproval (env : ApprovalEnv) (row : ApprovalRow) (now : DateTime) : ApprovalRow :=
  { row with
    status := .revoked
    updatedAt := env.toRfc3339 now }

/-! ## The handlers

A call that nobody interrupts.  What can fail in the database is given by flags; a
failed transaction leaves no trace. -/

/-- The database steps of a call that fail. -/
structure Faults where
  fetch : Bool
  tier : Bool
  boardKey : Bool
  change : Bool
  audit : Bool
  shownTier : Bool
  deriving DecidableEq

/-- `ApprovalResponse`. -/
structure ApprovalResponse where
  approval : ApprovalRow
  tier : Option Tier
  deriving DecidableEq

/-- `GrantResponse`. -/
structure GrantResponse where
  approval : ApprovalRow
  token : String
  deriving DecidableEq

/-- A committed change: the table it leaves, the approval of its audit event, and what
the response needs. -/
structure Change (Response : Type) where
  approvals : ApprovalTable
  approval : ApprovalRow
  response : Response

/-- `create_approval` up to the commit of the row. -/
def createChange (env : ApprovalEnv) (db : ApprovalDb) (faults : Faults) (id : String)
    (now : DateTime) (body : CreateApprovalRequest) : Except AppError (Change ApprovalResponse) := do
  body.validate
  let record := body.record id (env.toRfc3339 now)
  let approvals ← commitInsert db.approvals faults.change record
  let tier := tierOrNone db.labels faults.shownTier body.dataObjectId
  return ⟨approvals, record.pendingRow, ⟨record.pendingRow, tier⟩⟩

/-- `grant_approval` up to the commit of the update. -/
def grantChange (env : ApprovalEnv) (db : ApprovalDb) (faults : Faults) (id : String)
    (received now : DateTime) (body : GrantRequest) : Except AppError (Change GrantResponse) := do
  let validUntil ← body.expiry env received
  let row ← fetchPending db.approvals faults.fetch id
  let tier := tierOrNone db.labels faults.tier row.dataObjectId
  boardGate env tier db.boardKey faults.boardKey id row body
  let token ← env.signToken (approvalClaims row id now validUntil)
  let approvals ← commitUpdate db.approvals faults.change (grantUpdate env id body now validUntil)
  let approval := grantedApproval env id row body now validUntil
  return ⟨approvals, approval, ⟨approval, token⟩⟩

/-- `reject_approval` up to the commit of the update. -/
def rejectChange (env : ApprovalEnv) (db : ApprovalDb) (faults : Faults) (id : String)
    (now : DateTime) : Except AppError (Change ApprovalResponse) := do
  let row ← fetchPending db.approvals faults.fetch id
  let approvals ← commitUpdate db.approvals faults.change (rejectUpdate env id now)
  let approval := rejectedApproval env row now
  return ⟨approvals, approval, ⟨approval, tierOrNone db.labels faults.shownTier row.dataObjectId⟩⟩

/-- `revoke_approval` up to the commit of the update. -/
def revokeChange (env : ApprovalEnv) (db : ApprovalDb) (faults : Faults) (id : String)
    (now : DateTime) : Except AppError (Change ApprovalResponse) := do
  let row ← fetchApproved db.approvals faults.fetch id
  let approvals ← commitUpdate db.approvals faults.change (revokeUpdate env id now)
  let approval := revokedApproval env row now
  return ⟨approvals, approval, ⟨approval, tierOrNone db.labels faults.shownTier row.dataObjectId⟩⟩

/-- The end of every handler: the audit event of the committed change, in a transaction
of its own. -/
def auditChange {Response : Type} (env : ApprovalEnv) (db : ApprovalDb) (faults : Faults)
    (eventType : ApprovalEventType) (correlationId : String) :
    Except AppError (Change Response) → Except AppError Response × ApprovalDb
  | .error error => (.error error, db)
  | .ok change =>
      let changed := { db with approvals := change.approvals }
      let event := buildApprovalAuditEvent env eventType change.approval "admin" correlationId
      if faults.audit then (.error .database, changed)
      else (.ok change.response, { changed with audit := storeEvent changed.audit event })

/-- `create_approval`. -/
def createApproval (env : ApprovalEnv) (db : ApprovalDb) (faults : Faults)
    (correlationId id : String) (now : DateTime) (body : CreateApprovalRequest) :
    Except AppError ApprovalResponse × ApprovalDb :=
  auditChange env db faults .approvalRequest correlationId (createChange env db faults id now body)

/-- `grant_approval`. -/
def grantApproval (env : ApprovalEnv) (db : ApprovalDb) (faults : Faults)
    (correlationId id : String) (received now : DateTime) (body : GrantRequest) :
    Except AppError GrantResponse × ApprovalDb :=
  auditChange env db faults .approvalGrant correlationId
    (grantChange env db faults id received now body)

/-- `reject_approval`; the audit has no event type of its own for it. -/
def rejectApproval (env : ApprovalEnv) (db : ApprovalDb) (faults : Faults)
    (correlationId id : String) (now : DateTime) : Except AppError ApprovalResponse × ApprovalDb :=
  auditChange env db faults .approvalRevoke correlationId (rejectChange env db faults id now)

/-- `revoke_approval`. -/
def revokeApproval (env : ApprovalEnv) (db : ApprovalDb) (faults : Faults)
    (correlationId id : String) (now : DateTime) : Except AppError ApprovalResponse × ApprovalDb :=
  auditChange env db faults .approvalRevoke correlationId (revokeChange env db faults id now)

/-! ## The list of active approvals -/

/-- `ActiveApprovalResponse`. -/
structure ActiveApprovalResponse where
  token : String
  claims : ApprovalClaims
  deriving DecidableEq

/-- The end of an approved row. -/
def storedExpiry (env : ApprovalEnv) (row : ApprovalRow) : Except AppError DateTime :=
  match row.validUntil with
  | none => .error (.internal "approved approval missing valid_until")
  | some text =>
      (env.parseRfc3339 text).mapError fun error => .internal ("invalid valid_until: " ++ error)

/-- The loop body of `list_active_approvals`. -/
def activeResponse (env : ApprovalEnv) (now : DateTime) (row : ApprovalRow) :
    Except AppError ActiveApprovalResponse := do
  let validUntil ← storedExpiry env row
  let claims := approvalClaims row row.id now validUntil
  let token ← env.signToken claims
  return ⟨token, claims⟩

/-- `list_active_approvals`. -/
def listActiveApprovals (env : ApprovalEnv) (table : ApprovalTable) (fails : Bool)
    (now : DateTime) : Except AppError (List ActiveApprovalResponse) :=
  if fails then .error .database
  else (table.selectActive (env.toRfc3339 now)).mapM (activeResponse env now)

/-- A listed token belongs to an approved row of the table. -/
theorem exists_row_of_listed {env : ApprovalEnv} {table : ApprovalTable} {fails : Bool}
    {now : DateTime} {responses : List ActiveApprovalResponse} {response : ActiveApprovalResponse}
    (listed : listActiveApprovals env table fails now = .ok responses)
    (member : response ∈ responses) :
    ∃ row, table.getById response.claims.jti = some row ∧ row.status = .approved := by
  unfold listActiveApprovals at listed
  split at listed
  · cases listed
  · rcases exists_of_mem_mapM listed member with ⟨row, selected, answered⟩
    rcases ApprovalTable.mem_selectActive.mp selected with ⟨present, active⟩
    rcases bind_eq_ok_iff.mp answered with ⟨validUntil, _, answered⟩
    rcases bind_eq_ok_iff.mp answered with ⟨token, _, answered⟩
    cases Except.ok.inj answered
    exact ⟨row, ApprovalTable.getById_eq_some_iff.mpr ⟨present, rfl⟩,
      ApprovalTable.status_of_isActive active⟩

/-! ## The answers for the agent -/

/-- The JSON of `ApprovalClaims`. -/
def claimsJson (claims : ApprovalClaims) : Json :=
  .object [("iss", .string claims.iss), ("sub", .string claims.sub), ("obj", .string claims.obj),
    ("act", .string claims.act), ("dst", Json.ofOptionalString claims.dst),
    ("dev", Json.ofOptionalString claims.dev), ("iat", .number claims.iat),
    ("exp", .number claims.exp), ("jti", .string claims.jti)]

/-- The JSON of `ActiveApprovalResponse`. -/
def ActiveApprovalResponse.toJson (response : ActiveApprovalResponse) : Json :=
  .object [("token", .string response.token), ("claims", claimsJson response.claims)]

/-- The body of `GET /agent/approvals/active`. -/
def activeApprovalsJson (responses : List ActiveApprovalResponse) : Json :=
  .array (responses.map ActiveApprovalResponse.toJson)

/-- `get_public_key`. -/
def getPublicKey (verifyingKeyHex : String) : Json :=
  .object [("public_key", .string verifyingKeyHex)]

end DlpSystem.Server
