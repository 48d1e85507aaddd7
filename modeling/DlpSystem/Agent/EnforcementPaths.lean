import DlpSystem.Agent.ApprovalCache
import DlpSystem.Agent.PolicyMapper
import DlpSystem.Server.PolicyStore

/-!
# The two enforcement paths

The file monitor (`run_event_loop`) and the hook pipe (`evaluate_hook_request`) build a
request each and ask the same `OfflineManager`.  Of the file monitor this is the part
after its USB, disk and cloud checks.
-/

namespace DlpSystem.Agent

open Common Abac

/-- `EnforcementMode::is_blocking`. -/
def isBlocking : EnforcementMode → Bool
  | .block => true
  | .auditAndBlock => true
  | _ => false

/-- The mode of an answer under a global mode; an answer without a mode counts as `Block`. -/
def effectiveModeOf (globalMode : EnforcementMode) (response : EvaluateResponse) :
    EnforcementMode :=
  computeEffectiveMode globalMode (response.enforcementMode.getD .block)

/-- The decision under the effective mode: an audit allows. -/
def decisionUnder (globalMode : EnforcementMode) (response : EvaluateResponse) : Decision :=
  if effectiveModeOf globalMode response = .audit then .allow else response.decision

/-! ## The file monitor -/

/-- `FileAction`, with what the loop reads of it. -/
inductive FileAction
  | created (path : String)
  | written (path : String)
  | deleted (path : String)
  | moved (oldPath newPath : String)
  | readFile (path : String)
  deriving DecidableEq

/-- `FileAction::path`. -/
def FileAction.path : FileAction → String
  | .created path => path
  | .written path => path
  | .deleted path => path
  | .moved _ newPath => newPath
  | .readFile path => path

/-- `PolicyMapper::action_for`. -/
def actionFor : FileAction → Action
  | .created _ => .write
  | .written _ => .write
  | .deleted _ => .delete
  | .moved _ _ => .move
  | .readFile _ => .read

/-- The `Debug` text of an action. -/
def Action.debugText : Action → String
  | .read => "READ"
  | .write => "WRITE"
  | .copy => "COPY"
  | .delete => "DELETE"
  | .move => "MOVE"
  | .paste => "PASTE"
  | .policyCreate => "PolicyCreate"
  | .policyUpdate => "PolicyUpdate"
  | .policyDelete => "PolicyDelete"
  | .passwordChange => "PasswordChange"
  | .diskRegistryAdd => "DiskRegistryAdd"
  | .diskRegistryRemove => "DiskRegistryRemove"
  | .dragDrop => "DRAG_DROP"
  | .cloudUpload => "CLOUD_UPLOAD"
  | .print => "PRINT"
  | .shareLink => "SHARE_LINK"
  | .labelCreate => "LabelCreate"
  | .labelUpdate => "LabelUpdate"
  | .labelConfirm => "LabelConfirm"
  | .labelReject => "LabelReject"
  | .labelDelete => "LabelDelete"
  | .labelExpire => "LabelExpire"
  | .allowlistCreate => "AllowlistCreate"
  | .allowlistUpdate => "AllowlistUpdate"
  | .allowlistDelete => "AllowlistDelete"

/-- What the loop knows of the machine and of the user behind an action. -/
structure MonitorContext where
  userSid : String
  userName : String
  subject : Subject
  timestamp : Int
  sessionId : Nat
  machineName : Option String

/-- The request that the loop builds. -/
def monitorRequest (texts : FileTexts) (context : MonitorContext) (action : FileAction) :
    EvaluateRequest where
  userSid := context.userSid
  userName := context.userName
  subject := context.subject
  resource := ⟨action.path, provisionalClassification texts action.path⟩
  timestamp := context.timestamp
  sessionId := context.sessionId
  accessContext := .localAccess
  action := actionFor action
  agent := context.machineName.map fun machineName => ⟨some machineName, some context.userName⟩
  sourceApplication := none
  destinationApplication := none
  sourceOrigin := none
  destinationOrigin := none
  sourceVolumeClass := none
  destinationVolumeClass := none

/-- What the loop makes of an answer. -/
structure MonitorVerdict where
  decision : Decision
  effectiveMode : EnforcementMode
  reason : String
  overrideClaims : Option ApprovalClaims
  deriving DecidableEq

/-- The override stage: a blocking denial asks the approval cache.  `now` is in
nanoseconds. -/
def overrideStage {Key : Type} (jwt : JwtLibrary Key) (approvals : Option (ApprovalCache Key))
    (now : Nat) (globalMode : EnforcementMode) (response : EvaluateResponse)
    (userSid action : String) : MonitorVerdict :=
  let effectiveMode := effectiveModeOf globalMode response
  let decision := decisionUnder globalMode response
  if isBlocking effectiveMode && decision.isDenied then
    match approvals with
    | none => ⟨decision, effectiveMode, response.reason, none⟩
    | some cache =>
        match (checkApprovalOverride jwt cache now response userSid action none).1 with
        | some (answer, claims) => ⟨answer.decision, effectiveMode, response.reason, some claims⟩
        | none =>
            ⟨decision, effectiveMode,
              if response.matchedLabelId.isSome then response.reason ++ " — no active approval"
              else response.reason, none⟩
  else ⟨decision, effectiveMode, response.reason, none⟩

/-- One action in `run_event_loop`, with the manager it leaves. -/
def monitorVerdict {Key : Type} (jwt : JwtLibrary Key) (texts : FileTexts)
    (context : MonitorContext) (manager : OfflineManager)
    (approvals : Option (ApprovalCache Key)) (instant now : Nat) (outcome : EngineOutcome)
    (globalMode : EnforcementMode) (action : FileAction) : MonitorVerdict × OfflineManager :=
  let (response, left) := manager.evaluate instant (monitorRequest texts context action) outcome
  (overrideStage jwt approvals now globalMode response context.userSid
    (actionFor action).debugText, left)

/-! ## The hook pipe -/

/-- The fields of `HookRequest` that the evaluation reads. -/
structure HookRequest where
  path : String
  action : String
  sourceVolumeClass : Option VolumeClass
  destinationVolumeClass : Option VolumeClass
  pid : UInt32
  handleValue : UInt64
  deriving DecidableEq

/-- `str::to_ascii_uppercase`. -/
def asciiUppercase (text : String) : String :=
  text.map Char.toUpper

/-- `map_hook_action_to_abac`. -/
def mapHookActionToAbac (action : String) : Action :=
  match asciiUppercase action with
  | "READ" => .read
  | "NT_READ" => .read
  | "WRITE" => .write
  | "CREATE" => .write
  | "NT_WRITE" => .write
  | "COPY" => .copy
  | "DELETE" => .delete
  | "MOVE" => .delete
  | "RENAME" => .delete
  | "REPLACE" => .delete
  | "SET_INFO" => .delete
  | "NT_SET_INFO" => .delete
  | _ => .read

/-- `is_write_action`. -/
def isWriteAction (action : String) : Bool :=
  asciiUppercase action ∈ ["WRITE", "CREATE", "NT_WRITE", "WRITE_EX"]

/-- `hook_request_to_evaluate_request`: what the call does not carry has its default, the
classification with it. -/
def hookRequestToEvaluateRequest (call : HookRequest) (callerSid : String) : EvaluateRequest where
  userSid := callerSid
  userName := ""
  subject := ⟨[], .unmanaged, .unknown, .healthy⟩
  resource := ⟨call.path, .T1⟩
  timestamp := 0
  sessionId := 0
  accessContext := .localAccess
  action := mapHookActionToAbac call.action
  agent := none
  sourceApplication := none
  destinationApplication := none
  sourceOrigin := none
  destinationOrigin := none
  sourceVolumeClass := call.sourceVolumeClass
  destinationVolumeClass := call.destinationVolumeClass

/-- `apply_effective_mode_to_hook_decision`. -/
def applyEffectiveModeToHookDecision (globalMode : EnforcementMode)
    (response : EvaluateResponse) : Decision × Bool × EnforcementMode :=
  (decisionUnder globalMode response,
    decide (effectiveModeOf globalMode response = .audit) && response.decision.isDenied,
    effectiveModeOf globalMode response)

/-- `HookResponse`. -/
structure HookResponse where
  decision : Decision
  reason : String
  approvalOverride : Option Bool
  deriving DecidableEq

/-- The event types of hook audits. -/
inductive HookEventType
  | access
  | block
  deriving DecidableEq

/-- The evidence of a blocked write: the hash of its content, and whether it was cut or
left out. -/
structure HashEvidence where
  contentSha256 : Option String
  hashTruncated : Bool
  hashSkipped : Bool
  deriving DecidableEq

/-- The audit event of a hook call, without the identity of the application. -/
structure HookAudit where
  eventType : HookEventType
  userSid : String
  resource : String
  classification : Classification
  action : Action
  decision : Decision
  policy : Option (String × String)
  policyMode : String
  wouldHaveDenied : Bool
  contentHash : Option (String × Bool × Bool)
  deriving DecidableEq

/-- The `Debug` text of an optional mode. -/
def optionModeText : Option EnforcementMode → String
  | none => "None"
  | some mode => "Some(" ++ Server.modeText mode ++ ")"

/-- The audit of a hook call: a denial that the mode turned into an allow, or a blocked
write. -/
def hookAudit (lookupHash : UInt32 → UInt64 → Option HashEvidence) (call : HookRequest)
    (callerSid : String) (classification : Classification) (globalMode : EnforcementMode)
    (response : EvaluateResponse) : Option HookAudit :=
  let (decision, flipped, effectiveMode) :=
    applyEffectiveModeToHookDecision globalMode response
  if flipped then
    some ⟨.access, callerSid, call.path, classification, mapHookActionToAbac call.action, decision,
      some (response.matchedPolicyId.getD "", response.reason), Server.modeText effectiveMode, true,
      none⟩
  else if decision.isDenied && isWriteAction call.action then
    some ⟨.block, callerSid, call.path, .T1, mapHookActionToAbac call.action, decision, none,
      optionModeText response.enforcementMode, false,
      (lookupHash call.pid call.handleValue).bind fun evidence =>
        evidence.contentSha256.map fun hash =>
          (hash, evidence.hashTruncated, evidence.hashSkipped)⟩
  else none

/-- `evaluate_hook_request`, with the manager it leaves. -/
def evaluateHookRequest {Key : Type} (jwt : JwtLibrary Key)
    (lookupHash : UInt32 → UInt64 → Option HashEvidence) (call : HookRequest) (callerSid : String)
    (manager : OfflineManager) (approvals : ApprovalCache Key) (instant now : Nat)
    (globalMode : EnforcementMode) : HookResponse × Option HookAudit × OfflineManager :=
  match (approvals.check jwt now ⟨callerSid, call.path, call.action, none⟩ none).1 with
  | some answer => (⟨answer.decision, answer.reason, some true⟩, none, manager)
  | none =>
      let request := hookRequestToEvaluateRequest call callerSid
      let (response, left) := manager.offlineDecision instant request
      (⟨(applyEffectiveModeToHookDecision globalMode response).1, response.reason, none⟩,
        hookAudit lookupHash call callerSid request.resource.classification globalMode response,
        left)

end DlpSystem.Agent
