import DlpSystem.Agent.EnforcementPaths
import DlpSystem.Common.CacheLayout

/-!
# Overrides that the user confirms

The override task of `run_loop_init`, the dispatch of `UserConfirmed` and `UserCancelled`,
`confirmed_override_loop` and `override_pending_reaper`.  The four share the map of pending
overrides, and each step below is what one of them does under one lock of that map or
between two of its own steps.  Instants are milliseconds.  The clipboard entry that a
message of the user also removes is left out.
-/

namespace DlpSystem.Agent

open Abac Common

/-! ## Requests -/

/-- `OverrideRequest` of the hook protocol. -/
structure OverrideRequest where
  requesterSid : String
  pid : Nat
  dataObjectId : String
  action : String
  classification : String
  destinationScope : Option String
  justification : String
  resourcePath : String
  deriving DecidableEq

/-- `PendingOverride`. -/
structure PendingOverride where
  request : OverrideRequest
  sessionId : Nat
  createdAt : Nat
  deriving DecidableEq

/-- `ConfirmedOverride`. -/
structure ConfirmedOverride where
  requestId : String
  justification : String
  deriving DecidableEq

/-- `Pipe1AgentMsg::OverrideRequest`. -/
structure OverrideMessage where
  requestId : String
  reason : String
  classification : String
  resourcePath : String
  requesterSid : String
  dataObjectId : String
  action : String
  destinationScope : Option String
  justification : String
  deriving DecidableEq

/-- The message that asks the user. -/
def OverrideRequest.message (request : OverrideRequest) (requestId : String) :
    OverrideMessage where
  requestId := requestId
  reason := "Blocked: " ++ request.resourcePath
  classification := if request.classification = "" then "T3" else request.classification
  resourcePath := request.resourcePath
  requesterSid := request.requesterSid
  dataObjectId := request.dataObjectId
  action := request.action
  destinationScope := request.destinationScope
  justification := request.justification

/-- `OVERRIDE_PENDING_TTL`. -/
def overridePendingTtl : Nat := 120000

/-- The capacity of the channel to `confirmed_override_loop`. -/
def confirmedOverrideCapacity : Nat := 100

/-! ## Submission and audit -/

/-- `ApprovalRequest`. -/
structure ApprovalRequest where
  requesterSid : String
  dataObjectId : String
  allowedAction : String
  destinationScope : Option String
  justification : String
  deviceFingerprint : Option String
  deriving DecidableEq

/-- `build_approval_request`. -/
def buildApprovalRequest (pending : PendingOverride) (justification : String) :
    ApprovalRequest where
  requesterSid := pending.request.requesterSid
  dataObjectId := pending.request.dataObjectId
  allowedAction := pending.request.action
  destinationScope := pending.request.destinationScope
  justification := justification
  deviceFingerprint := none

/-- What the loop reads from its surroundings: the agent id of the server client, if there is
one, the variable `DLP_AGENT_ID`, and the account names of SIDs. -/
structure OverrideEnv where
  serverClient : Option String
  agentIdVariable : Option String
  lookupAccountName : String → Option String

/-- `submit_approval_request_with_justification`, for an answer of the server. -/
def submitApprovalRequestWithJustification (env : OverrideEnv)
    (answer : ApprovalRequest → Except String String) (pending : PendingOverride)
    (justification : String) : Except String String :=
  match env.serverClient with
  | some _ => answer (buildApprovalRequest pending justification)
  | none => .error "no server client available"

/-- `audit_action_for_override`. -/
def auditActionForOverride (action : String) : Action :=
  match asciiUppercase action with
  | "READ" => .read
  | "WRITE" => .write
  | "COPY" => .copy
  | "DELETE" => .delete
  | "MOVE" => .move
  | "PASTE" => .paste
  | "PRINT" => .print
  | "CLOUD_UPLOAD" => .cloudUpload
  | "UPLOAD" => .cloudUpload
  | _ => .read

/-- `audit_classification_for_override`. -/
def auditClassificationForOverride (tier : String) : Classification :=
  match asciiUppercase tier with
  | "T1" => .T1
  | "T2" => .T2
  | "T4" => .T4
  | _ => .T3

/-- The audit event of an override that was granted. -/
structure OverrideGranted where
  userSid : String
  userName : String
  resource : String
  classification : Classification
  action : Action
  decision : Decision
  agentId : String
  sessionId : Nat
  justification : String
  deriving DecidableEq

/-- The agent id in the audit event. -/
def OverrideEnv.agentId (env : OverrideEnv) : String :=
  (env.serverClient.or env.agentIdVariable).getD "AGENT-UNKNOWN"

/-- `emit_override_granted_audit`. -/
def emitOverrideGrantedAudit (env : OverrideEnv) (pending : PendingOverride)
    (justification : String) : OverrideGranted where
  userSid := pending.request.requesterSid
  userName := (env.lookupAccountName pending.request.requesterSid).getD "UNKNOWN"
  resource :=
    if pending.request.dataObjectId = "" then pending.request.resourcePath
    else pending.request.dataObjectId
  classification := auditClassificationForOverride pending.request.classification
  action := auditActionForOverride pending.request.action
  decision := .allowWithLog
  agentId := env.agentId
  sessionId := pending.sessionId
  justification := justification

/-! ## The four tasks -/

/-- Where the override task stands. -/
inductive OverrideTask
  | idle
  /-- The context is stored, and the message is being sent. -/
  | sending (message : OverrideMessage)
  deriving DecidableEq

/-- Where `confirmed_override_loop` stands. -/
inductive OverrideLoop
  | idle
  /-- Before the lookup of the pending context. -/
  | received (confirmed : ConfirmedOverride)
  /-- Waiting for the server. -/
  | submitting (confirmed : ConfirmedOverride) (pending : PendingOverride)
  /-- The server has accepted, and the context is still there. -/
  | accepted (confirmed : ConfirmedOverride) (pending : PendingOverride)
  /-- The context is gone, and the audit event is still to come. -/
  | retired (confirmed : ConfirmedOverride) (pending : PendingOverride)
  deriving DecidableEq

/-- The map, the channel, where the tasks stand, and what has happened. -/
structure OverrideAgent where
  clock : Nat
  pending : String → Option PendingOverride
  task : OverrideTask
  /-- Confirmations of dispatchers that have found a context and not yet sent. -/
  held : List ConfirmedOverride
  queue : List ConfirmedOverride
  loop : OverrideLoop
  /-- The request ids that the task has given out. -/
  issued : List String
  /-- The request ids that the user has cancelled. -/
  cancelled : List String
  /-- One entry for each submission that returned `Ok`. -/
  submitted : List String
  granted : List (String × OverrideGranted)
  /-- The confirmations without a pending context. -/
  discarded : List String

/-- The agent before the first request. -/
def OverrideAgent.start (clock : Nat) : OverrideAgent :=
  ⟨clock, fun _ => none, .idle, [], [], .idle, [], [], [], [], []⟩

/-- What happens next. -/
inductive OverrideEvent
  | wait (milliseconds : Nat)
  /-- A request of the hook, with the session that `pid_to_session_id` finds. -/
  | request (requestId : String) (request : OverrideRequest) (session : Option Nat)
  /-- `send_to_ui` returns. -/
  | sent (delivered : Bool)
  | userConfirmed (requestId justification : String)
  /-- A dispatcher gets room in the channel. -/
  | enqueue (index : Nat)
  | userCancelled (requestId : String)
  | receive
  | lookUp
  /-- The server answers a submission. -/
  | answer (answer : ApprovalRequest → Except String String)
  | remove
  | audit
  /-- A tick of the reaper. -/
  | reap

namespace OverrideAgent

/-- `remove` on the map. -/
def removePending (agent : OverrideAgent) (requestId : String) : OverrideAgent :=
  { agent with pending := Function.update agent.pending requestId none }

/-- The override task up to `send_to_ui`. -/
def acceptRequest (agent : OverrideAgent) (requestId : String) (request : OverrideRequest) :
    Option Nat → OverrideAgent
  | none => { agent with issued := agent.issued ++ [requestId] }
  | some sessionId =>
      { agent with
        issued := agent.issued ++ [requestId]
        pending := Function.update agent.pending requestId
          (some ⟨request, sessionId, agent.clock⟩)
        task := .sending (request.message requestId) }

/-- The override task after `send_to_ui`. -/
def finishSend (agent : OverrideAgent) (message : OverrideMessage) (delivered : Bool) :
    OverrideAgent :=
  if delivered then { agent with task := .idle }
  else { agent.removePending message.requestId with task := .idle }

/-- `dispatch` of `UserConfirmed`, up to the send. -/
def dispatchConfirmed (agent : OverrideAgent) (requestId justification : String) :
    OverrideAgent :=
  match agent.pending requestId with
  | some _ => { agent with held := agent.held ++ [⟨requestId, justification⟩] }
  | none => agent

/-- The send of a dispatcher. -/
def enqueue (agent : OverrideAgent) (index : Nat) : OverrideAgent :=
  match agent.held[index]? with
  | some confirmed =>
      if agent.queue.length < confirmedOverrideCapacity then
        { agent with
          held := agent.held.eraseIdx index
          queue := agent.queue ++ [confirmed] }
      else agent
  | none => agent

/-- `dispatch` of `UserCancelled`. -/
def dispatchCancelled (agent : OverrideAgent) (requestId : String) : OverrideAgent :=
  { agent.removePending requestId with cancelled := agent.cancelled ++ [requestId] }

/-- The lookup of the pending context. -/
def lookUp (agent : OverrideAgent) (confirmed : ConfirmedOverride) : OverrideAgent :=
  match agent.pending confirmed.requestId with
  | some pending => { agent with loop := .submitting confirmed pending }
  | none =>
      { agent with loop := .idle, discarded := agent.discarded ++ [confirmed.requestId] }

/-- The submission. -/
def finishSubmit (env : OverrideEnv) (agent : OverrideAgent)
    (answer : ApprovalRequest → Except String String) (confirmed : ConfirmedOverride)
    (pending : PendingOverride) : OverrideAgent :=
  match submitApprovalRequestWithJustification env answer pending confirmed.justification with
  | .ok _ =>
      { agent with
        loop := .accepted confirmed pending
        submitted := agent.submitted ++ [confirmed.requestId] }
  | .error _ => { agent with loop := .idle }

/-- A tick of `override_pending_reaper`. -/
def reap (agent : OverrideAgent) : OverrideAgent :=
  { agent with
    pending := fun requestId => (agent.pending requestId).filter fun pending =>
      agent.clock - pending.createdAt < overridePendingTtl }

/-- One step of the agent; a step that a task cannot take changes nothing. -/
def step (env : OverrideEnv) (agent : OverrideAgent) : OverrideEvent → OverrideAgent
  | .wait milliseconds => { agent with clock := agent.clock + milliseconds }
  | .request requestId request session =>
      match agent.task with
      | .idle => agent.acceptRequest requestId request session
      | .sending _ => agent
  | .sent delivered =>
      match agent.task with
      | .idle => agent
      | .sending message => agent.finishSend message delivered
  | .userConfirmed requestId justification => agent.dispatchConfirmed requestId justification
  | .enqueue index => agent.enqueue index
  | .userCancelled requestId => agent.dispatchCancelled requestId
  | .receive =>
      match agent.loop, agent.queue with
      | .idle, confirmed :: rest => { agent with loop := .received confirmed, queue := rest }
      | _, _ => agent
  | .lookUp =>
      match agent.loop with
      | .received confirmed => agent.lookUp confirmed
      | _ => agent
  | .answer answer =>
      match agent.loop with
      | .submitting confirmed pending => agent.finishSubmit env answer confirmed pending
      | _ => agent
  | .remove =>
      match agent.loop with
      | .accepted confirmed pending =>
          { agent.removePending confirmed.requestId with loop := .retired confirmed pending }
      | _ => agent
  | .audit =>
      match agent.loop with
      | .retired confirmed pending =>
          { agent with
            loop := .idle
            granted := agent.granted ++ [(confirmed.requestId,
              emitOverrideGrantedAudit env pending confirmed.justification)] }
      | _ => agent
  | .reap => agent.reap

end OverrideAgent

end DlpSystem.Agent
