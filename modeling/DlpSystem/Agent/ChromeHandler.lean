import DlpSystem.Agent.OfflineManager
import DlpSystem.Lib.Casing
import DlpSystem.Server.LabelApi

/-!
# Pastes that Chrome asks about

Chrome sends the URL that a clipboard text came from.  The handler makes an origin of it and
asks the policies; without an evaluator it blocks.
-/

namespace DlpSystem.Agent

open Abac Lib

/-! ## Origins -/

/-- `to_origin`: what is in front of the first `://`, and from there the text up to a slash and
in that the text up to a colon. -/
def toOrigin (casing : Casing) (url : Text) : Option Text :=
  ((casing.toLowercase (Server.trim url)).dropInfix? "://".toList).map fun parts =>
    let host := parts.2.takeWhile (· ≠ '/')
    parts.1 ++ "://".toList ++ host.takeWhile (· ≠ ':')

/-! ## Requests and responses -/

/-- `ContentMetaData`. -/
structure ContentMetaData where
  url : Option Text

/-- The fields of a `ContentAnalysisRequest` that are read; the reason 1 is a clipboard paste. -/
structure ContentAnalysisRequest where
  requestToken : Option String
  requestData : Option ContentMetaData
  reason : Option Int

/-- `TriggeredRule`. -/
structure TriggeredRule where
  action : Option Int
  ruleName : Option String
  ruleId : Option String
  deriving DecidableEq

/-- `Result` of a `ContentAnalysisResponse`. -/
structure AnalysisResult where
  status : Option Int
  triggeredRules : List TriggeredRule
  deriving DecidableEq

/-- `ContentAnalysisResponse`. -/
structure ContentAnalysisResponse where
  requestToken : Option String
  results : List AnalysisResult
  deriving DecidableEq

/-- `make_result_allow`. -/
def makeResultAllow : AnalysisResult :=
  ⟨some 1, [⟨some 1, some "DLP-Allow", some "dlp-allow"⟩]⟩

/-- `make_result_block`. -/
def makeResultBlock : AnalysisResult :=
  ⟨some 1, [⟨some 3, some "DLP-Block", some "dlp-block"⟩]⟩

/-! ## The handler -/

/-- What the handler has at hand: `POLICY_EVALUATOR`, the health of the device and the time. -/
structure ChromeHandler where
  evaluator : Option (EvaluateRequest → EvaluateResponse)
  deviceHealth : DeviceHealthStatus
  timestamp : Int

/-- A response, and the origins that `emit_chrome_block_audit` is called with. -/
structure Dispatched where
  response : ContentAnalysisResponse
  blockAudit : Option (Option Text × Option Text)
  deriving DecidableEq

namespace ChromeHandler

variable (handler : ChromeHandler)

/-- The request for the policies. -/
def evaluateRequest (sourceOrigin : Option Text) : EvaluateRequest where
  userSid := "CHROME"
  userName := "CHROME"
  subject := {
    groups := []
    deviceTrust := .unknown
    networkLocation := .unknown
    deviceHealth := handler.deviceHealth }
  resource := ⟨"chrome://clipboard", .T3⟩
  timestamp := handler.timestamp
  sessionId := 0
  accessContext := .localAccess
  action := .paste
  agent := none
  sourceApplication := none
  destinationApplication := none
  sourceOrigin := sourceOrigin.map String.ofList
  destinationOrigin := none
  sourceVolumeClass := none
  destinationVolumeClass := none

/-- The decision on an origin. -/
def decision (sourceOrigin : Option Text) : Decision :=
  match handler.evaluator with
  | some evaluator => (evaluator (handler.evaluateRequest sourceOrigin)).decision
  | none => .deny

/-- `dispatch_request`. -/
def dispatchRequest (casing : Casing) (request : ContentAnalysisRequest) : Dispatched :=
  if request.reason ≠ some 1 then
    ⟨⟨request.requestToken, [makeResultAllow]⟩, none⟩
  else
    let sourceUrl := request.requestData.bind ContentMetaData.url
    let sourceOrigin := sourceUrl.bind (toOrigin casing)
    if (handler.decision sourceOrigin).isDenied then
      ⟨⟨request.requestToken, [makeResultBlock]⟩, some (sourceOrigin, none)⟩
    else
      ⟨⟨request.requestToken, [makeResultAllow]⟩, none⟩

end ChromeHandler

end DlpSystem.Agent
