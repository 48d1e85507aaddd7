import DlpSystem.AuditWire.JsonText
import DlpSystem.Lib.Unicode
import DlpSystem.Server.ConnectorConfig

/-!
# Forwarding to SIEM backends and to a syslog collector

`SiemConnector::relay_events` sends a batch of events to Splunk and to Elasticsearch, and goes on
to the second if the first fails.  `SyslogConnector::forward` writes one RFC 5424 message for each
event.  The backends, the connection and the texts of times are parameters.
-/

namespace DlpSystem.Server

open AuditWire Lib

section Texts

variable {Time : Type} (times : TimeText Time)

/-- `serde_json::to_string` of an event. -/
def eventText (event : AuditEvent Time) : String :=
  compactText ((AuditEvent.codec times).encode event)

/-- `serde_json::to_string` of a `SplunkEvent`. -/
def splunkEventText (event : AuditEvent Time) : String :=
  compactText (.object [("event", (AuditEvent.codec times).encode event)])

/-- The body of `send_to_splunk`. -/
def splunkBody (events : List (AuditEvent Time)) : String :=
  events.foldl (fun body event => body ++ splunkEventText times event) ""

/-- The action line of `send_to_elk`. -/
def actionLine : String := "\x7b\"index\":\x7b\x7d\x7d"

/-- The body of `send_to_elk`. -/
def elkBody (events : List (AuditEvent Time)) : String :=
  events.foldl (fun body event => body ++ actionLine ++ "\n" ++ eventText times event ++ "\n") ""

end Texts

/-! ## SIEM backends -/

/-- A backend that events are relayed to. -/
inductive Backend
  | splunk
  | elk
  deriving DecidableEq

/-- A POST request. -/
structure PostRequest where
  url : String
  authorization : Option String
  contentType : String
  body : String
  deriving DecidableEq

/-- What is used of a response. -/
structure PostResponse where
  status : UInt16
  body : String

/-- What comes back for a request: an error of the client, or a response. -/
abbrev Answers :=
  Backend → Except String PostResponse

/-- `SiemError`. -/
inductive SiemError
  | http (message : String)
  | database (cause : ConnectorError)
  | backendError (status : UInt16) (body : String)
  deriving DecidableEq

/-- `StatusCode::is_success`. -/
def isSuccess (status : UInt16) : Bool :=
  200 ≤ status.toNat && status.toNat < 300

/-- What a sender makes of the answer. -/
def checkAnswer : Except String PostResponse → Except SiemError Unit
  | .error message => .error (.http message)
  | .ok response =>
      if isSuccess response.status then .ok ()
      else .error (.backendError response.status response.body)

section Relay

variable {Time : Type} (times : TimeText Time)

/-- The request of `send_to_splunk`. -/
def splunkRequest (url token : String) (events : List (AuditEvent Time)) : PostRequest where
  url := url ++ "/services/collector/event"
  authorization := some ("Splunk " ++ token)
  contentType := "application/json"
  body := splunkBody times events

/-- The request of `send_to_elk`. -/
def elkRequest (url index : String) (apiKey : Option String) (events : List (AuditEvent Time)) :
    PostRequest where
  url := url ++ "/" ++ index ++ "/_bulk"
  authorization := apiKey.map fun key => "ApiKey " ++ key
  contentType := "application/x-ndjson"
  body := elkBody times events

/-- What `relay_events` has sent, and the errors that it has collected. -/
structure Relay where
  requests : List (Backend × PostRequest)
  errors : List SiemError
  deriving DecidableEq

/-- One backend is attempted. -/
def Relay.attempt (relay : Relay) (answers : Answers) (backend : Backend) (request : PostRequest) :
    Relay where
  requests := relay.requests ++ [(backend, request)]
  errors :=
    match checkAnswer (answers backend) with
    | .ok () => relay.errors
    | .error error => relay.errors ++ [error]

/-- `load_config`: a secret that is not set is empty. -/
def loadConfig (row : SiemConfigRow (Option String)) : SiemConfigRow String :=
  { row with
    splunkToken := row.splunkToken.getD ""
    elkApiKey := row.elkApiKey.getD "" }

/-- The backends that are switched on are attempted one after the other. -/
def attemptBackends (answers : Answers) (row : SiemConfigRow String)
    (events : List (AuditEvent Time)) : Relay :=
  let relay : Relay := ⟨[], []⟩
  let relay :=
    if row.splunkEnabled ≠ 0 ∧ row.splunkUrl ≠ "" then
      relay.attempt answers .splunk (splunkRequest times row.splunkUrl row.splunkToken events)
    else relay
  if row.elkEnabled ≠ 0 ∧ row.elkUrl ≠ "" then
    let apiKey := if row.elkApiKey = "" then none else some row.elkApiKey
    relay.attempt answers .elk (elkRequest times row.elkUrl row.elkIndex apiKey events)
  else relay

/-- `relay_events`, with what reading the row gives. -/
def relayEvents (answers : Answers)
    (stored : Except ConnectorError (SiemConfigRow (Option String)))
    (events : List (AuditEvent Time)) :
    List (Backend × PostRequest) × Except SiemError Unit :=
  if events = [] then ([], .ok ())
  else
    match stored with
    | .error cause => ([], .error (.database cause))
    | .ok stored =>
        let relay := attemptBackends times answers (loadConfig stored) events
        match relay.errors with
        | error :: _ => (relay.requests, .error error)
        | [] => (relay.requests, .ok ())

end Relay

/-! ## The configuration of syslog -/

/-- `SyslogConfigRow`. -/
structure SyslogConfigRow where
  host : String
  port : Int
  enabled : Int
  protocol : String
  facilityCode : Int
  format : String
  batchingEnabled : Int
  severityAlert : Int
  severityBlock : Int
  severityAudit : Int
  queuePolicy : String
  queueMaxSize : Int
  tlsMinVersion : String
  updatedAt : String
  deriving DecidableEq

/-- The row that the schema seeds. -/
def SyslogConfigRow.seed : SyslogConfigRow where
  host := ""
  port := 514
  enabled := 0
  protocol := "tls"
  facilityCode := 20
  format := "json"
  batchingEnabled := 1
  severityAlert := 3
  severityBlock := 4
  severityAudit := 6
  queuePolicy := "fifo_tail_drop"
  queueMaxSize := 100000
  tlsMinVersion := "1.2"
  updatedAt := ""

/-- `SyslogConfigPayload`. -/
structure SyslogConfigPayload where
  host : String
  port : Int
  enabled : Bool
  protocol : String
  facilityCode : Int
  format : String
  batchingEnabled : Bool
  severityAlert : Int
  severityBlock : Int
  severityAudit : Int
  queuePolicy : String
  queueMaxSize : Int
  tlsMinVersion : String
  deriving DecidableEq

/-- The `AppError` variants of the handler. -/
inductive SyslogConfigError
  | database
  | badRequest (message : String)
  | unprocessableEntity (message : String)
  deriving DecidableEq

/-- `validate_facility_code`. -/
def validateFacilityCode (value : Int) : Except SyslogConfigError Unit :=
  if 16 ≤ value ∧ value ≤ 23 then .ok ()
  else
    .error (.unprocessableEntity
      s!"facility_code must be between 16 (LOCAL0) and 23 (LOCAL7), got {value}")

/-- `validate_severity`. -/
def validateSeverity (value : Int) : Except SyslogConfigError Unit :=
  if 0 ≤ value ∧ value ≤ 7 then .ok ()
  else
    .error (.unprocessableEntity
      s!"severity must be between 0 (EMERGENCY) and 7 (DEBUG), got {value}")

/-- The policies that `update_syslog_config_handler` accepts. -/
def validPolicies : List String := ["fifo_tail_drop", "fifo_head_drop", "ring_buffer"]

/-- The TLS versions that `update_syslog_config_handler` accepts. -/
def validTls : List String := ["1.2", "1.3"]

/-- The checks of `update_syslog_config_handler`. -/
def SyslogConfigPayload.validate (payload : SyslogConfigPayload) :
    Except SyslogConfigError Unit := do
  if payload.port < 1 ∨ payload.port > 65535 then
    throw (.badRequest "port must be 1-65535")
  validateFacilityCode payload.facilityCode
  validateSeverity payload.severityAlert
  validateSeverity payload.severityBlock
  validateSeverity payload.severityAudit
  if payload.queuePolicy ∉ validPolicies then
    throw (.badRequest ("queue_policy must be one of: " ++ ", ".intercalate validPolicies))
  if payload.tlsMinVersion ∉ validTls then
    throw (.badRequest ("tls_min_version must be one of: " ++ ", ".intercalate validTls))

/-- The row that a payload is written to. -/
def SyslogConfigPayload.record (payload : SyslogConfigPayload) (now : String) :
    SyslogConfigRow where
  host := payload.host
  port := payload.port
  enabled := if payload.enabled then 1 else 0
  protocol := payload.protocol
  facilityCode := payload.facilityCode
  format := payload.format
  batchingEnabled := if payload.batchingEnabled then 1 else 0
  severityAlert := payload.severityAlert
  severityBlock := payload.severityBlock
  severityAudit := payload.severityAudit
  queuePolicy := payload.queuePolicy
  queueMaxSize := payload.queueMaxSize
  tlsMinVersion := payload.tlsMinVersion
  updatedAt := now

/-- A call of the handler, whose database work may fail. -/
structure SyslogUpdate where
  payload : SyslogConfigPayload
  now : String
  databaseFails : Bool

/-- `update_syslog_config_handler`: the row afterwards, and the response. -/
def SyslogUpdate.run (call : SyslogUpdate) (row : SyslogConfigRow) :
    SyslogConfigRow × Except SyslogConfigError SyslogConfigPayload :=
  match call.payload.validate with
  | .error error => (row, .error error)
  | .ok () =>
      if call.databaseFails then (row, .error .database)
      else (call.payload.record call.now, .ok call.payload)

/-! ## Messages -/

/-- `map_severity`. -/
def mapSeverity (eventType : EventType) (config : SyslogConfigRow) : Int :=
  match eventType with
  | .alert => config.severityAlert
  | .block => config.severityBlock
  | _ => config.severityAudit

/-- `event_type_to_msgid`. -/
def eventTypeToMsgid : EventType → String
  | .block => "DLP-BLOCK"
  | .alert => "DLP-ALERT"
  | _ => "DLP-AUDIT"

/-- `i64 as u8`. -/
def asU8 (value : Int) : Nat :=
  (value % 256).toNat

/-- `str::replace` of a character. -/
def replaceChar (char : Char) (replacement : List Char) (text : List Char) : List Char :=
  text.flatMap fun other => if other = char then replacement else [other]

/-- The payload, with line breaks escaped. -/
def sanitizedPayload (text : String) : String :=
  String.ofList
    (replaceChar '\r' ['\\', 'r'] (replaceChar '\n' ['\\', 'n'] text.toList))

section Forward

variable {Time : Type} (times : TimeText Time) (millis : Time → String)

/-- The priority in `format_rfc5424`. -/
def priorityOf (config : SyslogConfigRow) (event : AuditEvent Time) : Nat :=
  asU8 (config.facilityCode * 8 + mapSeverity event.eventType config)

/-- `format_rfc5424`. -/
def formatRfc5424 (event : AuditEvent Time) (config : SyslogConfigRow) (hostname : String)
    (procid : Nat) : String :=
  "<" ++ toString (priorityOf config event) ++ ">1 " ++ millis event.timestamp ++ " " ++ hostname ++
    " DLP-AUDIT " ++ toString procid ++ " " ++ eventTypeToMsgid event.eventType ++ " - " ++
    sanitizedPayload (eventText times event) ++ "\n"

/-- `SyslogError`. -/
inductive SyslogError
  | tls (message : String)
  | database
  | io (message : String)
  deriving DecidableEq

/-- What a call of `forward` meets.  A connection that breaks has taken some bytes before. -/
structure SyslogLink where
  buildTlsConfig : Except String Unit
  resolveServerName : Except String Unit
  connect : Except String Unit
  handshake : Except String Unit
  takes : Option Nat
  writeError : String

/-- The messages are written one after the other, until one does not fit. -/
def writeAll : Option Nat → List String → List UInt8 × Bool
  | _, [] => ([], true)
  | none, msg :: rest => (utf8 msg ++ (writeAll none rest).1, (writeAll none rest).2)
  | some room, msg :: rest =>
      if (utf8 msg).length ≤ room then
        let later := writeAll (some (room - (utf8 msg).length)) rest
        (utf8 msg ++ later.1, later.2)
      else ((utf8 msg).take room, false)

/-- `forward`: what the collector gets, and the result.  A failed shutdown is only logged. -/
def forward (link : SyslogLink) (stored : Option SyslogConfigRow) (hostname : String)
    (procid : Nat) (events : List (AuditEvent Time)) : List UInt8 × Except SyslogError Unit :=
  if events = [] then ([], .ok ())
  else
    match stored with
    | none => ([], .error .database)
    | some config =>
        if config.enabled = 0 then ([], .ok ())
        else if config.host = "" then ([], .ok ())
        else
          match link.buildTlsConfig, link.resolveServerName, link.connect, link.handshake with
          | .error message, _, _, _ => ([], .error (.tls message))
          | .ok (), .error message, _, _ => ([], .error (.tls message))
          | .ok (), .ok (), .error message, _ => ([], .error (.io message))
          | .ok (), .ok (), .ok (), .error message => ([], .error (.tls message))
          | .ok (), .ok (), .ok (), .ok () =>
              let written := writeAll link.takes
                (events.map fun event => formatRfc5424 times millis event config hostname procid)
              (written.1, if written.2 then .ok () else .error (.io link.writeError))

end Forward

end DlpSystem.Server
