import DlpSystem.AuditWire.JsonText
import DlpSystem.Lib.UniqueTable
import DlpSystem.Server.AdminApi
import DlpSystem.Server.SyslogQueue

/-!
# The registry of agents

`register_agent`, `heartbeat` and the sweeper over the table `agents`.  Each of them reads the clock
first and then runs one transaction, so that the transactions of concurrent calls may follow each
other in any order of their times.
-/

namespace DlpSystem.Server

open Abac AuditWire Lib

/-- `EndpointIdentity`. -/
structure EndpointIdentity where
  fingerprint : String
  macAddresses : List String
  vpnActive : Bool
  domainJoined : Bool
  healthStatus : DeviceHealthStatus
  deriving DecidableEq

/-- `RegisterRequest`. -/
structure RegisterRequest where
  agentId : String
  hostname : String
  ip : String
  osVersion : String
  agentVersion : String
  deriving DecidableEq

/-- `AgentRow`, and with the same fields `AgentInfoResponse`. -/
structure AgentRow where
  agentId : String
  hostname : String
  ip : String
  osVersion : String
  agentVersion : String
  lastHeartbeat : String
  status : String
  registeredAt : String
  fingerprint : String
  macAddresses : String
  vpnActive : Bool
  domainJoined : Bool
  healthStatus : String
  deriving DecidableEq

/-- The `AppError` variants of the handlers. -/
inductive AgentError
  | badRequest (message : String)
  | notFound (message : String)
  | database
  deriving DecidableEq

/-! ## Identities -/

/-- A lower-case hexadecimal digit. -/
def isLowerHex (char : Char) : Bool :=
  char.isDigit || ('a' ≤ char && char ≤ 'f')

/-- A digit, or a letter from `A` to `F`. -/
def isMacDigit (char : Char) : Bool :=
  char.isDigit || ('A' ≤ char && char ≤ 'F')

/-- The check of a fingerprint in `validate_device_identity`. -/
def fingerprintValid (fingerprint : String) : Bool :=
  "v1:".toList.isPrefixOf fingerprint.toList && (utf8 fingerprint).length = 67 &&
    (fingerprint.toList.drop 3).all isLowerHex

/-- The check of a MAC address in `validate_device_identity`. -/
def macValid (mac : String) : Bool :=
  (utf8 mac).length = 12 && mac.toList.all isMacDigit

/-- `validate_device_identity`. -/
def validateDeviceIdentity (deviceIdentity : Option EndpointIdentity) : Option EndpointIdentity :=
  deviceIdentity.filter fun identity =>
    fingerprintValid identity.fingerprint && identity.macAddresses.length ≤ 32 &&
      identity.macAddresses.all macValid

/-- The `snake_case` name of a health status. -/
def healthName : DeviceHealthStatus → String
  | .healthy => "healthy"
  | .degraded => "degraded"
  | .offline => "offline"
  | .tampered => "tampered"

/-- The columns that a heartbeat writes from an identity. -/
structure IdentityColumns where
  fingerprint : String
  macAddresses : String
  vpnActive : Bool
  domainJoined : Bool
  healthStatus : String
  deriving DecidableEq

/-- The columns without an identity. -/
def IdentityColumns.default : IdentityColumns := ⟨"", "[]", false, false, "healthy"⟩

/-- The columns in `update_heartbeat`. -/
def identityColumns : Option EndpointIdentity → IdentityColumns
  | some identity =>
      { fingerprint := identity.fingerprint
        macAddresses := compactText (.array (identity.macAddresses.map .string))
        vpnActive := identity.vpnActive
        domainJoined := identity.domainJoined
        healthStatus := trimQuotes (Common.jsonString (healthName identity.healthStatus)) }
  | none => .default

/-! ## The table -/

/-- `agents`.  `agent_id` is the primary key. -/
abbrev AgentTable :=
  UniqueTable AgentRow.agentId

/-- The update of `upsert` on conflict: all but the key and `registered_at`. -/
def AgentRow.overwritten (record row : AgentRow) : AgentRow :=
  { record with
    agentId := row.agentId
    registeredAt := row.registeredAt }

/-- The update of `update_heartbeat`. -/
def AgentRow.beaten (heartbeat : String) (columns : IdentityColumns) (row : AgentRow) : AgentRow :=
  { row with
    lastHeartbeat := heartbeat
    status := "online"
    fingerprint := columns.fingerprint
    macAddresses := columns.macAddresses
    vpnActive := columns.vpnActive
    domainJoined := columns.domainJoined
    healthStatus := columns.healthStatus }

/-- The rows that `mark_stale_offline` updates. -/
def AgentRow.isStale (cutoff : String) (row : AgentRow) : Bool :=
  row.status = "online" && row.lastHeartbeat < cutoff

/-- The update of `mark_stale_offline`. -/
def AgentRow.swept (row : AgentRow) : AgentRow :=
  { row with
    status := "offline"
    healthStatus := "offline" }

theorem AgentRow.agentId_overwritten (record row : AgentRow) :
    (record.overwritten row).agentId = row.agentId :=
  rfl

theorem AgentRow.agentId_beaten (heartbeat : String) (columns : IdentityColumns) (row : AgentRow) :
    (row.beaten heartbeat columns).agentId = row.agentId :=
  rfl

theorem AgentRow.agentId_swept (row : AgentRow) : row.swept.agentId = row.agentId :=
  rfl

namespace AgentTable

/-- `upsert`. -/
def upsert (table : AgentTable) (record : AgentRow) : AgentTable :=
  if record.agentId ∈ table.rows.map AgentRow.agentId then
    table.update [record.agentId] record.overwritten record.agentId_overwritten
  else table.insertIgnore (fun _ => true) record

/-- `get_by_id`. -/
def getById (table : AgentTable) (agentId : String) : Option AgentRow :=
  table.rows.find? fun row => row.agentId = agentId

/-- `update_heartbeat`: the table, and the number of rows. -/
def updateHeartbeat (table : AgentTable) (agentId heartbeat : String)
    (deviceIdentity : Option EndpointIdentity) : AgentTable × Nat :=
  (table.update [agentId] (AgentRow.beaten heartbeat (identityColumns deviceIdentity))
      (AgentRow.agentId_beaten _ _),
    table.rows.countP fun row => row.agentId = agentId)

/-- `mark_stale_offline`. -/
def markStaleOffline (table : AgentTable) (cutoff : String) : AgentTable :=
  table.update ((table.rows.filter (AgentRow.isStale cutoff)).map AgentRow.agentId) AgentRow.swept
    AgentRow.agentId_swept

end AgentTable

/-! ## Handlers -/

/-- The record of `register_agent`. -/
def RegisterRequest.record (payload : RegisterRequest) (now : Nat) : AgentRow where
  agentId := payload.agentId
  hostname := payload.hostname
  ip := payload.ip
  osVersion := payload.osVersion
  agentVersion := payload.agentVersion
  lastHeartbeat := utcText now
  status := "online"
  registeredAt := utcText now
  fingerprint := IdentityColumns.default.fingerprint
  macAddresses := IdentityColumns.default.macAddresses
  vpnActive := IdentityColumns.default.vpnActive
  domainJoined := IdentityColumns.default.domainJoined
  healthStatus := IdentityColumns.default.healthStatus

/-- `register_agent`.  A transaction that fails leaves the table as it was. -/
def registerAgent (table : AgentTable) (now : Nat) (payload : RegisterRequest)
    (databaseFails : Bool) : AgentTable × Except AgentError AgentRow :=
  if payload.agentId = "" then (table, .error (.badRequest "agent_id is required"))
  else if databaseFails then (table, .error .database)
  else (table.upsert (payload.record now), .ok (payload.record now))

/-- `heartbeat`. -/
def heartbeat (table : AgentTable) (now : Nat) (agentId : String)
    (deviceIdentity : Option EndpointIdentity) (databaseFails : Bool) :
    AgentTable × Except AgentError Unit :=
  if databaseFails then (table, .error .database)
  else
    let updated :=
      table.updateHeartbeat agentId (utcText now) (validateDeviceIdentity deviceIdentity)
    if updated.2 = 0 then (updated.1, .error (.notFound s!"agent {agentId} not registered"))
    else (updated.1, .ok ())

/-- How old a heartbeat may be, in nanoseconds. -/
def staleAfter : Nat := 90 * 1000000000

/-- One tick of `spawn_offline_sweeper`.  No time is before 1970, so neither is the cutoff. -/
def sweep (table : AgentTable) (now : Nat) (databaseFails : Bool) : AgentTable :=
  if databaseFails then table else table.markStaleOffline (utcText (now - staleAfter))

/-- The transactions on the table, with the times that were read before. -/
inductive AgentOp
  | register (now : Nat) (payload : RegisterRequest) (databaseFails : Bool)
  | heartbeat (now : Nat) (agentId : String) (deviceIdentity : Option EndpointIdentity)
      (databaseFails : Bool)
  | sweep (now : Nat) (databaseFails : Bool)

/-- The time of a transaction. -/
def AgentOp.now : AgentOp → Nat
  | register now _ _ => now
  | heartbeat now _ _ _ => now
  | sweep now _ => now

/-- The table after a transaction. -/
def AgentOp.apply (table : AgentTable) : AgentOp → AgentTable
  | register now payload databaseFails => (registerAgent table now payload databaseFails).1
  | heartbeat now agentId deviceIdentity databaseFails =>
      (Server.heartbeat table now agentId deviceIdentity databaseFails).1
  | sweep now databaseFails => Server.sweep table now databaseFails

/-- The table after some transactions, from the empty one. -/
def agentsAfter (ops : List AgentOp) : AgentTable :=
  ops.foldl AgentOp.apply (.empty AgentRow.agentId)

end DlpSystem.Server
