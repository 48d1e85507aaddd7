import DlpSystem.Agent.AgentConfig
import DlpSystem.Lib.StableSort
import DlpSystem.Server.ApprovalApi
import Mathlib.Data.Prod.Lex
import Mathlib.Data.String.Basic

/-!
# The configuration of an agent on the server

The tables that an agent's configuration is read from, the statements by which the admin
handlers change them, and `get_agent_config_for_agent`, which agents poll.  Its reads can
fail one by one.  A request that an admin handler refuses executes no statement, so its
checks are left out.
-/

namespace DlpSystem.Server

open Lib
open Agent (AllowlistConfigEntry ProtectedPathConfig DiskIdentity BusType EncryptionStatus)

/-! ## Tables -/

/-- `AllowlistEntryRow`. -/
structure AllowlistEntryRow where
  id : String
  matchType : String
  value : String
  description : String
  category : String
  priority : Int
  enabled : Int
  version : Int
  createdAt : String
  updatedAt : String
  deriving DecidableEq

/-- `DiskRegistryRow`. -/
structure DiskRegistryRow where
  id : String
  agentId : String
  instanceId : String
  busType : String
  encryptionStatus : String
  model : String
  registeredAt : String
  deriving DecidableEq

/-- `GlobalAgentConfigRow` and `AgentConfigOverrideRow`, without `updated_at`. -/
structure AgentConfigRow where
  /-- A JSON array of texts, like `excludedPaths`. -/
  monitoredPaths : String
  excludedPaths : String
  heartbeatIntervalSecs : Int
  offlineCacheEnabled : Int
  usbBlockedFailureMode : String
  usbStartupResolutionMode : String
  usbNoneSerialPolicy : String
  cloudHookEnabled : Int
  printEnabled : Int
  printXpsTimeoutMs : Int
  printUnclassifiableAction : String
  printMaxPages : Int
  deriving DecidableEq

/-- `ProtectedPathRow`. -/
structure ProtectedPathRow where
  id : String
  path : String
  source : String
  isOverride : Bool
  tier : String
  labelId : Option String
  createdAt : String
  updatedAt : String
  deriving DecidableEq

/-- The tables of the configuration.  The row of `global_agent_config` is there from the
start, and no statement deletes it. -/
structure ConfigDb where
  allowlistEntries : List AllowlistEntryRow
  diskRegistry : List DiskRegistryRow
  globalAgentConfig : AgentConfigRow
  agentConfigOverrides : String → Option AgentConfigRow
  protectedPaths : List ProtectedPathRow
  /-- The value under `global_enforcement_mode` in `system_kv`. -/
  globalEnforcementMode : Option String

namespace ConfigDb

variable (db : ConfigDb)

/-- `AllowlistRepository::current_version`. -/
def currentVersion : Int :=
  (db.allowlistEntries.map AllowlistEntryRow.version).max?.getD 0

/-- `AllowlistRepository::list_all`. -/
def listAllowlist : List AllowlistEntryRow :=
  sortAscending (fun row => toLex (row.priority, row.createdAt)) db.allowlistEntries

/-- `DiskRegistryRepository::list_by_agent`. -/
def listByAgent (agentId : String) : List DiskRegistryRow :=
  sortAscending DiskRegistryRow.registeredAt
    (db.diskRegistry.filter fun row => row.agentId = agentId)

/-- `ProtectedPathsRepository::list_all`. -/
def listProtectedPaths : List ProtectedPathRow :=
  sortAscending ProtectedPathRow.path db.protectedPaths

/-- The row of an agent: its override, or else the global one. -/
def configRowOf (agentId : String) : AgentConfigRow :=
  (db.agentConfigOverrides agentId).getD db.globalAgentConfig

end ConfigDb

/-! ## The payload -/

/-- The fields of `AgentConfigPayload` that are read from one row. -/
structure AgentSettings where
  monitoredPaths : List String
  excludedPaths : List String
  heartbeatIntervalSecs : Nat
  offlineCacheEnabled : Bool
  usbBlockedFailureMode : String
  usbStartupResolutionMode : String
  usbNoneSerialPolicy : String
  cloudHookEnabled : Bool
  printEnabled : Bool
  printXpsTimeoutMs : Nat
  printUnclassifiableAction : String
  printMaxPages : Nat
  deriving DecidableEq

/-- `AgentConfigPayload`. -/
structure AgentConfigPayload extends AgentSettings where
  diskAllowlist : List DiskIdentity
  allowlistEntries : List AllowlistConfigEntry
  allowlistVersion : Int
  protectedPaths : List ProtectedPathConfig
  globalEnforcementMode : String
  deriving DecidableEq

/-- `try_from` to an unsigned type, with a default. -/
def natOr (standard : Nat) (value : Int) : Nat :=
  if 0 ≤ value then value.toNat else standard

/-- `default_global_enforcement_mode`. -/
def defaultGlobalEnforcementMode : String := "PerPolicy"

/-- The bus types by their names. -/
def parseBusType : String → BusType
  | "usb" => .usb
  | "sata" => .sata
  | "nvme" => .nvme
  | "scsi" => .scsi
  | _ => .unknown

/-- The encryption statuses by their names, to which a constraint of the table keeps the
column. -/
def parseEncryptionStatus : String → Option EncryptionStatus
  | "encrypted" => some .encrypted
  | "suspended" => some .suspended
  | "unencrypted" => some .unencrypted
  | "unknown" => some .unknown
  | _ => none

/-- `disk_row_to_identity`. -/
def diskRowToIdentity (row : DiskRegistryRow) : DiskIdentity where
  instanceId := row.instanceId
  busType := parseBusType row.busType
  model := row.model
  driveLetter := none
  serial := none
  sizeBytes := none
  isBootDisk := false
  encryptionStatus := parseEncryptionStatus row.encryptionStatus
  encryptionMethod := none
  encryptionCheckedAt := none

/-- The entry that a row of the allowlist is sent as. -/
def AllowlistEntryRow.configEntry (row : AllowlistEntryRow) : AllowlistConfigEntry :=
  ⟨row.matchType, row.value, row.description, row.category, row.priority⟩

/-- The entry that a row of the protected paths is sent as. -/
def ProtectedPathRow.configEntry (row : ProtectedPathRow) : ProtectedPathConfig :=
  ⟨row.id, row.path, row.tier, row.source⟩

/-- What the agent decodes: fields that the server does not send have their defaults. -/
def AgentConfigPayload.received (payload : AgentConfigPayload) : Agent.AgentConfigPayload where
  monitoredPaths := payload.monitoredPaths
  excludedPaths := payload.excludedPaths
  heartbeatIntervalSecs := payload.heartbeatIntervalSecs
  offlineCacheEnabled := payload.offlineCacheEnabled
  ldapConfig := none
  diskAllowlist := payload.diskAllowlist
  usbBlockedFailureMode := payload.usbBlockedFailureMode
  usbStartupResolutionMode := payload.usbStartupResolutionMode
  usbNoneSerialPolicy := payload.usbNoneSerialPolicy
  cloudHookEnabled := payload.cloudHookEnabled
  wfpFilterEnabled := false
  hookClassificationTimeoutMs := Agent.defaultTimeoutMs
  printEnabled := payload.printEnabled
  printXpsTimeoutMs := payload.printXpsTimeoutMs
  printUnclassifiableAction := payload.printUnclassifiableAction
  printMaxPages := payload.printMaxPages
  allowlistEntries := payload.allowlistEntries
  allowlistVersion := payload.allowlistVersion
  protectedPaths := payload.protectedPaths
  globalEnforcementMode := payload.globalEnforcementMode

/-! ## The reads and the handler -/

/-- The reads of `get_agent_config_for_agent`. -/
inductive ConfigRead
  | allowlistVersion
  | diskRegistry
  | allowlistEntries
  | agentOverride
  | globalConfig
  | protectedPaths
  | globalMode
  deriving DecidableEq

/-- What the handler answers. -/
inductive ConfigResponse
  | notModified
  | json (payload : AgentConfigPayload)
  deriving DecidableEq

section Handler

-- `serde_json::from_str` for a list of texts.
variable (parsePaths : String → Option (List String))

/-- The settings of a row. -/
def AgentConfigRow.settings (row : AgentConfigRow) : AgentSettings where
  monitoredPaths := (parsePaths row.monitoredPaths).getD []
  excludedPaths := (parsePaths row.excludedPaths).getD []
  heartbeatIntervalSecs := natOr 30 row.heartbeatIntervalSecs
  offlineCacheEnabled := row.offlineCacheEnabled ≠ 0
  usbBlockedFailureMode := row.usbBlockedFailureMode
  usbStartupResolutionMode := row.usbStartupResolutionMode
  usbNoneSerialPolicy := row.usbNoneSerialPolicy
  cloudHookEnabled := row.cloudHookEnabled ≠ 0
  printEnabled := row.printEnabled ≠ 0
  printXpsTimeoutMs := natOr Agent.defaultTimeoutMs row.printXpsTimeoutMs
  printUnclassifiableAction := row.printUnclassifiableAction
  printMaxPages := natOr Agent.defaultPrintMaxPages row.printMaxPages

-- The reads that fail.
variable (failed : ConfigRead → Bool) (db : ConfigDb) (agentId : String)

/-- A read of a value; a failed one returns a default where the handler has one. -/
def readOr {α : Type} (read : ConfigRead) (standard value : α) : α :=
  if failed read then standard else value

/-- `get_override`, and `get_global` where there is none. -/
def readConfigRow : Except AppError AgentConfigRow :=
  if failed .agentOverride then .error .database
  else
    match db.agentConfigOverrides agentId with
    | some row => .ok row
    | none => if failed .globalConfig then .error .database else .ok db.globalAgentConfig

/-- The payload that is made from a row and the other reads. -/
def payloadFrom (row : AgentConfigRow) : AgentConfigPayload where
  toAgentSettings := row.settings parsePaths
  diskAllowlist := (readOr failed .diskRegistry [] (db.listByAgent agentId)).map diskRowToIdentity
  allowlistEntries :=
    ((readOr failed .allowlistEntries [] db.listAllowlist).filter fun row => row.enabled ≠ 0).map
      AllowlistEntryRow.configEntry
  allowlistVersion := readOr failed .allowlistVersion 0 db.currentVersion
  protectedPaths :=
    (readOr failed .protectedPaths [] db.listProtectedPaths).map ProtectedPathRow.configEntry
  globalEnforcementMode :=
    (readOr failed .globalMode none db.globalEnforcementMode).getD defaultGlobalEnforcementMode

/-- `get_agent_config_for_agent`, with the number in `If-None-Match`. -/
def getAgentConfigForAgent (ifNoneMatch : Option Int) : Except AppError ConfigResponse :=
  match readConfigRow failed db agentId with
  | .error error => .error error
  | .ok row =>
      let payload := payloadFrom parsePaths failed db agentId row
      if ifNoneMatch = some payload.allowlistVersion then .ok .notModified
      else .ok (.json payload)

end Handler

/-- No read fails. -/
def noFailure : ConfigRead → Bool :=
  fun _ => false

/-- The payload that the server would send. -/
def ConfigDb.currentPayload (parsePaths : String → Option (List String)) (db : ConfigDb)
    (agentId : String) : AgentConfigPayload :=
  payloadFrom parsePaths noFailure db agentId (db.configRowOf agentId)

section Response

variable (parsePaths : String → Option (List String)) (failed : ConfigRead → Bool)
  (db : ConfigDb) (agentId : String)

/-- The row of the configuration is the right one, or the handler fails. -/
theorem readConfigRow_eq :
    readConfigRow failed db agentId =
      if failed .agentOverride = true ∨
          db.agentConfigOverrides agentId = none ∧ failed .globalConfig = true then
        .error .database
      else .ok (db.configRowOf agentId) := by
  unfold readConfigRow ConfigDb.configRowOf
  cases failed .agentOverride with
  | true => simp
  | false =>
      cases db.agentConfigOverrides agentId with
      | some row => simp
      | none =>
          cases failed .globalConfig with
          | true => simp
          | false => simp

@[simp]
theorem currentPayload_allowlistVersion :
    (db.currentPayload parsePaths agentId).allowlistVersion = db.currentVersion :=
  rfl

/-- The handler without failures. -/
theorem getAgentConfigForAgent_noFailure (ifNoneMatch : Option Int) :
    getAgentConfigForAgent parsePaths noFailure db agentId ifNoneMatch =
      if ifNoneMatch = some db.currentVersion then .ok .notModified
      else .ok (.json (db.currentPayload parsePaths agentId)) := by
  have row : readConfigRow noFailure db agentId = .ok (db.configRowOf agentId) := by
    rw [readConfigRow_eq]
    simp [noFailure]
  rw [getAgentConfigForAgent, row]
  rfl

end Response

/-! ## Changes -/

/-- A label that `sync_from_labels` selects, with the `id` and the time that it makes for a
new row. -/
structure SyncedLabel where
  path : String
  tier : String
  id : Option String
  newId : String
  now : String
  deriving DecidableEq

/-- The row that an `UPDATE` of the allowlist leaves. -/
def AllowlistEntryRow.updatedTo (stored row : AllowlistEntryRow) : AllowlistEntryRow :=
  { row with version := stored.version + 1, createdAt := stored.createdAt }

/-- The row that `set_enabled` leaves. -/
def AllowlistEntryRow.enabledTo (stored : AllowlistEntryRow) (enabled : Int)
    (updatedAt : String) : AllowlistEntryRow :=
  { stored with enabled := enabled, version := stored.version + 1, updatedAt := updatedAt }

/-- The row that an `UPDATE` of the protected paths leaves. -/
def ProtectedPathRow.updatedTo (stored row : ProtectedPathRow) : ProtectedPathRow :=
  { row with createdAt := stored.createdAt }

/-- The stricter of two tiers. -/
def stricterTier (existing tier : String) : String :=
  if existing = "T4" ∨ tier = "T4" then "T4" else "T3"

namespace ConfigDb

variable (db : ConfigDb)

/-- A row that the keys of `disk_registry` refuse. -/
def RefusesDisk (row : DiskRegistryRow) : Prop :=
  ∃ stored ∈ db.diskRegistry,
    stored.id = row.id ∨ stored.agentId = row.agentId ∧ stored.instanceId = row.instanceId

/-- A new row that the keys of `protected_paths` refuse. -/
def RefusesPath (row : ProtectedPathRow) : Prop :=
  ∃ stored ∈ db.protectedPaths, stored.id = row.id ∨ stored.path = row.path

/-- A changed row whose path `protected_paths` has under another `id`. -/
def RefusesPathUpdate (row : ProtectedPathRow) : Prop :=
  (∃ stored ∈ db.protectedPaths, stored.id = row.id) ∧
    ∃ stored ∈ db.protectedPaths, stored.id ≠ row.id ∧ stored.path = row.path

instance (row : DiskRegistryRow) : Decidable (db.RefusesDisk row) :=
  inferInstanceAs (Decidable (∃ stored ∈ db.diskRegistry, _))

instance (row : ProtectedPathRow) : Decidable (db.RefusesPath row) :=
  inferInstanceAs (Decidable (∃ stored ∈ db.protectedPaths, _))

instance (row : ProtectedPathRow) : Decidable (db.RefusesPathUpdate row) :=
  inferInstanceAs (Decidable (_ ∧ _))

/-- `AllowlistRepository::insert`. -/
def insertAllowlist (row : AllowlistEntryRow) : ConfigDb :=
  if ∃ stored ∈ db.allowlistEntries, stored.id = row.id then db
  else { db with allowlistEntries := db.allowlistEntries ++ [row] }

/-- A change of the rows of the allowlist under an `id`. -/
def changeAllowlist (id : String) (change : AllowlistEntryRow → AllowlistEntryRow) : ConfigDb :=
  { db with
    allowlistEntries := db.allowlistEntries.map fun stored =>
      if stored.id = id then change stored else stored }

/-- `AllowlistRepository::update`. -/
def updateAllowlist (row : AllowlistEntryRow) : ConfigDb :=
  db.changeAllowlist row.id fun stored => stored.updatedTo row

/-- `AllowlistRepository::set_enabled`. -/
def setEnabled (id : String) (enabled : Int) (updatedAt : String) : ConfigDb :=
  db.changeAllowlist id fun stored => stored.enabledTo enabled updatedAt

/-- `AllowlistRepository::delete_by_id`. -/
def deleteAllowlist (id : String) : ConfigDb :=
  { db with allowlistEntries := db.allowlistEntries.filter fun stored => stored.id ≠ id }

/-- `DiskRegistryRepository::insert`. -/
def insertDisk (row : DiskRegistryRow) : ConfigDb :=
  if db.RefusesDisk row then db else { db with diskRegistry := db.diskRegistry ++ [row] }

/-- `delete_disk_registry_handler`. -/
def deleteDisk (id : String) : ConfigDb :=
  { db with diskRegistry := db.diskRegistry.filter fun stored => stored.id ≠ id }

/-- `AgentConfigRepository::update_global`. -/
def updateGlobal (row : AgentConfigRow) : ConfigDb :=
  { db with globalAgentConfig := row }

/-- `AgentConfigRepository::upsert_override`. -/
def upsertOverride (agentId : String) (row : AgentConfigRow) : ConfigDb :=
  { db with
    agentConfigOverrides := fun agent =>
      if agent = agentId then some row else db.agentConfigOverrides agent }

/-- `AgentConfigRepository::delete_override`. -/
def deleteOverride (agentId : String) : ConfigDb :=
  { db with
    agentConfigOverrides := fun agent =>
      if agent = agentId then none else db.agentConfigOverrides agent }

/-- `ProtectedPathsRepository::insert`. -/
def insertProtectedPath (row : ProtectedPathRow) : ConfigDb :=
  if db.RefusesPath row then db else { db with protectedPaths := db.protectedPaths ++ [row] }

/-- `ProtectedPathsRepository::update`. -/
def updateProtectedPath (row : ProtectedPathRow) : ConfigDb :=
  if db.RefusesPathUpdate row then db
  else
    { db with
      protectedPaths := db.protectedPaths.map fun stored =>
        if stored.id = row.id then stored.updatedTo row else stored }

/-- `ProtectedPathsRepository::delete_by_id`. -/
def deleteProtectedPath (id : String) : ConfigDb :=
  { db with protectedPaths := db.protectedPaths.filter fun stored => stored.id ≠ id }

/-- One label of `sync_from_labels`; a statement that fails ends the transaction. -/
def syncLabel (rows : List ProtectedPathRow) (label : SyncedLabel) :
    Option (List ProtectedPathRow) :=
  match rows.find? fun row => row.path = label.path with
  | some existing =>
      if existing.source = "manual" then some rows
      else if existing.source = "auto" then
        if existing.tier = label.tier then some rows
        else
          some (rows.map fun row =>
            if row.path = label.path then
              { row with tier := stricterTier existing.tier label.tier, updatedAt := label.now }
            else row)
      else none
  | none =>
      if ∃ row ∈ rows, row.id = label.newId then none
      else
        some (rows ++
          [⟨label.newId, label.path, "auto", false, label.tier, label.id, label.now, label.now⟩])

/-- `ProtectedPathsRepository::sync_from_labels`. -/
def syncFromLabels (labels : List SyncedLabel) : ConfigDb :=
  match labels.foldlM syncLabel db.protectedPaths with
  | some rows => { db with protectedPaths := rows }
  | none => db

/-- `system_kv::set` for `global_enforcement_mode`. -/
def setGlobalEnforcementMode (mode : String) : ConfigDb :=
  { db with globalEnforcementMode := some mode }

end ConfigDb

/-- The changes that the admin handlers make. -/
inductive AdminChange
  | createAllowlist (row : AllowlistEntryRow)
  | updateAllowlist (row : AllowlistEntryRow)
  | disableAllowlist (id now : String)
  | deleteAllowlist (id : String)
  | insertDiskRegistry (row : DiskRegistryRow)
  | deleteDiskRegistry (id : String)
  | updateGlobalAgentConfig (row : AgentConfigRow)
  | updateAgentConfigOverride (agentId : String) (row : AgentConfigRow)
  | deleteAgentConfigOverride (agentId : String)
  | createProtectedPath (row : ProtectedPathRow)
  | updateProtectedPath (row : ProtectedPathRow)
  | deleteProtectedPath (id : String)
  | syncProtectedPaths (labels : List SyncedLabel)
  | updateGlobalEnforcementMode (mode : String)

/-- A change.  `create_allowlist_handler` makes every row with version 1. -/
def ConfigDb.commit (db : ConfigDb) : AdminChange → ConfigDb
  | .createAllowlist row => db.insertAllowlist { row with version := 1 }
  | .updateAllowlist row => db.updateAllowlist row
  | .disableAllowlist id now => db.setEnabled id 0 now
  | .deleteAllowlist id => db.deleteAllowlist id
  | .insertDiskRegistry row => db.insertDisk row
  | .deleteDiskRegistry id => db.deleteDisk id
  | .updateGlobalAgentConfig row => db.updateGlobal row
  | .updateAgentConfigOverride agentId row => db.upsertOverride agentId row
  | .deleteAgentConfigOverride agentId => db.deleteOverride agentId
  | .createProtectedPath row => db.insertProtectedPath row
  | .updateProtectedPath row => db.updateProtectedPath row
  | .deleteProtectedPath id => db.deleteProtectedPath id
  | .syncProtectedPaths labels => db.syncFromLabels labels
  | .updateGlobalEnforcementMode mode => db.setGlobalEnforcementMode mode

end DlpSystem.Server
