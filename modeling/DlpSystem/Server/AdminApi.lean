import DlpSystem.Lib.JsonTree
import DlpSystem.Lib.StableSort
import DlpSystem.Server.PolicyStore
import Mathlib.Data.String.Basic

/-!
# Policies and devices in the admin API

`create_policy` and `update_policy` write a row of the `policies` table, and
`PolicyStore::invalidate` reads the table back into the list that `evaluate` uses.
`upsert_device_registry_handler` writes a row of the `device_registry` table, which
`list_device_registry_handler` returns to the agents.  The handlers start where the
caller has been authenticated and the body has been read.  Audit events are left out.
-/

namespace DlpSystem.Server

open Abac Lib

/-- The `AppError` variants of these handlers. -/
inductive AdminError
  | database
  | badRequest (message : String)
  | notFound (message : String)
  | forbidden (message : String)
  | unprocessableEntity (message : String)
  deriving DecidableEq

/-! ## Rows of policies -/

/-- What the server uses of `serde_json` for the conditions of a policy: a value is
written as text, and a text is read as a `Vec<PolicyCondition>`.  Reading the text of a
value gives the conditions that the value stands for. -/
structure ConditionsJson (Value : Type) where
  /-- `serde_json::to_string`. -/
  toString : Value → String
  /-- `serde_json::from_str`. -/
  fromStr : String → Option (List PolicyCondition)
  /-- `serde_json::from_value`. -/
  fromValue : Value → Option (List PolicyCondition)
  fromStr_toString : ∀ value, fromStr (toString value) = fromValue value

/-- `PolicyPayload`. -/
structure PolicyPayload (Value : Type) where
  id : String
  name : String
  description : Option String
  priority : UInt32
  conditions : Value
  action : String
  enabled : Bool
  mode : PolicyMode
  enforcementMode : EnforcementMode

/-- `PolicyResponse`. -/
structure PolicyResponse (Value : Type) where
  id : String
  name : String
  description : Option String
  priority : UInt32
  conditions : Value
  action : String
  enabled : Bool
  mode : PolicyMode
  enforcementMode : EnforcementMode
  version : Int
  updatedAt : String

/-- `PolicyRow`. -/
structure PolicyRow where
  id : String
  name : String
  description : Option String
  priority : Int
  conditions : String
  action : String
  enabled : Int
  mode : String
  enforcementMode : String
  version : Int
  updatedAt : String
  deriving DecidableEq

/-- `mode_str`. -/
def modeStr : PolicyMode → String
  | .all => "ALL"
  | .any => "ANY"
  | .none => "NONE"

/-- `str::trim_matches` with the double quote. -/
def trimQuotes (text : String) : String :=
  let rest := text.toList.dropWhile fun char => char = '"'
  String.ofList (rest.reverse.dropWhile fun char => char = '"').reverse

/-- The text of an `EnforcementMode` in its column: its JSON without the quotes. -/
def enforcementModeStr (mode : EnforcementMode) : String :=
  trimQuotes ("\"" ++ modeText mode ++ "\"")

/-- The `CHECK` constraint on `enforcement_mode`. -/
def enforcementModeAllowed (text : String) : Bool :=
  text = "Audit" || text = "Block" || text = "AuditAndBlock"

/-- The columns that a payload fills, under an id. -/
def PolicyPayload.row {Value : Type} (json : ConditionsJson Value) (payload : PolicyPayload Value)
    (id : String) (version : Int) (now : String) : PolicyRow where
  id := id
  name := payload.name
  description := payload.description
  priority := payload.priority.toNat
  conditions := json.toString payload.conditions
  action := payload.action
  enabled := if payload.enabled then 1 else 0
  mode := modeStr payload.mode
  enforcementMode := enforcementModeStr payload.enforcementMode
  version := version
  updatedAt := now

/-- The answer to a payload. -/
def PolicyPayload.response {Value : Type} (payload : PolicyPayload Value) (id : String)
    (version : Int) (now : String) : PolicyResponse Value where
  id := id
  name := payload.name
  description := payload.description
  priority := payload.priority
  conditions := payload.conditions
  action := payload.action
  enabled := payload.enabled
  mode := payload.mode
  enforcementMode := payload.enforcementMode
  version := version
  updatedAt := now

/-! ## Statements on policies -/

/-- `PolicyRepository::list`. -/
def listPolicies (table : List PolicyRow) : List PolicyRow :=
  sortAscending PolicyRow.priority table

/-- `PolicyRepository::insert`; the id is the primary key. -/
def insertPolicy (table : List PolicyRow) (record : PolicyRow) :
    Except AdminError (List PolicyRow) :=
  if table.any fun row => row.id = record.id then .error .database
  else if enforcementModeAllowed record.enforcementMode then .ok (table ++ [record])
  else .error .database

/-- What `PolicyRepository::update` sets in a row. -/
def PolicyRow.updated (row update : PolicyRow) : PolicyRow :=
  { update with id := row.id, version := row.version + 1 }

/-- `PolicyRepository::update`, with the number of rows that it changed. -/
def updatePolicies (table : List PolicyRow) (update : PolicyRow) :
    Except AdminError (List PolicyRow × Nat) :=
  let changed := (table.filter fun row => row.id = update.id).length
  if changed = 0 then .ok (table, 0)
  else if enforcementModeAllowed update.enforcementMode then
    .ok (table.map fun row => if row.id = update.id then row.updated update else row, changed)
  else .error .database

/-- `PolicyRepository::get_version`. -/
def getVersion (table : List PolicyRow) (id : String) : Except AdminError Int :=
  match table.find? fun row => row.id = id with
  | some row => .ok row.version
  | none => .error .database

/-! ## Handlers of policies -/

section Handlers

variable {Value : Type} (json : ConditionsJson Value) (now : String) (table : List PolicyRow)

/-- `create_policy`, up to its commit. -/
def createPolicy (payload : PolicyPayload Value) :
    Except AdminError (List PolicyRow × PolicyResponse Value) :=
  if payload.id = "" ∨ payload.name = "" then .error (.badRequest "id and name are required")
  else do
    let table ← insertPolicy table (payload.row json payload.id 1 now)
    return (table, payload.response payload.id 1 now)

/-- `str::strip_prefix`. -/
def stripPrefix (text lead : String) : Option String :=
  if lead.toList <+: text.toList then some (String.ofList (text.toList.drop lead.length))
  else none

/-- The policy id in the path of a request. -/
def policyIdOfPath (path : String) : Except AdminError String := do
  let id ←
    match stripPrefix path "/policies/" with
    | some rest => .ok rest
    | none =>
        match stripPrefix path "/admin/policies/" with
        | some rest => .ok rest
        | none => .error (.badRequest "invalid policy path")
  if id = "" then .error (.badRequest "missing policy id in path") else return id

/-- `update_policy`, up to its commit.  The id of the policy is the one in the path. -/
def updatePolicy (path : String) (payload : PolicyPayload Value) :
    Except AdminError (List PolicyRow × PolicyResponse Value) := do
  let id ← policyIdOfPath path
  let (table, rows) ← updatePolicies table (payload.row json id 0 now)
  if rows = 0 then .error (.notFound ("policy " ++ id ++ " not found"))
  else do
    let version ← getVersion table id
    return (table, payload.response id version now)

end Handlers

/-! ## The policy store -/

/-- `Policy`, with the fields that evaluation does not read. -/
structure StoredPolicy extends Policy where
  description : Option String
  priority : UInt32
  version : UInt64
  deriving DecidableEq

/-- `i64 as u32`. -/
def asU32 (value : Int) : UInt32 :=
  UInt32.ofInt value

/-- `i64 as u64`. -/
def asU64 (value : Int) : UInt64 :=
  UInt64.ofInt value

/-- `str::to_ascii_lowercase`.  A comparison with the name of an action cannot tell it from
`str::to_lowercase`: no letter outside ASCII is lowered to a letter of one of the names. -/
def asciiLowercase (text : String) : String :=
  String.ofList (text.toList.map Char.toLower)

/-- The decision of the `action` column. -/
def decisionOfAction (action : String) : Decision :=
  match asciiLowercase action with
  | "allow" => .allow
  | "deny" => .deny
  | "allow_with_log" => .allowWithLog
  | "allowwithlog" => .allowWithLog
  | "deny_with_alert" => .denyWithAlert
  | "denywithalert" => .denyWithAlert
  | _ => .deny

/-- The mode of the `mode` column. -/
def modeOfColumn (mode : String) : Option PolicyMode :=
  match mode with
  | "ALL" => some .all
  | "ANY" => some .any
  | "NONE" => some .none
  | _ => none

/-- `parse_enforcement_mode`. -/
def parseEnforcementMode (text : String) : EnforcementMode :=
  match text with
  | "Audit" => .audit
  | "Block" => .block
  | "AuditAndBlock" => .auditAndBlock
  | "PerPolicy" => .perPolicy
  | _ => .block

section Store

variable {Value : Type} (json : ConditionsJson Value)

/-- `deserialize_policy_row`. -/
def deserializePolicyRow (row : PolicyRow) : Option StoredPolicy := do
  let conditions ← json.fromStr row.conditions
  let mode ← modeOfColumn row.mode
  return { id := row.id
           name := row.name
           conditions := conditions
           action := decisionOfAction row.action
           enabled := row.enabled != 0
           mode := mode
           enforcementMode := parseEnforcementMode row.enforcementMode
           description := row.description
           priority := asU32 row.priority
           version := asU64 row.version }

/-- `PolicyStore::load_from_db`: rows that cannot be read are skipped. -/
def loadFromDb (table : List PolicyRow) : List StoredPolicy :=
  (listPolicies table).filterMap (deserializePolicyRow json)

/-- `PolicyStore`. -/
structure PolicyStore where
  cache : List StoredPolicy
  globalMode : EnforcementMode

/-- `PolicyStore::refresh_global_mode`, on what was read of `global_enforcement_mode`. -/
def globalModeOf (value : Option String) : EnforcementMode :=
  match value with
  | some text => parseEnforcementMode text
  | none => .perPolicy

/-- `PolicyStore::invalidate`, on the table if it could be read. -/
def PolicyStore.invalidate (store : PolicyStore) (table : Option (List PolicyRow))
    (globalMode : Option String) : PolicyStore where
  cache :=
    match table with
    | some rows => loadFromDb json rows
    | none => store.cache
  globalMode := globalModeOf globalMode

/-- `PolicyStore::evaluate`. -/
def PolicyStore.evaluate (store : PolicyStore) (ctx : AbacContext)
    (labelService : Option LabelService) (labelAwareEnabled : Bool) : EvaluateResponse :=
  Server.evaluate (store.cache.map StoredPolicy.toPolicy) store.globalMode ctx labelService
    labelAwareEnabled

end Store

/-! ## The device registry -/

/-- `DeviceRegistryRequest`. -/
structure DeviceRegistryRequest where
  vid : String
  pid : String
  serial : String
  ownerSid : Option String
  ownerUser : Option String
  description : String
  trustTier : String
  deriving DecidableEq

/-- `DeviceRegistryRow`; `DeviceRegistryResponse` has the same fields. -/
structure DeviceRegistryRow where
  id : String
  vid : String
  pid : String
  serial : String
  ownerSid : Option String
  ownerUser : Option String
  description : String
  trustTier : String
  createdAt : String
  deriving DecidableEq

/-- `VALID_TIERS`. -/
def validTiers : List String :=
  ["blocked", "read_only", "full_access"]

/-- The columns of the unique index on devices. -/
def DeviceRegistryRow.uniqueKey (row : DeviceRegistryRow) : String × String × String × String :=
  (row.vid, row.pid, row.serial, row.ownerSid.getD "")

/-- `DeviceRegistryRepository::upsert`. -/
def upsertDevice (table : List DeviceRegistryRow) (row : DeviceRegistryRow) :
    Except AdminError (List DeviceRegistryRow) :=
  if row.trustTier ∉ validTiers then .error .database
  else if table.any fun stored => stored.uniqueKey = row.uniqueKey then
    .ok (table.map fun stored =>
      if stored.uniqueKey = row.uniqueKey then
        { stored with
          trustTier := row.trustTier
          description := row.description
          ownerUser := row.ownerUser }
      else stored)
  else if table.any fun stored => stored.id = row.id then .error .database
  else .ok (table ++ [row])

/-- `DeviceRegistryRepository::get_by_device_key_and_owner`. -/
def getByDeviceKeyAndOwner (table : List DeviceRegistryRow) (vid pid serial : String)
    (ownerSid : Option String) : Except AdminError DeviceRegistryRow :=
  match table.find? fun row =>
      row.vid = vid ∧ row.pid = pid ∧ row.serial = serial ∧ row.ownerSid = ownerSid with
  | some row => .ok row
  | none => .error .database

/-- The checks that `upsert_device_registry_handler` makes before it opens the database. -/
def DeviceRegistryRequest.validate (body : DeviceRegistryRequest) : Except AdminError Unit :=
  if body.trustTier.utf8ByteSize > 32 then
    .error (.unprocessableEntity "trust_tier exceeds maximum length")
  else if body.trustTier ∉ validTiers then
    .error (.unprocessableEntity ("invalid trust_tier '" ++ body.trustTier ++
      "'; must be one of: blocked, read_only, full_access"))
  else .ok ()

/-- `upsert_device_registry_handler`: the table after it, and its answer.  The row is
read again after the commit. -/
def upsertDeviceRegistryHandler (id createdAt : String) (table : List DeviceRegistryRow)
    (body : DeviceRegistryRequest) :
    List DeviceRegistryRow × Except AdminError DeviceRegistryRow :=
  match body.validate with
  | .error error => (table, .error error)
  | .ok () =>
      match upsertDevice table
          { id := id, vid := body.vid, pid := body.pid, serial := body.serial,
            ownerSid := body.ownerSid, ownerUser := body.ownerUser,
            description := body.description, trustTier := body.trustTier,
            createdAt := createdAt } with
      | .error error => (table, .error error)
      | .ok table =>
          (table, getByDeviceKeyAndOwner table body.vid body.pid body.serial body.ownerSid)

/-- `delete_device_registry_handler`: the table after it, and its answer. -/
def deleteDeviceRegistryHandler (table : List DeviceRegistryRow) (id : String) :
    List DeviceRegistryRow × Except AdminError Unit :=
  if table.any fun row => row.id = id then (table.filter fun row => row.id ≠ id, .ok ())
  else (table, .error (.notFound ("device " ++ id ++ " not found")))

/-- `DeviceRegistryRepository::list_all`. -/
def listDevices (table : List DeviceRegistryRow) : List DeviceRegistryRow :=
  sortAscending DeviceRegistryRow.createdAt table

/-- A `PublicDeviceEntry` of a row, as JSON. -/
def publicDeviceEntry (row : DeviceRegistryRow) : Json :=
  .object [
    ("vid", .string row.vid),
    ("pid", .string row.pid),
    ("serial", .string row.serial),
    ("owner_sid", .ofOptionalString row.ownerSid),
    ("owner_user", .ofOptionalString row.ownerUser)]

/-- `list_device_registry_handler`: the body of the answer. -/
def listDeviceRegistryHandler (table : List DeviceRegistryRow) : Json :=
  .array ((listDevices table).map publicDeviceEntry)

end DlpSystem.Server
