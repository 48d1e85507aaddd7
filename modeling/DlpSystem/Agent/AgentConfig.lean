import DlpSystem.Agent.DaclTripwire
import DlpSystem.Agent.DiskEnumerator

/-!
# Configuration pushed by the server

`apply_payload_to_config`: the agent compares a payload of the server with its own
configuration, takes over what differs, and reports what changed, which disks the
allowlist had, and which protected paths come and go.  Of `AgentConfig` these are the
fields that a payload can carry.
-/

namespace DlpSystem.Agent

open Abac

/-! ## Configuration and payload -/

/-- `LdapConfigPayload`. -/
structure LdapConfig where
  ldapUrl : String
  baseDn : String
  requireTls : Bool
  cacheTtlSecs : Nat
  vpnSubnets : String
  deriving DecidableEq

/-- `MatchType`. -/
inductive MatchType
  | exactPath
  | pathGlob
  | pathPrefix
  | certSubject
  | certThumbprint
  deriving DecidableEq

/-- `AllowlistCategory`. -/
inductive AllowlistCategory
  | selfProcess
  | avedr
  | systemCritical
  | operatorDefined
  deriving DecidableEq

/-- `AllowlistEntry`. -/
structure AllowlistEntry where
  matchType : MatchType
  value : String
  description : String
  category : AllowlistCategory
  deriving DecidableEq

/-- `AllowlistConfigEntry`. -/
structure AllowlistConfigEntry where
  matchType : String
  value : String
  description : String
  category : String
  priority : Int
  deriving DecidableEq

/-- `ProtectedPathConfig`. -/
structure ProtectedPathConfig where
  id : String
  path : String
  tier : String
  source : String
  deriving DecidableEq

/-- `AgentConfig`. -/
structure AgentConfig where
  monitoredPaths : List String
  excludedPaths : List String
  heartbeatIntervalSecs : Option Nat
  offlineCacheEnabled : Option Bool
  ldapConfig : Option LdapConfig
  diskAllowlist : List DiskIdentity
  usbBlockedFailureMode : Option String
  usbStartupResolutionMode : Option String
  usbNoneSerialPolicy : Option String
  cloudHookEnabled : Option Bool
  wfpFilterEnabled : Option Bool
  hookClassificationTimeoutMs : Option Nat
  printEnabled : Option Bool
  printXpsTimeoutMs : Option Nat
  printUnclassifiableAction : Option String
  printMaxPages : Option Nat
  allowlistEntries : List AllowlistEntry
  allowlistVersion : Int
  protectedPaths : List ProtectedPathConfig
  globalMode : EnforcementMode
  deriving DecidableEq

/-- `AgentConfigPayload`. -/
structure AgentConfigPayload where
  monitoredPaths : List String
  excludedPaths : List String
  heartbeatIntervalSecs : Nat
  offlineCacheEnabled : Bool
  ldapConfig : Option LdapConfig
  diskAllowlist : List DiskIdentity
  usbBlockedFailureMode : String
  usbStartupResolutionMode : String
  usbNoneSerialPolicy : String
  cloudHookEnabled : Bool
  wfpFilterEnabled : Bool
  hookClassificationTimeoutMs : Nat
  printEnabled : Bool
  printXpsTimeoutMs : Nat
  printUnclassifiableAction : String
  printMaxPages : Nat
  allowlistEntries : List AllowlistConfigEntry
  allowlistVersion : Int
  protectedPaths : List ProtectedPathConfig
  globalEnforcementMode : String
  deriving DecidableEq

/-- `DEFAULT_USB_BLOCKED_FAILURE_MODE`. -/
def defaultUsbBlockedFailureMode : String := "Warning only"

/-- `DEFAULT_USB_STARTUP_RESOLUTION_MODE`. -/
def defaultUsbStartupResolutionMode : String := "VID/PID/serial fallback"

/-- `DEFAULT_USB_NONE_SERIAL_POLICY`. -/
def defaultUsbNoneSerialPolicy : String := "Always Blocked"

/-- The default of `print_xps_timeout_ms` and of `hook_classification_timeout_ms`. -/
def defaultTimeoutMs : Nat := 5000

/-- The default of `print_unclassifiable_action`. -/
def defaultPrintUnclassifiableAction : String := "Block"

/-- The default of `print_max_pages`. -/
def defaultPrintMaxPages : Nat := 100

/-- `AgentConfig::default`. -/
def AgentConfig.default : AgentConfig where
  monitoredPaths := []
  excludedPaths := []
  heartbeatIntervalSecs := none
  offlineCacheEnabled := none
  ldapConfig := none
  diskAllowlist := []
  usbBlockedFailureMode := none
  usbStartupResolutionMode := none
  usbNoneSerialPolicy := none
  cloudHookEnabled := none
  wfpFilterEnabled := none
  hookClassificationTimeoutMs := none
  printEnabled := none
  printXpsTimeoutMs := none
  printUnclassifiableAction := none
  printMaxPages := none
  allowlistEntries := []
  allowlistVersion := 0
  protectedPaths := []
  globalMode := .perPolicy

/-- The payload of a server that sends the required fields only, with the values of a new
agent. -/
def AgentConfigPayload.default : AgentConfigPayload where
  monitoredPaths := []
  excludedPaths := []
  heartbeatIntervalSecs := 30
  offlineCacheEnabled := true
  ldapConfig := none
  diskAllowlist := []
  usbBlockedFailureMode := defaultUsbBlockedFailureMode
  usbStartupResolutionMode := defaultUsbStartupResolutionMode
  usbNoneSerialPolicy := defaultUsbNoneSerialPolicy
  cloudHookEnabled := false
  wfpFilterEnabled := false
  hookClassificationTimeoutMs := defaultTimeoutMs
  printEnabled := false
  printXpsTimeoutMs := defaultTimeoutMs
  printUnclassifiableAction := defaultPrintUnclassifiableAction
  printMaxPages := defaultPrintMaxPages
  allowlistEntries := []
  allowlistVersion := 0
  protectedPaths := []
  globalEnforcementMode := "PerPolicy"

/-! ## Fields -/

section Fields

variable {α : Type} [DecidableEq α]

/-- The value of a field after a payload, and whether it changes. -/
def takeOver (applies : Bool) (current pushed : α) : α × Bool :=
  if applies then (pushed, true) else (current, false)

/-- A pushed value that a field does not have.  A field that is not set has its default. -/
def differs (standard : α) (current : Option α) (pushed : α) : Bool :=
  match current with
  | some existing => decide (existing ≠ pushed)
  | none => decide (pushed ≠ standard)

/-- A field without a default. -/
def replaceField (current pushed : α) : α × Bool :=
  takeOver (decide (current ≠ pushed)) current pushed

/-- A field with a default. -/
def replaceSetting (standard : α) (current : Option α) (pushed : α) : Option α × Bool :=
  takeOver (differs standard current pushed) current (some pushed)

/-- A field of text with a default, which never takes over the empty text. -/
def replaceText (standard : String) (current : Option String) (pushed : String) :
    Option String × Bool :=
  takeOver (differs standard current pushed && decide (pushed ≠ "")) current (some pushed)

omit [DecidableEq α] in
@[simp]
theorem takeOver_snd (applies : Bool) (current pushed : α) :
    (takeOver applies current pushed).2 = applies := by
  cases applies <;> rfl

omit [DecidableEq α] in
theorem takeOver_unchanged {applies : Bool} {current pushed : α}
    (unchanged : (takeOver applies current pushed).2 = false) :
    (takeOver applies current pushed).1 = current := by
  rw [takeOver_snd] at unchanged
  rw [unchanged]
  rfl

theorem replaceField_fst (current pushed : α) : (replaceField current pushed).1 = pushed := by
  unfold replaceField takeOver
  split
  · rfl
  · rename_i same
    simpa using same

theorem differs_eq_false_iff (standard : α) (current : Option α) (pushed : α) :
    differs standard current pushed = false ↔ current.getD standard = pushed := by
  cases current with
  | none =>
      simp only [differs, Option.getD_none, decide_eq_false_iff_not, not_not]
      exact eq_comm
  | some existing => simp [differs]

theorem replaceSetting_fst (standard : α) (current : Option α) (pushed : α) :
    (replaceSetting standard current pushed).1.getD standard = pushed := by
  unfold replaceSetting takeOver
  split
  · rfl
  · rename_i same
    exact (differs_eq_false_iff standard current pushed).mp (by simpa using same)

/-- A field of text has the pushed text afterwards, unless that is empty and the field is
not. -/
theorem replaceText_fst_iff (standard : String) (current : Option String) (pushed : String) :
    (replaceText standard current pushed).1.getD standard = pushed ↔
      pushed ≠ "" ∨ current.getD standard = "" := by
  unfold replaceText takeOver
  cases differ : differs standard current pushed with
  | false =>
      have same := (differs_eq_false_iff standard current pushed).mp differ
      simp only [Bool.false_and, Bool.false_eq_true, if_false, same, true_iff]
      exact (em (pushed = "")).symm
  | true =>
      by_cases empty : pushed = ""
      · simp [empty]
      · simp [empty]

end Fields

/-! ## Allowlist and mode -/

/-- The match types by their names. -/
def parseMatchType : String → Option MatchType
  | "exact_path" => some .exactPath
  | "path_glob" => some .pathGlob
  | "path_prefix" => some .pathPrefix
  | "cert_subject" => some .certSubject
  | "cert_thumbprint" => some .certThumbprint
  | _ => none

/-- The categories by their names; an unknown one counts as defined by the operator. -/
def parseCategory : String → AllowlistCategory
  | "self" => .selfProcess
  | "avedr" => .avedr
  | "system_critical" => .systemCritical
  | "operator_defined" => .operatorDefined
  | _ => .operatorDefined

/-- An entry of the payload, if its match type is known and it has a value. -/
def validEntry (entry : AllowlistConfigEntry) : Option AllowlistEntry :=
  match parseMatchType entry.matchType with
  | none => none
  | some matchType =>
      if entry.value = "" then none
      else some ⟨matchType, entry.value, entry.description, parseCategory entry.category⟩

/-- The modes by their names; an unknown one counts as `Block`. -/
def parseGlobalMode : String → EnforcementMode
  | "Audit" => .audit
  | "Block" => .block
  | "AuditAndBlock" => .auditAndBlock
  | "PerPolicy" => .perPolicy
  | _ => .block

/-- The canonical paths of a list, without those that cannot be normalized. -/
def normalizedPaths (paths : List ProtectedPathConfig) : List String :=
  (paths.filterMap fun entry => (normalizeProtectedPath entry.path).toOption).dedup

/-! ## The payload applied -/

/-- What `apply_payload_to_config` returns and stages. -/
structure AppliedPayload where
  config : AgentConfig
  changedFields : List String
  diskMergeData : Option (List String × List DiskIdentity)
  /-- The protected paths whose staged removals are cleared, and those whose removal is
  staged. -/
  additions : List String
  removals : List String
  deriving DecidableEq

/-- `apply_payload_to_config`. -/
def applyPayloadToConfig (cfg : AgentConfig) (payload : AgentConfigPayload) : AppliedPayload :=
  let monitoredPaths := replaceField cfg.monitoredPaths payload.monitoredPaths
  let heartbeatIntervalSecs :=
    replaceField cfg.heartbeatIntervalSecs (some payload.heartbeatIntervalSecs)
  let offlineCacheEnabled :=
    replaceField cfg.offlineCacheEnabled (some payload.offlineCacheEnabled)
  let ldapConfig := replaceField cfg.ldapConfig payload.ldapConfig
  let excludedPaths := replaceField cfg.excludedPaths payload.excludedPaths
  let usbBlockedFailureMode :=
    replaceText defaultUsbBlockedFailureMode cfg.usbBlockedFailureMode
      payload.usbBlockedFailureMode
  let usbStartupResolutionMode :=
    replaceText defaultUsbStartupResolutionMode cfg.usbStartupResolutionMode
      payload.usbStartupResolutionMode
  let usbNoneSerialPolicy :=
    replaceText defaultUsbNoneSerialPolicy cfg.usbNoneSerialPolicy payload.usbNoneSerialPolicy
  let printEnabled := replaceSetting false cfg.printEnabled payload.printEnabled
  let printXpsTimeoutMs :=
    replaceSetting defaultTimeoutMs cfg.printXpsTimeoutMs payload.printXpsTimeoutMs
  let printUnclassifiableAction :=
    replaceText defaultPrintUnclassifiableAction cfg.printUnclassifiableAction
      payload.printUnclassifiableAction
  let printMaxPages := replaceSetting defaultPrintMaxPages cfg.printMaxPages payload.printMaxPages
  let diskAllowlist := replaceField cfg.diskAllowlist payload.diskAllowlist
  let allowlistVersion := replaceField cfg.allowlistVersion payload.allowlistVersion
  let protectedPaths := replaceField cfg.protectedPaths payload.protectedPaths
  let globalMode := replaceField cfg.globalMode (parseGlobalMode payload.globalEnforcementMode)
  let oldPaths := normalizedPaths cfg.protectedPaths
  let newPaths := normalizedPaths payload.protectedPaths
  { config :=
      { monitoredPaths := monitoredPaths.1
        excludedPaths := excludedPaths.1
        heartbeatIntervalSecs := heartbeatIntervalSecs.1
        offlineCacheEnabled := offlineCacheEnabled.1
        ldapConfig := ldapConfig.1
        diskAllowlist := diskAllowlist.1
        usbBlockedFailureMode := usbBlockedFailureMode.1
        usbStartupResolutionMode := usbStartupResolutionMode.1
        usbNoneSerialPolicy := usbNoneSerialPolicy.1
        -- The payload carries these three as well, but nothing takes them over.
        cloudHookEnabled := cfg.cloudHookEnabled
        wfpFilterEnabled := cfg.wfpFilterEnabled
        hookClassificationTimeoutMs := cfg.hookClassificationTimeoutMs
        printEnabled := printEnabled.1
        printXpsTimeoutMs := printXpsTimeoutMs.1
        printUnclassifiableAction := printUnclassifiableAction.1
        printMaxPages := printMaxPages.1
        allowlistEntries :=
          if allowlistVersion.2 then payload.allowlistEntries.filterMap validEntry
          else cfg.allowlistEntries
        allowlistVersion := allowlistVersion.1
        protectedPaths := protectedPaths.1
        globalMode := globalMode.1 }
    changedFields :=
      [("monitored_paths", monitoredPaths.2),
        ("heartbeat_interval_secs", heartbeatIntervalSecs.2),
        ("offline_cache_enabled", offlineCacheEnabled.2), ("ldap_config", ldapConfig.2),
        ("excluded_paths", excludedPaths.2),
        ("usb_blocked_failure_mode", usbBlockedFailureMode.2),
        ("usb_startup_resolution_mode", usbStartupResolutionMode.2),
        ("usb_none_serial_policy", usbNoneSerialPolicy.2), ("print_enabled", printEnabled.2),
        ("print_xps_timeout_ms", printXpsTimeoutMs.2),
        ("print_unclassifiable_action", printUnclassifiableAction.2),
        ("print_max_pages", printMaxPages.2), ("disk_allowlist", diskAllowlist.2),
        ("allowlist_entries", allowlistVersion.2), ("protected_paths", protectedPaths.2),
        ("global_enforcement_mode", globalMode.2)].filterMap fun field =>
          if field.2 then some field.1 else none
    diskMergeData :=
      if diskAllowlist.2 then
        some (cfg.diskAllowlist.map DiskIdentity.instanceId, payload.diskAllowlist)
      else none
    additions :=
      if protectedPaths.2 then newPaths.filter fun path => decide (path ∉ oldPaths) else []
    removals :=
      if protectedPaths.2 then oldPaths.filter fun path => decide (path ∉ newPaths) else [] }

/-- A payload that reports no change makes none. -/
theorem applyPayloadToConfig_unchanged {cfg : AgentConfig} {payload : AgentConfigPayload}
    (unchanged : (applyPayloadToConfig cfg payload).changedFields = []) :
    (applyPayloadToConfig cfg payload).config = cfg := by
  simp only [applyPayloadToConfig, replaceField, replaceSetting, replaceText,
    List.filterMap_eq_nil_iff, List.mem_cons, List.not_mem_nil, or_false, forall_eq_or_imp,
    forall_eq, ite_eq_right_iff, reduceCtorEq, imp_false, Bool.not_eq_true] at unchanged
  rcases unchanged with ⟨monitored, heartbeat, offline, ldap, excluded, usbBlocked, usbStartup,
    usbSerial, printEnabled, printXps, printAction, printPages, disks, version, paths, mode⟩
  simp only [applyPayloadToConfig, replaceField, replaceSetting, replaceText]
  simp only [takeOver_unchanged monitored, takeOver_unchanged heartbeat,
    takeOver_unchanged offline, takeOver_unchanged ldap, takeOver_unchanged excluded,
    takeOver_unchanged usbBlocked, takeOver_unchanged usbStartup, takeOver_unchanged usbSerial,
    takeOver_unchanged printEnabled, takeOver_unchanged printXps, takeOver_unchanged printAction,
    takeOver_unchanged printPages, takeOver_unchanged disks, version, takeOver_unchanged version,
    takeOver_unchanged paths, takeOver_unchanged mode, Bool.false_eq_true, if_false]

/-- `signal_dacl_reinit_if_needed`: the DACL watcher is told to start anew. -/
def signalsDaclReinit (changedFields : List String) : Bool :=
  changedFields.contains "protected_paths" || changedFields.contains "global_enforcement_mode"

end DlpSystem.Agent
