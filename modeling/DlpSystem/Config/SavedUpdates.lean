import DlpSystem.Agent.AgentConfig
import DlpSystem.Lib.EventRun

/-!
# Two writers of one configuration file

The poll loop and the enumeration of the disks hold a copy of the configuration each, and
each saves the whole of its copy to the same file.  A payload reaches the copy of the
poll loop only.
-/

namespace DlpSystem.Configs

open Abac Agent Lib

/-! ## Values -/

/-- The values that the server pushes, without the disk allowlist. -/
structure PushedValues where
  monitoredPaths : List String
  excludedPaths : List String
  heartbeatIntervalSecs : Option Nat
  offlineCacheEnabled : Option Bool
  ldapConfig : Option LdapConfig
  usbBlockedFailureMode : String
  usbStartupResolutionMode : String
  usbNoneSerialPolicy : String
  cloudHookEnabled : Bool
  wfpFilterEnabled : Bool
  hookClassificationTimeoutMs : Nat
  printEnabled : Bool
  printXpsTimeoutMs : Nat
  printUnclassifiableAction : String
  printMaxPages : Nat
  allowlistEntries : List AllowlistEntry
  allowlistVersion : Int
  protectedPaths : List ProtectedPathConfig
  globalMode : EnforcementMode
  deriving DecidableEq

/-- The values of a configuration; a field that is not set has its default. -/
def configValues (config : AgentConfig) : PushedValues where
  monitoredPaths := config.monitoredPaths
  excludedPaths := config.excludedPaths
  heartbeatIntervalSecs := config.heartbeatIntervalSecs
  offlineCacheEnabled := config.offlineCacheEnabled
  ldapConfig := config.ldapConfig
  usbBlockedFailureMode := config.usbBlockedFailureMode.getD defaultUsbBlockedFailureMode
  usbStartupResolutionMode :=
    config.usbStartupResolutionMode.getD defaultUsbStartupResolutionMode
  usbNoneSerialPolicy := config.usbNoneSerialPolicy.getD defaultUsbNoneSerialPolicy
  cloudHookEnabled := config.cloudHookEnabled.getD false
  wfpFilterEnabled := config.wfpFilterEnabled.getD false
  hookClassificationTimeoutMs := config.hookClassificationTimeoutMs.getD defaultTimeoutMs
  printEnabled := config.printEnabled.getD false
  printXpsTimeoutMs := config.printXpsTimeoutMs.getD defaultTimeoutMs
  printUnclassifiableAction :=
    config.printUnclassifiableAction.getD defaultPrintUnclassifiableAction
  printMaxPages := config.printMaxPages.getD defaultPrintMaxPages
  allowlistEntries := config.allowlistEntries
  allowlistVersion := config.allowlistVersion
  protectedPaths := config.protectedPaths
  globalMode := config.globalMode

/-- The values of a payload. -/
def payloadValues (payload : AgentConfigPayload) : PushedValues where
  monitoredPaths := payload.monitoredPaths
  excludedPaths := payload.excludedPaths
  heartbeatIntervalSecs := some payload.heartbeatIntervalSecs
  offlineCacheEnabled := some payload.offlineCacheEnabled
  ldapConfig := payload.ldapConfig
  usbBlockedFailureMode := payload.usbBlockedFailureMode
  usbStartupResolutionMode := payload.usbStartupResolutionMode
  usbNoneSerialPolicy := payload.usbNoneSerialPolicy
  cloudHookEnabled := payload.cloudHookEnabled
  wfpFilterEnabled := payload.wfpFilterEnabled
  hookClassificationTimeoutMs := payload.hookClassificationTimeoutMs
  printEnabled := payload.printEnabled
  printXpsTimeoutMs := payload.printXpsTimeoutMs
  printUnclassifiableAction := payload.printUnclassifiableAction
  printMaxPages := payload.printMaxPages
  allowlistEntries := payload.allowlistEntries.filterMap validEntry
  allowlistVersion := payload.allowlistVersion
  protectedPaths := payload.protectedPaths
  globalMode := parseGlobalMode payload.globalEnforcementMode

/-! ## Applying a payload -/

/-- A configuration takes over a payload as a whole: no text of it is empty where the
configuration has one, new allowlist entries come with a new version, and the three
settings that are never taken over have the pushed values already. -/
structure Admits (config : AgentConfig) (payload : AgentConfigPayload) : Prop where
  usbBlockedFailureMode : payload.usbBlockedFailureMode ≠ "" ∨
    config.usbBlockedFailureMode.getD defaultUsbBlockedFailureMode = ""
  usbStartupResolutionMode : payload.usbStartupResolutionMode ≠ "" ∨
    config.usbStartupResolutionMode.getD defaultUsbStartupResolutionMode = ""
  usbNoneSerialPolicy : payload.usbNoneSerialPolicy ≠ "" ∨
    config.usbNoneSerialPolicy.getD defaultUsbNoneSerialPolicy = ""
  printUnclassifiableAction : payload.printUnclassifiableAction ≠ "" ∨
    config.printUnclassifiableAction.getD defaultPrintUnclassifiableAction = ""
  allowlistEntries : config.allowlistVersion ≠ payload.allowlistVersion ∨
    config.allowlistEntries = payload.allowlistEntries.filterMap validEntry
  cloudHookEnabled : config.cloudHookEnabled.getD false = payload.cloudHookEnabled
  wfpFilterEnabled : config.wfpFilterEnabled.getD false = payload.wfpFilterEnabled
  hookClassificationTimeoutMs :
    config.hookClassificationTimeoutMs.getD defaultTimeoutMs = payload.hookClassificationTimeoutMs

/-- The allowlist entries after a payload. -/
theorem entries_after_iff (config : AgentConfig) (payload : AgentConfigPayload) :
    (applyPayloadToConfig config payload).config.allowlistEntries =
        payload.allowlistEntries.filterMap validEntry ↔
      config.allowlistVersion ≠ payload.allowlistVersion ∨
        config.allowlistEntries = payload.allowlistEntries.filterMap validEntry := by
  by_cases same : config.allowlistVersion = payload.allowlistVersion
  · simp [applyPayloadToConfig, replaceField, same]
  · simp [applyPayloadToConfig, replaceField, same]

/-- A payload reaches the configuration as a whole exactly if it is admitted. -/
theorem apply_values_iff (config : AgentConfig) (payload : AgentConfigPayload) :
    configValues (applyPayloadToConfig config payload).config = payloadValues payload ↔
      Admits config payload := by
  have entries := entries_after_iff config payload
  constructor
  · intro same
    exact {
      usbBlockedFailureMode := (replaceText_fst_iff _ _ _).mp
        (congrArg PushedValues.usbBlockedFailureMode same)
      usbStartupResolutionMode := (replaceText_fst_iff _ _ _).mp
        (congrArg PushedValues.usbStartupResolutionMode same)
      usbNoneSerialPolicy := (replaceText_fst_iff _ _ _).mp
        (congrArg PushedValues.usbNoneSerialPolicy same)
      printUnclassifiableAction := (replaceText_fst_iff _ _ _).mp
        (congrArg PushedValues.printUnclassifiableAction same)
      allowlistEntries := entries.mp (congrArg PushedValues.allowlistEntries same)
      cloudHookEnabled := congrArg PushedValues.cloudHookEnabled same
      wfpFilterEnabled := congrArg PushedValues.wfpFilterEnabled same
      hookClassificationTimeoutMs := congrArg PushedValues.hookClassificationTimeoutMs same }
  · intro admits
    have usbBlocked := (replaceText_fst_iff _ _ _).mpr admits.usbBlockedFailureMode
    have usbStartup := (replaceText_fst_iff _ _ _).mpr admits.usbStartupResolutionMode
    have usbSerial := (replaceText_fst_iff _ _ _).mpr admits.usbNoneSerialPolicy
    have printAction := (replaceText_fst_iff _ _ _).mpr admits.printUnclassifiableAction
    have newEntries := entries.mpr admits.allowlistEntries
    simp only [applyPayloadToConfig] at newEntries
    simp only [configValues, payloadValues, applyPayloadToConfig, replaceField_fst,
      replaceSetting_fst, usbBlocked, usbStartup, usbSerial, printAction, newEntries,
      admits.cloudHookEnabled, admits.wfpFilterEnabled, admits.hookClassificationTimeoutMs]

/-! ## The two writers -/

/-- Who saves the file. -/
inductive Saver
  | pollLoop
  | enumeration
  deriving DecidableEq

/-- The copies of the configuration and the file.  `unsaved` says that the poll loop is
between a payload that changed something and its save; `latest` is the last payload that
was applied, with the configuration that met it. -/
structure ConfigWorld where
  pollConfig : AgentConfig
  diskConfig : AgentConfig
  file : AgentConfig
  unsaved : Bool
  lastSaver : Option Saver
  latest : Option (AgentConfig × AgentConfigPayload)
  deriving DecidableEq

/-- The steps of the two tasks. -/
inductive ConfigStep
  | applyPayload (payload : AgentConfigPayload)
  | save
  | persistAllowlist (updatedList : List DiskIdentity)
  deriving DecidableEq

namespace ConfigWorld

/-- Both copies are made of the configuration at startup. -/
def start (config : AgentConfig) : ConfigWorld :=
  ⟨config, config, config, false, none, none⟩

/-- One step.  The poll loop saves before it applies another payload. -/
def next (world : ConfigWorld) : ConfigStep → ConfigWorld
  | .applyPayload payload =>
      if world.unsaved then world
      else
        let applied := applyPayloadToConfig world.pollConfig payload
        { world with
          pollConfig := applied.config
          unsaved := decide (applied.changedFields ≠ [])
          latest := some (world.pollConfig, payload) }
  | .save =>
      if world.unsaved then
        { world with file := world.pollConfig, unsaved := false, lastSaver := some .pollLoop }
      else world
  | .persistAllowlist updatedList =>
      let config := { world.diskConfig with diskAllowlist := updatedList }
      { world with diskConfig := config, file := config, lastSaver := some .enumeration }

end ConfigWorld

/-- What holds in every run that starts from a configuration. -/
structure Consistent (config : AgentConfig) (world : ConfigWorld) : Prop where
  disk : configValues world.diskConfig = configValues config
  latest : ∀ before payload, world.latest = some (before, payload) →
    world.pollConfig = (applyPayloadToConfig before payload).config
  ofPollLoop : world.lastSaver = some .pollLoop → world.unsaved = false →
    configValues world.file = configValues world.pollConfig
  ofOther : world.lastSaver ≠ some .pollLoop → configValues world.file = configValues config

theorem consistent_start (config : AgentConfig) : Consistent config (ConfigWorld.start config) where
  disk := rfl
  latest := by
    intro before payload isLatest
    cases isLatest
  ofPollLoop := by
    intro saver
    cases saver
  ofOther := fun _ => rfl

namespace Consistent

variable {config : AgentConfig} {world : ConfigWorld}

theorem applyPayload (consistent : Consistent config world) (payload : AgentConfigPayload) :
    Consistent config (world.next (.applyPayload payload)) := by
  simp only [ConfigWorld.next]
  split
  · exact consistent
  · rename_i saved
    refine ⟨consistent.disk, ?_, ?_, consistent.ofOther⟩
    · intro before other isLatest
      cases isLatest
      rfl
    · intro saver unchanged
      have same : (applyPayloadToConfig world.pollConfig payload).config = world.pollConfig :=
        applyPayloadToConfig_unchanged (by simpa using unchanged)
      simp only [same]
      exact consistent.ofPollLoop saver (by simpa using saved)

theorem save (consistent : Consistent config world) :
    Consistent config (world.next .save) := by
  simp only [ConfigWorld.next]
  split
  · exact ⟨consistent.disk, consistent.latest, fun _ _ => rfl, fun other => absurd rfl other⟩
  · exact consistent

theorem persistAllowlist (consistent : Consistent config world)
    (updatedList : List DiskIdentity) :
    Consistent config (world.next (.persistAllowlist updatedList)) where
  disk := consistent.disk
  latest := consistent.latest
  ofPollLoop := by
    intro saver
    cases saver
  ofOther := fun _ => consistent.disk

theorem next (consistent : Consistent config world) (step : ConfigStep) :
    Consistent config (world.next step) := by
  cases step with
  | applyPayload payload => exact consistent.applyPayload payload
  | save => exact consistent.save
  | persistAllowlist updatedList => exact consistent.persistAllowlist updatedList

end Consistent

/-- Over every interleaving of the two tasks, when no save is outstanding: the file has the
values of the latest payload exactly if the poll loop was the last to save and the payload
was admitted, or it was not and the payload has the values of the startup. -/
theorem latest_payload_saved_iff (config : AgentConfig) (steps : List ConfigStep)
    (before : AgentConfig) (payload : AgentConfigPayload)
    (saved : (steps.foldl ConfigWorld.next (ConfigWorld.start config)).unsaved = false)
    (isLatest : (steps.foldl ConfigWorld.next (ConfigWorld.start config)).latest =
      some (before, payload)) :
    configValues (steps.foldl ConfigWorld.next (ConfigWorld.start config)).file =
        payloadValues payload ↔
      if (steps.foldl ConfigWorld.next (ConfigWorld.start config)).lastSaver = some .pollLoop then
        Admits before payload
      else configValues config = payloadValues payload := by
  have preserved : ∀ world step, Consistent config world → Consistent config (world.next step) :=
    fun _ step consistent => consistent.next step
  have consistent := foldl_invariant preserved steps (consistent_start config)
  split
  · rename_i byPoll
    rw [consistent.ofPollLoop byPoll saved, consistent.latest before payload isLatest,
      apply_values_iff]
  · rename_i byOther
    rw [consistent.ofOther byOther]

/-- A payload that excludes a path. -/
def excludingPayload : AgentConfigPayload :=
  { AgentConfigPayload.default with excludedPaths := ["C:\\Temp"] }

theorem admits_excludingPayload : Admits AgentConfig.default excludingPayload where
  usbBlockedFailureMode := Or.inl (by decide)
  usbStartupResolutionMode := Or.inl (by decide)
  usbNoneSerialPolicy := Or.inl (by decide)
  printUnclassifiableAction := Or.inl (by decide)
  allowlistEntries := Or.inr rfl
  cloudHookEnabled := rfl
  wfpFilterEnabled := rfl
  hookClassificationTimeoutMs := rfl

/-- The enumeration saves before the payload comes, and the payload is in the file. -/
theorem persistFirst_saved :
    configValues ([.persistAllowlist [], .applyPayload excludingPayload, .save].foldl
      ConfigWorld.next (ConfigWorld.start AgentConfig.default)).file =
        payloadValues excludingPayload := by
  have iff := latest_payload_saved_iff AgentConfig.default
    [.persistAllowlist [], .applyPayload excludingPayload, .save] AgentConfig.default
    excludingPayload (by decide +kernel) (by decide +kernel)
  have byPoll : ([.persistAllowlist [], .applyPayload excludingPayload, .save].foldl
      ConfigWorld.next (ConfigWorld.start AgentConfig.default)).lastSaver = some .pollLoop := by
    decide +kernel
  rw [if_pos byPoll] at iff
  exact iff.mpr admits_excludingPayload

/-- The enumeration saves after the payload has been saved, and the payload is lost. -/
theorem persistLast_lost :
    ([.applyPayload excludingPayload, .save, .persistAllowlist []].foldl
        ConfigWorld.next (ConfigWorld.start AgentConfig.default)).unsaved = false ∧
      configValues ([.applyPayload excludingPayload, .save, .persistAllowlist []].foldl
        ConfigWorld.next (ConfigWorld.start AgentConfig.default)).file ≠
          payloadValues excludingPayload := by
  decide +kernel

end DlpSystem.Configs
