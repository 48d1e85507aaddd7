import DlpSystem.Agent.AgentConfig

/-!
# A payload applied twice

After a payload the fields of the configuration agree with it, except those that nothing takes
over, and each change test is false on the field that its assignment has set: the same payload
changes nothing again.
-/

namespace DlpSystem.Configs

open Abac Agent

/-! ## Fields -/

section Fields

variable {α : Type} [DecidableEq α]

/-- A field with a default has the pushed value, or it had none and the default was pushed. -/
def SettledSetting (standard : α) (before after : Option α) (pushed : α) : Prop :=
  after = some pushed ∨ (pushed = standard ∧ before = none ∧ after = none)

/-- A field of text is settled, or the pushed text is empty and the field stays. -/
def SettledText (standard : String) (before after : Option String) (pushed : String) : Prop :=
  SettledSetting standard before after pushed ∨ (pushed = "" ∧ after = before)

theorem replaceField_again (current pushed : α) :
    (replaceField (replaceField current pushed).1 pushed).2 = false := by
  rw [replaceField_fst, replaceField, takeOver_snd]
  simp

theorem settled_replaceSetting (standard : α) (current : Option α) (pushed : α) :
    SettledSetting standard current (replaceSetting standard current pushed).1 pushed := by
  rw [replaceSetting, takeOver]
  split
  · exact Or.inl rfl
  · rename_i same
    have agrees := (differs_eq_false_iff standard current pushed).mp (by simpa using same)
    cases current with
    | none => exact Or.inr ⟨agrees.symm, rfl, rfl⟩
    | some existing => exact Or.inl (congrArg some agrees)

theorem replaceSetting_again (standard : α) (current : Option α) (pushed : α) :
    (replaceSetting standard (replaceSetting standard current pushed).1 pushed).2 = false := by
  rw [replaceSetting, takeOver_snd]
  exact (differs_eq_false_iff _ _ _).mpr (replaceSetting_fst standard current pushed)

/-- An empty text is never taken over. -/
theorem replaceText_empty (standard : String) (current : Option String) :
    replaceText standard current "" = (current, false) := by
  rw [replaceText, decide_eq_false (by simp), Bool.and_false]
  rfl

theorem replaceText_of_ne {pushed : String} (some : pushed ≠ "") (standard : String)
    (current : Option String) :
    replaceText standard current pushed = replaceSetting standard current pushed := by
  rw [replaceText, replaceSetting, decide_eq_true some, Bool.and_true]

theorem settled_replaceText (standard : String) (current : Option String) (pushed : String) :
    SettledText standard current (replaceText standard current pushed).1 pushed := by
  by_cases empty : pushed = ""
  · rw [empty, replaceText_empty]
    exact Or.inr ⟨rfl, rfl⟩
  · rw [replaceText_of_ne empty]
    exact Or.inl (settled_replaceSetting standard current pushed)

theorem replaceText_again (standard : String) (current : Option String) (pushed : String) :
    (replaceText standard (replaceText standard current pushed).1 pushed).2 = false := by
  by_cases empty : pushed = ""
  · rw [empty, replaceText_empty]
  · rw [replaceText_of_ne empty, replaceText_of_ne empty]
    exact replaceSetting_again standard current pushed

omit [DecidableEq α] in
/-- A field that stays is settled exactly if it has the pushed value, or the default is pushed
and it has none. -/
theorem settledSetting_self_iff (standard : α) (current : Option α) (pushed : α) :
    SettledSetting standard current current pushed ↔ current.getD standard = pushed := by
  rw [SettledSetting]
  cases current with
  | none =>
      constructor
      · rintro (impossible | ⟨same, -, -⟩)
        · cases impossible
        · exact same.symm
      · intro same
        exact Or.inr ⟨same.symm, rfl, rfl⟩
  | some existing =>
      constructor
      · rintro (same | ⟨-, impossible, -⟩)
        · exact Option.some_inj.mp same
        · cases impossible
      · intro same
        exact Or.inl (congrArg some same)

end Fields

/-! ## The configuration after a payload -/

/-- The configuration agrees with the payload on the pushed fields, given what it was before. -/
structure AgreesWith (before after : AgentConfig) (payload : AgentConfigPayload) : Prop where
  monitoredPaths : after.monitoredPaths = payload.monitoredPaths
  excludedPaths : after.excludedPaths = payload.excludedPaths
  heartbeatIntervalSecs : after.heartbeatIntervalSecs = some payload.heartbeatIntervalSecs
  offlineCacheEnabled : after.offlineCacheEnabled = some payload.offlineCacheEnabled
  ldapConfig : after.ldapConfig = payload.ldapConfig
  diskAllowlist : after.diskAllowlist = payload.diskAllowlist
  usbBlockedFailureMode : SettledText defaultUsbBlockedFailureMode before.usbBlockedFailureMode
    after.usbBlockedFailureMode payload.usbBlockedFailureMode
  usbStartupResolutionMode : SettledText defaultUsbStartupResolutionMode
    before.usbStartupResolutionMode after.usbStartupResolutionMode payload.usbStartupResolutionMode
  usbNoneSerialPolicy : SettledText defaultUsbNoneSerialPolicy before.usbNoneSerialPolicy
    after.usbNoneSerialPolicy payload.usbNoneSerialPolicy
  cloudHookEnabled : SettledSetting false before.cloudHookEnabled after.cloudHookEnabled
    payload.cloudHookEnabled
  wfpFilterEnabled : SettledSetting false before.wfpFilterEnabled after.wfpFilterEnabled
    payload.wfpFilterEnabled
  hookClassificationTimeoutMs : SettledSetting defaultTimeoutMs before.hookClassificationTimeoutMs
    after.hookClassificationTimeoutMs payload.hookClassificationTimeoutMs
  printEnabled : SettledSetting false before.printEnabled after.printEnabled payload.printEnabled
  printXpsTimeoutMs : SettledSetting defaultTimeoutMs before.printXpsTimeoutMs
    after.printXpsTimeoutMs payload.printXpsTimeoutMs
  printUnclassifiableAction : SettledText defaultPrintUnclassifiableAction
    before.printUnclassifiableAction after.printUnclassifiableAction
    payload.printUnclassifiableAction
  printMaxPages : SettledSetting defaultPrintMaxPages before.printMaxPages after.printMaxPages
    payload.printMaxPages
  allowlistVersion : after.allowlistVersion = payload.allowlistVersion
  /-- New entries come with a new version, without those that are not valid. -/
  allowlistEntries : after.allowlistEntries =
    if before.allowlistVersion ≠ payload.allowlistVersion then
      payload.allowlistEntries.filterMap validEntry
    else before.allowlistEntries
  protectedPaths : after.protectedPaths = payload.protectedPaths
  globalMode : after.globalMode = parseGlobalMode payload.globalEnforcementMode

/-- The payload changes nothing, stages nothing, and does not restart the DACL watcher. -/
structure ChangesNothing (config : AgentConfig) (payload : AgentConfigPayload) : Prop where
  changedFields : (applyPayloadToConfig config payload).changedFields = []
  diskMergeData : (applyPayloadToConfig config payload).diskMergeData = none
  additions : (applyPayloadToConfig config payload).additions = []
  removals : (applyPayloadToConfig config payload).removals = []
  unchanged : (applyPayloadToConfig config payload).config = config
  watcher : signalsDaclReinit (applyPayloadToConfig config payload).changedFields = false

/-- A payload is applied as a whole, and once and for all. -/
def AppliesExactly (config : AgentConfig) (payload : AgentConfigPayload) : Prop :=
  AgreesWith config (applyPayloadToConfig config payload).config payload ∧
    ChangesNothing (applyPayloadToConfig config payload).config payload

theorem changesNothing_again (config : AgentConfig) (payload : AgentConfigPayload) :
    ChangesNothing (applyPayloadToConfig config payload).config payload := by
  have fields : (applyPayloadToConfig (applyPayloadToConfig config payload).config
      payload).changedFields = [] := by
    simp only [applyPayloadToConfig, replaceField_again, replaceSetting_again, replaceText_again]
    rfl
  constructor
  · exact fields
  · simp only [applyPayloadToConfig, replaceField_again]
    rfl
  · simp only [applyPayloadToConfig, replaceField_again]
    rfl
  · simp only [applyPayloadToConfig, replaceField_again]
    rfl
  · exact applyPayloadToConfig_unchanged fields
  · rw [fields]
    rfl

/-- A payload is applied exactly if the three settings that nothing takes over have the pushed
values already. -/
theorem appliesExactly_iff (config : AgentConfig) (payload : AgentConfigPayload) :
    AppliesExactly config payload ↔
      config.cloudHookEnabled.getD false = payload.cloudHookEnabled ∧
        config.wfpFilterEnabled.getD false = payload.wfpFilterEnabled ∧
        config.hookClassificationTimeoutMs.getD defaultTimeoutMs =
          payload.hookClassificationTimeoutMs := by
  constructor
  · rintro ⟨agrees, -⟩
    exact ⟨(settledSetting_self_iff _ _ _).mp agrees.cloudHookEnabled,
      (settledSetting_self_iff _ _ _).mp agrees.wfpFilterEnabled,
      (settledSetting_self_iff _ _ _).mp agrees.hookClassificationTimeoutMs⟩
  · rintro ⟨cloudHook, wfpFilter, hookTimeout⟩
    constructor
    · exact {
        monitoredPaths := replaceField_fst _ _
        excludedPaths := replaceField_fst _ _
        heartbeatIntervalSecs := replaceField_fst _ _
        offlineCacheEnabled := replaceField_fst _ _
        ldapConfig := replaceField_fst _ _
        diskAllowlist := replaceField_fst _ _
        usbBlockedFailureMode := settled_replaceText _ _ _
        usbStartupResolutionMode := settled_replaceText _ _ _
        usbNoneSerialPolicy := settled_replaceText _ _ _
        cloudHookEnabled := (settledSetting_self_iff _ _ _).mpr cloudHook
        wfpFilterEnabled := (settledSetting_self_iff _ _ _).mpr wfpFilter
        hookClassificationTimeoutMs := (settledSetting_self_iff _ _ _).mpr hookTimeout
        printEnabled := settled_replaceSetting _ _ _
        printXpsTimeoutMs := settled_replaceSetting _ _ _
        printUnclassifiableAction := settled_replaceText _ _ _
        printMaxPages := settled_replaceSetting _ _ _
        allowlistVersion := replaceField_fst _ _
        allowlistEntries := by
          simp only [applyPayloadToConfig, replaceField, takeOver_snd, decide_eq_true_eq]
        protectedPaths := replaceField_fst _ _
        globalMode := replaceField_fst _ _ }
    · exact changesNothing_again config payload

/-- A payload that turns the cloud hook on leaves a new agent without it. -/
theorem not_appliesExactly_cloudHook :
    ¬ AppliesExactly AgentConfig.default
      { AgentConfigPayload.default with cloudHookEnabled := true } := by
  rintro ⟨agrees, -⟩
  have settled := (settledSetting_self_iff _ _ _).mp agrees.cloudHookEnabled
  cases settled

end DlpSystem.Configs
