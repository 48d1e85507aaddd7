import DlpSystem.Config.Polling

/-!
# Reads that fail behind a payload

`get_agent_config_for_agent` returns an error only where it cannot read the configuration row
of the agent.  Every other read that fails is sent as an empty list, as the version 0 or as
the mode `PerPolicy`.
-/

namespace DlpSystem.Configs

open Agent (AgentConfig applyPayloadToConfig)
open Lib Server

section Failures

variable (parsePaths : String → Option (List String)) (failed : ConfigRead → Bool)
  (db : ConfigDb) (agentId : String) (ifNoneMatch : Option Int)

/-- The handler returns an error or what it returns when no read fails; and an agent applies
nothing or what it would have applied. -/
structure FailuresWithheld : Prop where
  answer :
    (∃ error, getAgentConfigForAgent parsePaths failed db agentId ifNoneMatch = .error error) ∨
      getAgentConfigForAgent parsePaths failed db agentId ifNoneMatch =
        getAgentConfigForAgent parsePaths noFailure db agentId ifNoneMatch
  applied : ∀ config,
    doPoll config (getAgentConfigForAgent parsePaths failed db agentId ifNoneMatch) = none ∨
      doPoll config (getAgentConfigForAgent parsePaths failed db agentId ifNoneMatch) =
        doPoll config (getAgentConfigForAgent parsePaths noFailure db agentId ifNoneMatch)

/-- The configuration row of the agent cannot be read. -/
def RowUnread : Prop :=
  failed .agentOverride = true ∨
    db.agentConfigOverrides agentId = none ∧ failed .globalConfig = true

/-- The lists and the mode whose reads fail have their defaults. -/
structure RestAtDefault : Prop where
  disks : failed .diskRegistry = true → ∀ row ∈ db.diskRegistry, row.agentId ≠ agentId
  entries : failed .allowlistEntries = true → ∀ row ∈ db.allowlistEntries, row.enabled = 0
  paths : failed .protectedPaths = true → db.protectedPaths = []
  mode : failed .globalMode = true →
    db.globalEnforcementMode.getD defaultGlobalEnforcementMode = defaultGlobalEnforcementMode

/-- The condition.  The configuration row cannot be read; or a version that cannot be read is
0, and the agent has the version of the server or what else cannot be read has its default. -/
def FailuresHarmless : Prop :=
  RowUnread failed db agentId ∨
    (failed .allowlistVersion = true → db.currentVersion = 0) ∧
      (ifNoneMatch = some db.currentVersion ∨ RestAtDefault failed db agentId)

end Failures

/-! ## Defaults in place of values -/

section Defaults

variable {parsePaths : String → Option (List String)} {failed : ConfigRead → Bool}
  {db : ConfigDb} {agentId : String} {ifNoneMatch : Option Int}

/-- What is made of a read is right if the read succeeds or the default gives the same. -/
theorem readOr_right_iff {α β : Type} (make : α → β) (read : ConfigRead) (standard value : α) :
    make (readOr failed read standard value) = make value ↔
      (failed read = true → make standard = make value) := by
  unfold readOr
  cases failed read with
  | true => simp
  | false => simp

theorem disks_default_iff :
    ([] : List DiskRegistryRow).map diskRowToIdentity =
        (db.listByAgent agentId).map diskRowToIdentity ↔
      ∀ row ∈ db.diskRegistry, row.agentId ≠ agentId := by
  rw [List.map_nil, eq_comm, List.map_eq_nil_iff, ConfigDb.listByAgent, sortAscending_eq_nil_iff,
    List.filter_eq_nil_iff]
  simp

theorem paths_default_iff :
    ([] : List ProtectedPathRow).map ProtectedPathRow.configEntry =
        db.listProtectedPaths.map ProtectedPathRow.configEntry ↔
      db.protectedPaths = [] := by
  rw [List.map_nil, eq_comm, List.map_eq_nil_iff, ConfigDb.listProtectedPaths,
    sortAscending_eq_nil_iff]

theorem entries_default_iff :
    (([] : List AllowlistEntryRow).filter fun row => row.enabled ≠ 0).map
          AllowlistEntryRow.configEntry =
        (db.listAllowlist.filter fun row => row.enabled ≠ 0).map AllowlistEntryRow.configEntry ↔
      ∀ row ∈ db.allowlistEntries, row.enabled = 0 := by
  rw [List.filter_nil, List.map_nil, eq_comm, List.map_eq_nil_iff, List.filter_eq_nil_iff,
    ConfigDb.listAllowlist]
  simp

@[simp]
theorem readOr_noFailure {α : Type} (read : ConfigRead) (standard value : α) :
    readOr noFailure read standard value = value :=
  rfl

theorem version_right_iff :
    readOr failed .allowlistVersion 0 db.currentVersion = db.currentVersion ↔
      (failed .allowlistVersion = true → db.currentVersion = 0) := by
  rw [eq_comm (a := db.currentVersion) (b := 0)]
  exact readOr_right_iff id .allowlistVersion 0 db.currentVersion

/-- The payload that failures leave is the right one. -/
theorem payloadFrom_eq_iff (row : AgentConfigRow) :
    payloadFrom parsePaths failed db agentId row =
        payloadFrom parsePaths noFailure db agentId row ↔
      (failed .allowlistVersion = true → db.currentVersion = 0) ∧
        RestAtDefault failed db agentId := by
  have disks := (readOr_right_iff (List.map diskRowToIdentity) .diskRegistry []
    (db.listByAgent agentId)).trans (imp_congr_right fun _ : failed .diskRegistry = true =>
      disks_default_iff)
  have entries := (readOr_right_iff
    (fun rows => (rows.filter fun row => row.enabled ≠ 0).map AllowlistEntryRow.configEntry)
    .allowlistEntries [] db.listAllowlist).trans
      (imp_congr_right fun _ : failed .allowlistEntries = true => entries_default_iff)
  have paths := (readOr_right_iff (List.map ProtectedPathRow.configEntry) .protectedPaths []
    db.listProtectedPaths).trans (imp_congr_right fun _ : failed .protectedPaths = true =>
      paths_default_iff)
  have mode := (readOr_right_iff (Option.getD · defaultGlobalEnforcementMode) .globalMode none
    db.globalEnforcementMode).trans (imp_congr_right fun _ : failed .globalMode = true => eq_comm)
  simp only [payloadFrom, AgentConfigPayload.mk.injEq, readOr_noFailure, true_and, disks, entries,
    version_right_iff, paths, mode]
  constructor
  · rintro ⟨disks, entries, version, paths, mode⟩
    exact ⟨version, disks, entries, paths, mode⟩
  · rintro ⟨version, disks, entries, paths, mode⟩
    exact ⟨disks, entries, version, paths, mode⟩

/-- The answer to a poll where the configuration row can be read. -/
theorem answer_of_readable (readable : ¬RowUnread failed db agentId) :
    getAgentConfigForAgent parsePaths failed db agentId ifNoneMatch =
      if ifNoneMatch = some (readOr failed .allowlistVersion 0 db.currentVersion) then
        .ok .notModified
      else .ok (.json (payloadFrom parsePaths failed db agentId (db.configRowOf agentId))) := by
  have row : readConfigRow failed db agentId = .ok (db.configRowOf agentId) := by
    rw [readConfigRow_eq]
    exact if_neg readable
  rw [getAgentConfigForAgent, row]
  rfl

/-- The answer that failures leave is the right one, where the configuration row can be
read. -/
theorem answer_eq_iff (readable : ¬RowUnread failed db agentId) :
    getAgentConfigForAgent parsePaths failed db agentId ifNoneMatch =
        getAgentConfigForAgent parsePaths noFailure db agentId ifNoneMatch ↔
      (failed .allowlistVersion = true → db.currentVersion = 0) ∧
        (ifNoneMatch = some db.currentVersion ∨ RestAtDefault failed db agentId) := by
  rw [answer_of_readable readable, getAgentConfigForAgent_noFailure]
  by_cases version : failed .allowlistVersion = true → db.currentVersion = 0
  · rw [version_right_iff.mpr version]
    by_cases polled : ifNoneMatch = some db.currentVersion
    · rw [if_pos polled, if_pos polled]
      exact iff_of_true rfl ⟨version, .inl polled⟩
    · rw [if_neg polled, if_neg polled, Except.ok.injEq, ConfigResponse.json.injEq,
        ConfigDb.currentPayload, payloadFrom_eq_iff]
      simp only [polled, false_or]
  · -- The versions differ, so the two answers do.
    have versions : readOr failed .allowlistVersion 0 db.currentVersion ≠ db.currentVersion :=
      fun same => version (version_right_iff.mp same)
    constructor
    · intro same
      exfalso
      split at same
      · rename_i polled
        rw [polled, if_neg (fun equal => versions (Option.some.inj equal))] at same
        cases same
      · split at same
        · cases same
        · have payloads := ConfigResponse.json.inj (Except.ok.inj same)
          exact versions (congrArg AgentConfigPayload.allowlistVersion payloads)
    · rintro ⟨right, -⟩
      exact (version right).elim

/-- What an agent applies follows from the answer. -/
theorem failuresWithheld_iff_answer :
    FailuresWithheld parsePaths failed db agentId ifNoneMatch ↔
      (∃ error, getAgentConfigForAgent parsePaths failed db agentId ifNoneMatch = .error error) ∨
        getAgentConfigForAgent parsePaths failed db agentId ifNoneMatch =
          getAgentConfigForAgent parsePaths noFailure db agentId ifNoneMatch := by
  constructor
  · exact FailuresWithheld.answer
  · intro answer
    refine ⟨answer, fun config => ?_⟩
    rcases answer with ⟨error, isError⟩ | same
    · left
      rw [isError]
      rfl
    · right
      rw [same]

end Defaults

/-- The failures of reads are withheld from an agent exactly under the condition. -/
theorem failures_withheld_iff (parsePaths : String → Option (List String))
    (failed : ConfigRead → Bool) (db : ConfigDb) (agentId : String) (ifNoneMatch : Option Int) :
    FailuresWithheld parsePaths failed db agentId ifNoneMatch ↔
      FailuresHarmless failed db agentId ifNoneMatch := by
  rw [failuresWithheld_iff_answer, FailuresHarmless]
  by_cases unread : RowUnread failed db agentId
  · have isError : getAgentConfigForAgent parsePaths failed db agentId ifNoneMatch =
        .error .database := by
      have row : readConfigRow failed db agentId = .error .database := by
        rw [readConfigRow_eq]
        exact if_pos unread
      rw [getAgentConfigForAgent, row]
    simp [isError, unread]
  · have noError : ¬∃ error, getAgentConfigForAgent parsePaths failed db agentId ifNoneMatch =
        .error error := by
      rintro ⟨error, isError⟩
      rw [answer_of_readable unread] at isError
      split at isError
      · cases isError
      · cases isError
    simp only [noError, unread, false_or, answer_eq_iff unread]

/-- The protected paths cannot be read.  The server sends none, and the agent stages the
removal of the one it has. -/
theorem unread_paths_removed :
    let failed : ConfigRead → Bool := fun read => read = .protectedPaths
    let db := sampleDb [{ sampleEntry with version := 2 }]
    let config : AgentConfig := { AgentConfig.default with
      allowlistVersion := 1
      protectedPaths := [samplePath.configEntry] }
    ¬FailuresWithheld sampleParsePaths failed db "agent" (some config.allowlistVersion) ∧
      (doPoll config (getAgentConfigForAgent sampleParsePaths failed db "agent"
        (some config.allowlistVersion))).map Agent.AppliedPayload.removals =
          some ["C:\\DATA\\"] := by
  intro failed db config
  constructor
  · intro withheld
    rcases withheld.answer with ⟨error, isError⟩ | same
    · cases isError
    · have payloads := ConfigResponse.json.inj (Except.ok.inj same)
      have paths := congrArg AgentConfigPayload.protectedPaths payloads
      cases paths
  · decide +kernel

end DlpSystem.Configs
