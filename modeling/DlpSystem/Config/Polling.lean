import DlpSystem.Lib.EventRun
import DlpSystem.Server.AgentConfigApi

/-!
# Polls of the configuration

An agent polls with the version of the allowlist it has, and the server answers
`304 Not Modified` if that is the largest version in its allowlist.  The payload has other
parts as well, so a poll is sure to bring what the server has only if every change of the
payload comes with a version that the agent does not have.
-/

namespace DlpSystem.Configs

open Agent (AgentConfig AppliedPayload applyPayloadToConfig AllowlistConfigEntry
  ProtectedPathConfig)
open Lib Server

/-! ## Runs of changes and polls -/

/-- What `do_poll` does with an answer: a `304` and an error change nothing. -/
def doPoll (config : AgentConfig) : Except AppError ConfigResponse → Option AppliedPayload
  | .ok (.json payload) => some (applyPayloadToConfig config payload.received)
  | _ => none

/-- The payload in an answer. -/
def sentPayload : Except AppError ConfigResponse → Option Server.AgentConfigPayload
  | .ok (.json payload) => some payload
  | _ => none

/-- The server, and an agent with the payload that it has applied last. -/
structure PolledServer where
  db : ConfigDb
  config : AgentConfig
  applied : Option Server.AgentConfigPayload

/-- The steps of a run. -/
inductive PollStep
  | change (change : AdminChange)
  | poll

section Run

variable (parsePaths : String → Option (List String)) (agentId : String)

/-- The answer to a poll: the agent sends the version of its configuration. -/
def PolledServer.answer (system : PolledServer) : Except AppError ConfigResponse :=
  getAgentConfigForAgent parsePaths noFailure system.db agentId
    (some system.config.allowlistVersion)

/-- One step. -/
def PolledServer.next (system : PolledServer) : PollStep → PolledServer
  | .change change => { system with db := system.db.commit change }
  | .poll =>
      let answer := system.answer parsePaths agentId
      { system with
        config := ((doPoll system.config answer).map AppliedPayload.config).getD system.config
        applied := (sentPayload answer).or system.applied }

/-- The agent has applied what the server would send, and its configuration is what that
leaves. -/
structure UpToDate (system : PolledServer) : Prop where
  applied : system.applied = some (system.db.currentPayload parsePaths agentId)
  config : ∃ before, system.config =
    (applyPayloadToConfig before (system.db.currentPayload parsePaths agentId).received).config

/-- The server answers `304` only to an agent that has applied what it would send. -/
def NotModifiedOnlyUpToDate (system : PolledServer) : Prop :=
  system.answer parsePaths agentId = .ok .notModified →
    system.applied = some (system.db.currentPayload parsePaths agentId)

end Run

/-! ## Changes that a poll brings -/

/-- The row as it is sent, with the time that breaks ties; a row that is not enabled is not
sent. -/
def sentRow (row : AllowlistEntryRow) : Option (String × AllowlistConfigEntry) :=
  if row.enabled ≠ 0 then some (row.createdAt, row.configEntry) else none

/-- A label that `sync_from_labels` has nothing to do for: its path is there, and was added
by hand or has the tier of the label or the stricter one. -/
def LabelCovered (sent : List ProtectedPathConfig) (label : SyncedLabel) : Prop :=
  ∃ existing ∈ sent.find? fun entry => entry.path = label.path,
    existing.source = "manual" ∨
      existing.source = "auto" ∧
        (existing.tier = label.tier ∨
          ∀ entry ∈ sent, entry.path = label.path → entry.tier = "T4")

/-- The change leaves the rows that the agent is sent and the largest version as they are. -/
def LeavesSent (parsePaths : String → Option (List String)) (agentId : String) (db : ConfigDb) :
    AdminChange → Prop
  | .createAllowlist row =>
      (∃ stored ∈ db.allowlistEntries, stored.id = row.id) ∨
        row.enabled = 0 ∧ 1 ≤ db.currentVersion
  | .updateAllowlist row =>
      ∀ stored ∈ db.allowlistEntries, stored.id = row.id →
        stored.version ≠ db.currentVersion ∧ sentRow (stored.updatedTo row) = sentRow stored
  | .disableAllowlist id _ =>
      ∀ stored ∈ db.allowlistEntries, stored.id = id →
        stored.version ≠ db.currentVersion ∧ stored.enabled = 0
  | .deleteAllowlist id =>
      ∀ stored ∈ db.allowlistEntries, stored.id = id →
        stored.enabled = 0 ∧
          ∃ other ∈ db.allowlistEntries, other.id ≠ id ∧ other.version = db.currentVersion
  | .insertDiskRegistry row => row.agentId ≠ agentId ∨ db.RefusesDisk row
  | .deleteDiskRegistry id => ∀ row ∈ db.diskRegistry, row.id = id → row.agentId ≠ agentId
  | .updateGlobalAgentConfig row =>
      db.agentConfigOverrides agentId ≠ none ∨
        row.settings parsePaths = db.globalAgentConfig.settings parsePaths
  | .updateAgentConfigOverride agent row =>
      agent ≠ agentId ∨ row.settings parsePaths = (db.configRowOf agentId).settings parsePaths
  | .deleteAgentConfigOverride agent =>
      agent ≠ agentId ∨
        db.globalAgentConfig.settings parsePaths = (db.configRowOf agentId).settings parsePaths
  | .createProtectedPath row => db.RefusesPath row
  | .updateProtectedPath row =>
      db.RefusesPathUpdate row ∨
        ∀ stored ∈ db.protectedPaths, stored.id = row.id → row.configEntry = stored.configEntry
  | .deleteProtectedPath id => ∀ stored ∈ db.protectedPaths, stored.id ≠ id
  | .syncProtectedPaths labels =>
      labels.foldlM ConfigDb.syncLabel db.protectedPaths = none ∨
        ∀ label ∈ labels,
          LabelCovered (db.protectedPaths.map ProtectedPathRow.configEntry) label
  | .updateGlobalEnforcementMode mode =>
      mode = db.globalEnforcementMode.getD defaultGlobalEnforcementMode

/-- The condition on a step.  A change that meets an agent with an applied payload leaves what
the agent is sent, or it leaves a largest version that is not the version of the agent; and the
version of an agent that has applied nothing is not the version of the server when it polls. -/
def StepAnnounced (parsePaths : String → Option (List String)) (agentId : String)
    (system : PolledServer) : PollStep → Prop
  | .change change =>
      system.applied = none ∨ LeavesSent parsePaths agentId system.db change ∨
        (system.db.commit change).currentVersion ≠ system.config.allowlistVersion
  | .poll => system.applied = none → system.config.allowlistVersion ≠ system.db.currentVersion

/-! ## The largest version -/

theorem le_currentVersion {db : ConfigDb} {row : AllowlistEntryRow}
    (member : row ∈ db.allowlistEntries) : row.version ≤ db.currentVersion := by
  have versionMember : row.version ∈ db.allowlistEntries.map AllowlistEntryRow.version :=
    List.mem_map_of_mem member
  cases largest : (db.allowlistEntries.map AllowlistEntryRow.version).max? with
  | none =>
      rw [List.max?_eq_none_iff] at largest
      rw [largest] at versionMember
      cases versionMember
  | some version =>
      rw [ConfigDb.currentVersion, largest]
      exact (List.max?_eq_some_iff.mp largest).2 _ versionMember

theorem currentVersion_eq {db : ConfigDb} {row : AllowlistEntryRow}
    (member : row ∈ db.allowlistEntries)
    (largest : ∀ other ∈ db.allowlistEntries, other.version ≤ row.version) :
    db.currentVersion = row.version := by
  have found : (db.allowlistEntries.map AllowlistEntryRow.version).max? = some row.version := by
    rw [List.max?_eq_some_iff]
    constructor
    · exact List.mem_map_of_mem member
    · intro version versionMember
      obtain ⟨other, otherMember, rfl⟩ := List.mem_map.mp versionMember
      exact largest other otherMember
  rw [ConfigDb.currentVersion, found]
  rfl

/-- A row with the largest version, where there is a row at all. -/
theorem exists_newest {db : ConfigDb} (some : db.allowlistEntries ≠ []) :
    ∃ row ∈ db.allowlistEntries, row.version = db.currentVersion := by
  cases largest : (db.allowlistEntries.map AllowlistEntryRow.version).max? with
  | none =>
      rw [List.max?_eq_none_iff, List.map_eq_nil_iff] at largest
      exact (some largest).elim
  | some version =>
      obtain ⟨row, member, same⟩ := List.mem_map.mp (List.max?_eq_some_iff.mp largest).1
      refine ⟨row, member, ?_⟩
      rw [same, ConfigDb.currentVersion, largest]
      rfl

/-- A change of rows that makes their versions one larger leaves the largest version if none
of them has it. -/
theorem currentVersion_changeAllowlist {db : ConfigDb} {id : String}
    {change : AllowlistEntryRow → AllowlistEntryRow}
    (bumps : ∀ row, (change row).version = row.version + 1)
    (older : ∀ stored ∈ db.allowlistEntries, stored.id = id →
      stored.version ≠ db.currentVersion) :
    (db.changeAllowlist id change).currentVersion = db.currentVersion := by
  by_cases empty : db.allowlistEntries = []
  · simp [ConfigDb.currentVersion, ConfigDb.changeAllowlist, empty]
  · obtain ⟨newest, member, largest⟩ := exists_newest empty
    have elsewhere : newest.id ≠ id := fun here => older newest member here largest
    rw [← largest]
    apply currentVersion_eq
    · exact List.mem_map.mpr ⟨newest, member, if_neg elsewhere⟩
    · intro other otherMember
      obtain ⟨stored, storedMember, rfl⟩ := List.mem_map.mp otherMember
      have small := le_currentVersion storedMember
      split
      · rename_i here
        rw [bumps, largest]
        exact Int.add_one_le_iff.mpr (lt_of_le_of_ne small (older stored storedMember here))
      · rw [largest]
        exact small

/-! ## What the agent is sent of the tables -/

/-- The parts of the tables that the payload of an agent is made from. -/
structure AgentView where
  version : Int
  entries : List (String × AllowlistConfigEntry)
  disks : List DiskRegistryRow
  settings : AgentSettings
  paths : List ProtectedPathConfig
  mode : String

section View

variable (parsePaths : String → Option (List String)) (agentId : String)

/-- The view of an agent. -/
def viewOf (db : ConfigDb) : AgentView where
  version := db.currentVersion
  entries := db.allowlistEntries.filterMap sentRow
  disks := db.diskRegistry.filter fun row => row.agentId = agentId
  settings := (db.configRowOf agentId).settings parsePaths
  paths := db.protectedPaths.map ProtectedPathRow.configEntry
  mode := db.globalEnforcementMode.getD defaultGlobalEnforcementMode

/-- The payload by the view. -/
def AgentView.payload (view : AgentView) : Server.AgentConfigPayload where
  toAgentSettings := view.settings
  diskAllowlist :=
    (sortAscending DiskRegistryRow.registeredAt view.disks).map diskRowToIdentity
  allowlistEntries :=
    (sortAscending (fun sent => toLex (sent.2.priority, sent.1)) view.entries).map Prod.snd
  allowlistVersion := view.version
  protectedPaths := sortAscending ProtectedPathConfig.path view.paths
  globalEnforcementMode := view.mode

theorem filter_map_eq_sentRow (rows : List AllowlistEntryRow) :
    (rows.filter fun row => row.enabled ≠ 0).map AllowlistEntryRow.configEntry =
      (rows.filterMap sentRow).map Prod.snd := by
  induction rows with
  | nil => rfl
  | cons row rows ih =>
      by_cases disabled : row.enabled = 0
      · simpa [sentRow, disabled] using ih
      · simpa [sentRow, disabled] using ih

theorem currentPayload_eq_view (db : ConfigDb) :
    db.currentPayload parsePaths agentId = (viewOf parsePaths agentId db).payload := by
  have entries : (db.listAllowlist.filter fun row => row.enabled ≠ 0).map
      AllowlistEntryRow.configEntry =
        (sortAscending (fun sent => toLex (sent.2.priority, sent.1))
          (db.allowlistEntries.filterMap sentRow)).map Prod.snd := by
    rw [filter_map_eq_sentRow, ConfigDb.listAllowlist, filterMap_sortAscending]
    intro row sent kept
    unfold sentRow at kept
    split at kept
    · cases kept
      rfl
    · cases kept
  have paths : db.listProtectedPaths.map ProtectedPathRow.configEntry =
      sortAscending ProtectedPathConfig.path
        (db.protectedPaths.map ProtectedPathRow.configEntry) := by
    rw [ConfigDb.listProtectedPaths, ← List.filterMap_eq_map, filterMap_sortAscending]
    intro row sent kept
    cases kept
    rfl
  simp only [ConfigDb.currentPayload, payloadFrom, readOr, noFailure, Bool.false_eq_true,
    if_false, entries, paths, AgentView.payload, viewOf, ConfigDb.listByAgent]

end View

/-! ## Changes that leave what the agent is sent -/

section Changes

variable {parsePaths : String → Option (List String)} {agentId : String} {db : ConfigDb}

/-- A change of the allowlist leaves the rest of the view. -/
theorem viewOf_eq_of_allowlist {rows : List AllowlistEntryRow}
    (version : { db with allowlistEntries := rows }.currentVersion = db.currentVersion)
    (entries : rows.filterMap sentRow = db.allowlistEntries.filterMap sentRow) :
    viewOf parsePaths agentId { db with allowlistEntries := rows } =
      viewOf parsePaths agentId db := by
  unfold viewOf
  rw [version, entries]
  rfl

/-- A change of the protected paths leaves the rest of the view. -/
theorem viewOf_eq_of_paths {rows : List ProtectedPathRow}
    (paths : rows.map ProtectedPathRow.configEntry =
      db.protectedPaths.map ProtectedPathRow.configEntry) :
    viewOf parsePaths agentId { db with protectedPaths := rows } =
      viewOf parsePaths agentId db := by
  unfold viewOf
  rw [paths]
  rfl

theorem createAllowlist_leaves {row : AllowlistEntryRow}
    (leaves : LeavesSent parsePaths agentId db (.createAllowlist row)) :
    viewOf parsePaths agentId (db.commit (.createAllowlist row)) =
      viewOf parsePaths agentId db := by
  rw [ConfigDb.commit, ConfigDb.insertAllowlist]
  split
  · rfl
  · rename_i fresh
    obtain ⟨disabled, positive⟩ := leaves.resolve_left fresh
    apply viewOf_eq_of_allowlist
    · -- The largest version is 1 at least, so there is a row that has it.
      have nonempty : db.allowlistEntries ≠ [] := by
        intro empty
        rw [ConfigDb.currentVersion, empty] at positive
        revert positive
        decide
      obtain ⟨newest, member, largest⟩ := exists_newest nonempty
      rw [← largest]
      apply currentVersion_eq
      · exact List.mem_append_left _ member
      · intro other otherMember
        rw [largest]
        rcases List.mem_append.mp otherMember with old | new
        · exact le_currentVersion old
        · rw [List.mem_singleton.mp new]
          exact positive
    · simp [sentRow, disabled]

theorem changeAllowlist_leaves {id : String} {change : AllowlistEntryRow → AllowlistEntryRow}
    (bumps : ∀ row, (change row).version = row.version + 1)
    (leaves : ∀ stored ∈ db.allowlistEntries, stored.id = id →
      stored.version ≠ db.currentVersion ∧ sentRow (change stored) = sentRow stored) :
    viewOf parsePaths agentId (db.changeAllowlist id change) = viewOf parsePaths agentId db := by
  apply viewOf_eq_of_allowlist
  · exact currentVersion_changeAllowlist bumps fun stored member here =>
      (leaves stored member here).1
  · rw [List.filterMap_map]
    apply List.filterMap_congr
    intro stored member
    rw [Function.comp_apply]
    split
    · rename_i here
      exact (leaves stored member here).2
    · rfl

theorem deleteAllowlist_leaves {id : String}
    (leaves : LeavesSent parsePaths agentId db (.deleteAllowlist id)) :
    viewOf parsePaths agentId (db.deleteAllowlist id) = viewOf parsePaths agentId db := by
  by_cases present : ∃ stored ∈ db.allowlistEntries, stored.id = id
  · obtain ⟨stored, member, here⟩ := present
    obtain ⟨-, other, otherMember, elsewhere, largest⟩ := leaves stored member here
    apply viewOf_eq_of_allowlist
    · rw [← largest]
      apply currentVersion_eq
      · exact List.mem_filter.mpr ⟨otherMember, by simpa using elsewhere⟩
      · intro row rowMember
        rw [largest]
        exact le_currentVersion (List.mem_filter.mp rowMember).1
    · rw [List.filterMap_filter]
      apply List.filterMap_congr
      intro row rowMember
      by_cases deleted : row.id = id
      · simp [deleted, sentRow, (leaves row rowMember deleted).1]
      · simp [deleted]
  · have kept : db.allowlistEntries.filter (fun stored => stored.id ≠ id) =
        db.allowlistEntries := by
      rw [List.filter_eq_self]
      intro row member
      simpa using fun here => present ⟨row, member, here⟩
    rw [ConfigDb.deleteAllowlist, kept]

theorem insertDisk_leaves {row : DiskRegistryRow}
    (leaves : LeavesSent parsePaths agentId db (.insertDiskRegistry row)) :
    viewOf parsePaths agentId (db.insertDisk row) = viewOf parsePaths agentId db := by
  rw [ConfigDb.insertDisk]
  split
  · rfl
  · rename_i accepted
    have other : row.agentId ≠ agentId := leaves.resolve_right accepted
    simp [viewOf, other, ConfigDb.currentVersion, ConfigDb.configRowOf]

theorem deleteDisk_leaves {id : String}
    (leaves : LeavesSent parsePaths agentId db (.deleteDiskRegistry id)) :
    viewOf parsePaths agentId (db.deleteDisk id) = viewOf parsePaths agentId db := by
  have disks : (db.diskRegistry.filter fun row => row.id ≠ id).filter
      (fun row => row.agentId = agentId) =
        db.diskRegistry.filter fun row => row.agentId = agentId := by
    rw [List.filter_filter]
    apply List.filter_congr
    intro row member
    by_cases deleted : row.id = id
    · simp [deleted, leaves row member deleted]
    · simp [deleted]
  unfold viewOf ConfigDb.deleteDisk
  rw [disks]
  rfl

/-- A change of the configuration rows leaves the rest of the view. -/
theorem viewOf_eq_of_settings {globalRow : AgentConfigRow}
    {overrides : String → Option AgentConfigRow}
    (settings : ((overrides agentId).getD globalRow).settings parsePaths =
      (db.configRowOf agentId).settings parsePaths) :
    viewOf parsePaths agentId
        { db with globalAgentConfig := globalRow, agentConfigOverrides := overrides } =
      viewOf parsePaths agentId db := by
  simp only [viewOf, ConfigDb.configRowOf] at settings ⊢
  rw [settings]
  rfl

/-- A label that is covered leaves what is sent of the protected paths. -/
theorem syncLabel_covered {rows after : List ProtectedPathRow} {label : SyncedLabel}
    (covered : LabelCovered (rows.map ProtectedPathRow.configEntry) label)
    (synced : ConfigDb.syncLabel rows label = some after) :
    after.map ProtectedPathRow.configEntry = rows.map ProtectedPathRow.configEntry := by
  obtain ⟨entry, entryFound, reason⟩ := covered
  rw [List.find?_map] at entryFound
  obtain ⟨existing, found, rfl⟩ := Option.mem_map.mp entryFound
  have found' : (rows.find? fun row => row.path = label.path) = some existing := found
  rw [ConfigDb.syncLabel, found'] at synced
  dsimp only at synced
  split at synced
  · cases synced
    rfl
  · rename_i notManual
    obtain ⟨auto, tier⟩ := reason.resolve_left notManual
    have auto' : existing.source = "auto" := auto
    rw [if_pos auto'] at synced
    split at synced
    · cases synced
      rfl
    · rename_i otherTier
      cases synced
      have strict := tier.resolve_left otherTier
      have here : existing.path = label.path := by
        simpa using List.find?_some found'
      have existingStrict : existing.tier = "T4" :=
        strict existing.configEntry (List.mem_map_of_mem (List.mem_of_find?_eq_some found')) here
      rw [List.map_map]
      apply List.map_congr_left
      intro row member
      rw [Function.comp_apply]
      split
      · rename_i here
        have rowStrict : row.tier = "T4" :=
          strict row.configEntry (List.mem_map_of_mem member) here
        simp [ProtectedPathRow.configEntry, stricterTier, existingStrict, rowStrict]
      · rfl

/-- The loop of `sync_from_labels` over labels that are covered. -/
theorem foldlM_syncLabel_covered {labels : List SyncedLabel} {rows after : List ProtectedPathRow}
    (covered : ∀ label ∈ labels, LabelCovered (rows.map ProtectedPathRow.configEntry) label)
    (synced : labels.foldlM ConfigDb.syncLabel rows = some after) :
    after.map ProtectedPathRow.configEntry = rows.map ProtectedPathRow.configEntry := by
  induction labels generalizing rows with
  | nil =>
      cases synced
      rfl
  | cons label labels ih =>
      rw [List.foldlM_cons] at synced
      obtain ⟨between, first, rest⟩ := Option.bind_eq_some_iff.mp synced
      have same := syncLabel_covered (covered label List.mem_cons_self) first
      rw [← same]
      apply ih ?_ rest
      intro later member
      rw [same]
      exact covered later (List.mem_cons_of_mem label member)

theorem syncFromLabels_leaves {labels : List SyncedLabel}
    (leaves : LeavesSent parsePaths agentId db (.syncProtectedPaths labels)) :
    viewOf parsePaths agentId (db.syncFromLabels labels) = viewOf parsePaths agentId db := by
  rw [ConfigDb.syncFromLabels]
  split
  · rename_i rows synced
    apply viewOf_eq_of_paths
    have covered := leaves.resolve_left (by rw [synced]; exact Option.some_ne_none rows)
    exact foldlM_syncLabel_covered covered synced
  · rfl

theorem updateProtectedPath_leaves {row : ProtectedPathRow}
    (leaves : LeavesSent parsePaths agentId db (.updateProtectedPath row)) :
    viewOf parsePaths agentId (db.updateProtectedPath row) = viewOf parsePaths agentId db := by
  rw [ConfigDb.updateProtectedPath]
  split
  · rfl
  · rename_i accepted
    have same := leaves.resolve_left accepted
    apply viewOf_eq_of_paths
    rw [List.map_map]
    apply List.map_congr_left
    intro stored member
    rw [Function.comp_apply]
    split
    · rename_i here
      exact same stored member here
    · rfl

theorem deleteProtectedPath_leaves {id : String}
    (leaves : LeavesSent parsePaths agentId db (.deleteProtectedPath id)) :
    viewOf parsePaths agentId (db.deleteProtectedPath id) = viewOf parsePaths agentId db := by
  have kept : db.protectedPaths.filter (fun stored => stored.id ≠ id) = db.protectedPaths := by
    rw [List.filter_eq_self]
    intro row member
    simpa using leaves row member
  rw [ConfigDb.deleteProtectedPath, kept]

/-- A change that leaves the rows that the agent is sent leaves its view. -/
theorem viewOf_commit {change : AdminChange}
    (leaves : LeavesSent parsePaths agentId db change) :
    viewOf parsePaths agentId (db.commit change) = viewOf parsePaths agentId db := by
  cases change with
  | createAllowlist row => exact createAllowlist_leaves leaves
  | updateAllowlist row => exact changeAllowlist_leaves (fun _ => rfl) leaves
  | disableAllowlist id now =>
      apply changeAllowlist_leaves (fun _ => rfl)
      intro stored member here
      obtain ⟨older, disabled⟩ := leaves stored member here
      exact ⟨older, by simp [sentRow, AllowlistEntryRow.enabledTo, disabled]⟩
  | deleteAllowlist id => exact deleteAllowlist_leaves leaves
  | insertDiskRegistry row => exact insertDisk_leaves leaves
  | deleteDiskRegistry id => exact deleteDisk_leaves leaves
  | updateGlobalAgentConfig row =>
      apply viewOf_eq_of_settings
      rw [ConfigDb.configRowOf]
      cases override : db.agentConfigOverrides agentId with
      | some own => rfl
      | none => exact leaves.resolve_left (by simp [override])
  | updateAgentConfigOverride agent row =>
      apply viewOf_eq_of_settings
      by_cases other : agentId = agent
      · rw [if_pos other]
        exact leaves.resolve_left (by simp [other])
      · rw [if_neg other]
        rfl
  | deleteAgentConfigOverride agent =>
      apply viewOf_eq_of_settings
      by_cases other : agentId = agent
      · rw [if_pos other]
        exact leaves.resolve_left (by simp [other])
      · rw [if_neg other]
        rfl
  | createProtectedPath row =>
      have refused : db.RefusesPath row := leaves
      rw [ConfigDb.commit, ConfigDb.insertProtectedPath, if_pos refused]
  | updateProtectedPath row => exact updateProtectedPath_leaves leaves
  | deleteProtectedPath id => exact deleteProtectedPath_leaves leaves
  | syncProtectedPaths labels => exact syncFromLabels_leaves leaves
  | updateGlobalEnforcementMode mode =>
      have same : mode = db.globalEnforcementMode.getD defaultGlobalEnforcementMode := leaves
      simp [viewOf, ConfigDb.commit, ConfigDb.setGlobalEnforcementMode, same,
        ConfigDb.currentVersion, ConfigDb.configRowOf]

end Changes

/-! ## Runs -/

section Runs

variable {parsePaths : String → Option (List String)} {agentId : String}
  {system : PolledServer} {steps : List PollStep}

/-- What an agent has applied leaves its configuration, and is what the server would send
unless the server has another version by now. -/
structure AppliedBehind (parsePaths : String → Option (List String)) (agentId : String)
    (system : PolledServer) (payload : Server.AgentConfigPayload) : Prop where
  config : ∃ before, system.config = (applyPayloadToConfig before payload.received).config
  current : payload = system.db.currentPayload parsePaths agentId ∨
    system.db.currentVersion ≠ system.config.allowlistVersion

/-- The invariant of the runs that meet the condition. -/
def NothingMissed (parsePaths : String → Option (List String)) (agentId : String)
    (system : PolledServer) : Prop :=
  ∀ payload ∈ system.applied, AppliedBehind parsePaths agentId system payload

theorem answer_eq :
    system.answer parsePaths agentId =
      if system.config.allowlistVersion = system.db.currentVersion then .ok .notModified
      else .ok (.json (system.db.currentPayload parsePaths agentId)) := by
  rw [PolledServer.answer, getAgentConfigForAgent_noFailure]
  simp only [Option.some.injEq]

/-- A poll under the version of the server meets an agent that has its payload. -/
theorem NothingMissed.upToDate (missed : NothingMissed parsePaths agentId system)
    (announced : StepAnnounced parsePaths agentId system .poll)
    (same : system.config.allowlistVersion = system.db.currentVersion) :
    UpToDate parsePaths agentId system := by
  cases applied : system.applied with
  | none => exact (announced applied same).elim
  | some payload =>
      have behind := missed payload applied
      have current : payload = system.db.currentPayload parsePaths agentId :=
        behind.current.resolve_right fun other => other same.symm
      subst current
      exact ⟨applied, behind.config⟩

/-- A poll that meets the condition leaves the agent up to date. -/
theorem upToDate_poll (missed : NothingMissed parsePaths agentId system)
    (announced : StepAnnounced parsePaths agentId system .poll) :
    UpToDate parsePaths agentId (system.next parsePaths agentId .poll) := by
  rw [PolledServer.next, answer_eq]
  split
  · rename_i same
    exact missed.upToDate announced same
  · exact ⟨rfl, system.config, rfl⟩

theorem nothingMissed_next {step : PollStep} (missed : NothingMissed parsePaths agentId system)
    (announced : StepAnnounced parsePaths agentId system step) :
    NothingMissed parsePaths agentId (system.next parsePaths agentId step) := by
  cases step with
  | poll =>
      have upToDate := upToDate_poll missed announced
      intro payload applied
      rw [upToDate.applied] at applied
      cases applied
      exact ⟨upToDate.config, .inl rfl⟩
  | change change =>
      intro payload applied
      have behind := missed payload applied
      refine ⟨behind.config, ?_⟩
      rcases announced with nothing | leaves | otherVersion
      · rw [PolledServer.next, nothing] at applied
        cases applied
      · have samePayload : (system.db.commit change).currentPayload parsePaths agentId =
            system.db.currentPayload parsePaths agentId := by
          rw [currentPayload_eq_view, currentPayload_eq_view, viewOf_commit leaves]
        have sameVersion := congrArg Server.AgentConfigPayload.allowlistVersion samePayload
        rw [currentPayload_allowlistVersion, currentPayload_allowlistVersion] at sameVersion
        rw [PolledServer.next, samePayload, sameVersion]
        exact behind.current
      · exact .inr otherVersion

/-- In every run whose steps meet the condition, from any tables and any configuration of an
agent that has applied nothing yet, the server answers `304` only to an agent that has applied
what it would send, and after every poll the agent is up to date. -/
theorem polls_bring_every_change (db : ConfigDb) (config : AgentConfig)
    (announced : Each (PolledServer.next parsePaths agentId) (StepAnnounced parsePaths agentId)
      ⟨db, config, none⟩ steps)
    (before after : List PollStep) (cut : steps = before ++ .poll :: after) :
    NotModifiedOnlyUpToDate parsePaths agentId
        (before.foldl (PolledServer.next parsePaths agentId) ⟨db, config, none⟩) ∧
      UpToDate parsePaths agentId
        ((before ++ [PollStep.poll]).foldl (PolledServer.next parsePaths agentId)
          ⟨db, config, none⟩) := by
  subst cut
  obtain ⟨first, polled, -⟩ := (each_append _ before (PollStep.poll :: after)).mp announced
  have missed : NothingMissed parsePaths agentId
      (before.foldl (PolledServer.next parsePaths agentId) ⟨db, config, none⟩) := by
    apply first.invariant fun _ _ missed announced => nothingMissed_next missed announced
    rintro payload ⟨⟩
  constructor
  · intro notModified
    rw [answer_eq] at notModified
    split at notModified
    · rename_i same
      exact (missed.upToDate polled same).applied
    · cases notModified
  · rw [List.foldl_append]
    exact upToDate_poll missed polled

end Runs

/-! ## A run that a poll brings up to date, and one that it does not -/

/-- Reads the empty array. -/
def sampleParsePaths (text : String) : Option (List String) :=
  if text = "[]" then some [] else none

/-- The row that the schema gives `global_agent_config`. -/
def seededConfigRow : AgentConfigRow where
  monitoredPaths := "[]"
  excludedPaths := "[]"
  heartbeatIntervalSecs := 30
  offlineCacheEnabled := 1
  usbBlockedFailureMode := "Warning only"
  usbStartupResolutionMode := "VID/PID/serial fallback"
  usbNoneSerialPolicy := "Always Blocked"
  cloudHookEnabled := 0
  printEnabled := 0
  printXpsTimeoutMs := 5000
  printUnclassifiableAction := "Block"
  printMaxPages := 100

/-- An entry of the allowlist. -/
def sampleEntry : AllowlistEntryRow where
  id := "e1"
  matchType := "path_prefix"
  value := "C:\\Tools\\"
  description := ""
  category := "operator_defined"
  priority := 100
  enabled := 1
  version := 1
  createdAt := "2025-01-01T00:00:00Z"
  updatedAt := "2025-01-01T00:00:00Z"

/-- A protected path. -/
def samplePath : ProtectedPathRow where
  id := "p1"
  path := "C:\\Data"
  source := "manual"
  isOverride := false
  tier := "T4"
  labelId := none
  createdAt := "2025-01-01T00:00:00Z"
  updatedAt := "2025-01-01T00:00:00Z"

/-- Tables with an allowlist and one protected path. -/
def sampleDb (allowlistEntries : List AllowlistEntryRow) : ConfigDb where
  allowlistEntries := allowlistEntries
  diskRegistry := []
  globalAgentConfig := seededConfigRow
  agentConfigOverrides := fun _ => none
  protectedPaths := [samplePath]
  globalEnforcementMode := some "PerPolicy"

theorem polls_bring_every_change_first_entry :
    let steps : List PollStep :=
      [.change (.createAllowlist sampleEntry), .poll,
        .change (.updateAllowlist { sampleEntry with enabled := 0 }), .poll]
    Each (PolledServer.next sampleParsePaths "agent") (StepAnnounced sampleParsePaths "agent")
        ⟨sampleDb [], .default, none⟩ steps ∧
      UpToDate sampleParsePaths "agent"
        (steps.foldl (PolledServer.next sampleParsePaths "agent")
          ⟨sampleDb [], .default, none⟩) := by
  intro steps
  have announced : Each (PolledServer.next sampleParsePaths "agent")
      (StepAnnounced sampleParsePaths "agent") ⟨sampleDb [], .default, none⟩ steps := by
    refine ⟨?_, ?_, ?_, ?_, trivial⟩
    · exact .inl rfl
    · exact fun _ => by decide
    · exact .inr (.inr (by decide))
    · rintro ⟨⟩
  exact ⟨announced, (polls_bring_every_change _ _ announced (steps.take 3) [] rfl).2⟩

/-- The agent has applied a payload with the protected path.  The path is deleted, and the
server answers the next poll with `304`. -/
theorem deleted_path_not_modified :
    ¬NotModifiedOnlyUpToDate sampleParsePaths "agent"
      ([PollStep.poll, .change (.deleteProtectedPath "p1")].foldl
        (PolledServer.next sampleParsePaths "agent") ⟨sampleDb [sampleEntry], .default, none⟩) := by
  intro claim
  have applied := Option.some.inj (claim rfl)
  have paths := congrArg Server.AgentConfigPayload.protectedPaths applied
  cases paths

end DlpSystem.Configs
