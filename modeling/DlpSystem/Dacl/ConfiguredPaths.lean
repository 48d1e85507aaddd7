import DlpSystem.Agent.AgentConfig
import DlpSystem.Agent.CanonicalPaths
import DlpSystem.Agent.DaclTripwire
import DlpSystem.Lib.EventRun
import Mathlib.Data.List.Dedup

/-!
# Configured paths and the removal task

A payload that adds a path again clears the row of its staged removal.  The removal task
reads the rows without the lock of the configuration: it lists the open ones and restores
their DACLs one after the other.  The machine has the statements of
`apply_payload_to_config` that touch the staging table or the protected paths, each with the
part of its work that the database does, and the steps of the removal task between them.
-/

namespace DlpSystem.Dacls

open Abac Agent Lib

/-- How far `apply_payload_to_config` has come.  The lock of the configuration is held until
the paths are taken over, so there is one payload at a time. -/
inductive PayloadStage
  | idle
  | cleared (payload : AgentConfigPayload)
  | staged (payload : AgentConfigPayload)
  deriving DecidableEq

/-- The payload that is being applied. -/
def PayloadStage.payload : PayloadStage → Option AgentConfigPayload
  | .idle => none
  | .cleared payload => some payload
  | .staged payload => some payload

/-- The configuration, the staging table and the removal task. -/
structure ProtectionAgent where
  config : AgentConfig
  table : StagingTable
  stage : PayloadStage
  /-- The snapshots of the registered watchers. -/
  snapshots : String → Option CanonicalAclSnapshot
  /-- The paths of the rows that the removal task has listed and not come to yet. -/
  listed : List String
  /-- The path whose snapshot is written back and whose row is not marked yet. -/
  removing : Option String

/-- The steps of a run.  `reached` are the paths whose statement the database executes: a
call that fails has executed some of them, and there may be no database at all. -/
inductive ProtectionStep
  | clearRows (payload : AgentConfigPayload) (reached : List String)
  | stageRows (now : Nat) (reached : List String)
  | takeOverPaths
  | watch (path : String) (snapshot : CanonicalAclSnapshot)
  | listRemovals (paths : List String)
  /-- The removal task comes to the next row; `written` says whether the DACL is written. -/
  | restoreRow (written : Bool)
  /-- The row is marked, if the database does it, and the watcher is unregistered. -/
  | finishRow (now : Nat) (marked : Bool)
  /-- The repair task marks a row as applied. -/
  | markRow (now : Nat) (path : String)
  | gcRows (now ttl : Nat)

namespace ProtectionAgent

/-- The protected paths of the configuration, normalized. -/
def configured (agent : ProtectionAgent) : List String :=
  normalizedPaths agent.config.protectedPaths

/-- The path on which the removal task calls `remove_tripwire_from_path` when it comes to the
next row. -/
def restoreTarget (agent : ProtectionAgent) : Option String :=
  match agent.removing, agent.listed with
  | none, rowPath :: _ =>
      match normalizeProtectedPath rowPath with
      | .error _ => none
      | .ok path => if (agent.snapshots path).isSome then some path else none
  | _, _ => none

def next (agent : ProtectionAgent) : ProtectionStep → ProtectionAgent
  | .clearRows payload reached =>
      if agent.stage = .idle then
        { agent with
          stage := .cleared payload
          table := agent.table.clearStagedRemovals
            ((applyPayloadToConfig agent.config payload).additions.filter (· ∈ reached)) }
      else agent
  | .stageRows now reached =>
      match agent.stage with
      | .cleared payload =>
          { agent with
            stage := .staged payload
            table := agent.table.stageRemovals now
              ((applyPayloadToConfig agent.config payload).removals.filter (· ∈ reached)) }
      | _ => agent
  | .takeOverPaths =>
      match agent.stage with
      | .staged payload =>
          { agent with
            stage := .idle
            config := (applyPayloadToConfig agent.config payload).config }
      | _ => agent
  | .watch path snapshot =>
      { agent with snapshots := Function.update agent.snapshots path (some snapshot) }
  | .listRemovals paths =>
      if agent.listed = [] ∧ agent.removing = none then
        { agent with
          listed := paths.filter fun path => (agent.table path).any StagingRow.isOpenRemoval }
      else agent
  | .restoreRow written =>
      match agent.removing with
      | none =>
          { agent with
            listed := agent.listed.tail
            removing := if written then agent.restoreTarget else none }
      | some _ => agent
  | .finishRow now marked =>
      match agent.removing with
      | none => agent
      | some path =>
          { agent with
            table := if marked then agent.table.markAppliedLocked now path else agent.table
            snapshots := Function.update agent.snapshots path none
            removing := none }
  | .markRow now path => { agent with table := agent.table.markAppliedLocked now path }
  | .gcRows now ttl => { agent with table := agent.table.gcExpiredRows now ttl }

end ProtectionAgent

/-- The step does not call `remove_tripwire_from_path` on a configured path. -/
def KeepsConfigured (agent : ProtectionAgent) : ProtectionStep → Prop
  | .restoreRow _ => ∀ path ∈ agent.restoreTarget, path ∉ agent.configured
  | _ => True

/-- The condition on a step.  When a payload adds a path again, the database deletes the open
removal of the path, and the removal task has not listed it.  Until the paths of a payload
are taken over, the removal task does not come to a path that the payload removes. -/
def RemovalsTimely (agent : ProtectionAgent) : ProtectionStep → Prop
  | .clearRows payload reached =>
      agent.stage = .idle → ∀ path ∈ (applyPayloadToConfig agent.config payload).additions,
        ((agent.table path).any StagingRow.isOpenRemoval = true → path ∈ reached) ∧
          path ∉ agent.listed
  | .restoreRow _ =>
      ∀ payload ∈ agent.stage.payload, ∀ path ∈ agent.restoreTarget,
        path ∉ (applyPayloadToConfig agent.config payload).removals
  | _ => True

instance (agent : ProtectionAgent) : ∀ step, Decidable (KeepsConfigured agent step)
  | .restoreRow _ =>
      inferInstanceAs (Decidable (∀ path ∈ agent.restoreTarget, path ∉ agent.configured))
  | .clearRows _ _ | .stageRows _ _ | .takeOverPaths | .watch _ _ | .listRemovals _
  | .finishRow _ _ | .markRow _ _ | .gcRows _ _ => inferInstanceAs (Decidable True)

instance (agent : ProtectionAgent) : ∀ step, Decidable (RemovalsTimely agent step)
  | .clearRows payload reached =>
      inferInstanceAs (Decidable (agent.stage = .idle →
        ∀ path ∈ (applyPayloadToConfig agent.config payload).additions,
          ((agent.table path).any StagingRow.isOpenRemoval = true → path ∈ reached) ∧
            path ∉ agent.listed))
  | .restoreRow _ =>
      inferInstanceAs (Decidable (∀ payload ∈ agent.stage.payload,
        ∀ path ∈ agent.restoreTarget,
          path ∉ (applyPayloadToConfig agent.config payload).removals))
  | .stageRows _ _ | .takeOverPaths | .watch _ _ | .listRemovals _
  | .finishRow _ _ | .markRow _ _ | .gcRows _ _ => inferInstanceAs (Decidable True)

/-! ## The statements on the staging table -/

/-- The row of the path is a removal that has not been applied. -/
def isStaged (table : StagingTable) (path : String) : Bool :=
  (table path).any StagingRow.isOpenRemoval

theorem isStaged_update (table : StagingTable) (path other : String) (row : Option StagingRow) :
    isStaged (Function.update table path row) other =
      if other = path then row.any StagingRow.isOpenRemoval else isStaged table other := by
  unfold isStaged
  rw [Function.update_apply]
  split <;> rfl

theorem isStaged_clearStagedRemovals {table : StagingTable} {paths : List String} {path : String}
    (staged : isStaged (table.clearStagedRemovals paths) path = true) :
    isStaged table path = true ∧ ∀ cleared ∈ paths, normalizeProtectedPath cleared ≠ .ok path := by
  induction paths generalizing table with
  | nil => exact ⟨staged, by simp⟩
  | cons first rest ih =>
      obtain ⟨before, others⟩ := ih staged
      cases normalized : normalizeProtectedPath first with
      | error problem =>
          simp only [normalized] at before
          refine ⟨before, List.forall_mem_cons.mpr ⟨by simp [normalized], others⟩⟩
      | ok name =>
          simp only [normalized] at before
          rw [isStaged_update] at before
          split at before
          · -- a row that stays after the deletion is no removal
            simp only [Option.any_filter, Option.any_eq_true, StagingRow.isOpenRemoval,
              Bool.and_eq_true, decide_eq_true_eq] at before
            obtain ⟨row, -, kept, removal, -⟩ := before
            exact (kept removal).elim
          · rename_i different
            refine ⟨before, List.forall_mem_cons.mpr ⟨?_, others⟩⟩
            rw [normalized]
            exact fun same => different (Except.ok.inj same).symm

theorem isStaged_stageRemovals {table : StagingTable} {now : Nat} {paths : List String}
    {path : String} (staged : isStaged (table.stageRemovals now paths) path = true) :
    isStaged table path = true ∨ ∃ removed ∈ paths, normalizeProtectedPath removed = .ok path := by
  induction paths generalizing table with
  | nil => exact .inl staged
  | cons first rest ih =>
      rcases ih staged with before | ⟨removed, member, normalized⟩
      · cases normalized : normalizeProtectedPath first with
        | error problem =>
            simp only [normalized] at before
            exact .inl before
        | ok name =>
            simp only [normalized] at before
            rw [isStaged_update] at before
            split at before
            · rename_i same
              exact .inr ⟨first, List.mem_cons_self, same ▸ normalized⟩
            · exact .inl before
      · exact .inr ⟨removed, List.mem_cons_of_mem first member, normalized⟩

theorem isStaged_markAppliedLocked {table : StagingTable} {now : Nat} {marked path : String}
    (staged : isStaged (table.markAppliedLocked now marked) path = true) :
    isStaged table path = true := by
  unfold StagingTable.markAppliedLocked at staged
  rw [isStaged_update] at staged
  split at staged
  · simp only [Option.any_map, Option.any_eq_true,
      StagingRow.isOpenRemoval] at staged
    obtain ⟨row, -, absurd⟩ := staged
    simp at absurd
  · exact staged

theorem isStaged_gcExpiredRows {table : StagingTable} {now ttl : Nat} {path : String}
    (staged : isStaged (table.gcExpiredRows now ttl) path = true) :
    isStaged table path = true := by
  simp only [isStaged, StagingTable.gcExpiredRows, Option.any_filter] at staged
  rw [isStaged, Option.any_eq_true]
  obtain ⟨row, present, both⟩ := (Option.any_eq_true _ _).mp staged
  exact ⟨row, present, (Bool.and_eq_true _ _ ▸ both).2⟩

/-! ## What a payload adds and removes -/

theorem normalize_of_mem_normalizedPaths {paths : List ProtectedPathConfig} {path : String}
    (member : path ∈ normalizedPaths paths) : normalizeProtectedPath path = .ok path := by
  obtain ⟨entry, -, normalized⟩ := List.mem_filterMap.mp (List.mem_dedup.mp member)
  cases spelled : normalizeProtectedPath entry.path with
  | error problem =>
      rw [spelled] at normalized
      cases normalized
  | ok name =>
      rw [spelled] at normalized
      cases normalized
      exact normalizeProtectedPath_idem spelled

section Payload

variable (config : AgentConfig) (payload : AgentConfigPayload)

theorem protectedPaths_applyPayloadToConfig :
    (applyPayloadToConfig config payload).config.protectedPaths = payload.protectedPaths :=
  replaceField_fst _ _

variable {config payload}

theorem mem_additions_iff {path : String} :
    path ∈ (applyPayloadToConfig config payload).additions ↔
      path ∈ normalizedPaths payload.protectedPaths ∧
        path ∉ normalizedPaths config.protectedPaths := by
  simp only [applyPayloadToConfig, replaceField, takeOver_snd]
  by_cases same : config.protectedPaths = payload.protectedPaths
  · simp [same]
  · simp [same]

theorem mem_removals_iff {path : String} :
    path ∈ (applyPayloadToConfig config payload).removals ↔
      path ∈ normalizedPaths config.protectedPaths ∧
        path ∉ normalizedPaths payload.protectedPaths := by
  simp only [applyPayloadToConfig, replaceField, takeOver_snd]
  by_cases same : config.protectedPaths = payload.protectedPaths
  · simp [same]
  · simp [same]

end Payload

/-! ## Open removals are apart from what stays configured -/

namespace ProtectionAgent

/-- The paths that are configured once the payload that is being applied is taken over. -/
def secured (agent : ProtectionAgent) : List String :=
  match agent.stage.payload with
  | none => agent.configured
  | some payload => normalizedPaths payload.protectedPaths

/-- The paths that the removal task may come to. -/
def awaitsRemoval (agent : ProtectionAgent) (path : String) : Prop :=
  isStaged agent.table path = true ∨ path ∈ agent.listed

/-- No path that awaits its removal is one that stays configured. -/
def RemovalsApart (agent : ProtectionAgent) : Prop :=
  ∀ path, agent.awaitsRemoval path →
    normalizeProtectedPath path = .ok path ∧ path ∉ agent.secured

variable {agent : ProtectionAgent}

theorem RemovalsApart.of_fewer {after : ProtectionAgent} (apart : agent.RemovalsApart)
    (same : after.secured = agent.secured)
    (fewer : ∀ path, after.awaitsRemoval path → agent.awaitsRemoval path) :
    after.RemovalsApart := by
  intro path awaits
  rw [same]
  exact apart path (fewer path awaits)

theorem RemovalsApart.clearRows {payload : AgentConfigPayload} {reached : List String}
    (apart : agent.RemovalsApart) (timely : RemovalsTimely agent (.clearRows payload reached)) :
    (agent.next (.clearRows payload reached)).RemovalsApart := by
  rw [next]
  split
  · rename_i idle
    intro path awaits
    have before : agent.awaitsRemoval path := by
      rcases awaits with staged | listed
      · exact .inl (isStaged_clearStagedRemovals staged).1
      · exact .inr listed
    obtain ⟨canonical, away⟩ := apart path before
    refine ⟨canonical, fun secured => ?_⟩
    have added : path ∈ (applyPayloadToConfig agent.config payload).additions := by
      apply mem_additions_iff.mpr
      refine ⟨secured, fun configured => away ?_⟩
      rwa [ProtectionAgent.secured, idle]
    obtain ⟨clears, unlisted⟩ := timely idle path added
    rcases awaits with staged | listed
    · obtain ⟨open_, kept⟩ := isStaged_clearStagedRemovals staged
      apply kept path _ canonical
      simp [added, clears open_]
    · exact unlisted listed
  · exact apart

theorem RemovalsApart.stageRows {now : Nat} {reached : List String}
    (apart : agent.RemovalsApart) : (agent.next (.stageRows now reached)).RemovalsApart := by
  rw [next]
  split
  · rename_i payload clearedStage
    have away : ∀ path, agent.awaitsRemoval path →
        normalizeProtectedPath path = .ok path ∧
          path ∉ normalizedPaths payload.protectedPaths := by
      intro path awaits
      simpa only [secured, clearedStage, PayloadStage.payload] using apart path awaits
    intro path awaits
    rcases awaits with staged | listed
    · rcases isStaged_stageRemovals staged with before | ⟨removed, member, normalized⟩
      · exact away path (.inl before)
      · obtain ⟨removal, -⟩ := List.mem_filter.mp member
        obtain ⟨configured, gone⟩ := mem_removals_iff.mp removal
        have spelled : removed = path := by
          rw [normalize_of_mem_normalizedPaths configured] at normalized
          exact Except.ok.inj normalized
        subst spelled
        exact ⟨normalized, gone⟩
    · exact away path (.inr listed)
  · exact apart

theorem RemovalsApart.takeOverPaths (apart : agent.RemovalsApart) :
    (agent.next .takeOverPaths).RemovalsApart := by
  rw [next]
  split
  · rename_i payload stagedStage
    apply apart.of_fewer
    · simp only [secured, stagedStage, PayloadStage.payload, configured,
        protectedPaths_applyPayloadToConfig]
    · exact fun path awaits => awaits
  · exact apart

theorem RemovalsApart.listRemovals {paths : List String} (apart : agent.RemovalsApart) :
    (agent.next (.listRemovals paths)).RemovalsApart := by
  rw [next]
  split
  · apply apart.of_fewer
    · rfl
    · rintro path (staged | listed)
      · exact .inl staged
      · exact .inl (List.mem_filter.mp listed).2
  · exact apart

theorem RemovalsApart.restoreRow {written : Bool} (apart : agent.RemovalsApart) :
    (agent.next (.restoreRow written)).RemovalsApart := by
  rw [next]
  split
  · apply apart.of_fewer
    · rfl
    · rintro path (staged | listed)
      · exact .inl staged
      · exact .inr (List.mem_of_mem_tail listed)
  · exact apart

theorem RemovalsApart.finishRow {now : Nat} {marked : Bool} (apart : agent.RemovalsApart) :
    (agent.next (.finishRow now marked)).RemovalsApart := by
  rw [next]
  split
  · exact apart
  · apply apart.of_fewer
    · rfl
    · rintro path (staged | listed)
      · cases marked with
        | false => exact .inl staged
        | true => exact .inl (isStaged_markAppliedLocked staged)
      · exact .inr listed

/-- Every step under the condition keeps them apart. -/
theorem RemovalsApart.next {step : ProtectionStep} (apart : agent.RemovalsApart)
    (timely : RemovalsTimely agent step) : (agent.next step).RemovalsApart := by
  cases step with
  | clearRows payload reached => exact apart.clearRows timely
  | stageRows now reached => exact apart.stageRows
  | takeOverPaths => exact apart.takeOverPaths
  | watch path snapshot => exact apart.of_fewer rfl fun path awaits => awaits
  | listRemovals paths => exact apart.listRemovals
  | restoreRow written => exact apart.restoreRow
  | finishRow now marked => exact apart.finishRow
  | markRow now path =>
      apply apart.of_fewer
      · rfl
      · rintro path (staged | listed)
        · exact .inl (isStaged_markAppliedLocked staged)
        · exact .inr listed
  | gcRows now ttl =>
      apply apart.of_fewer
      · rfl
      · rintro path (staged | listed)
        · exact .inl (isStaged_gcExpiredRows staged)
        · exact .inr listed

/-- The removal task calls only on paths that it has listed. -/
theorem restoreTarget_listed {path : String} (apart : agent.RemovalsApart)
    (target : path ∈ agent.restoreTarget) : path ∈ agent.listed := by
  unfold restoreTarget at target
  split at target
  · rename_i rowPath rest _ listed
    have member : rowPath ∈ agent.listed := by simp [listed]
    rw [(apart rowPath (.inr member)).1] at target
    split at target
    · cases target
    · rename_i normalized
      split at target
      · cases target
        cases normalized
        exact member
      · cases target
  · cases target

theorem RemovalsApart.keepsConfigured {step : ProtectionStep} (apart : agent.RemovalsApart)
    (timely : RemovalsTimely agent step) : KeepsConfigured agent step := by
  cases step with
  | restoreRow written =>
      intro path target configured
      have away := (apart path (.inr (restoreTarget_listed apart target))).2
      rw [secured] at away
      split at away
      · exact away configured
      · rename_i payload applying
        exact timely payload applying path target (mem_removals_iff.mpr ⟨configured, away⟩)
  | _ => trivial

/-- The agent when its tasks start: rows may be left from an earlier run. -/
def start (config : AgentConfig) (table : StagingTable)
    (snapshots : String → Option CanonicalAclSnapshot) : ProtectionAgent where
  config := config
  table := table
  stage := .idle
  snapshots := snapshots
  listed := []
  removing := none

end ProtectionAgent

/-- The rows that are left from an earlier run are filed under canonical paths, and none of
the open removals among them is of a configured path. -/
def LeftoversApart (config : AgentConfig) (table : StagingTable) : Prop :=
  ∀ path, isStaged table path = true →
    normalizeProtectedPath path = .ok path ∧ path ∉ normalizedPaths config.protectedPaths

/-- In a run whose steps all meet the condition, `remove_tripwire_from_path` is never called
on a path that is configured at that moment. -/
theorem configured_paths_kept (config : AgentConfig) (table : StagingTable)
    (snapshots : String → Option CanonicalAclSnapshot) (steps : List ProtectionStep)
    (leftovers : LeftoversApart config table)
    (timely : Each ProtectionAgent.next RemovalsTimely
      (ProtectionAgent.start config table snapshots) steps) :
    Each ProtectionAgent.next KeepsConfigured
      (ProtectionAgent.start config table snapshots) steps := by
  have initially : (ProtectionAgent.start config table snapshots).RemovalsApart := by
    rintro path (staged | listed)
    · exact leftovers path staged
    · cases listed
  exact timely.imp_of_invariant (fun _ _ apart held => apart.next held)
    (fun _ _ apart held => apart.keepsConfigured held) initially

/-- A protected path. -/
def dataPath : ProtectedPathConfig :=
  ⟨"1", "C:\\Data", "T4", "server"⟩

/-- The agent when it protects the path. -/
def dataAgent : ProtectionAgent :=
  .start { AgentConfig.default with protectedPaths := [dataPath] } (fun _ => none)
    fun _ => some ⟨[]⟩

/-- A payload is applied, and the database does all of its work. -/
def applyPaths (paths : List ProtectedPathConfig) : List ProtectionStep :=
  [.clearRows { AgentConfigPayload.default with protectedPaths := paths } ["C:\\DATA\\"],
    .stageRows 0 ["C:\\DATA\\"], .takeOverPaths]

/-- A path is removed, the removal is applied, and the path is added again. -/
theorem configured_paths_kept_readded :
    LeftoversApart dataAgent.config dataAgent.table ∧
      Each ProtectionAgent.next KeepsConfigured dataAgent
        (applyPaths [] ++ [.listRemovals ["C:\\DATA\\"], .restoreRow true, .finishRow 1 true] ++
          applyPaths [dataPath]) := by
  have leftovers : LeftoversApart dataAgent.config dataAgent.table := by
    intro path staged
    cases staged
  exact ⟨leftovers, configured_paths_kept _ _ _ _ leftovers (by decide +kernel)⟩

/-- A path is removed and listed by the removal task, and then added again: its row is
deleted, but the task restores its DACL all the same. -/
theorem listed_path_unprotected :
    ¬Each ProtectionAgent.next KeepsConfigured dataAgent
        (applyPaths [] ++ [.listRemovals ["C:\\DATA\\"]] ++ applyPaths [dataPath] ++
          [.restoreRow true]) := by
  decide +kernel

end DlpSystem.Dacls
