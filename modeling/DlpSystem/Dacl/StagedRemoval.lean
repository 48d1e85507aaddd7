import DlpSystem.Agent.AgentConfig
import DlpSystem.Agent.DaclTripwire
import DlpSystem.Lib.EventRun

/-!
# Staged removals of protected paths

When a path leaves the protected ones, its removal is staged, and two tasks may mark it as
applied: the repair task when it sees a security event of the path, and the removal task
when it has written a snapshot back.  The machine has the steps of both, of the backstop,
of the configuration poll, and of the outside world.  Both tasks mark under the lock of the
path; repairs and the backstop take no lock.
-/

namespace DlpSystem.Dacls

open Abac Agent Lib

/-- What the repair task is about to do, after it has looked at the staging table. -/
inductive RepairStage
  | idle
  | marking (normalized : String)
  | repairing (path : String)
  deriving DecidableEq

/-- The agent, the table and the files of the machine. -/
structure DaclAgent where
  table : StagingTable
  volume : Volume
  dlpAdminSid : Option String
  globalMode : EnforcementMode
  /-- The snapshots of the registered watchers. -/
  snapshots : String → Option CanonicalAclSnapshot
  /-- The snapshots that the repair task and the backstop have copied when they started. -/
  taskSnapshots : String → Option CanonicalAclSnapshot
  repairStage : RepairStage
  /-- The rows that the removal task has listed and not come to yet. -/
  listed : List String
  /-- The path whose snapshot the removal task has written back and whose row it has not
  marked yet.  It holds the lock of the path. -/
  removing : Option String
  /-- The global mode under which a watcher was registered. -/
  registeredUnder : String → Option EnforcementMode
  /-- The paths that were marked as applied, each with its DACL at that moment. -/
  marks : List (String × Dacl)

/-- The steps of a run. -/
inductive DaclStep
  | setGlobalMode (mode : EnforcementMode)
  | outsideChange (path : String) (dacl : Dacl)
  /-- The bundle of watchers and tasks is shut down, to be built anew. -/
  | reinit
  /-- `init_dacl_watcher` comes to a protected path, with the entries below it. -/
  | protect (mode : EnforcementMode) (path : String) (below : List String)
  | startTasks
  | applyPayload (config : AgentConfig) (payload : AgentConfigPayload) (now : Nat)
  | securityEvent (path : String)
  | continueRepair (now : Nat)
  /-- The repair task drains its events at shutdown. -/
  | drain (path : String)
  | backstop (path : String)
  | listRemovals (paths : List String)
  /-- The removal task writes back the snapshot of the next row. -/
  | restoreRow
  /-- The removal task marks that row, and unregisters the watcher. -/
  | finishRow (now : Nat)
  | gcRows (now ttl : Nat)

namespace DaclAgent

/-- `DaclWatcher::register`: the first registration of a path counts. -/
def register (agent : DaclAgent) (mode : EnforcementMode) (path : String)
    (snapshot : CanonicalAclSnapshot) : DaclAgent :=
  if (agent.snapshots path).isSome then agent
  else
    { agent with
      snapshots := Function.update agent.snapshots path (some snapshot)
      registeredUnder := Function.update agent.registeredUnder path (some mode) }

/-- `DaclWatcher::unregister`. -/
def unregister (agent : DaclAgent) (path : String) : DaclAgent :=
  { agent with
    snapshots := Function.update agent.snapshots path none
    registeredUnder := Function.update agent.registeredUnder path none }

/-- `mark_applied_locked`: the row is updated if it is there. -/
def markApplied (agent : DaclAgent) (now : Nat) (normalized : String) : DaclAgent :=
  { agent with
    table := agent.table.markAppliedLocked now normalized
    marks :=
      if (agent.table normalized).isSome then
        agent.marks ++ [(normalized, agent.volume.dacl normalized)]
      else agent.marks }

/-- `init_dacl_watcher` for one path.  The watcher gets the first snapshot of the walk. -/
def initPath (agent : DaclAgent) (mode : EnforcementMode) (path : String)
    (below : List String) : DaclAgent :=
  match normalizeProtectedPath path with
  | .error _ => agent
  | .ok normalized =>
      if shouldApplyTripwireForGlobalMode mode then
        match agent.volume.applyTripwireRecursive agent.dlpAdminSid (normalized :: below) with
        | (.ok (snapshot :: _), volume) =>
            { agent with volume := volume }.register mode normalized snapshot
        | (_, volume) => { agent with volume := volume }
      else
        match agent.volume.removeTripwireByRebuildingWithoutDeny agent.dlpAdminSid normalized with
        | .ok (snapshot, volume) =>
            { agent with volume := volume }.register mode normalized snapshot
        | .error _ => agent

/-- `repair_acl`. -/
def repairAcl (agent : DaclAgent) (path : String) : DaclAgent :=
  let repairResult :=
    if shouldApplyTripwireForGlobalMode agent.globalMode then
      agent.volume.applyTripwireToPath agent.dlpAdminSid path
    else agent.volume.removeTripwireByRebuildingWithoutDeny agent.dlpAdminSid path
  match repairResult with
  | .ok (_, volume) => { agent with volume := volume }
  | .error _ => agent

/-- The staging check of the repair task. -/
def afterEvent (agent : DaclAgent) (path : String) : RepairStage :=
  match normalizeProtectedPath path with
  | .error _ => .repairing path
  | .ok normalized =>
      -- `is_staged`, then `get_row`
      match agent.table normalized with
      | none => .repairing path
      | some row => if row.isOpenRemoval then .marking normalized else .idle

/-- The removal task writes the snapshot of a row back.  A row without a snapshot, or with
one that is too large, is left for another time. -/
def restore (agent : DaclAgent) (rowPath : String) : DaclAgent :=
  match normalizeProtectedPath rowPath with
  | .error _ => agent
  | .ok path =>
      match agent.snapshots path with
      | none => agent
      | some snapshot =>
          match agent.volume.removeTripwireFromPath path snapshot with
          | .error _ => agent
          | .ok volume => { agent with volume := volume, removing := some path }

/-- One step.  The tasks are awaited before the bundle is built anew. -/
def next (agent : DaclAgent) : DaclStep → DaclAgent
  | .setGlobalMode mode => { agent with globalMode := mode }
  | .outsideChange path dacl => { agent with volume := agent.volume.writeDacl path dacl }
  | .reinit =>
      if agent.removing = none ∧ agent.listed = [] ∧ agent.repairStage = .idle then
        { agent with
          snapshots := fun _ => none
          taskSnapshots := fun _ => none
          registeredUnder := fun _ => none }
      else agent
  | .protect mode path below =>
      if agent.removing = none then agent.initPath mode path below else agent
  | .startTasks => { agent with taskSnapshots := agent.snapshots }
  | .applyPayload config payload now =>
      let applied := applyPayloadToConfig config payload
      { agent with
        table := (agent.table.clearStagedRemovals applied.additions).stageRemovals now
          applied.removals }
  | .securityEvent path =>
      if agent.repairStage = .idle then { agent with repairStage := agent.afterEvent path }
      else agent
  | .continueRepair now =>
      match agent.repairStage with
      | .idle => agent
      | .marking normalized =>
          if agent.removing = some normalized then agent
          else { agent.markApplied now normalized with repairStage := .idle }
      | .repairing path =>
          { (if (agent.taskSnapshots path).isSome then agent.repairAcl path else agent) with
            repairStage := .idle }
  | .drain path => if (agent.taskSnapshots path).isSome then agent.repairAcl path else agent
  | .backstop path =>
      match agent.taskSnapshots path with
      | none => agent
      | some snapshot =>
          if agent.volume.readSddl path ≠ sddlText snapshot.dacl then agent.repairAcl path
          else agent
  | .listRemovals paths =>
      if agent.listed = [] ∧ agent.removing = none then
        { agent with
          listed := paths.filter fun path => (agent.table path).any StagingRow.isOpenRemoval }
      else agent
  | .restoreRow =>
      match agent.removing, agent.listed with
      | none, rowPath :: rest => { agent with listed := rest }.restore rowPath
      | _, _ => agent
  | .finishRow now =>
      match agent.removing with
      | none => agent
      | some path => { (agent.markApplied now path).unregister path with removing := none }
  | .gcRows now ttl => { agent with table := agent.table.gcExpiredRows now ttl }

/-- A machine before the agent has protected anything. -/
def start (table : StagingTable) (volume : Volume) (dlpAdminSid : Option String)
    (globalMode : EnforcementMode) : DaclAgent where
  table := table
  volume := volume
  dlpAdminSid := dlpAdminSid
  globalMode := globalMode
  snapshots := fun _ => none
  taskSnapshots := fun _ => none
  repairStage := .idle
  listed := []
  removing := none
  registeredUnder := fun _ => none
  marks := []

end DaclAgent

/-- Every path was without the tripwire when it was marked as applied. -/
def MarksClean (agent : DaclAgent) : Prop :=
  ∀ mark ∈ agent.marks, hasTripwire mark.2 = false

/-- The condition on a step: the repair task marks a path only if nothing is left to remove,
the removal task writes back only snapshots of watchers that were registered in audit mode,
and until it has marked the path nothing puts the tripwire up again. -/
def MarksRemoved (agent : DaclAgent) : DaclStep → Prop
  | .outsideChange path dacl => agent.removing = some path → hasTripwire dacl = false
  | .continueRepair _ =>
      match agent.repairStage with
      | .idle => True
      | .marking normalized =>
          (agent.table normalized).isSome = true → hasTripwire (agent.volume.dacl normalized) = false
      | .repairing path => agent.removing = some path → agent.globalMode = .audit
  | .drain path => agent.removing = some path → agent.globalMode = .audit
  | .backstop path => agent.removing = some path → agent.globalMode = .audit
  | .restoreRow =>
      ∀ rowPath ∈ agent.listed.head?, ∀ path ∈ (normalizeProtectedPath rowPath).toOption,
        (agent.snapshots path).isSome = true → agent.registeredUnder path = some .audit
  | _ => True

instance (agent : DaclAgent) (step : DaclStep) : Decidable (MarksRemoved agent step) := by
  unfold MarksRemoved
  split <;> first | infer_instance | (split <;> infer_instance)

/-! ## What the steps do -/

/-- A snapshot has the tripwire unless its watcher was registered in audit mode. -/
def SnapshotsKnown (agent : DaclAgent) : Prop :=
  ∀ path snapshot, agent.snapshots path = some snapshot →
    ∃ mode, agent.registeredUnder path = some mode ∧
      hasTripwire snapshot.dacl = decide (mode ≠ .audit)

/-- What is kept: the snapshots are those of the modes of their watchers, a path whose row is
about to be marked has no tripwire, and no path had it when it was marked. -/
structure TripwireOff (agent : DaclAgent) : Prop where
  known : SnapshotsKnown agent
  restored : ∀ path, agent.removing = some path → hasTripwire (agent.volume.dacl path) = false
  marks : MarksClean agent

namespace DaclAgent

variable {agent : DaclAgent}

/-- A repair writes one DACL, and in audit mode it does not put the tripwire up. -/
theorem repairAcl_eq (agent : DaclAgent) (path : String) :
    ∃ volume, agent.repairAcl path = { agent with volume := volume } ∧
      (∀ other ≠ path, volume.dacl other = agent.volume.dacl other) ∧
      (agent.globalMode = .audit → hasTripwire (agent.volume.dacl path) = false →
        hasTripwire (volume.dacl path) = false) := by
  unfold repairAcl
  dsimp only
  split
  · rename_i snapshot volume repaired
    have rebuilt : agent.volume.rebuildAcl agent.dlpAdminSid
        (shouldApplyTripwireForGlobalMode agent.globalMode) path = .ok (snapshot, volume) := by
      rw [← repaired]
      cases shouldApplyTripwireForGlobalMode agent.globalMode <;> rfl
    rcases Volume.rebuildAcl_ok rebuilt with ⟨written, tripwire⟩
    refine ⟨volume, rfl, fun other differs => ?_, fun audit _ => ?_⟩
    · rw [written, Volume.writeDacl_ne _ _ differs]
    · rw [written, Volume.writeDacl_self, tripwire, audit]
      rfl
  · exact ⟨agent.volume, rfl, fun _ _ => rfl, fun _ clean => clean⟩

/-- What `init_dacl_watcher` does to the watchers: at most it registers one, with a snapshot
of its own mode. -/
theorem initPath_cases (agent : DaclAgent) (mode : EnforcementMode) (path : String)
    (below : List String) :
    (∃ volume, agent.initPath mode path below = { agent with volume := volume }) ∨
      ∃ volume normalized snapshot, hasTripwire snapshot.dacl = decide (mode ≠ .audit) ∧
        agent.initPath mode path below =
          { agent with volume := volume }.register mode normalized snapshot := by
  unfold initPath
  split
  · exact .inl ⟨agent.volume, rfl⟩
  · rename_i normalized _
    split
    · rename_i applies
      split
      · rename_i snapshot rest volume walked
        have applied : (agent.volume.applyTripwireRecursive agent.dlpAdminSid
            (normalized :: below)).1 = .ok (snapshot :: rest) := by
          rw [walked]
        have tripwire := Volume.hasTripwire_of_applyTripwireRecursive applied snapshot
          List.mem_cons_self
        exact .inr ⟨volume, normalized, snapshot, tripwire.trans applies.symm, rfl⟩
      · rename_i volume _ _
        exact .inl ⟨volume, rfl⟩
    · rename_i applies
      split
      · rename_i snapshot volume rebuilt
        have tripwire := (Volume.rebuildAcl_ok rebuilt).2
        exact .inr ⟨volume, normalized, snapshot,
          tripwire.trans (Bool.eq_false_iff.mpr applies).symm, rfl⟩
      · exact .inl ⟨agent.volume, rfl⟩

/-- The removal task restores a row only from a snapshot, which it writes as it is. -/
theorem restore_cases (agent : DaclAgent) (rowPath : String) :
    agent.restore rowPath = agent ∨
      ∃ path snapshot, normalizeProtectedPath rowPath = .ok path ∧
        agent.snapshots path = some snapshot ∧
        agent.restore rowPath =
          { agent with
            volume := agent.volume.writeDacl path snapshot.dacl
            removing := some path } := by
  unfold restore Volume.removeTripwireFromPath
  cases normalized : normalizeProtectedPath rowPath with
  | error reason => exact .inl rfl
  | ok path =>
      cases stored : agent.snapshots path with
      | none =>
          left
          simp only [stored]
      | some snapshot =>
          simp only [stored]
          by_cases large : agent.volume.aclSize snapshot.dacl > maxAclSizeBytes
          · rw [if_pos large]
            exact .inl rfl
          · rw [if_neg large]
            exact .inr ⟨path, snapshot, rfl, stored, rfl⟩

end DaclAgent

namespace SnapshotsKnown

variable {agent : DaclAgent}

theorem register (known : SnapshotsKnown agent) {mode : EnforcementMode} (path : String)
    {snapshot : CanonicalAclSnapshot}
    (built : hasTripwire snapshot.dacl = decide (mode ≠ .audit)) :
    SnapshotsKnown (agent.register mode path snapshot) := by
  unfold DaclAgent.register
  split
  · exact known
  · intro other stored isStored
    by_cases here : other = path
    · subst here
      simp only [Function.update_self, Option.some.injEq] at isStored
      subst isStored
      exact ⟨mode, by simp, built⟩
    · simp only [Function.update_of_ne here] at isStored ⊢
      exact known other stored isStored

theorem unregister (known : SnapshotsKnown agent) (path : String) :
    SnapshotsKnown (agent.unregister path) := by
  intro other stored isStored
  by_cases here : other = path
  · subst here
    simp [DaclAgent.unregister] at isStored
  · simp only [DaclAgent.unregister, Function.update_of_ne here] at isStored ⊢
    exact known other stored isStored

end SnapshotsKnown

namespace TripwireOff

variable {agent : DaclAgent}

/-- Files may change as long as a path whose row is about to be marked stays clean. -/
theorem withVolume (off : TripwireOff agent) {volume : Volume}
    (clean : ∀ path, agent.removing = some path → hasTripwire (volume.dacl path) = false) :
    TripwireOff { agent with volume := volume } where
  known := off.known
  restored := clean
  marks := off.marks

theorem markApplied (off : TripwireOff agent) (now : Nat) {normalized : String}
    (removed : (agent.table normalized).isSome = true →
      hasTripwire (agent.volume.dacl normalized) = false) :
    TripwireOff (agent.markApplied now normalized) := by
  refine ⟨off.known, off.restored, ?_⟩
  intro mark isMark
  unfold DaclAgent.markApplied at isMark
  dsimp only at isMark
  split at isMark
  · rename_i present
    rcases List.mem_append.mp isMark with old | new
    · exact off.marks mark old
    · rw [List.mem_singleton.mp new]
      exact removed present
  · exact off.marks mark isMark

theorem repairAcl (off : TripwireOff agent) {path : String}
    (audit : agent.removing = some path → agent.globalMode = .audit) :
    TripwireOff (agent.repairAcl path) := by
  rcases agent.repairAcl_eq path with ⟨volume, isRepair, others, repaired⟩
  rw [isRepair]
  apply off.withVolume
  intro restoring isRestoring
  by_cases here : restoring = path
  · subst here
    exact repaired (audit isRestoring) (off.restored restoring isRestoring)
  · rw [others restoring here]
    exact off.restored restoring isRestoring

theorem initPath (off : TripwireOff agent) (idle : agent.removing = none)
    (mode : EnforcementMode) (path : String) (below : List String) :
    TripwireOff (agent.initPath mode path below) := by
  have rewritten : ∀ volume, TripwireOff { agent with volume := volume } := by
    intro volume
    apply off.withVolume
    intro restoring isRestoring
    rw [isRestoring] at idle
    cases idle
  rcases agent.initPath_cases mode path below with
    ⟨volume, isInit⟩ | ⟨volume, normalized, snapshot, tripwire, isInit⟩
  · rw [isInit]
    exact rewritten volume
  · rw [isInit]
    constructor
    · exact (rewritten volume).known.register normalized tripwire
    · unfold DaclAgent.register
      split <;> exact (rewritten volume).restored
    · unfold DaclAgent.register
      split <;> exact off.marks

/-- A row that is restored from the snapshot of a watcher in audit mode. -/
theorem restore (off : TripwireOff agent) {rowPath : String}
    (audit : ∀ path ∈ (normalizeProtectedPath rowPath).toOption,
      (agent.snapshots path).isSome = true → agent.registeredUnder path = some .audit) :
    TripwireOff (agent.restore rowPath) := by
  rcases agent.restore_cases rowPath with same | ⟨path, snapshot, isPath, stored, isRestore⟩
  · rw [same]
    exact off
  · rw [isRestore]
    refine ⟨off.known, fun restoring isRestoring => ?_, off.marks⟩
    cases isRestoring
    rcases off.known path snapshot stored with ⟨mode, under, tripwire⟩
    have isAudit : agent.registeredUnder path = some .audit := by
      apply audit path
      · rw [isPath]
        rfl
      · rw [stored]
        rfl
    rw [under, Option.some.injEq] at isAudit
    simp [tripwire, isAudit]

/-! ### The steps one by one -/

theorem outsideChange (off : TripwireOff agent) (path : String) {dacl : Dacl}
    (removed : MarksRemoved agent (.outsideChange path dacl)) :
    TripwireOff (agent.next (.outsideChange path dacl)) := by
  apply off.withVolume
  intro restoring isRestoring
  by_cases here : restoring = path
  · subst here
    rw [Volume.writeDacl_self]
    exact removed isRestoring
  · rw [Volume.writeDacl_ne _ _ here]
    exact off.restored restoring isRestoring

theorem reinit (off : TripwireOff agent) : TripwireOff (agent.next .reinit) := by
  simp only [DaclAgent.next]
  split
  · refine ⟨fun path snapshot isSnapshot => ?_, off.restored, off.marks⟩
    cases isSnapshot
  · exact off

theorem continueRepair (off : TripwireOff agent) (now : Nat)
    (removed : MarksRemoved agent (.continueRepair now)) :
    TripwireOff (agent.next (.continueRepair now)) := by
  simp only [DaclAgent.next]
  simp only [MarksRemoved] at removed
  cases stage : agent.repairStage with
  | idle => exact off
  | marking normalized =>
      rw [stage] at removed
      dsimp only
      split
      · exact off
      · have marked := off.markApplied now removed
        exact ⟨marked.known, marked.restored, marked.marks⟩
  | repairing path =>
      rw [stage] at removed
      have repaired := off.repairAcl removed
      dsimp only
      split
      · exact ⟨repaired.known, repaired.restored, repaired.marks⟩
      · exact ⟨off.known, off.restored, off.marks⟩

theorem backstop (off : TripwireOff agent) (path : String)
    (removed : MarksRemoved agent (.backstop path)) :
    TripwireOff (agent.next (.backstop path)) := by
  simp only [DaclAgent.next]
  split
  · exact off
  · split
    · exact off.repairAcl removed
    · exact off

theorem restoreRow (off : TripwireOff agent) (removed : MarksRemoved agent .restoreRow) :
    TripwireOff (agent.next .restoreRow) := by
  simp only [DaclAgent.next]
  split
  · rename_i rowPath rest _ isListed
    have popped : TripwireOff { agent with listed := rest } :=
      ⟨off.known, off.restored, off.marks⟩
    apply popped.restore
    apply removed rowPath
    rw [isListed]
    rfl
  · exact off

theorem finishRow (off : TripwireOff agent) (now : Nat) :
    TripwireOff (agent.next (.finishRow now)) := by
  simp only [DaclAgent.next]
  split
  · exact off
  · rename_i path isRemoving
    have marked := off.markApplied now (fun _ => off.restored path isRemoving)
    refine ⟨marked.known.unregister path, fun restoring isRestoring => ?_, marked.marks⟩
    cases isRestoring

theorem next (off : TripwireOff agent) (step : DaclStep) (removed : MarksRemoved agent step) :
    TripwireOff (agent.next step) := by
  cases step with
  | setGlobalMode mode => exact ⟨off.known, off.restored, off.marks⟩
  | outsideChange path dacl => exact off.outsideChange path removed
  | reinit => exact off.reinit
  | protect mode path below =>
      simp only [DaclAgent.next]
      split
      · rename_i idle
        exact off.initPath idle mode path below
      · exact off
  | startTasks => exact ⟨off.known, off.restored, off.marks⟩
  | applyPayload config payload now => exact ⟨off.known, off.restored, off.marks⟩
  | securityEvent path =>
      simp only [DaclAgent.next]
      split
      · exact ⟨off.known, off.restored, off.marks⟩
      · exact off
  | continueRepair now => exact off.continueRepair now removed
  | drain path =>
      simp only [DaclAgent.next]
      split
      · exact off.repairAcl removed
      · exact off
  | backstop path => exact off.backstop path removed
  | listRemovals paths =>
      simp only [DaclAgent.next]
      split
      · exact ⟨off.known, off.restored, off.marks⟩
      · exact off
  | restoreRow => exact off.restoreRow removed
  | finishRow now => exact off.finishRow now
  | gcRows now ttl => exact ⟨off.known, off.restored, off.marks⟩

end TripwireOff

/-! ## Runs -/

/-- In every run whose steps meet the condition, every path was without the tripwire when it
was marked as applied. -/
theorem removals_applied (table : StagingTable) (volume : Volume) (dlpAdminSid : Option String)
    (globalMode : EnforcementMode) (steps : List DaclStep)
    (removed : Each DaclAgent.next MarksRemoved
      (DaclAgent.start table volume dlpAdminSid globalMode) steps) :
    MarksClean (steps.foldl DaclAgent.next
      (DaclAgent.start table volume dlpAdminSid globalMode)) := by
  have initially : TripwireOff (DaclAgent.start table volume dlpAdminSid globalMode) :=
    ⟨nofun, nofun, nofun⟩
  have off := removed.invariant (fun _ step off removes => TripwireOff.next off step removes)
    initially
  exact off.marks

/-- A folder with an entry for the administrators. -/
def dataVolume : Volume where
  ownerAndGroup := fun _ => "O:BAG:SY"
  dacl := fun _ => ["(A;;FA;;;S-1-5-32-544)"]
  isReparsePoint := fun _ => false
  aclSize := fun dacl => 8 + 36 * dacl.length

/-- The removal of a path is staged, and the removal task comes to it. -/
def removeData : List DaclStep :=
  [.applyPayload
      { AgentConfig.default with protectedPaths := [⟨"p1", "C:\\Data", "T3", "manual"⟩] }
      AgentConfigPayload.default 0,
    .listRemovals ["C:\\DATA\\"], .restoreRow, .finishRow 1]

/-- The machine after a path was protected and removed. -/
def afterRemoval (mode : EnforcementMode) : DaclAgent :=
  ([DaclStep.protect mode "C:\\Data" [], .startTasks] ++ removeData).foldl DaclAgent.next
    (DaclAgent.start (fun _ => none) dataVolume none mode)

/-- A path is protected in audit mode; in block mode somebody changes it, and the backstop
repairs it. -/
def repairInBlock : List DaclStep :=
  [.protect .audit "C:\\Data" [], .startTasks, .setGlobalMode .block,
    .outsideChange "C:\\DATA\\" ["(A;;FA;;;S-1-1-0)"], .backstop "C:\\DATA\\"]

/-- The repair puts the tripwire up, and the removal, from the snapshot of audit mode, takes it
down before the path is marked. -/
theorem auditRemoval_clean :
    hasTripwire ((repairInBlock.foldl DaclAgent.next
        (DaclAgent.start (fun _ => none) dataVolume none .audit)).volume.dacl "C:\\DATA\\") =
          true ∧
      ((repairInBlock ++ removeData).foldl DaclAgent.next
        (DaclAgent.start (fun _ => none) dataVolume none .audit)).marks =
          [("C:\\DATA\\", [systemAce])] ∧
      MarksClean ((repairInBlock ++ removeData).foldl DaclAgent.next
        (DaclAgent.start (fun _ => none) dataVolume none .audit)) := by
  refine ⟨by decide +kernel, by decide +kernel, removals_applied _ _ _ _ _ ?_⟩
  decide +kernel

/-- In block mode the removal is marked, and the tripwire stands. -/
theorem blockRemoval_keeps_tripwire :
    ¬MarksClean (afterRemoval .block) := by
  have marked : (afterRemoval .block).marks = [("C:\\DATA\\", [systemAce, denyAce])] := by
    decide +kernel
  intro clean
  have tripwire := clean ("C:\\DATA\\", [systemAce, denyAce])
    (by rw [marked]; exact List.mem_singleton_self _)
  exact absurd tripwire (by decide +kernel)

end DlpSystem.Dacls
