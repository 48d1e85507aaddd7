import DlpSystem.Agent.AgentConfig

/-!
# Which startup step finishes first

At startup the first poll of the server's configuration and the enumeration of the disks
run at the same time.  Both write the map of registered disks: the poll merges the
server's list into it, the enumeration fills it anew from the connected disks and from
the list it has read before.
-/

namespace DlpSystem.Disks

open Agent

/-- What the machine has at startup. -/
structure Startup where
  config : AgentConfig
  liveDisks : List DiskIdentity
  bootLetter : Option Char
  payload : AgentConfigPayload

namespace Startup

variable (startup : Startup)

/-- The enumerator after the allowlist of the configuration has been loaded into it. -/
def loaded : DiskEnumerator :=
  DiskEnumerator.new.preloadTomlAllowlist startup.config.diskAllowlist

/-- The poll: the payload is applied, and its list merged if it differs. -/
def poll (enumerator : DiskEnumerator) : DiskEnumerator :=
  match (applyPayloadToConfig startup.config startup.payload).diskMergeData with
  | none => enumerator
  | some (oldIds, newList) => enumerator.mergeDiskAllowlistIntoMap oldIds newList

/-- `handle_enumeration_success`, with what it does to the enumerator. -/
def handleEnumerationSuccess (enumerator : DiskEnumerator) : DiskEnumerator :=
  enumerator.updateDiskEnumerator
    (DiskEnumerator.mergeWithTomlSnapshot
      (DiskEnumerator.markBootDisk startup.bootLetter startup.liveDisks)
      startup.config.diskAllowlist)

/-- The poll comes first. -/
def pollFirst : DiskEnumerator :=
  startup.handleEnumerationSuccess (startup.poll startup.loaded)

/-- The enumeration comes first. -/
def enumerationFirst : DiskEnumerator :=
  startup.poll (startup.handleEnumerationSuccess startup.loaded)

/-- The ids of the allowlist that the configuration has at startup. -/
def tomlIds : List String :=
  startup.config.diskAllowlist.map DiskIdentity.instanceId

/-- The ids of the connected disks. -/
def liveIds : List String :=
  startup.liveDisks.map DiskIdentity.instanceId

/-- The ids of the allowlist in the payload. -/
def payloadIds : List String :=
  startup.payload.diskAllowlist.map DiskIdentity.instanceId

/-- A disk is registered. -/
def Registered (enumerator : DiskEnumerator) (instanceId : String) : Prop :=
  enumerator.instanceIdMap instanceId ≠ none

/-- An enumeration registers the connected disks and those of the configuration. -/
theorem registered_handleEnumerationSuccess (enumerator : DiskEnumerator) (instanceId : String) :
    Registered (startup.handleEnumerationSuccess enumerator) instanceId ↔
      instanceId ∈ startup.tomlIds ∨ instanceId ∈ startup.liveIds := by
  have filled : (startup.handleEnumerationSuccess enumerator).instanceIdMap =
      insertDisks (fun _ => none)
        (DiskEnumerator.mergeWithTomlSnapshot
          (DiskEnumerator.markBootDisk startup.bootLetter startup.liveDisks)
          startup.config.diskAllowlist) := rfl
  rw [Registered, filled, Ne, insertDisks_eq_none_iff, DiskEnumerator.mergeWithTomlSnapshot_ids,
    DiskEnumerator.markBootDisk_ids, and_iff_left rfl, not_not]
  rfl

/-- A poll registers the disks of the payload and takes away those that only the
configuration had. -/
theorem registered_poll (enumerator : DiskEnumerator) (instanceId : String)
    (listed : instanceId ∈ startup.tomlIds → Registered enumerator instanceId) :
    Registered (startup.poll enumerator) instanceId ↔
      instanceId ∈ startup.payloadIds ∨
        Registered enumerator instanceId ∧ instanceId ∉ startup.tomlIds := by
  have mergeData : (applyPayloadToConfig startup.config startup.payload).diskMergeData =
      if startup.config.diskAllowlist = startup.payload.diskAllowlist then none
      else some (startup.tomlIds, startup.payload.diskAllowlist) := by
    simp only [applyPayloadToConfig, replaceField, tomlIds]
    by_cases same : startup.config.diskAllowlist = startup.payload.diskAllowlist
    · simp [same]
    · simp [same]
  unfold poll
  by_cases same : startup.config.diskAllowlist = startup.payload.diskAllowlist
  · have sameIds : startup.tomlIds = startup.payloadIds := by
      rw [tomlIds, payloadIds, same]
    rw [mergeData, if_pos same, ← sameIds]
    by_cases inList : instanceId ∈ startup.tomlIds
    · simp [inList, listed inList]
    · simp [inList]
  · rw [mergeData, if_neg same]
    dsimp only
    rw [Registered, Ne, DiskEnumerator.mergeDiskAllowlistIntoMap_eq_none_iff, ← payloadIds,
      Registered]
    by_cases pushed : instanceId ∈ startup.payloadIds
    · simp [pushed]
    · simp only [pushed, not_false_eq_true, true_and, false_or, not_or]
      exact and_comm

theorem registered_pollFirst (instanceId : String) :
    Registered startup.pollFirst instanceId ↔
      instanceId ∈ startup.tomlIds ∨ instanceId ∈ startup.liveIds :=
  startup.registered_handleEnumerationSuccess _ instanceId

theorem registered_enumerationFirst (instanceId : String) :
    Registered startup.enumerationFirst instanceId ↔
      instanceId ∈ startup.payloadIds ∨
        instanceId ∈ startup.liveIds ∧ instanceId ∉ startup.tomlIds := by
  have enumerated := startup.registered_handleEnumerationSuccess startup.loaded instanceId
  rw [enumerationFirst, startup.registered_poll _ instanceId fun inList =>
    enumerated.mpr (Or.inl inList), enumerated]
  tauto

/-- Both orders register the same disks, and neither one that the payload has removed and
that is not connected. -/
def OrderFree : Prop :=
  (∀ instanceId, Registered startup.pollFirst instanceId ↔
      Registered startup.enumerationFirst instanceId) ∧
    ∀ instanceId ∈ startup.tomlIds, instanceId ∉ startup.payloadIds →
      instanceId ∉ startup.liveIds →
        ¬Registered startup.pollFirst instanceId ∧
          ¬Registered startup.enumerationFirst instanceId

/-- The order does not matter exactly if the payload removes no disk and adds none that is
not connected. -/
theorem orderFree_iff :
    startup.OrderFree ↔
      (∀ instanceId ∈ startup.tomlIds, instanceId ∈ startup.payloadIds) ∧
        ∀ instanceId ∈ startup.payloadIds,
          instanceId ∈ startup.tomlIds ∨ instanceId ∈ startup.liveIds := by
  simp only [OrderFree, registered_pollFirst, registered_enumerationFirst]
  constructor
  · rintro ⟨same, _⟩
    constructor
    · intro instanceId inList
      rcases (same instanceId).mp (Or.inl inList) with pushed | ⟨_, other⟩
      · exact pushed
      · exact absurd inList other
    · intro instanceId pushed
      exact (same instanceId).mpr (Or.inl pushed)
  · rintro ⟨removesNone, addsKnown⟩
    refine ⟨fun instanceId => ⟨?_, ?_⟩, fun instanceId inList removed =>
      absurd (removesNone instanceId inList) removed⟩
    · rintro (inList | live)
      · exact Or.inl (removesNone instanceId inList)
      · by_cases inList : instanceId ∈ startup.tomlIds
        · exact Or.inl (removesNone instanceId inList)
        · exact Or.inr ⟨live, inList⟩
    · rintro (pushed | ⟨live, _⟩)
      · exact addsKnown instanceId pushed
      · exact Or.inr live

end Startup

/-- A disk that is not connected. -/
def retiredDisk : DiskIdentity :=
  ⟨"OLD", .sata, "disk", some 'D', none, none, false, none, none, none⟩

/-- The configuration has a disk that is not connected, and the server has removed it. -/
def removedDisk : Startup where
  config := { AgentConfig.default with diskAllowlist := [retiredDisk] }
  liveDisks := []
  bootLetter := some 'C'
  payload := AgentConfigPayload.default

/-- The disk is gone after the poll, unless the enumeration comes later. -/
theorem removedDisk_not_orderFree :
    Startup.Registered removedDisk.pollFirst "OLD" ∧
      ¬Startup.Registered removedDisk.enumerationFirst "OLD" ∧ ¬removedDisk.OrderFree := by
  have stays : Startup.Registered removedDisk.pollFirst "OLD" := by
    rw [Startup.registered_pollFirst]
    decide
  have goes : ¬Startup.Registered removedDisk.enumerationFirst "OLD" := by
    rw [Startup.registered_enumerationFirst]
    decide
  exact ⟨stays, goes, fun orderFree => goes ((orderFree.1 "OLD").mp stays)⟩

end DlpSystem.Disks
