import DlpSystem.Agent.OfflineManager
import Mathlib.Data.List.AList

/-!
# Fixed disks of the machine

`DiskEnumerator`: the allowlist of disks by instance id, the connected disks by drive
letter, and the grace periods of unregistered ones, with the handlers that change them.
The maps of the global enumerator are the state; what a handler does outside it (mount
blocks, audits, toasts, timers) is the list of its effects.  Instants are in milliseconds.
-/

namespace DlpSystem.Agent

open Abac

/-! ## Disks -/

/-- `BusType`. -/
inductive BusType
  | unknown
  | sata
  | nvme
  | usb
  | scsi
  deriving DecidableEq

/-- `EncryptionStatus`. -/
inductive EncryptionStatus
  | encrypted
  | suspended
  | unencrypted
  | unknown
  deriving DecidableEq

/-- `EncryptionMethod`. -/
inductive EncryptionMethod
  | none
  | aes128Diffuser
  | aes256Diffuser
  | aes128
  | aes256
  | hardware
  | xtsAes128
  | xtsAes256
  | unknown
  deriving DecidableEq

/-- `DiskIdentity`. -/
structure DiskIdentity where
  instanceId : String
  busType : BusType
  model : String
  driveLetter : Option Char
  serial : Option String
  sizeBytes : Option Nat
  isBootDisk : Bool
  encryptionStatus : Option EncryptionStatus
  encryptionMethod : Option EncryptionMethod
  encryptionCheckedAt : Option Int
  deriving DecidableEq

/-- The default identity with a drive letter. -/
def DiskIdentity.placeholder (driveLetter : Option Char) : DiskIdentity :=
  ⟨"", .unknown, "", driveLetter, none, none, false, none, none, none⟩

/-! ## The enumerator -/

/-- Disks by drive letter. -/
abbrev LetterMap := AList fun _ : Char => DiskIdentity

/-- `DiskEnumerator`. -/
structure DiskEnumerator where
  discoveredDisks : List DiskIdentity
  driveLetterMap : LetterMap
  instanceIdMap : String → Option DiskIdentity
  enumerationComplete : Bool
  gracePeriodMap : String → Option Nat
  diskGracePeriodSeconds : Nat

/-- The entry that a search for an instance id comes upon.  The order of a hash map is open:
`first` is the letter that comes first, if it is one of the disk's. -/
def LetterMap.findEntry (letters : LetterMap) (first : Char) (instanceId : String) :
    Option (Char × DiskIdentity) :=
  match (letters.lookup first).filter fun disk => disk.instanceId = instanceId with
  | some disk => some (first, disk)
  | none =>
      (letters.entries.find? fun entry => entry.2.instanceId = instanceId).map fun entry =>
        (entry.1, entry.2)

theorem LetterMap.findEntry_eq_some {letters : LetterMap} {first : Char} {instanceId : String}
    {entry : Char × DiskIdentity} (found : letters.findEntry first instanceId = some entry) :
    letters.lookup entry.1 = some entry.2 ∧ entry.2.instanceId = instanceId := by
  unfold LetterMap.findEntry at found
  split at found
  · rename_i disk atFirst
    cases found
    simpa [Option.filter_eq_some_iff] using atFirst
  · rw [Option.map_eq_some_iff] at found
    rcases found with ⟨listed, isListed, rfl⟩
    have member : (⟨listed.1, listed.2⟩ : Sigma fun _ : Char => DiskIdentity) ∈ letters.entries :=
      List.mem_of_find?_eq_some isListed
    exact ⟨AList.mem_lookup_iff.mpr member, by simpa using List.find?_some isListed⟩

theorem LetterMap.findEntry_eq_none {letters : LetterMap} {first : Char} {instanceId : String}
    (missing : letters.findEntry first instanceId = none) {letter : Char} {disk : DiskIdentity}
    (entry : letters.lookup letter = some disk) : disk.instanceId ≠ instanceId := by
  unfold LetterMap.findEntry at missing
  split at missing
  · cases missing
  · rw [Option.map_eq_none_iff, List.find?_eq_none] at missing
    have member : (⟨letter, disk⟩ : Sigma fun _ : Char => DiskIdentity) ∈ letters.entries :=
      AList.mem_lookup_iff.mp entry
    simpa using missing _ member

/-- `insert` of each disk under its instance id. -/
def insertDisks (map : String → Option DiskIdentity) (disks : List DiskIdentity) :
    String → Option DiskIdentity :=
  disks.foldl (fun map disk => Function.update map disk.instanceId (some disk)) map

/-- Exactly the ids of the disks are added. -/
theorem insertDisks_eq_none_iff (map : String → Option DiskIdentity) (disks : List DiskIdentity)
    (instanceId : String) :
    insertDisks map disks instanceId = none ↔
      instanceId ∉ disks.map DiskIdentity.instanceId ∧ map instanceId = none := by
  induction disks generalizing map with
  | nil => simp [insertDisks]
  | cons disk rest ih =>
      have step : insertDisks map (disk :: rest) =
          insertDisks (Function.update map disk.instanceId (some disk)) rest := rfl
      rw [step, ih, List.map_cons, List.mem_cons]
      by_cases same : instanceId = disk.instanceId
      · simp [same]
      · rw [Function.update_of_ne same]
        simp [same]

namespace DiskEnumerator

/-- `DiskEnumerator::new`. -/
def new : DiskEnumerator :=
  ⟨[], ∅, fun _ => none, false, fun _ => none, 0⟩

/-- `set_grace_period_seconds`. -/
def setGracePeriodSeconds (enumerator : DiskEnumerator) (seconds : Nat) : DiskEnumerator :=
  { enumerator with diskGracePeriodSeconds := min seconds 3600 }

/-- `disk_for_drive_letter`. -/
def diskForDriveLetter (enumerator : DiskEnumerator) (letter : Char) : Option DiskIdentity :=
  enumerator.driveLetterMap.lookup letter.toUpper

/-- `is_in_grace_period`. -/
def isInGracePeriod (enumerator : DiskEnumerator) (now : Nat) (instanceId : String) : Bool :=
  enumerator.diskGracePeriodSeconds ≠ 0 &&
    (enumerator.gracePeriodMap instanceId).any fun started =>
      decide (now - started < enumerator.diskGracePeriodSeconds * 1000)

/-! ## Enumeration -/

/-- `preload_toml_allowlist`. -/
def preloadTomlAllowlist (enumerator : DiskEnumerator) (tomlDisks : List DiskIdentity) :
    DiskEnumerator :=
  if tomlDisks = [] then enumerator
  else
    { enumerator with
      discoveredDisks := tomlDisks
      instanceIdMap := insertDisks enumerator.instanceIdMap tomlDisks }

/-- `mark_boot_disk`. -/
def markBootDisk (bootLetter : Option Char) (disks : List DiskIdentity) : List DiskIdentity :=
  match bootLetter with
  | none => disks
  | some letter =>
      disks.map fun disk =>
        if disk.driveLetter.map Char.toUpper = some letter.toUpper then
          { disk with isBootDisk := true }
        else disk

/-- Marking the boot disk changes nothing but the mark. -/
theorem map_markBootDisk {β : Type} (read : DiskIdentity → β)
    (ignores : ∀ disk, read { disk with isBootDisk := true } = read disk)
    (bootLetter : Option Char) (disks : List DiskIdentity) :
    (markBootDisk bootLetter disks).map read = disks.map read := by
  cases bootLetter with
  | none => rfl
  | some letter =>
      rw [markBootDisk, List.map_map]
      apply List.map_congr_left
      intro disk _
      simp only [Function.comp_apply]
      split
      · exact ignores disk
      · rfl

theorem markBootDisk_ids (bootLetter : Option Char) (disks : List DiskIdentity) :
    (markBootDisk bootLetter disks).map DiskIdentity.instanceId =
      disks.map DiskIdentity.instanceId :=
  map_markBootDisk DiskIdentity.instanceId (fun _ => rfl) bootLetter disks

/-- Disks by instance id, later ones over earlier ones. -/
def collectDisks (disks : List DiskIdentity) : AList fun _ : String => DiskIdentity :=
  disks.foldl (fun map disk => map.insert disk.instanceId disk) ∅

/-- `merge_with_toml_snapshot`. -/
def mergeWithTomlSnapshot (liveDisks tomlDisks : List DiskIdentity) : List DiskIdentity :=
  ((collectDisks (tomlDisks ++ liveDisks)).entries.map fun entry => entry.2).mergeSort
    fun first second => decide (first.instanceId ≤ second.instanceId)

/-- Exactly the ids of the disks are collected, each disk under its own. -/
theorem collectDisks_spec (disks : List DiskIdentity) :
    (∀ entry ∈ (collectDisks disks).entries, entry.2.instanceId = entry.1) ∧
      ∀ instanceId, instanceId ∈ collectDisks disks ↔
        instanceId ∈ disks.map DiskIdentity.instanceId := by
  induction disks using List.reverseRecOn with
  | nil => simp [collectDisks]
  | append_singleton disks disk ih =>
      have step : collectDisks (disks ++ [disk]) =
          (collectDisks disks).insert disk.instanceId disk := by
        simp [collectDisks]
      rw [step]
      constructor
      · rintro ⟨instanceId, other⟩ member
        have found := AList.mem_lookup_iff.mpr member
        by_cases same : instanceId = disk.instanceId
        · subst same
          rw [AList.lookup_insert] at found
          cases found
          rfl
        · rw [AList.lookup_insert_ne same] at found
          exact ih.1 _ (AList.mem_lookup_iff.mp found)
      · intro instanceId
        rw [AList.mem_insert, ih.2, List.map_append, List.mem_append, List.map_singleton,
          List.mem_singleton, or_comm]

/-- The merged list has the disks of both lists. -/
theorem mergeWithTomlSnapshot_ids (liveDisks tomlDisks : List DiskIdentity)
    (instanceId : String) :
    instanceId ∈ (mergeWithTomlSnapshot liveDisks tomlDisks).map DiskIdentity.instanceId ↔
      instanceId ∈ tomlDisks.map DiskIdentity.instanceId ∨
        instanceId ∈ liveDisks.map DiskIdentity.instanceId := by
  rcases collectDisks_spec (tomlDisks ++ liveDisks) with ⟨filed, collected⟩
  rw [← List.mem_append, ← List.map_append, ← collected, AList.mem_keys, mergeWithTomlSnapshot]
  simp only [List.mem_map, List.mem_mergeSort, AList.keys, List.keys, exists_exists_and_eq_and]
  constructor
  · rintro ⟨entry, member, rfl⟩
    exact ⟨entry, member, (filed entry member).symm⟩
  · rintro ⟨entry, member, rfl⟩
    exact ⟨entry, member, filed entry member⟩

/-- `update_disk_enumerator`. -/
def updateDiskEnumerator (enumerator : DiskEnumerator) (updatedList : List DiskIdentity) :
    DiskEnumerator :=
  { enumerator with
    discoveredDisks := updatedList
    driveLetterMap := updatedList.foldl
      (fun map disk =>
        match disk.driveLetter with
        | some letter => map.insert letter disk
        | none => map) ∅
    instanceIdMap := insertDisks (fun _ => none) updatedList
    enumerationComplete := true }

/-! ## The allowlist of the server -/

/-- `merge_disk_allowlist_into_map`. -/
def mergeDiskAllowlistIntoMap (enumerator : DiskEnumerator) (oldIds : List String)
    (newList : List DiskIdentity) : DiskEnumerator :=
  let newIds := newList.map DiskIdentity.instanceId
  let removed := fun id =>
    if id ∈ oldIds ∧ id ∉ newIds then none else enumerator.instanceIdMap id
  { enumerator with
    instanceIdMap := insertDisks removed newList }

/-- The disks that the merge leaves unregistered. -/
theorem mergeDiskAllowlistIntoMap_eq_none_iff (enumerator : DiskEnumerator) (oldIds : List String)
    (newList : List DiskIdentity) (instanceId : String) :
    (enumerator.mergeDiskAllowlistIntoMap oldIds newList).instanceIdMap instanceId = none ↔
      instanceId ∉ newList.map DiskIdentity.instanceId ∧
        (instanceId ∈ oldIds ∨ enumerator.instanceIdMap instanceId = none) := by
  rw [mergeDiskAllowlistIntoMap, insertDisks_eq_none_iff]
  by_cases kept : instanceId ∈ newList.map DiskIdentity.instanceId
  · simp only [kept, not_true_eq_false, false_and]
  · by_cases old : instanceId ∈ oldIds
    · simp only [kept, old, not_false_eq_true, and_self, if_true, true_or]
    · simp only [kept, old, not_false_eq_true, false_and, if_false, true_and, false_or]

end DiskEnumerator

/-! ## Effects -/

/-- The event types of disk audits. -/
inductive DiskEventType
  | diskMountBlocked
  | diskQuarantineStarted
  | diskQuarantineExpired
  deriving DecidableEq

/-- An audit about a disk, without the context of the emitter. -/
structure DiskAudit where
  eventType : DiskEventType
  resource : String
  classification : Classification
  action : Action
  decision : Decision
  blockedDisk : DiskIdentity
  justification : Option String
  deriving DecidableEq

/-- `emit_disk_mount_blocked`. -/
def emitDiskMountBlocked (disk : DiskIdentity) : DiskAudit :=
  ⟨.diskMountBlocked, "disk://mount-blocked", .T4, .write, .deny, disk, none⟩

/-- `emit_disk_quarantine_started`. -/
def emitDiskQuarantineStarted (disk : DiskIdentity) (graceSeconds : Nat) : DiskAudit :=
  ⟨.diskQuarantineStarted, "disk://quarantine-started", .T3, .write, .deny, disk,
    some ("Unregistered disk placed in grace period quarantine for " ++ toString graceSeconds ++
      " seconds")⟩

/-- `emit_disk_quarantine_expired`. -/
def emitDiskQuarantineExpired (disk : DiskIdentity) : DiskAudit :=
  ⟨.diskQuarantineExpired, "disk://quarantine-expired", .T3, .write, .deny, disk,
    some "Grace period expired -- mount-time block applied to unregistered disk"⟩

/-- What a handler does outside the maps. -/
inductive DiskEffect
  | mountBlock (letter : Char) (disk : DiskIdentity) (works : Bool)
  | audit (event : DiskAudit)
  | toast (title body : String)
  | timer (instanceId : String) (due : Nat)
  deriving DecidableEq

/-- `block_disk_at_mount_time`: the removal of the drive letter works or fails, what follows
it is best effort. -/
def blockDiskAtMountTime (letter : Char) (disk : DiskIdentity) (works : Bool) : List DiskEffect :=
  .mountBlock letter disk works :: if works then [.audit (emitDiskMountBlocked disk)] else []

/-! ## Device events -/

namespace DiskEnumerator

/-- `start_grace_period`.  A timer needs a runtime to run on. -/
def startGracePeriod (enumerator : DiskEnumerator) (letter : Char) (disk : DiskIdentity)
    (graceSeconds : Nat) (hasRuntime : Bool) (now : Nat) : DiskEnumerator × List DiskEffect :=
  if letter ∈ enumerator.driveLetterMap then (enumerator, [])
  else
    ({ enumerator with
        driveLetterMap := enumerator.driveLetterMap.insert letter disk
        gracePeriodMap := Function.update enumerator.gracePeriodMap disk.instanceId (some now) },
      [.audit (emitDiskQuarantineStarted disk graceSeconds),
        .toast "Disk Quarantine Started"
          (disk.model ++ " (" ++ letter.toString ++ ":) — unregistered disk. You have " ++
            toString graceSeconds ++ " seconds to register it before it is blocked.")] ++
        if hasRuntime then [.timer disk.instanceId (now + graceSeconds * 1000)] else [])

/-- One disk in the loop of `on_disk_arrival_inner`.  `blockWorks` tells of each disk whether
a mount block of it works. -/
def arriveDisk (blockWorks : String → Bool) (hasRuntime : Bool) (now : Nat)
    (enumerator : DiskEnumerator) (disk : DiskIdentity) : DiskEnumerator × List DiskEffect :=
  match disk.driveLetter with
  | none => (enumerator, [])
  | some letter =>
      if (enumerator.instanceIdMap disk.instanceId).isNone then
        if 0 < enumerator.diskGracePeriodSeconds then
          enumerator.startGracePeriod letter disk enumerator.diskGracePeriodSeconds hasRuntime now
        else (enumerator, blockDiskAtMountTime letter disk (blockWorks disk.instanceId))
      else if letter ∈ enumerator.driveLetterMap then (enumerator, [])
      else
        ({ enumerator with driveLetterMap := enumerator.driveLetterMap.insert letter disk }, [])

/-- `on_disk_arrival_inner`. -/
def onDiskArrivalInner (blockWorks : String → Bool) (hasRuntime : Bool) (now : Nat) :
    DiskEnumerator → List DiskIdentity → DiskEnumerator × List DiskEffect
  | enumerator, [] => (enumerator, [])
  | enumerator, disk :: rest =>
      let (after, effects) := enumerator.arriveDisk blockWorks hasRuntime now disk
      let (last, others) := onDiskArrivalInner blockWorks hasRuntime now after rest
      (last, effects ++ others)

/-- `on_disk_arrival`: without an enumeration of the disks nothing happens. -/
def onDiskArrival (blockWorks : String → Bool) (hasRuntime : Bool) (now : Nat)
    (enumerator : DiskEnumerator) : Option (List DiskIdentity) → DiskEnumerator × List DiskEffect
  | none => (enumerator, [])
  | some liveDisks => enumerator.onDiskArrivalInner blockWorks hasRuntime now liveDisks

end DiskEnumerator

/-- What stands before the class of the device, `#` and a brace. -/
def beforeClass : List Char → List Char
  | [] => []
  | '#' :: '\x7b' :: _ => []
  | char :: rest => char :: beforeClass rest

/-- `extract_disk_instance_id`. -/
def extractDiskInstanceId (devicePath : String) : String :=
  let path := devicePath.toList
  let withoutMark := if "\\\\?\\".toList.isPrefixOf path then path.drop 4 else path
  String.ofList ((beforeClass withoutMark).map fun char => if char = '#' then '\\' else char)

example : extractDiskInstanceId "\\\\?\\USBSTOR#Disk#1234#\x7b53f56307\x7d" =
    "USBSTOR\\Disk\\1234" := by
  decide +kernel

namespace DiskEnumerator

/-- `on_disk_removal`. -/
def onDiskRemoval (enumerator : DiskEnumerator) (devicePath : String) (first : Char) :
    DiskEnumerator :=
  let instanceId := extractDiskInstanceId devicePath
  if instanceId = "" then enumerator
  else
    { enumerator with
      driveLetterMap :=
        match enumerator.driveLetterMap.findEntry first instanceId with
        | some entry => enumerator.driveLetterMap.erase entry.1
        | none => enumerator.driveLetterMap
      gracePeriodMap := Function.update enumerator.gracePeriodMap instanceId none }

/-- `enforce_grace_period_expiry`. -/
def enforceGracePeriodExpiry (enumerator : DiskEnumerator) (instanceId : String) (first : Char)
    (blockWorks : Bool) : DiskEnumerator × List DiskEffect :=
  let ended := { enumerator with
    gracePeriodMap := Function.update enumerator.gracePeriodMap instanceId none }
  match enumerator.driveLetterMap.findEntry first instanceId with
  | none => (ended, [])
  | some (_, disk) =>
      match disk.driveLetter with
      | none => (ended, [.audit (emitDiskQuarantineExpired disk)])
      | some letter =>
          ({ ended with driveLetterMap := enumerator.driveLetterMap.erase letter },
            blockDiskAtMountTime letter disk blockWorks ++
              [.audit (emitDiskQuarantineExpired disk)])

theorem enforceGracePeriodExpiry_of_missing {enumerator : DiskEnumerator} {instanceId : String}
    {first : Char} (missing : enumerator.driveLetterMap.findEntry first instanceId = none)
    (blockWorks : Bool) :
    enumerator.enforceGracePeriodExpiry instanceId first blockWorks =
      ({ enumerator with
          gracePeriodMap := Function.update enumerator.gracePeriodMap instanceId none }, []) := by
  simp [enforceGracePeriodExpiry, missing]

theorem enforceGracePeriodExpiry_of_found {enumerator : DiskEnumerator} {instanceId : String}
    {first letter : Char} {entry : Char × DiskIdentity}
    (found : enumerator.driveLetterMap.findEntry first instanceId = some entry)
    (lettered : entry.2.driveLetter = some letter) (blockWorks : Bool) :
    enumerator.enforceGracePeriodExpiry instanceId first blockWorks =
      ({ enumerator with
          gracePeriodMap := Function.update enumerator.gracePeriodMap instanceId none
          driveLetterMap := enumerator.driveLetterMap.erase letter },
        blockDiskAtMountTime letter entry.2 blockWorks ++
          [.audit (emitDiskQuarantineExpired entry.2)]) := by
  simp [enforceGracePeriodExpiry, found, lettered]

end DiskEnumerator

end DlpSystem.Agent
