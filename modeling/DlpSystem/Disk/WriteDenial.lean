import DlpSystem.Disk.Runs

/-!
# Writes to unregistered disks

A disk that is connected and not registered is to be write-protected at I/O time, unless
a mount block has taken its letter.  The check at I/O time goes by the letter map, so it
holds as long as such a disk has the entry of its letter.
-/

namespace DlpSystem.Disks

open Abac Agent Lib

/-- Every write to the letter of an unregistered disk is denied, unless a mount block of the
disk has worked since it last arrived. -/
def WritesDenied (agent : DiskAgent) : Prop :=
  ∀ disk ∈ agent.connected, ∀ letter, disk.driveLetter = some letter →
    agent.enumerator.instanceIdMap disk.instanceId = none →
    agent.blocked disk.instanceId = false →
    ∀ (enforcer : DiskEnforcer) (now : Nat) (path : String) (action : FileAction),
      isDiskWrite action = true → driveLetterFromPath path = some letter →
        ∃ result, (enforcer.check (some agent.enumerator) now path action).1 = some result ∧
          result.decision = .deny

/-! ## The condition on the steps -/

/-- The arrival handler takes care of a disk at a letter: it finds the letter free for a grace
period, or its mount block works. -/
def Covered (agent : DiskAgent) (enumerated : List DiskIdentity) (blockWorks : String → Bool)
    (disk : DiskIdentity) (letter : Char) : Prop :=
  disk ∈ enumerated ∧
    if 0 < agent.enumerator.diskGracePeriodSeconds then
      letter ∉ agent.enumerator.driveLetterMap ∧
        ∀ other ∈ enumerated, other.driveLetter = some letter →
          other.instanceId = disk.instanceId
    else blockWorks disk.instanceId = true

instance (agent : DiskAgent) (enumerated : List DiskIdentity) (blockWorks : String → Bool)
    (disk : DiskIdentity) (letter : Char) :
    Decidable (Covered agent enumerated blockWorks disk letter) := by
  unfold Covered
  infer_instance

/-- A step takes no entry of the letter map from a disk that needs it. -/
def KeepsWatch (agent : DiskAgent) : DiskStep → Prop
  | .arrival liveDisks finds blockWorks _ _ =>
      ∀ disk ∈ liveDisks, ∀ letter ∈ disk.driveLetter,
        agent.enumerator.instanceIdMap disk.instanceId = none →
        agent.stillBlocked disk.instanceId = false →
        watches agent.enumerator.driveLetterMap letter disk.instanceId = false →
        Covered agent (found liveDisks finds) blockWorks disk letter
  | .removal gone devicePath _ =>
      ∀ disk ∈ agent.connected, disk.instanceId ≠ gone →
        disk.instanceId ≠ extractDiskInstanceId devicePath
  | .merge oldIds newList =>
      ∀ disk ∈ agent.connected, ∀ letter ∈ disk.driveLetter,
        disk.instanceId ∈ oldIds → disk.instanceId ∉ newList.map DiskIdentity.instanceId →
        agent.blocked disk.instanceId = false →
        watches agent.enumerator.driveLetterMap letter disk.instanceId = true
  | .expiry index first blockWorks now =>
      ∀ timer ∈ agent.firing index now,
        ∀ entry ∈ agent.enumerator.driveLetterMap.findEntry first timer.instanceId,
          ∀ disk ∈ agent.connected, disk.instanceId = timer.instanceId →
            disk.driveLetter = some entry.1 →
            agent.enumerator.instanceIdMap disk.instanceId = none →
            agent.blocked disk.instanceId = false → blockWorks = true

instance (agent : DiskAgent) : ∀ step, Decidable (KeepsWatch agent step)
  | .arrival liveDisks _ _ _ _ =>
      inferInstanceAs (Decidable (∀ disk ∈ liveDisks, ∀ letter ∈ disk.driveLetter, _))
  | .removal _ _ _ => inferInstanceAs (Decidable (∀ disk ∈ agent.connected, _))
  | .merge _ _ =>
      inferInstanceAs (Decidable (∀ disk ∈ agent.connected, ∀ letter ∈ disk.driveLetter, _))
  | .expiry index first _ now =>
      inferInstanceAs (Decidable (∀ timer ∈ agent.firing index now,
        ∀ entry ∈ agent.enumerator.driveLetterMap.findEntry first timer.instanceId,
          ∀ disk ∈ agent.connected, _))

/-! ## The invariant -/

/-- Entries are filed under their own letter, and a connected, unregistered disk without a
mount block has the entry of its letter. -/
structure Watched (agent : DiskAgent) : Prop where
  filed : Filed agent.enumerator.driveLetterMap
  watched : ∀ disk ∈ agent.connected, ∀ letter, disk.driveLetter = some letter →
    agent.enumerator.instanceIdMap disk.instanceId = none →
    agent.blocked disk.instanceId = false →
    watches agent.enumerator.driveLetterMap letter disk.instanceId = true

theorem Watched.writesDenied {agent : DiskAgent} (watched : Watched agent) :
    WritesDenied agent := by
  intro disk connected letter lettered unregistered unblocked enforcer now path action writes
    onLetter
  rcases watches_iff.mp (watched.watched disk connected letter lettered unregistered unblocked)
    with ⟨entry, found, same⟩
  exact enforcer.check_denies now writes onLetter found (by rw [same]; exact unregistered)

/-! ## Arrivals -/

section Arrival

variable (blockWorks : String → Bool) (hasRuntime : Bool) (now : Nat) (enumerator : DiskEnumerator)

/-- A grace period gives the disk the entry of its letter, if the letter is free and no other
disk of the loop has it. -/
theorem onDiskArrivalInner_watches {disks : List DiskIdentity} {disk : DiskIdentity}
    {letter : Char} (arrives : disk ∈ disks) (lettered : disk.driveLetter = some letter)
    (unregistered : enumerator.instanceIdMap disk.instanceId = none)
    (grace : 0 < enumerator.diskGracePeriodSeconds)
    (free : letter ∉ enumerator.driveLetterMap)
    (alone : ∀ other ∈ disks, other.driveLetter = some letter →
      other.instanceId = disk.instanceId) :
    watches (enumerator.onDiskArrivalInner blockWorks hasRuntime now disks).1.driveLetterMap
      letter disk.instanceId = true := by
  induction disks generalizing enumerator with
  | nil => cases arrives
  | cons other rest ih =>
      rw [onDiskArrivalInner_cons]
      by_cases here : other.driveLetter = some letter
      · -- The first disk with the letter takes it, and it is the disk itself.
        have same := alone other List.mem_cons_self here
        have inserted : (enumerator.arriveDisk blockWorks hasRuntime now
            other).1.driveLetterMap = enumerator.driveLetterMap.insert letter other := by
          simp [DiskEnumerator.arriveDisk, DiskEnumerator.startGracePeriod, here, same,
            unregistered, grace, free]
        have found := onDiskArrivalInner_lookup blockWorks hasRuntime now
          (enumerator.arriveDisk blockWorks hasRuntime now other).1 rest
          (show _ = some other by rw [inserted, AList.lookup_insert])
        exact watches_iff.mpr ⟨other, found, same⟩
      · have arrivesLater : disk ∈ rest := by
          rcases List.mem_cons.mp arrives with rfl | later
          · exact absurd lettered here
          · exact later
        refine ih _ arrivesLater ?_ ?_ ?_
          fun another member => alone another (List.mem_cons_of_mem other member)
        · rw [arriveDisk_instanceIdMap, unregistered]
        · rw [arriveDisk_seconds]
          exact grace
        · rcases arriveDisk_letters blockWorks hasRuntime now enumerator other with
            unchanged | ⟨taken, isLetter, _, inserted⟩
          · rwa [unchanged]
          · rw [inserted, AList.mem_insert]
            rintro (rfl | already)
            · exact here isLetter
            · exact free already

/-- Without grace periods the mount block of each unregistered disk with a letter is tried. -/
theorem onDiskArrivalInner_blocks {disks : List DiskIdentity} {disk : DiskIdentity}
    {letter : Char} (arrives : disk ∈ disks) (lettered : disk.driveLetter = some letter)
    (unregistered : enumerator.instanceIdMap disk.instanceId = none)
    (noGrace : enumerator.diskGracePeriodSeconds = 0)
    (works : blockWorks disk.instanceId = true) :
    (enumerator.onDiskArrivalInner blockWorks hasRuntime now disks).2.any
      (blocksDisk disk.instanceId) = true := by
  induction disks generalizing enumerator with
  | nil => cases arrives
  | cons other rest ih =>
      rw [onDiskArrivalInner_cons, List.any_append, Bool.or_eq_true]
      rcases List.mem_cons.mp arrives with rfl | later
      · left
        simp [DiskEnumerator.arriveDisk, lettered, unregistered, noGrace, blockDiskAtMountTime,
          works, blocksDisk]
      · right
        exact ih _ later (by rw [arriveDisk_instanceIdMap, unregistered])
          (by rw [arriveDisk_seconds, noGrace])

end Arrival

namespace Watched

variable {agent : DiskAgent}

theorem arrival (watched : Watched agent) {liveDisks : List DiskIdentity}
    {finds : Option (DiskIdentity → Bool)} {blockWorks : String → Bool} {hasRuntime : Bool}
    {now : Nat} (keeps : KeepsWatch agent (.arrival liveDisks finds blockWorks hasRuntime now)) :
    Watched (agent.next (.arrival liveDisks finds blockWorks hasRuntime now)) := by
  rw [next_arrival]
  constructor
  · intro letter entry found
    exact onDiskArrivalInner_entries blockWorks hasRuntime now agent.enumerator
      (fun letter entry => entry.driveLetter = some letter) _ watched.filed
      (fun disk _ letter lettered => lettered) found
  · intro disk live letter lettered unregistered unblocked
    simp only [DiskAgent.after, onDiskArrivalInner_instanceIdMap, Bool.or_eq_false_iff]
      at unregistered unblocked ⊢
    cases before : watches agent.enumerator.driveLetterMap letter disk.instanceId with
    | true =>
        rcases watches_iff.mp before with ⟨entry, found, same⟩
        exact watches_iff.mpr ⟨entry,
          onDiskArrivalInner_lookup blockWorks hasRuntime now agent.enumerator _ found, same⟩
    | false =>
        rcases keeps disk live letter lettered unregistered unblocked.1 before with
          ⟨listed, covers⟩
        by_cases grace : 0 < agent.enumerator.diskGracePeriodSeconds
        · rw [if_pos grace] at covers
          exact onDiskArrivalInner_watches blockWorks hasRuntime now agent.enumerator listed
            lettered unregistered grace covers.1 covers.2
        · rw [if_neg grace] at covers
          have blocks := onDiskArrivalInner_blocks blockWorks hasRuntime now agent.enumerator listed
            lettered unregistered (Nat.eq_zero_of_not_pos grace) covers
          rw [unblocked.2] at blocks
          cases blocks

/-! ## The other steps -/

theorem removal (watched : Watched agent) {gone devicePath : String} {first : Char}
    (keeps : KeepsWatch agent (.removal gone devicePath first)) :
    Watched (agent.next (.removal gone devicePath first)) := by
  simp only [DiskAgent.next, DiskEnumerator.onDiskRemoval]
  have fewer : Watched
      { agent with
        connected := agent.connected.filter fun disk => decide (disk.instanceId ≠ gone) } :=
    ⟨watched.filed, fun disk connected =>
      watched.watched disk (List.mem_of_mem_filter connected)⟩
  split
  · exact fewer
  · cases found : agent.enumerator.driveLetterMap.findEntry first
        (extractDiskInstanceId devicePath) with
    | none => exact ⟨fewer.filed, fewer.watched⟩
    | some entry =>
        rcases LetterMap.findEntry_eq_some found with ⟨atLetter, ofGone⟩
        refine ⟨watched.filed.erase entry.1, ?_⟩
        intro disk connected letter lettered unregistered unblocked
        rcases List.mem_filter.mp connected with ⟨was, stays⟩
        have own := watched.watched disk was letter lettered unregistered unblocked
        apply watches_erase_of_other atLetter own
        intro _ same
        exact keeps disk was (by simpa using stays) (same.symm.trans ofGone)

theorem merge (watched : Watched agent) {oldIds : List String} {newList : List DiskIdentity}
    (keeps : KeepsWatch agent (.merge oldIds newList)) :
    Watched (agent.next (.merge oldIds newList)) := by
  refine ⟨watched.filed, ?_⟩
  intro disk connected letter lettered unregistered unblocked
  rcases (DiskEnumerator.mergeDiskAllowlistIntoMap_eq_none_iff agent.enumerator oldIds newList
    disk.instanceId).mp unregistered with ⟨absent, old | before⟩
  · exact keeps disk connected letter lettered old absent unblocked
  · exact watched.watched disk connected letter lettered before unblocked

theorem expiry (watched : Watched agent) {index : Nat} {first : Char} {blockWorks : Bool}
    {now : Nat} (keeps : KeepsWatch agent (.expiry index first blockWorks now)) :
    Watched (agent.next (.expiry index first blockWorks now)) := by
  simp only [DiskAgent.next]
  cases fires : agent.firing index now with
  | none => exact watched
  | some timer =>
      dsimp only
      rw [DiskAgent.expiryOutcome]
      cases found : agent.enumerator.driveLetterMap.findEntry first timer.instanceId with
      | none =>
          rw [DiskEnumerator.enforceGracePeriodExpiry_of_missing found]
          refine ⟨watched.filed, ?_⟩
          simpa [DiskAgent.after] using watched.watched
      | some entry =>
          rcases LetterMap.findEntry_eq_some found with ⟨atLetter, ofTimer⟩
          have lettered := watched.filed entry.1 entry.2 atLetter
          rw [DiskEnumerator.enforceGracePeriodExpiry_of_found found lettered]
          refine ⟨watched.filed.erase entry.1, ?_⟩
          intro disk connected letter hasLetter unregistered unblocked
          simp only [DiskAgent.after, Bool.or_eq_false_iff] at unregistered unblocked
          have own := watched.watched disk connected letter hasLetter unregistered unblocked.1
          apply watches_erase_of_other atLetter own
          rintro rfl same
          -- The entry of the disk goes, so its mount block has to work.
          have works := keeps timer fires entry found disk connected (same.symm.trans ofTimer)
            hasLetter unregistered unblocked.1
          have blocks := unblocked.2
          simp [blockDiskAtMountTime, works, blocksDisk, same] at blocks

theorem next (watched : Watched agent) {step : DiskStep} (keeps : KeepsWatch agent step) :
    Watched (agent.next step) := by
  cases step with
  | arrival liveDisks finds blockWorks hasRuntime now => exact watched.arrival keeps
  | removal gone devicePath first => exact watched.removal keeps
  | merge oldIds newList => exact watched.merge keeps
  | expiry index first blockWorks now => exact watched.expiry keeps

end Watched

theorem watched_start (liveDisks tomlDisks : List DiskIdentity) (bootLetter : Option Char)
    (graceSeconds : Nat) :
    Watched (DiskAgent.start liveDisks tomlDisks bootLetter graceSeconds) := by
  refine ⟨filed_start liveDisks tomlDisks bootLetter graceSeconds, ?_⟩
  intro disk connected letter _ unregistered
  have absent := (start_unregistered_iff liveDisks tomlDisks bootLetter graceSeconds
    disk.instanceId).mp unregistered
  exact absurd (List.mem_map_of_mem connected) absent.2

/-- From a completed enumeration on, whatever the disks and the blocks do: as long as every
step keeps watch, writes to unregistered disks are denied. -/
theorem unregistered_writes_denied (liveDisks tomlDisks : List DiskIdentity)
    (bootLetter : Option Char) (graceSeconds : Nat) (steps : List DiskStep)
    (keeps : Each DiskAgent.next KeepsWatch
      (DiskAgent.start liveDisks tomlDisks bootLetter graceSeconds) steps) :
    WritesDenied (steps.foldl DiskAgent.next
      (DiskAgent.start liveDisks tomlDisks bootLetter graceSeconds)) :=
  (keeps.invariant (fun _ _ watched keeps => watched.next keeps)
    (watched_start liveDisks tomlDisks bootLetter graceSeconds)).writesDenied

/-! ## A disk that is plugged in -/

/-- In its grace period the new disk is connected, not registered and not blocked, and no
write to it passes. -/
theorem quarantine_writes_denied :
    ((DiskAgent.start [sampleDisk "SYS" 'C'] [] (some 'C') 60).next (plugIn false)).isConnected
        "NEW" = true ∧
      ((DiskAgent.start [sampleDisk "SYS" 'C'] [] (some 'C') 60).next
        (plugIn false)).stillBlocked "NEW" = false ∧
      WritesDenied ([plugIn false].foldl DiskAgent.next
        (DiskAgent.start [sampleDisk "SYS" 'C'] [] (some 'C') 60)) := by
  refine ⟨by decide +kernel, by decide +kernel, ?_⟩
  exact unregistered_writes_denied _ _ _ _ _ (by decide +kernel)

/-- Without grace periods a mount block that fails leaves the disk writable. -/
theorem failedBlock_writes_pass :
    ¬WritesDenied ([plugIn false].foldl DiskAgent.next
      (DiskAgent.start [sampleDisk "SYS" 'C'] [] (some 'C') 0)) := by
  intro denied
  rcases denied (sampleDisk "NEW" 'E') (by decide +kernel) 'E' rfl (by decide +kernel)
    (by decide +kernel) DiskEnforcer.new 1 "E:\\a.txt" (.written "E:\\a.txt") rfl
    (by decide +kernel) with ⟨result, answer, _⟩
  have passes : (DiskEnforcer.new.check (some ([plugIn false].foldl DiskAgent.next
      (DiskAgent.start [sampleDisk "SYS" 'C'] [] (some 'C') 0)).enumerator) 1 "E:\\a.txt"
        (.written "E:\\a.txt")).1 = none := by
    decide +kernel
  rw [passes] at answer
  cases answer

end DlpSystem.Disks
