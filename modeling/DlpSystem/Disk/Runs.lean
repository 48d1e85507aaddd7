import DlpSystem.Agent.DriveEnforcers
import DlpSystem.Lib.EventRun

/-!
# Runs of device events

The disk handlers of the agent as a machine: arrivals, removals, merges of the server's
allowlist and the ends of grace periods, in any order.  Beside the enumerator it keeps
what the handlers cannot see: the disks that are connected, the mount blocks that worked,
and the end of the latest grace period of each disk.
-/

namespace DlpSystem.Disks

open Abac Agent Lib

/-- A timer that `start_grace_period` has spawned. -/
structure GraceTimer where
  instanceId : String
  due : Nat
  deriving DecidableEq

/-- The agent and the machine it runs on. -/
structure DiskAgent where
  enumerator : DiskEnumerator
  timers : List GraceTimer
  connected : List DiskIdentity
  /-- A mount block of the disk has worked since it last arrived. -/
  blocked : String → Bool
  /-- The end of the grace period that was started last for the disk. -/
  latestDue : String → Option Nat

/-- The steps of a run. -/
inductive DiskStep
  /-- A device arrives.  `liveDisks` are connected from now on.  The enumeration fails, or
  finds some of them. -/
  | arrival (liveDisks : List DiskIdentity) (finds : Option (DiskIdentity → Bool))
      (blockWorks : String → Bool) (hasRuntime : Bool) (now : Nat)
  /-- The disk `gone` is removed, and the handler is told a device path. -/
  | removal (gone devicePath : String) (first : Char)
  | merge (oldIds : List String) (newList : List DiskIdentity)
  /-- A timer fires, at some moment from its due time on. -/
  | expiry (index : Nat) (first : Char) (blockWorks : Bool) (now : Nat)

/-- The disks that an enumeration finds.  One that fails finds none. -/
def found (liveDisks : List DiskIdentity) (finds : Option (DiskIdentity → Bool)) :
    List DiskIdentity :=
  (finds.map liveDisks.filter).getD []

theorem mem_of_mem_found {liveDisks : List DiskIdentity} {finds : Option (DiskIdentity → Bool)}
    {disk : DiskIdentity} (isFound : disk ∈ found liveDisks finds) : disk ∈ liveDisks := by
  cases finds with
  | none => cases isFound
  | some finds => exact List.mem_of_mem_filter isFound

/-- The timer that an effect spawns. -/
def spawnedTimer : DiskEffect → Option GraceTimer
  | .timer instanceId due => some ⟨instanceId, due⟩
  | _ => none

/-- A mount block of the disk that works. -/
def blocksDisk (instanceId : String) : DiskEffect → Bool
  | .mountBlock _ disk works => works && decide (disk.instanceId = instanceId)
  | _ => false

/-- The start of a grace period of the disk. -/
def startsPeriod (instanceId : String) : DiskEffect → Bool
  | .audit event =>
      decide (event.eventType = .diskQuarantineStarted) &&
        decide (event.blockedDisk.instanceId = instanceId)
  | _ => false

/-- A letter has an entry of the disk. -/
def watches (letters : LetterMap) (letter : Char) (instanceId : String) : Bool :=
  (letters.lookup letter).any fun disk => disk.instanceId = instanceId

theorem watches_iff {letters : LetterMap} {letter : Char} {instanceId : String} :
    watches letters letter instanceId = true ↔
      ∃ disk, letters.lookup letter = some disk ∧ disk.instanceId = instanceId := by
  simp [watches, Option.any_eq_true]

theorem watches_erase {letters : LetterMap} {letter other : Char} (differ : letter ≠ other)
    (instanceId : String) :
    watches (letters.erase other) letter instanceId = watches letters letter instanceId := by
  rw [watches, AList.lookup_erase_ne differ, watches]

/-- The entry of a disk stays when that of another one goes. -/
theorem watches_erase_of_other {letters : LetterMap} {gone letter : Char} {entry : DiskIdentity}
    {instanceId : String} (isEntry : letters.lookup gone = some entry)
    (own : watches letters letter instanceId = true)
    (other : letter = gone → entry.instanceId ≠ instanceId) :
    watches (letters.erase gone) letter instanceId = true := by
  have differs : letter ≠ gone := by
    intro isLetter
    rcases watches_iff.mp own with ⟨present, isPresent, same⟩
    rw [isLetter, isEntry] at isPresent
    cases isPresent
    exact other isLetter same
  exact (watches_erase differs instanceId).trans own

-- The letters of the disks are gone through, and not all characters.
instance decidableLetters {holds : DiskIdentity → Char → Prop}
    [∀ disk letter, Decidable (holds disk letter)] (disks : List DiskIdentity) :
    Decidable (∀ disk ∈ disks, ∀ letter ∈ disk.driveLetter, holds disk letter) :=
  @List.decidableBAll DiskIdentity (fun disk => ∀ letter ∈ disk.driveLetter, holds disk letter)
    (fun disk => Option.decidableForallMem disk.driveLetter) disks

/-- Entries are filed under their own letter. -/
def Filed (letters : LetterMap) : Prop :=
  ∀ letter entry, letters.lookup letter = some entry → entry.driveLetter = some letter

theorem Filed.erase {letters : LetterMap} (filed : Filed letters) (gone : Char) :
    Filed (letters.erase gone) := by
  intro letter entry present
  by_cases same : letter = gone
  · subst same
    rw [AList.lookup_erase] at present
    cases present
  · rw [AList.lookup_erase_ne same] at present
    exact filed letter entry present

theorem Filed.insert {letters : LetterMap} (filed : Filed letters) {letter : Char}
    {disk : DiskIdentity} (lettered : disk.driveLetter = some letter) :
    Filed (letters.insert letter disk) := by
  intro other entry present
  by_cases same : other = letter
  · subst same
    rw [AList.lookup_insert] at present
    cases present
    exact lettered
  · rw [AList.lookup_insert_ne same] at present
    exact filed other entry present

namespace DiskAgent

/-- The agent after a completed enumeration. -/
def start (liveDisks tomlDisks : List DiskIdentity) (bootLetter : Option Char)
    (graceSeconds : Nat) : DiskAgent where
  enumerator := (DiskEnumerator.new.setGracePeriodSeconds graceSeconds).updateDiskEnumerator
    (DiskEnumerator.mergeWithTomlSnapshot (DiskEnumerator.markBootDisk bootLetter liveDisks)
      tomlDisks)
  timers := []
  connected := liveDisks
  blocked := fun _ => false
  latestDue := fun _ => none

/-- A disk is connected. -/
def isConnected (agent : DiskAgent) (instanceId : String) : Bool :=
  agent.connected.any fun disk => disk.instanceId = instanceId

/-- A mount block still counts: the disk has been connected ever since. -/
def stillBlocked (agent : DiskAgent) (instanceId : String) : Bool :=
  agent.blocked instanceId && agent.isConnected instanceId

/-- A handler has returned with an enumerator and its effects. -/
def after (agent : DiskAgent) (now : Nat) (outcome : DiskEnumerator × List DiskEffect) :
    DiskAgent :=
  { agent with
    enumerator := outcome.1
    timers := agent.timers ++ outcome.2.filterMap spawnedTimer
    blocked := fun instanceId => agent.blocked instanceId || outcome.2.any (blocksDisk instanceId)
    latestDue := fun instanceId =>
      if outcome.2.any (startsPeriod instanceId) then
        some (now + agent.enumerator.diskGracePeriodSeconds * 1000)
      else agent.latestDue instanceId }

/-- What the handler of an expiry returns with. -/
def expiryOutcome (agent : DiskAgent) (timer : GraceTimer) (first : Char) (blockWorks : Bool) :
    DiskEnumerator × List DiskEffect :=
  agent.enumerator.enforceGracePeriodExpiry timer.instanceId first blockWorks

/-- The timer with an index, when it is due. -/
def firing (agent : DiskAgent) (index now : Nat) : Option GraceTimer :=
  agent.timers[index]?.filter fun timer => decide (timer.due ≤ now)

/-- One step. -/
def next (agent : DiskAgent) : DiskStep → DiskAgent
  | .arrival liveDisks finds blockWorks hasRuntime now =>
      { agent with connected := liveDisks, blocked := agent.stillBlocked }.after now
        (agent.enumerator.onDiskArrival blockWorks hasRuntime now (finds.map liveDisks.filter))
  | .removal gone devicePath first =>
      { agent with
        enumerator := agent.enumerator.onDiskRemoval devicePath first
        connected := agent.connected.filter fun disk => decide (disk.instanceId ≠ gone) }
  | .merge oldIds newList =>
      { agent with enumerator := agent.enumerator.mergeDiskAllowlistIntoMap oldIds newList }
  | .expiry index first blockWorks now =>
      match agent.firing index now with
      | none => agent
      | some timer =>
          { agent with timers := agent.timers.eraseIdx index }.after now
            (agent.expiryOutcome timer first blockWorks)

end DiskAgent

theorem filed_start (liveDisks tomlDisks : List DiskIdentity) (bootLetter : Option Char)
    (graceSeconds : Nat) :
    Filed (DiskAgent.start liveDisks tomlDisks bootLetter graceSeconds).enumerator.driveLetterMap := by
  have empty : Filed (∅ : LetterMap) := by
    intro letter entry present
    cases present
  apply List.foldlRecOn _ _ empty
  intro letters filed disk _
  cases lettered : disk.driveLetter with
  | none => exact filed
  | some letter => exact filed.insert lettered

/-- An enumeration registers the disks that it finds and those of the configuration. -/
theorem start_unregistered_iff (liveDisks tomlDisks : List DiskIdentity)
    (bootLetter : Option Char) (graceSeconds : Nat) (instanceId : String) :
    (DiskAgent.start liveDisks tomlDisks bootLetter graceSeconds).enumerator.instanceIdMap
        instanceId = none ↔
      instanceId ∉ tomlDisks.map DiskIdentity.instanceId ∧
        instanceId ∉ liveDisks.map DiskIdentity.instanceId := by
  have registered : (DiskAgent.start liveDisks tomlDisks bootLetter
      graceSeconds).enumerator.instanceIdMap = insertDisks (fun _ => none)
        (DiskEnumerator.mergeWithTomlSnapshot (DiskEnumerator.markBootDisk bootLetter liveDisks)
          tomlDisks) := rfl
  rw [registered, insertDisks_eq_none_iff, DiskEnumerator.mergeWithTomlSnapshot_ids,
    DiskEnumerator.markBootDisk_ids, not_or]
  exact and_iff_left rfl

/-! ## The loop of an arrival -/

section Arrival

variable (blockWorks : String → Bool) (hasRuntime : Bool) (now : Nat) (enumerator : DiskEnumerator)

/-- A failed enumeration changes nothing, like one that finds no disk. -/
theorem next_arrival (agent : DiskAgent) (liveDisks : List DiskIdentity)
    (finds : Option (DiskIdentity → Bool)) :
    agent.next (.arrival liveDisks finds blockWorks hasRuntime now) =
      { agent with connected := liveDisks, blocked := agent.stillBlocked }.after now
        (agent.enumerator.onDiskArrivalInner blockWorks hasRuntime now
          (found liveDisks finds)) := by
  cases finds with
  | none => rfl
  | some finds => rfl

/-- One disk in the loop: the letter map stays, or takes the disk at a free letter. -/
theorem arriveDisk_letters (disk : DiskIdentity) :
    (enumerator.arriveDisk blockWorks hasRuntime now disk).1.driveLetterMap =
        enumerator.driveLetterMap ∨
      ∃ letter, disk.driveLetter = some letter ∧ letter ∉ enumerator.driveLetterMap ∧
        (enumerator.arriveDisk blockWorks hasRuntime now disk).1.driveLetterMap =
          enumerator.driveLetterMap.insert letter disk := by
  unfold DiskEnumerator.arriveDisk DiskEnumerator.startGracePeriod
  cases lettered : disk.driveLetter with
  | none => exact Or.inl rfl
  | some letter =>
      dsimp only
      by_cases taken : letter ∈ enumerator.driveLetterMap
      · left
        repeat' split
        all_goals rfl
      · by_cases unregistered : (enumerator.instanceIdMap disk.instanceId).isNone
        · by_cases grace : 0 < enumerator.diskGracePeriodSeconds
          · right
            refine ⟨letter, rfl, taken, ?_⟩
            simp [unregistered, grace, taken]
          · left
            simp [unregistered, grace]
        · right
          refine ⟨letter, rfl, taken, ?_⟩
          simp [unregistered, taken]

@[simp]
theorem arriveDisk_instanceIdMap (disk : DiskIdentity) :
    (enumerator.arriveDisk blockWorks hasRuntime now disk).1.instanceIdMap =
      enumerator.instanceIdMap := by
  unfold DiskEnumerator.arriveDisk DiskEnumerator.startGracePeriod
  repeat' split
  all_goals rfl

@[simp]
theorem arriveDisk_seconds (disk : DiskIdentity) :
    (enumerator.arriveDisk blockWorks hasRuntime now disk).1.diskGracePeriodSeconds =
      enumerator.diskGracePeriodSeconds := by
  unfold DiskEnumerator.arriveDisk DiskEnumerator.startGracePeriod
  repeat' split
  all_goals rfl

/-- An entry of the letter map stays. -/
theorem arriveDisk_lookup (disk : DiskIdentity) {letter : Char} {entry : DiskIdentity}
    (found : enumerator.driveLetterMap.lookup letter = some entry) :
    (enumerator.arriveDisk blockWorks hasRuntime now disk).1.driveLetterMap.lookup letter =
      some entry := by
  rcases arriveDisk_letters blockWorks hasRuntime now enumerator disk with
    same | ⟨free, _, isFree, inserted⟩
  · rw [same, found]
  · have other : letter ≠ free := by
      rintro rfl
      exact isFree (AList.lookup_isSome.mp (by rw [found]; rfl))
    rw [inserted, AList.lookup_insert_ne other, found]

theorem onDiskArrivalInner_cons (disk : DiskIdentity) (rest : List DiskIdentity) :
    enumerator.onDiskArrivalInner blockWorks hasRuntime now (disk :: rest) =
      (((enumerator.arriveDisk blockWorks hasRuntime now disk).1.onDiskArrivalInner blockWorks
          hasRuntime now rest).1,
        (enumerator.arriveDisk blockWorks hasRuntime now disk).2 ++
          ((enumerator.arriveDisk blockWorks hasRuntime now disk).1.onDiskArrivalInner blockWorks
            hasRuntime now rest).2) :=
  rfl

@[simp]
theorem onDiskArrivalInner_instanceIdMap (disks : List DiskIdentity) :
    (enumerator.onDiskArrivalInner blockWorks hasRuntime now disks).1.instanceIdMap =
      enumerator.instanceIdMap := by
  induction disks generalizing enumerator with
  | nil => rfl
  | cons disk rest ih => rw [onDiskArrivalInner_cons, ih, arriveDisk_instanceIdMap]

theorem onDiskArrivalInner_lookup (disks : List DiskIdentity) {letter : Char}
    {entry : DiskIdentity} (found : enumerator.driveLetterMap.lookup letter = some entry) :
    (enumerator.onDiskArrivalInner blockWorks hasRuntime now disks).1.driveLetterMap.lookup letter =
      some entry := by
  induction disks generalizing enumerator with
  | nil => exact found
  | cons disk rest ih =>
      rw [onDiskArrivalInner_cons]
      exact ih _ (arriveDisk_lookup blockWorks hasRuntime now enumerator disk found)

/-- What holds of the disks of the letter map and of those that arrive holds of the disks
that are in the letter map afterwards. -/
theorem onDiskArrivalInner_entries (holds : Char → DiskIdentity → Prop)
    (disks : List DiskIdentity)
    (before : ∀ letter entry, enumerator.driveLetterMap.lookup letter = some entry →
      holds letter entry)
    (arriving : ∀ disk ∈ disks, ∀ letter, disk.driveLetter = some letter → holds letter disk)
    {letter : Char} {entry : DiskIdentity}
    (found : (enumerator.onDiskArrivalInner blockWorks hasRuntime now
      disks).1.driveLetterMap.lookup letter = some entry) : holds letter entry := by
  induction disks generalizing enumerator with
  | nil => exact before letter entry found
  | cons disk rest ih =>
      rw [onDiskArrivalInner_cons] at found
      refine ih _ ?_ (fun other member => arriving other (List.mem_cons_of_mem disk member)) found
      intro letter entry found
      rcases arriveDisk_letters blockWorks hasRuntime now enumerator disk with
        same | ⟨free, lettered, _, inserted⟩
      · exact before letter entry (same ▸ found)
      · rw [inserted] at found
        by_cases here : letter = free
        · subst here
          rw [AList.lookup_insert] at found
          cases found
          exact arriving _ List.mem_cons_self letter lettered
        · exact before letter entry (by rwa [AList.lookup_insert_ne here] at found)

end Arrival

/-! ## A disk that is plugged in -/

/-- A disk with a letter. -/
def sampleDisk (instanceId : String) (letter : Char) : DiskIdentity :=
  ⟨instanceId, .sata, "disk", some letter, none, none, false, none, none, none⟩

/-- A disk arrives at the letter E beside the system disk. -/
def plugIn (blockWorks : Bool) : DiskStep :=
  .arrival [sampleDisk "SYS" 'C', sampleDisk "NEW" 'E'] (some fun _ => true)
    (fun _ => blockWorks) true 0

end DlpSystem.Disks
