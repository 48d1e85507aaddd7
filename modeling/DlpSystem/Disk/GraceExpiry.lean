import DlpSystem.Disk.Runs

/-!
# The end of a grace period

The timer of a grace period mount-blocks the disk when it fires.  Nothing cancels it: not
the removal of the disk, not its return, not its registration.
-/

namespace DlpSystem.Disks

open Abac Agent Lib

/-- An expiry mount-blocks a disk only if the disk is connected, is not registered, and its
latest grace period is over. -/
def ExpiryProper (agent : DiskAgent) : DiskStep → Prop
  | .expiry index first blockWorks now =>
      ∀ timer ∈ agent.firing index now, ∀ letter disk works,
        .mountBlock letter disk works ∈ (agent.expiryOutcome timer first blockWorks).2 →
          agent.isConnected disk.instanceId = true ∧
          agent.enumerator.instanceIdMap disk.instanceId = none ∧
          ∃ due, agent.latestDue disk.instanceId = some due ∧ due ≤ now
  | _ => True

/-! ## The condition on the steps -/

/-- The letter map has an entry of the disk. -/
def hasEntry (letters : LetterMap) (instanceId : String) : Bool :=
  letters.keys.any fun letter => watches letters letter instanceId

theorem hasEntry_iff {letters : LetterMap} {instanceId : String} :
    hasEntry letters instanceId = true ↔
      ∃ letter disk, letters.lookup letter = some disk ∧ disk.instanceId = instanceId := by
  simp only [hasEntry, List.any_eq_true, watches_iff]
  constructor
  · rintro ⟨letter, _, disk, found, same⟩
    exact ⟨letter, disk, found, same⟩
  · rintro ⟨letter, disk, found, same⟩
    exact ⟨letter, AList.lookup_isSome.mp (by rw [found]; rfl), disk, found, same⟩

theorem hasEntry_of_erase {letters : LetterMap} {gone : Char} {instanceId : String}
    (present : hasEntry (letters.erase gone) instanceId = true) :
    ∃ letter ≠ gone, watches letters letter instanceId = true := by
  rcases hasEntry_iff.mp present with ⟨letter, disk, isEntry, same⟩
  have other : letter ≠ gone := by
    rintro rfl
    rw [AList.lookup_erase] at isEntry
    cases isEntry
  rw [AList.lookup_erase_ne other] at isEntry
  exact ⟨letter, other, watches_iff.mpr ⟨disk, isEntry, same⟩⟩

theorem hasEntry_of_watches {letters : LetterMap} {letter : Char} {instanceId : String}
    (present : watches letters letter instanceId = true) : hasEntry letters instanceId = true := by
  rcases watches_iff.mp present with ⟨disk, isEntry, same⟩
  exact hasEntry_iff.mpr ⟨letter, disk, isEntry, same⟩

theorem mem_keys_of_watches {letters : LetterMap} {letter : Char} {instanceId : String}
    (present : watches letters letter instanceId = true) : letter ∈ letters.keys := by
  rcases watches_iff.mp present with ⟨disk, isEntry, _⟩
  exact AList.lookup_isSome.mp (by rw [isEntry]; rfl)

/-- A step leaves the pending timers in order: no disk with a pending timer is registered or
starts another grace period, and one that goes loses its entry. -/
def RespectsTimers (agent : DiskAgent) : DiskStep → Prop
  | .arrival liveDisks finds _ _ _ =>
      ∀ timer ∈ agent.timers,
        (hasEntry agent.enumerator.driveLetterMap timer.instanceId = true →
          timer.instanceId ∈ liveDisks.map DiskIdentity.instanceId) ∧
        ∀ disk ∈ found liveDisks finds, ∀ letter ∈ disk.driveLetter,
          letter ∉ agent.enumerator.driveLetterMap → disk.instanceId ≠ timer.instanceId
  | .removal gone devicePath _ =>
      ∀ timer ∈ agent.timers, timer.instanceId = gone →
        extractDiskInstanceId devicePath = gone ∧ gone ≠ "" ∧
        ∀ letter ∈ agent.enumerator.driveLetterMap.keys,
          ∀ other ∈ agent.enumerator.driveLetterMap.keys,
            watches agent.enumerator.driveLetterMap letter gone = true →
            watches agent.enumerator.driveLetterMap other gone = true → letter = other
  | .merge _ newList =>
      ∀ timer ∈ agent.timers, timer.instanceId ∉ newList.map DiskIdentity.instanceId
  | .expiry _ _ _ _ => True

-- The letters of the map are gone through, and not all characters.
instance (agent : DiskAgent) (gone : String) :
    Decidable (∀ letter ∈ agent.enumerator.driveLetterMap.keys,
      ∀ other ∈ agent.enumerator.driveLetterMap.keys,
        watches agent.enumerator.driveLetterMap letter gone = true →
        watches agent.enumerator.driveLetterMap other gone = true → letter = other) :=
  @List.decidableBAll Char _ (fun _ => List.decidableBAll _ _) _

instance (agent : DiskAgent) : ∀ step, Decidable (RespectsTimers agent step)
  | .arrival _ _ _ _ _ => inferInstanceAs (Decidable (∀ timer ∈ agent.timers, _ ∧ _))
  | .removal _ _ _ => inferInstanceAs (Decidable (∀ timer ∈ agent.timers, _ → _ ∧ _ ∧ _))
  | .merge _ _ => inferInstanceAs (Decidable (∀ timer ∈ agent.timers, _))
  | .expiry _ _ _ _ => isTrue trivial

/-! ## The invariant -/

/-- A pending timer is that of the latest grace period of an unregistered disk, and the disk
is connected if it has an entry. -/
structure TimelyTimer (agent : DiskAgent) (timer : GraceTimer) : Prop where
  latest : agent.latestDue timer.instanceId = some timer.due
  unregistered : agent.enumerator.instanceIdMap timer.instanceId = none
  connected : hasEntry agent.enumerator.driveLetterMap timer.instanceId = true →
    agent.isConnected timer.instanceId = true

/-- All pending timers are in order. -/
def Timely (agent : DiskAgent) : Prop :=
  ∀ timer ∈ agent.timers, TimelyTimer agent timer

theorem firing_eq_some {agent : DiskAgent} {index now : Nat} {timer : GraceTimer}
    (fires : agent.firing index now = some timer) : timer ∈ agent.timers ∧ timer.due ≤ now := by
  rw [DiskAgent.firing, Option.filter_eq_some_iff] at fires
  exact ⟨List.mem_of_getElem? fires.1, by simpa using fires.2⟩

/-- The disk that an expiry mount-blocks is that of its timer, and has an entry. -/
theorem expiry_mountBlock {enumerator : DiskEnumerator} {instanceId : String} {first letter : Char}
    {blockWorks works : Bool} {disk : DiskIdentity}
    (blocks : .mountBlock letter disk works ∈
      (enumerator.enforceGracePeriodExpiry instanceId first blockWorks).2) :
    disk.instanceId = instanceId ∧ hasEntry enumerator.driveLetterMap instanceId = true := by
  cases isFound : enumerator.driveLetterMap.findEntry first instanceId with
  | none =>
      rw [DiskEnumerator.enforceGracePeriodExpiry_of_missing isFound] at blocks
      cases blocks
  | some entry =>
      rcases LetterMap.findEntry_eq_some isFound with ⟨present, same⟩
      refine ⟨?_, hasEntry_iff.mpr ⟨entry.1, entry.2, present, same⟩⟩
      cases lettered : entry.2.driveLetter with
      | none => simp [DiskEnumerator.enforceGracePeriodExpiry, isFound, lettered] at blocks
      | some own =>
          rw [DiskEnumerator.enforceGracePeriodExpiry_of_found isFound lettered] at blocks
          have isDisk : disk = entry.2 := by
            cases blockWorks <;> simp [blockDiskAtMountTime] at blocks <;> exact blocks.2.1
          rw [isDisk, same]

theorem Timely.expiryProper {agent : DiskAgent} (timely : Timely agent) (step : DiskStep) :
    ExpiryProper agent step := by
  cases step with
  | expiry index first blockWorks now =>
      intro timer fires letter disk works blocks
      rcases firing_eq_some fires with ⟨pending, due⟩
      rcases expiry_mountBlock blocks with ⟨same, present⟩
      have inOrder := timely timer pending
      rw [same]
      exact ⟨inOrder.connected present, inOrder.unregistered, timer.due, inOrder.latest, due⟩
  | arrival liveDisks finds blockWorks hasRuntime now => trivial
  | removal gone devicePath first => trivial
  | merge oldIds newList => trivial

/-! ## Arrivals -/

/-- An effect that neither spawns a timer nor starts a grace period. -/
def StartsNothing (effect : DiskEffect) : Prop :=
  spawnedTimer effect = none ∧ ∀ instanceId, startsPeriod instanceId effect = false

theorem any_startsPeriod_eq_false {effects : List DiskEffect}
    (nothing : ∀ effect ∈ effects, StartsNothing effect) (instanceId : String) :
    effects.any (startsPeriod instanceId) = false := by
  rw [List.any_eq_false]
  intro effect member
  rw [(nothing effect member).2]
  exact Bool.false_ne_true

theorem filterMap_spawnedTimer_eq_nil {effects : List DiskEffect}
    (nothing : ∀ effect ∈ effects, StartsNothing effect) : effects.filterMap spawnedTimer = [] :=
  List.filterMap_eq_nil_iff.mpr fun effect member => (nothing effect member).1

section Arrival

variable (blockWorks : String → Bool) (hasRuntime : Bool) (now : Nat) (enumerator : DiskEnumerator)

/-- One disk in the loop: it starts a grace period at a free letter, or starts none. -/
theorem arriveDisk_effects (disk : DiskIdentity) :
    (∃ letter, disk.driveLetter = some letter ∧ letter ∉ enumerator.driveLetterMap ∧
        enumerator.instanceIdMap disk.instanceId = none ∧
        (enumerator.arriveDisk blockWorks hasRuntime now disk).2 =
          (enumerator.startGracePeriod letter disk enumerator.diskGracePeriodSeconds hasRuntime
            now).2) ∨
      ∀ effect ∈ (enumerator.arriveDisk blockWorks hasRuntime now disk).2,
        StartsNothing effect := by
  unfold DiskEnumerator.arriveDisk
  cases lettered : disk.driveLetter with
  | none =>
      right
      simp
  | some letter =>
      dsimp only
      cases registered : enumerator.instanceIdMap disk.instanceId with
      | some _ =>
          right
          simp only [Option.isNone_some, Bool.false_eq_true, if_false]
          split <;> simp
      | none =>
          by_cases grace : 0 < enumerator.diskGracePeriodSeconds
          · by_cases taken : letter ∈ enumerator.driveLetterMap
            · right
              simp [grace, DiskEnumerator.startGracePeriod, taken]
            · left
              exact ⟨letter, rfl, taken, rfl, by simp [grace]⟩
          · right
            intro effect member
            cases works : blockWorks disk.instanceId with
            | false =>
                simp [grace, blockDiskAtMountTime, works] at member
                subst member
                exact ⟨rfl, fun _ => rfl⟩
            | true =>
                simp [grace, blockDiskAtMountTime, works] at member
                rcases member with rfl | rfl
                · exact ⟨rfl, fun _ => rfl⟩
                · exact ⟨rfl, fun _ => rfl⟩

/-- A grace period that an arrival starts is that of a disk it finds, at a letter that was
free. -/
theorem onDiskArrivalInner_started {disks : List DiskIdentity} {instanceId : String}
    (started : (enumerator.onDiskArrivalInner blockWorks hasRuntime now disks).2.any
      (startsPeriod instanceId) = true) :
    ∃ disk ∈ disks, disk.instanceId = instanceId ∧
      enumerator.instanceIdMap instanceId = none ∧
      ∃ letter ∈ disk.driveLetter, letter ∉ enumerator.driveLetterMap := by
  induction disks generalizing enumerator with
  | nil => cases started
  | cons disk rest ih =>
      rw [onDiskArrivalInner_cons, List.any_append, Bool.or_eq_true] at started
      rcases started with here | later
      · rcases arriveDisk_effects blockWorks hasRuntime now enumerator disk with
          ⟨letter, lettered, free, unregistered, effects⟩ | without
        · have same : disk.instanceId = instanceId := by
            rw [effects] at here
            cases hasRuntime <;>
              simpa [DiskEnumerator.startGracePeriod, free, startsPeriod,
                emitDiskQuarantineStarted] using here
          exact ⟨disk, List.mem_cons_self, same, same ▸ unregistered, letter, lettered, free⟩
        · rw [any_startsPeriod_eq_false without] at here
          cases here
      · rcases ih _ later with ⟨other, member, same, unregistered, letter, lettered, free⟩
        rw [arriveDisk_instanceIdMap] at unregistered
        refine ⟨other, List.mem_cons_of_mem disk member, same, unregistered, letter, lettered, ?_⟩
        intro taken
        rcases Option.isSome_iff_exists.mp (AList.lookup_isSome.mpr taken) with ⟨entry, present⟩
        have stays := arriveDisk_lookup blockWorks hasRuntime now enumerator disk present
        exact free (AList.lookup_isSome.mp (by rw [stays]; rfl))

/-- A timer that an arrival spawns is that of a grace period that it starts. -/
theorem onDiskArrivalInner_timer {disks : List DiskIdentity} {timer : GraceTimer}
    (spawned : timer ∈ (enumerator.onDiskArrivalInner blockWorks hasRuntime now
      disks).2.filterMap spawnedTimer) :
    timer.due = now + enumerator.diskGracePeriodSeconds * 1000 ∧
      (enumerator.onDiskArrivalInner blockWorks hasRuntime now disks).2.any
        (startsPeriod timer.instanceId) = true := by
  induction disks generalizing enumerator with
  | nil => cases spawned
  | cons disk rest ih =>
      rw [onDiskArrivalInner_cons, List.filterMap_append, List.mem_append] at spawned
      rw [onDiskArrivalInner_cons, List.any_append, Bool.or_eq_true]
      rcases spawned with here | later
      · rcases arriveDisk_effects blockWorks hasRuntime now enumerator disk with
          ⟨letter, lettered, free, _, effects⟩ | without
        · rw [effects] at here ⊢
          cases hasRuntime with
          | false => simp [DiskEnumerator.startGracePeriod, free, spawnedTimer] at here
          | true =>
              have isTimer : ⟨disk.instanceId,
                  now + enumerator.diskGracePeriodSeconds * 1000⟩ = timer := by
                simpa [DiskEnumerator.startGracePeriod, free, spawnedTimer] using here
              subst isTimer
              refine ⟨rfl, Or.inl ?_⟩
              simp [DiskEnumerator.startGracePeriod, free, startsPeriod, emitDiskQuarantineStarted]
        · rw [filterMap_spawnedTimer_eq_nil without] at here
          cases here
      · rcases ih _ later with ⟨due, starts⟩
        rw [arriveDisk_seconds] at due
        exact ⟨due, Or.inr starts⟩

end Arrival

theorem isConnected_iff {agent : DiskAgent} {instanceId : String} :
    agent.isConnected instanceId = true ↔
      instanceId ∈ agent.connected.map DiskIdentity.instanceId := by
  simp [DiskAgent.isConnected]

namespace Timely

variable {agent : DiskAgent}

theorem arrival (timely : Timely agent) {liveDisks : List DiskIdentity}
    {finds : Option (DiskIdentity → Bool)} {blockWorks : String → Bool} {hasRuntime : Bool}
    {now : Nat}
    (respects : RespectsTimers agent (.arrival liveDisks finds blockWorks hasRuntime now)) :
    Timely (agent.next (.arrival liveDisks finds blockWorks hasRuntime now)) := by
  rw [next_arrival]
  intro timer pending
  rcases List.mem_append.mp pending with old | spawned
  · rcases respects timer old with ⟨stays, restartsNone⟩
    have inOrder := timely timer old
    constructor
    · simp only [DiskAgent.after]
      split
      · rename_i started
        rcases onDiskArrivalInner_started blockWorks hasRuntime now agent.enumerator started with
          ⟨disk, isFound, same, _, letter, lettered, free⟩
        exact absurd same (restartsNone disk isFound letter lettered free)
      · exact inOrder.latest
    · simp only [DiskAgent.after, onDiskArrivalInner_instanceIdMap]
      exact inOrder.unregistered
    · intro present
      rcases hasEntry_iff.mp present with ⟨letter, entry, isEntry, same⟩
      have origin := onDiskArrivalInner_entries blockWorks hasRuntime now agent.enumerator
        (fun _ entry => hasEntry agent.enumerator.driveLetterMap entry.instanceId = true ∨
          entry.instanceId ∈ liveDisks.map DiskIdentity.instanceId) _
        (fun letter entry before => Or.inl (hasEntry_iff.mpr ⟨letter, entry, before, rfl⟩))
        (fun disk isFound _ _ => Or.inr (List.mem_map_of_mem (mem_of_mem_found isFound))) isEntry
      rw [same] at origin
      rw [isConnected_iff]
      rcases origin with before | live
      · exact stays before
      · exact live
  · rcases onDiskArrivalInner_timer blockWorks hasRuntime now agent.enumerator spawned with
      ⟨due, started⟩
    rcases onDiskArrivalInner_started blockWorks hasRuntime now agent.enumerator started with
      ⟨disk, isFound, same, unregistered, _⟩
    constructor
    · simp only [DiskAgent.after, started, if_true, due]
    · simp only [DiskAgent.after, onDiskArrivalInner_instanceIdMap]
      exact unregistered
    · intro _
      rw [isConnected_iff, ← same]
      exact List.mem_map_of_mem (mem_of_mem_found isFound)

/-- A step that starts no grace period, registers no disk with a timer and disconnects none
that keeps an entry leaves the timers in order. -/
theorem of_shrink (timely : Timely agent) {after : DiskAgent}
    (timers : ∀ timer ∈ after.timers, timer ∈ agent.timers)
    (latest : after.latestDue = agent.latestDue)
    (unregistered : ∀ timer ∈ after.timers,
      agent.enumerator.instanceIdMap timer.instanceId = none →
        after.enumerator.instanceIdMap timer.instanceId = none)
    (connected : ∀ timer ∈ after.timers,
      hasEntry after.enumerator.driveLetterMap timer.instanceId = true →
        hasEntry agent.enumerator.driveLetterMap timer.instanceId = true ∧
          (agent.isConnected timer.instanceId = true →
            after.isConnected timer.instanceId = true)) :
    Timely after := by
  intro timer pending
  have inOrder := timely timer (timers timer pending)
  refine ⟨?_, unregistered timer pending inOrder.unregistered, ?_⟩
  · rw [latest]
    exact inOrder.latest
  · intro present
    rcases connected timer pending present with ⟨before, stays⟩
    exact stays (inOrder.connected before)

theorem removal (timely : Timely agent) {gone devicePath : String} {first : Char}
    (respects : RespectsTimers agent (.removal gone devicePath first)) :
    Timely (agent.next (.removal gone devicePath first)) := by
  simp only [DiskAgent.next]
  refine timely.of_shrink (fun _ pending => pending) rfl ?_ ?_
  · intro timer _ unregistered
    simp only [DiskEnumerator.onDiskRemoval]
    split <;> exact unregistered
  · intro timer pending present
    by_cases isGone : timer.instanceId = gone
    · -- The one entry of the disk that goes is the one that the handler finds.
      rcases respects timer pending isGone with ⟨named, nonempty, single⟩
      exfalso
      simp only [DiskEnumerator.onDiskRemoval, named, if_neg nonempty] at present
      rw [isGone] at present
      cases isFound : agent.enumerator.driveLetterMap.findEntry first gone with
      | none =>
          simp only [isFound] at present
          rcases hasEntry_iff.mp present with ⟨letter, disk, isEntry, same⟩
          exact LetterMap.findEntry_eq_none isFound isEntry same
      | some entry =>
          simp only [isFound] at present
          rcases LetterMap.findEntry_eq_some isFound with ⟨atLetter, ofGone⟩
          rcases hasEntry_of_erase present with ⟨letter, other, watched⟩
          have own : watches agent.enumerator.driveLetterMap entry.1 gone = true :=
            watches_iff.mpr ⟨entry.2, atLetter, ofGone⟩
          exact other (single letter (mem_keys_of_watches watched) entry.1
            (mem_keys_of_watches own) watched own)
    · constructor
      · simp only [DiskEnumerator.onDiskRemoval] at present
        split at present
        · exact present
        · dsimp only at present
          split at present
          · rcases hasEntry_of_erase present with ⟨letter, _, watched⟩
            exact hasEntry_of_watches watched
          · exact present
      · intro was
        rcases List.mem_map.mp (isConnected_iff.mp was) with ⟨disk, member, same⟩
        have stays : disk ∈ agent.connected.filter fun disk => decide (disk.instanceId ≠ gone) :=
          List.mem_filter.mpr ⟨member, by simpa [same] using isGone⟩
        exact isConnected_iff.mpr (List.mem_map.mpr ⟨disk, stays, same⟩)

theorem merge (timely : Timely agent) {oldIds : List String} {newList : List DiskIdentity}
    (respects : RespectsTimers agent (.merge oldIds newList)) :
    Timely (agent.next (.merge oldIds newList)) := by
  refine timely.of_shrink (fun _ pending => pending) rfl ?_ fun _ _ present => ⟨present, id⟩
  intro timer pending unregistered
  exact (DiskEnumerator.mergeDiskAllowlistIntoMap_eq_none_iff agent.enumerator oldIds newList
    timer.instanceId).mpr ⟨respects timer pending, Or.inr unregistered⟩

end Timely

/-- An expiry spawns no timer and starts no grace period. -/
theorem expiry_effects (enumerator : DiskEnumerator) (instanceId : String) (first : Char)
    (blockWorks : Bool) :
    ∀ effect ∈ (enumerator.enforceGracePeriodExpiry instanceId first blockWorks).2,
      StartsNothing effect := by
  intro effect member
  unfold DiskEnumerator.enforceGracePeriodExpiry blockDiskAtMountTime at member
  cases isFound : enumerator.driveLetterMap.findEntry first instanceId with
  | none => simp [isFound] at member
  | some entry =>
      cases lettered : entry.2.driveLetter with
      | none =>
          simp [isFound, lettered] at member
          subst member
          exact ⟨rfl, fun _ => rfl⟩
      | some letter =>
          cases blockWorks with
          | false =>
              simp [isFound, lettered] at member
              rcases member with rfl | rfl <;> exact ⟨rfl, fun _ => rfl⟩
          | true =>
              simp [isFound, lettered] at member
              rcases member with rfl | rfl | rfl <;> exact ⟨rfl, fun _ => rfl⟩

/-- An expiry registers nothing and adds no entry. -/
theorem expiry_enumerator (enumerator : DiskEnumerator) (instanceId : String) (first : Char)
    (blockWorks : Bool) :
    (enumerator.enforceGracePeriodExpiry instanceId first blockWorks).1.instanceIdMap =
        enumerator.instanceIdMap ∧
      ∀ other, hasEntry (enumerator.enforceGracePeriodExpiry instanceId first
        blockWorks).1.driveLetterMap other = true → hasEntry enumerator.driveLetterMap other = true := by
  cases isFound : enumerator.driveLetterMap.findEntry first instanceId with
  | none =>
      rw [DiskEnumerator.enforceGracePeriodExpiry_of_missing isFound]
      exact ⟨rfl, fun _ present => present⟩
  | some entry =>
      cases lettered : entry.2.driveLetter with
      | none =>
          simp only [DiskEnumerator.enforceGracePeriodExpiry, isFound, lettered]
          exact ⟨trivial, fun _ present => present⟩
      | some letter =>
          rw [DiskEnumerator.enforceGracePeriodExpiry_of_found isFound lettered]
          refine ⟨rfl, fun other present => ?_⟩
          rcases hasEntry_of_erase present with ⟨own, _, watched⟩
          exact hasEntry_of_watches watched

namespace Timely

variable {agent : DiskAgent}

theorem expiry (timely : Timely agent) (index : Nat) (first : Char) (blockWorks : Bool)
    (now : Nat) : Timely (agent.next (.expiry index first blockWorks now)) := by
  simp only [DiskAgent.next]
  cases fires : agent.firing index now with
  | none => exact timely
  | some timer =>
      dsimp only
      rcases expiry_enumerator agent.enumerator timer.instanceId first blockWorks with
        ⟨registered, entries⟩
      have startsNothing : ∀ effect ∈ (agent.expiryOutcome timer first blockWorks).2,
          StartsNothing effect :=
        expiry_effects agent.enumerator timer.instanceId first blockWorks
      apply timely.of_shrink
      · intro other pending
        rcases List.mem_append.mp pending with old | spawned
        · exact List.mem_of_mem_eraseIdx old
        · rw [filterMap_spawnedTimer_eq_nil startsNothing] at spawned
          cases spawned
      · funext other
        exact if_neg (Bool.eq_false_iff.mp (any_startsPeriod_eq_false startsNothing other))
      · intro other _ unregistered
        exact (congrFun registered other.instanceId).trans unregistered
      · intro other _ present
        exact ⟨entries other.instanceId present, id⟩

theorem next (timely : Timely agent) {step : DiskStep} (respects : RespectsTimers agent step) :
    Timely (agent.next step) := by
  cases step with
  | arrival liveDisks finds blockWorks hasRuntime now => exact timely.arrival respects
  | removal gone devicePath first => exact timely.removal respects
  | merge oldIds newList => exact timely.merge respects
  | expiry index first blockWorks now => exact timely.expiry index first blockWorks now

end Timely

/-- In every run whose steps respect the pending timers, each expiry mount-blocks only a disk
that is connected, not registered, and at the end of its latest grace period. -/
theorem expiries_proper (liveDisks tomlDisks : List DiskIdentity) (bootLetter : Option Char)
    (graceSeconds : Nat) (steps : List DiskStep)
    (respects : Each DiskAgent.next RespectsTimers
      (DiskAgent.start liveDisks tomlDisks bootLetter graceSeconds) steps) :
    Each DiskAgent.next ExpiryProper
      (DiskAgent.start liveDisks tomlDisks bootLetter graceSeconds) steps := by
  have initially : Timely (DiskAgent.start liveDisks tomlDisks bootLetter graceSeconds) := by
    intro timer pending
    cases pending
  exact respects.imp_of_invariant (fun _ _ timely respects => Timely.next timely respects)
    (fun _ step timely _ => Timely.expiryProper timely step) initially

/-- The disk is plugged in, and its timer fires after a minute. -/
def plugInAndWait : List DiskStep :=
  [plugIn true, .expiry 0 'E' true 60000]

/-- The disk is plugged in, the server registers it, and its timer fires after a minute. -/
def plugInAndRegister : List DiskStep :=
  [plugIn true, .merge [] [sampleDisk "NEW" 'E'], .expiry 0 'E' true 60000]

/-- The timer blocks the disk that nobody registered. -/
theorem plugInAndWait_proper :
    (plugInAndWait.foldl DiskAgent.next
        (DiskAgent.start [sampleDisk "SYS" 'C'] [] (some 'C') 60)).blocked "NEW" = true ∧
      Each DiskAgent.next ExpiryProper
        (DiskAgent.start [sampleDisk "SYS" 'C'] [] (some 'C') 60) plugInAndWait := by
  refine ⟨by decide +kernel, ?_⟩
  exact expiries_proper _ _ _ _ _ (by decide +kernel)

/-- The timer blocks the registered disk all the same. -/
theorem plugInAndRegister_improper :
    ¬Each DiskAgent.next ExpiryProper
      (DiskAgent.start [sampleDisk "SYS" 'C'] [] (some 'C') 60) plugInAndRegister := by
  intro proper
  rcases proper with ⟨_, _, expiry, _⟩
  rcases expiry ⟨"NEW", 60000⟩ (by decide +kernel) 'E' (sampleDisk "NEW" 'E') true
    (by decide +kernel) with ⟨_, unregistered, _⟩
  have registered : ((((DiskAgent.start [sampleDisk "SYS" 'C'] [] (some 'C') 60).next
      (plugIn true)).next (.merge [] [sampleDisk "NEW" 'E'])).enumerator.instanceIdMap
        "NEW").isSome = true := by
    decide +kernel
  rw [Option.isSome_iff_ne_none] at registered
  exact registered unregistered

end DlpSystem.Disks
