import DlpSystem.Agent.BypassCorrelator
import DlpSystem.Hook.Decisions
import DlpSystem.Lib.EventRun

/-!
# Journal and correlator

The hook stores the hash of a path as the trampoline got it, the correlator
hashes the normalised file name of an ETW event.  And an entry that one event has
read is gone for the next, whether or not it matched.
-/

namespace DlpSystem.Bypass

open Common Hook Agent Lib

/-! ## Path identity -/

/-- The hash a trampoline journals for a path is the hash the correlator computes
for an event on the same path exactly if the path is canonical, or is not but
collides with its normal form. -/
theorem journalHash_eq_eventHash_iff (env : HookEnv) (mode : FailModeState)
    (locals : ThreadLocals) (call : PathCall) (request : JournalRequest)
    (journaled : (classifyAndLogPath env mode locals call).journaled = some request)
    (normalized : Str) (accepted : normalizePath call.path = some normalized)
    (seq tsQpc etwTimestamp : UInt64) (event : EtwFileEvent)
    (sameFile : event.fileName = call.path) :
    eventPathHash event = some (journalEntryOf seq request tsQpc etwTimestamp).pathHash ↔
      IsCanonical call.path ∨
        (normalized ≠ call.path ∧ fnv1a64 normalized = fnv1a64 call.path) := by
  rw [classifyAndLogPath_journaled mode locals journaled, eventPathHash, sameFile, accepted,
    ← normalizePath_eq_self_iff accepted]
  simp only [journalEntryOf, Option.map_some, Option.some.injEq]
  constructor
  · intro sameHash
    by_cases unchanged : normalized = call.path
    · exact .inl unchanged
    · exact .inr ⟨unchanged, sameHash⟩
  · rintro (unchanged | collision)
    · rw [unchanged]
    · exact collision.2

/-- An event on a file, by its name. -/
def writeEvent (fileName : Str) (timestamp : UInt64) : EtwFileEvent :=
  ⟨7, fileName, 0, timestamp, .write, true⟩

/-- A path in small letters gets two hashes. -/
theorem journalHash_ne_eventHash_lowerCase :
    (classifyAndLogPath { freshEnv denyingAgent with cache := none } .new .new
        { planWrite with path := ascii "C:\\data\\plan.txt" }).journaled =
      some ⟨0, 2, ascii "C:\\data\\plan.txt"⟩ ∧
    (normalizePath (ascii "C:\\data\\plan.txt")).isSome = true ∧
    eventPathHash (writeEvent (ascii "C:\\data\\plan.txt") 0) ≠
      some (journalEntryOf 1 ⟨0, 2, ascii "C:\\data\\plan.txt"⟩ 0 0).pathHash := by
  decide +kernel

theorem journalHash_eq_eventHash_canonical :
    eventPathHash (writeEvent planWrite.path 0) =
      some (journalEntryOf 1 ⟨0, 2, planWrite.path⟩ 0 0).pathHash :=
  (journalHash_eq_eventHash_iff { freshEnv denyingAgent with cache := none } .new .new planWrite
    ⟨0, 2, planWrite.path⟩ (by decide) planWrite.path (by decide) 1 0 0
    (writeEvent planWrite.path 0) rfl).mpr
    (.inl ((normalizePath_eq_self_iff (by decide)).mp rfl))

/-! ## Events of one process -/

/-- A step of the hooked process or of the correlator's ETW task. -/
inductive CorrelationEvent
  | journal (mapping : Nat) (entry : JournalEntry)
  | etw (env : CallEnv) (event : EtwFileEvent)

/-- The correlator and the journals it has mapped. -/
structure CorrelationState where
  correlator : Correlator
  journalAt : Nat → Journal
  /-- The ETW task is stuck in a call that never returns. -/
  hung : Bool

variable (setup : CorrelatorSetup)

/-- The call an ETW event makes: the journals are those of the state. -/
def CorrelationState.handle (state : CorrelationState) (env : CallEnv) (event : EtwFileEvent) :
    Option Correlator :=
  handleEtwEvent setup { env with journalAt := state.journalAt } event state.correlator

/-- One step. -/
def CorrelationState.next (state : CorrelationState) : CorrelationEvent → CorrelationState
  | .journal mapping entry =>
      { state with
        journalAt := Function.update state.journalAt mapping
          ((state.journalAt mapping).append entry) }
  | .etw env event =>
      if state.hung then state
      else
        match state.handle setup env event with
        | some correlator => { state with correlator := correlator }
        | none => { state with hung := true }

/-- A process that is not allowlisted and whose journal is open. -/
structure OpenJournal (pid : UInt32) (creationTime : UInt64) (mapping : Nat)
    (state : CorrelationState) : Prop where
  running : state.hung = false
  notAllowlisted : state.correlator.allowlistedPids pid = none
  journal : ∃ lastReadIndex,
    state.correlator.journals pid = some ⟨mapping, lastReadIndex, creationTime⟩

/-- An ETW event of that process; a journal step may be of any process. -/
def OfProcess (pid : UInt32) (creationTime : UInt64) : CorrelationEvent → Prop
  | .journal _ _ => True
  | .etw env event =>
      event.pid = pid ∧
        ((env.creationTime pid).getD 0 = 0 ∨ (env.creationTime pid).getD 0 = creationTime)

/-- The journal holds an entry for the event: same path hash, same operation,
close enough in time. -/
def JournalCovers (mapping : Nat) (state : CorrelationState) : CorrelationEvent → Prop
  | .journal _ _ => True
  | .etw _ event =>
      ∃ slot < entryCapacity, EntryMatches setup event ((state.journalAt mapping).slots slot)

/-- Handling the event pushes no alert. -/
def NoAlert (state : CorrelationState) (event : CorrelationEvent) : Prop :=
  (state.next setup event).correlator.alertBatch = state.correlator.alertBatch

instance (state : CorrelationState) (event : CorrelationEvent) :
    Decidable (NoAlert setup state event) :=
  inferInstanceAs (Decidable (_ = _))

/-- The event is looked up in the journal at all. -/
def IsCorrelated (event : EtwFileEvent) : Prop :=
  setup.config.enforcementMode ≠ .audit ∧ event.ntPathConverted = true ∧
    (eventPathHash event).isSome = true

/-- An event that is looked up has a matching entry among those that the reader
has not consumed yet: an index from the last read one up to the write counter. -/
def MatchUnread (pid : UInt32) (mapping : Nat) (state : CorrelationState) :
    CorrelationEvent → Prop
  | .journal _ _ => True
  | .etw _ event =>
      IsCorrelated setup event →
        ∃ lastReadIndex creationTime index,
          state.correlator.journals pid = some ⟨mapping, lastReadIndex, creationTime⟩ ∧
          lastReadIndex.toNat ≤ index ∧ index < (state.journalAt mapping).writeIndex.toNat ∧
          EntryMatches setup event ((state.journalAt mapping).slots (index % entryCapacity))

/-- The entries a read returns, by the indices between the two counters. -/
theorem mem_readEntries (journal : Journal) (lastReadIndex : UInt32) (entry : JournalEntry) :
    entry ∈ (readEntries journal lastReadIndex).1 ↔
      ∃ index, lastReadIndex.toNat ≤ index ∧ index < journal.writeIndex.toNat ∧
        journal.slots (index % entryCapacity) = entry := by
  unfold readEntries
  split
  · rename_i low
    rw [UInt32.le_iff_toNat_le] at low
    simp only [List.not_mem_nil, false_iff]
    rintro ⟨index, above, below, -⟩
    omega
  · rename_i high
    rw [UInt32.le_iff_toNat_le, Nat.not_le] at high
    rw [UInt32.toNat_sub_of_le _ _ (UInt32.le_iff_toNat_le.mpr high.le)]
    simp only [List.mem_map, List.mem_range]
    constructor
    · rintro ⟨offset, inside, rfl⟩
      exact ⟨lastReadIndex.toNat + offset, by omega, by omega, rfl⟩
    · rintro ⟨index, above, below, rfl⟩
      refine ⟨index - lastReadIndex.toNat, by omega, ?_⟩
      rw [Nat.add_sub_cancel' above]

section Step

variable {pid : UInt32} {creationTime : UInt64} {mapping : Nat} {state : CorrelationState}

/-- With the journal open, an event of the process is handled by `correlate`. -/
theorem OpenJournal.handle_eq (isOpen : OpenJournal pid creationTime mapping state)
    {env : CallEnv} {event : EtwFileEvent} (ofProcess : OfProcess pid creationTime (.etw env event))
    {lastReadIndex : UInt32}
    (journal : state.correlator.journals pid = some ⟨mapping, lastReadIndex, creationTime⟩) :
    state.handle setup env event =
      some (if setup.config.enforcementMode = .audit ∨ event.ntPathConverted = false then
          state.correlator
        else
          correlate setup { env with journalAt := state.journalAt } event
            ⟨mapping, lastReadIndex, creationTime⟩ state.correlator) := by
  rcases ofProcess with ⟨rfl, consistent⟩
  unfold CorrelationState.handle handleEtwEvent
  by_cases audit : setup.config.enforcementMode = .audit
  · simp [audit]
  · by_cases converted : event.ntPathConverted = false
    · simp [converted]
    · have notReused : pidWasReused { env with journalAt := state.journalAt } event
          ⟨mapping, lastReadIndex, creationTime⟩ = false := by
        unfold pidWasReused
        rcases consistent with unknown | known
        · simp [unknown]
        · simp [known]
      simp [audit, converted, isOpen.notAllowlisted, discoverJournal, journal, notReused]

/-- `correlate` keeps the reader and moves its index. -/
theorem correlate_journals (env : CallEnv) (event : EtwFileEvent) (reader : JournalReader)
    {correlator : Correlator} (journal : correlator.journals event.pid = some reader) :
    ∃ lastReadIndex, (correlate setup env event reader correlator).journals event.pid =
      some { reader with lastReadIndex := lastReadIndex } := by
  unfold correlate
  cases eventPathHash event with
  | none => exact ⟨reader.lastReadIndex, journal⟩
  | some pathHash =>
      refine ⟨(readEntries (env.journalAt reader.mapping) reader.lastReadIndex).2, ?_⟩
      dsimp only
      split
      · exact Function.update_self _ _ _
      · split
        · rw [emitAlert_journals]
          exact Function.update_self _ _ _
        · rw [emitAlert_journals]
          exact Function.update_self _ _ _

/-- `correlate` pushes no alert exactly if the hash of the event is undefined or
an unread entry matches. -/
theorem correlate_alertBatch_iff (enforcing : setup.config.enforcementMode ≠ .audit)
    (env : CallEnv) (event : EtwFileEvent) (reader : JournalReader) (correlator : Correlator) :
    (correlate setup env event reader correlator).alertBatch = correlator.alertBatch ↔
      ((eventPathHash event).isSome = true →
        ∃ index, reader.lastReadIndex.toNat ≤ index ∧
          index < (env.journalAt reader.mapping).writeIndex.toNat ∧
          EntryMatches setup event
            ((env.journalAt reader.mapping).slots (index % entryCapacity))) := by
  unfold correlate
  split
  · rename_i undefined
    simp [undefined]
  · rename_i pathHash defined
    simp only [defined, Option.isSome_some, forall_const]
    have search := searchEntries_fst pathHash (etwToQpc setup event.timestamp)
      (toleranceQpc setup) (fileOpToU8 event.op)
      (readEntries (env.journalAt reader.mapping) reader.lastReadIndex).1 false
    have found : (searchEntries pathHash (etwToQpc setup event.timestamp) (toleranceQpc setup)
        (fileOpToU8 event.op)
        (readEntries (env.journalAt reader.mapping) reader.lastReadIndex).1 false).1 = true ↔
        ∃ index, reader.lastReadIndex.toNat ≤ index ∧
          index < (env.journalAt reader.mapping).writeIndex.toNat ∧
          EntryMatches setup event
            ((env.journalAt reader.mapping).slots (index % entryCapacity)) := by
      rw [search]
      constructor
      · rintro ⟨entry, member, hash, op, time⟩
        rcases (mem_readEntries _ _ _).mp member with ⟨index, above, below, rfl⟩
        exact ⟨index, above, below, by rw [defined, hash], op, time⟩
      · rintro ⟨index, above, below, hash, op, time⟩
        refine ⟨_, (mem_readEntries _ _ _).mpr ⟨index, above, below, rfl⟩, ?_, op, time⟩
        rw [defined] at hash
        exact (Option.some.inj hash).symm
    rw [← found]
    split
    · rename_i matched
      simp [matched]
    · rename_i unmatched
      simp only [unmatched, Bool.false_eq_true, iff_false]
      split
      · exact emitAlert_alertBatch_ne enforcing env event .opMismatch _
      · exact emitAlert_alertBatch_ne enforcing env event .noHookJournal _

/-- The steps of one process keep its journal open. -/
theorem OpenJournal.next (isOpen : OpenJournal pid creationTime mapping state)
    {event : CorrelationEvent} (ofProcess : OfProcess pid creationTime event) :
    OpenJournal pid creationTime mapping (state.next setup event) := by
  cases event with
  | journal mapping entry => exact ⟨isOpen.running, isOpen.notAllowlisted, isOpen.journal⟩
  | etw env event =>
      rcases isOpen.journal with ⟨lastReadIndex, journal⟩
      have handled := isOpen.handle_eq setup ofProcess journal
      rcases ofProcess with ⟨rfl, -⟩
      simp only [CorrelationState.next, isOpen.running, handled, Bool.false_eq_true, if_false]
      split
      · exact ⟨rfl, isOpen.notAllowlisted, isOpen.journal⟩
      · refine ⟨rfl, ?_, correlate_journals setup _ event _ journal⟩
        rw [correlate_allowlistedPids]
        exact isOpen.notAllowlisted

/-- One step pushes no alert exactly if a correlated event finds its entry among
the unread ones. -/
theorem OpenJournal.noAlert_iff (isOpen : OpenJournal pid creationTime mapping state)
    {event : CorrelationEvent} (ofProcess : OfProcess pid creationTime event) :
    NoAlert setup state event ↔ MatchUnread setup pid mapping state event := by
  cases event with
  | journal mapping entry => simp [NoAlert, MatchUnread, CorrelationState.next]
  | etw env event =>
      rcases isOpen.journal with ⟨lastReadIndex, journal⟩
      have handled := isOpen.handle_eq setup ofProcess journal
      simp only [NoAlert, MatchUnread, CorrelationState.next, isOpen.running, handled,
        Bool.false_eq_true, if_false]
      by_cases searched : setup.config.enforcementMode = .audit ∨ event.ntPathConverted = false
      · rw [if_pos searched]
        simp only [true_iff]
        rintro ⟨enforcing, converted, -⟩
        rcases searched with audit | unconverted
        · exact absurd audit enforcing
        · rw [unconverted] at converted
          exact absurd converted (by decide)
      · rw [if_neg searched]
        rcases not_or.mp searched with ⟨enforcing, converted⟩
        rw [correlate_alertBatch_iff setup enforcing]
        constructor
        · rintro unread ⟨-, -, defined⟩
          rcases unread defined with ⟨index, above, below, matched⟩
          exact ⟨lastReadIndex, creationTime, index, journal, above, below, matched⟩
        · intro unread defined
          obtain ⟨last, created, index, same, above, below, matched⟩ :=
            unread ⟨enforcing, by simpa using converted, defined⟩
          cases Option.some.inj (same.symm.trans journal)
          exact ⟨index, above, below, matched⟩

end Step

/-- Over a run of one process with an open journal: covered events push no alert
if and only if each covered event that is looked up finds a matching entry that
no earlier event has consumed. -/
theorem noFalseAlerts_iff (pid : UInt32) (creationTime : UInt64) (mapping : Nat)
    (start : CorrelationState) (isOpen : OpenJournal pid creationTime mapping start)
    (events : List CorrelationEvent)
    (ofProcess : ∀ event ∈ events, OfProcess pid creationTime event) :
    (Each (CorrelationState.next setup) (JournalCovers setup mapping) start events →
      Each (CorrelationState.next setup) (NoAlert setup) start events) ↔
    (Each (CorrelationState.next setup) (JournalCovers setup mapping) start events →
      Each (CorrelationState.next setup) (MatchUnread setup pid mapping) start events) := by
  refine imp_congr_right fun _ => each_congr ?_ ?_ isOpen
  · intro state event member isOpen _
    exact isOpen.next setup (ofProcess event member)
  · intro state event member isOpen
    exact isOpen.noAlert_iff setup (ofProcess event member)

/-- Process 7 with an empty journal that the correlator has opened. -/
def sampleStart : CorrelationState where
  correlator := { Correlator.new with journals := fun _ => some ⟨0, 0, 1⟩ }
  journalAt := fun _ => Journal.new
  hung := false

/-- The journal entry of a write to a file, and the ETW event of the same write. -/
def journaledWrite (fileName : Str) (qpc : UInt64) : CorrelationEvent :=
  .journal 0 (journalEntryOf 1 ⟨0, 2, fileName⟩ qpc 0)

def observedWrite (fileName : Str) (timestamp : UInt64) : CorrelationEvent :=
  .etw sampleEnv (writeEvent fileName timestamp)

theorem openJournal_sampleStart : OpenJournal 7 1 0 sampleStart :=
  ⟨rfl, rfl, 0, rfl⟩

/-- Two writes, journaled one after the other before ETW delivers them. -/
def twoWrites : List CorrelationEvent :=
  [journaledWrite (ascii "C:\\A") 100, journaledWrite (ascii "C:\\B") 200,
    observedWrite (ascii "C:\\A") 100, observedWrite (ascii "C:\\B") 200]

theorem entryMatches_journaled (fileName : Str) (time : UInt64)
    (hash : eventPathHash (writeEvent fileName time) = some (fnv1a64 fileName))
    (near : absDiff time (etwToQpc sampleSetup time) ≤ toleranceQpc sampleSetup) :
    EntryMatches sampleSetup (writeEvent fileName time)
      (journalEntryOf 1 ⟨0, 2, fileName⟩ time 0) :=
  ⟨hash, rfl, near⟩

/-- Both events are covered, and the second one raises an alert: its entry was
consumed with the first event. -/
theorem not_noAlert_twoWrites :
    (∀ event ∈ twoWrites, OfProcess 7 1 event) ∧
      Each (CorrelationState.next sampleSetup) (JournalCovers sampleSetup 0) sampleStart
        twoWrites ∧
      ¬ Each (CorrelationState.next sampleSetup) (NoAlert sampleSetup) sampleStart twoWrites := by
  refine ⟨?_, ⟨trivial, trivial, ?_, ?_, trivial⟩, ?_⟩
  · intro event member
    simp only [twoWrites, List.mem_cons, List.not_mem_nil, or_false] at member
    rcases member with rfl | rfl | rfl | rfl
    · trivial
    · trivial
    · exact ⟨rfl, .inr rfl⟩
    · exact ⟨rfl, .inr rfl⟩
  · exact ⟨0, by decide, entryMatches_journaled (ascii "C:\\A") 100 (by decide) (by decide)⟩
  · exact ⟨1, by decide, entryMatches_journaled (ascii "C:\\B") 200 (by decide) (by decide)⟩
  · rintro ⟨-, -, -, silent, -⟩
    exact absurd silent (by decide +kernel)

/-- Two writes, each observed before the next one is journaled. -/
def writesInTurn : List CorrelationEvent :=
  [journaledWrite (ascii "C:\\A") 100, observedWrite (ascii "C:\\A") 100,
    journaledWrite (ascii "C:\\B") 200, observedWrite (ascii "C:\\B") 200]

theorem noFalseAlerts_writesInTurn :
    Each (CorrelationState.next sampleSetup) (JournalCovers sampleSetup 0) sampleStart
        writesInTurn ∧
      Each (CorrelationState.next sampleSetup) (NoAlert sampleSetup) sampleStart writesInTurn := by
  have matchesA := entryMatches_journaled (ascii "C:\\A") 100 (by decide) (by decide)
  have matchesB := entryMatches_journaled (ascii "C:\\B") 200 (by decide) (by decide)
  have covered : Each (CorrelationState.next sampleSetup) (JournalCovers sampleSetup 0) sampleStart
      writesInTurn :=
    ⟨trivial, ⟨0, by decide, matchesA⟩, trivial, ⟨1, by decide, matchesB⟩, trivial⟩
  refine ⟨covered, (noFalseAlerts_iff sampleSetup 7 1 0 sampleStart openJournal_sampleStart
    writesInTurn ?_).mpr ?_ covered⟩
  · intro event member
    simp only [writesInTurn, List.mem_cons, List.not_mem_nil, or_false] at member
    rcases member with rfl | rfl | rfl | rfl
    · trivial
    · exact ⟨rfl, .inr rfl⟩
    · trivial
    · exact ⟨rfl, .inr rfl⟩
  · intro _
    refine ⟨trivial, ?_, trivial, ?_, trivial⟩
    · intro _
      exact ⟨0, 1, 0, rfl, le_rfl, by decide, matchesA⟩
    · intro _
      exact ⟨1, 1, 1, rfl, le_rfl, by decide, matchesB⟩

end DlpSystem.Bypass
