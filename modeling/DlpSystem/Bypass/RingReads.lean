import DlpSystem.Agent.BypassCorrelator
import DlpSystem.Lib.EventRun
import DlpSystem.Lib.SlotLog

/-!
# Reads of the journal ring over whole runs

One hook process appends entries, the agent reads.  The run keeps beside the
journal what a reader ought to get: all entries so far, and how many of them
there were at the last read.  The write counter is a `u32`, so entry number `j`
lies in slot `(j mod 2^32) mod 1170`.
-/

namespace DlpSystem.Bypass

open Common Hook Agent Lib

/-- A step of producer or consumer. -/
inductive RingEvent
  | write (entry : JournalEntry)
  | read
  deriving DecidableEq

/-- Journal and reader, with the history that they are compared against. -/
structure RingState where
  journal : Journal
  lastReadIndex : UInt32
  /-- All entries written so far. -/
  written : List JournalEntry
  /-- How many there were at the last read. -/
  seen : Nat

namespace RingState

/-- A new journal and a reader that has read nothing. -/
def start : RingState := ⟨Journal.new, 0, [], 0⟩

/-- One step. -/
def next (state : RingState) : RingEvent → RingState
  | .write entry =>
      { state with
        journal := state.journal.append entry
        written := state.written ++ [entry] }
  | .read =>
      { state with
        lastReadIndex := (readEntries state.journal state.lastReadIndex).2
        seen := state.written.length }

/-- The entries written since the last read. -/
def unread (state : RingState) : List JournalEntry :=
  state.written.drop state.seen

/-- What a read is to return: all unread entries, or the last `ENTRY_CAPACITY`. -/
def expected (state : RingState) : List JournalEntry :=
  state.unread.drop (state.unread.length - entryCapacity)

/-- A read returns what it is to return. -/
def ReadIsExact (state : RingState) (event : RingEvent) : Prop :=
  event = .read → (readEntries state.journal state.lastReadIndex).1 = state.expected

/-- The entries written since the last read number none, or the `u32` counter
has not passed zero since then and there are at most `ENTRY_CAPACITY` of them,
or `ENTRY_CAPACITY` beyond a multiple of 2^32. -/
def ReadInRange (state : RingState) (event : RingEvent) : Prop :=
  event = .read →
    state.unread.length = 0 ∨
      (state.seen % 2 ^ 32 + state.unread.length % 2 ^ 32 < 2 ^ 32 ∧
        (state.unread.length ≤ entryCapacity ∨ state.unread.length % 2 ^ 32 = entryCapacity))

end RingState

/-- The slot of entry number `index`. -/
def slotOf (index : Nat) : Nat :=
  index % 2 ^ 32 % entryCapacity

/-- What ties journal and reader to the history. -/
structure InStep (state : RingState) : Prop where
  writeIndex : state.journal.writeIndex.toNat = state.written.length % 2 ^ 32
  slots : state.journal.slots = replay slotOf (fun _ => JournalEntry.zero) state.written
  lastReadIndex : state.lastReadIndex.toNat = state.seen % 2 ^ 32
  seen : state.seen ≤ state.written.length

theorem inStep_start : InStep RingState.start :=
  ⟨rfl, rfl, rfl, le_rfl⟩

theorem InStep.write {state : RingState} (inStep : InStep state) (entry : JournalEntry) :
    InStep (state.next (.write entry)) := by
  refine ⟨?_, ?_, inStep.lastReadIndex, ?_⟩
  · have counter : (state.journal.writeIndex + 1).toNat =
        (state.journal.writeIndex.toNat + 1) % 2 ^ 32 := by
      rw [UInt32.toNat_add]
      rfl
    simp only [RingState.next, Journal.append, List.length_append, List.length_singleton]
    rw [counter, inStep.writeIndex]
    omega
  · simp only [RingState.next, Journal.append]
    rw [replay_append_singleton, inStep.slots, inStep.writeIndex]
    rfl
  · have below := inStep.seen
    simp only [RingState.next, List.length_append, List.length_singleton]
    omega

/-! ## One read -/

/-- The counter compared with the last read index, in terms of the history. -/
theorem InStep.writeIndex_eq {state : RingState} (inStep : InStep state) :
    state.journal.writeIndex.toNat = (state.seen + state.unread.length) % 2 ^ 32 := by
  have below := inStep.seen
  have total : state.seen + state.unread.length = state.written.length := by
    rw [RingState.unread, List.length_drop]
    omega
  rw [total, inStep.writeIndex]

/-- A read that returns nothing is one whose counter is not above the last. -/
theorem readEntries_of_le {journal : Journal} {lastReadIndex : UInt32}
    (low : journal.writeIndex.toNat ≤ lastReadIndex.toNat) :
    readEntries journal lastReadIndex = ([], lastReadIndex) := by
  unfold readEntries
  rw [if_pos (UInt32.le_iff_toNat_le.mpr low)]

theorem readEntries_of_lt {journal : Journal} {lastReadIndex : UInt32}
    (high : lastReadIndex.toNat < journal.writeIndex.toNat) :
    readEntries journal lastReadIndex =
      ((List.range (journal.writeIndex.toNat - lastReadIndex.toNat)).map fun i =>
        journal.slots ((lastReadIndex.toNat + i) % entryCapacity), journal.writeIndex) := by
  have notLe : ¬ journal.writeIndex ≤ lastReadIndex := by
    rw [UInt32.le_iff_toNat_le]
    omega
  have difference : (journal.writeIndex - lastReadIndex).toNat =
      journal.writeIndex.toNat - lastReadIndex.toNat :=
    UInt32.toNat_sub_of_le _ _ (UInt32.le_iff_toNat_le.mpr high.le)
  unfold readEntries
  rw [if_neg notLe, difference]

/-- Of the entries after `first`, as many as the ring holds are in their slots. -/
theorem slot_holds (written : List JournalEntry) (first index : Nat) (blank : Nat → JournalEntry)
    (recent : written.length ≤ first + entryCapacity) (bound : first + index < written.length)
    (noWrap : first % 2 ^ 32 + (written.length - first) ≤ 2 ^ 32) :
    written[first + index]? =
      some (replay slotOf blank written ((first % 2 ^ 32 + index) % entryCapacity)) := by
  have capacity : entryCapacity = 1170 := entryCapacity_eq
  have slotAt : ∀ offset, first + offset < written.length →
      slotOf (first + offset) = (first % 2 ^ 32 + offset) % entryCapacity := by
    intro offset inside
    have wide : (first + offset) % 2 ^ 32 = first % 2 ^ 32 + offset := by omega
    rw [slotOf, wide]
  rw [← slotAt index bound]
  apply replay_of_latest bound
  intro later after inside
  obtain ⟨offset, rfl⟩ : ∃ offset, later = first + offset := ⟨later - first, by omega⟩
  rw [slotAt offset inside, slotAt index bound, capacity]
  omega

/-- The entries a read returns when the counter has advanced by `count` without
passing zero and the ring still holds the last `count` of them. -/
theorem InStep.read_last {state : RingState} (inStep : InStep state) {count : Nat}
    (positive : 0 < count) (fits : count ≤ entryCapacity)
    (available : count ≤ state.unread.length)
    (congruent : state.unread.length % 2 ^ 32 = count)
    (noWrap : state.seen % 2 ^ 32 + count < 2 ^ 32) :
    readEntries state.journal state.lastReadIndex =
      (state.unread.drop (state.unread.length - count), state.journal.writeIndex) := by
  have total : state.written.length = state.seen + state.unread.length := by
    have below := inStep.seen
    rw [RingState.unread, List.length_drop]
    omega
  have counter : state.journal.writeIndex.toNat = state.seen % 2 ^ 32 + count := by
    rw [inStep.writeIndex_eq]
    omega
  rw [readEntries_of_lt (by rw [counter, inStep.lastReadIndex]; omega), counter,
    inStep.lastReadIndex, Nat.add_sub_cancel_left]
  -- The first of the last `count` entries has the same counter value as the last read.
  have firstIndex : (state.seen + (state.unread.length - count)) % 2 ^ 32 =
      state.seen % 2 ^ 32 := by omega
  congr 1
  apply List.ext_getElem?
  intro index
  by_cases inside : index < count
  · have held := slot_holds state.written (state.seen + (state.unread.length - count)) index
      (fun _ => JournalEntry.zero) (by omega) (by omega) (by omega)
    rw [firstIndex] at held
    rw [List.getElem?_map, List.getElem?_range inside, List.getElem?_drop, RingState.unread,
      List.getElem?_drop, ← Nat.add_assoc, ← RingState.unread, held, inStep.slots]
    rfl
  · rw [List.getElem?_eq_none (by simpa using inside), List.getElem?_eq_none]
    rw [List.length_drop]
    omega

/-- The number of entries a read returns. -/
theorem length_readEntries (journal : Journal) (lastReadIndex : UInt32) :
    (readEntries journal lastReadIndex).1.length =
      journal.writeIndex.toNat - lastReadIndex.toNat := by
  by_cases low : journal.writeIndex.toNat ≤ lastReadIndex.toNat
  · rw [readEntries_of_le low, List.length_nil]
    omega
  · rw [readEntries_of_lt (by omega)]
    simp

theorem RingState.length_expected (state : RingState) :
    state.expected.length = min state.unread.length entryCapacity := by
  rw [RingState.expected, List.length_drop]
  omega

/-- A read in step with the history is exact exactly when it is in range. -/
theorem InStep.readIsExact_iff {state : RingState} (inStep : InStep state) (event : RingEvent) :
    state.ReadIsExact event ↔ state.ReadInRange event := by
  have capacity : entryCapacity = 1170 := entryCapacity_eq
  cases event with
  | write entry => simp [RingState.ReadIsExact, RingState.ReadInRange]
  | read =>
      simp only [RingState.ReadIsExact, RingState.ReadInRange, forall_const]
      have counter := inStep.writeIndex_eq
      constructor
      · intro exact
        have lengths := congrArg List.length exact
        rw [length_readEntries, state.length_expected, inStep.lastReadIndex, counter] at lengths
        omega
      · rintro (none | ⟨noWrap, few | full⟩)
        · have low : state.journal.writeIndex.toNat ≤ state.lastReadIndex.toNat := by
            rw [counter, none, inStep.lastReadIndex, Nat.add_zero]
          rw [readEntries_of_le low, RingState.expected,
            List.eq_nil_of_length_eq_zero none, List.drop_nil]
        · by_cases none : state.unread.length = 0
          · have low : state.journal.writeIndex.toNat ≤ state.lastReadIndex.toNat := by
              rw [counter, none, inStep.lastReadIndex, Nat.add_zero]
            rw [readEntries_of_le low, RingState.expected,
              List.eq_nil_of_length_eq_zero none, List.drop_nil]
          · have nothingLost : state.unread.length - state.unread.length =
                state.unread.length - entryCapacity := by omega
            rw [inStep.read_last (Nat.pos_of_ne_zero none) few le_rfl (by omega) (by omega),
              RingState.expected, nothingLost]
        · rw [inStep.read_last (by omega) le_rfl (by omega) full (by omega), RingState.expected]

/-- Steps whose reads are in range keep journal, reader and history in step. -/
theorem InStep.next {state : RingState} (inStep : InStep state) {event : RingEvent}
    (inRange : state.ReadInRange event) : InStep (state.next event) := by
  have capacity : entryCapacity = 1170 := entryCapacity_eq
  cases event with
  | write entry => exact inStep.write entry
  | read =>
      have counter := inStep.writeIndex_eq
      have total := inStep.writeIndex
      have below := inStep.seen
      have inRange := inRange rfl
      refine ⟨inStep.writeIndex, inStep.slots, ?_, le_rfl⟩
      change (readEntries state.journal state.lastReadIndex).2.toNat = state.written.length % 2 ^ 32
      by_cases low : state.journal.writeIndex.toNat ≤ state.lastReadIndex.toNat
      · rw [readEntries_of_le low]
        rw [counter, inStep.lastReadIndex] at low
        rw [inStep.lastReadIndex, ← total, counter]
        omega
      · rw [readEntries_of_lt (by omega)]
        exact total

/-- Every read of a run from an empty journal is exact if and only if every read
of the run is in range. -/
theorem readsExact_iff (events : List RingEvent) :
    Each RingState.next RingState.ReadIsExact RingState.start events ↔
      Each RingState.next RingState.ReadInRange RingState.start events := by
  refine each_congr ?_ ?_ inStep_start
  · intro state event _ inStep exact
    exact inStep.next ((inStep.readIsExact_iff event).mp exact)
  · intro state event _ inStep
    exact inStep.readIsExact_iff event

/-- A journal of the same entry over and over. -/
def repeatedWrites (count : Nat) : List RingEvent :=
  List.replicate count (.write JournalEntry.zero)

theorem run_repeatedWrites (count : Nat) :
    InStep ((repeatedWrites count).foldl RingState.next RingState.start) ∧
      ((repeatedWrites count).foldl RingState.next RingState.start).seen = 0 ∧
      ((repeatedWrites count).foldl RingState.next RingState.start).written.length = count := by
  induction count with
  | zero => exact ⟨inStep_start, rfl, rfl⟩
  | succ count ih =>
      rcases ih with ⟨inStep, seen, length⟩
      rw [repeatedWrites, List.replicate_succ', List.foldl_append]
      refine ⟨inStep.write _, seen, ?_⟩
      simp only [repeatedWrites] at length
      simp [RingState.next, length]

/-- With one write more than the ring holds, the read returns 1171 entries. -/
theorem not_readsExact_overrun :
    ¬ Each RingState.next RingState.ReadIsExact RingState.start
      (repeatedWrites 1171 ++ [.read]) := by
  intro exact
  rcases run_repeatedWrites 1171 with ⟨inStep, seen, length⟩
  have lengths := congrArg List.length (exact.at_cut rfl)
  rw [length_readEntries, RingState.length_expected, inStep.writeIndex, inStep.lastReadIndex,
    RingState.unread, List.length_drop, seen, length] at lengths
  exact absurd lengths (by decide)

end DlpSystem.Bypass
