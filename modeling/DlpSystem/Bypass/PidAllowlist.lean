import DlpSystem.Agent.BypassCorrelator
import DlpSystem.Lib.EventRun

/-!
# Expiry of allowlisted PIDs

`is_allowlisted` stores when it put a PID on the list and drops the entry once
it is older than `pid_ttl_secs`; `handle_etw_event` only asks whether there is an
entry, and `remove_pid` leaves it where it is.  The run keeps what happened to
each PID, to compare the skipped events with.
-/

namespace DlpSystem.Bypass

open Common Agent Lib

/-- A step of the correlator's tasks, or time that passes. -/
inductive PidEvent
  | process (event : ProcessEvent)
  | etw (env : CallEnv) (event : EtwFileEvent)
  | remove (pid : UInt32)
  | advance (nanoseconds : Nat)

/-- What happened to a PID. -/
inductive PidHappening
  | inserted (pid : UInt32) (time : Nat)
  | removed (pid : UInt32)
  deriving DecidableEq

/-- The correlator, the clock, and the history. -/
structure PidRun where
  correlator : Correlator
  now : Nat
  hung : Bool
  history : List PidHappening
  /-- The PIDs with a `remove_pid` after their last insertion. -/
  removedSince : UInt32 → Bool

/-- A correlator that has just started. -/
def PidRun.start : PidRun := ⟨Correlator.new, 0, false, [], fun _ => false⟩

variable (setup : CorrelatorSetup)

/-- The process event reaches the line of `is_allowlisted` that inserts the PID. -/
def insertsPid (state : PidRun) (event : ProcessEvent) : Bool :=
  event.source != .periodicSweep && isEmergencyImage event.imagePath &&
    match state.correlator.allowlistedPids event.pid with
    | none => true
    | some added => !decide (state.now - added < secs setup.config.pidTtlSecs)

/-- One step. -/
def PidRun.next (state : PidRun) : PidEvent → PidRun
  | .process event =>
      let handled :=
        { state with correlator := handleProcessEvent setup state.now event state.correlator }
      if insertsPid setup state event then
        { handled with
          history := state.history ++ [.inserted event.pid state.now]
          removedSince := Function.update state.removedSince event.pid false }
      else handled
  | .etw env event =>
      if state.hung then state
      else
        match handleEtwEvent setup { env with now := state.now } event state.correlator with
        | some correlator => { state with correlator := correlator }
        | none => { state with hung := true }
  | .remove pid =>
      { state with
        correlator := state.correlator.removePid pid
        history := state.history ++ [.removed pid]
        removedSince := Function.update state.removedSince pid true }
  | .advance nanoseconds => { state with now := state.now + nanoseconds }

/-- Some `is_allowlisted` call inserted the PID less than `pid_ttl_secs` ago, and
no `remove_pid` of it came after that call. -/
def Justified (state : PidRun) (pid : UInt32) : Prop :=
  ∃ before time after, state.history = before ++ .inserted pid time :: after ∧
    state.now - time < secs setup.config.pidTtlSecs ∧ .removed pid ∉ after

/-- An ETW event that is skipped as allowlisted is skipped with a reason. -/
def SkipIsJustified (state : PidRun) : PidEvent → Prop
  | .etw _ event =>
      state.hung = false → SkippedAsAllowlisted setup event state.correlator →
        Justified setup state event.pid
  | _ => True

/-- An ETW event that reaches the allowlist check finds no entry, or one that is
younger than `pid_ttl_secs` and whose PID has not been removed in the meantime. -/
def EntryNotOutlived (state : PidRun) : PidEvent → Prop
  | .etw _ event =>
      state.hung = false → setup.config.enforcementMode ≠ .audit →
        event.ntPathConverted = true →
        ∀ added, state.correlator.allowlistedPids event.pid = some added →
          state.now - added < secs setup.config.pidTtlSecs ∧
            state.removedSince event.pid = false
  | _ => True

/-! ## The allowlist map -/

theorem isAllowlisted_allowlistedPids (correlator : Correlator) (now : Nat) (pid : UInt32)
    (imagePath : Str) :
    (correlator.isAllowlisted setup now pid imagePath).2.allowlistedPids =
      match correlator.allowlistedPids pid with
      | some added =>
          if now - added < secs setup.config.pidTtlSecs then correlator.allowlistedPids
          else if isEmergencyImage imagePath then
            Function.update correlator.allowlistedPids pid (some now)
          else Function.update correlator.allowlistedPids pid none
      | none =>
          if isEmergencyImage imagePath then
            Function.update correlator.allowlistedPids pid (some now)
          else correlator.allowlistedPids := by
  unfold Correlator.isAllowlisted
  cases correlator.allowlistedPids pid with
  | none =>
      dsimp only
      split <;> rfl
  | some added =>
      dsimp only
      split
      · rfl
      · split <;> rfl

/-- What a process event does to the map: it inserts its PID at the current time,
or it at most takes the entry away. -/
theorem handleProcessEvent_allowlistedPids (state : PidRun) (event : ProcessEvent) :
    (insertsPid setup state event = true ∧
      (handleProcessEvent setup state.now event state.correlator).allowlistedPids =
        Function.update state.correlator.allowlistedPids event.pid (some state.now)) ∨
    (insertsPid setup state event = false ∧
      ∀ pid added,
        (handleProcessEvent setup state.now event state.correlator).allowlistedPids pid =
          some added → state.correlator.allowlistedPids pid = some added) := by
  unfold insertsPid handleProcessEvent
  cases source : event.source with
  | periodicSweep => exact .inr ⟨rfl, fun pid added found => found⟩
  | _ =>
      dsimp only
      rw [isAllowlisted_allowlistedPids]
      have discovering : ∀ pending : UInt32 → Option (Nat × UInt32),
          (if (state.correlator.pendingJournals event.pid).isSome = true then state.correlator
            else { state.correlator with pendingJournals := pending }).allowlistedPids =
          state.correlator.allowlistedPids := by
        intro pending
        split <;> rfl
      rw [discovering]
      cases entry : state.correlator.allowlistedPids event.pid with
      | none =>
          cases emergency : isEmergencyImage event.imagePath with
          | true => exact .inl ⟨by simp, by simp⟩
          | false => exact .inr ⟨by simp, by simp⟩
      | some added =>
          by_cases fresh : state.now - added < secs setup.config.pidTtlSecs
          · exact .inr ⟨by simp [fresh], by simp [fresh]⟩
          · cases emergency : isEmergencyImage event.imagePath with
            | true => exact .inl ⟨by simp [fresh], by simp [fresh]⟩
            | false =>
                refine .inr ⟨by simp, ?_⟩
                intro pid time found
                simp only [fresh, if_false, Bool.false_eq_true] at found
                by_cases same : pid = event.pid
                · rw [same, Function.update_self] at found
                  exact absurd found (by simp)
                · rwa [Function.update_of_ne same] at found

/-! ## Runs -/

/-- Every entry of the map goes back to the last insertion of its PID. -/
structure Traced (state : PidRun) : Prop where
  entry : ∀ pid added, state.correlator.allowlistedPids pid = some added →
    ∃ before after, state.history = before ++ .inserted pid added :: after ∧
      (∀ time, .inserted pid time ∈ before → time ≤ added) ∧
      (∀ time, .inserted pid time ∉ after) ∧
      (state.removedSince pid = true ↔ .removed pid ∈ after)
  past : ∀ pid time, .inserted pid time ∈ state.history → time ≤ state.now

theorem traced_start : Traced PidRun.start :=
  ⟨fun _ _ found => absurd found (by simp [PidRun.start, Correlator.new]),
    fun _ _ member => absurd member (by simp [PidRun.start])⟩

/-- The last insertion of a PID stays the last one while nothing inserts the PID again. -/
theorem lastInsertion_concat {history : List PidHappening} {pid : UInt32} {added : Nat}
    {removed removedAfter : Prop} {happening : PidHappening}
    (entry : ∃ before after, history = before ++ .inserted pid added :: after ∧
      (∀ time, .inserted pid time ∈ before → time ≤ added) ∧
      (∀ time, .inserted pid time ∉ after) ∧ (removed ↔ .removed pid ∈ after))
    (other : ∀ time, happening ≠ .inserted pid time)
    (removals : removedAfter ↔ removed ∨ .removed pid = happening) :
    ∃ before after, history ++ [happening] = before ++ .inserted pid added :: after ∧
      (∀ time, .inserted pid time ∈ before → time ≤ added) ∧
      (∀ time, .inserted pid time ∉ after) ∧ (removedAfter ↔ .removed pid ∈ after) := by
  rcases entry with ⟨before, after, split, earlier, last, removedBefore⟩
  use before, after ++ [happening]
  constructor
  · simp [split]
  constructor
  · exact earlier
  constructor
  · intro time member
    rcases List.mem_append.mp member with earlier | new
    · exact last time earlier
    · exact other time (List.mem_singleton.mp new).symm
  · rw [removals, removedBefore, List.mem_append, List.mem_singleton]

theorem Traced.process {state : PidRun} (traced : Traced state) (event : ProcessEvent) :
    Traced (state.next setup (.process event)) := by
  rcases handleProcessEvent_allowlistedPids setup state event with
    ⟨inserts, map⟩ | ⟨keeps, map⟩
  · simp only [PidRun.next, inserts, if_true]
    constructor
    · intro pid added found
      dsimp only at found ⊢
      rw [map] at found
      by_cases same : pid = event.pid
      · subst same
        rw [Function.update_self] at found
        cases Option.some.inj found
        exact ⟨state.history, [], rfl, traced.past event.pid, by simp, by simp⟩
      · rw [Function.update_of_ne same] at found
        apply lastInsertion_concat (traced.entry pid added found)
        · intro time again
          exact same (PidHappening.inserted.inj again).1.symm
        · rw [Function.update_of_ne same]
          simp
    · intro pid time member
      rcases List.mem_append.mp member with earlier | new
      · exact traced.past pid time earlier
      · exact (PidHappening.inserted.inj (List.mem_singleton.mp new)).2.le
  · simp only [PidRun.next, keeps, Bool.false_eq_true, if_false]
    exact ⟨fun pid added found => traced.entry pid added (map pid added found), traced.past⟩

theorem Traced.remove {state : PidRun} (traced : Traced state) (pid : UInt32) :
    Traced (state.next setup (.remove pid)) := by
  constructor
  · intro other added found
    apply lastInsertion_concat (traced.entry other added found)
    · intro time again
      cases again
    · simp only [PidRun.next, PidHappening.removed.injEq]
      by_cases same : other = pid
      · simp [same]
      · rw [Function.update_of_ne same]
        simp [same]
  · intro other time member
    rcases List.mem_append.mp member with earlier | new
    · exact traced.past other time earlier
    · exact absurd (List.mem_singleton.mp new) (by simp)

/-- Every step keeps the map traced. -/
theorem Traced.next {state : PidRun} (traced : Traced state) (event : PidEvent) :
    Traced (state.next setup event) := by
  cases event with
  | process event => exact traced.process setup event
  | etw env event =>
      simp only [PidRun.next]
      split
      · exact traced
      · cases handled : handleEtwEvent setup { env with now := state.now } event
            state.correlator with
        | some correlator =>
            refine ⟨fun pid added found => ?_, traced.past⟩
            rw [handleEtwEvent_allowlistedPids handled] at found
            exact traced.entry pid added found
        | none => exact ⟨traced.entry, traced.past⟩
  | remove pid => exact traced.remove setup pid
  | advance nanoseconds =>
      refine ⟨traced.entry, fun pid time member => ?_⟩
      exact (traced.past pid time member).trans (Nat.le_add_right _ _)

/-- An entry justifies the skip exactly if it is young enough and its PID was not
removed after the insertion. -/
theorem Traced.justified_iff {state : PidRun} (traced : Traced state) {pid : UInt32}
    {added : Nat} (entry : state.correlator.allowlistedPids pid = some added) :
    Justified setup state pid ↔
      state.now - added < secs setup.config.pidTtlSecs ∧ state.removedSince pid = false := by
  rcases traced.entry pid added entry with ⟨before, after, split, earlier, last, removals⟩
  rw [← Bool.not_eq_true, removals]
  constructor
  · rintro ⟨first, time, rest, otherSplit, young, notRemoved⟩
    -- The insertion that justifies the skip is the last one or comes before it.
    rcases List.append_eq_append_iff.mp (split.symm.trans otherSplit) with
      ⟨middle, -, tail⟩ | ⟨middle, lead, tail⟩
    · cases middle with
      | nil =>
          rcases List.cons.inj tail with ⟨same, rfl⟩
          cases (PidHappening.inserted.inj same).2
          exact ⟨young, notRemoved⟩
      | cons head middle =>
          rcases List.cons.inj tail with ⟨-, rfl⟩
          exact absurd (List.mem_append_right middle List.mem_cons_self) (last time)
    · cases middle with
      | nil =>
          rcases List.cons.inj tail with ⟨same, rfl⟩
          cases (PidHappening.inserted.inj same).2
          exact ⟨young, notRemoved⟩
      | cons head middle =>
          rcases List.cons.inj tail with ⟨rfl, rfl⟩
          have older : time ≤ added := earlier time (by simp [lead])
          refine ⟨by omega, fun removed => notRemoved ?_⟩
          exact List.mem_append_right middle (List.mem_cons_of_mem _ removed)
  · rintro ⟨young, notRemoved⟩
    exact ⟨before, added, after, split, young, notRemoved⟩

theorem Traced.skipIsJustified_iff {state : PidRun} (traced : Traced state) (event : PidEvent) :
    SkipIsJustified setup state event ↔ EntryNotOutlived setup state event := by
  cases event with
  | etw env event =>
      constructor
      · intro justified running enforcing converted added entry
        apply (traced.justified_iff setup entry).mp
        exact justified running ⟨enforcing, converted, by rw [entry]; rfl⟩
      · rintro fresh running ⟨enforcing, converted, listed⟩
        rcases Option.isSome_iff_exists.mp listed with ⟨added, entry⟩
        exact (traced.justified_iff setup entry).mpr (fresh running enforcing converted added entry)
  | process event => exact Iff.rfl
  | remove pid => exact Iff.rfl
  | advance nanoseconds => exact Iff.rfl

/-- In a run of the correlator every skipped event is skipped with a reason if
and only if no event that reaches the allowlist check meets an entry that is
past its time or whose PID has been removed. -/
theorem skipsJustified_iff (events : List PidEvent) :
    Each (PidRun.next setup) (SkipIsJustified setup) PidRun.start events ↔
      Each (PidRun.next setup) (EntryNotOutlived setup) PidRun.start events := by
  refine each_congr ?_ ?_ traced_start
  · intro state event _ traced _
    exact traced.next setup event
  · intro state event _ traced
    exact traced.skipIsJustified_iff setup event

/-- A process event for the LSA process, under PID 700. -/
def lsassStarts : PidEvent :=
  .process ⟨700, ascii "C:\\Windows\\System32\\lsass.exe", .etw⟩

/-- A write by PID 700. -/
def reusedPidWrites : PidEvent :=
  .etw sampleEnv ⟨700, ascii "C:\\DATA\\PLAN.TXT", 0, 0, .write, true⟩

/-- A minute and a second later, with the process gone, its PID is still skipped. -/
theorem not_skipsJustified_reusedPid :
    ¬ Each (PidRun.next sampleSetup) (SkipIsJustified sampleSetup) PidRun.start
      [lsassStarts, .remove 700, .advance (secs 61), reusedPidWrites] := by
  rintro ⟨-, -, -, justified, -⟩
  obtain ⟨before, time, after, split, young, -⟩ := justified rfl (by decide)
  have member : PidHappening.inserted 700 time ∈
      [PidHappening.inserted 700 0, PidHappening.removed 700] := by
    have whole : [PidHappening.inserted 700 0, PidHappening.removed 700] =
        before ++ .inserted 700 time :: after := by
      rw [← split]
      decide
    rw [whole]
    exact List.mem_append_right before List.mem_cons_self
  have zero : time = 0 := by simpa using member
  rw [zero] at young
  exact absurd young (by decide)

end DlpSystem.Bypass
