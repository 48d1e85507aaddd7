import DlpSystem.Hook.ControlThread
import DlpSystem.Lib.EventRun
import Mathlib.Data.List.DropRight

/-!
# When the watchdog starts

The counter and the instant that the control thread keeps are the length and the start of the
row of failures at the end of its polls.  So the watchdog only starts at a row of three or more
that began the whole grace window ago, and then the thread is done.
-/

namespace DlpSystem.Hook

open Ipc

/-! ## Polls of a run -/

/-- The poll of a round failed. -/
def ControlRound.hasFailed (round : ControlRound) : Bool :=
  round.poll.isNone

namespace ControlLoop

/-- The loop comes to its poll. -/
def polls (loop : ControlLoop) (round : ControlRound) : Bool :=
  loop.running && !round.signaled && !round.stopping && round.creationTime.isSome

/-- The loop starts the watchdog's unhooking. -/
def StartsWatchdog (loop : ControlLoop) (pid : UInt32) (round : ControlRound) : Prop :=
  ∃ creationTime, .persistWatchdogEvidence pid creationTime ∈ (loop.next round pid).2

/-- The loop after some rounds. -/
def after (pid : UInt32) (started : Nat) (rounds : List ControlRound) : ControlLoop :=
  rounds.foldl (fun loop round => (loop.next round pid).1) (.start started)

end ControlLoop

/-- The rounds of a run that polled. -/
def pollsOf (pid : UInt32) (loop : ControlLoop) : List ControlRound → List ControlRound
  | [] => []
  | round :: rounds =>
      (if loop.polls round then [round] else []) ++ pollsOf pid (loop.next round pid).1 rounds

/-- The failures at the end of some polls. -/
def failureRow (polls : List ControlRound) : List ControlRound :=
  polls.rtakeWhile ControlRound.hasFailed

/-- The loop keeps the length and the start of the last row of failures. -/
structure ControlLoop.Tracks (loop : ControlLoop) (polls : List ControlRound) : Prop where
  count : loop.consecutiveFailures = UInt32.ofNat (failureRow polls).length
  since : loop.firstFailureTime = (failureRow polls).head?.map ControlRound.failedAt

/-! ## One round -/

section Round

variable {pid : UInt32} {loop : ControlLoop} {round : ControlRound} {polls : List ControlRound}

theorem failureRow_answered (answered : round.hasFailed = false) :
    failureRow (polls ++ [round]) = [] := by
  rw [failureRow, List.rtakeWhile_concat_neg _ _ _ (by simp [answered])]

theorem failureRow_failed (hasFailed : round.hasFailed = true) :
    failureRow (polls ++ [round]) = failureRow polls ++ [round] := by
  rw [failureRow, List.rtakeWhile_concat_pos _ _ _ hasFailed]
  rfl

theorem tracks_answered (answered : round.hasFailed = false) :
    (loop.answered round).Tracks (polls ++ [round]) := by
  constructor
  · rw [failureRow_answered answered]
    rfl
  · rw [failureRow_answered answered]
    rfl

theorem ControlLoop.Tracks.failed (tracks : loop.Tracks polls) (hasFailed : round.hasFailed) :
    (loop.failed round).Tracks (polls ++ [round]) := by
  constructor
  · rw [failureRow_failed hasFailed, List.length_append, UInt32.ofNat_add, ← tracks.count]
    rfl
  · rw [failureRow_failed hasFailed, ControlLoop.failed, tracks.since]
    cases failureRow polls <;> rfl

namespace ControlLoop

theorem Tracks.handleUnhookCommand (tracks : loop.Tracks polls) (creationTime : UInt64) :
    (loop.handleUnhookCommand round pid creationTime).1.Tracks polls := by
  rw [ControlLoop.handleUnhookCommand]
  split
  · exact ⟨tracks.count, tracks.since⟩
  · exact tracks

theorem Tracks.watchdog (tracks : loop.Tracks polls) (creationTime : UInt64) :
    (loop.watchdog round pid creationTime).1.Tracks polls := by
  rw [ControlLoop.watchdog]
  split
  · exact ⟨tracks.count, tracks.since⟩
  · exact tracks

theorem Tracks.afterPoll (tracks : loop.Tracks polls) (creationTime : UInt64) :
    (loop.afterPoll round pid creationTime).1.Tracks (polls ++ [round]) := by
  cases outcome : round.poll with
  | none =>
      have hasFailed : round.hasFailed := by rw [ControlRound.hasFailed, outcome]; rfl
      rw [ControlLoop.afterPoll, outcome]
      exact (tracks.failed hasFailed).watchdog creationTime
  | some response =>
      have answered : round.hasFailed = false := by rw [ControlRound.hasFailed, outcome]; rfl
      rw [ControlLoop.afterPoll, outcome]
      cases response with
      | none => exact tracks_answered answered
      | some command => exact (tracks_answered answered).handleUnhookCommand creationTime

/-- A round that polls does what follows from the poll. -/
theorem next_of_polls (pid : UInt32) (polls : loop.polls round = true) :
    ∃ creationTime,
      (loop.next round pid).1 = (loop.afterPoll round pid creationTime).1 ∧
      (loop.next round pid).2 = .waitForShutdown (loop.waitMs round.now) ::
        .pollControl ⟨pid, creationTime⟩ :: (loop.afterPoll round pid creationTime).2 := by
  rw [ControlLoop.polls] at polls
  cases created : round.creationTime with
  | none => simp [created] at polls
  | some creationTime =>
      simp only [Bool.and_eq_true, Bool.not_eq_true'] at polls
      obtain ⟨⟨⟨running, noSignal⟩, goesOn⟩, _⟩ := polls
      have next : loop.next round pid = ((loop.afterPoll round pid creationTime).1,
          .waitForShutdown (loop.waitMs round.now) ::
            .pollControl ⟨pid, creationTime⟩ :: (loop.afterPoll round pid creationTime).2) := by
        simp [ControlLoop.next, running, noSignal, goesOn, created]
      rw [next]
      exact ⟨creationTime, rfl, rfl⟩

/-- A round that does not poll waits at most, and keeps the row of failures. -/
theorem next_of_not_polls (pid : UInt32) (quiet : loop.polls round = false) :
    (loop.next round pid).1.consecutiveFailures = loop.consecutiveFailures ∧
      (loop.next round pid).1.firstFailureTime = loop.firstFailureTime ∧
      ∀ action ∈ (loop.next round pid).2, ∃ milliseconds,
        action = .waitForShutdown milliseconds := by
  rw [ControlLoop.polls] at quiet
  rw [ControlLoop.next]
  cases running : loop.running with
  | false => simp
  | true =>
      cases ends : round.signaled || round.stopping with
      | true => simp
      | false =>
          cases created : round.creationTime with
          | none => simp
          | some creationTime =>
              rw [Bool.or_eq_false_iff] at ends
              simp [running, ends, created] at quiet

/-- One round. -/
theorem Tracks.next (tracks : loop.Tracks polls) (round : ControlRound) :
    (loop.next round pid).1.Tracks (polls ++ if loop.polls round then [round] else []) := by
  cases comes : loop.polls round with
  | true =>
      obtain ⟨creationTime, next, _⟩ := next_of_polls pid comes
      rw [next]
      exact tracks.afterPoll creationTime
  | false =>
      obtain ⟨count, since, _⟩ := next_of_not_polls pid comes
      rw [if_neg Bool.false_ne_true, List.append_nil]
      exact ⟨count.trans tracks.count, since.trans tracks.since⟩

/-- Only a poll that fails has the watchdog started, if it is due, and then the loop is left. -/
theorem afterPoll_evidence {creationTime : UInt64}
    (persists : ∃ time, .persistWatchdogEvidence pid time ∈
      (loop.afterPoll round pid creationTime).2) :
    round.hasFailed = true ∧ (loop.failed round).watchdogDue round ∧
      (loop.afterPoll round pid creationTime).1.running = false := by
  obtain ⟨time, persists⟩ := persists
  rw [ControlLoop.afterPoll] at persists ⊢
  cases outcome : round.poll with
  | none =>
      rw [outcome] at persists
      simp only [ControlLoop.watchdog] at persists ⊢
      split at persists
      · rename_i due
        rw [if_pos due]
        exact ⟨by rw [ControlRound.hasFailed, outcome]; rfl, due, rfl⟩
      · cases persists
  | some response =>
      rw [outcome] at persists
      cases response with
      | none => cases persists
      | some command =>
          simp only [ControlLoop.handleUnhookCommand] at persists
          split at persists <;> simp at persists

theorem StartsWatchdog.spec (starts : loop.StartsWatchdog pid round) :
    loop.polls round = true ∧ round.hasFailed = true ∧ (loop.failed round).watchdogDue round ∧
      (loop.next round pid).1.running = false := by
  obtain ⟨time, persists⟩ := starts
  cases comes : loop.polls round with
  | true =>
      obtain ⟨creationTime, next, actions⟩ := next_of_polls pid comes
      rw [actions] at persists
      have inRest : .persistWatchdogEvidence pid time ∈
          (loop.afterPoll round pid creationTime).2 := by simpa using persists
      rw [next]
      exact ⟨rfl, afterPoll_evidence ⟨time, inRest⟩⟩
  | false =>
      obtain ⟨_, _, waits⟩ := next_of_not_polls pid comes
      obtain ⟨_, same⟩ := waits _ persists
      cases same

end ControlLoop

end Round

/-! ## Runs -/

section Runs

variable {pid : UInt32} {started : Nat} {rounds : List ControlRound} {round : ControlRound}

theorem after_concat :
    ControlLoop.after pid started (rounds ++ [round]) =
      ((ControlLoop.after pid started rounds).next round pid).1 :=
  List.foldl_concat ..

theorem pollsOf_concat (pid : UInt32) (loop : ControlLoop) (rounds : List ControlRound)
    (round : ControlRound) :
    pollsOf pid loop (rounds ++ [round]) =
      pollsOf pid loop rounds ++
        if (rounds.foldl (fun loop round => (loop.next round pid).1) loop).polls round then
          [round]
        else [] := by
  induction rounds generalizing loop with
  | nil => exact List.append_nil _
  | cons first rounds ih =>
      rw [List.cons_append, pollsOf, ih, pollsOf, List.append_assoc]
      rfl

/-- Every run. -/
theorem tracks_after (pid : UInt32) (started : Nat) (rounds : List ControlRound) :
    (ControlLoop.after pid started rounds).Tracks (pollsOf pid (.start started) rounds) := by
  induction rounds using List.reverseRecOn with
  | nil => exact ⟨rfl, rfl⟩
  | append_singleton rounds round ih =>
      rw [after_concat, pollsOf_concat]
      exact ih.next round

/-- A loop that was left does nothing any more. -/
theorem ControlLoop.next_of_left {loop : ControlLoop} (left : loop.running = false) :
    loop.next round pid = (loop, []) := by
  rw [ControlLoop.next, left]
  rfl

theorem ControlLoop.after_of_left (left : (ControlLoop.after pid started rounds).running = false)
    (more : List ControlRound) :
    ControlLoop.after pid started (rounds ++ more) = ControlLoop.after pid started rounds := by
  induction more using List.reverseRecOn with
  | nil => rw [List.append_nil]
  | append_singleton more round ih =>
      rw [← List.append_assoc, after_concat, ih, next_of_left left]

/-- A watchdog that is due has a row of three failures or more, and the first of them is as old
as the grace window. -/
theorem ControlLoop.Tracks.due {loop : ControlLoop} {polls : List ControlRound}
    (tracks : loop.Tracks polls) (due : loop.watchdogDue round) :
    3 ≤ (failureRow polls).length ∧
      ∃ first ∈ (failureRow polls).head?,
        first.failedAt + nanoseconds watchdogTimeoutMs ≤ round.checkedAt := by
  obtain ⟨enough, firstFailure, since, elapsed⟩ := due
  constructor
  · rw [tracks.count, UInt32.le_iff_toNat_le, UInt32.toNat_ofNat'] at enough
    exact enough.trans (Nat.mod_le _ _)
  · rw [tracks.since] at since
    obtain ⟨first, isFirst, rfl⟩ := Option.map_eq_some_iff.mp since
    have passed := elapsed.trans (Nat.mod_le _ _)
    rw [Nat.le_div_iff_mul_le (by decide)] at passed
    have grace : first.failedAt + nanoseconds watchdogTimeoutMs ≤ round.checkedAt := by
      rw [watchdogTimeoutMs] at passed ⊢
      rw [nanoseconds]
      omega
    exact ⟨first, isFirst, grace⟩

/-- A row of three failures or more, from its first to its last. -/
theorem exists_row {polls : List ControlRound} (hasFailed : round.hasFailed = true)
    (three : 3 ≤ (failureRow (polls ++ [round])).length) :
    ∃ earlier first between, polls ++ [round] = earlier ++ first :: (between ++ [round]) ∧
      between ≠ [] ∧ (∀ poll ∈ first :: (between ++ [round]), poll.hasFailed = true) ∧
      (failureRow (polls ++ [round])).head? = some first := by
  obtain ⟨earlier, split⟩ := List.rtakeWhile_suffix ControlRound.hasFailed (polls ++ [round])
  have allFailed : ∀ poll ∈ failureRow (polls ++ [round]), poll.hasFailed = true :=
    fun _ member => List.mem_rtakeWhile_imp member
  change earlier ++ failureRow _ = _ at split
  rw [failureRow_failed hasFailed] at three split allFailed ⊢
  cases row : failureRow polls with
  | nil =>
      rw [row] at three
      exact absurd three (by simp)
  | cons first between =>
      rw [row] at three split allFailed
      have some : between ≠ [] := by
        rintro rfl
        exact absurd three (by simp)
      exact ⟨earlier, first, between, split.symm, some, allFailed, rfl⟩

/-- The watchdog starts only at a poll that ends a row of three or more failures, the first of
which is as old as the grace window; and it starts once at most. -/
theorem startsWatchdog_sound (pid : UInt32) (started : Nat) (before : List ControlRound)
    (round : ControlRound)
    (starts : (ControlLoop.after pid started before).StartsWatchdog pid round) :
    (∃ earlier first between,
      pollsOf pid (.start started) (before ++ [round]) = earlier ++ first :: (between ++ [round]) ∧
        between ≠ [] ∧ (∀ poll ∈ first :: (between ++ [round]), poll.hasFailed = true) ∧
        first.failedAt + nanoseconds watchdogTimeoutMs ≤ round.checkedAt) ∧
      ∀ more later,
        ¬ (ControlLoop.after pid started (before ++ round :: more)).StartsWatchdog pid later := by
  obtain ⟨comes, hasFailed, due, left⟩ := starts.spec
  constructor
  · have tracks := (tracks_after pid started before).failed hasFailed
    obtain ⟨three, first, isFirst, grace⟩ := tracks.due due
    obtain ⟨earlier, oldest, between, split, some, allFailed, isOldest⟩ :=
      exists_row hasFailed three
    rw [isOldest] at isFirst
    injection isFirst with same
    subst same
    have polled : pollsOf pid (.start started) (before ++ [round]) =
        pollsOf pid (.start started) before ++ [round] :=
      (pollsOf_concat pid (.start started) before round).trans (congrArg _ (if_pos comes))
    rw [polled]
    exact ⟨earlier, oldest, between, split, some, allFailed, grace⟩
  · intro more later again
    rw [← after_concat] at left
    rw [List.append_cons, ControlLoop.after_of_left left, ControlLoop.StartsWatchdog,
      ControlLoop.next_of_left left] at again
    obtain ⟨_, persists⟩ := again
    cases persists

/-- A round whose poll fails, some seconds after the start. -/
def failedRound (seconds : Nat) : ControlRound where
  now := nanoseconds (seconds * 1000)
  signaled := false
  stopping := false
  attempt := nanoseconds (seconds * 1000)
  creationTime := some 133500000000000000
  poll := none
  failedAt := nanoseconds (seconds * 1000)
  checkedAt := nanoseconds (seconds * 1000)
  backgroundStopped := true
  unhooked := false
  unloads := false

/-- A round whose poll is answered with no command. -/
def answeredRound (seconds : Nat) : ControlRound :=
  { failedRound seconds with poll := some none }

/-- Two failures, an answer and two more failures. -/
def interruptedFailures : List ControlRound :=
  [failedRound 1, failedRound 2, answeredRound 30, failedRound 31, failedRound 32]

/-- The third failure after the answer comes half a minute after the first of them.  It starts
the watchdog at a row of its own, and for good. -/
theorem startsWatchdog_afterAnswer :
    (∃ earlier first between,
      pollsOf 7 (.start 0) (interruptedFailures ++ [failedRound 61]) =
          earlier ++ first :: (between ++ [failedRound 61]) ∧
        between ≠ [] ∧ (∀ poll ∈ first :: (between ++ [failedRound 61]), poll.hasFailed = true) ∧
        first.failedAt + nanoseconds watchdogTimeoutMs ≤ (failedRound 61).checkedAt) ∧
      ∀ more later,
        ¬ (ControlLoop.after 7 0 (interruptedFailures ++ failedRound 61 :: more)).StartsWatchdog 7
          later := by
  have starts : (ControlLoop.after 7 0 interruptedFailures).StartsWatchdog 7 (failedRound 61) :=
    ⟨133500000000000000, by decide⟩
  exact startsWatchdog_sound 7 0 _ _ starts

end Runs

end DlpSystem.Hook
