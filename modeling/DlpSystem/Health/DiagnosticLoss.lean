import DlpSystem.Agent.SnapshotAggregators
import DlpSystem.Lib.EventRun

/-!
# Which diagnostics are lost

No snapshot is submitted again after a submission that succeeded.  A batch whose submission
fails is put back newest first, and under the key of the process 0.  So the capacity may then
take away a snapshot and leave an older one of the same process.
-/

namespace DlpSystem.Agent

open Lib Ipc

/-- A snapshot, and the key of the process that reported it. -/
structure ReportedSnapshot where
  origin : String
  snapshot : DiagnosticSnapshot
  deriving DecidableEq

/-- The timestamp that the batches are sorted by. -/
def ReportedSnapshot.qpc (entry : ReportedSnapshot) : Nat :=
  entry.snapshot.timestampQpc.toNat

namespace PushEvent

/-- The snapshots that an event reports. -/
def reported : PushEvent DiagnosticSnapshot → List ReportedSnapshot
  | .ingest reporter pid newSnapshots =>
      newSnapshots.map (ReportedSnapshot.mk (snapshotKey reporter pid))
  | .startDrain _ _ => []
  | .continueDrain => []
  | .submitReturns _ => []

/-- The event, with the process of each snapshot. -/
def tagged : PushEvent DiagnosticSnapshot → PushEvent ReportedSnapshot
  | .ingest reporter pid newSnapshots =>
      .ingest reporter pid (newSnapshots.map (ReportedSnapshot.mk (snapshotKey reporter pid)))
  | .startDrain shutdown keys => .startDrain shutdown keys
  | .continueDrain => .continueDrain
  | .submitReturns succeeds => .submitReturns succeeds

end PushEvent

/-- One step of the loop, with the process of each snapshot. -/
def pushStep (agentId : String) (loop : PushLoop ReportedSnapshot)
    (event : PushEvent DiagnosticSnapshot) : PushLoop ReportedSnapshot :=
  loop.next ReportedSnapshot.qpc agentId event.tagged

/-- What some events report. -/
def reportedBy (events : List (PushEvent DiagnosticSnapshot)) : List ReportedSnapshot :=
  events.flatMap PushEvent.reported

/-- Each process reports its snapshots in increasing timestamp order. -/
def InTimestampOrder (events : List (PushEvent DiagnosticSnapshot)) : Prop :=
  (reportedBy events).Pairwise fun earlier later =>
    earlier.origin = later.origin → earlier.qpc < later.qpc

instance (events : List (PushEvent DiagnosticSnapshot)) : Decidable (InTimestampOrder events) :=
  inferInstanceAs (Decidable (List.Pairwise _ _))

namespace DiagnosticAggregator

variable {Snapshot : Type}

/-- What the capacity takes away from the front of an entry with more snapshots. -/
def cutOff (aggregator : DiagnosticAggregator Snapshot) (key : String)
    (newSnapshots : List Snapshot) : List Snapshot :=
  (aggregator.appended key newSnapshots).take (aggregator.excess key newSnapshots)

/-- What the capacity leaves of it. -/
def leftOver (aggregator : DiagnosticAggregator Snapshot) (key : String)
    (newSnapshots : List Snapshot) : List Snapshot :=
  (aggregator.appended key newSnapshots).drop (aggregator.excess key newSnapshots)

end DiagnosticAggregator

namespace PushStage

/-- The snapshots that are out of the buffers and not submitted yet. -/
def held {Snapshot : Type} : PushStage Snapshot → List Snapshot
  | .waiting => []
  | .draining _ _ out => out
  | .submitting _ batch => batch
  | .stopped => []

end PushStage

/-! ## The promises -/

section Promises

variable (agentId : String)

/-- The snapshots that an event takes away because of the capacity. -/
def droppedBy (loop : PushLoop ReportedSnapshot) (event : PushEvent DiagnosticSnapshot) :
    List ReportedSnapshot :=
  match event, loop.stage with
  | .ingest reporter pid _, _ =>
      loop.aggregator.cutOff (snapshotKey reporter pid) event.reported
  | .submitReturns false, .submitting false batch =>
      loop.aggregator.cutOff (snapshotKey agentId 0) batch
  | _, _ => []

/-- The snapshots of the batch that an event sends to the server. -/
def submittedBy (loop : PushLoop ReportedSnapshot) (event : PushEvent DiagnosticSnapshot) :
    List ReportedSnapshot :=
  match event, loop.stage with
  | .continueDrain, .draining _ [] out => out
  | _, _ => []

/-- Nothing that the server has taken is sent again. -/
def SubmitsOnce (loop : PushLoop ReportedSnapshot) (event : PushEvent DiagnosticSnapshot) :
    Prop :=
  ∀ entry ∈ submittedBy loop event, entry ∉ loop.submitted

/-- No snapshot of some that went is newer than one of its process that stayed. -/
def NoneOlder (dropped kept : List ReportedSnapshot) : Prop :=
  ∀ gone ∈ dropped, ∀ entry ∈ kept, entry.origin = gone.origin → gone.qpc ≤ entry.qpc

/-- A snapshot that is dropped has no older one of its process in the buffers. -/
def DropsOldest (loop : PushLoop ReportedSnapshot) (event : PushEvent DiagnosticSnapshot) :
    Prop :=
  ∀ key, NoneOlder (droppedBy agentId loop event)
    ((pushStep agentId loop event).aggregator.snapshots key)

/-- Behind the cut, the entry with the new snapshots has none that is older than one of its
process in front of the cut. -/
def CutsInOrder (aggregator : DiagnosticAggregator ReportedSnapshot) (key : String)
    (newSnapshots : List ReportedSnapshot) : Prop :=
  NoneOlder (aggregator.cutOff key newSnapshots) (aggregator.leftOver key newSnapshots)

/-- The buffer of a process does not overflow while a snapshot of it waits to be submitted
again, and the buffer of those that wait is in order where it is cut. -/
def OrderedWhenFull (loop : PushLoop ReportedSnapshot) (event : PushEvent DiagnosticSnapshot) :
    Prop :=
  match event, loop.stage with
  | .ingest reporter pid _, _ =>
      if snapshotKey reporter pid = snapshotKey agentId 0 then
        CutsInOrder loop.aggregator (snapshotKey agentId 0) event.reported
      else
        loop.aggregator.excess (snapshotKey reporter pid) event.reported = 0 ∨
          ∀ waiting ∈ loop.aggregator.snapshots (snapshotKey agentId 0),
            waiting.origin ≠ snapshotKey reporter pid
  | .submitReturns false, .submitting false batch =>
      CutsInOrder loop.aggregator (snapshotKey agentId 0) batch
  | _, _ => True

end Promises

/-! ## What the buffers hold -/

/-- The order in the buffers, given what was reported so far.  What was held is older than
what its process reported since, as long as it is not put under the key of that process. -/
structure BufferOrder (retry : String) (ingested : List ReportedSnapshot)
    (buffers : String → List ReportedSnapshot) (held submitted : List ReportedSnapshot) :
    Prop where
  bufferedKnown : ∀ key, ∀ entry ∈ buffers key, entry ∈ ingested
  heldKnown : ∀ entry ∈ held, entry ∈ ingested
  submittedKnown : ∀ entry ∈ submitted, entry ∈ ingested
  own : ∀ key, key ≠ retry → ∀ entry ∈ buffers key, entry.origin = key
  sorted : ∀ key, key ≠ retry →
    (buffers key).Pairwise fun earlier later => earlier.qpc < later.qpc
  waiting : ∀ entry, entry ∈ buffers retry ∨ entry ∈ held → entry.origin ≠ retry →
    ∀ later ∈ buffers entry.origin, entry.qpc < later.qpc
  apart : ∀ entry ∈ held, entry ∉ buffers retry
  fresh : ∀ entry ∈ submitted, (∀ key, entry ∉ buffers key) ∧ entry ∉ held

/-- New snapshots of one process. -/
structure Follows (ingested : List ReportedSnapshot) (key : String)
    (newSnapshots : List ReportedSnapshot) : Prop where
  own : ∀ entry ∈ newSnapshots, entry.origin = key
  sorted : newSnapshots.Pairwise fun earlier later => earlier.qpc < later.qpc
  later : ∀ entry ∈ ingested, entry.origin = key → ∀ new ∈ newSnapshots, entry.qpc < new.qpc

variable {retry key : String} {ingested newSnapshots held held' submitted :
  List ReportedSnapshot} {buffers buffers' : String → List ReportedSnapshot}

theorem Follows.not_mem (follows : Follows ingested key newSnapshots)
    {entry : ReportedSnapshot} (known : entry ∈ ingested) : entry ∉ newSnapshots := by
  intro new
  exact absurd (follows.later entry known (follows.own entry new) entry new) (lt_irrefl _)

@[simp]
theorem mem_added {entry : ReportedSnapshot} {other : String} :
    entry ∈ Function.update buffers key (buffers key ++ newSnapshots) other ↔
      entry ∈ buffers other ∨ other = key ∧ entry ∈ newSnapshots := by
  by_cases same : other = key
  · subst same
    simp
  · simp [same]

@[simp]
theorem mem_removed {entry : ReportedSnapshot} {other : String} :
    entry ∈ Function.update buffers key [] other ↔ other ≠ key ∧ entry ∈ buffers other := by
  by_cases same : other = key
  · subst same
    simp
  · simp [same]

namespace BufferOrder

theorem start (retry : String) : BufferOrder retry [] (fun _ => []) [] [] := by
  constructor <;> simp

/-- Some snapshots go away. -/
theorem mono (consistent : BufferOrder retry ingested buffers held submitted)
    (fewer : ∀ key, (buffers' key).Sublist (buffers key)) (fewerHeld : held' ⊆ held) :
    BufferOrder retry ingested buffers' held' submitted where
  bufferedKnown key entry member := consistent.bufferedKnown key entry ((fewer key).subset member)
  heldKnown entry member := consistent.heldKnown entry (fewerHeld member)
  submittedKnown := consistent.submittedKnown
  own key other entry member := consistent.own key other entry ((fewer key).subset member)
  sorted key other := (consistent.sorted key other).sublist (fewer key)
  waiting entry place other later member := by
    apply consistent.waiting entry _ other later ((fewer _).subset member)
    exact place.imp (fun buffered => (fewer retry).subset buffered) fun out => fewerHeld out
  apart entry member buffered :=
    consistent.apart entry (fewerHeld member) ((fewer retry).subset buffered)
  fresh entry member := by
    obtain ⟨notBuffered, notHeld⟩ := consistent.fresh entry member
    constructor
    · intro key buffered
      exact notBuffered key ((fewer key).subset buffered)
    · intro out
      exact notHeld (fewerHeld out)

/-- A process reports more. -/
theorem add (consistent : BufferOrder retry ingested buffers held submitted)
    (follows : Follows ingested key newSnapshots) :
    BufferOrder retry (ingested ++ newSnapshots)
      (Function.update buffers key (buffers key ++ newSnapshots)) held submitted where
  bufferedKnown other entry member := by
    rcases mem_added.mp member with old | ⟨_, new⟩
    · exact List.mem_append_left _ (consistent.bufferedKnown other entry old)
    · exact List.mem_append_right _ new
  heldKnown entry member := List.mem_append_left _ (consistent.heldKnown entry member)
  submittedKnown entry member := List.mem_append_left _ (consistent.submittedKnown entry member)
  own other notRetry entry member := by
    rcases mem_added.mp member with old | ⟨rfl, new⟩
    · exact consistent.own other notRetry entry old
    · exact follows.own entry new
  sorted other notRetry := by
    by_cases same : other = key
    · subst same
      rw [Function.update_self]
      apply List.pairwise_append.mpr
      constructor
      · exact consistent.sorted other notRetry
      constructor
      · exact follows.sorted
      · intro entry old
        exact follows.later entry (consistent.bufferedKnown other entry old)
          (consistent.own other notRetry entry old)
    · rw [Function.update_of_ne same]
      exact consistent.sorted other notRetry
  waiting entry place notRetry later member := by
    have old : entry ∈ buffers retry ∨ entry ∈ held := by
      rcases place with buffered | out
      · rcases mem_added.mp buffered with old | ⟨same, new⟩
        · exact Or.inl old
        · exact absurd ((follows.own entry new).trans same.symm) notRetry
      · exact Or.inr out
    rcases mem_added.mp member with before | ⟨same, new⟩
    · exact consistent.waiting entry old notRetry later before
    · exact follows.later entry (old.elim (consistent.bufferedKnown retry entry)
        (consistent.heldKnown entry)) same later new
  apart entry member buffered := by
    rcases mem_added.mp buffered with old | ⟨_, new⟩
    · exact consistent.apart entry member old
    · exact follows.not_mem (consistent.heldKnown entry member) new
  fresh entry member := by
    obtain ⟨notBuffered, notHeld⟩ := consistent.fresh entry member
    constructor
    · intro other buffered
      rcases mem_added.mp buffered with old | ⟨_, new⟩
      · exact notBuffered other old
      · exact follows.not_mem (consistent.submittedKnown entry member) new
    · exact notHeld

/-- The drain takes an entry out. -/
theorem takeOut (consistent : BufferOrder retry ingested buffers held submitted) (key : String) :
    BufferOrder retry ingested (Function.update buffers key []) (held ++ buffers key)
      submitted where
  bufferedKnown other entry member :=
    consistent.bufferedKnown other entry (mem_removed.mp member).2
  heldKnown entry member := by
    rcases List.mem_append.mp member with out | buffered
    · exact consistent.heldKnown entry out
    · exact consistent.bufferedKnown key entry buffered
  submittedKnown := consistent.submittedKnown
  own other notRetry entry member :=
    consistent.own other notRetry entry (mem_removed.mp member).2
  sorted other notRetry := by
    by_cases same : other = key
    · subst same
      rw [Function.update_self]
      exact List.Pairwise.nil
    · rw [Function.update_of_ne same]
      exact consistent.sorted other notRetry
  waiting entry place notRetry later member := by
    obtain ⟨elsewhere, before⟩ := mem_removed.mp member
    apply consistent.waiting entry _ notRetry later before
    rcases place with buffered | out
    · exact Or.inl (mem_removed.mp buffered).2
    · rcases List.mem_append.mp out with old | drained
      · exact Or.inr old
      · by_cases same : key = retry
        · subst same
          exact Or.inl drained
        · exact absurd (consistent.own key same entry drained) elsewhere
  apart entry member buffered := by
    obtain ⟨other, old⟩ := mem_removed.mp buffered
    rcases List.mem_append.mp member with out | drained
    · exact consistent.apart entry out old
    · -- It is in the entry of its process, and so newer than itself.
      have origin := consistent.own key (Ne.symm other) entry drained
      have earlier := consistent.waiting entry (Or.inl old) (by rwa [origin, ne_comm])
      rw [origin] at earlier
      exact absurd (earlier entry drained) (lt_irrefl _)
  fresh entry member := by
    obtain ⟨notBuffered, notHeld⟩ := consistent.fresh entry member
    constructor
    · intro other buffered
      exact notBuffered other (mem_removed.mp buffered).2
    · intro out
      rcases List.mem_append.mp out with old | drained
      · exact notHeld old
      · exact notBuffered key drained

/-- A batch is put back. -/
theorem putBack (consistent : BufferOrder retry ingested buffers held submitted) :
    BufferOrder retry ingested (Function.update buffers retry (buffers retry ++ held)) []
      submitted where
  bufferedKnown other entry member := by
    rcases mem_added.mp member with old | ⟨_, back⟩
    · exact consistent.bufferedKnown other entry old
    · exact consistent.heldKnown entry back
  heldKnown := by simp
  submittedKnown := consistent.submittedKnown
  own other notRetry := by
    rw [Function.update_of_ne notRetry]
    exact consistent.own other notRetry
  sorted other notRetry := by
    rw [Function.update_of_ne notRetry]
    exact consistent.sorted other notRetry
  waiting entry place notRetry := by
    rw [Function.update_of_ne notRetry]
    apply consistent.waiting entry _ notRetry
    rcases place with buffered | out
    · exact (mem_added.mp buffered).imp_right And.right
    · cases out
  apart := by simp
  fresh entry member := by
    obtain ⟨notBuffered, notHeld⟩ := consistent.fresh entry member
    constructor
    · intro other buffered
      rcases mem_added.mp buffered with old | ⟨_, back⟩
      · exact notBuffered other old
      · exact notHeld back
    · simp

/-- No snapshot is both held and buffered. -/
theorem not_buffered (consistent : BufferOrder retry ingested buffers held submitted)
    {entry : ReportedSnapshot} (out : entry ∈ held) (key : String) : entry ∉ buffers key := by
  intro buffered
  by_cases same : key = retry
  · subst same
    exact consistent.apart entry out buffered
  · have origin := consistent.own key same entry buffered
    have earlier := consistent.waiting entry (Or.inr out) (by rwa [origin])
    rw [origin] at earlier
    exact absurd (earlier entry buffered) (lt_irrefl _)

/-- The server takes a batch. -/
theorem deliver (consistent : BufferOrder retry ingested buffers held submitted) :
    BufferOrder retry ingested buffers [] (submitted ++ held) where
  bufferedKnown := consistent.bufferedKnown
  heldKnown := by simp
  submittedKnown entry member := by
    rcases List.mem_append.mp member with before | now
    · exact consistent.submittedKnown entry before
    · exact consistent.heldKnown entry now
  own := consistent.own
  sorted := consistent.sorted
  waiting entry place := by
    apply consistent.waiting entry
    rcases place with buffered | out
    · exact Or.inl buffered
    · cases out
  apart := by simp
  fresh entry member := by
    constructor
    · intro key
      rcases List.mem_append.mp member with before | now
      · exact (consistent.fresh entry before).1 key
      · exact consistent.not_buffered now key
    · simp

end BufferOrder

/-! ## Steps and runs -/

section Runs

variable {agentId : String} {loop : PushLoop ReportedSnapshot}
  {before events : List (PushEvent DiagnosticSnapshot)} {event : PushEvent DiagnosticSnapshot}

/-- The loop after some events. -/
def pushLoopAfter (capacity : Nat) (agentId : String)
    (events : List (PushEvent DiagnosticSnapshot)) : PushLoop ReportedSnapshot :=
  events.foldl (pushStep agentId) (PushLoop.start capacity)

/-- It is the loop of the source, apart from the processes of the snapshots. -/
theorem map_pushLoopAfter (capacity : Nat) (agentId : String)
    (events : List (PushEvent DiagnosticSnapshot)) :
    (pushLoopAfter capacity agentId events).map ReportedSnapshot.snapshot =
      events.foldl (PushLoop.next (·.timestampQpc.toNat) agentId) (PushLoop.start capacity) := by
  induction events using List.reverseRecOn with
  | nil => rfl
  | append_singleton before event ih =>
      have untagged : event.tagged.map ReportedSnapshot.snapshot = event := by
        cases event with
        | ingest reporter pid snapshots =>
            exact congrArg (PushEvent.ingest reporter pid)
              (List.map_map.trans (List.map_id snapshots))
        | startDrain shutdown keys => rfl
        | continueDrain => rfl
        | submitReturns succeeds => rfl
      have step := PushLoop.map_next ReportedSnapshot.snapshot (·.timestampQpc.toNat) agentId
        (pushLoopAfter capacity agentId before) event.tagged
      rw [untagged, ih] at step
      rw [pushLoopAfter, List.foldl_append, List.foldl_append]
      exact step

/-- The buffers of the loop and what it holds are consistent. -/
def PushLoop.IsConsistent (agentId : String) (ingested : List ReportedSnapshot)
    (loop : PushLoop ReportedSnapshot) : Prop :=
  BufferOrder (snapshotKey agentId 0) ingested loop.aggregator.snapshots loop.stage.held
    loop.submitted

theorem reportedBy_concat :
    reportedBy (before ++ [event]) = reportedBy before ++ event.reported := by
  rw [reportedBy, List.flatMap_append, List.flatMap_singleton]
  rfl

theorem InTimestampOrder.initial {after : List (PushEvent DiagnosticSnapshot)}
    (order : InTimestampOrder (before ++ after)) : InTimestampOrder before := by
  rw [InTimestampOrder, reportedBy, List.flatMap_append] at order
  exact (List.pairwise_append.mp order).1

/-- What a process reports is newer than what it reported before. -/
theorem InTimestampOrder.follows {reporter : String} {pid : UInt32}
    {snapshots : List DiagnosticSnapshot}
    (order : InTimestampOrder (before ++ [.ingest reporter pid snapshots])) :
    Follows (reportedBy before) (snapshotKey reporter pid)
      (PushEvent.ingest reporter pid snapshots).reported := by
  rw [InTimestampOrder, reportedBy_concat] at order
  obtain ⟨_, among, across⟩ := List.pairwise_append.mp order
  have own : ∀ entry ∈ (PushEvent.ingest reporter pid snapshots).reported,
      entry.origin = snapshotKey reporter pid := by
    intro entry member
    obtain ⟨_, _, rfl⟩ := List.mem_map.mp member
    rfl
  constructor
  · exact own
  · apply among.imp_of_mem
    intro earlier later first second older
    exact older ((own earlier first).trans (own later second).symm)
  · intro entry known origin new member
    exact across entry known new member (origin.trans (own new member).symm)

/-- The cut only takes snapshots away. -/
theorem DiagnosticAggregator.ingest_sublist (aggregator : DiagnosticAggregator ReportedSnapshot)
    (reporter : String) (pid : UInt32) (newSnapshots : List ReportedSnapshot) (key : String) :
    ((aggregator.ingest reporter pid newSnapshots).snapshots key).Sublist
      (Function.update aggregator.snapshots (snapshotKey reporter pid)
        (aggregator.snapshots (snapshotKey reporter pid) ++ newSnapshots) key) := by
  change (Function.update aggregator.snapshots _ _ key).Sublist _
  by_cases same : key = snapshotKey reporter pid
  · rw [same, Function.update_self, Function.update_self]
    exact List.drop_sublist _ _
  · rw [Function.update_of_ne same, Function.update_of_ne same]

theorem held_afterRound (shutdown : Bool) :
    (PushLoop.afterRound shutdown : PushStage ReportedSnapshot).held = [] := by
  cases shutdown <;> rfl

/-- The end of a drain. -/
theorem PushLoop.IsConsistent.endDrain {aggregator : DiagnosticAggregator ReportedSnapshot}
    {shutdown : Bool} {out submitted : List ReportedSnapshot}
    (consistent : (PushLoop.mk aggregator (.draining shutdown [] out) submitted).IsConsistent
      agentId ingested) :
    (pushStep agentId ⟨aggregator, .draining shutdown [] out, submitted⟩
      .continueDrain).IsConsistent agentId ingested := by
  have step : pushStep agentId ⟨aggregator, .draining shutdown [] out, submitted⟩ .continueDrain =
      if out = [] then ⟨aggregator, PushLoop.afterRound shutdown, submitted⟩
      else ⟨aggregator, .submitting shutdown (sortDescending ReportedSnapshot.qpc out),
        submitted⟩ := rfl
  rw [step]
  split
  · apply BufferOrder.mono consistent (fun _ => List.Sublist.refl _)
    rw [held_afterRound]
    exact List.nil_subset _
  · apply BufferOrder.mono consistent (fun _ => List.Sublist.refl _)
    exact (perm_sortDescending ReportedSnapshot.qpc out).subset

/-- One step. -/
theorem PushLoop.IsConsistent.step (consistent : loop.IsConsistent agentId (reportedBy before))
    (order : InTimestampOrder (before ++ [event])) :
    (pushStep agentId loop event).IsConsistent agentId (reportedBy (before ++ [event])) := by
  rw [reportedBy_concat]
  cases event with
  | ingest reporter pid snapshots =>
      exact (BufferOrder.add consistent order.follows).mono
        (loop.aggregator.ingest_sublist reporter pid _) (List.Subset.refl _)
  | startDrain shutdown keys =>
      rw [PushEvent.reported, List.append_nil]
      rcases loop with ⟨aggregator, stage, submitted⟩
      cases stage <;> exact consistent
  | continueDrain =>
      rw [PushEvent.reported, List.append_nil]
      rcases loop with ⟨aggregator, stage, submitted⟩
      cases stage with
      | waiting => exact consistent
      | draining shutdown keys out =>
          cases keys with
          | cons key keys => exact BufferOrder.takeOut consistent key
          | nil => exact IsConsistent.endDrain consistent
      | submitting shutdown batch => exact consistent
      | stopped => exact consistent
  | submitReturns succeeds =>
      rw [PushEvent.reported, List.append_nil]
      rcases loop with ⟨aggregator, stage, submitted⟩
      cases stage with
      | waiting => cases succeeds <;> exact consistent
      | draining shutdown keys out => cases succeeds <;> exact consistent
      | submitting shutdown batch =>
          cases succeeds with
          | true =>
              have delivered := BufferOrder.deliver consistent
              rw [← held_afterRound shutdown] at delivered
              exact delivered
          | false =>
              cases shutdown with
              | true =>
                  exact BufferOrder.mono consistent (fun _ => List.Sublist.refl _)
                    (List.nil_subset _)
              | false =>
                  exact (BufferOrder.putBack consistent).mono
                    (aggregator.ingest_sublist agentId 0 batch) (List.Subset.refl _)
      | stopped => cases succeeds <;> exact consistent

/-- Every run. -/
theorem isConsistent_after (capacity : Nat) (agentId : String) (order : InTimestampOrder events) :
    (pushLoopAfter capacity agentId events).IsConsistent agentId (reportedBy events) := by
  induction events using List.reverseRecOn with
  | nil => exact BufferOrder.start _
  | append_singleton before event ih =>
      rw [pushLoopAfter, List.foldl_append]
      exact (ih order.initial).step order

/-- What the server has taken is not out of the buffers a second time. -/
theorem PushLoop.IsConsistent.submitsOnce (consistent : loop.IsConsistent agentId ingested) :
    SubmitsOnce loop event := by
  intro entry member submitted
  rcases loop with ⟨aggregator, stage, taken⟩
  cases event with
  | continueDrain =>
      cases stage with
      | draining shutdown keys out =>
          cases keys with
          | nil => exact (consistent.fresh entry submitted).2 member
          | cons key keys => cases member
      | waiting => cases member
      | submitting shutdown batch => cases member
      | stopped => cases member
  | ingest reporter pid snapshots => cases member
  | startDrain shutdown keys => cases member
  | submitReturns succeeds => cases member

variable {aggregator : DiagnosticAggregator ReportedSnapshot}

/-- A buffer over its capacity loses something. -/
theorem DiagnosticAggregator.exists_cutOff (aggregator : DiagnosticAggregator ReportedSnapshot)
    (overflow : aggregator.excess key newSnapshots ≠ 0) :
    ∃ gone, gone ∈ aggregator.cutOff key newSnapshots := by
  apply List.exists_mem_of_ne_nil
  intro nothing
  rcases List.take_eq_nil_iff.mp nothing with fits | empty
  · exact overflow fits
  · apply overflow
    rw [excess, empty, List.length_nil, Nat.zero_sub]

/-- The buffer of a process is cut: it is in order itself, so that only what waits to be
submitted again can be older. -/
theorem BufferOrder.noneOlder_other
    (consistent : BufferOrder retry ingested aggregator.snapshots held submitted)
    (notRetry : key ≠ retry) (follows : Follows ingested key newSnapshots) :
    (∀ other, NoneOlder (aggregator.cutOff key newSnapshots)
      (Function.update aggregator.snapshots key (aggregator.leftOver key newSnapshots) other)) ↔
      aggregator.excess key newSnapshots = 0 ∨
        ∀ waiting ∈ aggregator.snapshots retry, waiting.origin ≠ key := by
  have grown := BufferOrder.add consistent follows
  have whole : Function.update aggregator.snapshots key
      (aggregator.snapshots key ++ newSnapshots) key = aggregator.appended key newSnapshots :=
    Function.update_self ..
  have sorted := grown.sorted key notRetry
  have own := grown.own key notRetry
  rw [whole] at sorted own
  constructor
  · intro none
    by_cases fits : aggregator.excess key newSnapshots = 0
    · exact Or.inl fits
    · right
      intro waiting member origin
      -- Something is cut off, and what waits is older than it.
      obtain ⟨gone, dropped⟩ := aggregator.exists_cutOff fits
      have buffered := List.mem_of_mem_take dropped
      have older := grown.waiting waiting (Or.inl (mem_added.mpr (Or.inl member)))
        (by rwa [origin]) gone (by rwa [origin, whole])
      have newer := none retry gone dropped waiting
        (by rwa [Function.update_of_ne (Ne.symm notRetry)]) (origin.trans (own gone buffered).symm)
      omega
  · rintro (fits | apart) other gone dropped entry kept same
    · rw [DiagnosticAggregator.cutOff, fits, List.take_zero] at dropped
      cases dropped
    · have origin : entry.origin = key := same.trans (own gone (List.mem_of_mem_take dropped))
      by_cases here : other = key
      · subst here
        rw [Function.update_self] at kept
        rw [← List.take_append_drop (aggregator.excess other newSnapshots)
          (aggregator.appended other newSnapshots)] at sorted
        exact ((List.pairwise_append.mp sorted).2.2 gone dropped entry kept).le
      · rw [Function.update_of_ne here] at kept
        by_cases waits : other = retry
        · subst waits
          exact absurd origin (apart entry kept)
        · exact absurd ((consistent.own other waits entry kept).symm.trans origin) here

/-- The buffer of what waits is cut: the other buffers only have newer snapshots. -/
theorem BufferOrder.noneOlder_retry
    (consistent : BufferOrder retry ingested aggregator.snapshots held submitted)
    (newer : ∀ entry ∈ newSnapshots, entry.origin ≠ retry →
      ∀ later ∈ aggregator.snapshots entry.origin, entry.qpc < later.qpc) :
    (∀ other, NoneOlder (aggregator.cutOff retry newSnapshots)
      (Function.update aggregator.snapshots retry (aggregator.leftOver retry newSnapshots)
        other)) ↔
      CutsInOrder aggregator retry newSnapshots := by
  constructor
  · intro none
    have here := none retry
    rwa [Function.update_self] at here
  · intro inOrder other
    by_cases here : other = retry
    · subst here
      rwa [Function.update_self]
    · rw [Function.update_of_ne here]
      intro gone dropped entry kept same
      have origin := consistent.own other here entry kept
      rw [origin] at same
      have notRetry : gone.origin ≠ retry := by rwa [← same]
      rw [same] at kept
      rcases List.mem_append.mp (List.mem_of_mem_take dropped) with waits | new
      · exact (consistent.waiting gone (Or.inl waits) notRetry entry kept).le
      · exact (newer gone new notRetry entry kept).le

/-- What a process reports under the key 0 is under its own key. -/
theorem Follows.newer (follows : Follows ingested retry newSnapshots)
    (entry : ReportedSnapshot) (member : entry ∈ newSnapshots) (other : entry.origin ≠ retry)
    (later : ReportedSnapshot) (_ : later ∈ buffers entry.origin) : entry.qpc < later.qpc :=
  absurd (follows.own entry member) other

/-- A step that does not meet the capacity. -/
theorem dropsOldest_of_nil (nothing : droppedBy agentId loop event = []) :
    DropsOldest agentId loop event := by
  intro key gone dropped
  rw [nothing] at dropped
  cases dropped

/-- One step. -/
theorem PushLoop.IsConsistent.dropsOldest_iff
    (consistent : loop.IsConsistent agentId (reportedBy before))
    (order : InTimestampOrder (before ++ [event])) :
    DropsOldest agentId loop event ↔ OrderedWhenFull agentId loop event := by
  rcases loop with ⟨aggregator, stage, submitted⟩
  cases event with
  | ingest reporter pid snapshots =>
      have follows := order.follows
      change (∀ key, NoneOlder
        (aggregator.cutOff (snapshotKey reporter pid) (PushEvent.ingest ..).reported)
        (Function.update aggregator.snapshots (snapshotKey reporter pid)
          (aggregator.leftOver (snapshotKey reporter pid)
            (PushEvent.ingest reporter pid snapshots).reported) key)) ↔ ite _ _ _
      by_cases same : snapshotKey reporter pid = snapshotKey agentId 0
      · rw [if_pos same]
        rw [same] at follows ⊢
        exact BufferOrder.noneOlder_retry consistent follows.newer
      · rw [if_neg same]
        exact BufferOrder.noneOlder_other consistent same follows
  | startDrain shutdown keys => exact iff_of_true (dropsOldest_of_nil rfl) trivial
  | continueDrain => exact iff_of_true (dropsOldest_of_nil rfl) trivial
  | submitReturns succeeds =>
      cases stage with
      | submitting shutdown batch =>
          cases succeeds with
          | true => exact iff_of_true (dropsOldest_of_nil rfl) trivial
          | false =>
              cases shutdown with
              | true => exact iff_of_true (dropsOldest_of_nil rfl) trivial
              | false =>
                  exact BufferOrder.noneOlder_retry consistent fun entry member =>
                    consistent.waiting entry (Or.inr member)
      | waiting => cases succeeds <;> exact iff_of_true (dropsOldest_of_nil rfl) trivial
      | draining shutdown keys out =>
          cases succeeds <;> exact iff_of_true (dropsOldest_of_nil rfl) trivial
      | stopped => cases succeeds <;> exact iff_of_true (dropsOldest_of_nil rfl) trivial

/-- Nothing waits to be submitted again. -/
theorem orderedWhenFull_ingest {reporter : String} {pid : UInt32}
    {snapshots : List DiagnosticSnapshot}
    (other : snapshotKey reporter pid ≠ snapshotKey agentId 0)
    (none : ∀ waiting ∈ loop.aggregator.snapshots (snapshotKey agentId 0),
      waiting.origin ≠ snapshotKey reporter pid) :
    OrderedWhenFull agentId loop (.ingest reporter pid snapshots) := by
  rw [OrderedWhenFull, if_neg other]
  exact Or.inr none

/-- In every interleaving in which each process reports in timestamp order, nothing is
submitted twice, and the capacity drops the oldest snapshots of each process if and only if
it is never used up out of order. -/
theorem losesOldest_iff (capacity : Nat) (agentId : String)
    (events : List (PushEvent DiagnosticSnapshot)) (order : InTimestampOrder events) :
    Each (pushStep agentId)
        (fun loop event => SubmitsOnce loop event ∧ DropsOldest agentId loop event)
        (PushLoop.start capacity) events ↔
      Each (pushStep agentId) (OrderedWhenFull agentId) (PushLoop.start capacity) events := by
  rw [each_iff_cuts, each_iff_cuts]
  have atCut : ∀ before event after, events = before ++ event :: after →
      ((SubmitsOnce (pushLoopAfter capacity agentId before) event ∧
        DropsOldest agentId (pushLoopAfter capacity agentId before) event) ↔
      OrderedWhenFull agentId (pushLoopAfter capacity agentId before) event) := by
    rintro before event after rfl
    rw [List.append_cons] at order
    have upTo := order.initial
    have consistent := isConsistent_after capacity agentId upTo.initial
    rw [← consistent.dropsOldest_iff upTo]
    exact and_iff_right consistent.submitsOnce
  constructor
  · intro loses before event after cut
    exact (atCut before event after cut).mp (loses before event after cut)
  · intro ordered before event after cut
    exact (atCut before event after cut).mpr (ordered before event after cut)

end Runs

/-! ## An outage -/

/-- A snapshot with a timestamp. -/
def snapshotAt (timestampQpc : Nat) : DiagnosticSnapshot where
  hookFunction := "CreateFileW"
  classificationSource := .cacheHit
  classificationAgeMs := 0
  abacResource := ""
  abacAction := "WRITE"
  abacEnvironment := ""
  matchedPolicyId := none
  enforcementMode := none
  decisionLatencyUs := 0
  timestampQpc := UInt64.ofNat timestampQpc
  timestampSecs := 0
  userSid := "S-1-5-21-1"

/-- Three reports of a process to a buffer of two, and a push that succeeds. -/
theorem losesOldest_delivered :
    Each (pushStep "agent")
      (fun loop event => SubmitsOnce loop event ∧ DropsOldest "agent" loop event)
      (PushLoop.start 2)
      [.ingest "agent" 7 [snapshotAt 1, snapshotAt 2], .ingest "agent" 7 [snapshotAt 3],
        .startDrain false [snapshotKey "agent" 7], .continueDrain, .continueDrain,
        .submitReturns true] := by
  apply (losesOldest_iff 2 "agent" _ (by decide)).mpr
  exact ⟨orderedWhenFull_ingest (by decide) nofun, orderedWhenFull_ingest (by decide) nofun,
    trivial, trivial, trivial, trivial, trivial⟩

/-- A push that fails puts one snapshot of a process back.  Then the process reports one more
than the capacity, and the first of them is dropped. -/
def outage : List (PushEvent DiagnosticSnapshot) :=
  [.ingest "agent" 7 [snapshotAt 1], .startDrain false [snapshotKey "agent" 7], .continueDrain,
    .continueDrain, .submitReturns false,
    .ingest "agent" 7 ((List.range (defaultMaxEntriesPerDll + 1)).map fun n => snapshotAt (n + 2))]

theorem not_losesOldest_outage :
    ¬ ∀ (agentId : String) (events : List (PushEvent DiagnosticSnapshot)),
      InTimestampOrder events →
        Each (pushStep agentId)
          (fun loop event => SubmitsOnce loop event ∧ DropsOldest agentId loop event)
          (PushLoop.start defaultMaxEntriesPerDll) events := by
  intro claim
  have order : InTimestampOrder outage := by
    have all : reportedBy outage = (List.range (defaultMaxEntriesPerDll + 2)).map
        fun n => ⟨snapshotKey "agent" 7, snapshotAt (n + 1)⟩ := by
      rw [List.range_succ_eq_map, outage]
      generalize defaultMaxEntriesPerDll + 1 = count
      simp [reportedBy, PushEvent.reported]
    rw [InTimestampOrder, all, List.pairwise_map]
    apply List.pairwise_lt_range.imp_of_mem
    intro earlier later first second before _
    have bound := List.mem_range.mp second
    change (UInt64.ofNat (earlier + 1)).toNat < (UInt64.ofNat (later + 1)).toNat
    rw [UInt64.toNat_ofNat', UInt64.toNat_ofNat']
    rw [defaultMaxEntriesPerDll] at bound
    omega
  have each := claim "agent" outage order
  have last := (each_append _ (outage.take 5) _).mp each
  have dropped := last.2.1.2 (snapshotKey "agent" 0) ⟨snapshotKey "agent" 7, snapshotAt 2⟩
    (by decide +kernel) ⟨snapshotKey "agent" 7, snapshotAt 1⟩ (by decide +kernel) rfl
  revert dropped
  decide

end DlpSystem.Agent
