import DlpSystem.Lib.EventRun
import DlpSystem.Lib.Rfc3339
import DlpSystem.Server.SyslogQueue

/-!
# Leases of queued events

A row that a call has leased is not eligible for any other call before the lease ends.
Between the selection of a row and its lease nothing keeps another call from selecting it
too: no row is returned twice if no call selects a row that another call has selected and
not yet leased.
-/

namespace DlpSystem.Audit

open Lib Server

/-! ## Claims -/

/-- The ids that a call has selected and may return. -/
def claimedIds : ClaimStage → List Int
  | .selected ids => ids
  | .leased ids => ids
  | .returned events => events.map QueuedEvent.id
  | _ => []

/-- The ids that a call has leased and may return. -/
def leasedIds : ClaimStage → List Int
  | .leased ids => ids
  | .returned events => events.map QueuedEvent.id
  | _ => []

/-- The ids that a call has selected and not yet leased. -/
def unleasedIds : ClaimStage → List Int
  | .selected ids => ids
  | _ => []

/-- The ids that a call has returned. -/
def returnedIds : ClaimStage → List Int
  | .returned events => events.map QueuedEvent.id
  | _ => []

/-- No row is returned by two calls. -/
def NoneReturnedTwice (system : DrainSystem) : Prop :=
  ∀ (first second : Nat) (call other : ClaimCall), first ≠ second →
    system.calls[first]? = some call → system.calls[second]? = some other →
      ∀ id ∈ returnedIds call.stage, id ∉ returnedIds other.stage

/-- The clock readings of a new call are within one lease duration of those of the other
calls: each call reads a time before the ends of the others' leases. -/
def WithinLease (system : DrainSystem) : DrainStep → Prop
  | .call now leaseNow _ leaseDurationSecs =>
      ∀ other ∈ system.calls,
        now < other.leaseUntil ∧ other.now < leaseNow + leaseDurationSecs * 1000000000
  | .advance _ _ => True

/-- The condition.  A call selects no row that another call has selected and not yet leased;
and the years of the clock and of the leases have four digits. -/
def SelectsUnclaimed (toRfc3339 : Nat → String) (system : DrainSystem) : DrainStep → Prop
  | .call now leaseNow _ leaseDurationSecs =>
      (utcTime now).year ≤ 9999 ∧
        (utcTime (leaseNow + leaseDurationSecs * 1000000000)).year ≤ 9999
  | .advance _ true => True
  | .advance index false =>
      ∀ call ∈ system.calls[index]?, call.stage = .started →
        ∀ other ∈ system.calls.eraseIdx index,
          ∀ id ∈ call.eligibleIds toRfc3339 system.queue, id ∉ unleasedIds other.stage

/-! ## What is claimed is claimed once -/

/-- No two calls claim the same row, and the rows that a call has leased are leased until a
time that no other call has reached. -/
structure LeasesApart (toRfc3339 : Nat → String) (system : DrainSystem) : Prop where
  apart : ∀ (first second : Nat) (call other : ClaimCall), first ≠ second →
    system.calls[first]? = some call → system.calls[second]? = some other →
      ∀ id ∈ claimedIds call.stage, id ∉ claimedIds other.stage
  leased : ∀ call ∈ system.calls, ∀ row ∈ system.queue, row.id ∈ leasedIds call.stage →
    row.leasedUntil = toRfc3339 call.leaseUntil
  clocks : ∀ (first second : Nat) (call other : ClaimCall), first ≠ second →
    system.calls[first]? = some call → system.calls[second]? = some other →
      call.now < other.leaseUntil
  years : ∀ call ∈ system.calls,
    (utcTime call.now).year ≤ 9999 ∧ (utcTime call.leaseUntil).year ≤ 9999

/-- An entry after a change is the new one, or an old one at another index. -/
theorem getElem?_set_cases {α : Type} {entries : List α} {index second : Nat}
    {old new entry : α} (present : entries[index]? = some old)
    (found : (entries.set index new)[second]? = some entry) :
    index = second ∧ entry = new ∨ index ≠ second ∧ entries[second]? = some entry := by
  have bound : index < entries.length := (List.getElem?_eq_some_iff.mp present).1
  by_cases same : index = second
  · subst same
    rw [List.getElem?_set_self bound] at found
    exact .inl ⟨rfl, (Option.some.inj found).symm⟩
  · rw [List.getElem?_set_ne same] at found
    exact .inr ⟨same, found⟩

/-- An entry of a list with a new end is an old one or the end. -/
theorem getElem?_concat_cases {α : Type} {entries : List α} {new entry : α} {index : Nat}
    (found : (entries ++ [new])[index]? = some entry) :
    entries[index]? = some entry ∨ index = entries.length ∧ entry = new := by
  rcases Nat.lt_or_ge index entries.length with old | later
  · rw [List.getElem?_append_left old] at found
    exact .inl found
  · rw [List.getElem?_append_right later, List.getElem?_singleton] at found
    split at found
    · exact .inr ⟨by omega, (Option.some.inj found).symm⟩
    · cases found

section Leases

variable {gcm : Aes256Gcm} {crypto : SecretCrypto} {toRfc3339 : Nat → String}
  {system : DrainSystem}

theorem leasedIds_subset (stage : ClaimStage) {id : Int} (member : id ∈ leasedIds stage) :
    id ∈ claimedIds stage := by
  cases stage with
  | leased ids => exact member
  | returned events => exact member
  | _ => cases member

theorem returnedIds_subset (stage : ClaimStage) {id : Int} (member : id ∈ returnedIds stage) :
    id ∈ claimedIds stage := by
  cases stage with
  | returned events => exact member
  | _ => cases member

/-- What is claimed is leased, or not leased yet. -/
theorem claimedIds_cases (stage : ClaimStage) {id : Int} (member : id ∈ claimedIds stage) :
    id ∈ unleasedIds stage ∨ id ∈ leasedIds stage := by
  cases stage with
  | selected ids => exact .inl member
  | leased ids => exact .inr member
  | returned events => exact .inr member
  | _ => cases member

/-- The events that the third statement returns have the ids that it was given. -/
theorem mem_of_selectClaimed {queue : List SyslogRow} {ids : List Int}
    {events : List QueuedEvent} (selected : selectClaimed gcm crypto queue ids = .ok events)
    {id : Int} (member : id ∈ events.map QueuedEvent.id) : id ∈ ids := by
  obtain ⟨event, eventMember, rfl⟩ := List.mem_map.mp member
  obtain ⟨row, rowMember, made⟩ := exists_of_mem_mapM selected eventMember
  obtain ⟨eventJson, -, built⟩ := bind_eq_ok_iff.mp made
  cases Except.ok.inj built
  simpa using (List.mem_filter.mp ((mem_sortAscending ..).mp rowMember)).2

/-- A row that is leased beyond a time is not eligible then. -/
theorem not_eligible_of_leased (writes : ∀ nanos, toRfc3339 nanos = rfc3339 (utcTime nanos))
    {row : SyslogRow} {now leaseUntil : Nat} (leased : row.leasedUntil = toRfc3339 leaseUntil)
    (nowYear : (utcTime now).year ≤ 9999) (leaseYear : (utcTime leaseUntil).year ≤ 9999)
    (before : now < leaseUntil) : row.eligible (toRfc3339 now) = false := by
  have textBefore : toRfc3339 now < toRfc3339 leaseUntil := by
    rw [writes, writes, rfc3339_utcTime_lt_iff nowYear leaseYear]
    exact before
  have written : toRfc3339 leaseUntil ≠ "" := by
    intro empty
    rw [empty, String.lt_iff_toList_lt] at textBefore
    exact absurd textBefore (List.not_lt_nil _)
  simp [SyslogRow.eligible, leased, written, not_le_of_gt textBefore]

/-- A call that claims, in its next stage, only what no other call claims, and whose leased
rows are leased until its end, leaves the claims apart. -/
theorem LeasesApart.set {queue : List SyslogRow} {index : Nat} {call : ClaimCall}
    {stage : ClaimStage} (holds : LeasesApart toRfc3339 system)
    (present : system.calls[index]? = some call)
    (alone : ∀ (second : Nat) (other : ClaimCall), index ≠ second →
      system.calls[second]? = some other → ∀ id ∈ claimedIds stage, id ∉ claimedIds other.stage)
    (own : ∀ row ∈ queue, row.id ∈ leasedIds stage → row.leasedUntil = toRfc3339 call.leaseUntil)
    (others : ∀ (second : Nat) (other : ClaimCall), index ≠ second →
      system.calls[second]? = some other → ∀ row ∈ queue, row.id ∈ leasedIds other.stage →
        row.leasedUntil = toRfc3339 other.leaseUntil) :
    LeasesApart toRfc3339 ⟨queue, system.calls.set index { call with stage := stage }⟩ := by
  constructor
  · intro first second one other distinct foundOne foundOther id member
    rcases getElem?_set_cases present foundOne with ⟨rfl, rfl⟩ | ⟨offFirst, foundFirst⟩
    · rcases getElem?_set_cases present foundOther with ⟨same, -⟩ | ⟨-, foundSecond⟩
      · exact absurd same distinct
      · exact alone second other distinct foundSecond id member
    · rcases getElem?_set_cases present foundOther with ⟨rfl, rfl⟩ | ⟨-, foundSecond⟩
      · intro claimed
        exact alone first one offFirst foundFirst id claimed member
      · exact holds.apart first second one other distinct foundFirst foundSecond id member
  · intro one member row rowMember leased
    obtain ⟨first, found⟩ := List.mem_iff_getElem?.mp member
    rcases getElem?_set_cases present found with ⟨-, rfl⟩ | ⟨off, foundFirst⟩
    · exact own row rowMember leased
    · exact others first one off foundFirst row rowMember leased
  · intro first second one other distinct foundOne foundOther
    rcases getElem?_set_cases present foundOne with ⟨rfl, rfl⟩ | ⟨offFirst, foundFirst⟩
    · rcases getElem?_set_cases present foundOther with ⟨same, -⟩ | ⟨-, foundSecond⟩
      · exact absurd same distinct
      · exact holds.clocks index second call other distinct present foundSecond
    · rcases getElem?_set_cases present foundOther with ⟨rfl, rfl⟩ | ⟨-, foundSecond⟩
      · exact holds.clocks first index one call distinct foundFirst present
      · exact holds.clocks first second one other distinct foundFirst foundSecond
  · intro one member
    obtain ⟨first, found⟩ := List.mem_iff_getElem?.mp member
    rcases getElem?_set_cases present found with ⟨-, rfl⟩ | ⟨-, foundFirst⟩
    · exact holds.years call (List.mem_of_getElem? present)
    · exact holds.years one (List.mem_of_getElem? foundFirst)

/-- A step that claims and leases nothing new keeps the claims apart. -/
theorem LeasesApart.set_of_subset {index : Nat} {call : ClaimCall} {stage : ClaimStage}
    (holds : LeasesApart toRfc3339 system) (present : system.calls[index]? = some call)
    (claims : ∀ id ∈ claimedIds stage, id ∈ claimedIds call.stage)
    (leases : ∀ id ∈ leasedIds stage, id ∈ leasedIds call.stage) :
    LeasesApart toRfc3339
      ⟨system.queue, system.calls.set index { call with stage := stage }⟩ := by
  apply holds.set present
  · intro second other distinct found id member
    exact holds.apart index second call other distinct present found id (claims id member)
  · intro row rowMember leased
    exact holds.leased call (List.mem_of_getElem? present) row rowMember (leases row.id leased)
  · intro second other _ found
    exact holds.leased other (List.mem_of_getElem? found)

/-- The rows that a call leases are leased until its end, and no other row is changed. -/
theorem mem_leaseRows {queue : List SyslogRow} {ids : List Int} {leaseUntil : String}
    {row : SyslogRow} (member : row ∈ leaseRows queue ids leaseUntil) :
    row.id ∈ ids ∧ row.leasedUntil = leaseUntil ∨ row.id ∉ ids ∧ row ∈ queue := by
  obtain ⟨old, oldMember, rfl⟩ := List.mem_map.mp member
  by_cases leased : old.id ∈ ids
  · simp [leased]
  · simp [leased, oldMember]

/-- The selected rows are eligible. -/
theorem exists_of_mem_selectEligible {queue : List SyslogRow} {now : String} {batchSize : Nat}
    {id : Int} (member : id ∈ selectEligible queue now batchSize) :
    ∃ row ∈ queue, row.id = id ∧ row.eligible now = true := by
  obtain ⟨row, taken, rfl⟩ := List.mem_map.mp member
  obtain ⟨rowMember, eligible⟩ :=
    List.mem_filter.mp ((mem_sortAscending ..).mp (List.mem_of_mem_take taken))
  exact ⟨row, rowMember, rfl, eligible⟩

/-- A new call claims nothing. -/
theorem LeasesApart.call (holds : LeasesApart toRfc3339 system)
    {now leaseNow batchSize leaseDurationSecs : Nat}
    (within : WithinLease system (.call now leaseNow batchSize leaseDurationSecs))
    (years : SelectsUnclaimed toRfc3339 system
      (.call now leaseNow batchSize leaseDurationSecs)) :
    LeasesApart toRfc3339
      (system.next gcm crypto toRfc3339 (.call now leaseNow batchSize leaseDurationSecs)) := by
  constructor
  · intro first second one other distinct foundOne foundOther id member
    rcases getElem?_concat_cases foundOne with oldOne | ⟨-, rfl⟩
    · rcases getElem?_concat_cases foundOther with oldOther | ⟨-, rfl⟩
      · exact holds.apart first second one other distinct oldOne oldOther id member
      · exact List.not_mem_nil
    · cases member
  · intro one member row rowMember leased
    rcases List.mem_append.mp member with old | new
    · exact holds.leased one old row rowMember leased
    · cases List.mem_singleton.mp new
      cases leased
  · intro first second one other distinct foundOne foundOther
    rcases getElem?_concat_cases foundOne with oldOne | ⟨firstNew, rfl⟩
    · rcases getElem?_concat_cases foundOther with oldOther | ⟨-, rfl⟩
      · exact holds.clocks first second one other distinct oldOne oldOther
      · exact (within one (List.mem_of_getElem? oldOne)).2
    · rcases getElem?_concat_cases foundOther with oldOther | ⟨secondNew, rfl⟩
      · exact (within other (List.mem_of_getElem? oldOther)).1
      · exact absurd (firstNew.trans secondNew.symm) distinct
  · intro one member
    rcases List.mem_append.mp member with old | new
    · exact holds.years one old
    · cases List.mem_singleton.mp new
      exact years

/-- A call that selects no row of an unleased claim selects no claimed row at all. -/
theorem LeasesApart.select (writes : ∀ nanos, toRfc3339 nanos = rfc3339 (utcTime nanos))
    (holds : LeasesApart toRfc3339 system) {index : Nat} {call : ClaimCall}
    (present : system.calls[index]? = some call)
    (unclaimed : ∀ (second : Nat) (other : ClaimCall), index ≠ second →
      system.calls[second]? = some other →
        ∀ id ∈ call.eligibleIds toRfc3339 system.queue, id ∉ unleasedIds other.stage) :
    LeasesApart toRfc3339 ⟨system.queue, system.calls.set index
      { call with stage := .selected (call.eligibleIds toRfc3339 system.queue) }⟩ := by
  have member := List.mem_of_getElem? present
  apply holds.set present
  · intro second other distinct found id selected claimed
    rcases claimedIds_cases other.stage claimed with unleased | leased
    · exact unclaimed second other distinct found id selected unleased
    · obtain ⟨row, rowMember, rfl, eligible⟩ := exists_of_mem_selectEligible selected
      have otherMember := List.mem_of_getElem? found
      have ends := holds.leased other otherMember row rowMember leased
      have refused : row.eligible (toRfc3339 call.now) = false :=
        not_eligible_of_leased writes ends (holds.years call member).1
          (holds.years other otherMember).2
          (holds.clocks index second call other distinct present found)
      rw [refused] at eligible
      cases eligible
  · intro row _ leased
    cases leased
  · intro second other _ found
    exact holds.leased other (List.mem_of_getElem? found)

/-- A call leases what it has claimed, and changes no row that another call has leased. -/
theorem LeasesApart.lease (holds : LeasesApart toRfc3339 system) {index : Nat}
    {call : ClaimCall} {ids : List Int} (present : system.calls[index]? = some call)
    (stage : call.stage = .selected ids) :
    LeasesApart toRfc3339 ⟨leaseRows system.queue ids (toRfc3339 call.leaseUntil),
      system.calls.set index { call with stage := .leased ids }⟩ := by
  have claims : ∀ id ∈ ids, id ∈ claimedIds call.stage := by
    intro id member
    rw [stage]
    exact member
  apply holds.set present
  · intro second other distinct found id member
    exact holds.apart index second call other distinct present found id (claims id member)
  · intro row rowMember leased
    rcases mem_leaseRows rowMember with ⟨-, ends⟩ | ⟨outside, -⟩
    · exact ends
    · exact absurd leased outside
  · intro second other distinct found row rowMember leased
    rcases mem_leaseRows rowMember with ⟨inside, -⟩ | ⟨-, old⟩
    · -- Two calls would claim this row.
      exact absurd (leasedIds_subset other.stage leased)
        (holds.apart index second call other distinct present found row.id
          (claims row.id inside))
    · exact holds.leased other (List.mem_of_getElem? found) row old leased

/-- The next statement of a call that selects only unclaimed rows keeps the claims apart. -/
theorem LeasesApart.advance (writes : ∀ nanos, toRfc3339 nanos = rfc3339 (utcTime nanos))
    (holds : LeasesApart toRfc3339 system) {index : Nat} {call : ClaimCall}
    (present : system.calls[index]? = some call)
    (unclaimed : SelectsUnclaimed toRfc3339 system (.advance index false)) :
    LeasesApart toRfc3339 ⟨call.nextQueue toRfc3339 system.queue,
      system.calls.set index
        { call with stage := call.nextStage gcm crypto toRfc3339 system.queue }⟩ := by
  cases stage : call.stage with
  | started =>
      simp only [ClaimCall.nextQueue, ClaimCall.nextStage, stage]
      by_cases none_ : call.eligibleIds toRfc3339 system.queue = []
      · rw [if_pos none_]
        apply holds.set_of_subset present
        · exact fun id member => absurd member List.not_mem_nil
        · exact fun id member => absurd member List.not_mem_nil
      · rw [if_neg none_]
        apply holds.select writes present
        intro second other distinct found
        apply unclaimed call present stage other
        exact List.mem_eraseIdx_iff_getElem?.mpr ⟨second, Ne.symm distinct, found⟩
  | selected ids =>
      simp only [ClaimCall.nextQueue, ClaimCall.nextStage, stage]
      exact holds.lease present stage
  | leased ids =>
      simp only [ClaimCall.nextQueue, ClaimCall.nextStage, stage]
      cases selected : selectClaimed gcm crypto system.queue ids with
      | ok events =>
          have given : ∀ id ∈ events.map QueuedEvent.id, id ∈ ids :=
            fun id => mem_of_selectClaimed selected
          apply holds.set_of_subset present
          · simpa only [claimedIds, stage] using given
          · simpa only [leasedIds, stage] using given
      | error failure =>
          apply holds.set_of_subset present
          · exact fun id member => absurd member List.not_mem_nil
          · exact fun id member => absurd member List.not_mem_nil
  | returned events =>
      simp only [ClaimCall.nextQueue, ClaimCall.nextStage, stage]
      apply holds.set_of_subset present
      · simp only [claimedIds, stage, imp_self, implies_true]
      · simp only [leasedIds, stage, imp_self, implies_true]
  | failed =>
      simp only [ClaimCall.nextQueue, ClaimCall.nextStage, stage]
      apply holds.set_of_subset present
      · exact fun id member => absurd member List.not_mem_nil
      · exact fun id member => absurd member List.not_mem_nil

/-- A failure gives claims up, or comes after the rows were returned. -/
theorem LeasesApart.fail (holds : LeasesApart toRfc3339 system) {index : Nat}
    {call : ClaimCall} (present : system.calls[index]? = some call) :
    LeasesApart toRfc3339 ⟨system.queue,
      system.calls.set index { call with stage := call.stage.afterError }⟩ := by
  apply holds.set_of_subset present
  · cases call.stage with
    | returned events => exact fun id member => member
    | _ => exact fun id member => absurd member List.not_mem_nil
  · cases call.stage with
    | returned events => exact fun id member => member
    | _ => exact fun id member => absurd member List.not_mem_nil

/-- A step within the lease durations that selects only unclaimed rows keeps the claims
apart. -/
theorem LeasesApart.next (writes : ∀ nanos, toRfc3339 nanos = rfc3339 (utcTime nanos))
    {step : DrainStep} (holds : LeasesApart toRfc3339 system) (within : WithinLease system step)
    (unclaimed : SelectsUnclaimed toRfc3339 system step) :
    LeasesApart toRfc3339 (system.next gcm crypto toRfc3339 step) := by
  cases step with
  | call now leaseNow batchSize leaseDurationSecs => exact holds.call within unclaimed
  | advance index fails =>
      simp only [DrainSystem.next]
      cases present : system.calls[index]? with
      | none => exact holds
      | some call =>
          cases fails with
          | true => exact holds.fail present
          | false => exact holds.advance writes present unclaimed

/-- Without calls nothing is claimed. -/
theorem leasesApart_nil (queue : List SyslogRow) : LeasesApart toRfc3339 ⟨queue, []⟩ := by
  constructor
  · intro first second call other _ found
    cases found
  · intro call member
    cases member
  · intro first second call other _ found
    cases found
  · intro call member
    cases member

/-- In a run within the lease durations whose calls select no row that another call has
selected and not yet leased, no row is returned by two calls. -/
theorem no_row_returned_twice {queue : List SyslogRow} {steps : List DrainStep}
    (writes : ∀ nanos, toRfc3339 nanos = rfc3339 (utcTime nanos))
    (within : Each (DrainSystem.next gcm crypto toRfc3339) WithinLease ⟨queue, []⟩ steps)
    (unclaimed : Each (DrainSystem.next gcm crypto toRfc3339) (SelectsUnclaimed toRfc3339)
      ⟨queue, []⟩ steps) :
    NoneReturnedTwice (steps.foldl (DrainSystem.next gcm crypto toRfc3339) ⟨queue, []⟩) := by
  have apart : LeasesApart toRfc3339
      (steps.foldl (DrainSystem.next gcm crypto toRfc3339) ⟨queue, []⟩) := by
    apply Each.invariant _ (within.and unclaimed) (leasesApart_nil queue)
    intro system step holds both
    exact holds.next writes both.1 both.2
  intro first second call other distinct foundOne foundOther id one other'
  exact apart.apart first second call other distinct foundOne foundOther id
    (returnedIds_subset _ one) (returnedIds_subset _ other')

end Leases

/-! ## Two workers -/

/-- The server's times as text. -/
def drainTime (nanos : Nat) : String :=
  rfc3339 (utcTime nanos)

/-- A queue with one event, which nobody has tried to send yet. -/
def oneEventQueue : List SyslogRow :=
  [{ id := 1
     eventJsonEncrypted := labelledGcm.aead.encrypt (sampleKek 1) sampleNonce
       (aadFor "syslog_queue" "event_json") (utf8 "event")
     eventJsonNonce := sampleNonce.bytes
     createdAt := 0
     retryCount := 0
     lastError := ""
     nextAttemptAt := ""
     leasedUntil := "" }]

/-- The runs of two workers on this queue. -/
def runTwoWorkers (steps : List DrainStep) : DrainSystem :=
  steps.foldl (DrainSystem.next labelledGcm (.fromKek (sampleKek 1) 1) drainTime)
    ⟨oneEventQueue, []⟩

/-- The second worker calls when the first one has the event. -/
def oneAfterTheOther : List DrainStep :=
  [.call 0 0 10 300, .advance 0 false, .advance 0 false, .advance 0 false,
    .call 1 1 10 300, .advance 1 false]

/-- Both workers select before either of them leases. -/
def bothSelectFirst : List DrainStep :=
  [.call 0 0 10 300, .call 1 1 10 300, .advance 0 false, .advance 1 false,
    .advance 0 false, .advance 1 false, .advance 0 false, .advance 1 false]

instance (system : DrainSystem) (step : DrainStep) : Decidable (WithinLease system step) :=
  match step with
  | .call .. => inferInstanceAs (Decidable (∀ other ∈ system.calls, _))
  | .advance .. => inferInstanceAs (Decidable True)

instance (toRfc3339 : Nat → String) (system : DrainSystem) (step : DrainStep) :
    Decidable (SelectsUnclaimed toRfc3339 system step) :=
  match step with
  | .call .. => inferInstanceAs (Decidable (_ ∧ _))
  | .advance _ true => inferInstanceAs (Decidable True)
  | .advance index false => inferInstanceAs (Decidable (∀ call ∈ system.calls[index]?, _))

example : (runTwoWorkers oneAfterTheOther).calls.map ClaimCall.stage =
    [.returned [⟨1, "event", 0, ""⟩], .returned []] := by decide +kernel

theorem oneAfterTheOther_event_returned_once :
    NoneReturnedTwice (runTwoWorkers oneAfterTheOther) :=
  no_row_returned_twice (fun _ => rfl) (by decide +kernel) (by decide +kernel)

/-- Two workers that call at nearly the same time both return the event. -/
theorem bothSelectFirst_event_returned_twice :
    Each (DrainSystem.next labelledGcm (.fromKek (sampleKek 1) 1) drainTime) WithinLease
        ⟨oneEventQueue, []⟩ bothSelectFirst ∧
      (runTwoWorkers bothSelectFirst).calls.map ClaimCall.stage =
        [.returned [⟨1, "event", 0, ""⟩], .returned [⟨1, "event", 0, ""⟩]] ∧
      ¬ NoneReturnedTwice (runTwoWorkers bothSelectFirst) := by
  have within : Each (DrainSystem.next labelledGcm (.fromKek (sampleKek 1) 1) drainTime)
      WithinLease ⟨oneEventQueue, []⟩ bothSelectFirst := by decide +kernel
  have calls : (runTwoWorkers bothSelectFirst).calls =
      [⟨0, 300000000000, 10, .returned [⟨1, "event", 0, ""⟩]⟩,
        ⟨1, 300000000001, 10, .returned [⟨1, "event", 0, ""⟩]⟩] := by decide +kernel
  have stages := congrArg (List.map ClaimCall.stage) calls
  constructor
  · exact within
  constructor
  · exact stages
  · intro once
    have first : (runTwoWorkers bothSelectFirst).calls[0]? =
        some ⟨0, 300000000000, 10, .returned [⟨1, "event", 0, ""⟩]⟩ := by rw [calls]; rfl
    have second : (runTwoWorkers bothSelectFirst).calls[1]? =
        some ⟨1, 300000000001, 10, .returned [⟨1, "event", 0, ""⟩]⟩ := by rw [calls]; rfl
    exact once 0 1 _ _ (by decide) first second 1 (by decide) (by decide)

end DlpSystem.Audit
