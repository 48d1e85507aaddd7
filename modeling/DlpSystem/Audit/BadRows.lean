import DlpSystem.Audit.QueueLeases
import DlpSystem.AuditWire.ChainHash
import DlpSystem.Server.SyslogQueue

/-!
# Bad rows in the syslog queue

A row is good if its event can be decrypted and parsed.  A tick treats a batch as one: a
single row that cannot be decrypted makes the whole claim fail, and a single event that
cannot be parsed marks the whole batch as corrupt.
-/

namespace DlpSystem.Audit

open Lib Server

section BadRows

variable {Event : Type} (gcm : Aes256Gcm) (parse : String → Except String Event)

/-! ## The property and the condition -/

/-- The event of a row, if it can be decrypted and parsed. -/
def goodEvent (crypto : SecretCrypto) (row : SyslogRow) : Option Event :=
  (row.event gcm crypto).toOption.bind fun queued => (parse queued.eventJson).toOption

/-- A tick comes as far as the lease of `peek_and_claim`. -/
def Claims (state : DrainState) (tick : DrainTick) : Prop :=
  tick.countFails = false ∧ state.queue.rows ≠ [] ∧ tick.countReadyFails = false ∧
    state.queue.countReady (utcText tick.countReadyAt) ≠ 0 ∧
    tick.claimFault ≠ some .beforeLease

instance (state : DrainState) (tick : DrainTick) : Decidable (Claims state tick) :=
  inferInstanceAs (Decidable (_ ∧ _))

/-- The batch that a tick claims: the rows that it leases, the oldest ones first. -/
def claimedRows (state : DrainState) (tick : DrainTick) : List SyslogRow :=
  if Claims state tick then
    sortAscending SyslogRow.createdAt
      ((tick.leased state.queue).rows.filter fun row => row.id ∈ tick.eligibleIds state.queue)
  else []

/-- The backoff of a tick. -/
def backoffOf (state : DrainState) (tick : DrainTick) : String :=
  computeNextAttempt state.consecutiveFailures tick.jitterClock tick.rescheduleAt

/-- Bad rows cost the good ones nothing: if forwarding succeeds, then the good rows of the
batch are forwarded and deleted, and no good row is put off beyond the backoff. -/
structure KeepsGoodRows (state : DrainState) (tick : DrainTick) : Prop where
  forwarded : tick.forwarding = .ok () →
    ((claimedRows state tick).filterMap (goodEvent gcm parse tick.crypto)).Sublist
      (state.tick gcm parse tick).2
  deleted : tick.forwarding = .ok () →
    ∀ row ∈ claimedRows state tick, (goodEvent gcm parse tick.crypto row).isSome →
      ∀ left ∈ (state.tick gcm parse tick).1.queue.rows, left.id ≠ row.id
  backoff : ∀ row ∈ (state.tick gcm parse tick).1.queue.rows,
    (goodEvent gcm parse tick.crypto row).isSome →
      row.nextAttemptAt ≤ backoffOf state tick ∨
        ∃ old ∈ state.queue.rows, old.id = row.id ∧ old.nextAttemptAt = row.nextAttemptAt

/-- The condition.  When forwarding would succeed, a batch with a good row has only good
rows, can be read again and can be deleted.  When all rows of a batch can be decrypted and
some event cannot be parsed, a good row is marked only if the mark fails, changes nothing or
is not beyond the backoff. -/
structure SparesGoodRows (state : DrainState) (tick : DrainTick) : Prop where
  delivers : tick.forwarding = .ok () →
    (∃ row ∈ claimedRows state tick, (goodEvent gcm parse tick.crypto row).isSome) →
      (∀ row ∈ claimedRows state tick, (goodEvent gcm parse tick.crypto row).isSome) ∧
        tick.claimFault = none ∧ tick.deleteFails = false
  marks : tick.claimFault = none →
    (∀ row ∈ claimedRows state tick, ∃ queued, row.event gcm tick.crypto = .ok queued) →
      (∃ row ∈ claimedRows state tick, goodEvent gcm parse tick.crypto row = none) →
        ∀ row ∈ claimedRows state tick, (goodEvent gcm parse tick.crypto row).isSome →
          tick.markFails row.id = true ∨ farFuture ≤ backoffOf state tick ∨
            row.nextAttemptAt = farFuture

/-! ## What a tick does to rows -/

variable {gcm parse} {crypto : SecretCrypto}

/-- Whether a row is good depends on its event alone. -/
theorem goodEvent_congr {row old : SyslogRow} (same : row.toQueueRow = old.toQueueRow) :
    goodEvent gcm parse crypto row = goodEvent gcm parse crypto old := by
  have encrypted : row.eventJsonEncrypted = old.eventJsonEncrypted :=
    congrArg QueueRow.eventJsonEncrypted same
  have nonce : row.eventJsonNonce = old.eventJsonNonce := congrArg QueueRow.eventJsonNonce same
  unfold goodEvent SyslogRow.event
  rw [encrypted, nonce]
  cases openTrio gcm crypto (aadFor "syslog_queue" "event_json") old.eventJsonEncrypted
    old.eventJsonNonce <;> rfl

theorem goodEvent_of_read {row : SyslogRow} {queued : QueuedEvent}
    (read : row.event gcm crypto = .ok queued) :
    goodEvent gcm parse crypto row = (parse queued.eventJson).toOption := by
  rw [goodEvent, read]
  rfl

/-- What the marks of a loop over a batch make of a row. -/
def markEach (skip : Int → Bool) (error nextAttempt : String) (batch : List QueuedEvent)
    (row : SyslogRow) : SyslogRow :=
  batch.foldl (fun row event =>
    if skip event.id = false ∧ row.id = event.id then
      { row with
        retryCount := row.retryCount + 1
        lastError := error
        nextAttemptAt := nextAttempt }
    else row) row

theorem foldl_markFailed_rows (skip : Int → Bool) (error nextAttempt : String)
    (batch : List QueuedEvent) (queue : SyslogTable) :
    (batch.foldl (fun (queue : SyslogTable) event =>
        if skip event.id then queue else queue.markFailed event.id error nextAttempt) queue).rows =
      queue.rows.map (markEach skip error nextAttempt batch) := by
  induction batch generalizing queue with
  | nil => exact (List.map_id _).symm
  | cons event batch ih =>
      rw [List.foldl_cons, ih]
      cases skipped : skip event.id with
      | true =>
          apply List.map_congr_left
          intro row _
          simp [markEach, skipped]
      | false =>
          simp only [Bool.false_eq_true, if_false, SyslogTable.markFailed, UniqueTable.update,
            List.map_map]
          apply List.map_congr_left
          intro row _
          simp [markEach, skipped]

theorem toQueueRow_markEach (skip : Int → Bool) (error nextAttempt : String)
    (batch : List QueuedEvent) (row : SyslogRow) :
    (markEach skip error nextAttempt batch row).toQueueRow = row.toQueueRow := by
  induction batch generalizing row with
  | nil => rfl
  | cons event batch ih =>
      unfold markEach at ih ⊢
      rw [List.foldl_cons, ih]
      split <;> rfl

/-- A row is put off if one of the marks is for it. -/
theorem nextAttemptAt_markEach (skip : Int → Bool) (error nextAttempt : String)
    (batch : List QueuedEvent) (row : SyslogRow) :
    (markEach skip error nextAttempt batch row).nextAttemptAt =
      if row.id ∈ batch.map QueuedEvent.id ∧ skip row.id = false then nextAttempt
      else row.nextAttemptAt := by
  induction batch generalizing row with
  | nil => rfl
  | cons event batch ih =>
      unfold markEach at ih ⊢
      rw [List.foldl_cons, ih]
      by_cases same : row.id = event.id
      · cases skipped : skip event.id <;> simp [same, skipped]
      · simp [same]

/-! ## The ways a tick can go -/

variable (gcm parse) in
/-- What a tick does: nothing is claimed; the batch cannot be read again; some event of it
cannot be parsed; it is forwarded; or forwarding fails. -/
inductive TickCase (state : DrainState) (tick : DrainTick) : DrainState × List Event → Prop
  | idle (failures : UInt32) (nothing : claimedRows state tick = []) :
      TickCase state tick (⟨state.queue, failures⟩, [])
  | unread (failures : UInt32)
      (unreadable : tick.claimFault = some .afterLease ∨
        ∃ row ∈ claimedRows state tick, ∀ queued, row.event gcm tick.crypto ≠ .ok queued) :
      TickCase state tick (⟨tick.leased state.queue, failures⟩, [])
  | corrupt (failures : UInt32) (batch : List QueuedEvent) (fault : tick.claimFault = none)
      (read : (claimedRows state tick).mapM (SyslogRow.event gcm tick.crypto) = .ok batch)
      (unparsed : ∀ events, (batch.mapM fun event => parse event.eventJson) ≠ .ok events) :
      TickCase state tick
        (⟨markCorrupt (tick.leased state.queue) batch tick.markFails, failures⟩, [])
  | forwarded (failures : UInt32) (batch : List QueuedEvent) (events : List Event)
      (fault : tick.claimFault = none)
      (read : (claimedRows state tick).mapM (SyslogRow.event gcm tick.crypto) = .ok batch)
      (parsed : (batch.mapM fun event => parse event.eventJson) = .ok events) :
      TickCase state tick
        (⟨if tick.deleteFails then tick.leased state.queue
          else (tick.leased state.queue).delete (batch.map QueuedEvent.id), failures⟩, events)
  | refused (failures : UInt32) (batch : List QueuedEvent) (events : List Event)
      (error : String) (refusal : tick.forwarding = .error error)
      (read : (claimedRows state tick).mapM (SyslogRow.event gcm tick.crypto) = .ok batch)
      (parsed : (batch.mapM fun event => parse event.eventJson) = .ok events) :
      TickCase state tick
        (⟨if tick.rescheduleFails then tick.leased state.queue
          else reschedule (tick.leased state.queue) batch error (backoffOf state tick),
          failures⟩, [])

variable {state : DrainState} {tick : DrainTick}

theorem claimedRows_of_not_claims (idle : ¬ Claims state tick) : claimedRows state tick = [] :=
  if_neg idle

/-- Without eligible rows nothing is claimed, and only then. -/
theorem claimedRows_eq_nil_iff (claims : Claims state tick) :
    claimedRows state tick = [] ↔ tick.eligibleIds state.queue = [] := by
  unfold claimedRows
  rw [if_pos claims, sortAscending_eq_nil_iff, List.filter_eq_nil_iff]
  constructor
  · intro none_
    rw [List.eq_nil_iff_forall_not_mem]
    intro id member
    obtain ⟨row, rowMember, rfl, -⟩ := exists_of_mem_selectEligible member
    have leased : ∃ later ∈ (tick.leased state.queue).rows, later.id = row.id := by
      refine ⟨_, List.mem_map.mpr ⟨row, rowMember, rfl⟩, ?_⟩
      split <;> rfl
    obtain ⟨later, laterMember, sameId⟩ := leased
    apply none_ later laterMember
    simpa [sameId] using member
  · intro none_ row _
    simp [none_]

/-- A tick goes in one of these ways. -/
theorem tick_cases (state : DrainState) (tick : DrainTick) :
    TickCase gcm parse state tick (state.tick gcm parse tick) := by
  by_cases claims : Claims state tick
  · obtain ⟨counted, present, counted', ready, fault⟩ := id claims
    have rows : ¬ (tick.countFails || decide (state.queue.rows.length = 0)) = true := by
      simp [counted, present]
    have readyRows : ¬ (tick.countReadyFails ||
        decide (state.queue.countReady (utcText tick.countReadyAt) = 0)) = true := by
      simp [counted', ready]
    unfold DrainState.tick peekAndClaim
    rw [if_neg rows, if_neg readyRows, if_neg fault]
    by_cases none_ : tick.eligibleIds state.queue = []
    · rw [if_pos none_]
      exact .idle _ ((claimedRows_eq_nil_iff claims).mpr none_)
    · rw [if_neg none_]
      by_cases later : tick.claimFault = some .afterLease
      · rw [if_pos later]
        exact .unread _ (.inl later)
      · have noFault : tick.claimFault = none := by
          rcases found : tick.claimFault with _ | _ | _
          · rfl
          · exact absurd found fault
          · exact absurd found later
        rw [if_neg later]
        have claimed : selectClaimed gcm tick.crypto (tick.leased state.queue).rows
            (tick.eligibleIds state.queue) =
              (claimedRows state tick).mapM (SyslogRow.event gcm tick.crypto) := by
          unfold selectClaimed claimedRows
          rw [if_pos claims]
        rw [claimed]
        cases read : (claimedRows state tick).mapM (SyslogRow.event gcm tick.crypto) with
        | error failure =>
            apply TickCase.unread _ (.inr _)
            by_contra allRead
            have readable : ∀ row ∈ claimedRows state tick,
                ∃ queued, row.event gcm tick.crypto = .ok queued := by simpa using allRead
            obtain ⟨batch, success⟩ := exists_mapM_eq_ok_iff.mpr readable
            cases read.symm.trans success
        | ok batch =>
            have some_ : batch ≠ [] := by
              have claimedRow : claimedRows state tick ≠ [] :=
                fun nothing => none_ ((claimedRows_eq_nil_iff claims).mp nothing)
              obtain ⟨row, rowMember⟩ := List.exists_mem_of_ne_nil _ claimedRow
              obtain ⟨queued, queuedMember, -⟩ := exists_mem_of_mapM read rowMember
              exact List.ne_nil_of_mem queuedMember
            simp only [Except.toOption, if_neg some_]
            cases parsed : batch.mapM fun event => parse event.eventJson with
            | error failure =>
                apply TickCase.corrupt _ batch noFault read
                intro events success
                cases parsed.symm.trans success
            | ok events =>
                cases forwarding : tick.forwarding with
                | ok _ => exact .forwarded _ batch events noFault read parsed
                | error error => exact .refused _ batch events error forwarding read parsed
  · have nothing := claimedRows_of_not_claims claims
    unfold DrainState.tick
    split
    · exact .idle _ nothing
    · split
      · exact .idle _ nothing
      · have before : tick.claimFault = some .beforeLease := by
          by_contra later
          apply claims
          simp_all [Claims]
        unfold peekAndClaim
        rw [if_pos before]
        exact .idle _ nothing

/-! ## What becomes of good rows -/

/-- A batch that is parsed has only good rows, and their events are forwarded. -/
theorem goodEvents_of_parsed {rows : List SyslogRow} {batch : List QueuedEvent}
    {events : List Event} (read : rows.mapM (SyslogRow.event gcm crypto) = .ok batch)
    (parsed : (batch.mapM fun event => parse event.eventJson) = .ok events) :
    rows.filterMap (goodEvent gcm parse crypto) = events ∧
      ∀ row ∈ rows, (goodEvent gcm parse crypto row).isSome := by
  constructor
  · have twice : goodEvent gcm parse crypto = fun row =>
        (row.event gcm crypto).toOption.bind fun queued => (parse queued.eventJson).toOption := rfl
    rw [twice, ← List.filterMap_filterMap, filterMap_eq_of_mapM read, filterMap_eq_of_mapM parsed]
  · intro row member
    obtain ⟨queued, queuedMember, ofRow⟩ := exists_mem_of_mapM read member
    obtain ⟨event, -, ofQueued⟩ := exists_mem_of_mapM parsed queuedMember
    rw [goodEvent_of_read ofRow, ofQueued]
    rfl

/-- The rows of a batch have the ids of its events. -/
theorem id_mem_batch_iff {rows : List SyslogRow} {batch : List QueuedEvent}
    (read : rows.mapM (SyslogRow.event gcm crypto) = .ok batch) (id : Int) :
    id ∈ batch.map QueuedEvent.id ↔ ∃ row ∈ rows, row.id = id := by
  have sameId {row : SyslogRow} {queued : QueuedEvent}
      (made : row.event gcm crypto = .ok queued) : queued.id = row.id := by
    obtain ⟨eventJson, -, built⟩ := bind_eq_ok_iff.mp made
    cases Except.ok.inj built
    rfl
  constructor
  · intro member
    obtain ⟨queued, queuedMember, rfl⟩ := List.mem_map.mp member
    obtain ⟨row, rowMember, made⟩ := exists_of_mem_mapM read queuedMember
    exact ⟨row, rowMember, (sameId made).symm⟩
  · rintro ⟨row, rowMember, rfl⟩
    obtain ⟨queued, queuedMember, made⟩ := exists_mem_of_mapM read rowMember
    exact List.mem_map.mpr ⟨queued, queuedMember, sameId made⟩

/-- A claimed row is one of the leased queue. -/
theorem mem_leased_of_claimed {row : SyslogRow} (member : row ∈ claimedRows state tick) :
    row ∈ (tick.leased state.queue).rows := by
  unfold claimedRows at member
  split at member
  · exact (List.mem_filter.mp ((mem_sortAscending ..).mp member)).1
  · cases member

/-- Changes that put nothing off. -/
theorem exists_old_of_changed {rows : List SyslogRow} {ids : List Int}
    {change : SyslogRow → SyslogRow} {row : SyslogRow}
    (member : row ∈ rows.map fun row => if row.id ∈ ids then change row else row)
    (keeps : ∀ row, (change row).id = row.id ∧ (change row).nextAttemptAt = row.nextAttemptAt) :
    ∃ old ∈ rows, old.id = row.id ∧ old.nextAttemptAt = row.nextAttemptAt := by
  obtain ⟨old, oldMember, rfl⟩ := List.mem_map.mp member
  refine ⟨old, oldMember, ?_⟩
  split
  · exact ⟨(keeps old).1.symm, (keeps old).2.symm⟩
  · exact ⟨rfl, rfl⟩

/-- A lease puts nothing off. -/
theorem exists_old_of_leased {row : SyslogRow} (member : row ∈ (tick.leased state.queue).rows) :
    ∃ old ∈ state.queue.rows, old.id = row.id ∧ old.nextAttemptAt = row.nextAttemptAt :=
  exists_old_of_changed member fun _ => ⟨rfl, rfl⟩

/-- What is rescheduled is put off to the next attempt at most. -/
theorem exists_old_of_rescheduled {queue : SyslogTable} {batch : List QueuedEvent}
    {error nextAttempt : String} {row : SyslogRow}
    (member : row ∈ (reschedule queue batch error nextAttempt).rows) :
    row.nextAttemptAt = nextAttempt ∨
      ∃ old ∈ queue.rows, old.id = row.id ∧ old.nextAttemptAt = row.nextAttemptAt := by
  obtain ⟨marked, markedMember, sameId, sameAttempt⟩ :=
    exists_old_of_changed member fun _ => ⟨rfl, rfl⟩
  have rows := foldl_markFailed_rows (fun _ => false) error nextAttempt batch queue
  simp only [Bool.false_eq_true, if_false] at rows
  rw [rows] at markedMember
  obtain ⟨old, oldMember, rfl⟩ := List.mem_map.mp markedMember
  have oldId := congrArg QueueRow.id
    (toQueueRow_markEach (fun _ => false) error nextAttempt batch old)
  rw [nextAttemptAt_markEach] at sameAttempt
  split at sameAttempt
  · exact .inl sameAttempt.symm
  · exact .inr ⟨old, oldMember, oldId.symm.trans sameId, sameAttempt⟩

/-- The marks of corrupt events are for the whole batch. -/
theorem markCorrupt_rows (queue : SyslogTable) (batch : List QueuedEvent)
    (markFails : Int → Bool) :
    (markCorrupt queue batch markFails).rows =
      queue.rows.map (markEach markFails "deserialization error" farFuture batch) :=
  foldl_markFailed_rows markFails "deserialization error" farFuture batch queue

/-- One event that cannot be parsed makes the batch corrupt. -/
theorem TickCase.corrupt_of_bad {result : DrainState × List Event}
    (way : TickCase gcm parse state tick result) (fault : tick.claimFault = none)
    (readable : ∀ row ∈ claimedRows state tick, ∃ queued, row.event gcm tick.crypto = .ok queued)
    (bad : ∃ row ∈ claimedRows state tick, goodEvent gcm parse tick.crypto row = none) :
    ∃ batch failures, (claimedRows state tick).mapM (SyslogRow.event gcm tick.crypto) = .ok batch ∧
      result = (⟨markCorrupt (tick.leased state.queue) batch tick.markFails, failures⟩, []) := by
  obtain ⟨row, member, isBad⟩ := bad
  have notAllGood : ¬ (goodEvent gcm parse tick.crypto row).isSome := by simp [isBad]
  cases way with
  | idle failures nothing => exact absurd (nothing ▸ member) List.not_mem_nil
  | unread failures unreadable =>
      rcases unreadable with later | ⟨other, otherMember, unread⟩
      · cases fault.symm.trans later
      · obtain ⟨queued, read⟩ := readable other otherMember
        exact absurd read (unread queued)
  | corrupt failures batch _ read unparsed => exact ⟨batch, failures, read, rfl⟩
  | forwarded failures batch events _ read parsed =>
      exact absurd ((goodEvents_of_parsed read parsed).2 row member) notAllGood
  | refused failures batch events error _ read parsed =>
      exact absurd ((goodEvents_of_parsed read parsed).2 row member) notAllGood

/-! ## When good rows are kept -/

/-- If bad rows cost the good ones nothing, then the batch is as the condition says. -/
theorem KeepsGoodRows.spares (keeps : KeepsGoodRows gcm parse state tick) :
    SparesGoodRows gcm parse state tick := by
  have forwarded := keeps.forwarded
  have deleted := keeps.deleted
  have backoff := keeps.backoff
  obtain ⟨result, made⟩ : ∃ result, state.tick gcm parse tick = result := ⟨_, rfl⟩
  have way := @tick_cases _ gcm parse state tick
  rw [made] at forwarded deleted backoff way
  constructor
  · rintro accepts ⟨row, member, good⟩
    obtain ⟨event, ofRow⟩ := Option.isSome_iff_exists.mp good
    -- A good row makes the tick forward something, which it does in one case only.
    have sent : event ∈ result.2 :=
      (forwarded accepts).subset (List.mem_filterMap.mpr ⟨row, member, ofRow⟩)
    cases way with
    | forwarded failures batch events fault read parsed =>
        refine ⟨(goodEvents_of_parsed read parsed).2, fault, ?_⟩
        cases deletes : tick.deleteFails with
        | false => rfl
        | true =>
            rw [deletes, if_pos rfl] at deleted
            exact absurd rfl (deleted accepts row member good row (mem_leased_of_claimed member))
    | _ => cases sent
  · intro fault readable bad row member good
    obtain ⟨batch, failures, read, isCorrupt⟩ := way.corrupt_of_bad fault readable bad
    rw [isCorrupt] at backoff
    cases fails : tick.markFails row.id with
    | true => exact .inl rfl
    | false =>
        right
        have marked : markEach tick.markFails "deserialization error" farFuture batch row ∈
            (markCorrupt (tick.leased state.queue) batch tick.markFails).rows := by
          rw [markCorrupt_rows]
          exact List.mem_map_of_mem (mem_leased_of_claimed member)
        have same := toQueueRow_markEach tick.markFails "deserialization error" farFuture
          batch row
        have attempt := nextAttemptAt_markEach tick.markFails "deserialization error"
          farFuture batch row
        rw [if_pos ⟨(id_mem_batch_iff read row.id).mpr ⟨row, member, rfl⟩, fails⟩] at attempt
        have putOff := backoff _ marked (by rw [goodEvent_congr same]; exact good)
        rw [attempt, congrArg QueueRow.id same] at putOff
        apply putOff.imp_right
        rintro ⟨old, oldMember, sameId, sameAttempt⟩
        obtain ⟨before, beforeMember, beforeId, beforeAttempt⟩ :=
          exists_old_of_leased (mem_leased_of_claimed member)
        have one := state.queue.eq_of_key_eq oldMember beforeMember (sameId.trans beforeId.symm)
        rw [← beforeAttempt, ← one, sameAttempt]

/-- What makes a row good. -/
theorem exists_of_good {row : SyslogRow} (good : (goodEvent gcm parse crypto row).isSome) :
    ∃ queued event, row.event gcm crypto = .ok queued ∧ parse queued.eventJson = .ok event := by
  unfold goodEvent at good
  cases read : row.event gcm crypto with
  | error failure => simp [read, Except.toOption] at good
  | ok queued =>
      cases parsed : parse queued.eventJson with
      | error failure => simp [read, parsed, Except.toOption] at good
      | ok event => exact ⟨queued, event, rfl, parsed⟩

/-- A batch of good rows can be parsed. -/
theorem exists_parsed_of_good {rows : List SyslogRow} {batch : List QueuedEvent}
    (read : rows.mapM (SyslogRow.event gcm crypto) = .ok batch)
    (allGood : ∀ row ∈ rows, (goodEvent gcm parse crypto row).isSome) :
    ∃ events, (batch.mapM fun event => parse event.eventJson) = .ok events := by
  apply exists_mapM_eq_ok_iff.mpr
  intro queued queuedMember
  obtain ⟨row, rowMember, ofRow⟩ := exists_of_mem_mapM read queuedMember
  obtain ⟨other, event, ofOther, parsed⟩ := exists_of_good (allGood row rowMember)
  cases Except.ok.inj (ofRow.symm.trans ofOther)
  exact ⟨event, parsed⟩

/-- If the batch is as the condition says, then what forwarding accepts is deleted. -/
theorem SparesGoodRows.delivered (spares : SparesGoodRows gcm parse state tick)
    (accepts : tick.forwarding = .ok ()) {result : DrainState × List Event}
    (way : TickCase gcm parse state tick result) :
    ((claimedRows state tick).filterMap (goodEvent gcm parse tick.crypto)).Sublist result.2 ∧
      ∀ row ∈ claimedRows state tick, (goodEvent gcm parse tick.crypto row).isSome →
        ∀ left ∈ result.1.queue.rows, left.id ≠ row.id := by
  by_cases anyGood : ∃ row ∈ claimedRows state tick, (goodEvent gcm parse tick.crypto row).isSome
  · obtain ⟨allGood, noFault, deletes⟩ := spares.delivers accepts anyGood
    cases way with
    | idle failures nothing =>
        obtain ⟨row, member, -⟩ := anyGood
        exact absurd (nothing ▸ member) List.not_mem_nil
    | unread failures unreadable =>
        rcases unreadable with later | ⟨row, member, unread⟩
        · cases noFault.symm.trans later
        · obtain ⟨queued, -, read, -⟩ := exists_of_good (allGood row member)
          exact absurd read (unread queued)
    | corrupt failures batch _ read unparsed =>
        obtain ⟨events, parsed⟩ := exists_parsed_of_good read allGood
        exact absurd parsed (unparsed events)
    | forwarded failures batch events _ read parsed =>
        constructor
        · rw [(goodEvents_of_parsed read parsed).1]
        · intro row member _ left leftMember sameId
          rw [deletes, if_neg Bool.false_ne_true] at leftMember
          apply (UniqueTable.mem_delete.mp leftMember).2
          exact (id_mem_batch_iff read left.id).mpr ⟨row, member, sameId.symm⟩
    | refused failures batch events error refusal => cases accepts.symm.trans refusal
  · constructor
    · have none_ : (claimedRows state tick).filterMap (goodEvent gcm parse tick.crypto) = [] := by
        rw [List.filterMap_eq_nil_iff]
        intro row member
        by_contra good
        exact anyGood ⟨row, member, Option.isSome_iff_ne_none.mpr good⟩
      rw [none_]
      exact List.nil_sublist _
    · intro row member good
      exact absurd ⟨row, member, good⟩ anyGood

/-- If the batch is as the condition says, then no good row is put off beyond the backoff. -/
theorem SparesGoodRows.backoff (spares : SparesGoodRows gcm parse state tick)
    {result : DrainState × List Event} (way : TickCase gcm parse state tick result)
    {row : SyslogRow} (member : row ∈ result.1.queue.rows)
    (good : (goodEvent gcm parse tick.crypto row).isSome) :
    row.nextAttemptAt ≤ backoffOf state tick ∨
      ∃ old ∈ state.queue.rows, old.id = row.id ∧ old.nextAttemptAt = row.nextAttemptAt := by
  cases way with
  | idle failures nothing => exact .inr ⟨row, member, rfl, rfl⟩
  | unread failures unreadable => exact .inr (exists_old_of_leased member)
  | corrupt failures batch fault read unparsed =>
      rw [markCorrupt_rows] at member
      obtain ⟨leased, leasedMember, rfl⟩ := List.mem_map.mp member
      have same := toQueueRow_markEach tick.markFails "deserialization error" farFuture batch
        leased
      have leasedGood : (goodEvent gcm parse tick.crypto leased).isSome := by
        rw [← goodEvent_congr same]
        exact good
      rw [congrArg QueueRow.id same, nextAttemptAt_markEach]
      split
      · rename_i marked
        obtain ⟨claimed, claimedMember, sameId⟩ := (id_mem_batch_iff read leased.id).mp marked.1
        have one := UniqueTable.eq_of_key_eq _ (mem_leased_of_claimed claimedMember) leasedMember
          sameId
        subst one
        have readable : ∀ row ∈ claimedRows state tick,
            ∃ queued, row.event gcm tick.crypto = .ok queued :=
          exists_mapM_eq_ok_iff.mp ⟨batch, read⟩
        have bad : ∃ row ∈ claimedRows state tick, goodEvent gcm parse tick.crypto row = none := by
          by_contra noBad
          obtain ⟨events, parsed⟩ := @exists_parsed_of_good _ _ parse _ _ _ read (by
            intro row rowMember
            rw [Option.isSome_iff_ne_none]
            exact fun isBad => noBad ⟨row, rowMember, isBad⟩)
          exact unparsed events parsed
        rcases spares.marks fault readable bad claimed claimedMember leasedGood with
          fails | within | already
        · simp [marked.2] at fails
        · exact .inl within
        · obtain ⟨old, oldMember, oldId, oldAttempt⟩ := exists_old_of_leased leasedMember
          exact .inr ⟨old, oldMember, oldId, oldAttempt.trans already⟩
      · exact .inr (exists_old_of_leased leasedMember)
  | forwarded failures batch events fault read parsed =>
      split at member
      · exact .inr (exists_old_of_leased member)
      · exact .inr (exists_old_of_leased (UniqueTable.mem_delete.mp member).1)
  | refused failures batch events error refusal read parsed =>
      split at member
      · exact .inr (exists_old_of_leased member)
      · rcases exists_old_of_rescheduled member with next | ⟨leased, leasedMember, sameId, attempt⟩
        · exact .inl next.le
        · obtain ⟨old, oldMember, oldId, oldAttempt⟩ := exists_old_of_leased leasedMember
          exact .inr ⟨old, oldMember, oldId.trans sameId, oldAttempt.trans attempt⟩

theorem keepsGoodRows_iff_spares (state : DrainState) (tick : DrainTick) :
    KeepsGoodRows gcm parse state tick ↔ SparesGoodRows gcm parse state tick := by
  constructor
  · exact KeepsGoodRows.spares
  · intro spares
    have way := @tick_cases _ gcm parse state tick
    constructor
    · exact fun accepts => (spares.delivered accepts way).1
    · exact fun accepts => (spares.delivered accepts way).2
    · exact fun row member good => spares.backoff way member good

/-! ## Runs -/

variable (gcm parse) in
/-- What an event of a run may do to good rows: only ticks put rows off. -/
def EventKeepsGoodRows (state : DrainState) : DrainEvent → Prop
  | .tick tick => KeepsGoodRows gcm parse state tick
  | event => ∀ row ∈ (state.next gcm parse event).queue.rows,
      row.nextAttemptAt = "" ∨
        ∃ old ∈ state.queue.rows, old.id = row.id ∧ old.nextAttemptAt = row.nextAttemptAt

variable (gcm parse) in
/-- The condition on an event of a run is one on ticks. -/
def EventSparesGoodRows (state : DrainState) : DrainEvent → Prop
  | .tick tick => SparesGoodRows gcm parse state tick
  | _ => True

/-- A new event may be sent at once. -/
theorem enqueue_attempts {table queue : SyslogTable} {id createdAt maxSize : Int} {nonce : Nonce}
    {eventJson : String}
    (queued : table.enqueue gcm id createdAt nonce eventJson crypto maxSize = .ok queue)
    {row : SyslogRow} (member : row ∈ queue.rows) :
    row.nextAttemptAt = "" ∨ row ∈ table.rows := by
  unfold SyslogTable.enqueue at queued
  split at queued
  · cases queued
  · split at queued
    · cases queued
    · cases Except.ok.inj queued
      rcases UniqueTable.mem_or_eq_of_mem_insertIgnore member with old | rfl
      · exact .inr old
      · exact .inl rfl

theorem eventKeepsGoodRows_iff (state : DrainState) (event : DrainEvent) :
    EventKeepsGoodRows gcm parse state event ↔ EventSparesGoodRows gcm parse state event := by
  cases event with
  | tick tick => exact keepsGoodRows_iff_spares state tick
  | enqueue id createdAt nonce eventJson crypto maxSize =>
      refine iff_of_true ?_ trivial
      intro row member
      simp only [DrainState.next] at member
      split at member
      · exact .inr ⟨row, member, rfl, rfl⟩
      · rename_i queued
        exact (enqueue_attempts queued member).imp_right fun old => ⟨row, old, rfl, rfl⟩
  | reencrypt id eventJsonEncrypted eventJsonNonce =>
      refine iff_of_true ?_ trivial
      intro row member
      exact .inr (exists_old_of_changed member fun _ => ⟨rfl, rfl⟩)

/-- In a run, bad rows cost the good ones nothing if and only if every tick that would
forward a batch with a good row finds only good rows in it and deletes them, and no tick
marks a good row as corrupt. -/
theorem keepsGoodRows_throughout_iff (gcm : Aes256Gcm) (parse : String → Except String Event)
    (state : DrainState) (events : List DrainEvent) :
    Each (DrainState.next gcm parse) (EventKeepsGoodRows gcm parse) state events ↔
      Each (DrainState.next gcm parse) (EventSparesGoodRows gcm parse) state events := by
  apply @each_congr _ _ _ _ (fun _ => True) _ _ _ (fun _ _ _ _ _ => trivial) _ trivial
  exact fun state event _ _ => eventKeepsGoodRows_iff state event

/-- Before the year 2099 the mark of corrupt events is beyond every backoff. -/
theorem backoffOf_lt_farFuture (state : DrainState) (tick : DrainTick)
    (before : tick.rescheduleAt + syslogBackoff state.consecutiveFailures tick.jitterClock <
      4070908800000000000) :
    backoffOf state tick < farFuture := by
  have newYear : utcText 4070908800000000000 < farFuture := by decide +kernel
  have lastYear : (utcTime 4070908800000000000).year ≤ 9999 := by decide +kernel
  have year : (utcTime (tick.rescheduleAt +
      syslogBackoff state.consecutiveFailures tick.jitterClock)).year ≤ 9999 := by
    apply le_trans (yearOfDay_mono _) lastYear
    simp only [LocalTime.day, utcTime]
    omega
  exact ((rfc3339_utcTime_lt_iff year lastYear).mpr before).trans newYear

/-- Until then a good row that is marked as corrupt is put off beyond its backoff. -/
theorem not_keepsGoodRows_of_marked
    (before : tick.rescheduleAt + syslogBackoff state.consecutiveFailures tick.jitterClock <
      4070908800000000000)
    (fault : tick.claimFault = none)
    (readable : ∀ row ∈ claimedRows state tick, ∃ queued, row.event gcm tick.crypto = .ok queued)
    (bad : ∃ row ∈ claimedRows state tick, goodEvent gcm parse tick.crypto row = none)
    {row : SyslogRow} (member : row ∈ claimedRows state tick)
    (good : (goodEvent gcm parse tick.crypto row).isSome) (marked : tick.markFails row.id = false)
    (fresh : row.nextAttemptAt ≠ farFuture) : ¬ KeepsGoodRows gcm parse state tick := by
  intro keeps
  rcases keeps.spares.marks fault readable bad row member good with fails | within | already
  · simp [marked] at fails
  · exact absurd (backoffOf_lt_farFuture state tick before) (not_lt_of_ge within)
  · exact fresh already

end BadRows

/-! ## A good event and a broken one -/

/-- `serde_json::from_str::<AuditEvent>` for the event of the example. -/
def readDiscovery (text : String) : Except String (AuditWire.AuditEvent String) :=
  match (AuditWire.discoverySerde.fromStr text).bind
      (AuditWire.AuditEvent.codec AuditWire.textTimes).decode with
  | some event => .ok event
  | none => .error "EOF while parsing an object"

def queuedRow (id : Int) (eventJson : String) : SyslogRow where
  id := id
  eventJsonEncrypted := labelledGcm.aead.encrypt (sampleKek 1) sampleNonce
    (aadFor "syslog_queue" "event_json") (utf8 eventJson)
  eventJsonNonce := sampleNonce.bytes
  createdAt := id
  retryCount := 0
  lastError := ""
  nextAttemptAt := ""
  leasedUntil := ""

/-- The queue with a good event and one that ends too soon. -/
def goodAndBroken : DrainState where
  queue := ⟨[queuedRow 1 (AuditWire.compactText AuditWire.discoveryTree), queuedRow 2 "\x7b"],
    by decide⟩
  consecutiveFailures := 0

/-- A tick in which nothing fails. -/
def quietTick : DrainTick where
  countFails := false
  countReadyFails := false
  countReadyAt := 1
  crypto := .fromKek (sampleKek 1) 1
  claimAt := 2
  leaseAt := 3
  claimFault := none
  markFails := fun _ => false
  forwarding := .ok ()
  deleteFails := false
  jitterClock := 4
  rescheduleAt := 5
  rescheduleFails := false

/-- A row whose event was encrypted is read as it was written. -/
theorem event_of_encrypted {gcm : Aes256Gcm} {crypto : SecretCrypto} {nonce : Nonce}
    {row : SyslogRow} {eventJson : String}
    (encrypted : row.eventJsonEncrypted = gcm.aead.encrypt crypto.kek nonce
      (aadFor "syslog_queue" "event_json") (utf8 eventJson))
    (stored : row.eventJsonNonce = nonce.bytes) :
    row.event gcm crypto = .ok ⟨row.id, eventJson, row.retryCount, row.lastError⟩ := by
  unfold SyslogRow.event
  rw [encrypted, stored, openTrio_encrypt]
  rfl

theorem readDiscovery_eq :
    (∃ event, readDiscovery (AuditWire.compactText AuditWire.discoveryTree) = .ok event) ∧
      ∃ error, readDiscovery "\x7b" = .error error := by
  constructor
  · have tree : AuditWire.discoverySerde.fromStr
        (AuditWire.compactText AuditWire.discoveryTree) = some AuditWire.discoveryTree := by
      simp only [AuditWire.discoverySerde, if_true]
    rw [readDiscovery, tree, Option.bind_some, AuditWire.discoveryTree, JsonCodec.decode_encode]
    exact ⟨_, rfl⟩
  · obtain ⟨fields, isObject⟩ : ∃ fields, AuditWire.discoveryTree = .object fields := ⟨_, rfl⟩
    have broken : "\x7b" ≠ AuditWire.compactText AuditWire.discoveryTree := by
      intro same
      rw [isObject, AuditWire.compactText] at same
      have lengths := congrArg String.length same
      simp only [String.length_append] at lengths
      have one : "\x7b".length = 1 ∧ "\x7d".length = 1 := by decide
      omega
    have noTree : AuditWire.discoverySerde.fromStr "\x7b" = none := by
      simp only [AuditWire.discoverySerde, if_neg broken]
    rw [readDiscovery, noTree]
    exact ⟨_, rfl⟩

/-- The two claimed rows are read as they were queued. -/
theorem goodAndBroken_event {row : SyslogRow} (member : row ∈ claimedRows goodAndBroken quietTick) :
    row.event labelledGcm quietTick.crypto = .ok ⟨row.id,
      if row.id = 1 then AuditWire.compactText AuditWire.discoveryTree else "\x7b",
      row.retryCount, row.lastError⟩ := by
  obtain ⟨old, oldMember, leased⟩ := List.mem_map.mp (mem_leased_of_claimed member)
  have same : row.toQueueRow = old.toQueueRow := by
    rw [← leased]
    split <;> rfl
  have queued : old = queuedRow 1 (AuditWire.compactText AuditWire.discoveryTree) ∨
      old = queuedRow 2 "\x7b" := by
    simpa [goodAndBroken] using oldMember
  have encrypted := congrArg QueueRow.eventJsonEncrypted same
  have stored := congrArg QueueRow.eventJsonNonce same
  have sameId := congrArg QueueRow.id same
  rcases queued with rfl | rfl
  · have first : row.id = 1 := sameId
    rw [if_pos first]
    exact event_of_encrypted encrypted stored
  · have second : row.id ≠ 1 := by
      rw [sameId]
      decide
    rw [if_neg second]
    exact event_of_encrypted encrypted stored

theorem goodAndBroken_ids :
    (claimedRows goodAndBroken quietTick).map (fun row => row.id) = [1, 2] := by
  decide +kernel

theorem goodAndBroken_good : ∃ row ∈ claimedRows goodAndBroken quietTick,
    (goodEvent labelledGcm readDiscovery quietTick.crypto row).isSome := by
  obtain ⟨event, good⟩ := readDiscovery_eq.1
  have listed : (1 : Int) ∈ (claimedRows goodAndBroken quietTick).map fun row => row.id := by
    rw [goodAndBroken_ids]
    exact List.mem_cons_self
  obtain ⟨row, member, first⟩ := List.mem_map.mp listed
  refine ⟨row, member, ?_⟩
  rw [goodEvent_of_read (goodAndBroken_event member)]
  simp only [if_pos first, good]
  rfl

theorem goodAndBroken_bad : ∃ row ∈ claimedRows goodAndBroken quietTick,
    goodEvent labelledGcm readDiscovery quietTick.crypto row = none := by
  obtain ⟨failure, broken⟩ := readDiscovery_eq.2
  have listed : (2 : Int) ∈ (claimedRows goodAndBroken quietTick).map fun row => row.id := by
    rw [goodAndBroken_ids]
    exact List.mem_cons_of_mem _ List.mem_cons_self
  obtain ⟨row, member, second⟩ := List.mem_map.mp listed
  refine ⟨row, member, ?_⟩
  have other : row.id ≠ 1 := by
    rw [second]
    decide
  rw [goodEvent_of_read (goodAndBroken_event member)]
  simp only [if_neg other, broken]
  rfl

/-- The event that ends too soon keeps the good one from being sent until 2099. -/
theorem goodAndBroken_parked :
    quietTick.forwarding = .ok () ∧
      (∃ row ∈ claimedRows goodAndBroken quietTick,
        (goodEvent labelledGcm readDiscovery quietTick.crypto row).isSome) ∧
      (goodAndBroken.tick labelledGcm readDiscovery quietTick).2 = [] ∧
      (∀ row ∈ (goodAndBroken.tick labelledGcm readDiscovery quietTick).1.queue.rows,
        row.nextAttemptAt = farFuture) ∧
      ¬ KeepsGoodRows labelledGcm readDiscovery goodAndBroken quietTick := by
  have readable : ∀ row ∈ claimedRows goodAndBroken quietTick,
      ∃ queued, row.event labelledGcm quietTick.crypto = .ok queued :=
    fun row member => ⟨_, goodAndBroken_event member⟩
  have way := @tick_cases _ labelledGcm readDiscovery goodAndBroken quietTick
  obtain ⟨batch, failures, read, isCorrupt⟩ := way.corrupt_of_bad rfl readable goodAndBroken_bad
  refine ⟨rfl, goodAndBroken_good, ?_, ?_, ?_⟩
  · rw [isCorrupt]
  · rw [isCorrupt]
    intro row member
    rw [markCorrupt_rows] at member
    obtain ⟨leased, leasedMember, rfl⟩ := List.mem_map.mp member
    have everyId : ∀ row ∈ (quietTick.leased goodAndBroken.queue).rows,
        row.id ∈ (claimedRows goodAndBroken quietTick).map fun row => row.id := by
      rw [goodAndBroken_ids]
      decide +kernel
    rw [nextAttemptAt_markEach, if_pos]
    refine ⟨(id_mem_batch_iff read _).mpr ?_, rfl⟩
    exact List.mem_map.mp (everyId leased leasedMember)
  · intro keeps
    obtain ⟨row, member, isBad⟩ := goodAndBroken_bad
    have isGood := (keeps.spares.delivers rfl goodAndBroken_good).1 row member
    rw [isBad] at isGood
    exact Bool.false_ne_true isGood

end DlpSystem.Audit
