import DlpSystem.Audit.Verdicts

/-!
# A batch that is delivered again

An agent that has lost the response to a batch posts it once more.  Its rows are
ignored by their correlation ids, but verification comes first and meets a chain that
the first delivery has moved.
-/

namespace DlpSystem.Audit

open Server

/-! ## Insertion -/

theorem newEvents_eq_nil_iff {rows : List AuditEventRow} {events : List AuditEvent} :
    newEvents rows events = [] ↔ ∀ event ∈ events, Known rows event := by
  induction events with
  | nil => simp [newEvents]
  | cons event rest ih =>
      rw [newEvents, List.forall_mem_cons]
      by_cases known : Known rows event
      · rw [if_pos known, ih]
        simp [known]
      · simp [known]

theorem Known.append {rows : List AuditEventRow} {event : AuditEvent}
    (known : Known rows event) (others : List AuditEventRow) : Known (rows ++ others) event := by
  rcases known with ⟨isSome, row, member, same⟩
  exact ⟨isSome, row, List.mem_append_left _ member, same⟩

/-- Once a batch is stored the table knows its correlation ids. -/
theorem known_of_stored {rows : List AuditEventRow} {events : List AuditEvent}
    {event : AuditEvent} (member : event ∈ events)
    (hasId : event.content.correlationId.isSome) :
    Known (rows ++ (newEvents rows events).map rowOf) event := by
  induction events generalizing rows with
  | nil => simp at member
  | cons first rest ih =>
      rw [newEvents]
      by_cases known : Known rows first
      · rw [if_pos known]
        rcases List.mem_cons.mp member with rfl | later
        · exact known.append _
        · exact ih later
      · rw [if_neg known, List.map_cons, ← List.singleton_append, ← List.append_assoc]
        rcases List.mem_cons.mp member with rfl | later
        · apply Known.append
          exact ⟨hasId, rowOf event, List.mem_append_right _ (List.mem_singleton.mpr rfl), rfl⟩
        · exact ih later

/-- Storing a batch again leaves the table as it is exactly when every event has a
correlation id. -/
theorem stored_again_iff {rows : List AuditEventRow} {events : List AuditEvent} :
    newEvents (rows ++ (newEvents rows events).map rowOf) events = [] ↔
      ∀ event ∈ events, event.content.correlationId.isSome := by
  rw [newEvents_eq_nil_iff]
  constructor
  · intro known event member
    exact (known event member).1
  · intro hasId event member
    exact known_of_stored member (hasId event member)

/-! ## Responses -/

theorem chainBreakCount_eq_zero_iff {env : IngestEnv} {rows : List AuditEventRow}
    {sorted : List AuditEvent} :
    (ingestSorted env rows sorted).2.chainBreakCount = 0 ↔
      (verifyEvents env.hasher rows sorted).breaks = [] := by
  change (distinctBreaks (verifyEvents env.hasher rows sorted).breaks).length = 0 ↔ _
  cases (verifyEvents env.hasher rows sorted).breaks with
  | nil => simp [distinctBreaks]
  | cons first rest => simp [distinctBreaks, List.eraseDups_cons]

/-- Whether a batch is accepted does not depend on the table. -/
theorem ingestEvents_accepted {env : IngestEnv} {rows : List AuditEventRow}
    {batch : List AuditEvent} {answer : List AuditEventRow × IngestEventsResponse}
    (accepted : ingestEvents env rows batch = .ok answer) (others : List AuditEventRow) :
    ingestEvents env others batch =
      .ok (ingestSorted env others (batch.insertionSort InOrder)) := by
  unfold ingestEvents at accepted ⊢
  cases empty : batch.isEmpty with
  | true =>
      rw [if_pos empty] at accepted
      cases accepted
  | false =>
      cases validated : validateEvents batch with
      | error error => simp [empty, validated] at accepted
      | ok _ => rfl

/-! ## The second delivery -/

/-- The events of a batch that are new to the table leave the stored head of an agent
where it is: none of them has a hash, or the last hash among them is that head. -/
def HeadKept (hasher : ChainHasher) (rows : List AuditEventRow) (batch : List AuditEvent)
    (agentId : String) : Prop :=
  headAfter (storedHead hasher rows agentId)
      (eventsOf agentId (newEvents rows (batch.insertionSort InOrder))) =
    storedHead hasher rows agentId

instance (hasher : ChainHasher) (rows : List AuditEventRow) (batch : List AuditEvent)
    (agentId : String) : Decidable (HeadKept hasher rows batch agentId) :=
  inferInstanceAs (Decidable (_ = _))

/-- Verification of a batch that continues the chains of one table passes on another
table exactly when its agents have the same heads there. -/
theorem verifyEvents_moved_iff {hasher : ChainHasher} {rows others : List AuditEventRow}
    {events : List AuditEvent} (clean : (verifyEvents hasher rows events).breaks = []) :
    (verifyEvents hasher others events).breaks = [] ↔
      ∀ event ∈ events, event.chainHash ≠ none →
        storedHead hasher others event.content.agentId =
          storedHead hasher rows event.content.agentId := by
  have follows := (verifyEvents_clean_iff events).mp clean
  rw [verifyEvents_clean_iff]
  constructor
  · intro followsOthers event member hashed
    have mine : event ∈ eventsOf event.content.agentId events :=
      List.mem_filter.mpr ⟨member, by simp⟩
    exact (followsOthers event.content.agentId).head_unique (follows event.content.agentId)
      ⟨event, mine, hashed⟩
  · intro same agentId
    by_cases hashed : ∃ event ∈ eventsOf agentId events, event.chainHash ≠ none
    · rcases hashed with ⟨event, mine, isHashed⟩
      rcases List.mem_filter.mp mine with ⟨member, agent⟩
      rw [← of_decide_eq_true agent, same event member isHashed]
      exact follows event.content.agentId
    · apply follows_of_no_hash
      intro event mine
      by_contra isHashed
      exact hashed ⟨event, mine, isHashed⟩

/-- Posting an accepted batch without breaks once more changes nothing and reports no
break exactly when every event has a correlation id and the new events of the batch
moved no stored head. -/
theorem redelivery_unchanged_iff {env : IngestEnv} {rows stored : List AuditEventRow}
    {batch : List AuditEvent} {response : IngestEventsResponse}
    (accepted : ingestEvents env rows batch = .ok (stored, response))
    (noBreaks : response.chainBreakCount = 0) :
    (∃ again, ingestEvents env stored batch = .ok (stored, again) ∧ again.chainBreakCount = 0) ↔
      (∀ event ∈ batch, event.content.correlationId.isSome) ∧
        ∀ event ∈ batch, event.chainHash ≠ none →
          HeadKept env.hasher rows batch event.content.agentId := by
  have first := ingestEvents_accepted accepted rows
  have second := ingestEvents_accepted accepted stored
  have perm := List.perm_insertionSort InOrder batch
  generalize sorting : batch.insertionSort InOrder = sorted at first second perm
  have answer : ingestSorted env rows sorted = (stored, response) :=
    Except.ok.inj (first.symm.trans accepted)
  have clean : (verifyEvents env.hasher rows sorted).breaks = [] := by
    rw [← chainBreakCount_eq_zero_iff, answer]
    exact noBreaks
  have storedRows : stored = rows ++ (newEvents rows sorted).map rowOf := by
    rw [← foldl_insertOrIgnore_rowOf, ← ingestSorted_stored clean, answer]
  have moved (agentId : String) : storedHead env.hasher stored agentId =
      headAfter (storedHead env.hasher rows agentId)
        (eventsOf agentId (newEvents rows sorted)) := by
    rw [storedRows, storedHead_append_events]
  have heads : (verifyEvents env.hasher stored sorted).breaks = [] ↔
      ∀ event ∈ batch, event.chainHash ≠ none →
        HeadKept env.hasher rows batch event.content.agentId := by
    rw [verifyEvents_moved_iff clean]
    simp only [HeadKept, sorting, moved, perm.mem_iff]
  have ids : newEvents stored sorted = [] ↔
      ∀ event ∈ batch, event.content.correlationId.isSome := by
    rw [storedRows, stored_again_iff]
    simp only [perm.mem_iff]
  rw [← heads, ← ids, second]
  constructor
  · rintro ⟨again, same, againNone⟩
    have answerAgain := Except.ok.inj same
    have cleanAgain : (verifyEvents env.hasher stored sorted).breaks = [] := by
      rw [← chainBreakCount_eq_zero_iff, answerAgain]
      exact againNone
    constructor
    · have unchanged := congrArg Prod.fst answerAgain
      rw [ingestSorted_stored cleanAgain, foldl_insertOrIgnore_rowOf] at unchanged
      simpa using unchanged
    · exact cleanAgain
  · rintro ⟨nothingNew, cleanAgain⟩
    refine ⟨(ingestSorted env stored sorted).2, ?_, chainBreakCount_eq_zero_iff.mpr cleanAgain⟩
    have unchanged : (ingestSorted env stored sorted).1 = stored := by
      rw [ingestSorted_stored cleanAgain, foldl_insertOrIgnore_rowOf, nothingNew]
      simp
    exact congrArg Except.ok (Prod.ext unchanged rfl)

/-- The first event of a chain. -/
def hashedEvent : AuditEvent :=
  ⟨sampleContent 1 "1", some "0", some "01"⟩

/-- An event without a chain, such as one of an agent that does not stamp. -/
def plainEvent : AuditEvent :=
  ⟨sampleContent 2 "2", none, none⟩

/-- A hashed event under the correlation id of another agent's row is ignored both times, and
the event without a chain is stored once. -/
theorem hashedEvent_redelivered :
    ingestEvents sampleEnv [otherAgentRow "1"] [hashedEvent, plainEvent] =
        .ok ([otherAgentRow "1", rowOf plainEvent], cleanResponse) ∧
      ∃ again, ingestEvents sampleEnv [otherAgentRow "1", rowOf plainEvent]
            [hashedEvent, plainEvent] =
          .ok ([otherAgentRow "1", rowOf plainEvent], again) ∧
        again.chainBreakCount = 0 := by
  have accepted : ingestEvents sampleEnv [otherAgentRow "1"] [hashedEvent, plainEvent] =
      .ok ([otherAgentRow "1", rowOf plainEvent], cleanResponse) := by decide +kernel
  refine ⟨accepted, (redelivery_unchanged_iff accepted rfl).mpr ⟨by decide, ?_⟩⟩
  decide +kernel

/-- The first event of a chain, posted twice, is a break the second time and leaves a
synthetic row. -/
theorem chainedEvent_redelivered :
    ingestEvents sampleEnv [] [hashedEvent] = .ok ([rowOf hashedEvent], cleanResponse) ∧
      ingestEvents sampleEnv [rowOf hashedEvent] [hashedEvent] =
        .ok ([rowOf hashedEvent, ⟨hashedEvent.content.agentId, some "synthetic", none, none⟩],
          ⟨some hashedEvent.content.agentId, 1⟩) :=
  ⟨by decide +kernel, by decide +kernel⟩

end DlpSystem.Audit
