import DlpSystem.Server.AuditStore

/-!
# The stream of one agent at the server

An agent that has done nothing wrong posts its chain batch by batch.  The server
sorts each batch by the time of its events before it verifies it, while the chain
has the order in which the emitter stamped them.
-/

namespace DlpSystem.Audit

open Server

/-! ## Verification of one agent's events -/

/-- The head the server expects an event of an agent to follow. -/
def expectedHead (hasher : ChainHasher) (rows : List AuditEventRow) (agentId : String)
    (state : Verification) : String :=
  ((state.lastHashCache agentId).or (getLastChainHash rows agentId)).getD hasher.genesisHash

/-- The hashes of an event are right for themselves. -/
def Stamped (hasher : ChainHasher) (event : AuditEvent) : Prop :=
  ∃ previous chainHash, event.prevHash = some previous ∧
    hasher.computeChainHash previous event.content = some chainHash ∧
    event.chainHash = some chainHash

theorem Chained.stamped {hasher : ChainHasher} {head : String} {events : List AuditEvent}
    (chained : Chained hasher head events) : ∀ event ∈ events, Stamped hasher event := by
  induction events generalizing head with
  | nil => simp
  | cons event rest ih =>
      rcases chained with ⟨previous, chainHash, computed, own, others⟩
      intro member inside
      rcases List.mem_cons.mp inside with rfl | later
      · exact ⟨head, chainHash, previous, computed, own⟩
      · exact ih others member later

section Verify

variable {hasher : ChainHasher} {rows : List AuditEventRow} {agentId : String}

/-- An event that follows the expected head becomes the next one. -/
theorem verifyEvent_of_head {state : Verification} {event : AuditEvent} {chainHash : String}
    (agent : event.content.agentId = agentId)
    (previous : event.prevHash = some (expectedHead hasher rows agentId state))
    (computed : hasher.computeChainHash (expectedHead hasher rows agentId state) event.content =
      some chainHash)
    (own : event.chainHash = some chainHash) :
    (verifyEvent hasher rows state event).breaks = state.breaks ∧
      expectedHead hasher rows agentId (verifyEvent hasher rows state event) = chainHash := by
  subst agent
  unfold verifyEvent
  simp only [own, previous, Option.getD_some, computed, ne_eq, not_true_eq_false, if_false]
  rw [if_neg (by simp [expectedHead])]
  simp [expectedHead]

/-- A stamped event that follows another head is a break. -/
theorem verifyEvent_of_other_head {state : Verification} {event : AuditEvent}
    {previous chainHash : String} (agent : event.content.agentId = agentId)
    (isPrevious : event.prevHash = some previous)
    (computed : hasher.computeChainHash previous event.content = some chainHash)
    (own : event.chainHash = some chainHash)
    (other : previous ≠ expectedHead hasher rows agentId state) :
    (verifyEvent hasher rows state event).breaks =
      state.breaks ++ [⟨agentId, event.content.correlationId, .prevHashMismatch⟩] := by
  subst agent
  unfold verifyEvent
  simp only [own, isPrevious, Option.getD_some, computed, ne_eq, not_true_eq_false, if_false]
  rw [if_pos (by simpa [expectedHead] using other)]

/-- Verification only adds breaks. -/
theorem length_breaks_verifyEvent (state : Verification) (event : AuditEvent) :
    state.breaks.length ≤ (verifyEvent hasher rows state event).breaks.length := by
  unfold verifyEvent
  simp only
  split
  · exact Nat.le_refl _
  · split
    · simp
    · split
      · simp
      · split <;> simp

theorem length_breaks_foldl (events : List AuditEvent) (state : Verification) :
    state.breaks.length ≤ (events.foldl (verifyEvent hasher rows) state).breaks.length := by
  induction events generalizing state with
  | nil => exact Nat.le_refl _
  | cons event rest ih => exact Nat.le_trans (length_breaks_verifyEvent state event) (ih _)

/-- Stamped events of one agent pass exactly when they continue its chain. -/
theorem foldl_verifyEvent_iff {events : List AuditEvent} (state : Verification)
    (agent : ∀ event ∈ events, event.content.agentId = agentId)
    (stamped : ∀ event ∈ events, Stamped hasher event) :
    (events.foldl (verifyEvent hasher rows) state).breaks = state.breaks ↔
      Chained hasher (expectedHead hasher rows agentId state) events := by
  induction events generalizing state with
  | nil => simp [Chained]
  | cons event rest ih =>
      obtain ⟨previous, chainHash, isPrevious, computed, own⟩ :=
        stamped event (List.mem_cons_self ..)
      have agentHere := agent event (List.mem_cons_self ..)
      have restIff := ih (verifyEvent hasher rows state event)
        (fun later member => agent later (List.mem_cons_of_mem _ member))
        (fun later member => stamped later (List.mem_cons_of_mem _ member))
      rw [List.foldl_cons]
      by_cases follows : previous = expectedHead hasher rows agentId state
      · subst follows
        rcases verifyEvent_of_head agentHere isPrevious computed own with ⟨sameBreaks, nextHead⟩
        rw [sameBreaks, nextHead] at restIff
        rw [restIff]
        constructor
        · intro chained
          exact ⟨isPrevious, chainHash, computed, own, chained⟩
        · rintro ⟨_, otherHash, _, otherOwn, chained⟩
          cases Option.some.inj (own.symm.trans otherOwn)
          exact chained
      · have broken := verifyEvent_of_other_head agentHere isPrevious computed own follows
        constructor
        · intro same
          have longer := @length_breaks_foldl hasher rows rest (verifyEvent hasher rows state event)
          rw [same, broken, List.length_append] at longer
          simp at longer
        · rintro ⟨otherPrevious, _⟩
          exact absurd (Option.some.inj (isPrevious.symm.trans otherPrevious)) follows

end Verify

/-! ## Storage -/

/-- The correlation ids of some events. -/
def correlationIds (events : List AuditEvent) : List String :=
  events.filterMap fun event => event.content.correlationId

/-- The head of an agent's stored chain. -/
def storedHead (hasher : ChainHasher) (rows : List AuditEventRow) (agentId : String) : String :=
  (getLastChainHash rows agentId).getD hasher.genesisHash

theorem storedHead_append_row (hasher : ChainHasher) (rows : List AuditEventRow)
    (row : AuditEventRow) (agentId : String) :
    storedHead hasher (rows ++ [row]) agentId =
      if row.agentId = agentId then row.chainHash.getD (storedHead hasher rows agentId)
      else storedHead hasher rows agentId := by
  by_cases same : row.agentId = agentId
  · cases own : row.chainHash with
    | none => simp [storedHead, getLastChainHash, own]
    | some chainHash => simp [storedHead, getLastChainHash, own, same]
  · simp [storedHead, getLastChainHash, same]

/-- The table has the correlation id of an event, so that its insert is ignored. -/
def Known (rows : List AuditEventRow) (event : AuditEvent) : Prop :=
  event.content.correlationId.isSome ∧
    ∃ row ∈ rows, row.correlationId = event.content.correlationId

instance (rows : List AuditEventRow) (event : AuditEvent) : Decidable (Known rows event) :=
  inferInstanceAs (Decidable (_ ∧ _))

theorem insertOrIgnore_rowOf (rows : List AuditEventRow) (event : AuditEvent) :
    insertOrIgnore rows (rowOf event) =
      if Known rows event then rows else rows ++ [rowOf event] := by
  apply if_congr _ rfl rfl
  simp only [Bool.and_eq_true, List.any_eq_true, decide_eq_true_eq]
  exact Iff.rfl

/-- Two events do not share a correlation id. -/
def DistinctIds (first second : AuditEvent) : Prop :=
  ∀ id, first.content.correlationId = some id → second.content.correlationId ≠ some id

theorem pairwise_apart {events : List AuditEvent} (distinct : (correlationIds events).Nodup) :
    events.Pairwise DistinctIds := by
  unfold correlationIds at distinct
  rw [List.Nodup, List.pairwise_filterMap] at distinct
  apply distinct.imp
  intro first second differ id isFirst isSecond
  exact differ id isFirst id isSecond rfl

/-- A row under another correlation id makes no event known. -/
theorem known_append_row_iff {rows : List AuditEventRow} {row : AuditEventRow}
    {event : AuditEvent}
    (apart : event.content.correlationId.isSome → row.correlationId ≠ event.content.correlationId) :
    Known (rows ++ [row]) event ↔ Known rows event := by
  constructor
  · rintro ⟨isSome, stored, member, same⟩
    rcases List.mem_append.mp member with old | new
    · exact ⟨isSome, stored, old, same⟩
    · cases List.mem_singleton.mp new
      exact (apart isSome same).elim
  · rintro ⟨isSome, stored, member, same⟩
    exact ⟨isSome, stored, List.mem_append_left _ member, same⟩

theorem known_insert_iff {rows : List AuditEventRow} {event other : AuditEvent}
    (apart : DistinctIds event other) :
    Known (insertOrIgnore rows (rowOf event)) other ↔ Known rows other := by
  rw [insertOrIgnore_rowOf]
  split
  · exact Iff.rfl
  · apply known_append_row_iff
    intro isSome same
    rcases Option.isSome_iff_exists.mp isSome with ⟨id, isId⟩
    exact apart id (same.trans isId) isId

/-- Storing events makes none known that shares no correlation id with them. -/
theorem known_foldl_insert_iff {rows : List AuditEventRow} {events : List AuditEvent}
    {other : AuditEvent} (apart : ∀ event ∈ events, DistinctIds event other) :
    Known ((events.map rowOf).foldl insertOrIgnore rows) other ↔ Known rows other := by
  induction events generalizing rows with
  | nil => exact Iff.rfl
  | cons event rest ih =>
      rw [List.map_cons, List.foldl_cons,
        ih (fun later member => apart later (List.mem_cons_of_mem _ member)),
        known_insert_iff (apart event (List.mem_cons_self ..))]

/-- The stored head stays or becomes the hash of an event that was stored. -/
theorem storedHead_foldl_insert_mem {hasher : ChainHasher} {agentId : String}
    (events : List AuditEvent) (rows : List AuditEventRow) :
    some (storedHead hasher ((events.map rowOf).foldl insertOrIgnore rows) agentId) ∈
      some (storedHead hasher rows agentId) :: events.map AuditEvent.chainHash := by
  induction events generalizing rows with
  | nil => exact List.mem_singleton.mpr rfl
  | cons event rest ih =>
      have moved : some (storedHead hasher (insertOrIgnore rows (rowOf event)) agentId) =
          some (storedHead hasher rows agentId) ∨
          some (storedHead hasher (insertOrIgnore rows (rowOf event)) agentId) =
            event.chainHash := by
        rw [insertOrIgnore_rowOf]
        split
        · exact Or.inl rfl
        · rw [storedHead_append_row]
          split
          · cases own : (rowOf event).chainHash with
            | none => exact Or.inl rfl
            | some chainHash => exact Or.inr own.symm
          · exact Or.inl rfl
      rw [List.map_cons, List.map_cons, List.foldl_cons]
      rcases List.mem_cons.mp (ih (insertOrIgnore rows (rowOf event))) with same | later
      · rw [same]
        rcases moved with kept | own
        · rw [kept]
          exact List.mem_cons_self ..
        · rw [own]
          exact List.mem_cons_of_mem _ (List.mem_cons_self ..)
      · exact List.mem_cons_of_mem _ (List.mem_cons_of_mem _ later)

section LastEvent

variable {hasher : ChainHasher} {rows : List AuditEventRow} {agentId : String}
  {before : List AuditEvent} {last : AuditEvent}

theorem foldl_insert_concat (apart : ∀ event ∈ before, DistinctIds event last) :
    ((before ++ [last]).map rowOf).foldl insertOrIgnore rows =
      if Known rows last then (before.map rowOf).foldl insertOrIgnore rows
      else (before.map rowOf).foldl insertOrIgnore rows ++ [rowOf last] := by
  rw [List.map_append, List.foldl_append, List.map_singleton, List.foldl_cons, List.foldl_nil,
    insertOrIgnore_rowOf]
  exact if_congr (known_foldl_insert_iff apart) rfl rfl

/-- A piece of the chain whose last event is stored moves the stored head to its end. -/
theorem storedHead_of_unknown {head : String} (apart : ∀ event ∈ before, DistinctIds event last)
    (agent : last.content.agentId = agentId) (chained : Chained hasher head (before ++ [last]))
    (unknown : ¬ Known rows last) :
    storedHead hasher (((before ++ [last]).map rowOf).foldl insertOrIgnore rows) agentId =
      headAfter head (before ++ [last]) := by
  obtain ⟨_, chainHash, _, own, _⟩ := (chained_append.mp chained).2
  have stored : (rowOf last).chainHash = some chainHash := own
  rw [foldl_insert_concat apart, if_neg unknown, storedHead_append_row,
    if_pos (show (rowOf last).agentId = agentId from agent), headAfter_append, headAfter_cons,
    headAfter_nil, stored, own]
  rfl

/-- Behind a piece whose last event is ignored stands an earlier head. -/
theorem storedHead_of_known (apart : ∀ event ∈ before, DistinctIds event last)
    (known : Known rows last) :
    some (storedHead hasher (((before ++ [last]).map rowOf).foldl insertOrIgnore rows)
        agentId) ∈
      some (storedHead hasher rows agentId) :: before.map AuditEvent.chainHash := by
  rw [foldl_insert_concat apart, if_pos known]
  exact storedHead_foldl_insert_mem before rows

end LastEvent

/-! ## One batch -/

theorem inOrder_iff {first second : AuditEvent}
    (sameAgent : first.content.agentId = second.content.agentId) :
    InOrder first second ↔ first.content.timestamp ≤ second.content.timestamp := by
  simp [InOrder, sameAgent]

/-- A batch whose timestamps do not go back. -/
def Chronological (batch : List AuditEvent) : Prop :=
  batch.Pairwise fun first second => first.content.timestamp ≤ second.content.timestamp

instance (batch : List AuditEvent) : Decidable (Chronological batch) :=
  inferInstanceAs (Decidable (List.Pairwise _ _))

instance inOrder_trans : IsTrans AuditEvent InOrder where
  trans := by
    rintro first second third (earlier | ⟨same, earlier⟩) (later | ⟨sameLater, later⟩)
    · exact Or.inl (lt_trans earlier later)
    · exact Or.inl (sameLater ▸ earlier)
    · exact Or.inl (same ▸ later)
    · exact Or.inr ⟨same.trans sameLater, le_trans earlier later⟩

instance inOrder_total : Std.Total InOrder where
  total := by
    intro first second
    rcases lt_trichotomy first.content.agentId second.content.agentId with less | same | greater
    · exact Or.inl (Or.inl less)
    · rcases le_total first.content.timestamp second.content.timestamp with earlier | later
      · exact Or.inl (Or.inr ⟨same, earlier⟩)
      · exact Or.inr (Or.inr ⟨same.symm, later⟩)
    · exact Or.inr (Or.inl greater)

/-- Sorting leaves exactly the batches in timestamp order as they are. -/
theorem insertionSort_eq_iff {batch : List AuditEvent} {agentId : String}
    (agent : ∀ event ∈ batch, event.content.agentId = agentId) :
    batch.insertionSort InOrder = batch ↔ Chronological batch := by
  have orders : batch.Pairwise InOrder ↔ Chronological batch := by
    apply List.Pairwise.iff_of_mem
    intro first second firstMember secondMember
    exact inOrder_iff ((agent first firstMember).trans (agent second secondMember).symm)
  rw [← orders]
  constructor
  · intro same
    rw [← same]
    exact List.pairwise_insertionSort InOrder batch
  · exact List.Pairwise.insertionSort_eq

theorem validateEvents_of_all {batch : List AuditEvent}
    (accepted : ∀ event ∈ batch, validateEvent event = .ok ()) : validateEvents batch = .ok () := by
  induction batch with
  | nil => rfl
  | cons event rest ih =>
      have first := accepted event (List.mem_cons_self ..)
      have others := ih (fun later member => accepted later (List.mem_cons_of_mem _ member))
      simp [validateEvents, first, others, Lib.ok_bind]

/-- The response to a batch without breaks. -/
def cleanResponse : IngestEventsResponse :=
  ⟨none, 0⟩

theorem ingestEvents_valid {env : IngestEnv} {rows : List AuditEventRow} {batch : List AuditEvent}
    (nonempty : batch ≠ []) (accepted : ∀ event ∈ batch, validateEvent event = .ok ()) :
    ingestEvents env rows batch = .ok (ingestSorted env rows (batch.insertionSort InOrder)) := by
  have notEmpty : batch.isEmpty = false := by simpa using nonempty
  simp only [ingestEvents, notEmpty, validateEvents_of_all accepted]
  rfl

/-- A batch is answered without a flag exactly when verification found no break. -/
theorem ingestSorted_clean_iff {env : IngestEnv} {rows : List AuditEventRow}
    {sorted : List AuditEvent} :
    (ingestSorted env rows sorted).2 = cleanResponse ↔
      (verifyEvents env.hasher rows sorted).breaks = [] := by
  constructor
  · intro clean
    have none := congrArg IngestEventsResponse.chainBreakCount clean
    cases found : (verifyEvents env.hasher rows sorted).breaks with
    | nil => rfl
    | cons first rest =>
        simp [ingestSorted, cleanResponse, distinctBreaks, found, List.eraseDups_cons] at none
  · intro none
    simp [ingestSorted, none, distinctBreaks, cleanResponse]

/-- Without a break only the batch itself is stored. -/
theorem ingestSorted_stored {env : IngestEnv} {rows : List AuditEventRow}
    {sorted : List AuditEvent} (none : (verifyEvents env.hasher rows sorted).breaks = []) :
    (ingestSorted env rows sorted).1 = (sorted.map rowOf).foldl insertOrIgnore rows := by
  simp [ingestSorted, none, distinctBreaks]

/-! ## The whole stream -/

/-- The responses to batches that are posted one after the other. -/
def ingestBatches (env : IngestEnv) :
    List AuditEventRow → List (List AuditEvent) → List (Except IngestError IngestEventsResponse)
  | _, [] => []
  | rows, batch :: rest =>
      match ingestEvents env rows batch with
      | .error error => .error error :: ingestBatches env rows rest
      | .ok (stored, response) => .ok response :: ingestBatches env stored rest

/-- What an honest agent sends: its own events, as its emitter stamped them from the
head that the server has stored. -/
structure HonestStream (hasher : ChainHasher) (agentId : String) (rows : List AuditEventRow)
    (batches : List (List AuditEvent)) : Prop where
  nonempty : ∀ batch ∈ batches, batch ≠ []
  agent : ∀ event ∈ batches.flatten, event.content.agentId = agentId
  accepted : ∀ event ∈ batches.flatten, validateEvent event = .ok ()
  chained : Chained hasher (storedHead hasher rows agentId) batches.flatten
  distinctIds : (correlationIds batches.flatten).Nodup

/-- No two hashes of the stream are equal. -/
def CollisionFree (head : String) (events : List AuditEvent) : Prop :=
  (some head :: events.map AuditEvent.chainHash).Nodup

instance (head : String) (events : List AuditEvent) : Decidable (CollisionFree head events) :=
  inferInstanceAs (Decidable (List.Nodup _))

/-- The correlation id that ends a batch is new to the table, for every batch that another
one follows. -/
def EndsUnknown (rows : List AuditEventRow) (batches : List (List AuditEvent)) : Prop :=
  ∀ batch ∈ batches.dropLast, ∀ last ∈ batch.getLast?, ¬ Known rows last

instance (rows : List AuditEventRow) (batches : List (List AuditEvent)) :
    Decidable (EndsUnknown rows batches) :=
  inferInstanceAs (Decidable (∀ batch ∈ batches.dropLast, ∀ last ∈ batch.getLast?, _))

theorem endsUnknown_concat_cons {rows : List AuditEventRow} {before : List AuditEvent}
    {last : AuditEvent} {next : List AuditEvent} {later : List (List AuditEvent)} :
    EndsUnknown rows ((before ++ [last]) :: next :: later) ↔
      ¬ Known rows last ∧ EndsUnknown rows (next :: later) := by
  simp [EndsUnknown]

section Stream

variable {env : IngestEnv} {agentId : String} {rows : List AuditEventRow}
  {batch : List AuditEvent} {rest : List (List AuditEvent)}

theorem HonestStream.batch_agent (honest : HonestStream env.hasher agentId rows (batch :: rest)) :
    ∀ event ∈ batch, event.content.agentId = agentId := by
  intro event member
  exact honest.agent event (by simp [member])

theorem HonestStream.batch_chained
    (honest : HonestStream env.hasher agentId rows (batch :: rest)) :
    Chained env.hasher (storedHead env.hasher rows agentId) batch := by
  have chained := honest.chained
  rw [List.flatten_cons, chained_append] at chained
  exact chained.1

theorem HonestStream.answered (honest : HonestStream env.hasher agentId rows (batch :: rest)) :
    ingestEvents env rows batch = .ok (ingestSorted env rows (batch.insertionSort InOrder)) := by
  apply ingestEvents_valid (honest.nonempty batch (List.mem_cons_self ..))
  intro event member
  exact honest.accepted event (by simp [member])

/-- The events of a batch and the later ones share no correlation id. -/
theorem HonestStream.apart (honest : HonestStream env.hasher agentId rows (batch :: rest)) :
    batch.Pairwise DistinctIds ∧
      ∀ event ∈ batch, ∀ later ∈ rest.flatten, DistinctIds event later := by
  have apart := pairwise_apart honest.distinctIds
  rw [List.flatten_cons, List.pairwise_append] at apart
  exact ⟨apart.1, apart.2.2⟩

/-- Events that were stamped from another head than the stored one are flagged. -/
theorem verifyEvents_flagged {head : String}
    (nonempty : batch ≠ []) (agent : ∀ event ∈ batch, event.content.agentId = agentId)
    (chained : Chained env.hasher head batch)
    (other : storedHead env.hasher rows agentId ≠ head ∧
      some (storedHead env.hasher rows agentId) ∉ batch.map AuditEvent.chainHash) :
    (verifyEvents env.hasher rows (batch.insertionSort InOrder)).breaks ≠ [] := by
  intro clean
  have perm := List.perm_insertionSort InOrder batch
  have sortedChained := (@foldl_verifyEvent_iff env.hasher rows agentId
    (batch.insertionSort InOrder) ⟨[], fun _ => none⟩
    (fun event member => agent event (perm.subset member))
    (fun event member => chained.stamped event (perm.subset member))).mp clean
  cases sorted : batch.insertionSort InOrder with
  | nil =>
      rw [sorted] at perm
      exact nonempty perm.symm.eq_nil
  | cons first others =>
      rw [sorted] at sortedChained perm
      exact chained.prevHash_ne other (perm.subset (List.mem_cons_self ..)) sortedChained.1

/-- Verification passes exactly the batches in timestamp order. -/
theorem verifyEvents_sorted_iff (honest : HonestStream env.hasher agentId rows (batch :: rest))
    (collisionFree : CollisionFree (storedHead env.hasher rows agentId) batch) :
    (verifyEvents env.hasher rows (batch.insertionSort InOrder)).breaks = [] ↔
      Chronological batch := by
  have perm := List.perm_insertionSort InOrder batch
  have agent := honest.batch_agent
  have chained := honest.batch_chained
  have verified := @foldl_verifyEvent_iff env.hasher rows agentId (batch.insertionSort InOrder)
    ⟨[], fun _ => none⟩ (fun event member => agent event (perm.subset member))
    (fun event member => chained.stamped event (perm.subset member))
  rw [verifyEvents, verified, ← insertionSort_eq_iff agent]
  constructor
  · intro sortedChained
    exact sortedChained.eq_of_perm chained perm collisionFree
  · intro same
    rw [same]
    exact chained

/-- Behind a batch whose last event is stored the stream is still honest. -/
theorem HonestStream.tail {before : List AuditEvent} {last : AuditEvent}
    (honest : HonestStream env.hasher agentId rows ((before ++ [last]) :: rest))
    (unknown : ¬ Known rows last) :
    HonestStream env.hasher agentId
      (((before ++ [last]).map rowOf).foldl insertOrIgnore rows) rest := by
  have split : ((before ++ [last]) :: rest).flatten = (before ++ [last]) ++ rest.flatten :=
    List.flatten_cons
  have chained := honest.chained
  have distinct := honest.distinctIds
  rw [split, chained_append] at chained
  rw [split, correlationIds, List.filterMap_append, List.nodup_append] at distinct
  have apart := (List.pairwise_append.mp honest.apart.1).2.2
  have moved := storedHead_of_unknown (fun event member => apart event member last (by simp))
    (honest.batch_agent last (by simp)) chained.1 unknown
  refine ⟨?_, ?_, ?_, ?_, distinct.2.1⟩
  · intro later member
    exact honest.nonempty later (List.mem_cons_of_mem _ member)
  · intro event member
    exact honest.agent event (by rw [split]; exact List.mem_append_right _ member)
  · intro event member
    exact honest.accepted event (by rw [split]; exact List.mem_append_right _ member)
  · rw [moved]
    exact chained.2

/-- A batch in timestamp order is stored without anything else. -/
theorem ingestSorted_of_chronological
    (honest : HonestStream env.hasher agentId rows (batch :: rest))
    (collisionFree : CollisionFree (storedHead env.hasher rows agentId) batch)
    (inTime : Chronological batch) :
    ingestSorted env rows (batch.insertionSort InOrder) =
      ((batch.map rowOf).foldl insertOrIgnore rows, cleanResponse) := by
  have none := (verifyEvents_sorted_iff honest collisionFree).mpr inTime
  refine Prod.ext ?_ (ingestSorted_clean_iff.mpr none)
  rw [ingestSorted_stored none, (insertionSort_eq_iff honest.batch_agent).mpr inTime]

/-- A batch with a break is answered with a flag. -/
theorem ingestBatches_flagged (nonempty : batch ≠ [])
    (accepted : ∀ event ∈ batch, validateEvent event = .ok ())
    (broken : (verifyEvents env.hasher rows (batch.insertionSort InOrder)).breaks ≠ []) :
    ¬ ∀ response ∈ ingestBatches env rows (batch :: rest), response = .ok cleanResponse := by
  intro clean
  rw [ingestBatches, ingestEvents_valid nonempty accepted] at clean
  exact broken (ingestSorted_clean_iff.mp
    (Except.ok.inj (List.forall_mem_cons.mp clean).1))

theorem CollisionFree.head_and_tail {head : String}
    (collisionFree : CollisionFree head (batch :: rest).flatten)
    (chained : Chained env.hasher head batch) :
    CollisionFree head batch ∧ CollisionFree (headAfter head batch) rest.flatten := by
  rw [CollisionFree, List.flatten_cons, List.map_append, ← List.cons_append] at collisionFree
  rcases List.nodup_append.mp collisionFree with ⟨batchDistinct, restDistinct, apart⟩
  refine ⟨batchDistinct, List.nodup_cons.mpr ⟨?_, restDistinct⟩⟩
  intro again
  exact apart _ chained.headAfter_mem _ again rfl

/-- The rows of a batch make no later event known. -/
theorem HonestStream.endsUnknown_iff
    (honest : HonestStream env.hasher agentId rows (batch :: rest)) :
    EndsUnknown ((batch.map rowOf).foldl insertOrIgnore rows) rest ↔ EndsUnknown rows rest := by
  apply forall₄_congr
  intro later member last isLast
  apply not_congr
  apply known_foldl_insert_iff
  intro event inBatch
  refine honest.apart.2 event inBatch last (List.mem_flatten.mpr ⟨later, ?_, ?_⟩)
  · exact List.dropLast_subset _ member
  · exact List.mem_of_mem_getLast? isLast

/-- Behind a batch whose last event is ignored the next one is flagged. -/
theorem HonestStream.next_flagged {before next : List AuditEvent} {last : AuditEvent}
    {later : List (List AuditEvent)}
    (honest : HonestStream env.hasher agentId rows ((before ++ [last]) :: next :: later))
    (collisionFree : CollisionFree (storedHead env.hasher rows agentId)
      ((before ++ [last]) :: next :: later).flatten)
    (known : Known rows last) :
    (verifyEvents env.hasher (((before ++ [last]).map rowOf).foldl insertOrIgnore rows)
      (next.insertionSort InOrder)).breaks ≠ [] := by
  have chained := honest.batch_chained
  have chainedNext : Chained env.hasher
      (headAfter (storedHead env.hasher rows agentId) (before ++ [last])) next := by
    have chainedRest := honest.chained
    rw [List.flatten_cons, chained_append, List.flatten_cons] at chainedRest
    exact (chained_append.mp chainedRest.2).1
  have apart := (List.pairwise_append.mp honest.apart.1).2.2
  have earlier := @storedHead_of_known env.hasher rows agentId before last
    (fun event member => apart event member last (by simp)) known
  rw [CollisionFree, List.flatten_cons, List.flatten_cons, List.map_append, List.map_append,
    List.append_assoc, ← List.cons_append, List.nodup_append] at collisionFree
  rcases collisionFree with ⟨_, restDistinct, free⟩
  have endsWith : some (headAfter (storedHead env.hasher rows agentId) (before ++ [last])) =
      last.chainHash := by
    obtain ⟨_, chainHash, _, own, _⟩ := (chained_append.mp chained).2
    rw [headAfter_append, headAfter_cons, headAfter_nil, own]
    rfl
  refine verifyEvents_flagged (honest.nonempty next (by simp))
    (fun event member => honest.agent event (by simp [member])) chainedNext ⟨?_, ?_⟩
  · intro same
    refine free _ earlier _ (List.mem_append_left _ (List.mem_singleton.mpr rfl)) ?_
    rw [same, endsWith]
  · intro again
    refine free _ earlier _ (List.mem_append_right _ ?_) rfl
    rw [List.map_append]
    exact List.mem_append_left _ again

end Stream

/-- The responses to an honest stream are free of flags exactly when the timestamps of
every batch are in the order of the chain, and no correlation id at the end of a batch keeps
its event out of the table while another batch follows. -/
theorem ingestBatches_clean_iff {env : IngestEnv} {agentId : String}
    {rows : List AuditEventRow} {batches : List (List AuditEvent)}
    (honest : HonestStream env.hasher agentId rows batches)
    (collisionFree : CollisionFree (storedHead env.hasher rows agentId) batches.flatten) :
    (∀ response ∈ ingestBatches env rows batches, response = .ok cleanResponse) ↔
      (∀ batch ∈ batches, Chronological batch) ∧ EndsUnknown rows batches := by
  induction batches generalizing rows with
  | nil => simp [ingestBatches, EndsUnknown]
  | cons batch rest ih =>
      obtain ⟨batchFree, restFree⟩ := collisionFree.head_and_tail honest.batch_chained
      by_cases inTime : Chronological batch
      · have stored := ingestSorted_of_chronological honest batchFree inTime
        rw [ingestBatches, honest.answered, stored]
        simp only [List.forall_mem_cons, inTime, true_and]
        cases rest with
        | nil => simp [ingestBatches, EndsUnknown]
        | cons next later =>
            obtain ⟨before, last, rfl⟩ : ∃ before last, batch = before ++ [last] :=
              ⟨_, _, (List.dropLast_append_getLast (honest.nonempty batch (by simp))).symm⟩
            rw [endsUnknown_concat_cons]
            by_cases known : Known rows last
            · have flagged := @ingestBatches_flagged env _ next later
                (honest.nonempty next (by simp))
                (fun event member => honest.accepted event (by simp [member]))
                (honest.next_flagged collisionFree known)
              constructor
              · intro clean
                exact absurd clean flagged
              · rintro ⟨_, unknown, _⟩
                exact absurd known unknown
            · have apart := (List.pairwise_append.mp honest.apart.1).2.2
              have moved := @storedHead_of_unknown env.hasher rows agentId before last _
                (fun event member => apart event member last (by simp))
                (honest.batch_agent last (by simp)) honest.batch_chained known
              rw [ih (honest.tail known) (by rw [moved]; exact restFree), honest.endsUnknown_iff,
                and_iff_right known, List.forall_mem_cons]
      · have broken := mt (verifyEvents_sorted_iff honest batchFree).mp inTime
        have flagged := @ingestBatches_flagged env rows batch rest
          (honest.nonempty batch (by simp))
          (fun event member => honest.accepted event (by simp [member])) broken
        simp [inTime, flagged]

theorem storedHead_of_no_rows {hasher : ChainHasher} {agentId : String}
    {rows : List AuditEventRow} (noEarlier : ∀ row ∈ rows, row.agentId ≠ agentId) :
    storedHead hasher rows agentId = hasher.genesisHash := by
  have nothing : (rows.reverse.find? fun row =>
      row.agentId = agentId && row.chainHash.isSome) = none := by
    refine List.find?_eq_none.mpr ?_
    intro row member
    simp [noEarlier row (List.mem_reverse.mp member)]
  rw [storedHead, getLastChainHash, nothing]
  rfl

/-- An agent new to the server, whose chain starts at the genesis hash, is never flagged
exactly when the timestamps of every batch are in the order of the chain, and the last event
of each batch that is not the last one brings a correlation id that no other agent's row has. -/
theorem honestAgent_never_flagged_iff {env : IngestEnv} {agentId : String}
    {rows : List AuditEventRow} {batches : List (List AuditEvent)}
    (noEarlier : ∀ row ∈ rows, row.agentId ≠ agentId)
    (nonempty : ∀ batch ∈ batches, batch ≠ [])
    (agent : ∀ event ∈ batches.flatten, event.content.agentId = agentId)
    (accepted : ∀ event ∈ batches.flatten, validateEvent event = .ok ())
    (chained : Chained env.hasher env.hasher.genesisHash batches.flatten)
    (distinctIds : (correlationIds batches.flatten).Nodup)
    (collisionFree : CollisionFree env.hasher.genesisHash batches.flatten) :
    (∀ response ∈ ingestBatches env rows batches, response = .ok cleanResponse) ↔
      (∀ batch ∈ batches, Chronological batch) ∧ EndsUnknown rows batches := by
  have head : storedHead env.hasher rows agentId = env.hasher.genesisHash :=
    storedHead_of_no_rows noEarlier
  rw [← head] at chained collisionFree
  have honest : HonestStream env.hasher agentId rows batches :=
    ⟨nonempty, agent, accepted, chained, distinctIds⟩
  exact ingestBatches_clean_iff honest collisionFree

/-! ## Two events -/

def sampleEnv : IngestEnv where
  hasher := readableHasher
  newCorrelationId _ := "synthetic"

/-- Two events as the emitter stamps them, with the times at which they were made. -/
def twoEvents (first second : Int) : List AuditEvent :=
  [⟨sampleContent first "1", some "0", some "01"⟩,
    ⟨sampleContent second "2", some "01", some "012"⟩]

theorem twoEvents_chained (first second : Int) :
    Chained readableHasher readableHasher.genesisHash (twoEvents first second) := by
  have firstHash : "0" ++ "1" = "01" := by decide +kernel
  have secondHash : "01" ++ "2" = "012" := by decide +kernel
  exact ⟨rfl, "01", congrArg some firstHash, rfl, rfl, "012", congrArg some secondHash, rfl,
    trivial⟩

/-- A row of another agent, under the correlation id of one of the two events. -/
def otherAgentRow (correlationId : String) : AuditEventRow :=
  ⟨"AGENT-WS07-003", some correlationId, some "0", some "0x"⟩

/-- One by one, in the order of their times, while another agent has used the second id. -/
theorem twoEvents_not_flagged :
    Chained sampleEnv.hasher sampleEnv.hasher.genesisHash (twoEvents 1 2) ∧
      ∀ response ∈ ingestBatches sampleEnv [otherAgentRow "2"]
        ((twoEvents 1 2).map fun event => [event]), response = .ok cleanResponse := by
  have agent : ∀ event ∈ ((twoEvents 1 2).map fun event => [event]).flatten,
      event.content.agentId = "AGENT-WS02-001" := by
    decide
  have accepted : ∀ event ∈ ((twoEvents 1 2).map fun event => [event]).flatten,
      validateEvent event = .ok () := by
    decide
  have chained := twoEvents_chained 1 2
  have distinctIds : (correlationIds ((twoEvents 1 2).map fun event => [event]).flatten).Nodup := by
    decide
  have collisionFree : CollisionFree sampleEnv.hasher.genesisHash
      ((twoEvents 1 2).map fun event => [event]).flatten := by
    decide
  refine ⟨chained, ?_⟩
  exact (honestAgent_never_flagged_iff (by decide) (by decide) agent accepted chained distinctIds
    collisionFree).mpr (by decide)

/-- The first event was made later than the second one and stamped before it; or the two are
posted one by one, and another agent has used the first id. -/
theorem twoEvents_flagged :
    (Chained sampleEnv.hasher sampleEnv.hasher.genesisHash [twoEvents 2 1].flatten ∧
      (∀ event ∈ [twoEvents 2 1].flatten, event.content.agentId = "AGENT-WS02-001") ∧
      (correlationIds [twoEvents 2 1].flatten).Nodup ∧
      ingestBatches sampleEnv [] [twoEvents 2 1] = [.ok ⟨some "AGENT-WS02-001", 1⟩]) ∧
    ingestBatches sampleEnv [otherAgentRow "1"] ((twoEvents 1 2).map fun event => [event]) =
      [.ok cleanResponse, .ok ⟨some "AGENT-WS02-001", 1⟩] := by
  exact ⟨⟨twoEvents_chained 2 1, by decide, by decide, by decide +kernel⟩, by decide +kernel⟩

end DlpSystem.Audit
