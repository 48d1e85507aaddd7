import DlpSystem.Audit.HonestAgent

/-!
# Verdicts of the chain verification

The verification loop judges an event by the hash it expects before it.  Its verdict
and the hash it expects next depend on that hash alone, agent by agent.
-/

namespace DlpSystem.Audit

open Server

/-! ## One event -/

/-- What the loop finds wrong with an event whose agent's chain should end in `head`. -/
def verdict (hasher : ChainHasher) (head : String) (event : AuditEvent) :
    Option ChainBreakReason :=
  match event.chainHash with
  | none => none
  | some chainHash =>
      match hasher.computeChainHash (event.prevHash.getD hasher.genesisHash) event.content with
      | none => some .hashComputationFailed
      | some expected =>
          if expected ≠ chainHash then some .hashMismatch
          else if event.prevHash.getD hasher.genesisHash ≠ head then some .prevHashMismatch
          else none

/-- The hash the loop expects behind an event. -/
def nextHead (hasher : ChainHasher) (head : String) (event : AuditEvent) : String :=
  if verdict hasher head event = none then event.chainHash.getD head else head

/-- The entry of `chain_breaks` for a verdict. -/
def breakOf (event : AuditEvent) (reason : ChainBreakReason) : ChainBreak :=
  ⟨event.content.agentId, event.content.correlationId, reason⟩

/-- What the loop notes down with a verdict. -/
def recordVerdict (state : Verification) (event : AuditEvent) :
    Option ChainBreakReason → Verification
  | some reason => { state with breaks := state.breaks ++ [breakOf event reason] }
  | none =>
      match event.chainHash with
      | none => state
      | some chainHash =>
          { state with
            lastHashCache :=
              Function.update state.lastHashCache event.content.agentId (some chainHash) }

/-- An event passes when its own hash is right and it stands behind the head. -/
theorem verdict_eq_none_iff {hasher : ChainHasher} {head : String} {event : AuditEvent} :
    verdict hasher head event = none ↔
      ∀ chainHash, event.chainHash = some chainHash →
        hasher.computeChainHash (event.prevHash.getD hasher.genesisHash) event.content =
            some chainHash ∧
          event.prevHash.getD hasher.genesisHash = head := by
  unfold verdict
  cases event.chainHash with
  | none => simp
  | some chainHash =>
      simp only
      cases hasher.computeChainHash (event.prevHash.getD hasher.genesisHash) event.content with
      | none => simp
      | some expected =>
          by_cases own : expected = chainHash
          · by_cases behind : event.prevHash.getD hasher.genesisHash = head
            · simp [own, behind]
            · simp [own, behind]
          · simp [own]

section Loop

variable {hasher : ChainHasher} {rows : List AuditEventRow}

/-- The loop body: judge the event by the hash it expects, and note the verdict down. -/
theorem verifyEvent_eq (state : Verification) (event : AuditEvent) :
    verifyEvent hasher rows state event =
      recordVerdict state event
        (verdict hasher (expectedHead hasher rows event.content.agentId state) event) := by
  unfold verifyEvent verdict recordVerdict expectedHead
  cases event.chainHash with
  | none => rfl
  | some chainHash =>
      simp only
      cases hasher.computeChainHash (event.prevHash.getD hasher.genesisHash) event.content with
      | none => rfl
      | some expected =>
          simp only
          split_ifs <;> rfl

theorem breaks_verifyEvent (state : Verification) (event : AuditEvent) :
    (verifyEvent hasher rows state event).breaks =
      state.breaks ++ ((verdict hasher
        (expectedHead hasher rows event.content.agentId state) event).map
          (breakOf event)).toList := by
  rw [verifyEvent_eq]
  cases verdict hasher (expectedHead hasher rows event.content.agentId state) event with
  | some reason => rfl
  | none => cases own : event.chainHash <;> simp [recordVerdict, own]

/-- Behind an event the loop expects another hash of the event's own agent only. -/
theorem expectedHead_verifyEvent (state : Verification) (event : AuditEvent) (agentId : String) :
    expectedHead hasher rows agentId (verifyEvent hasher rows state event) =
      if event.content.agentId = agentId then
        nextHead hasher (expectedHead hasher rows agentId state) event
      else expectedHead hasher rows agentId state := by
  rw [verifyEvent_eq]
  by_cases same : event.content.agentId = agentId
  · subst same
    rw [if_pos rfl, nextHead]
    cases verdict hasher (expectedHead hasher rows event.content.agentId state) event with
    | some reason => rfl
    | none => cases own : event.chainHash <;> simp [recordVerdict, own, expectedHead]
  · rw [if_neg same]
    cases verdict hasher (expectedHead hasher rows event.content.agentId state) event with
    | some reason => rfl
    | none =>
        cases own : event.chainHash with
        | none => simp [recordVerdict, own]
        | some chainHash =>
            simp [recordVerdict, own, expectedHead, Function.update_of_ne (Ne.symm same)]

end Loop

/-! ## A batch -/

/-- The events of one agent. -/
def eventsOf (agentId : String) (events : List AuditEvent) : List AuditEvent :=
  events.filter fun event => event.content.agentId = agentId

/-- The events with a hash continue a chain from a head on; an event without
`prev_hash` stands behind the genesis hash. -/
def Follows (hasher : ChainHasher) : String → List AuditEvent → Prop
  | _, [] => True
  | head, event :: rest =>
      verdict hasher head event = none ∧ Follows hasher (event.chainHash.getD head) rest

theorem follows_of_no_hash {hasher : ChainHasher} {head : String} {events : List AuditEvent}
    (noHash : ∀ event ∈ events, event.chainHash = none) : Follows hasher head events := by
  induction events generalizing head with
  | nil => trivial
  | cons event rest ih =>
      have here := noHash event (List.mem_cons_self ..)
      constructor
      · simp [verdict_eq_none_iff, here]
      · exact ih (fun later member => noHash later (List.mem_cons_of_mem _ member))

/-- A chain that has a hash has one head. -/
theorem Follows.head_unique {hasher : ChainHasher} {head other : String}
    {events : List AuditEvent} (follows : Follows hasher head events)
    (followsOther : Follows hasher other events)
    (hashed : ∃ event ∈ events, event.chainHash ≠ none) : head = other := by
  induction events generalizing head other with
  | nil => simp at hashed
  | cons event rest ih =>
      rcases follows with ⟨passes, followsRest⟩
      rcases followsOther with ⟨passesOther, followsRestOther⟩
      cases own : event.chainHash with
      | some chainHash =>
          rw [← (verdict_eq_none_iff.mp passes chainHash own).2]
          exact (verdict_eq_none_iff.mp passesOther chainHash own).2
      | none =>
          rw [own] at followsRest followsRestOther
          apply ih followsRest followsRestOther
          rcases hashed with ⟨later, member, isHashed⟩
          rcases List.mem_cons.mp member with rfl | inRest
          · exact absurd own isHashed
          · exact ⟨later, inRest, isHashed⟩

theorem eventsOf_cons_same {agentId : String} {event : AuditEvent} {rest : List AuditEvent}
    (same : event.content.agentId = agentId) :
    eventsOf agentId (event :: rest) = event :: eventsOf agentId rest := by
  simp [eventsOf, same]

theorem eventsOf_cons_other {agentId : String} {event : AuditEvent} {rest : List AuditEvent}
    (other : event.content.agentId ≠ agentId) :
    eventsOf agentId (event :: rest) = eventsOf agentId rest := by
  simp [eventsOf, other]

/-- Verification finds no break exactly when the events of every agent continue the
chain that is expected of it. -/
theorem foldl_verifyEvent_clean_iff {hasher : ChainHasher} {rows : List AuditEventRow}
    (events : List AuditEvent) (state : Verification) :
    (events.foldl (verifyEvent hasher rows) state).breaks = state.breaks ↔
      ∀ agentId, Follows hasher (expectedHead hasher rows agentId state)
        (eventsOf agentId events) := by
  induction events generalizing state with
  | nil => simp [eventsOf, Follows]
  | cons event rest ih =>
      have here := @breaks_verifyEvent hasher rows state event
      have next := @expectedHead_verifyEvent hasher rows state event
      cases found : verdict hasher (expectedHead hasher rows event.content.agentId state) event with
      | none =>
          rw [found] at here
          simp only [Option.map_none, Option.toList_none, List.append_nil] at here
          rw [List.foldl_cons, ← here, ih]
          apply forall_congr'
          intro agentId
          by_cases same : event.content.agentId = agentId
          · subst same
            rw [eventsOf_cons_same rfl, next, if_pos rfl, nextHead, if_pos found, Follows]
            simp [found]
          · rw [eventsOf_cons_other same, next, if_neg same]
      | some reason =>
          constructor
          · intro clean
            have longer := @length_breaks_foldl hasher rows rest
              (verifyEvent hasher rows state event)
            rw [List.foldl_cons] at clean
            rw [clean, here, found] at longer
            simp at longer
          · intro follows
            have first := follows event.content.agentId
            rw [eventsOf_cons_same rfl, Follows, found] at first
            exact absurd first.1 (by simp)

/-- A batch is verified without a break exactly when it continues the stored chain of
every agent. -/
theorem verifyEvents_clean_iff {hasher : ChainHasher} {rows : List AuditEventRow}
    (events : List AuditEvent) :
    (verifyEvents hasher rows events).breaks = [] ↔
      ∀ agentId, Follows hasher (storedHead hasher rows agentId) (eventsOf agentId events) :=
  foldl_verifyEvent_clean_iff events ⟨[], fun _ => none⟩

/-! ## Storage -/

/-- The events of a batch that the table does not have. -/
def newEvents : List AuditEventRow → List AuditEvent → List AuditEvent
  | _, [] => []
  | rows, event :: rest =>
      if Known rows event then newEvents rows rest
      else event :: newEvents (rows ++ [rowOf event]) rest

/-- A batch adds the rows of its new events. -/
theorem foldl_insertOrIgnore_rowOf (rows : List AuditEventRow) (events : List AuditEvent) :
    (events.map rowOf).foldl insertOrIgnore rows = rows ++ (newEvents rows events).map rowOf := by
  induction events generalizing rows with
  | nil => simp [newEvents]
  | cons event rest ih =>
      rw [List.map_cons, List.foldl_cons, insertOrIgnore_rowOf, newEvents]
      by_cases known : Known rows event
      · rw [if_pos known, if_pos known, ih]
      · rw [if_neg known, if_neg known, ih, List.append_assoc, List.map_cons,
          List.singleton_append]

/-- The rows of a batch move the stored head of an agent along its events. -/
theorem storedHead_append_events (hasher : ChainHasher) (rows : List AuditEventRow)
    (events : List AuditEvent) (agentId : String) :
    storedHead hasher (rows ++ events.map rowOf) agentId =
      headAfter (storedHead hasher rows agentId) (eventsOf agentId events) := by
  induction events generalizing rows with
  | nil => simp [eventsOf]
  | cons event rest ih =>
      rw [List.map_cons, ← List.singleton_append, ← List.append_assoc, ih, storedHead_append_row]
      by_cases same : event.content.agentId = agentId
      · rw [eventsOf_cons_same same, headAfter_cons, if_pos (show (rowOf event).agentId = _ from same)]
        rfl
      · rw [eventsOf_cons_other same, if_neg (show ¬(rowOf event).agentId = _ from same)]

end DlpSystem.Audit
