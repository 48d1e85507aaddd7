import DlpSystem.Audit.Verdicts
import DlpSystem.Lib.EventRun
import Mathlib.Data.List.Chain

/-!
# Requests that overlap

`ingest_events` verifies a batch against the table and opens its transaction only
afterwards.  Requests run beside each other, so the table may have moved in between,
and an insert drops the events whose correlation id it has.
-/

namespace DlpSystem.Audit

open Server
open Lib (Each)

/-! ## Requests in flight -/

/-- `ingest_events` behind its verification: the insert transaction and the response. -/
def persistBatch (env : IngestEnv) (rows : List AuditEventRow) (sorted : List AuditEvent)
    (breaks : List ChainBreak) : List AuditEventRow × IngestEventsResponse :=
  let stored := (sorted.map rowOf).foldl insertOrIgnore rows
  let withSynthetic := (distinctBreaks breaks).foldl env.insertSynthetic stored
  let requestingAgentId := sorted.head?.map fun event => event.content.agentId
  let tamperDetectedForAgent := requestingAgentId.bind fun requesting =>
    (breaks.find? fun found => found.agentId = requesting).map ChainBreak.agentId
  (withSynthetic, ⟨tamperDetectedForAgent, (distinctBreaks breaks).length⟩)

/-- A request between its verification and its transaction, with the table that the
verification has read. -/
structure VerifiedRequest where
  sorted : List AuditEvent
  breaks : List ChainBreak
  seen : List AuditEventRow
  deriving DecidableEq

/-- The table, the requests in flight and the responses so far. -/
structure IngestServer where
  rows : List AuditEventRow
  inFlight : List VerifiedRequest
  responses : List IngestEventsResponse
  deriving DecidableEq

inductive IngestStep
  /-- A request passes its checks and is verified. -/
  | verify (events : List AuditEvent)
  /-- The transaction of a request in flight. -/
  | insert (index : Nat)

def IngestServer.next (env : IngestEnv) (server : IngestServer) : IngestStep → IngestServer
  | .verify events =>
      if events.isEmpty then server
      else
        match validateEvents events with
        | .error _ => server
        | .ok _ =>
            let sorted := events.insertionSort InOrder
            { server with
              inFlight := server.inFlight ++
                [⟨sorted, (verifyEvents env.hasher server.rows sorted).breaks, server.rows⟩] }
  | .insert index =>
      match server.inFlight[index]? with
      | none => server
      | some request =>
          let answer := persistBatch env server.rows request.sorted request.breaks
          { rows := answer.1
            inFlight := server.inFlight.eraseIdx index
            responses := server.responses ++ [answer.2] }

/-- A request that nobody interrupts is `ingest_events`. -/
theorem next_verify_insert {env : IngestEnv} {rows stored : List AuditEventRow}
    {events : List AuditEvent} {response : IngestEventsResponse}
    (accepted : ingestEvents env rows events = .ok (stored, response)) :
    [IngestStep.verify events, .insert 0].foldl (IngestServer.next env) ⟨rows, [], []⟩ =
      ⟨stored, [], [response]⟩ := by
  unfold ingestEvents at accepted
  cases empty : events.isEmpty with
  | true =>
      rw [if_pos empty] at accepted
      cases accepted
  | false =>
      cases validated : validateEvents events with
      | error error => simp [empty, validated] at accepted
      | ok _ =>
          rw [if_neg (by simp [empty]), validated] at accepted
          have answer : ingestSorted env rows (events.insertionSort InOrder) = (stored, response) :=
            Except.ok.inj accepted
          have persisted : persistBatch env rows (events.insertionSort InOrder)
              (verifyEvents env.hasher rows (events.insertionSort InOrder)).breaks =
                (stored, response) := answer
          simp [IngestServer.next, empty, validated, persisted]

/-! ## The stored chain of an agent -/

/-- The rows of an agent that have a hash, in the order of `id`. -/
def hashedRows (agentId : String) (rows : List AuditEventRow) : List AuditEventRow :=
  rows.filter fun row => row.agentId = agentId && row.chainHash.isSome

/-- The events of an agent that have a hash. -/
def hashedEvents (agentId : String) (events : List AuditEvent) : List AuditEvent :=
  events.filter fun event => event.content.agentId = agentId && event.chainHash.isSome

/-- Rows that form one chain from the genesis hash on. -/
def OneChain (hasher : ChainHasher) (rows : List AuditEventRow) : Prop :=
  (∀ first ∈ rows.head?, first.prevHash = none ∨ first.prevHash = some hasher.genesisHash) ∧
    rows.IsChain fun before after => after.prevHash = before.chainHash

instance (hasher : ChainHasher) (rows : List AuditEventRow) : Decidable (OneChain hasher rows) :=
  inferInstanceAs (Decidable (_ ∧ _))

theorem hashedRows_append (agentId : String) (rows others : List AuditEventRow) :
    hashedRows agentId (rows ++ others) = hashedRows agentId rows ++ hashedRows agentId others :=
  List.filter_append ..

theorem hashedRows_map_rowOf (agentId : String) (events : List AuditEvent) :
    hashedRows agentId (events.map rowOf) = (hashedEvents agentId events).map rowOf := by
  rw [hashedRows, List.filter_map]
  rfl

theorem isSome_of_mem_hashedEvents {agentId : String} {events : List AuditEvent}
    {event : AuditEvent} (member : event ∈ hashedEvents agentId events) :
    event.chainHash.isSome := by
  have both := (List.mem_filter.mp member).2
  simp only [Bool.and_eq_true] at both
  exact both.2

theorem storedHead_eq_getLast (hasher : ChainHasher) (rows : List AuditEventRow)
    (agentId : String) :
    storedHead hasher rows agentId =
      ((hashedRows agentId rows).getLast?.bind AuditEventRow.chainHash).getD
        hasher.genesisHash := by
  rw [storedHead, getLastChainHash, ← List.head?_filter, List.filter_reverse, List.head?_reverse]
  rfl

/-! ## Chains of events -/

section Follows

variable {hasher : ChainHasher} {agentId : String}

theorem follows_append {head : String} {first second : List AuditEvent} :
    Follows hasher head (first ++ second) ↔
      Follows hasher head first ∧ Follows hasher (headAfter head first) second := by
  induction first generalizing head with
  | nil => simp [Follows]
  | cons event rest ih => simp [Follows, ih, and_assoc]

/-- Events without a hash do not matter to a chain. -/
theorem Follows.hashed {head : String} {events : List AuditEvent}
    (follows : Follows hasher head (eventsOf agentId events)) :
    Follows hasher head (hashedEvents agentId events) := by
  induction events generalizing head with
  | nil => trivial
  | cons event rest ih =>
      by_cases same : event.content.agentId = agentId
      · rw [eventsOf_cons_same same] at follows
        rcases follows with ⟨passes, others⟩
        cases own : event.chainHash with
        | none =>
            rw [own] at others
            simpa [hashedEvents, own] using ih others
        | some chainHash =>
            have kept :
                hashedEvents agentId (event :: rest) = event :: hashedEvents agentId rest := by
              simp [hashedEvents, same, own]
            rw [kept]
            exact ⟨passes, ih others⟩
      · rw [eventsOf_cons_other same] at follows
        simpa [hashedEvents, same] using ih follows

theorem Follows.prev {head chainHash : String} {event : AuditEvent} {rest : List AuditEvent}
    (follows : Follows hasher head (event :: rest)) (own : event.chainHash = some chainHash) :
    event.prevHash.getD hasher.genesisHash = head :=
  (verdict_eq_none_iff.mp follows.1 chainHash own).2

/-- The rows of a chain of events are linked when only the first may lack its
`prev_hash`. -/
theorem Follows.isChain {head : String} {events : List AuditEvent}
    (follows : Follows hasher head events) (hashed : ∀ event ∈ events, event.chainHash.isSome)
    (linked : ∀ event ∈ events.tail, event.prevHash ≠ none) :
    (events.map rowOf).IsChain fun before after => after.prevHash = before.chainHash := by
  induction events generalizing head with
  | nil => exact List.IsChain.nil
  | cons event rest ih =>
      rcases Option.isSome_iff_exists.mp (hashed event (List.mem_cons_self ..)) with
        ⟨chainHash, own⟩
      have hashedRest : ∀ later ∈ rest, later.chainHash.isSome :=
        fun later member => hashed later (List.mem_cons_of_mem _ member)
      cases rest with
      | nil => exact List.IsChain.singleton _
      | cons next later =>
          have others := follows.2
          rw [own, Option.getD_some] at others
          have linkedRest : ∀ event ∈ (next :: later).tail, event.prevHash ≠ none :=
            fun event member => linked event (List.mem_cons_of_mem _ member)
          rcases Option.isSome_iff_exists.mp (hashedRest next (List.mem_cons_self ..)) with
            ⟨nextHash, nextOwn⟩
          rcases Option.ne_none_iff_exists'.mp (linked next (List.mem_cons_self ..)) with
            ⟨previous, isPrevious⟩
          have behind := others.prev nextOwn
          rw [isPrevious, Option.getD_some] at behind
          apply List.isChain_cons_cons.mpr
          constructor
          · change next.prevHash = event.chainHash
            rw [isPrevious, own, behind]
          · exact ih others hashedRest linkedRest

end Follows

/-! ## One transaction -/

/-- What an insert stores of an agent continues what the table has of it: the stored
events are one piece of the verified ones, and the hash that the verification expected
before this piece is still the last one. -/
structure Gapless (hasher : ChainHasher) (request : VerifiedRequest) (rows : List AuditEventRow)
    (agentId : String) : Prop where
  onePiece : ∃ before after, hashedEvents agentId request.sorted =
      before ++ (hashedEvents agentId (newEvents rows request.sorted) ++ after) ∧
    (hashedEvents agentId (newEvents rows request.sorted) ≠ [] →
      storedHead hasher rows agentId = headAfter (storedHead hasher request.seen agentId) before)
  firstLinked : ∀ event ∈ (hashedEvents agentId (newEvents rows request.sorted)).head?,
    event.prevHash = none → hashedRows agentId rows = []
  othersLinked : ∀ event ∈ (hashedEvents agentId (newEvents rows request.sorted)).tail,
    event.prevHash ≠ none

/-- The condition on a step: an insert leaves no gap in the chain of any agent. -/
def IngestServer.KeepsOrder (env : IngestEnv) (server : IngestServer) : IngestStep → Prop
  | .verify _ => True
  | .insert index => ∀ request, server.inFlight[index]? = some request →
      ∀ agentId, Gapless env.hasher request server.rows agentId

/-- A request that nothing interrupts, with correlation ids that are new, leaves no gap. -/
theorem gapless_of_uninterrupted {hasher : ChainHasher} {request : VerifiedRequest}
    (allNew : newEvents request.seen request.sorted = request.sorted)
    (linked : ∀ event ∈ request.sorted, event.prevHash ≠ none) (agentId : String) :
    Gapless hasher request request.seen agentId := by
  have inBatch : ∀ event ∈ hashedEvents agentId request.sorted, event ∈ request.sorted :=
    fun event member => (List.mem_filter.mp member).1
  constructor
  · refine ⟨[], [], ?_, ?_⟩
    · rw [allNew, List.nil_append, List.append_nil]
    · intro _
      rfl
  · rw [allNew]
    intro event isFirst none
    exact absurd none (linked event (inBatch event (List.mem_of_mem_head? isFirst)))
  · rw [allNew]
    intro event member
    exact linked event (inBatch event (List.mem_of_mem_tail member))

/-- Rows behind a chain extend it when they follow its last hash. -/
theorem OneChain.append {hasher : ChainHasher} {rows : List AuditEventRow}
    {events : List AuditEvent} {agentId : String}
    (chain : OneChain hasher (hashedRows agentId rows))
    (hashed : ∀ event ∈ events, event.chainHash.isSome)
    (follows : Follows hasher (storedHead hasher rows agentId) events)
    (firstLinked : ∀ event ∈ events.head?, event.prevHash = none → hashedRows agentId rows = [])
    (othersLinked : ∀ event ∈ events.tail, event.prevHash ≠ none) :
    OneChain hasher (hashedRows agentId rows ++ events.map rowOf) := by
  have linked := follows.isChain hashed othersLinked
  cases events with
  | nil => simpa using chain
  | cons event rest =>
      rcases Option.isSome_iff_exists.mp (hashed event (List.mem_cons_self ..)) with
        ⟨chainHash, own⟩
      have behind := follows.prev own
      rw [storedHead_eq_getLast] at behind
      have emptyOrPrev := firstLinked event (by simp)
      by_cases empty : hashedRows agentId rows = []
      · rw [empty] at behind
        rw [empty, List.nil_append]
        constructor
        · intro first isFirst
          cases isFirst
          change event.prevHash = none ∨ event.prevHash = some hasher.genesisHash
          cases previous : event.prevHash with
          | none => exact Or.inl rfl
          | some hash =>
              rw [previous] at behind
              exact Or.inr (congrArg some behind)
        · exact linked
      · constructor
        · intro first isFirst
          rw [List.head?_append_of_ne_nil _ empty] at isFirst
          exact chain.1 first isFirst
        · refine List.isChain_append.mpr ⟨chain.2, linked, ?_⟩
          intro last isLast first isFirst
          cases isFirst
          change event.prevHash = last.chainHash
          rcases Option.ne_none_iff_exists'.mp (fun none => empty (emptyOrPrev none)) with
            ⟨previous, isPrevious⟩
          have member := List.mem_of_getLast? isLast
          have lastHashed : last.chainHash.isSome := by
            have both := (List.mem_filter.mp member).2
            simp only [Bool.and_eq_true] at both
            exact both.2
          rcases Option.isSome_iff_exists.mp lastHashed with ⟨lastHash, lastOwn⟩
          rw [Option.mem_def.mp isLast, isPrevious] at behind
          simp only [Option.bind_some, lastOwn, Option.getD_some] at behind
          rw [isPrevious, lastOwn, behind]

/-- A clean transaction without a gap keeps the chain of every agent. -/
theorem oneChain_persistBatch {env : IngestEnv} {rows : List AuditEventRow}
    {request : VerifiedRequest} {agentId : String}
    (chain : OneChain env.hasher (hashedRows agentId rows))
    (verified : request.breaks = (verifyEvents env.hasher request.seen request.sorted).breaks)
    (clean : (persistBatch env rows request.sorted request.breaks).2.chainBreakCount = 0)
    (gapless : Gapless env.hasher request rows agentId) :
    OneChain env.hasher
      (hashedRows agentId (persistBatch env rows request.sorted request.breaks).1) := by
  have noBreaks : request.breaks = [] := by
    change (distinctBreaks request.breaks).length = 0 at clean
    cases found : request.breaks with
    | nil => rfl
    | cons first rest => simp [found, distinctBreaks, List.eraseDups_cons] at clean
  have follows := ((verifyEvents_clean_iff request.sorted).mp
    (verified.symm.trans noBreaks) agentId).hashed
  have stored : (persistBatch env rows request.sorted request.breaks).1 =
      rows ++ (newEvents rows request.sorted).map rowOf := by
    rw [← foldl_insertOrIgnore_rowOf]
    simp [persistBatch, noBreaks, distinctBreaks]
  rw [stored, hashedRows_append, hashedRows_map_rowOf]
  rcases gapless.onePiece with ⟨before, after, pieces, sameHead⟩
  rw [pieces, follows_append, follows_append] at follows
  by_cases nothing : hashedEvents agentId (newEvents rows request.sorted) = []
  · rw [nothing, List.map_nil, List.append_nil]
    exact chain
  · rw [← sameHead nothing] at follows
    exact chain.append (fun event member => isSome_of_mem_hashedEvents member) follows.2.1
      gapless.firstLinked gapless.othersLinked

/-! ## Whole runs -/

/-- What holds along a run: requests carry the breaks of their verification, and clean
responses mean one chain for each agent. -/
structure IngestServer.Sound (env : IngestEnv) (server : IngestServer) : Prop where
  verified : ∀ request ∈ server.inFlight,
    request.breaks = (verifyEvents env.hasher request.seen request.sorted).breaks
  chained : (∀ response ∈ server.responses, response.chainBreakCount = 0) →
    ∀ agentId, OneChain env.hasher (hashedRows agentId server.rows)

theorem IngestServer.Sound.next {env : IngestEnv} {server : IngestServer} {step : IngestStep}
    (sound : server.Sound env) (keepsOrder : server.KeepsOrder env step) :
    (server.next env step).Sound env := by
  cases step with
  | verify events =>
      simp only [IngestServer.next]
      split_ifs
      · exact sound
      · cases validateEvents events with
        | error _ => exact sound
        | ok _ =>
            refine ⟨?_, sound.chained⟩
            intro request member
            rcases List.mem_append.mp member with earlier | new
            · exact sound.verified request earlier
            · cases List.mem_singleton.mp new
              rfl
  | insert index =>
      simp only [IngestServer.next]
      cases found : server.inFlight[index]? with
      | none => exact sound
      | some request =>
          constructor
          · intro other member
            exact sound.verified other (List.mem_of_mem_eraseIdx member)
          · intro clean agentId
            have earlier : ∀ response ∈ server.responses, response.chainBreakCount = 0 :=
              fun response member => clean response (List.mem_append_left _ member)
            have here := clean _ (List.mem_append_right _ (List.mem_singleton.mpr rfl))
            exact oneChain_persistBatch (sound.chained earlier agentId)
              (sound.verified request (List.mem_of_getElem? found)) here
              (keepsOrder request found agentId)

/-- Overlapping requests that all report no break leave one chain for each agent, as
long as every insert continues the chain that its verification has seen. -/
theorem concurrent_ingest_oneChain {env : IngestEnv} {rows : List AuditEventRow}
    {steps : List IngestStep}
    (initially : ∀ agentId, OneChain env.hasher (hashedRows agentId rows))
    (keepsOrder : Each (IngestServer.next env) (IngestServer.KeepsOrder env) ⟨rows, [], []⟩ steps)
    (noBreaks : ∀ response ∈ (steps.foldl (IngestServer.next env) ⟨rows, [], []⟩).responses,
      response.chainBreakCount = 0) (agentId : String) :
    OneChain env.hasher
      (hashedRows agentId (steps.foldl (IngestServer.next env) ⟨rows, [], []⟩).rows) := by
  have start : IngestServer.Sound env ⟨rows, [], []⟩ := by
    constructor
    · simp
    · exact fun _ => initially
  have reached := keepsOrder.invariant
    (fun _ _ sound harmless => IngestServer.Sound.next sound harmless) start
  exact reached.chained noBreaks agentId

/-- One request with two events. -/
theorem twoEvents_oneChain :
    (∀ response ∈ ([IngestStep.verify (twoEvents 1 2), .insert 0].foldl
        (IngestServer.next sampleEnv) ⟨[], [], []⟩).responses, response.chainBreakCount = 0) ∧
      OneChain sampleEnv.hasher (hashedRows "AGENT-WS02-001"
        ([IngestStep.verify (twoEvents 1 2), .insert 0].foldl
          (IngestServer.next sampleEnv) ⟨[], [], []⟩).rows) := by
  have noBreaks : ∀ response ∈ ([IngestStep.verify (twoEvents 1 2), .insert 0].foldl
      (IngestServer.next sampleEnv) ⟨[], [], []⟩).responses, response.chainBreakCount = 0 := by
    decide +kernel
  have waiting : (IngestServer.next sampleEnv ⟨[], [], []⟩ (.verify (twoEvents 1 2))).inFlight =
      [⟨twoEvents 1 2, [], []⟩] := by decide +kernel
  have keepsOrder : Each (IngestServer.next sampleEnv) (IngestServer.KeepsOrder sampleEnv)
      ⟨[], [], []⟩ [.verify (twoEvents 1 2), .insert 0] := by
    refine ⟨trivial, ?_, trivial⟩
    intro request found agentId
    rw [waiting] at found
    cases Option.some.inj found
    exact gapless_of_uninterrupted (by decide) (by decide) agentId
  have initially : ∀ agentId, OneChain sampleEnv.hasher (hashedRows agentId []) :=
    fun _ => ⟨by simp [hashedRows], List.IsChain.nil⟩
  exact ⟨noBreaks, concurrent_ingest_oneChain initially keepsOrder noBreaks "AGENT-WS02-001"⟩

/-- Two requests that are verified against the same empty table. -/
def overlappingRequests : List IngestStep :=
  [.verify [⟨sampleContent 1 "1", some "0", some "01"⟩],
    .verify [⟨sampleContent 2 "2", some "0", some "02"⟩], .insert 0, .insert 0]

/-- Both report no break, and their rows follow the same hash. -/
theorem overlappingRequests_not_oneChain :
    (overlappingRequests.foldl (IngestServer.next sampleEnv) ⟨[], [], []⟩).responses =
        [cleanResponse, cleanResponse] ∧
      ¬OneChain sampleEnv.hasher (hashedRows "AGENT-WS02-001"
        (overlappingRequests.foldl (IngestServer.next sampleEnv) ⟨[], [], []⟩).rows) := by
  constructor
  · decide +kernel
  · decide +kernel

end DlpSystem.Audit
