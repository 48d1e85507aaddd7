import DlpSystem.Audit.Verdicts
import DlpSystem.Lib.PieceJudge

/-!
# One stream, many batches

The events of an agent reach the server in batches.  Inside a batch the loop expects
the hash of the last event that passed; at the start of a batch it expects the last
hash that was stored, and a broken event is stored like any other.
-/

namespace DlpSystem.Audit

open Server
open Lib (PieceJudge)

/-! ## Verdicts of batches -/

/-- The verdict of the loop on each event of a batch. -/
def batchVerdicts (hasher : ChainHasher) (rows : List AuditEventRow) :
    Verification → List AuditEvent → List (Option ChainBreakReason)
  | _, [] => []
  | state, event :: rest =>
      verdict hasher (expectedHead hasher rows event.content.agentId state) event ::
        batchVerdicts hasher rows (verifyEvent hasher rows state event) rest

/-- The breaks of a batch are its verdicts other than `none`, in order. -/
theorem breaks_foldl_verifyEvent (hasher : ChainHasher) (rows : List AuditEventRow)
    (state : Verification) (events : List AuditEvent) :
    (events.foldl (verifyEvent hasher rows) state).breaks =
      state.breaks ++ (events.zip (batchVerdicts hasher rows state events)).flatMap
        fun judged => (judged.2.map (breakOf judged.1)).toList := by
  induction events generalizing state with
  | nil => simp
  | cons event rest ih =>
      rw [List.foldl_cons, ih, breaks_verifyEvent, batchVerdicts, List.zip_cons_cons,
        List.flatMap_cons, List.append_assoc]

/-- The verdicts on batches that are posted one after the other; a rejected batch gives
each of its events the error. -/
def postedVerdicts (env : IngestEnv) : List AuditEventRow → List (List AuditEvent) →
    List (Except IngestError (Option ChainBreakReason))
  | _, [] => []
  | rows, batch :: rest =>
      match ingestEvents env rows batch with
      | .error error => (batch.map fun _ => .error error) ++ postedVerdicts env rows rest
      | .ok (stored, _) =>
          (batchVerdicts env.hasher rows ⟨[], fun _ => none⟩
            (batch.insertionSort InOrder)).map .ok ++ postedVerdicts env stored rest

/-- The stored head behind an event, on a table that knows the events of `rows`. -/
def settledHead (rows : List AuditEventRow) (head : String) (event : AuditEvent) : String :=
  if Known rows event then head else event.chainHash.getD head

/-- Verification and storage of one agent's events, by the heads alone. -/
def chainJudge (hasher : ChainHasher) (rows : List AuditEventRow) :
    PieceJudge String AuditEvent (Option ChainBreakReason) where
  judge := verdict hasher
  advance := nextHead hasher
  settle := settledHead rows

section OneAgent

variable {hasher : ChainHasher} {rows : List AuditEventRow} {agentId : String}

theorem batchVerdicts_eq_scan (initial : List AuditEventRow) {events : List AuditEvent}
    (agent : ∀ event ∈ events, event.content.agentId = agentId) (state : Verification) :
    batchVerdicts hasher rows state events =
      (chainJudge hasher initial).scan (expectedHead hasher rows agentId state) events := by
  induction events generalizing state with
  | nil => rfl
  | cons event rest ih =>
      have here := agent event (List.mem_cons_self ..)
      have others := ih (fun later member => agent later (List.mem_cons_of_mem _ member))
        (verifyEvent hasher rows state event)
      rw [expectedHead_verifyEvent, if_pos here] at others
      rw [batchVerdicts, PieceJudge.scan, others, here]
      rfl

end OneAgent

/-! ## Storage of a batch -/

theorem storedHead_insert (hasher : ChainHasher) (rows : List AuditEventRow)
    (event : AuditEvent) :
    storedHead hasher (insertOrIgnore rows (rowOf event)) event.content.agentId =
      settledHead rows (storedHead hasher rows event.content.agentId) event := by
  rw [insertOrIgnore_rowOf, settledHead]
  by_cases known : Known rows event
  · rw [if_pos known, if_pos known]
  · rw [if_neg known, if_neg known, storedHead_append_row]
    exact if_pos rfl

/-- Storing events of one agent settles its head one by one. -/
theorem storedHead_foldl_insert {hasher : ChainHasher} {rows initial : List AuditEventRow}
    {agentId : String} {events : List AuditEvent}
    (agent : ∀ event ∈ events, event.content.agentId = agentId)
    (apart : events.Pairwise DistinctIds)
    (known : ∀ event ∈ events, Known rows event ↔ Known initial event) :
    storedHead hasher ((events.map rowOf).foldl insertOrIgnore rows) agentId =
      events.foldl (settledHead initial) (storedHead hasher rows agentId) := by
  induction events generalizing rows with
  | nil => rfl
  | cons event rest ih =>
      rcases List.pairwise_cons.mp apart with ⟨apartRest, apartOthers⟩
      have here := agent event (List.mem_cons_self ..)
      have head : storedHead hasher (insertOrIgnore rows (rowOf event)) agentId =
          settledHead initial (storedHead hasher rows agentId) event := by
        have settled := storedHead_insert hasher rows event
        rw [here] at settled
        rw [settled, settledHead, settledHead]
        exact if_congr (known event (List.mem_cons_self ..)) rfl rfl
      have knownRest : ∀ later ∈ rest,
          Known (insertOrIgnore rows (rowOf event)) later ↔ Known initial later := by
        intro later member
        rw [known_insert_iff (apartRest later member)]
        exact known later (List.mem_cons_of_mem _ member)
      rw [List.map_cons, List.foldl_cons, List.foldl_cons,
        ih (fun later member => agent later (List.mem_cons_of_mem _ member)) apartOthers knownRest,
        head]

/-- The synthetic events of a batch leave every stored head alone. -/
theorem storedHead_foldl_insertSynthetic (env : IngestEnv) (rows : List AuditEventRow)
    (found : List (String × ChainBreakReason)) (agentId : String) :
    storedHead env.hasher (found.foldl env.insertSynthetic rows) agentId =
      storedHead env.hasher rows agentId := by
  induction found generalizing rows with
  | nil => rfl
  | cons first rest ih =>
      rw [List.foldl_cons, ih, IngestEnv.insertSynthetic, insertOrIgnore]
      split
      · rfl
      · rw [storedHead_append_row]
        exact ite_self _

/-- Synthetic events do not take the correlation id of another event. -/
theorem known_foldl_insertSynthetic_iff {env : IngestEnv} {rows : List AuditEventRow}
    {event : AuditEvent}
    (fresh : ∀ table, event.content.correlationId ≠ some (env.newCorrelationId table))
    (found : List (String × ChainBreakReason)) :
    Known (found.foldl env.insertSynthetic rows) event ↔ Known rows event := by
  induction found generalizing rows with
  | nil => exact Iff.rfl
  | cons first rest ih =>
      rw [List.foldl_cons, ih, IngestEnv.insertSynthetic, insertOrIgnore]
      split
      · exact Iff.rfl
      · exact known_append_row_iff fun _ same => fresh rows same.symm

/-! ## The whole stream -/

/-- A sequence of events of one agent that the server accepts, whatever their hashes. -/
structure AgentStream (env : IngestEnv) (agentId : String) (events : List AuditEvent) : Prop where
  agent : ∀ event ∈ events, event.content.agentId = agentId
  accepted : ∀ event ∈ events, validateEvent event = .ok ()
  distinctIds : (correlationIds events).Nodup
  increasing : events.Pairwise fun first second => first.content.timestamp < second.content.timestamp
  freshDraws : ∀ table, env.newCorrelationId table ∉ correlationIds events

theorem AgentStream.of_append {env : IngestEnv} {agentId : String}
    {first second : List AuditEvent} (stream : AgentStream env agentId (first ++ second)) :
    AgentStream env agentId first ∧ AgentStream env agentId second := by
  have ids : correlationIds (first ++ second) = correlationIds first ++ correlationIds second := by
    rw [correlationIds, List.filterMap_append]
    rfl
  have distinct := stream.distinctIds
  have fresh := stream.freshDraws
  rw [ids] at distinct fresh
  rcases List.nodup_append.mp distinct with ⟨distinctFirst, distinctSecond, _⟩
  rcases List.pairwise_append.mp stream.increasing with ⟨increasingFirst, increasingSecond, _⟩
  constructor
  · exact ⟨fun event member => stream.agent event (List.mem_append_left _ member),
      fun event member => stream.accepted event (List.mem_append_left _ member), distinctFirst,
      increasingFirst, fun table drawn => fresh table (List.mem_append_left _ drawn)⟩
  · exact ⟨fun event member => stream.agent event (List.mem_append_right _ member),
      fun event member => stream.accepted event (List.mem_append_right _ member), distinctSecond,
      increasingSecond, fun table drawn => fresh table (List.mem_append_right _ drawn)⟩

theorem AgentStream.fresh {env : IngestEnv} {agentId : String} {events : List AuditEvent}
    (stream : AgentStream env agentId events) {event : AuditEvent} (member : event ∈ events)
    (table : List AuditEventRow) :
    event.content.correlationId ≠ some (env.newCorrelationId table) := by
  intro same
  exact stream.freshDraws table (List.mem_filterMap.mpr ⟨event, member, same⟩)

/-- Sorting leaves a batch of the stream as it is. -/
theorem AgentStream.sorted {env : IngestEnv} {agentId : String} {events : List AuditEvent}
    (stream : AgentStream env agentId events) : events.insertionSort InOrder = events := by
  apply (insertionSort_eq_iff stream.agent).mpr
  exact stream.increasing.imp le_of_lt

/-- Posting a stream in batches gives the verdicts of the judge in these pieces. -/
theorem postedVerdicts_eq {env : IngestEnv} {agentId : String} {initial rows : List AuditEventRow}
    {batches : List (List AuditEvent)} (nonempty : ∀ batch ∈ batches, batch ≠ [])
    (stream : AgentStream env agentId batches.flatten)
    (known : ∀ event ∈ batches.flatten, Known rows event ↔ Known initial event) :
    postedVerdicts env rows batches =
      ((chainJudge env.hasher initial).judgePieces
        (storedHead env.hasher rows agentId) batches).map .ok := by
  induction batches generalizing rows with
  | nil => rfl
  | cons batch rest ih =>
      rw [List.flatten_cons] at stream known
      rcases stream.of_append with ⟨ofBatch, ofRest⟩
      have apart := List.pairwise_append.mp (pairwise_apart stream.distinctIds)
      have answered : ingestEvents env rows batch = .ok (ingestSorted env rows batch) := by
        have valid := @ingestEvents_valid env rows batch
          (nonempty batch (List.mem_cons_self ..)) ofBatch.accepted
        rwa [ofBatch.sorted] at valid
      have storedKnown : ∀ event ∈ rest.flatten,
          Known (ingestSorted env rows batch).1 event ↔ Known initial event := by
        intro event member
        change Known ((distinctBreaks _).foldl env.insertSynthetic _) event ↔ _
        rw [known_foldl_insertSynthetic_iff (ofRest.fresh member),
          known_foldl_insert_iff (fun earlier inBatch => apart.2.2 earlier inBatch event member)]
        exact known event (List.mem_append_right _ member)
      have head : storedHead env.hasher (ingestSorted env rows batch).1 agentId =
          batch.foldl (settledHead initial) (storedHead env.hasher rows agentId) := by
        change storedHead env.hasher ((distinctBreaks _).foldl env.insertSynthetic _) agentId = _
        rw [storedHead_foldl_insertSynthetic]
        exact storedHead_foldl_insert ofBatch.agent apart.1
          (fun event member => known event (List.mem_append_left _ member))
      have later := ih (fun piece member => nonempty piece (List.mem_cons_of_mem _ member)) ofRest
        storedKnown
      rw [head] at later
      rw [postedVerdicts, answered, PieceJudge.judgePieces, List.map_append]
      simp only
      rw [later, ofBatch.sorted, batchVerdicts_eq_scan initial ofBatch.agent]
      rfl

/-! ## Where cutting shows -/

/-- The event has a chain hash, and it is right for the event's own `prev_hash`. -/
def OwnHashRight (hasher : ChainHasher) (event : AuditEvent) : Prop :=
  event.chainHash ≠ none ∧
    hasher.computeChainHash (event.prevHash.getD hasher.genesisHash) event.content =
      event.chainHash

instance (hasher : ChainHasher) (event : AuditEvent) : Decidable (OwnHashRight hasher event) :=
  inferInstanceAs (Decidable (_ ∧ _))

/-- No event with a right hash stands behind one of the heads, nor behind a hash that
was stored since. -/
def Detached (hasher : ChainHasher) (rows : List AuditEventRow) :
    List String → String → List AuditEvent → Prop
  | _, _, [] => True
  | heads, tail, event :: rest =>
      (OwnHashRight hasher event → event.prevHash.getD hasher.genesisHash ∉ heads) ∧
        Detached hasher rows (settledHead rows tail event :: heads) (settledHead rows tail event)
          rest

/-- As long as the stored hash is the expected one anything may follow.  Once an event
has driven the two apart (a broken one that was stored, or one that passed and was not),
the rest of the stream is detached from both. -/
def InStep (hasher : ChainHasher) (rows : List AuditEventRow) : String → List AuditEvent → Prop
  | _, [] => True
  | head, event :: rest =>
      if nextHead hasher head event = settledHead rows head event then
        InStep hasher rows (settledHead rows head event) rest
      else
        Detached hasher rows [settledHead rows head event, nextHead hasher head event]
          (settledHead rows head event) rest

instance decidableDetached (hasher : ChainHasher) (rows : List AuditEventRow) :
    (heads : List String) → (tail : String) → (events : List AuditEvent) →
      Decidable (Detached hasher rows heads tail events)
  | _, _, [] => inferInstanceAs (Decidable True)
  | heads, tail, event :: rest =>
      have := decidableDetached hasher rows (settledHead rows tail event :: heads)
        (settledHead rows tail event) rest
      inferInstanceAs (Decidable (_ ∧ _))

instance decidableInStep (hasher : ChainHasher) (rows : List AuditEventRow) :
    (head : String) → (events : List AuditEvent) → Decidable (InStep hasher rows head events)
  | _, [] => inferInstanceAs (Decidable True)
  | head, event :: rest =>
      have := decidableInStep hasher rows (settledHead rows head event) rest
      inferInstanceAs (Decidable (ite _ _ _))

section Heads

variable {hasher : ChainHasher} {rows : List AuditEventRow}

theorem verdict_of_right {head : String} {event : AuditEvent}
    (right : OwnHashRight hasher event) :
    verdict hasher head event = none ↔ event.prevHash.getD hasher.genesisHash = head := by
  rcases Option.ne_none_iff_exists'.mp right.1 with ⟨chainHash, own⟩
  have computed := right.2
  rw [own] at computed
  rw [verdict_eq_none_iff]
  constructor
  · intro passes
    exact (passes chainHash own).2
  · intro behind otherHash isOther
    rw [← isOther, own]
    exact ⟨computed, behind⟩

/-- An event without a right hash gets one verdict, whatever is expected. -/
theorem verdict_of_not_right {event : AuditEvent} (wrong : ¬OwnHashRight hasher event)
    (head other : String) : verdict hasher head event = verdict hasher other event := by
  unfold verdict
  unfold OwnHashRight at wrong
  cases own : event.chainHash with
  | none => rfl
  | some chainHash =>
      rw [own] at wrong
      simp only
      cases computed : hasher.computeChainHash (event.prevHash.getD hasher.genesisHash)
        event.content with
      | none => rfl
      | some expected =>
          have differs : expected ≠ chainHash := by
            intro same
            exact wrong ⟨by simp, by rw [computed, same]⟩
          simp [differs]

theorem nextHead_of_not_right {event : AuditEvent} (wrong : ¬OwnHashRight hasher event)
    (head : String) : nextHead hasher head event = head := by
  unfold nextHead
  split
  · next passes =>
      cases own : event.chainHash with
      | none => rfl
      | some chainHash =>
          have computed := (verdict_eq_none_iff.mp passes chainHash own).1
          exact absurd ⟨by simp [own], computed.trans own.symm⟩ wrong
  · rfl

theorem verdict_of_other {head : String} {event : AuditEvent} (right : OwnHashRight hasher event)
    (other : event.prevHash.getD hasher.genesisHash ≠ head) :
    verdict hasher head event = some .prevHashMismatch := by
  rcases Option.ne_none_iff_exists'.mp right.1 with ⟨chainHash, own⟩
  have computed := right.2
  rw [own] at computed
  simp [verdict, own, computed, other]

/-- Two different heads agree on an event exactly when it stands behind neither. -/
theorem verdicts_agree_iff {heads : List String}
    (different : ∃ head ∈ heads, ∃ other ∈ heads, head ≠ other) {event : AuditEvent} :
    (∀ head ∈ heads, ∀ other ∈ heads, verdict hasher head event = verdict hasher other event) ↔
      (OwnHashRight hasher event → event.prevHash.getD hasher.genesisHash ∉ heads) := by
  constructor
  · intro agree right isHead
    have passes := (verdict_of_right right).mpr rfl
    rcases different with ⟨head, member, other, memberOther, differ⟩
    have behind := (verdict_of_right right).mp ((agree head member _ isHead).trans passes)
    have behindOther :=
      (verdict_of_right right).mp ((agree other memberOther _ isHead).trans passes)
    exact differ (behind.symm.trans behindOther)
  · intro detached head member other memberOther
    by_cases right : OwnHashRight hasher event
    · have outside := detached right
      rw [verdict_of_other right (fun same => outside (same ▸ member)),
        verdict_of_other right (fun same => outside (same ▸ memberOther))]
    · exact verdict_of_not_right right head other

/-- A detached event moves no head. -/
theorem nextHead_of_detached {heads : List String} {event : AuditEvent}
    (detached : OwnHashRight hasher event → event.prevHash.getD hasher.genesisHash ∉ heads) :
    (heads.map fun head => nextHead hasher head event) = heads := by
  apply (List.map_congr_left _).trans (List.map_id heads)
  intro head member
  by_cases right : OwnHashRight hasher event
  · have mismatch := verdict_of_other right (fun same => detached right (same ▸ member))
    simp [nextHead, mismatch]
  · exact nextHead_of_not_right right head

theorem uniform_iff_detached {heads : List String} {tail : String}
    (different : ∃ head ∈ heads, ∃ other ∈ heads, head ≠ other) (events : List AuditEvent) :
    (chainJudge hasher rows).Uniform heads tail events ↔
      Detached hasher rows heads tail events := by
  induction events generalizing heads tail with
  | nil => exact Iff.rfl
  | cons event rest ih =>
      rw [PieceJudge.Uniform, Detached]
      have here := @verdicts_agree_iff hasher heads different event
      have further : ∃ head ∈ settledHead rows tail event :: heads,
          ∃ other ∈ settledHead rows tail event :: heads, head ≠ other := by
        rcases different with ⟨head, member, other, memberOther, differ⟩
        exact ⟨head, List.mem_cons_of_mem _ member, other, List.mem_cons_of_mem _ memberOther,
          differ⟩
      constructor
      · rintro ⟨agree, others⟩
        have detached := here.mp agree
        change (chainJudge hasher rows).Uniform (settledHead rows tail event ::
          (heads.map fun head => nextHead hasher head event)) _ rest at others
        rw [nextHead_of_detached detached] at others
        exact ⟨detached, (ih further).mp others⟩
      · rintro ⟨detached, others⟩
        constructor
        · exact here.mpr detached
        · change (chainJudge hasher rows).Uniform (settledHead rows tail event ::
            (heads.map fun head => nextHead hasher head event)) _ rest
          rw [nextHead_of_detached detached]
          exact (ih further).mpr others

theorem detached_congr {heads others : List String} (same : ∀ head, head ∈ heads ↔ head ∈ others)
    (tail : String) (events : List AuditEvent) :
    Detached hasher rows heads tail events ↔ Detached hasher rows others tail events := by
  induction events generalizing heads others tail with
  | nil => exact Iff.rfl
  | cons event rest ih =>
      rw [Detached, Detached, same]
      apply and_congr_right'
      apply ih
      intro head
      rw [List.mem_cons, List.mem_cons, same]

/-- As long as all heads are one head the stream is in step. -/
theorem uniform_iff_inStep {heads : List String} {tail : String} (isHead : tail ∈ heads)
    (one : ∀ head ∈ heads, head = tail) (events : List AuditEvent) :
    (chainJudge hasher rows).Uniform heads tail events ↔ InStep hasher rows tail events := by
  induction events generalizing heads tail with
  | nil => exact Iff.rfl
  | cons event rest ih =>
      have agree : ∀ head ∈ heads, ∀ other ∈ heads,
          (chainJudge hasher rows).judge head event =
            (chainJudge hasher rows).judge other event := by
        intro head member other memberOther
        rw [one head member, one other memberOther]
      have nexts : ∀ next, next ∈ settledHead rows tail event ::
            (heads.map fun head => nextHead hasher head event) ↔
          next = settledHead rows tail event ∨ next = nextHead hasher tail event := by
        intro next
        rw [List.mem_cons, List.mem_map]
        apply or_congr_right
        constructor
        · rintro ⟨head, member, rfl⟩
          rw [one head member]
        · rintro rfl
          exact ⟨tail, isHead, rfl⟩
      rw [PieceJudge.Uniform, and_iff_right agree, InStep]
      change (chainJudge hasher rows).Uniform (settledHead rows tail event ::
        (heads.map fun head => nextHead hasher head event)) (settledHead rows tail event) rest ↔ _
      by_cases together : nextHead hasher tail event = settledHead rows tail event
      · rw [if_pos together]
        apply ih (List.mem_cons_self ..)
        intro next member
        rcases (nexts next).mp member with same | same
        · exact same
        · exact same.trans together
      · rw [if_neg together, uniform_iff_detached]
        · apply detached_congr
          intro next
          rw [nexts, List.mem_cons, List.mem_singleton]
        · exact ⟨_, (nexts _).mpr (Or.inl rfl), _, (nexts _).mpr (Or.inr rfl), Ne.symm together⟩

end Heads

/-- The verdicts on a stream are the same in all ways of cutting it into batches exactly
when it is in step with the stored chain: no event drives the stored hash and the
expected one apart, or everything behind it is detached from both. -/
theorem verdicts_independent_of_batching_iff {env : IngestEnv} {agentId : String}
    {rows : List AuditEventRow} {events : List AuditEvent}
    (stream : AgentStream env agentId events) :
    (∀ first second, PieceJudge.Cuts events first → PieceJudge.Cuts events second →
        postedVerdicts env rows first = postedVerdicts env rows second) ↔
      InStep env.hasher rows (storedHead env.hasher rows agentId) events := by
  have posted : ∀ batches, PieceJudge.Cuts events batches → postedVerdicts env rows batches =
      ((chainJudge env.hasher rows).judgePieces
        (storedHead env.hasher rows agentId) batches).map .ok := by
    rintro batches ⟨rfl, nonempty⟩
    exact postedVerdicts_eq nonempty stream (fun _ _ => Iff.rfl)
  have single : storedHead env.hasher rows agentId ∈ [storedHead env.hasher rows agentId] :=
    List.mem_singleton.mpr rfl
  rw [← uniform_iff_inStep single (fun head member => List.mem_singleton.mp member),
    ← PieceJudge.judgePieces_independent_iff]
  constructor
  · intro independent first second cutsFirst cutsSecond
    have same := independent first second cutsFirst cutsSecond
    rw [posted first cutsFirst, posted second cutsSecond] at same
    exact List.map_injective_iff.mpr (fun _ _ => Except.ok.inj) same
  · intro independent first second cutsFirst cutsSecond
    rw [posted first cutsFirst, posted second cutsSecond,
      independent first second cutsFirst cutsSecond]

theorem twoEvents_agentStream : AgentStream sampleEnv "AGENT-WS02-001" (twoEvents 1 2) :=
  ⟨by decide, by decide, by decide, by decide,
    fun _ => show "synthetic" ∉ correlationIds (twoEvents 1 2) by decide⟩

/-- Two events of an honest chain. -/
theorem twoEvents_verdicts :
    AgentStream sampleEnv "AGENT-WS02-001" (twoEvents 1 2) ∧ ∀ first second,
      PieceJudge.Cuts (twoEvents 1 2) first → PieceJudge.Cuts (twoEvents 1 2) second →
        postedVerdicts sampleEnv [] first = postedVerdicts sampleEnv [] second :=
  ⟨twoEvents_agentStream,
    (verdicts_independent_of_batching_iff twoEvents_agentStream).mpr (by decide +kernel)⟩

/-- An event with a wrong hash, and one that follows this hash. -/
def afterForgedEvent : List AuditEvent :=
  [⟨sampleContent 1 "1", some "0", some "9"⟩, ⟨sampleContent 2 "2", some "9", some "92"⟩]

/-- In one batch the second event is a break too, in two batches it passes. -/
theorem afterForgedEvent_verdicts :
    AgentStream sampleEnv "AGENT-WS02-001" afterForgedEvent ∧
      postedVerdicts sampleEnv [] [afterForgedEvent] =
        [.ok (some .hashMismatch), .ok (some .prevHashMismatch)] ∧
      postedVerdicts sampleEnv [] (afterForgedEvent.map fun event => [event]) =
        [.ok (some .hashMismatch), .ok none] := by
  have stream : AgentStream sampleEnv "AGENT-WS02-001" afterForgedEvent :=
    ⟨by decide, by decide, by decide, by decide,
      fun _ => show "synthetic" ∉ correlationIds afterForgedEvent by decide⟩
  exact ⟨stream, by decide +kernel, by decide +kernel⟩

end DlpSystem.Audit
