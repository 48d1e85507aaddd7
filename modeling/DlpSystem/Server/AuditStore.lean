import DlpSystem.Audit.Chain
import DlpSystem.Lib.Fallible
import DlpSystem.Lib.StableSort
import Mathlib.Data.List.Sort
import Mathlib.Data.Prod.Lex
import Mathlib.Data.String.Basic
import Mathlib.Logic.Function.Basic

/-!
# Audit ingestion

`ingest_events`: validate a batch, sort it by agent and time, verify every event
against the chain of its agent, and store the batch.  Relays to syslog, SIEM and
alert channels follow the response and are left out.
-/

namespace DlpSystem.Server

open Audit

/-- The columns of `audit_events` that ingestion reads back, in the order of `id`. -/
structure AuditEventRow where
  agentId : String
  correlationId : Option String
  prevHash : Option String
  chainHash : Option String
  deriving DecidableEq

/-- `ChainBreakReason`. -/
inductive ChainBreakReason
  | hashMismatch
  | prevHashMismatch
  | hashComputationFailed
  deriving DecidableEq

/-- A detected break: agent, correlation id and reason. -/
structure ChainBreak where
  agentId : String
  correlationId : Option String
  reason : ChainBreakReason
  deriving DecidableEq

/-- `IngestEventsResponse`. -/
structure IngestEventsResponse where
  tamperDetectedForAgent : Option String
  chainBreakCount : Nat
  deriving DecidableEq

/-- `AppError::BadRequest` of `ingest_events`. -/
inductive IngestError
  | emptyBatch
  | missingSourceApplication
  | missingDestinationApplication
  | invalidContentSha256
  deriving DecidableEq

def isHexDigit (digit : Char) : Bool :=
  ('0' ≤ digit && digit ≤ '9') || ('a' ≤ digit && digit ≤ 'f') || ('A' ≤ digit && digit ≤ 'F')

/-- The validation of one event. -/
def validateEvent (event : AuditEvent) : Except IngestError Unit :=
  if event.content.sourceApplication.isNone then .error .missingSourceApplication
  else if event.content.destinationApplication.isNone then .error .missingDestinationApplication
  else
    match event.content.contentSha256 with
    | none => .ok ()
    | some hash =>
        if hash.utf8ByteSize ≠ 64 || !hash.toList.all isHexDigit then .error .invalidContentSha256
        else .ok ()

def validateEvents : List AuditEvent → Except IngestError Unit
  | [] => .ok ()
  | event :: rest => do
      validateEvent event
      validateEvents rest

/-- The order of `sort_by`: agent, then time. -/
def InOrder (first second : AuditEvent) : Prop :=
  first.content.agentId < second.content.agentId ∨
    first.content.agentId = second.content.agentId ∧
      first.content.timestamp ≤ second.content.timestamp

instance (first second : AuditEvent) : Decidable (InOrder first second) :=
  inferInstanceAs (Decidable (_ ∨ _))

/-- `get_last_chain_hash`. -/
def getLastChainHash (rows : List AuditEventRow) (agentId : String) : Option String :=
  (rows.reverse.find? fun row => row.agentId = agentId && row.chainHash.isSome).bind
    AuditEventRow.chainHash

/-- What verification carries from event to event: the breaks and the last hash it
has accepted for each agent. -/
structure Verification where
  breaks : List ChainBreak
  lastHashCache : String → Option String

/-- One event of the verification loop. -/
def verifyEvent (hasher : ChainHasher) (rows : List AuditEventRow) (state : Verification)
    (event : AuditEvent) : Verification :=
  let agentId := event.content.agentId
  let broken (reason : ChainBreakReason) : Verification :=
    { state with breaks := state.breaks ++ [⟨agentId, event.content.correlationId, reason⟩] }
  match event.chainHash with
  | none => state
  | some chainHash =>
      let prevHash := event.prevHash.getD hasher.genesisHash
      match hasher.computeChainHash prevHash event.content with
      | none => broken .hashComputationFailed
      | some expected =>
          if expected ≠ chainHash then broken .hashMismatch
          else
            let expectedPrev :=
              ((state.lastHashCache agentId).or (getLastChainHash rows agentId)).getD
                hasher.genesisHash
            if prevHash ≠ expectedPrev then broken .prevHashMismatch
            else
              { state with
                lastHashCache := Function.update state.lastHashCache agentId (some chainHash) }

/-- The verification loop. -/
def verifyEvents (hasher : ChainHasher) (rows : List AuditEventRow) (events : List AuditEvent) :
    Verification :=
  events.foldl (verifyEvent hasher rows) ⟨[], fun _ => none⟩

/-- `INSERT OR IGNORE`, with the unique correlation id. -/
def insertOrIgnore (rows : List AuditEventRow) (row : AuditEventRow) : List AuditEventRow :=
  if row.correlationId.isSome && rows.any (fun old => old.correlationId = row.correlationId) then
    rows
  else rows ++ [row]

def rowOf (event : AuditEvent) : AuditEventRow :=
  ⟨event.content.agentId, event.content.correlationId, event.prevHash, event.chainHash⟩

/-- The breaks by agent and reason, each once. -/
def distinctBreaks (breaks : List ChainBreak) : List (String × ChainBreakReason) :=
  (breaks.map fun found => (found.agentId, found.reason)).eraseDups

/-- What ingestion depends on besides the request: the chain hash, and the
correlation ids that synthetic events draw. -/
structure IngestEnv where
  hasher : ChainHasher
  newCorrelationId : List AuditEventRow → String

/-- The row of a synthetic `ChainBreakDetected` event. -/
def IngestEnv.insertSynthetic (env : IngestEnv) (rows : List AuditEventRow)
    (found : String × ChainBreakReason) : List AuditEventRow :=
  insertOrIgnore rows ⟨found.1, some (env.newCorrelationId rows), none, none⟩

/-- `ingest_events` behind its checks: verify, store, respond. -/
def ingestSorted (env : IngestEnv) (rows : List AuditEventRow) (sorted : List AuditEvent) :
    List AuditEventRow × IngestEventsResponse :=
  let breaks := (verifyEvents env.hasher rows sorted).breaks
  let stored := (sorted.map rowOf).foldl insertOrIgnore rows
  let withSynthetic := (distinctBreaks breaks).foldl env.insertSynthetic stored
  let requestingAgentId := sorted.head?.map fun event => event.content.agentId
  let tamperDetectedForAgent := requestingAgentId.bind fun requesting =>
    (breaks.find? fun found => found.agentId = requesting).map ChainBreak.agentId
  (withSynthetic, ⟨tamperDetectedForAgent, (distinctBreaks breaks).length⟩)

/-- `ingest_events`, on a database that does not fail. -/
def ingestEvents (env : IngestEnv) (rows : List AuditEventRow) (events : List AuditEvent) :
    Except IngestError (List AuditEventRow × IngestEventsResponse) := do
  if events.isEmpty then throw .emptyBatch
  validateEvents events
  pure (ingestSorted env rows (events.insertionSort InOrder))

/-! ## The integrity report

`get_audit_integrity` selects the events that have a chain hash, agent by agent in the order
of their ids, and compares the `prev_hash` of each with the chain hash before it.  The first
event that it sees of an agent is compared with the genesis hash.
-/

open Lib

/-- The columns of `audit_events` that the report reads. -/
structure IntegrityRow where
  id : Int
  agentId : String
  timestamp : String
  prevHash : Option String
  chainHash : Option String
  deriving DecidableEq

/-- The table, in the order of its primary key. -/
structure IntegrityTable where
  rows : List IntegrityRow
  byId : rows.Pairwise fun left right => left.id < right.id

/-- `IntegrityQueryParams`. -/
structure IntegrityQueryParams where
  agentId : Option String
  since : Option String
  limit : Option Int
  deriving DecidableEq

/-- The number of rows that the query is limited to. -/
def IntegrityQueryParams.effectiveLimit (params : IntegrityQueryParams) : Int :=
  min (params.limit.getD 10000) 100000

/-- The `WHERE` clause; times are compared as texts. -/
def IntegrityQueryParams.admits (params : IntegrityQueryParams) (row : IntegrityRow) : Bool :=
  row.chainHash.isSome &&
    (match params.agentId with
      | some agent => row.agentId = agent
      | none => true) &&
    match params.since with
    | some since => since ≤ row.timestamp
    | none => true

/-- The `LIMIT` clause: a negative limit is none. -/
def limited {α : Type} (limit : Int) (rows : List α) : List α :=
  if limit < 0 then rows else rows.take limit.toNat

/-- The rows of the query: `ORDER BY agent_id, id`. -/
def IntegrityTable.select (table : IntegrityTable) (params : IntegrityQueryParams) :
    List IntegrityRow :=
  limited params.effectiveLimit
    (sortAscending (fun row => toLex (row.agentId, row.id)) (table.rows.filter params.admits))

/-- `ChainBreak` of the report. -/
structure IntegrityBreak where
  agentId : String
  eventId : Int
  expectedPrevHash : String
  actualPrevHash : String
  deriving DecidableEq

/-- `AgentChainStatus`. -/
structure AgentChainStatus where
  agentId : String
  eventCount : Nat
  verifiedCount : Nat
  lastChainHash : Option String
  deriving DecidableEq

/-- What the loop over the rows carries. -/
structure IntegrityScan where
  totalEvents : Nat
  verifiedEvents : Nat
  chainBreaks : List IntegrityBreak
  agentStatuses : String → Option AgentChainStatus
  lastByAgent : String → Option String

/-- `AuditIntegrityResponse`; the agents are in no order. -/
structure AuditIntegrityResponse where
  totalEvents : Nat
  verifiedEvents : Nat
  chainBreaks : List IntegrityBreak
  agents : String → Option AgentChainStatus
  integrityOk : Bool

section Report

variable (genesisHash : String)

/-- What a row names as the hash before it. -/
def IntegrityRow.prev (row : IntegrityRow) : String :=
  row.prevHash.getD genesisHash

/-- One row of the loop. -/
def scanRow (scan : IntegrityScan) (row : IntegrityRow) : IntegrityScan :=
  let status := (scan.agentStatuses row.agentId).getD ⟨row.agentId, 0, 0, none⟩
  let expectedPrev := (scan.lastByAgent row.agentId).getD genesisHash
  let verified := if row.prev genesisHash = expectedPrev then 1 else 0
  { totalEvents := scan.totalEvents + 1
    verifiedEvents := scan.verifiedEvents + verified
    chainBreaks :=
      if row.prev genesisHash = expectedPrev then scan.chainBreaks
      else scan.chainBreaks ++ [⟨row.agentId, row.id, expectedPrev, row.prev genesisHash⟩]
    agentStatuses := Function.update scan.agentStatuses row.agentId
      (some
        { status with
          eventCount := status.eventCount + 1
          verifiedCount := status.verifiedCount + verified
          lastChainHash := row.chainHash.or status.lastChainHash })
    lastByAgent :=
      match row.chainHash with
      | some hash => Function.update scan.lastByAgent row.agentId (some hash)
      | none => scan.lastByAgent }

/-- The loop. -/
def scanRows (rows : List IntegrityRow) : IntegrityScan :=
  rows.foldl (scanRow genesisHash) ⟨0, 0, [], fun _ => none, fun _ => none⟩

/-- `get_audit_integrity`. -/
def getAuditIntegrity (table : IntegrityTable) (params : IntegrityQueryParams) :
    AuditIntegrityResponse :=
  let scan := scanRows genesisHash (table.select params)
  { totalEvents := scan.totalEvents
    verifiedEvents := scan.verifiedEvents
    chainBreaks := scan.chainBreaks
    agents := scan.agentStatuses
    integrityOk := scan.chainBreaks.isEmpty }

end Report

end DlpSystem.Server
