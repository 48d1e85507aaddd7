import DlpSystem.Ipc.Messages
import DlpSystem.Lib.ByteSlices
import DlpSystem.Lib.CappedQueue

/-!
# Snapshots of the hook on the server

`HealthSnapshotStore`: the latest health snapshot of each agent and some before it.  An ingest
updates the entry of its agent at once, and then puts a new agent into the queue.  The
dashboard sums over the latest snapshots.
-/

namespace DlpSystem.Server

open Ipc Lib

/-- `AgentHealthRecord`. -/
structure AgentHealthRecord where
  latest : HookHealthSnapshot
  history : List HookHealthSnapshot

/-- `HealthSnapshotStore`. -/
structure HealthSnapshotStore where
  snapshots : AList fun _ : String => AgentHealthRecord
  maxHistory : Nat
  maxKeys : Nat
  keyQueue : List String

/-- `DashboardHealthSnapshot`. -/
structure DashboardHealthSnapshot where
  overallStatus : String
  injectedPids : UInt64
  patchedModules : UInt64
  pipeRoundTrips60s : UInt64
  cacheHitRate60s : Float
  failState : UInt8
  timestampSecs : UInt64

/-- What the loop of `get_dashboard_snapshot` accumulates. -/
structure DashboardTotals where
  injectedPids : UInt64
  patchedModules : UInt64
  pipeRoundTrips : UInt64
  weightedCacheHits : Float
  maxFailState : UInt8
  latestTimestamp : UInt64
  count : Nat

namespace DashboardTotals

def zero : DashboardTotals :=
  ⟨0, 0, 0, 0.0, 0, 0, 0⟩

/-- A round of the loop.  Sums wrap around. -/
def add (totals : DashboardTotals) (snap : HookHealthSnapshot) : DashboardTotals where
  injectedPids := totals.injectedPids + snap.injectedPids
  patchedModules := totals.patchedModules + snap.patchedModules
  pipeRoundTrips := totals.pipeRoundTrips + snap.pipeRoundTrips60s
  weightedCacheHits :=
    totals.weightedCacheHits +
      Float.ofBits snap.cacheHitRate60s * snap.pipeRoundTrips60s.toFloat
  maxFailState := max totals.maxFailState snap.currentFailState
  latestTimestamp := max totals.latestTimestamp snap.timestampSecs
  count := totals.count + 1

/-- `avg_cache_hit_rate`. -/
def avgCacheHitRate (totals : DashboardTotals) : Float :=
  if totals.pipeRoundTrips > 0 then totals.weightedCacheHits / totals.pipeRoundTrips.toFloat
  else 0.0

/-- There is traffic, and its hit rate is low. -/
def HasLowHitRate (totals : DashboardTotals) : Prop :=
  totals.pipeRoundTrips > 0 ∧ totals.avgCacheHitRate < 0.80

instance (totals : DashboardTotals) : Decidable totals.HasLowHitRate :=
  inferInstanceAs (Decidable (_ ∧ _))

/-- `overall_status`. -/
def overallStatus (totals : DashboardTotals) : String :=
  if totals.maxFailState = 2 then "critical"
  else if totals.maxFailState = 1 then "degraded"
  else if totals.HasLowHitRate then "degraded"
  else "healthy"

end DashboardTotals

namespace HealthSnapshotStore

/-- `with_caps`. -/
def withCaps (maxHistory maxKeys : Nat) : HealthSnapshotStore :=
  ⟨∅, maxHistory, maxKeys, []⟩

/-- The record of an agent with another snapshot. -/
def recordWith (store : HealthSnapshotStore) (agentId : String) (snapshot : HookHealthSnapshot) :
    AgentHealthRecord :=
  match store.snapshots.lookup agentId with
  | none => ⟨snapshot, [snapshot]⟩
  | some record =>
      let history := record.history ++ [snapshot]
      ⟨snapshot, history.drop (history.length - store.maxHistory)⟩

/-- The first step of `ingest`, on the entry of the agent. -/
def updateEntry (store : HealthSnapshotStore) (agentId : String)
    (snapshot : HookHealthSnapshot) : HealthSnapshotStore :=
  { store with snapshots := store.snapshots.insert agentId (store.recordWith agentId snapshot) }

/-- The second step, for a new agent. -/
def push (store : HealthSnapshotStore) (key : String) : HealthSnapshotStore :=
  let pushed := pushKey store.maxKeys store.snapshots store.keyQueue key
  { store with
    snapshots := pushed.1
    keyQueue := pushed.2 }

/-- The latest snapshots. -/
def latest (store : HealthSnapshotStore) : List HookHealthSnapshot :=
  store.snapshots.entries.map fun entry => entry.2.latest

/-- `get_dashboard_snapshot`, for the latest snapshots in the order of the iteration. -/
def getDashboardSnapshot (order : List HookHealthSnapshot) : Option DashboardHealthSnapshot :=
  let totals := order.foldl DashboardTotals.add .zero
  if totals.count = 0 then none
  else
    some
      { overallStatus := totals.overallStatus
        injectedPids := totals.injectedPids
        patchedModules := totals.patchedModules
        pipeRoundTrips60s := totals.pipeRoundTrips
        cacheHitRate60s := totals.avgCacheHitRate
        failState := totals.maxFailState
        timestampSecs := totals.latestTimestamp }

theorem latest_recordWith (store : HealthSnapshotStore) (agentId : String)
    (snapshot : HookHealthSnapshot) : (store.recordWith agentId snapshot).latest = snapshot := by
  rw [recordWith]
  split <;> rfl

end HealthSnapshotStore

/-! ## Concurrent calls -/

/-- The store, and the keys of the calls that have yet to queue theirs. -/
structure HealthIngests where
  store : HealthSnapshotStore
  unpushed : List String

/-- A step of one of the calls. -/
inductive HealthStep
  | record (agentId : String) (snapshot : HookHealthSnapshot)
  | push (index : Nat)

namespace HealthIngests

def start (maxHistory maxKeys : Nat) : HealthIngests :=
  ⟨.withCaps maxHistory maxKeys, []⟩

def next (ingests : HealthIngests) : HealthStep → HealthIngests
  | .record agentId snapshot =>
      { store := ingests.store.updateEntry agentId snapshot
        unpushed :=
          ingests.unpushed ++ if agentId ∈ ingests.store.snapshots then [] else [agentId] }
  | .push index =>
      match ingests.unpushed[index]? with
      | none => ingests
      | some key =>
          { store := ingests.store.push key
            unpushed := ingests.unpushed.eraseIdx index }

end HealthIngests

/-! ## Diagnostic snapshots on the server

`DiagnosticSnapshotStore`: the snapshots of each hook DLL, with a cap for each and a cap on the
number of DLLs.  An ingest first asks whether its key is new, then appends, and then puts a new
key into the queue; other ingests may come in between.
-/

/-! ### Valid snapshots -/

/-- `MAX_STRING_LEN`. -/
def maxStringLen : Nat :=
  1024

/-- `MAX_SID_LEN`. -/
def maxSidLen : Nat :=
  256

/-- `is_valid_sid`. -/
def isValidSid (sid : Text) : Bool :=
  "S-1-".toList.isPrefixOf sid && sid.all fun char => char.isAlphanum || char = '-'

/-- The first text of a snapshot that is longer than it may be. -/
def tooLong : List (String × Text × Nat) → Option String
  | [] => none
  | (name, text, limit) :: rest =>
      if limit < byteLength text then some s!"{name} exceeds {limit} chars" else tooLong rest

/-- `validate_snapshot`. -/
def validateSnapshot (snap : DiagnosticSnapshot) : Option String :=
  let long := tooLong
    ([("hook_function", snap.hookFunction.toList, maxStringLen),
        ("abac_resource", snap.abacResource.toList, maxStringLen),
        ("abac_action", snap.abacAction.toList, maxStringLen),
        ("abac_environment", snap.abacEnvironment.toList, maxStringLen),
        ("user_sid", snap.userSid.toList, maxSidLen)] ++
      snap.matchedPolicyId.toList.map (fun id => ("matched_policy_id", id.toList, maxStringLen)) ++
      snap.enforcementMode.toList.map fun mode => ("enforcement_mode", mode.toList, maxStringLen))
  match long with
  | some reason => some reason
  | none =>
      let sid := snap.userSid
      if "..".toList <:+: snap.abacResource.toList then
        some "abac_resource contains path traversal (..)"
      else if snap.userSid.toList ≠ [] ∧ isValidSid snap.userSid.toList = false then
        some s!"user_sid has invalid format: {sid}"
      else none

/-! ### The store -/

/-- `DiagnosticSnapshotStore`. -/
structure DiagnosticSnapshotStore where
  snapshots : AList fun _ : String => List DiagnosticSnapshot
  maxEntriesPerDll : Nat
  maxKeys : Nat
  keyQueue : List String

/-- The key of a process on an agent. -/
def diagnosticKey (agentId : String) (pid : UInt32) : String :=
  toString pid.toNat ++ "_" ++ agentId

/-- An `ingest` that has asked whether its key is new. -/
structure CheckedIngest where
  key : String
  isNewKey : Bool
  newSnapshots : List DiagnosticSnapshot
  deriving DecidableEq

namespace DiagnosticSnapshotStore

/-- `with_caps`. -/
def withCaps (maxEntriesPerDll maxKeys : Nat) : DiagnosticSnapshotStore :=
  ⟨∅, maxEntriesPerDll, maxKeys, []⟩

/-- The first step of `ingest`: what goes on, if any snapshot is valid. -/
def checkKey (store : DiagnosticSnapshotStore) (agentId : String) (pid : UInt32)
    (newSnapshots : List DiagnosticSnapshot) : Option CheckedIngest :=
  let key := diagnosticKey agentId pid
  let isNewKey := decide (key ∉ store.snapshots)
  let valid := newSnapshots.filter fun snap => (validateSnapshot snap).isNone
  if valid = [] then none else some ⟨key, isNewKey, valid⟩

/-- The entry of a key with more snapshots, without the excess at its front. -/
def appended (store : DiagnosticSnapshotStore) (key : String)
    (newSnapshots : List DiagnosticSnapshot) : List DiagnosticSnapshot :=
  let entry := (store.snapshots.lookup key).getD [] ++ newSnapshots
  entry.drop (entry.length - store.maxEntriesPerDll)

/-- The second step: the entry of the key is there or made. -/
def append (store : DiagnosticSnapshotStore) (call : CheckedIngest) : DiagnosticSnapshotStore :=
  { store with
    snapshots := store.snapshots.insert call.key (store.appended call.key call.newSnapshots) }

/-- The third step, for a new key. -/
def push (store : DiagnosticSnapshotStore) (key : String) : DiagnosticSnapshotStore :=
  let pushed := pushKey store.maxKeys store.snapshots store.keyQueue key
  { store with
    snapshots := pushed.1
    keyQueue := pushed.2 }

theorem length_appended_le (store : DiagnosticSnapshotStore) (key : String)
    (newSnapshots : List DiagnosticSnapshot) :
    (store.appended key newSnapshots).length ≤ store.maxEntriesPerDll := by
  rw [appended, List.length_drop]
  omega

end DiagnosticSnapshotStore

/-! ### Concurrent calls -/

/-- The store, the calls that have yet to append, and the keys that have yet to be queued. -/
structure DiagnosticIngests where
  store : DiagnosticSnapshotStore
  checked : List CheckedIngest
  unpushed : List String

/-- A step of one of the calls: a call begins with its check, and the others go on in any
order. -/
inductive DiagnosticStep
  | check (agentId : String) (pid : UInt32) (newSnapshots : List DiagnosticSnapshot)
  | append (index : Nat)
  | push (index : Nat)
  deriving DecidableEq

namespace DiagnosticIngests

/-- No calls yet. -/
def start (maxEntriesPerDll maxKeys : Nat) : DiagnosticIngests :=
  ⟨.withCaps maxEntriesPerDll maxKeys, [], []⟩

def next (ingests : DiagnosticIngests) : DiagnosticStep → DiagnosticIngests
  | .check agentId pid newSnapshots =>
      { ingests with
        checked := ingests.checked ++ (ingests.store.checkKey agentId pid newSnapshots).toList }
  | .append index =>
      match ingests.checked[index]? with
      | none => ingests
      | some call =>
          { store := ingests.store.append call
            checked := ingests.checked.eraseIdx index
            unpushed := ingests.unpushed ++ if call.isNewKey then [call.key] else [] }
  | .push index =>
      match ingests.unpushed[index]? with
      | none => ingests
      | some key =>
          { ingests with
            store := ingests.store.push key
            unpushed := ingests.unpushed.eraseIdx index }

/-- All calls have returned. -/
def allReturned (ingests : DiagnosticIngests) : Prop :=
  ingests.checked = [] ∧ ingests.unpushed = []

instance (ingests : DiagnosticIngests) : Decidable ingests.allReturned :=
  inferInstanceAs (Decidable (_ ∧ _))

end DiagnosticIngests

end DlpSystem.Server
