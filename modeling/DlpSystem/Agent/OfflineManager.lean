import DlpSystem.Common.Abac
import DlpSystem.Common.PathHash
import Mathlib.Logic.Function.Basic

/-!
# Decisions without the Policy Engine

`OfflineManager`: the engine is asked while it is reachable, and its answers are kept in
a cache by path and user.  When it cannot be reached the cache answers, and on a miss the
classification of the resource.
-/

namespace DlpSystem.Agent

open Abac
open Common (fnv1a64)

/-! ## Requests -/

/-- `Action`. -/
inductive Action
  | read
  | write
  | copy
  | delete
  | move
  | paste
  | policyCreate
  | policyUpdate
  | policyDelete
  | passwordChange
  | diskRegistryAdd
  | diskRegistryRemove
  | dragDrop
  | cloudUpload
  | print
  | shareLink
  | labelCreate
  | labelUpdate
  | labelConfirm
  | labelReject
  | labelDelete
  | labelExpire
  | allowlistCreate
  | allowlistUpdate
  | allowlistDelete
  deriving DecidableEq

/-- `AgentInfo`. -/
structure AgentInfo where
  machineName : Option String
  currentUser : Option String
  deriving DecidableEq

/-- `EvaluateRequest`, with the subject's identity beside its other attributes. -/
structure EvaluateRequest where
  userSid : String
  userName : String
  subject : Subject
  resource : Resource
  timestamp : Int
  sessionId : Nat
  accessContext : AccessContext
  action : Action
  agent : Option AgentInfo
  sourceApplication : Option AppIdentity
  destinationApplication : Option AppIdentity
  sourceOrigin : Option String
  destinationOrigin : Option String
  sourceVolumeClass : Option VolumeClass
  destinationVolumeClass : Option VolumeClass
  deriving DecidableEq

/-- `Classification::is_sensitive`. -/
def isSensitive : Classification → Bool
  | .T3 => true
  | .T4 => true
  | _ => false

/-! ## The decision cache -/

/-- `hash_str`. -/
def hashStr (text : String) : UInt64 :=
  fnv1a64 text.toUTF8.toList

/-- `CacheKey`. -/
structure DecisionKey where
  resourceHash : UInt64
  subjectHash : UInt64
  deriving DecidableEq

/-- The key of a path and a user. -/
def decisionKey (resourcePath userSid : String) : DecisionKey :=
  ⟨hashStr resourcePath, hashStr userSid⟩

/-- `CacheEntry`, with its `Instant` in milliseconds. -/
structure DecisionEntry where
  response : EvaluateResponse
  expiresAt : Nat
  deriving DecidableEq

/-- `CacheEntry::is_expired`. -/
def DecisionEntry.isExpired (entry : DecisionEntry) (now : Nat) : Bool :=
  now > entry.expiresAt

/-- `Cache`. -/
structure DecisionCache where
  inner : DecisionKey → Option DecisionEntry
  ttl : Nat

namespace DecisionCache

/-- `Cache::with_ttl`. -/
def withTtl (ttl : Nat) : DecisionCache :=
  ⟨fun _ => none, ttl⟩

/-- `Cache::new`: answers are kept for a minute. -/
def new : DecisionCache :=
  withTtl (60 * 1000)

/-- The entry under a key that has not expired. -/
def fresh (cache : DecisionCache) (now : Nat) (key : DecisionKey) : Option DecisionEntry :=
  (cache.inner key).filter fun entry => !entry.isExpired now

/-- `Cache::get`, with the cache it leaves: the expired entries go, and the entry that
answers goes with them. -/
def get (cache : DecisionCache) (now : Nat) (resourcePath userSid : String) :
    Option EvaluateResponse × DecisionCache :=
  let key := decisionKey resourcePath userSid
  ((cache.fresh now key).map DecisionEntry.response,
    { cache with inner := Function.update (cache.fresh now) key none })

/-- `Cache::insert`. -/
def insert (cache : DecisionCache) (now : Nat) (resourcePath userSid : String)
    (response : EvaluateResponse) : DecisionCache :=
  { cache with
    inner := Function.update cache.inner (decisionKey resourcePath userSid)
      (some ⟨response, now + cache.ttl⟩) }

/-- `Cache::clear`. -/
def clear (cache : DecisionCache) : DecisionCache :=
  { cache with inner := fun _ => none }

/-- `Cache::evict_expired`. -/
def evictExpired (cache : DecisionCache) (now : Nat) : DecisionCache :=
  { cache with inner := cache.fresh now }

end DecisionCache

/-- `fail_closed_response`. -/
def failClosedResponse (classification : Classification) : EvaluateResponse :=
  if isSensitive classification then
    ⟨.deny, none, "Fail-closed: no cached decision for sensitive resource", none, true, none⟩
  else ⟨.allow, none, "Cache miss: default allow for non-sensitive resource", none, false, none⟩

/-! ## The manager -/

/-- `OfflineManager`. -/
structure OfflineManager where
  online : Bool
  cache : DecisionCache

/-- How the call of the engine ends. -/
inductive EngineOutcome
  | answered (response : EvaluateResponse)
  | unreachable
  | otherError
  deriving DecidableEq

namespace OfflineManager

/-- `offline_decision`, with the manager it leaves. -/
def offlineDecision (manager : OfflineManager) (now : Nat) (request : EvaluateRequest) :
    EvaluateResponse × OfflineManager :=
  match manager.cache.get now request.resource.path request.userSid with
  | (some cached, left) => (cached, { manager with cache := left })
  | (none, left) =>
      (failClosedResponse request.resource.classification, { manager with cache := left })

/-- A fresh entry answers and goes, or the classification decides. -/
theorem offlineDecision_eq (manager : OfflineManager) (now : Nat) (request : EvaluateRequest) :
    manager.offlineDecision now request =
      (((manager.cache.fresh now (decisionKey request.resource.path request.userSid)).map
          DecisionEntry.response).getD (failClosedResponse request.resource.classification),
        { manager with
          cache := (manager.cache.get now request.resource.path request.userSid).2 }) := by
  have answer : (manager.cache.get now request.resource.path request.userSid).1 =
      (manager.cache.fresh now (decisionKey request.resource.path request.userSid)).map
        DecisionEntry.response := rfl
  rw [← answer, offlineDecision]
  rcases manager.cache.get now request.resource.path request.userSid with ⟨found, left⟩
  cases found with
  | none => rfl
  | some cached => rfl

/-- The part of `evaluate` after the call of the engine. -/
def afterEngine (manager : OfflineManager) (now : Nat) (request : EvaluateRequest) :
    EngineOutcome → EvaluateResponse × OfflineManager
  | .answered response =>
      (response,
        { manager with
          cache := manager.cache.insert now request.resource.path request.userSid response })
  | .unreachable => { manager with online := false }.offlineDecision now request
  | .otherError => manager.offlineDecision now request

/-- `evaluate`, with the outcome that a call of the engine has. -/
def evaluate (manager : OfflineManager) (now : Nat) (request : EvaluateRequest)
    (outcome : EngineOutcome) : EvaluateResponse × OfflineManager :=
  if manager.online then manager.afterEngine now request outcome
  else manager.offlineDecision now request

end OfflineManager

end DlpSystem.Agent
