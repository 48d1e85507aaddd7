import DlpSystem.Agent.OfflineManager
import DlpSystem.Lib.EventRun

/-!
# Where offline answers come from

Calls of `evaluate` interleave at the call of the engine.  The engine is any function of
the request.  A cached answer is an answer of the engine to an earlier request for the
same path and the same user; nothing else of that request is part of the key.
-/

namespace DlpSystem.Offline

open Abac Agent Lib

/-- How the engine can be reached by a call. -/
inductive Reach
  | reached
  | unreachable
  | otherError
  deriving DecidableEq

/-- The outcome of a call, for an engine that decides by a function of the request. -/
def outcomeOf (engine : EvaluateRequest → EvaluateResponse) (request : EvaluateRequest) :
    Reach → EngineOutcome
  | .reached => .answered (engine request)
  | .unreachable => .unreachable
  | .otherError => .otherError

/-- An answer of `offline_decision`, and whether the cache gave it. -/
structure OfflineAnswer where
  request : EvaluateRequest
  response : EvaluateResponse
  hit : Bool
  now : Nat
  deriving DecidableEq

/-- The manager between the steps of its calls, with what the engine and
`offline_decision` have answered. -/
structure OfflineServer where
  manager : OfflineManager
  /-- The calls that wait for the engine. -/
  pending : List EvaluateRequest
  engineAnswers : List (EvaluateRequest × Nat)
  offlineAnswers : List OfflineAnswer

/-- A step of a call, or of the heartbeat. -/
inductive OfflineStep
  /-- `evaluate` looks whether the engine is reachable. -/
  | call (request : EvaluateRequest) (now : Nat)
  /-- The engine's answer to a waiting call, or its failure. -/
  | engineReturns (index : Nat) (reach : Reach) (now : Nat)
  /-- The heartbeat's probe. -/
  | probe (reached : Bool)
  deriving DecidableEq

namespace OfflineServer

/-- `offline_decision` answers a call. -/
def answerOffline (server : OfflineServer) (manager : OfflineManager) (request : EvaluateRequest)
    (now : Nat) : OfflineServer :=
  { server with
    manager := (manager.offlineDecision now request).2
    offlineAnswers := server.offlineAnswers ++
      [⟨request, (manager.offlineDecision now request).1,
        (manager.cache.get now request.resource.path request.userSid).1.isSome, now⟩] }

/-- The end of a call that has waited for the engine. -/
def finish (engine : EvaluateRequest → EvaluateResponse) (server : OfflineServer)
    (request : EvaluateRequest) (now : Nat) : Reach → OfflineServer
  | .reached =>
      { server with
        manager := (server.manager.afterEngine now request (.answered (engine request))).2
        engineAnswers := server.engineAnswers ++ [(request, now)] }
  | .unreachable => server.answerOffline { server.manager with online := false } request now
  | .otherError => server.answerOffline server.manager request now

/-- The effect of a step. -/
def next (engine : EvaluateRequest → EvaluateResponse) (server : OfflineServer) :
    OfflineStep → OfflineServer
  | .call request now =>
      if server.manager.online then { server with pending := server.pending ++ [request] }
      else server.answerOffline server.manager request now
  | .engineReturns index reach now =>
      match server.pending[index]? with
      | none => server
      | some request =>
          { server with pending := server.pending.eraseIdx index }.finish engine request now reach
  | .probe reached =>
      if reached then { server with manager := { server.manager with online := true } } else server

/-- A manager that starts, with nothing cached. -/
def start (ttl : Nat) : OfflineServer :=
  ⟨⟨true, .withTtl ttl⟩, [], [], []⟩

/-- A call that nobody interrupts is `evaluate`. -/
theorem call_uninterrupted (engine : EvaluateRequest → EvaluateResponse) (manager : OfflineManager)
    (request : EvaluateRequest) (now : Nat) (reach : Reach) :
    ([OfflineStep.call request now, .engineReturns 0 reach now].foldl (next engine)
        ⟨manager, [], [], []⟩).manager =
      (manager.evaluate now request (outcomeOf engine request reach)).2 := by
  rcases manager with ⟨online, cache⟩
  cases online with
  | false => rfl
  | true =>
      cases reach with
      | reached => rfl
      | unreachable => rfl
      | otherError => rfl

end OfflineServer

/-! ## The invariant -/

/-- The request that a step brings. -/
def OfflineStep.request : OfflineStep → Option EvaluateRequest
  | .call request _ => some request
  | _ => none

/-- The requests of a run. -/
def requestsOf (steps : List OfflineStep) : List EvaluateRequest :=
  steps.filterMap OfflineStep.request

/-- The keys of the requests do not collide. -/
def CollisionFree (requests : List EvaluateRequest) : Prop :=
  ∀ first ∈ requests, ∀ second ∈ requests,
    decisionKey first.resource.path first.userSid =
        decisionKey second.resource.path second.userSid →
      first.resource.path = second.resource.path ∧ first.userSid = second.userSid

section Runs

variable (engine : EvaluateRequest → EvaluateResponse) (ttl : Nat)
  (requests : List EvaluateRequest)

/-- An answer of the engine stands behind an entry. -/
def FromEngine (answers : List (EvaluateRequest × Nat)) (key : DecisionKey)
    (entry : DecisionEntry) : Prop :=
  ∃ answer ∈ answers, decisionKey answer.1.resource.path answer.1.userSid = key ∧
    entry = ⟨engine answer.1, answer.2 + ttl⟩

/-- What stands behind an answer of `offline_decision`. -/
def Backed (answers : List (EvaluateRequest × Nat)) (answer : OfflineAnswer) : Prop :=
  if answer.hit then
    ∃ entry, FromEngine engine ttl answers
        (decisionKey answer.request.resource.path answer.request.userSid) entry ∧
      answer.now ≤ entry.expiresAt ∧ answer.response = entry.response
  else answer.response = failClosedResponse answer.request.resource.classification

/-- Every entry and every offline answer has its origin. -/
structure Traced (server : OfflineServer) : Prop where
  sameTtl : server.manager.cache.ttl = ttl
  pendingKnown : ∀ request ∈ server.pending, request ∈ requests
  answeredKnown : ∀ answer ∈ server.engineAnswers, answer.1 ∈ requests
  offlineKnown : ∀ answer ∈ server.offlineAnswers, answer.request ∈ requests
  entries : ∀ key entry, server.manager.cache.inner key = some entry →
    FromEngine engine ttl server.engineAnswers key entry
  offline : ∀ answer ∈ server.offlineAnswers, Backed engine ttl server.engineAnswers answer

variable {engine ttl requests}

theorem traced_start : Traced engine ttl requests (OfflineServer.start ttl) where
  sameTtl := rfl
  pendingKnown := fun _ member => nomatch member
  answeredKnown := fun _ member => nomatch member
  offlineKnown := fun _ member => nomatch member
  entries := fun _ _ found => nomatch found
  offline := fun _ member => nomatch member

theorem FromEngine.later {answers : List (EvaluateRequest × Nat)} {key : DecisionKey}
    {entry : DecisionEntry} (origin : FromEngine engine ttl answers key entry)
    (more : List (EvaluateRequest × Nat)) : FromEngine engine ttl (answers ++ more) key entry := by
  rcases origin with ⟨answer, member, sameKey, built⟩
  exact ⟨answer, List.mem_append_left more member, sameKey, built⟩

theorem Backed.later {answers : List (EvaluateRequest × Nat)} {answer : OfflineAnswer}
    (backed : Backed engine ttl answers answer) (more : List (EvaluateRequest × Nat)) :
    Backed engine ttl (answers ++ more) answer := by
  unfold Backed at backed ⊢
  cases hit : answer.hit with
  | false => simpa [hit] using backed
  | true =>
      simp only [hit, if_true] at backed ⊢
      rcases backed with ⟨entry, origin, fresh, response⟩
      exact ⟨entry, origin.later more, fresh, response⟩

/-- What `offline_decision` does to the cache: no entry appears. -/
theorem get_entry {cache : DecisionCache} {now : Nat} {path sid : String} {key : DecisionKey}
    {entry : DecisionEntry} (found : (cache.get now path sid).2.inner key = some entry) :
    cache.inner key = some entry := by
  replace found : Function.update (cache.fresh now) (decisionKey path sid) none key =
      some entry := found
  by_cases same : key = decisionKey path sid
  · rw [same, Function.update_self] at found
    cases found
  · rw [Function.update_of_ne same] at found
    exact (Option.filter_eq_some_iff.mp found).1

/-- The answer of `offline_decision` to a call has its origin. -/
theorem Traced.answerOffline {server : OfflineServer} (traced : Traced engine ttl requests server)
    {manager : OfflineManager} (sameCache : manager.cache = server.manager.cache)
    {request : EvaluateRequest} (known : request ∈ requests) (now : Nat) :
    Traced engine ttl requests (server.answerOffline manager request now) where
  sameTtl := by
    rw [OfflineServer.answerOffline, OfflineManager.offlineDecision_eq, sameCache]
    exact traced.sameTtl
  pendingKnown := traced.pendingKnown
  answeredKnown := traced.answeredKnown
  offlineKnown := by
    intro answer member
    rcases List.mem_append.mp member with before | new
    · exact traced.offlineKnown answer before
    · cases List.mem_singleton.mp new
      exact known
  entries := by
    intro key entry found
    rw [OfflineServer.answerOffline, OfflineManager.offlineDecision_eq, sameCache] at found
    exact traced.entries key entry (get_entry found)
  offline := by
    intro answer member
    rcases List.mem_append.mp member with before | new
    · exact traced.offline answer before
    · cases List.mem_singleton.mp new
      simp only [OfflineManager.offlineDecision_eq, sameCache, Backed, DecisionCache.get,
        Option.isSome_map]
      cases fresh : server.manager.cache.fresh now
          (decisionKey request.resource.path request.userSid) with
      | none => rfl
      | some entry =>
          rcases Option.filter_eq_some_iff.mp fresh with ⟨stored, notExpired⟩
          refine ⟨entry, traced.entries _ entry stored, ?_, rfl⟩
          simpa [DecisionEntry.isExpired] using notExpired

/-- An answer of the engine is cached. -/
theorem Traced.engineAnswers {server : OfflineServer} (traced : Traced engine ttl requests server)
    {request : EvaluateRequest} (known : request ∈ requests) (now : Nat) :
    Traced engine ttl requests (server.finish engine request now .reached) where
  sameTtl := traced.sameTtl
  pendingKnown := traced.pendingKnown
  answeredKnown := by
    intro answer member
    rcases List.mem_append.mp member with before | new
    · exact traced.answeredKnown answer before
    · cases List.mem_singleton.mp new
      exact known
  offlineKnown := traced.offlineKnown
  entries := by
    intro key entry found
    replace found : Function.update server.manager.cache.inner
        (decisionKey request.resource.path request.userSid)
        (some ⟨engine request, now + server.manager.cache.ttl⟩) key = some entry := found
    by_cases same : key = decisionKey request.resource.path request.userSid
    · rw [same, Function.update_self] at found
      cases Option.some.inj found
      refine ⟨(request, now), List.mem_append_right _ (List.mem_singleton.mpr rfl), same.symm, ?_⟩
      rw [traced.sameTtl]
    · rw [Function.update_of_ne same] at found
      exact (traced.entries key entry found).later _
  offline := fun answer member => (traced.offline answer member).later _

theorem Traced.next {server : OfflineServer} (traced : Traced engine ttl requests server)
    {step : OfflineStep} (known : ∀ request ∈ step.request, request ∈ requests) :
    Traced engine ttl requests (server.next engine step) := by
  cases step with
  | call request now =>
      have isKnown : request ∈ requests := known request rfl
      simp only [OfflineServer.next]
      split
      · refine { traced with pendingKnown := ?_ }
        intro waiting member
        rcases List.mem_append.mp member with before | new
        · exact traced.pendingKnown waiting before
        · cases List.mem_singleton.mp new
          exact isKnown
      · exact traced.answerOffline rfl isKnown now
  | engineReturns index reach now =>
      simp only [OfflineServer.next]
      cases found : server.pending[index]? with
      | none => exact traced
      | some request =>
          have isKnown := traced.pendingKnown request (List.mem_of_getElem? found)
          have taken : Traced engine ttl requests
              { server with pending := server.pending.eraseIdx index } :=
            { traced with
              pendingKnown := fun waiting member =>
                traced.pendingKnown waiting (List.mem_of_mem_eraseIdx member) }
          cases reach with
          | reached => exact taken.engineAnswers isKnown now
          | unreachable =>
              have sameCache : { server.manager with online := false }.cache =
                  server.manager.cache := rfl
              exact taken.answerOffline sameCache isKnown now
          | otherError => exact taken.answerOffline rfl isKnown now
  | probe reached =>
      simp only [OfflineServer.next]
      split
      · exact ⟨traced.sameTtl, traced.pendingKnown, traced.answeredKnown, traced.offlineKnown,
          traced.entries, traced.offline⟩
      · exact traced

end Runs

/-- In every run, an allowing answer of `offline_decision` is the answer that the engine
gave, at most the time to live before, to a request for the same path and user, or the
cache had no answer and the resource is T1 or T2. -/
theorem offline_answers_backed (engine : EvaluateRequest → EvaluateResponse) (ttl : Nat)
    (steps : List OfflineStep) (distinct : CollisionFree (requestsOf steps)) :
    ∀ answer ∈ (steps.foldl (OfflineServer.next engine) (OfflineServer.start ttl)).offlineAnswers,
      answer.response.decision.isDenied = false →
        (∃ earlier ∈ (steps.foldl (OfflineServer.next engine)
            (OfflineServer.start ttl)).engineAnswers,
          earlier.1.resource.path = answer.request.resource.path ∧
          earlier.1.userSid = answer.request.userSid ∧
          answer.now ≤ earlier.2 + ttl ∧ answer.response = engine earlier.1) ∨
        (answer.hit = false ∧ (answer.request.resource.classification = .T1 ∨
          answer.request.resource.classification = .T2)) := by
  have traced : Traced engine ttl (requestsOf steps)
      (steps.foldl (OfflineServer.next engine) (OfflineServer.start ttl)) := by
    have known : Each (OfflineServer.next engine)
        (fun _ step => ∀ request ∈ step.request, request ∈ requestsOf steps)
        (OfflineServer.start ttl) steps := by
      rw [each_iff_cuts]
      rintro before step after rfl request ofStep
      exact List.mem_filterMap.mpr ⟨step, by simp, ofStep⟩
    have preserved : ∀ server step, Traced engine ttl (requestsOf steps) server →
        (∀ request ∈ step.request, request ∈ requestsOf steps) →
        Traced engine ttl (requestsOf steps) (server.next engine step) :=
      fun _ _ traced known => traced.next known
    exact known.invariant preserved traced_start
  intro answer member allowed
  have backed := traced.offline answer member
  unfold Backed at backed
  cases hit : answer.hit with
  | true =>
      simp only [hit, if_true] at backed
      rcases backed with ⟨entry, ⟨earlier, answered, sameKey, rfl⟩, fresh, response⟩
      rcases distinct _ (traced.answeredKnown earlier answered) _
        (traced.offlineKnown answer member) sameKey with ⟨samePath, sameSid⟩
      exact Or.inl ⟨earlier, answered, samePath, sameSid, fresh, response⟩
  | false =>
      simp only [hit, Bool.false_eq_true, if_false] at backed
      refine Or.inr ⟨rfl, ?_⟩
      rw [backed] at allowed
      cases tier : answer.request.resource.classification with
      | T1 => exact Or.inl rfl
      | T2 => exact Or.inr rfl
      | T3 => rw [tier] at allowed; cases allowed
      | T4 => rw [tier] at allowed; cases allowed

/-! ## A file that is read and then written -/

/-- A request of one user for one T1 file. -/
def sampleRequest (action : Action) : EvaluateRequest where
  userSid := "S-1"
  userName := "user"
  subject := ⟨[], .managed, .corporate, .healthy⟩
  resource := ⟨"C:\\a.txt", .T1⟩
  timestamp := 0
  sessionId := 1
  accessContext := .localAccess
  action := action
  agent := none
  sourceApplication := none
  destinationApplication := none
  sourceOrigin := none
  destinationOrigin := none
  sourceVolumeClass := none
  destinationVolumeClass := none

/-- An engine that allows reads only. -/
def readOnlyEngine (request : EvaluateRequest) : EvaluateResponse :=
  if request.action = .read then ⟨.allow, none, "read", none, false, none⟩
  else ⟨.deny, none, "no read", none, false, none⟩

/-- A read that the engine answers, and another request that does not reach it. -/
def readThen (action : Action) : List OfflineStep :=
  [.call (sampleRequest .read) 0, .engineReturns 0 .reached 0, .call (sampleRequest action) 1,
    .engineReturns 0 .unreachable 1]

theorem collisionFree_readThen (action : Action) :
    CollisionFree (requestsOf (readThen action)) := by
  have samples : ∀ request ∈ requestsOf (readThen action),
      request.resource.path = "C:\\a.txt" ∧ request.userSid = "S-1" := by
    intro request member
    simp only [requestsOf, readThen, List.filterMap_cons, OfflineStep.request, List.filterMap_nil,
      List.mem_cons, List.not_mem_nil, or_false] at member
    rcases member with rfl | rfl
    · exact ⟨rfl, rfl⟩
    · exact ⟨rfl, rfl⟩
  intro first isFirst second isSecond _
  exact ⟨(samples first isFirst).1.trans (samples second isSecond).1.symm,
    (samples first isFirst).2.trans (samples second isSecond).2.symm⟩

/-- The second read gets the answer of the first one. -/
theorem secondRead_backed :
    CollisionFree (requestsOf (readThen .read)) ∧
      ∃ answer ∈ ((readThen .read).foldl (OfflineServer.next readOnlyEngine)
          (OfflineServer.start 60000)).offlineAnswers,
        answer.hit = true ∧ answer.response.decision = .allow ∧
        ∃ earlier ∈ ((readThen .read).foldl (OfflineServer.next readOnlyEngine)
          (OfflineServer.start 60000)).engineAnswers,
          earlier.1.resource.path = answer.request.resource.path ∧
          earlier.1.userSid = answer.request.userSid ∧
          answer.now ≤ earlier.2 + 60000 ∧ answer.response = readOnlyEngine earlier.1 := by
  have distinct := collisionFree_readThen .read
  have answers : ((readThen .read).foldl (OfflineServer.next readOnlyEngine)
      (OfflineServer.start 60000)).offlineAnswers =
        [⟨sampleRequest .read, readOnlyEngine (sampleRequest .read), true, 1⟩] := by
    decide +kernel
  have member : (⟨sampleRequest .read, readOnlyEngine (sampleRequest .read), true, 1⟩ :
      OfflineAnswer) ∈ ((readThen .read).foldl (OfflineServer.next readOnlyEngine)
        (OfflineServer.start 60000)).offlineAnswers := by
    rw [answers]
    exact List.mem_singleton.mpr rfl
  refine ⟨distinct, _, member, rfl, rfl, ?_⟩
  rcases offline_answers_backed readOnlyEngine 60000 _ distinct _ member rfl with
    backed | ⟨missed, _⟩
  · exact backed
  · cases missed

/-- The write gets the answer of the read, although the engine denies writes. -/
theorem writeAfterRead_not_backed :
    CollisionFree (requestsOf (readThen .write)) ∧
      ∃ answer ∈ ((readThen .write).foldl (OfflineServer.next readOnlyEngine)
          (OfflineServer.start 60000)).offlineAnswers,
        answer.hit = true ∧ answer.response.decision = .allow ∧
          (readOnlyEngine answer.request).decision = .deny := by
  refine ⟨collisionFree_readThen .write, ?_⟩
  decide +kernel

end DlpSystem.Offline
