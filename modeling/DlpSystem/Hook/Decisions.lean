import DlpSystem.Agent.CacheWriter
import DlpSystem.Hook.Trampoline

/-!
# What a hook call decides

Two results over every fail-mode state, every cache content and every agent:
what a write call decides when the agent cannot be reached, and when the
decision of a Healthy hook can disagree with the answer of the agent.
-/

namespace DlpSystem.Hook

open Common Agent

/-! ## The agent cannot be reached -/

/-- A round trip that was made and failed ends in the error leaf. -/
theorem attemptPipe_of_failed {mode : FailModeState} {answer : Option HookResponse}
    {cacheVersion : UInt64} {onError : Option DenyReturn}
    (failed : ∀ outcome ∈ (attemptPipe mode answer cacheVersion onError).roundTrips,
      outcome = false) :
    (attemptPipe mode answer cacheVersion onError).decision = onError := by
  cases answer with
  | some response => exact absurd (failed true List.mem_cons_self) (by decide)
  | none => rfl

theorem decideCached_write_ne_none {classification : Classification}
    (sensitive : ¬ IsLowTier (some classification)) :
    decideCached classification .write ≠ none := by
  intro allowed
  rcases (decideCached_eq_none_iff classification .write).mp allowed with read | low
  · exact absurd read (by decide)
  · exact sensitive low

theorem decideIsolated_write_ne_none {cached : Option Classification}
    (sensitive : ¬ IsLowTier cached) : decideIsolated cached .write ≠ none :=
  fun allowed => sensitive ((decideIsolated_write_eq_none_iff cached).mp allowed)

section FailClosed

variable {mode : FailModeState} {cached : Option Classification} {skip : Bool}
  {cacheVersion : UInt64} {answer : Option HookResponse}

theorem healthyArm_fails_closed (sensitive : ¬ IsLowTier cached)
    (failed : ∀ outcome ∈ (healthyArm mode cached skip .write cacheVersion answer).roundTrips,
      outcome = false) :
    (healthyArm mode cached skip .write cacheVersion answer).decision ≠ none := by
  revert failed
  unfold healthyArm
  split
  · exact fun _ => decideCached_write_ne_none sensitive
  · intro failed
    rw [attemptPipe_of_failed failed]
    simp

theorem degradedArm_fails_closed (sensitive : ¬ IsLowTier cached)
    (failed : ∀ outcome ∈ (degradedArm mode cached skip .write cacheVersion answer).roundTrips,
      outcome = false) :
    (degradedArm mode cached skip .write cacheVersion answer).decision ≠ none := by
  revert failed
  unfold degradedArm
  split
  · exact fun _ => decideCached_write_ne_none sensitive
  · intro failed
    rw [attemptPipe_of_failed failed, decideDegraded_eq]
    exact decideIsolated_write_ne_none sensitive
  · dsimp only
    split
    · intro failed
      rw [attemptPipe_of_failed failed, decideDegraded_eq]
      exact decideIsolated_write_ne_none sensitive
    · intro _
      rw [decideDegraded_eq]
      exact decideIsolated_write_ne_none sensitive

/-- All four arms of a path call fail closed. -/
theorem pathVerdict_fails_closed (sensitive : ¬ IsLowTier cached)
    (failed : ∀ outcome ∈ (pathVerdict mode cached skip .write cacheVersion answer).roundTrips,
      outcome = false) :
    (pathVerdict mode cached skip .write cacheVersion answer).decision ≠ none := by
  revert failed
  unfold pathVerdict
  split
  · exact healthyArm_fails_closed sensitive
  · exact degradedArm_fails_closed sensitive
  · exact fun _ => decideIsolated_write_ne_none sensitive
  · exact healthyArm_fails_closed sensitive

/-- All four arms of a handle call fail closed. -/
theorem handleVerdict_fails_closed
    (failed : ∀ outcome ∈ (handleVerdict mode .write answer).roundTrips, outcome = false) :
    (handleVerdict mode .write answer).decision ≠ none := by
  revert failed
  unfold handleVerdict
  split
  · intro failed
    rw [attemptPipe_of_failed failed]
    simp
  · dsimp only
    split
    · intro failed
      rw [attemptPipe_of_failed failed]
      simp
    · exact fun _ => by simp [decideIsolated]
  · exact fun _ => by simp [decideIsolated]
  · intro failed
    rw [attemptPipe_of_failed failed]
    simp

end FailClosed

/-- A write call whose pipe attempts all fail is denied: a path call unless the
classification it found is T1 or T2, a handle call always. -/
theorem write_denied_of_unreachable (env : HookEnv) (mode : FailModeState)
    (locals : ThreadLocals) (active : env.shuttingDown = false) :
    (∀ call : PathCall, isWriteAction call.action = true →
      isAllowlisted env.target call.path env.cache = false →
      (∀ outcome ∈ (classifyAndLogPath env mode locals call).roundTrips, outcome = false) →
      ¬ IsLowTier (call.cached env locals) →
      (classifyAndLogPath env mode locals call).decision ≠ none) ∧
    (∀ call : HandleCall, isWriteAction call.action = true →
      (call.path ≠ [] → isAllowlisted env.target call.path env.cache = false) →
      (∀ outcome ∈ (classifyAndLogHandle env mode locals call).roundTrips, outcome = false) →
      (classifyAndLogHandle env mode locals call).decision ≠ none) := by
  constructor
  · intro call write notAllowed failed sensitive
    obtain ⟨decision, -, roundTrips⟩ :=
      classifyAndLogPath_of_classified mode locals ⟨active, notAllowed⟩
    have op : opOf call.action = .write := if_pos write
    rw [roundTrips, PathCall.verdict, op] at failed
    rw [decision, PathCall.verdict, op]
    exact pathVerdict_fails_closed sensitive failed
  · intro call write notAllowed failed
    obtain ⟨decision, -, roundTrips⟩ :=
      classifyAndLogHandle_of_classified mode locals ⟨active, notAllowed⟩
    have op : opOf call.action = .write := if_pos write
    rw [roundTrips, HandleCall.verdict, op] at failed
    rw [decision, HandleCall.verdict, op]
    exact handleVerdict_fails_closed failed

/-- An agent that cannot be reached. -/
def unreachableAgent : PipeClient := ⟨fun _ _ _ _ => none, fun _ _ => none⟩

/-- An agent that denies everything. -/
def denyingAgent : PipeClient :=
  ⟨fun _ _ _ _ => some ⟨.deny, none⟩, fun _ _ => some ⟨.deny, none⟩⟩

/-- A 64-bit hook on a freshly initialised mapping in Block mode. -/
def freshEnv (pipe : PipeClient) : HookEnv where
  target := .x64
  shuttingDown := false
  cache := some (initHeader .block Mapping.zero)
  nowSecs := 1000
  resolveVolumeClass := fun _ => none
  pipe := pipe

/-- A write to `C:\DATA\PLAN.TXT`. -/
def planWrite : PathCall where
  path := ascii "C:\\DATA\\PLAN.TXT"
  action := ascii "WRITE"
  handleValue := 0
  journalOp := 2
  sourceVolumeClass := none
  destinationVolumeClass := none

theorem planWrite_denied_of_unreachable :
    (classifyAndLogPath { freshEnv unreachableAgent with cache := none } .new .new
      planWrite).decision ≠ none :=
  (write_denied_of_unreachable { freshEnv unreachableAgent with cache := none } .new .new rfl).1
    planWrite (by decide) (by decide) (by decide) (by decide)

/-! ## The answer of the agent -/

/-- A Healthy hook whose agent answers a classified path call with a denial that
nobody has overridden denies the call exactly if nothing is cached for the path,
or a global Audit override is in force, or the call writes to a path cached as
T3 or T4. -/
theorem healthy_follows_denial_iff (env : HookEnv) (mode : FailModeState)
    (locals : ThreadLocals) (call : PathCall) (response : HookResponse)
    (healthy : mode.state = .healthy) (classified : call.IsClassified env)
    (answered : call.answer env = some response) (denied : response.decision.isDenied = true)
    (notOverridden : response.approvalOverride ≠ some true) :
    (classifyAndLogPath env mode locals call).decision ≠ none ↔
      (call.cached env locals = none ∨ auditOverride env.cache = true ∨
        (isWriteAction call.action = true ∧ ¬ IsLowTier (call.cached env locals))) := by
  rcases classifyAndLogPath_of_classified mode locals classified with ⟨decision, -, -⟩
  have refused : decisionOfAnswer response = some .boolFalse := by
    unfold decisionOfAnswer
    rw [if_neg, if_neg]
    · exact fun overridden => notOverridden overridden.2
    · rintro (allow | allow) <;> rw [allow] at denied <;> exact absurd denied (by decide)
  rw [decision, PathCall.verdict, pathVerdict, healthy]
  dsimp only
  rw [answered]
  cases found : call.cached env locals with
  | none => simp [healthyArm, attemptPipe, refused]
  | some classification =>
      cases audit : auditOverride env.cache with
      | true => simp [healthyArm, attemptPipe, refused]
      | false =>
          simp only [healthyArm, ne_eq, decideCached_eq_none_iff, reduceCtorEq, false_or,
            Bool.false_eq_true]
          cases write : isWriteAction call.action with
          | true => simp [opOf, write]
          | false => simp [opOf, write]

/-- A thread that has met `C:\DATA\PLAN.TXT` as T1 data. -/
def planPublicLocals : ThreadLocals :=
  ⟨LruCache.new.insert planWrite.path .T1 1, 1⟩

/-- The agent denies a write to a path cached as T1, the hook lets it through. -/
theorem planWrite_allowed_despite_denial :
    planWrite.IsClassified (freshEnv denyingAgent) ∧
      planWrite.answer (freshEnv denyingAgent) = some ⟨.deny, none⟩ ∧
      (classifyAndLogPath (freshEnv denyingAgent) .new planPublicLocals planWrite).decision =
        none := by
  refine ⟨by decide, rfl, ?_⟩
  decide

theorem planWrite_denied_uncached :
    (classifyAndLogPath { freshEnv denyingAgent with cache := none } .new .new
      planWrite).decision ≠ none :=
  (healthy_follows_denial_iff { freshEnv denyingAgent with cache := none } .new .new planWrite
    ⟨.deny, none⟩ rfl (by decide) rfl rfl (by decide)).mpr (.inl rfl)

end DlpSystem.Hook
