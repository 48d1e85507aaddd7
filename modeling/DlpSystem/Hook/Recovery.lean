import DlpSystem.Hook.Decisions
import DlpSystem.Lib.EventRun

/-!
# Recovery from isolation

The hook DLL as a machine: path calls and handle calls of any thread, and ticks
of the background thread.  Everything a call meets from outside (the mapping,
the agent, the time) comes with the event, so a run ranges over all cache
contents, version words and pipe outcomes.

The state only leaves Isolated for Resync, on a tick that makes no round trip,
and the first classified call that meets Resync sets Healthy before it has made
a round trip itself.
-/

namespace DlpSystem.Hook

open Common Lib

/-- The state of the DLL in one process. -/
structure HookDll where
  mode : FailModeState
  threads : Nat → ThreadLocals

/-- The DLL after it is loaded. -/
def HookDll.new : HookDll := ⟨FailModeState.new, fun _ => ThreadLocals.new⟩

/-- What happens in the DLL. -/
inductive HookEvent
  | path (thread : Nat) (env : HookEnv) (call : PathCall)
  | handle (thread : Nat) (env : HookEnv) (call : HandleCall)
  | tick (versionWord : Option UInt64)

/-- The DLL after a call of one thread. -/
def HookDll.afterCall (dll : HookDll) (thread : Nat) (result : CallResult) : HookDll :=
  ⟨result.mode, Function.update dll.threads thread result.locals⟩

/-- One event. -/
def HookDll.next (dll : HookDll) : HookEvent → HookDll
  | .path thread env call =>
      dll.afterCall thread (classifyAndLogPath env dll.mode (dll.threads thread) call)
  | .handle thread env call =>
      dll.afterCall thread (classifyAndLogHandle env dll.mode (dll.threads thread) call)
  | .tick versionWord => { dll with mode := dll.mode.backgroundTick versionWord }

/-- The outcomes of the pipe round trips an event makes. -/
def HookDll.roundTrips (dll : HookDll) : HookEvent → List Bool
  | .path thread env call =>
      (classifyAndLogPath env dll.mode (dll.threads thread) call).roundTrips
  | .handle thread env call =>
      (classifyAndLogHandle env dll.mode (dll.threads thread) call).roundTrips
  | .tick _ => []

/-- The DLL after a run. -/
def HookDll.run (dll : HookDll) (events : List HookEvent) : HookDll :=
  events.foldl HookDll.next dll

/-- The outcomes of all round trips of a run, in order. -/
def HookDll.allRoundTrips (dll : HookDll) : List HookEvent → List Bool
  | [] => []
  | event :: events => dll.roundTrips event ++ (dll.next event).allRoundTrips events

/-- The events that are classified hook calls. -/
def HookEvent.IsClassifiedCall : HookEvent → Prop
  | .path _ env call => call.IsClassified env
  | .handle _ env call => call.IsClassified env
  | .tick _ => False

/-- A stretch that starts in Isolated and ends with the next visit to Healthy,
with no return to Isolated in between. -/
structure IsRecovery (dll : HookDll) (events : List HookEvent) : Prop where
  isolated : dll.mode.state = .isolated
  healthy : (dll.run events).mode.state = .healthy
  between : ∀ before after, before ≠ [] → after ≠ [] → events = before ++ after →
    (dll.run before).mode.state ≠ .isolated ∧ (dll.run before).mode.state ≠ .healthy

/-- Every recovery within the run has seen `ISOLATED_EXIT_HYSTERESIS` successful
round trips in a row. -/
def HystereticRecovery (events : List HookEvent) : Prop :=
  ∀ before during after, events = before ++ during ++ after →
    IsRecovery (HookDll.new.run before) during →
    List.replicate isolatedExitHysteresis.toNat true <:+:
      (HookDll.new.run before).allRoundTrips during

/-- No classified call meets the Resync state. -/
def ResyncUndisturbed : List HookEvent → Prop :=
  Each HookDll.next (fun dll event => dll.mode.state = .resync → ¬ event.IsClassifiedCall)
    HookDll.new

/-! ## Steps -/

@[simp]
theorem HookDll.run_nil (dll : HookDll) : dll.run [] = dll := rfl

@[simp]
theorem HookDll.run_cons (dll : HookDll) (event : HookEvent) (events : List HookEvent) :
    dll.run (event :: events) = (dll.next event).run events := rfl

theorem HookDll.run_append (dll : HookDll) (before after : List HookEvent) :
    dll.run (before ++ after) = (dll.run before).run after :=
  List.foldl_append

theorem HookDll.allRoundTrips_append (dll : HookDll) (before after : List HookEvent) :
    dll.allRoundTrips (before ++ after) =
      dll.allRoundTrips before ++ (dll.run before).allRoundTrips after := by
  induction before generalizing dll with
  | nil => rfl
  | cons event before ih => simp [HookDll.allRoundTrips, ih]

/-- An event that is no classified call makes no round trip. -/
theorem roundTrips_of_not_classified (dll : HookDll) {event : HookEvent}
    (passed : ¬ event.IsClassifiedCall) : dll.roundTrips event = [] := by
  cases event with
  | path thread env call => exact (classifyAndLogPath_of_not_classified _ _ passed).2
  | handle thread env call => exact (classifyAndLogHandle_of_not_classified _ _ passed).2
  | tick versionWord => rfl

/-- An event that is no classified call changes the state from Isolated to
Resync at most. -/
theorem next_of_not_classified (dll : HookDll) {event : HookEvent}
    (passed : ¬ event.IsClassifiedCall) :
    (dll.next event).mode = dll.mode ∨
      (dll.mode.state = .isolated ∧ (dll.next event).mode.state = .resync) := by
  cases event with
  | path thread env call => exact .inl (classifyAndLogPath_of_not_classified _ _ passed).1
  | handle thread env call => exact .inl (classifyAndLogHandle_of_not_classified _ _ passed).1
  | tick versionWord => exact dll.mode.backgroundTick_cases versionWord

/-- A classified call in Isolated makes no round trip and changes nothing. -/
theorem classified_of_isolated {dll : HookDll} (isolated : dll.mode.state = .isolated)
    {event : HookEvent} (classified : event.IsClassifiedCall) :
    (dll.next event).mode = dll.mode ∧ dll.roundTrips event = [] := by
  cases event with
  | path thread env call =>
      obtain ⟨-, mode, roundTrips⟩ :=
        classifyAndLogPath_of_classified dll.mode (dll.threads thread) classified
      constructor
      · apply mode.trans
        simp [PathCall.verdict, pathVerdict, isolated]
      · apply roundTrips.trans
        simp [PathCall.verdict, pathVerdict, isolated]
  | handle thread env call =>
      obtain ⟨-, mode, roundTrips⟩ :=
        classifyAndLogHandle_of_classified dll.mode (dll.threads thread) classified
      constructor
      · apply mode.trans
        simp [HandleCall.verdict, handleVerdict, isolated]
      · apply roundTrips.trans
        simp [HandleCall.verdict, handleVerdict, isolated]
  | tick versionWord => exact classified.elim

/-- One attempt right after the counters were reset ends in Healthy. -/
theorem attemptPipe_after_reset (mode : FailModeState) (answer : Option HookResponse)
    (cacheVersion : UInt64) (onError : Option DenyReturn) :
    (attemptPipe (mode.resetCounters.setState .healthy) answer cacheVersion onError).mode.state =
        .healthy ∧
      (attemptPipe (mode.resetCounters.setState .healthy) answer cacheVersion
        onError).roundTrips.length ≤ 1 := by
  cases answer with
  | some response => exact ⟨rfl, le_rfl⟩
  | none => exact ⟨rfl, le_rfl⟩

/-- A classified call in Resync ends in Healthy after one round trip at most. -/
theorem classified_of_resync {dll : HookDll} (resync : dll.mode.state = .resync)
    {event : HookEvent} (classified : event.IsClassifiedCall) :
    (dll.next event).mode.state = .healthy ∧ (dll.roundTrips event).length ≤ 1 := by
  cases event with
  | path thread env call =>
      obtain ⟨-, mode, roundTrips⟩ :=
        classifyAndLogPath_of_classified dll.mode (dll.threads thread) classified
      have arm : (call.verdict env dll.mode (dll.threads thread)).mode.state = .healthy ∧
          (call.verdict env dll.mode (dll.threads thread)).roundTrips.length ≤ 1 := by
        simp only [PathCall.verdict, pathVerdict, resync, healthyArm]
        split
        · exact ⟨rfl, Nat.zero_le 1⟩
        · exact attemptPipe_after_reset _ _ _ _
      exact ⟨(congrArg FailModeState.state mode).trans arm.1,
        (congrArg List.length roundTrips).trans_le arm.2⟩
  | handle thread env call =>
      obtain ⟨-, mode, roundTrips⟩ :=
        classifyAndLogHandle_of_classified dll.mode (dll.threads thread) classified
      have arm : (call.verdict env dll.mode).mode.state = .healthy ∧
          (call.verdict env dll.mode).roundTrips.length ≤ 1 := by
        simp only [HandleCall.verdict, handleVerdict, resync]
        exact attemptPipe_after_reset _ _ _ _
      exact ⟨(congrArg FailModeState.state mode).trans arm.1,
        (congrArg List.length roundTrips).trans_le arm.2⟩
  | tick versionWord => exact classified.elim

/-- An attempt made in Healthy or Degraded does not lead to Resync. -/
theorem attemptPipe_ne_resync {mode : FailModeState} (answer : Option HookResponse)
    (cacheVersion : UInt64) (onError : Option DenyReturn)
    (connected : mode.state = .healthy ∨ mode.state = .degraded) :
    (attemptPipe mode answer cacheVersion onError).mode.state ≠ .resync := by
  cases answer with
  | some response =>
      change (mode.recordPipeSuccess cacheVersion).state ≠ .resync
      rcases FailModeState.recordPipeSuccess_connected cacheVersion connected with state | state
      · rw [state]
        decide
      · rw [state]
        decide
  | none => exact mode.recordPipeFailure_ne_resync

theorem healthyArm_ne_resync {mode : FailModeState} (cached : Option Classification) (skip : Bool)
    (op : HookOp) (cacheVersion : UInt64) (answer : Option HookResponse)
    (healthy : mode.state = .healthy) :
    (healthyArm mode cached skip op cacheVersion answer).mode.state ≠ .resync := by
  unfold healthyArm
  split
  · dsimp only
    rw [healthy]
    decide
  · exact attemptPipe_ne_resync _ _ _ (.inl healthy)

theorem degradedArm_ne_resync {mode : FailModeState} (cached : Option Classification)
    (skip : Bool) (op : HookOp) (cacheVersion : UInt64) (answer : Option HookResponse)
    (degraded : mode.state = .degraded) :
    (degradedArm mode cached skip op cacheVersion answer).mode.state ≠ .resync := by
  have throttled : mode.shouldRetryPipe.2.state = .degraded := by
    rw [FailModeState.shouldRetryPipe_state, degraded]
  unfold degradedArm
  split
  · dsimp only
    rw [degraded]
    decide
  · exact attemptPipe_ne_resync _ _ _ (.inr degraded)
  · dsimp only
    split
    · exact attemptPipe_ne_resync _ _ _ (.inr throttled)
    · dsimp only
      rw [throttled]
      decide

theorem pathVerdict_ne_resync (mode : FailModeState) (cached : Option Classification)
    (skip : Bool) (op : HookOp) (cacheVersion : UInt64) (answer : Option HookResponse) :
    (pathVerdict mode cached skip op cacheVersion answer).mode.state ≠ .resync := by
  unfold pathVerdict
  split
  · rename_i healthy
    exact healthyArm_ne_resync _ _ _ _ _ healthy
  · rename_i degraded
    exact degradedArm_ne_resync _ _ _ _ _ degraded
  · rename_i isolated
    dsimp only
    rw [isolated]
    decide
  · exact healthyArm_ne_resync _ _ _ _ _ rfl

theorem handleVerdict_ne_resync (mode : FailModeState) (op : HookOp)
    (answer : Option HookResponse) : (handleVerdict mode op answer).mode.state ≠ .resync := by
  unfold handleVerdict
  split
  · rename_i healthy
    exact attemptPipe_ne_resync _ _ _ (.inl healthy)
  · rename_i degraded
    have throttled : mode.shouldRetryPipe.2.state = .degraded := by
      rw [FailModeState.shouldRetryPipe_state, degraded]
    dsimp only
    split
    · exact attemptPipe_ne_resync _ _ _ (.inr throttled)
    · dsimp only
      rw [throttled]
      decide
  · rename_i isolated
    dsimp only
    rw [isolated]
    decide
  · exact attemptPipe_ne_resync _ _ _ (.inl rfl)

/-- Only a tick in Isolated enters Resync, and only events that are no classified
calls stay there. -/
theorem before_resync {dll : HookDll} {event : HookEvent}
    (resync : (dll.next event).mode.state = .resync) :
    ¬ event.IsClassifiedCall ∧ (dll.mode.state = .resync ∨ dll.mode.state = .isolated) := by
  have passed : ¬ event.IsClassifiedCall := by
    intro classified
    cases event with
    | path thread env call =>
        obtain ⟨-, mode, -⟩ :=
          classifyAndLogPath_of_classified dll.mode (dll.threads thread) classified
        exact pathVerdict_ne_resync _ _ _ _ _ _
          ((congrArg FailModeState.state mode).symm.trans resync)
    | handle thread env call =>
        obtain ⟨-, mode, -⟩ :=
          classifyAndLogHandle_of_classified dll.mode (dll.threads thread) classified
        exact handleVerdict_ne_resync _ _ _
          ((congrArg FailModeState.state mode).symm.trans resync)
    | tick versionWord => exact classified
  refine ⟨passed, ?_⟩
  rcases next_of_not_classified dll passed with unchanged | entered
  · exact .inl (unchanged ▸ resync)
  · exact .inr entered.1

/-! ## Runs -/

/-- A DLL in Resync was Isolated before, has been in Resync since, and has made
no round trip in that time. -/
theorem resync_history {events : List HookEvent}
    (resync : (HookDll.new.run events).mode.state = .resync) :
    ∃ before during, events = before ++ during ∧
      (HookDll.new.run before).mode.state = .isolated ∧
      (∀ first second, first ≠ [] → during = first ++ second →
        ((HookDll.new.run before).run first).mode.state = .resync) ∧
      (HookDll.new.run before).allRoundTrips during = [] := by
  induction events using List.reverseRecOn with
  | nil => exact absurd resync (by decide)
  | append_singleton events event ih =>
      have resyncNext : ((HookDll.new.run events).next event).mode.state = .resync := by
        rw [HookDll.run_append] at resync
        exact resync
      rcases before_resync resyncNext with ⟨passed, state⟩
      rcases state with already | isolated
      · rcases ih already with ⟨before, during, rfl, isolated, stays, silent⟩
        refine ⟨before, during ++ [event], List.append_assoc _ _ _, isolated, ?_, ?_⟩
        · intro first second nonempty split
          rcases List.eq_nil_or_concat second with rfl | ⟨rest, last, rfl⟩
          · have whole : first = during ++ [event] := by simpa using split.symm
            rw [whole, ← HookDll.run_append, ← List.append_assoc]
            exact resync
          · have halves : during = first ++ rest ∧ [event] = [last] := by
              apply List.append_inj' (by simpa using split)
              rfl
            exact stays first rest nonempty halves.1
        · rw [HookDll.allRoundTrips_append, silent]
          simp [HookDll.allRoundTrips, roundTrips_of_not_classified _ passed]
      · refine ⟨events, [event], rfl, isolated, ?_, ?_⟩
        · intro first second nonempty split
          cases first with
          | nil => exact absurd rfl nonempty
          | cons head tail =>
              have parts : event = head ∧ [] = tail ++ second := by simpa using split
              obtain ⟨rfl, rfl⟩ : head = event ∧ tail = [] :=
                ⟨parts.1.symm, (List.append_eq_nil_iff.mp parts.2.symm).1⟩
              exact resyncNext
        · simp [HookDll.allRoundTrips, roundTrips_of_not_classified _ passed]

/-- While no classified call meets Resync, isolation does not end in Healthy. -/
theorem isolated_stays {dll : HookDll} {events : List HookEvent}
    (undisturbed : Each HookDll.next
      (fun dll event => dll.mode.state = .resync → ¬ event.IsClassifiedCall) dll events)
    (isolated : dll.mode.state = .isolated) :
    (dll.run events).mode.state = .isolated ∨ (dll.run events).mode.state = .resync := by
  have step : ∀ (dll : HookDll) (event : HookEvent),
      (dll.mode.state = .isolated ∨ dll.mode.state = .resync) →
      (dll.mode.state = .resync → ¬ event.IsClassifiedCall) →
      ((dll.next event).mode.state = .isolated ∨ (dll.next event).mode.state = .resync) := by
    intro dll event state quiet
    by_cases classified : event.IsClassifiedCall
    · rcases state with isolated | resync
      · exact .inl (by rw [(classified_of_isolated isolated classified).1, isolated])
      · exact absurd classified (quiet resync)
    · rcases next_of_not_classified dll classified with unchanged | entered
      · rw [unchanged]
        exact state
      · exact .inr entered.2
  exact undisturbed.invariant step (.inl isolated)

/-- A run in which every recovery is hysteretic is one in which no classified
call meets Resync: the first such call ends the isolation at once. -/
theorem hystereticRecovery_iff (events : List HookEvent) :
    HystereticRecovery events ↔ ResyncUndisturbed events := by
  constructor
  · intro hysteretic
    apply (each_iff_cuts _ _).mpr
    rintro before event after rfl resync classified
    rcases resync_history resync with ⟨earlier, during, rfl, isolated, stays, silent⟩
    have state : ((HookDll.new.run earlier).run during).mode.state = .resync := by
      rw [← HookDll.run_append]
      exact resync
    rcases classified_of_resync state classified with ⟨healthy, short⟩
    have recovery : IsRecovery (HookDll.new.run earlier) (during ++ [event]) := by
      refine ⟨isolated, ?_, ?_⟩
      · rw [HookDll.run_append]
        exact healthy
      · intro first second firstNonempty secondNonempty split
        rcases List.eq_nil_or_concat second with rfl | ⟨rest, last, rfl⟩
        · exact absurd rfl secondNonempty
        · have halves : during = first ++ rest ∧ [event] = [last] := by
            apply List.append_inj' (by simpa using split)
            rfl
          have still := stays first rest firstNonempty halves.1
          rw [still]
          decide
    have enough := hysteretic earlier (during ++ [event]) after (by simp) recovery
    rw [HookDll.allRoundTrips_append, silent] at enough
    have five := enough.length_le
    simp only [List.length_replicate, List.nil_append, HookDll.allRoundTrips,
      List.append_nil] at five
    exact absurd (five.trans short) (by decide)
  · rintro undisturbed before during after rfl recovery
    have part := ((each_append _ _ _).mp ((each_append _ _ _).mp undisturbed).1).2
    rcases isolated_stays part recovery.isolated with state | state
    · exact absurd (state.symm.trans recovery.healthy) (by decide)
    · exact absurd (state.symm.trans recovery.healthy) (by decide)

/-- A write through a handle while the agent is down. -/
def blindWrite : HookEvent :=
  .handle 0 { freshEnv unreachableAgent with cache := none } ⟨1, ascii "WRITE", 2, []⟩

/-- The calls that isolate a hook: three failed round trips degrade it, and from
there every tenth call fails one more until there are ten. -/
def isolatingCalls : List HookEvent := List.replicate 73 blindWrite

/-- A fresh cache version and one more failing call bring the hook from Isolated
to Healthy. -/
theorem not_hystereticRecovery_blindWrites :
    ¬ HystereticRecovery (isolatingCalls ++ [.tick (some 4), blindWrite]) := by
  intro hysteretic
  have isolated : (HookDll.new.run isolatingCalls).mode.state = .isolated := by decide +kernel
  have healthy : ((HookDll.new.run isolatingCalls).run [.tick (some 4), blindWrite]).mode.state =
      .healthy := by decide +kernel
  have resync : ((HookDll.new.run isolatingCalls).run [.tick (some 4)]).mode.state = .resync := by
    decide +kernel
  have trips : ((HookDll.new.run isolatingCalls).allRoundTrips
      [.tick (some 4), blindWrite]).length = 1 := by decide +kernel
  have recovery : IsRecovery (HookDll.new.run isolatingCalls) [.tick (some 4), blindWrite] := by
    refine ⟨isolated, healthy, ?_⟩
    intro first second firstNonempty secondNonempty split
    match first, second with
    | [], _ => exact absurd rfl firstNonempty
    | [_], _ =>
        rcases List.cons.inj split with ⟨rfl, -⟩
        rw [resync]
        decide
    | _ :: _ :: _, [] => exact absurd rfl secondNonempty
    | _ :: _ :: _, _ :: _ => simp at split
  have enough := hysteretic isolatingCalls [.tick (some 4), blindWrite] [] (by simp) recovery
  have five := enough.length_le
  rw [trips, List.length_replicate] at five
  exact absurd five (by decide)

end DlpSystem.Hook
