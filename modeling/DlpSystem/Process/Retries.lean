import DlpSystem.Agent.UniversalInjector
import DlpSystem.Process.Claims

/-!
# Retries of failed injections

An injection that fails with `RemoteThreadFailed` or `InjectionFailed` is to be tried once
more: its event goes to the retry queue, and the consumer hands it to `handle_retry`.  By then
the failure is in the registry under the key of the process.  `handle_retry` claims the process
as every handler does, and the claim is refused.
-/

namespace DlpSystem.Processes

open Agent Lib

variable (key : ProcessKey)

/-- What `inject` returns, if the handler calls it in its next step. -/
def injection (moment : Moment) (handler : Handler) : List (Except HookError Unit) :=
  match handler.stage with
  | .injecting => [moment.inject handler.event.pid]
  | _ => []

/-- What the calls of `inject` for the process return in one step. -/
def attempts (injector : UniversalInjector) : InjectorStep → List (Except HookError Unit)
  | .proceed index moment =>
      match injector.handlers[index]? with
      | some handler => if handler.event.key = key then injection moment handler else []
      | none => []
  | _ => []

/-- What the calls of `inject` for the process return along a run, in their order. -/
def outcomes : UniversalInjector → List InjectorStep → List (Except HookError Unit)
  | _, [] => []
  | injector, step :: steps => attempts key injector step ++ outcomes (injector.next step) steps

/-- The failures that put an event on the retry queue. -/
def isRetried : InjectionFailure → Bool
  | .remoteThreadFailed | .injectionFailed => true
  | .accessDenied | .timeout => false

/-- The call of `inject` fails in a way that is to be tried again. -/
def failsForRetry : Except HookError Unit → Bool
  | .ok () => false
  | .error error => isRetried (categorizeError error)

/-- The handler has returned before it came to an injection. -/
def isSkipped (handler : Handler) : Bool :=
  match handler.stage with
  | .skipped => true
  | _ => false

def isFinished (handler : Handler) : Bool :=
  match handler.stage with
  | .finished _ => true
  | _ => false

/-- The handlers that have claimed the process. -/
def handlersOf (injector : UniversalInjector) : List Handler :=
  injector.handlers.filter fun handler => decide (handler.event.key = key)

/-- All handlers of the process have returned, and the consumer has handed over its events. -/
def Settled (injector : UniversalInjector) : Prop :=
  (∀ handler ∈ handlersOf key injector, isSkipped handler || isFinished handler) ∧
    ∀ queued ∈ injector.retryQueue, queued.1.key ≠ key

instance (injector : UniversalInjector) : Decidable (Settled key injector) :=
  inferInstanceAs (Decidable (_ ∧ _))

/-- How often `inject` is to be called for the process: not at all when its handlers are
skipped, twice if the first call fails for a retry, else once. -/
def expectedAttempts (handlers : List Handler) (results : List (Except HookError Unit)) : Nat :=
  if handlers.all isSkipped then 0
  else if results.head?.any failsForRetry then 2
  else 1

/-- `inject` is called for the process as often as it is to be. -/
def RetriedOnce (steps : List InjectorStep) : Prop :=
  (outcomes key .new steps).length =
    expectedAttempts (handlersOf key (steps.foldl UniversalInjector.next .new))
      (outcomes key .new steps)

instance (steps : List InjectorStep) : Decidable (RetriedOnce key steps) :=
  inferInstanceAs (Decidable (_ = _))

/-- The step leaves the process in the registry if it is there. -/
def KeepsEntry (injector : UniversalInjector) (step : InjectorStep) : Prop :=
  (injector.registry.get key).isSome → ((injector.next step).registry.get key).isSome

instance (injector : UniversalInjector) (step : InjectorStep) :
    Decidable (KeepsEntry key injector step) :=
  inferInstanceAs (Decidable (_ → _))

/-! ## Room in the registry -/

theorem size_putNew_le (registry : ProcessRegistry) (other : ProcessKey) (state : ProcessState) :
    (registry.putNew other state).size ≤ registry.size + 1 := by
  change (registry.states.insert other ⟨state, registry.nextSeq⟩).entries.length ≤ _
  rw [AList.entries_insert, List.length_cons]
  exact Nat.succ_le_succ (List.kerase_sublist other registry.states.entries).length_le

theorem capEvicts_of_room {registry : ProcessRegistry} (call : RegistryCall)
    (room : registry.size < maxRegistrySize) : capEvicts key registry call = false := by
  rw [capEvicts]
  cases inserts : insertion call with
  | none => rfl
  | some inserted =>
      have few : ¬maxRegistrySize < (registry.putNew inserted.1 inserted.2).size :=
        Nat.not_lt.mpr ((size_putNew_le registry inserted.1 inserted.2).trans room)
      simp [few]

theorem registry_handleEvent (injector : UniversalInjector) (event : InjectorEvent) :
    (injector.handleEvent event).registry = injector.registry.next (.tryClaim event.key) := by
  rw [ProcessRegistry.next, UniversalInjector.handleEvent]
  split
  · rename_i answered
    rw [answered]
  · rename_i answered
    rw [answered]

theorem registry_recordFailure (injector : UniversalInjector) (event : InjectorEvent) (now : Nat)
    (failure : InjectionFailure) :
    ∃ reason, (injector.recordFailure event now failure).registry =
      injector.registry.next (.recordSkipped event.key reason) := by
  cases failure with
  | accessDenied => exact ⟨_, rfl⟩
  | remoteThreadFailed => exact ⟨_, rfl⟩
  | injectionFailed => exact ⟨_, rfl⟩
  | timeout => exact ⟨_, rfl⟩

theorem registry_proceed (injector : UniversalInjector) (event : InjectorEvent) (moment : Moment)
    (stage : HandlerStage) :
    (injector.proceed event moment stage).2.registry = injector.registry ∨
      ∃ call, (injector.proceed event moment stage).2.registry = injector.registry.next call ∧
        call ≠ .pruneExited := by
  cases stage with
  | matching =>
      rw [UniversalInjector.proceed]
      split
      · exact .inr ⟨.recordSkipped event.key _, rfl, by rintro ⟨⟩⟩
      · exact .inl rfl
  | detecting =>
      rw [UniversalInjector.proceed]
      split
      · exact .inr ⟨.recordSkipped event.key _, rfl, by rintro ⟨⟩⟩
      · exact .inr ⟨.recordSkipped event.key _, rfl, by rintro ⟨⟩⟩
      · exact .inl rfl
      · exact .inl rfl
  | injecting => exact .inl rfl
  | recording injectStart result =>
      cases result with
      | ok =>
          exact .inr ⟨.recordInjected event.key "x64" moment.now, rfl, by rintro ⟨⟩⟩
      | error error =>
          obtain ⟨reason, recorded⟩ := registry_recordFailure { injector with
            latency := injector.latency.record (injectStart - event.eventTimestamp) }
            event moment.now (categorizeError error)
          exact .inr ⟨.recordSkipped event.key reason, recorded, by rintro ⟨⟩⟩
  | skipped => exact .inl rfl
  | finished result => exact .inl rfl

/-- A step calls the registry at most once. -/
theorem registry_next_cases (injector : UniversalInjector) (step : InjectorStep) :
    (injector.next step).registry = injector.registry ∨
      ∃ call, (injector.next step).registry = injector.registry.next call ∧
        (call = .pruneExited → step = .registry .pruneExited) := by
  cases step with
  | event event =>
      exact .inr ⟨.tryClaim event.key, registry_handleEvent injector event, by rintro ⟨⟩⟩
  | retry now =>
      rw [UniversalInjector.next, UniversalInjector.consumeRetry]
      split
      · exact .inl rfl
      · rename_i event retryAt rest queue
        split
        · exact .inr ⟨.tryClaim event.key,
            registry_handleEvent { injector with retryQueue := rest } event, by rintro ⟨⟩⟩
        · exact .inl rfl
  | proceed index moment =>
      rw [UniversalInjector.next]
      split
      · exact .inl rfl
      · rename_i handler found
        rcases registry_proceed injector handler.event moment handler.stage with
          same | ⟨call, called, other⟩
        · exact .inl same
        · exact .inr ⟨call, called, fun prune => absurd prune other⟩
  | registry call => exact .inr ⟨call, rfl, fun prune => by rw [prune]⟩

/-- As long as the registry has room, only a prune removes the process. -/
theorem keepsEntry_of_room {injector : UniversalInjector} {step : InjectorStep}
    (room : injector.registry.size < maxRegistrySize)
    (unpruned : step ≠ .registry .pruneExited) : KeepsEntry key injector step := by
  intro present
  rcases registry_next_cases injector step with same | ⟨call, called, prune⟩
  · rwa [same]
  · rw [called]
    rw [Option.isSome_iff_ne_none] at present ⊢
    exact present_next (capEvicts_of_room key call room)
      (fun pruned => absurd (prune pruned) unpruned) present

/-! ## Steps -/

/-- What `inject` has returned to the handler. -/
def resultsOf (handler : Handler) : List (Except HookError Unit) :=
  match handler.stage with
  | .recording _ result | .finished result => [result]
  | _ => []

/-- At most one handler has claimed the process, which is in the registry then, and `inject`
was called by no other handler. -/
def ClaimedOnce (injector : UniversalInjector) (results : List (Except HookError Unit)) : Prop :=
  handlersOf key injector = [] ∧ results = [] ∨
    ∃ handler, handlersOf key injector = [handler] ∧ results = resultsOf handler ∧
      (injector.registry.get key).isSome

section Steps

variable {key : ProcessKey} {injector : UniversalInjector}

theorem resultsOf_proceed (handler : Handler) (moment : Moment) :
    resultsOf { handler with
        stage := (injector.proceed handler.event moment handler.stage).1 } =
      resultsOf handler ++ injection moment handler := by
  rcases handler with ⟨event, stage⟩
  cases stage with
  | matching =>
      rw [UniversalInjector.proceed]
      split <;> rfl
  | detecting =>
      rw [UniversalInjector.proceed]
      split <;> rfl
  | injecting => rfl
  | recording injectStart result => rfl
  | skipped => rfl
  | finished result => rfl

/-- What the start of a handler does: it is refused, or it is the first for its process. -/
theorem handleEvent_cases (injector : UniversalInjector) (event : InjectorEvent) :
    ((injector.handleEvent event).handlers = injector.handlers ∧
        injector.registry.get event.key ≠ none) ∨
      (injector.handleEvent event).handlers = injector.handlers ++ [⟨event, .matching⟩] ∧
        injector.registry.get event.key = none ∧
        ((injector.handleEvent event).registry.get event.key).isSome := by
  rw [UniversalInjector.handleEvent, ProcessRegistry.tryClaim]
  cases found : injector.registry.get event.key with
  | none =>
      refine .inr ⟨rfl, rfl, ?_⟩
      change ((injector.registry.putNew event.key .discovered).get event.key).isSome
      rw [ProcessRegistry.get_putNew, if_pos rfl]
      rfl
  | some state => exact .inl ⟨rfl, Option.some_ne_none state⟩

/-- What a step does to the handlers: nothing, one starts that has claimed its process, or one
takes its next step. -/
theorem next_cases (key : ProcessKey) (injector : UniversalInjector) (step : InjectorStep) :
    ((injector.next step).handlers = injector.handlers ∧ attempts key injector step = []) ∨
      (∃ event, (injector.next step).handlers = injector.handlers ++ [⟨event, .matching⟩] ∧
        injector.registry.get event.key = none ∧
        ((injector.next step).registry.get event.key).isSome ∧
        attempts key injector step = []) ∨
      ∃ before handler after moved moment,
        injector.handlers = before ++ handler :: after ∧
        (injector.next step).handlers = before ++ moved :: after ∧
        moved.event = handler.event ∧
        resultsOf moved = resultsOf handler ++ injection moment handler ∧
        attempts key injector step =
          if handler.event.key = key then injection moment handler else [] := by
  cases step with
  | event event =>
      rcases handleEvent_cases injector event with ⟨same, -⟩ | ⟨started, absent, present⟩
      · exact .inl ⟨same, rfl⟩
      · exact .inr (.inl ⟨event, started, absent, present, rfl⟩)
  | retry now =>
      rw [UniversalInjector.next, UniversalInjector.consumeRetry]
      split
      · exact .inl ⟨rfl, rfl⟩
      · rename_i event retryAt rest queue
        split
        · rcases handleEvent_cases { injector with retryQueue := rest } event with
            ⟨same, -⟩ | ⟨started, absent, present⟩
          · exact .inl ⟨same, rfl⟩
          · exact .inr (.inl ⟨event, started, absent, present, rfl⟩)
        · exact .inl ⟨rfl, rfl⟩
  | proceed index moment =>
      simp only [UniversalInjector.next, attempts]
      cases found : injector.handlers[index]? with
      | none => exact .inl ⟨rfl, rfl⟩
      | some handler =>
          obtain ⟨inside, here⟩ := List.getElem?_eq_some_iff.mp found
          refine .inr (.inr ⟨injector.handlers.take index, handler,
            injector.handlers.drop (index + 1),
            { handler with stage := (injector.proceed handler.event moment handler.stage).1 },
            moment, ?_, ?_, rfl, resultsOf_proceed handler moment, rfl⟩)
          · rw [← here, ← List.drop_eq_getElem_cons inside, List.take_append_drop]
          · exact List.set_eq_take_append_cons_drop.trans (if_pos inside)
  | registry call => exact .inl ⟨rfl, rfl⟩

theorem handlersOf_of_split {before after : List Handler} {handler : Handler}
    (handlers : injector.handlers = before ++ handler :: after) :
    handlersOf key injector =
      before.filter (fun other => decide (other.event.key = key)) ++
        ((if handler.event.key = key then [handler] else []) ++
          after.filter (fun other => decide (other.event.key = key))) := by
  rw [handlersOf, handlers, List.filter_append, List.filter_cons]
  by_cases same : handler.event.key = key
  · simp [same]
  · simp [same]

/-- A handler that takes a step stays the only one. -/
theorem handlersOf_moved {next : UniversalInjector} {before after : List Handler}
    {handler moved only : Handler} (handlers : injector.handlers = before ++ handler :: after)
    (handlersNext : next.handlers = before ++ moved :: after)
    (event : moved.event = handler.event) (claimed : handlersOf key injector = [only]) :
    handler.event.key = key ∧ only = handler ∧ handlersOf key next = [moved] ∨
      handler.event.key ≠ key ∧ handlersOf key next = [only] := by
  rw [handlersOf_of_split handlers] at claimed
  rw [handlersOf_of_split handlersNext, event]
  by_cases same : handler.event.key = key
  · rw [if_pos same] at claimed ⊢
    obtain ⟨none, here⟩ | ⟨-, absurd⟩ := List.append_eq_singleton_iff.mp claimed
    · obtain ⟨rfl, rest⟩ : handler = only ∧
          after.filter (fun other => decide (other.event.key = key)) = [] := List.cons.inj here
      refine .inl ⟨same, rfl, ?_⟩
      rw [none, rest]
      rfl
    · cases absurd
  · rw [if_neg same] at claimed ⊢
    exact .inr ⟨same, claimed⟩

/-- Every step that leaves the process in the registry keeps this. -/
theorem claimedOnce_next {step : InjectorStep} {results : List (Except HookError Unit)}
    (once : ClaimedOnce key injector results) (kept : KeepsEntry key injector step) :
    ClaimedOnce key (injector.next step) (results ++ attempts key injector step) := by
  rcases next_cases key injector step with
    ⟨same, silent⟩ | ⟨event, started, absent, present, silent⟩ |
      ⟨before, handler, after, moved, moment, handlers, handlersNext, event, known, called⟩
  · rw [silent, List.append_nil, ClaimedOnce, handlersOf, same]
    rcases once with unclaimed | ⟨handler, claimed, called, present⟩
    · exact .inl unclaimed
    · exact .inr ⟨handler, claimed, called, kept present⟩
  · rw [silent, List.append_nil, ClaimedOnce, handlersOf, started, List.filter_append]
    by_cases same : event.key = key
    · -- the claim would have been refused to a second handler
      subst same
      rcases once with ⟨unclaimed, uncalled⟩ | ⟨handler, -, -, there⟩
      · rw [handlersOf] at unclaimed
        exact .inr ⟨⟨event, .matching⟩, by simp [unclaimed], uncalled, present⟩
      · rw [absent] at there
        cases there
    · have others : handlersOf key injector ++
          [(⟨event, .matching⟩ : Handler)].filter
            (fun handler => decide (handler.event.key = key)) = handlersOf key injector := by
        simp [same]
      rw [handlersOf] at others
      rw [others]
      rcases once with unclaimed | ⟨handler, claimed, called, there⟩
      · exact .inl unclaimed
      · exact .inr ⟨handler, claimed, called, kept there⟩
  · rcases once with ⟨unclaimed, uncalled⟩ | ⟨only, claimed, calledBefore, present⟩
    · rw [handlersOf_of_split handlers] at unclaimed
      have other : handler.event.key ≠ key := by
        intro same
        simp [same] at unclaimed
      refine .inl ⟨?_, by rw [uncalled, called, if_neg other]; rfl⟩
      rw [handlersOf_of_split handlersNext, event, if_neg other]
      rwa [if_neg other] at unclaimed
    · rcases handlersOf_moved handlers handlersNext event claimed with
        ⟨same, rfl, now⟩ | ⟨other, now⟩
      · refine .inr ⟨moved, now, ?_, kept present⟩
        rw [called, if_pos same, calledBefore, known]
      · refine .inr ⟨only, now, ?_, kept present⟩
        rw [called, if_neg other, calledBefore, List.append_nil]

/-- So does every run of such steps. -/
theorem claimedOnce_run {steps : List InjectorStep} {results : List (Except HookError Unit)}
    (once : ClaimedOnce key injector results)
    (kept : Each UniversalInjector.next (KeepsEntry key) injector steps) :
    ClaimedOnce key (steps.foldl UniversalInjector.next injector)
      (results ++ outcomes key injector steps) := by
  induction steps generalizing injector results with
  | nil => rwa [outcomes, List.append_nil]
  | cons step steps ih =>
      rw [outcomes, ← List.append_assoc]
      exact ih (claimedOnce_next once kept.1) kept.2

end Steps

/-- Without evictions, `inject` is called as often as it is to be for the process exactly if
its first call does not fail for a retry: no call is ever made again. -/
theorem retriedOnce_iff (steps : List InjectorStep)
    (kept : Each UniversalInjector.next (KeepsEntry key) .new steps)
    (settled : Settled key (steps.foldl UniversalInjector.next .new)) :
    RetriedOnce key steps ↔ (outcomes key .new steps).head?.any failsForRetry = false := by
  have once : ClaimedOnce key (steps.foldl UniversalInjector.next .new)
      (outcomes key .new steps) := claimedOnce_run (.inl ⟨rfl, rfl⟩) kept
  rw [RetriedOnce]
  rcases once with ⟨unclaimed, uncalled⟩ | ⟨handler, claimed, called, -⟩
  · rw [unclaimed, uncalled]
    exact iff_of_true rfl rfl
  · have returned := settled.1 handler (by rw [claimed]; exact List.mem_singleton_self handler)
    rw [claimed, called]
    rcases handler with ⟨event, stage⟩
    cases stage with
    | matching => cases returned
    | detecting => cases returned
    | injecting => cases returned
    | recording injectStart result => cases returned
    | skipped => exact iff_of_true rfl rfl
    | finished result =>
        change 1 = (if failsForRetry result then 2 else 1) ↔ failsForRetry result = false
        cases failsForRetry result with
        | false => exact iff_of_true rfl rfl
        | true => exact iff_of_false (by decide) (by decide)

/-- A program starts. -/
def notepadStarted : InjectorEvent where
  pid := 1000
  imagePath := "C:\\Windows\\System32\\notepad.exe"
  creationTime := 1
  eventTimestamp := 0

/-- The allowlist does not have it, it is not protected, and `inject` returns `result`. -/
def momentOf (now : Nat) (result : Except HookError Unit) : Moment where
  now := now
  check := fun _ => none
  detectPpl := fun _ => .notProtected
  inject := fun _ => result

/-- The event comes again while its handler is under way, and the consumer looks at its queue
in the end. -/
def notepadRun (result : Except HookError Unit) : List InjectorStep :=
  [.event notepadStarted, .proceed 0 (momentOf 1 result), .event notepadStarted,
    .proceed 0 (momentOf 2 result), .proceed 0 (momentOf 3 result),
    .proceed 0 (momentOf 4 result), .retry 300]

theorem retriedOnce_injected : RetriedOnce ⟨1000, 1⟩ (notepadRun (.ok ())) :=
  (retriedOnce_iff ⟨1000, 1⟩ (notepadRun (.ok ())) (by decide) (by decide)).mpr (by decide)

/-- The remote thread cannot be created; `inject` is called once, and not again. -/
theorem remoteThreadFailed_not_retried :
    Each UniversalInjector.next (KeepsEntry ⟨1000, 1⟩) .new
        (notepadRun (.error (.remoteThreadFailed 1000 "access violation"))) ∧
      Settled ⟨1000, 1⟩ ((notepadRun (.error (.remoteThreadFailed 1000 "access violation"))).foldl
        UniversalInjector.next .new) ∧
      ¬RetriedOnce ⟨1000, 1⟩
        (notepadRun (.error (.remoteThreadFailed 1000 "access violation"))) := by
  decide

end DlpSystem.Processes
