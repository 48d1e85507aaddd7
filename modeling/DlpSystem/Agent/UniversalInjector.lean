import DlpSystem.Agent.AgentConfig
import DlpSystem.Agent.ProcessRegistry

/-!
# The universal injector

`UniversalInjector`: each process event gets a handler, which claims the process in the
registry, asks the allowlist and `detect_ppl`, injects the hook, and records what became of
it.  The handlers are tasks that run beside each other.  A handler whose injection has failed
puts the event on the retry queue, and the consumer of the queue starts a handler for it.
-/

namespace DlpSystem.Agent

/-- `HookError`. -/
inductive HookError
  | accessDenied (pid : UInt32)
  | architectureMismatch (pid : UInt32) (targetArch injectorArch : String)
  | dllNotFound (path : String)
  | pathTooLong (path : String)
  | remoteAllocFailed (pid : UInt32) (detail : String)
  | remoteWriteFailed (pid : UInt32) (detail : String)
  | remoteThreadFailed (pid : UInt32) (detail : String)
  | remoteThreadTimeout (pid : UInt32)
  | injectionFailed (pid : UInt32) (exitCode : UInt32)
  | moduleBaseNotFound (pid : UInt32)
  | enumFailed (detail : String)
  deriving DecidableEq

/-- `categorize_error`. -/
def categorizeError : HookError → InjectionFailure
  | .accessDenied _ => .accessDenied
  | .remoteThreadFailed _ _ => .remoteThreadFailed
  | .injectionFailed _ _ => .injectionFailed
  | .remoteThreadTimeout _ => .timeout
  | _ => .injectionFailed

/-- `SkipReason::from_category`. -/
def SkipReason.fromCategory : AllowlistCategory → SkipReason
  | .selfProcess => .selfProcess
  | .avedr => .avedr
  | .systemCritical => .systemCritical
  | .operatorDefined => .operatorDefined

/-- `LatencyHistogram`. -/
structure LatencyHistogram where
  buckets : Fin 6 → Nat
  total : Nat

namespace LatencyHistogram

/-- `LatencyHistogram::new`. -/
def new : LatencyHistogram where
  buckets := fun _ => 0
  total := 0

/-- The bucket of a latency in milliseconds. -/
def bucketOf (latencyMs : Nat) : Fin 6 :=
  if latencyMs ≤ 50 then 0
  else if latencyMs ≤ 100 then 1
  else if latencyMs ≤ 250 then 2
  else if latencyMs ≤ 500 then 3
  else if latencyMs ≤ 1000 then 4
  else 5

/-- `LatencyHistogram::record`. -/
def record (histogram : LatencyHistogram) (latencyMs : Nat) : LatencyHistogram where
  buckets := fun bucket =>
    if bucket = bucketOf latencyMs then histogram.buckets bucket + 1 else histogram.buckets bucket
  total := histogram.total + 1

end LatencyHistogram

/-- What the injector reads of a `ProcessEvent`.  The times are in milliseconds. -/
structure InjectorEvent where
  pid : UInt32
  imagePath : String
  creationTime : UInt64
  eventTimestamp : Nat
  deriving DecidableEq

/-- The key under which the registry has the process. -/
def InjectorEvent.key (event : InjectorEvent) : ProcessKey :=
  ⟨event.pid, event.creationTime⟩

/-- What a handler finds outside when it takes a step: the clock, what the allowlist says of
an event with its canonical path, `detect_ppl`, and `HookInjector::inject`. -/
structure Moment where
  now : Nat
  check : InjectorEvent → Option AllowlistCategory
  detectPpl : UInt32 → PplOutcome
  inject : UInt32 → Except HookError Unit

/-- How far `handle_event` has got with an event that it has claimed. -/
inductive HandlerStage
  | matching
  | detecting
  | injecting
  | recording (injectStart : Nat) (result : Except HookError Unit)
  /-- It has returned without an injection. -/
  | skipped
  /-- It has returned, after an injection. -/
  | finished (result : Except HookError Unit)

structure Handler where
  event : InjectorEvent
  stage : HandlerStage

/-- `UniversalInjector`, with the handlers of the events that were claimed. -/
structure UniversalInjector where
  registry : ProcessRegistry
  latency : LatencyHistogram
  retryQueue : List (InjectorEvent × Nat)
  handlers : List Handler

namespace UniversalInjector

/-- The injector over a new registry. -/
def new : UniversalInjector where
  registry := .new
  latency := .new
  retryQueue := []
  handlers := []

/-- The start of `handle_event`: a handler goes on if `try_claim` lets it. -/
def handleEvent (injector : UniversalInjector) (event : InjectorEvent) : UniversalInjector :=
  match injector.registry.tryClaim event.key with
  | (.alreadyClaimed _, registry) => { injector with registry }
  | (.claimed, registry) =>
      { injector with registry, handlers := injector.handlers ++ [⟨event, .matching⟩] }

/-- `handle_retry`. -/
def handleRetry (injector : UniversalInjector) (event : InjectorEvent) : UniversalInjector :=
  injector.handleEvent event

/-- The consumer of the retry queue, which sleeps until the event in front is due. -/
def consumeRetry (injector : UniversalInjector) (now : Nat) : UniversalInjector :=
  match injector.retryQueue with
  | [] => injector
  | (event, retryAt) :: rest =>
      if retryAt ≤ now then handleRetry { injector with retryQueue := rest } event else injector

def recordSkipped (injector : UniversalInjector) (event : InjectorEvent) (reason : SkipReason) :
    UniversalInjector :=
  { injector with registry := injector.registry.recordSkipped event.key reason }

/-- The delay of a retry, in milliseconds. -/
def retryDelay : Nat := 200

/-- What `handle_event` does about a failure of the injection. -/
def recordFailure (injector : UniversalInjector) (event : InjectorEvent) (now : Nat)
    (failure : InjectionFailure) : UniversalInjector :=
  match failure with
  | .accessDenied => injector.recordSkipped event (.ppl .likelyProtectedAccessDenied)
  | .remoteThreadFailed | .injectionFailed =>
      let skipped := injector.recordSkipped event (.failed failure)
      { skipped with retryQueue := skipped.retryQueue ++ [(event, now + retryDelay)] }
  | .timeout => injector.recordSkipped event (.failed failure)

/-- What `handle_event` does with the result of the injection. -/
def recordResult (injector : UniversalInjector) (event : InjectorEvent) (injectStart now : Nat)
    (result : Except HookError Unit) : UniversalInjector :=
  let measured := { injector with
    latency := injector.latency.record (injectStart - event.eventTimestamp) }
  match result with
  | .ok () =>
      { measured with registry := measured.registry.recordInjected event.key "x64" now }
  | .error error => measured.recordFailure event now (categorizeError error)

/-- The next stage of `handle_event`. -/
def proceed (injector : UniversalInjector) (event : InjectorEvent) (moment : Moment) :
    HandlerStage → HandlerStage × UniversalInjector
  | .matching =>
      match moment.check event with
      | some category => (.skipped, injector.recordSkipped event (.fromCategory category))
      | none => (.detecting, injector)
  | .detecting =>
      match moment.detectPpl event.pid with
      | .protectedProcess => (.skipped, injector.recordSkipped event (.ppl .protectedProcess))
      | .likelyProtectedAccessDenied =>
          (.skipped, injector.recordSkipped event (.ppl .likelyProtectedAccessDenied))
      | .queryFailed | .notProtected => (.injecting, injector)
  | .injecting => (.recording moment.now (moment.inject event.pid), injector)
  | .recording injectStart result =>
      (.finished result, injector.recordResult event injectStart moment.now result)
  | .skipped => (.skipped, injector)
  | .finished result => (.finished result, injector)

end UniversalInjector

/-- What can happen next: an event comes in, the consumer looks at the retry queue, a handler
takes its next step, or other code calls the registry. -/
inductive InjectorStep
  | event (event : InjectorEvent)
  | retry (now : Nat)
  | proceed (index : Nat) (moment : Moment)
  | registry (call : RegistryCall)

namespace UniversalInjector

/-- One step, whichever task takes it. -/
def next (injector : UniversalInjector) : InjectorStep → UniversalInjector
  | .event event => injector.handleEvent event
  | .retry now => injector.consumeRetry now
  | .proceed index moment =>
      match injector.handlers[index]? with
      | none => injector
      | some handler =>
          let (stage, advanced) := injector.proceed handler.event moment handler.stage
          { advanced with handlers := injector.handlers.set index { handler with stage } }
  | .registry call => { injector with registry := injector.registry.next call }

end UniversalInjector

end DlpSystem.Agent
