import DlpSystem.Lib.EventRun

/-!
# The password-protected stop

`password_stop`: a stop of the service starts a worker thread, which asks for the password
through a file and confirms the stop or aborts it.  The statics of the module are one state;
a worker runs in steps between the calls of `initiate_stop`.
-/

namespace DlpSystem.Agent

open Lib

/-- `StopResponse`, as the user interface writes it to the file. -/
structure StopResponse where
  result : String
  password : Option String
  encoding : Option String
  deriving DecidableEq

/-- Where a worker is. -/
inductive StopWorkerStage
  | spawning
  | polling
  /-- The password was submitted for the pending request and is being verified. -/
  | verifying (attempt : Nat)
  deriving DecidableEq

/-- The thread of one `initiate_stop`. -/
structure StopWorker where
  requestId : String
  stage : StopWorkerStage
  deriving DecidableEq

/-- The statics of `password_stop`, and the worker threads that run. -/
structure StopAgent where
  /-- `STOP_STATE` -/
  pending : Bool
  attempts : Nat
  /-- `PENDING_REQUEST` -/
  pendingRequest : Option String
  /-- `FAILED_ATTEMPTS` -/
  failedAttempts : Nat
  /-- `STOP_CONFIRMED` -/
  confirmed : Bool
  workers : List StopWorker
  deriving DecidableEq

/-- The steps of a run.  A response that is not the JSON of a `StopResponse` is `none`; a
verification that ends with an error is `none`. -/
inductive StopStep
  | initiateStop (requestId : String)
  | uiSpawned (requestId : String)
  | uiSpawnFailed (requestId : String)
  | shutdownRequested (requestId : String)
  | timedOut (requestId : String)
  | responseRead (requestId : String) (response : Option StopResponse)
  | verified (requestId : String) (result : Option Bool)
  | panicked (requestId : String)
  deriving DecidableEq

namespace StopAgent

/-- The values of the statics when the service starts. -/
def start : StopAgent where
  pending := false
  attempts := 0
  pendingRequest := none
  failedAttempts := 0
  confirmed := false
  workers := []

/-- `matches_pending_request`. -/
def matchesPendingRequest (agent : StopAgent) (requestId : String) : Bool :=
  decide (agent.pendingRequest = some requestId)

/-- `abort_stop`, with `clear_pending_request` and `reset_stop_state`. -/
def abortStop (agent : StopAgent) : StopAgent :=
  { agent with
    pendingRequest := none
    confirmed := false
    failedAttempts := 0
    pending := false
    attempts := 0 }

/-- `handle_password_cancel`. -/
def handlePasswordCancel (agent : StopAgent) (requestId : String) : StopAgent :=
  if agent.matchesPendingRequest requestId then agent.abortStop else agent

/-- `handle_verification_result`. -/
def handleVerificationResult (agent : StopAgent) (result : Option Bool) : StopAgent :=
  match result with
  | some true => { agent with pendingRequest := none, failedAttempts := 0, confirmed := true }
  -- `maybe_abort_after_failure`
  | some false | none => agent.abortStop

/-- The worker is in that stage. -/
def hasWorker (agent : StopAgent) (requestId : String) (stage : StopWorkerStage) : Bool :=
  decide (⟨requestId, stage⟩ ∈ agent.workers)

/-- The thread of a worker ends. -/
def endWorker (agent : StopAgent) (requestId : String) : StopAgent :=
  { agent with workers := agent.workers.filter fun worker => decide (worker.requestId ≠ requestId) }

/-- A worker goes on to another stage. -/
def moveWorker (agent : StopAgent) (requestId : String) (stage : StopWorkerStage) : StopAgent :=
  { agent with
    workers := agent.workers.map fun worker =>
      if worker.requestId = requestId then { worker with stage := stage } else worker }

/-- `handle_file_response_for_verify`, up to the verification of a password. -/
def handleFileResponse (agent : StopAgent) (requestId : String)
    (response : Option StopResponse) : StopAgent :=
  match response with
  | some ⟨"submit", some _, _⟩ =>
      -- `handle_password_submit`
      if agent.matchesPendingRequest requestId then
        { agent with failedAttempts := agent.failedAttempts + 1 }.moveWorker requestId
          (.verifying (agent.failedAttempts + 1))
      else agent.endWorker requestId
  | _ => (agent.handlePasswordCancel requestId).endWorker requestId

/-- One step.  A step of a worker that is not there, or not that far, does nothing. -/
def next (agent : StopAgent) : StopStep → StopAgent
  | .initiateStop requestId =>
      if agent.pending then agent
      else
        { agent with
          pending := true
          attempts := 0
          pendingRequest := some requestId
          workers := agent.workers ++ [⟨requestId, .spawning⟩] }
  | .uiSpawned requestId =>
      if agent.hasWorker requestId .spawning then agent.moveWorker requestId .polling else agent
  | .uiSpawnFailed requestId =>
      if agent.hasWorker requestId .spawning then agent.endWorker requestId else agent
  | .shutdownRequested requestId =>
      if agent.hasWorker requestId .polling then agent.endWorker requestId else agent
  | .timedOut requestId =>
      if agent.hasWorker requestId .polling then agent.endWorker requestId else agent
  | .responseRead requestId response =>
      if agent.hasWorker requestId .polling then agent.handleFileResponse requestId response
      else agent
  | .verified requestId result =>
      if agent.workers.any fun worker =>
          decide (worker.requestId = requestId) &&
            match worker.stage with
            | .verifying _ => true
            | _ => false
      then (agent.handleVerificationResult result).endWorker requestId
      else agent
  | .panicked requestId =>
      if agent.workers.any fun worker => decide (worker.requestId = requestId) then
        agent.abortStop.endWorker requestId
      else agent

end StopAgent

/-- If the step confirms the stop, it is the verification of a password that was submitted
for the pending request, and it has succeeded. -/
def ConfirmedByPassword (agent : StopAgent) (step : StopStep) : Prop :=
  agent.confirmed = false → (agent.next step).confirmed = true →
    ∃ requestId, agent.pendingRequest = some requestId ∧ step = .verified requestId (some true)

/-- Without a worker and without a confirmed stop nothing is pending, and the next call of
`initiate_stop` starts a new challenge. -/
def Retriable (agent : StopAgent) : Prop :=
  agent.workers = [] → agent.confirmed = false →
    agent.pending = false ∧ agent.pendingRequest = none ∧
      ∀ requestId, (agent.next (.initiateStop requestId)).workers = [⟨requestId, .spawning⟩]

/-- The condition on a step: no worker ends because the user interface could not be spawned,
because of the shutdown flag, or because the time is over. -/
def NotAbandoned (agent : StopAgent) : StopStep → Prop
  | .uiSpawnFailed requestId => agent.hasWorker requestId .spawning = false
  | .shutdownRequested requestId => agent.hasWorker requestId .polling = false
  | .timedOut requestId => agent.hasWorker requestId .polling = false
  | _ => True

/-! ## One challenge at a time -/

/-- The worker is the only one and works on the pending request. -/
structure Asking (agent : StopAgent) (worker : StopWorker) : Prop where
  only : agent.workers = [worker]
  pending : agent.pending = true
  request : agent.pendingRequest = some worker.requestId
  unconfirmed : agent.confirmed = false

/-- What a step makes of a worker that asks for the password. -/
inductive AskingNext (agent : StopAgent) (worker : StopWorker) (step : StopStep) : Prop
  | asks (later : StopWorker) (asking : Asking (agent.next step) later)
      (kept : NotAbandoned agent step)
  | aborted (ended : (agent.next step).workers = []) (free : (agent.next step).pending = false)
      (cleared : (agent.next step).pendingRequest = none)
      (unconfirmed : (agent.next step).confirmed = false) (kept : NotAbandoned agent step)
  | confirmed (ended : (agent.next step).workers = []) (pending : (agent.next step).pending = true)
      (confirmed : (agent.next step).confirmed = true)
      (verified : step = .verified worker.requestId (some true))
  | abandoned (ended : (agent.next step).workers = []) (pending : (agent.next step).pending = true)
      (unconfirmed : (agent.next step).confirmed = false) (left : ¬NotAbandoned agent step)

namespace StopAgent

variable {agent : StopAgent} {worker : StopWorker}

theorem hasWorker_iff (only : agent.workers = [worker]) (requestId : String)
    (stage : StopWorkerStage) :
    agent.hasWorker requestId stage = true ↔ worker = ⟨requestId, stage⟩ := by
  rw [hasWorker, only, decide_eq_true_eq, List.mem_singleton, eq_comm]

theorem workers_endWorker (only : agent.workers = [worker]) :
    (agent.endWorker worker.requestId).workers = [] := by
  simp [endWorker, only]

theorem workers_moveWorker (only : agent.workers = [worker]) (stage : StopWorkerStage) :
    (agent.moveWorker worker.requestId stage).workers = [⟨worker.requestId, stage⟩] := by
  simp [moveWorker, only]

theorem asks_unchanged (asking : Asking agent worker) {step : StopStep}
    (same : agent.next step = agent) (kept : NotAbandoned agent step) :
    AskingNext agent worker step := by
  apply AskingNext.asks worker
  · rw [same]
    exact asking
  · exact kept

/-- A worker that ends without touching the statics leaves them pending. -/
theorem askingNext_abandoning (asking : Asking agent worker) {step : StopStep}
    {requestId : String} {stage : StopWorkerStage}
    (ends : agent.next step =
      if agent.hasWorker requestId stage then agent.endWorker requestId else agent)
    (kept_iff : NotAbandoned agent step ↔ agent.hasWorker requestId stage = false) :
    AskingNext agent worker step := by
  by_cases here : agent.hasWorker requestId stage = true
  · obtain rfl := (hasWorker_iff asking.only _ _).mp here
    rw [if_pos here] at ends
    apply AskingNext.abandoned
    · rw [ends]
      exact workers_endWorker asking.only
    · rw [ends]
      exact asking.pending
    · rw [ends]
      exact asking.unconfirmed
    · rw [kept_iff, here]
      exact Bool.noConfusion
  · rw [if_neg here] at ends
    exact asks_unchanged asking ends (kept_iff.mpr (Bool.not_eq_true _ ▸ here))

theorem aborted_endWorker (asking : Asking agent worker) {step : StopStep}
    (ends : agent.next step = agent.abortStop.endWorker worker.requestId)
    (kept : NotAbandoned agent step) : AskingNext agent worker step := by
  apply AskingNext.aborted
  · rw [ends]
    exact workers_endWorker asking.only
  · rw [ends]
    rfl
  · rw [ends]
    rfl
  · rw [ends]
    rfl
  · exact kept

theorem askingNext_responseRead (asking : Asking agent worker) {requestId : String}
    (response : Option StopResponse) (here : agent.hasWorker requestId .polling = true) :
    AskingNext agent worker (.responseRead requestId response) := by
  obtain rfl := (hasWorker_iff asking.only _ _).mp here
  have asked : agent.matchesPendingRequest requestId = true := decide_eq_true asking.request
  have read : agent.next (.responseRead requestId response) =
      agent.handleFileResponse requestId response := by
    rw [next, if_pos here]
  unfold handleFileResponse at read
  split at read
  · rw [if_pos asked] at read
    apply AskingNext.asks ⟨requestId, .verifying (agent.failedAttempts + 1)⟩
    · rw [read]
      refine ⟨?_, asking.pending, asking.request, asking.unconfirmed⟩
      exact workers_moveWorker asking.only _
    · trivial
  · rw [handlePasswordCancel, if_pos asked] at read
    exact aborted_endWorker asking read trivial

theorem askingNext_verified (asking : Asking agent worker) (requestId : String)
    (result : Option Bool) : AskingNext agent worker (.verified requestId result) := by
  by_cases here : (agent.workers.any fun worker =>
      decide (worker.requestId = requestId) &&
        match worker.stage with
        | .verifying _ => true
        | _ => false) = true
  · have verified : agent.next (.verified requestId result) =
        (agent.handleVerificationResult result).endWorker requestId := by
      rw [next, if_pos here]
    have mine : worker.requestId = requestId := by
      simp only [asking.only, List.any_cons, List.any_nil, Bool.or_false, Bool.and_eq_true,
        decide_eq_true_eq] at here
      exact here.1
    subst mine
    cases result with
    | none => exact aborted_endWorker asking verified trivial
    | some matched =>
        cases matched with
        | false => exact aborted_endWorker asking verified trivial
        | true =>
            apply AskingNext.confirmed
            · rw [verified]
              exact workers_endWorker asking.only
            · rw [verified]
              exact asking.pending
            · rw [verified]
              rfl
            · rfl
  · exact asks_unchanged asking (by rw [next, if_neg here]) trivial

theorem askingNext (asking : Asking agent worker) (step : StopStep) :
    AskingNext agent worker step := by
  cases step with
  | initiateStop requestId =>
      exact asks_unchanged asking (by rw [next, if_pos asking.pending]) trivial
  | uiSpawned requestId =>
      by_cases here : agent.hasWorker requestId .spawning = true
      · obtain rfl := (hasWorker_iff asking.only _ _).mp here
        apply AskingNext.asks ⟨requestId, .polling⟩
        · rw [next, if_pos here]
          refine ⟨?_, asking.pending, asking.request, asking.unconfirmed⟩
          exact workers_moveWorker asking.only _
        · trivial
      · exact asks_unchanged asking (by rw [next, if_neg here]) trivial
  | uiSpawnFailed requestId => exact askingNext_abandoning asking rfl Iff.rfl
  | shutdownRequested requestId => exact askingNext_abandoning asking rfl Iff.rfl
  | timedOut requestId => exact askingNext_abandoning asking rfl Iff.rfl
  | responseRead requestId response =>
      by_cases here : agent.hasWorker requestId .polling = true
      · exact askingNext_responseRead asking response here
      · exact asks_unchanged asking (by rw [next, if_neg here]) trivial
  | verified requestId result => exact askingNext_verified asking requestId result
  | panicked requestId =>
      by_cases here : (agent.workers.any fun worker =>
          decide (worker.requestId = requestId)) = true
      · have mine : worker.requestId = requestId := by
          simpa [asking.only] using here
        subst mine
        exact aborted_endWorker asking (by rw [next, if_pos here]) trivial
      · exact asks_unchanged asking (by rw [next, if_neg here]) trivial

/-- Without a worker only `initiate_stop` does anything. -/
theorem next_of_ended (ended : agent.workers = []) {step : StopStep}
    (calm : ∀ requestId, step ≠ .initiateStop requestId) :
    agent.next step = agent ∧ NotAbandoned agent step := by
  have absent (requestId : String) (stage : StopWorkerStage) :
      agent.hasWorker requestId stage = false := by
    simp [hasWorker, ended]
  cases step with
  | initiateStop requestId => exact (calm requestId rfl).elim
  | _ => simp [next, absent, ended, NotAbandoned]

theorem asking_initiateStop (ended : agent.workers = []) (free : agent.pending = false)
    (unconfirmed : agent.confirmed = false) (requestId : String) :
    Asking (agent.next (.initiateStop requestId)) ⟨requestId, .spawning⟩ := by
  simp only [next, free]
  exact ⟨by simp [ended], rfl, rfl, unconfirmed⟩

end StopAgent

/-- There is at most one worker, which asks for the password, and a confirmed stop stays
pending. -/
inductive OneChallenge (agent : StopAgent) : Prop
  | asked (worker : StopWorker) (asking : Asking agent worker)
  | settled (ended : agent.workers = []) (held : agent.confirmed = true → agent.pending = true)

namespace OneChallenge

variable {agent : StopAgent}

theorem unconfirmed_of_free (held : agent.confirmed = true → agent.pending = true)
    (free : agent.pending = false) : agent.confirmed = false := by
  by_contra confirmed
  have pending := held (Bool.not_eq_false _ ▸ confirmed)
  rw [free] at pending
  cases pending

theorem next (one : OneChallenge agent) (step : StopStep) : OneChallenge (agent.next step) := by
  cases one with
  | asked worker asking =>
      cases StopAgent.askingNext asking step with
      | asks later asking kept => exact .asked later asking
      | aborted ended free cleared unconfirmed kept =>
          exact .settled ended fun confirmed => by rw [unconfirmed] at confirmed; cases confirmed
      | confirmed ended pending confirmed verified => exact .settled ended fun _ => pending
      | abandoned ended pending unconfirmed left => exact .settled ended fun _ => pending
  | settled ended held =>
      by_cases calm : ∀ requestId, step ≠ .initiateStop requestId
      · rw [(StopAgent.next_of_ended ended calm).1]
        exact .settled ended held
      · push Not at calm
        obtain ⟨requestId, rfl⟩ := calm
        cases free : agent.pending with
        | true =>
            rw [StopAgent.next, if_pos free]
            exact .settled ended held
        | false =>
            exact .asked _ (StopAgent.asking_initiateStop ended free
              (unconfirmed_of_free held free) requestId)

/-- Whatever the steps, only a verified password confirms the stop. -/
theorem confirmedByPassword (one : OneChallenge agent) (step : StopStep) :
    ConfirmedByPassword agent step := by
  intro before after
  cases one with
  | asked worker asking =>
      cases StopAgent.askingNext asking step with
      | asks later asking kept => cases asking.unconfirmed.symm.trans after
      | aborted ended free cleared unconfirmed kept => cases unconfirmed.symm.trans after
      | confirmed ended pending confirmed verified =>
          exact ⟨worker.requestId, asking.request, verified⟩
      | abandoned ended pending unconfirmed left => cases unconfirmed.symm.trans after
  | settled ended held =>
      by_cases calm : ∀ requestId, step ≠ .initiateStop requestId
      · rw [(StopAgent.next_of_ended ended calm).1, before] at after
        cases after
      · push Not at calm
        obtain ⟨requestId, rfl⟩ := calm
        rw [StopAgent.next] at after
        split at after
        · cases before.symm.trans after
        · cases before.symm.trans after

theorem retriable_of_asking {worker : StopWorker} (asking : Asking agent worker) :
    Retriable agent := by
  intro ended
  rw [asking.only] at ended
  cases ended

theorem retriable_of_free (free : agent.pending = false)
    (cleared : agent.pendingRequest = none) : Retriable agent := by
  intro ended unconfirmed
  refine ⟨free, cleared, fun requestId => ?_⟩
  exact (StopAgent.asking_initiateStop ended free unconfirmed requestId).only

/-- A step leaves the stop retriable exactly if it abandons no worker. -/
theorem retriable_next_iff (one : OneChallenge agent) (retriable : Retriable agent)
    (step : StopStep) : Retriable (agent.next step) ↔ NotAbandoned agent step := by
  cases one with
  | asked worker asking =>
      cases StopAgent.askingNext asking step with
      | asks later asking kept => exact iff_of_true (retriable_of_asking asking) kept
      | aborted ended free cleared unconfirmed kept =>
          exact iff_of_true (retriable_of_free free cleared) kept
      | confirmed ended pending confirmed verified =>
          apply iff_of_true
          · intro _ unconfirmed
            cases confirmed.symm.trans unconfirmed
          · rw [verified]
            trivial
      | abandoned ended pending unconfirmed left =>
          apply iff_of_false
          · intro retriable
            cases pending.symm.trans (retriable ended unconfirmed).1
          · exact left
  | settled ended held =>
      by_cases calm : ∀ requestId, step ≠ .initiateStop requestId
      · obtain ⟨same, kept⟩ := StopAgent.next_of_ended ended calm
        rw [same]
        exact iff_of_true retriable kept
      · push Not at calm
        obtain ⟨requestId, rfl⟩ := calm
        apply iff_of_true
        · cases free : agent.pending with
          | true =>
              rw [StopAgent.next, if_pos free]
              exact retriable
          | false =>
              exact retriable_of_asking (StopAgent.asking_initiateStop ended free
                (unconfirmed_of_free held free) requestId)
        · trivial

end OneChallenge

/-- In every run the stop is confirmed by the password only, and it can be retried at every
point exactly if no worker is abandoned. -/
theorem stop_retriable_iff (steps : List StopStep) :
    (Each StopAgent.next ConfirmedByPassword .start steps ∧
        ∀ before after, steps = before ++ after →
          Retriable (before.foldl StopAgent.next .start)) ↔
      Each StopAgent.next NotAbandoned .start steps := by
  have one (events : List StopStep) : OneChallenge (events.foldl StopAgent.next .start) :=
    foldl_invariant (fun _ step one => one.next step) events
      (.settled rfl fun absurd => by cases absurd)
  have confirmed : Each StopAgent.next ConfirmedByPassword .start steps := by
    rw [each_iff_cuts]
    rintro before step after rfl
    exact (one before).confirmedByPassword step
  have initially : OneChallenge .start ∧ Retriable .start :=
    ⟨one [], OneChallenge.retriable_of_free rfl rfl⟩
  have kept : ∀ agent step, OneChallenge agent ∧ Retriable agent →
      ((OneChallenge (agent.next step) ∧ Retriable (agent.next step)) ↔
        NotAbandoned agent step) := by
    rintro agent step ⟨oneHere, retriableHere⟩
    rw [← oneHere.retriable_next_iff retriableHere step]
    exact and_iff_right (oneHere.next step)
  rw [← at_cuts_iff_each kept initially steps]
  simp only [one, true_and, confirmed]

/-- The user interface cannot be spawned: the service can no longer be stopped. -/
theorem spawn_failure_blocks_stop :
    ¬(Each StopAgent.next ConfirmedByPassword .start [.initiateStop "1", .uiSpawnFailed "1"] ∧
      ∀ before after, [.initiateStop "1", .uiSpawnFailed "1"] = before ++ after →
        Retriable (before.foldl StopAgent.next .start)) := by
  rintro ⟨-, retriable⟩
  have free := (retriable _ [] (List.append_nil _).symm rfl rfl).1
  cases free

end DlpSystem.Agent
