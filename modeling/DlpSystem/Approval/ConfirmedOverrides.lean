import DlpSystem.Agent.Overrides
import DlpSystem.Lib.EventRun

/-!
# Confirmed overrides

What the four tasks of an override leave of a confirmation: it is submitted at most once,
the audit event follows every submission that the server accepts, and it is dropped only
after a cancellation or a submission, unless the reaper or a failed send takes the context
away while it waits.
-/

namespace DlpSystem.Approvals

open Agent
open Lib (Each)

/-! ## The property -/

/-- The audit events of a request. -/
def grantsOf (agent : OverrideAgent) (requestId : String) : Nat :=
  (agent.granted.map Prod.fst).count requestId

/-- The loop is between the acceptance of a request and its audit event. -/
def grantDue (requestId : String) : OverrideLoop → Bool
  | .accepted confirmed _ => confirmed.requestId = requestId
  | .retired confirmed _ => confirmed.requestId = requestId
  | _ => false

/-- No override is granted twice, the audit events are those of the submissions that
returned `Ok`, and no confirmation is lost. -/
structure OverridesKept (agent : OverrideAgent) : Prop where
  once : ∀ requestId, agent.submitted.count requestId ≤ 1
  audited : ∀ requestId,
    grantsOf agent requestId + (grantDue requestId agent.loop).toNat =
      agent.submitted.count requestId
  explained : ∀ requestId ∈ agent.discarded,
    requestId ∈ agent.cancelled ∨ requestId ∈ agent.submitted

/-! ## The condition -/

/-- A confirmation that a dispatcher, the channel or the loop holds and that was not yet
looked up. -/
def OverrideWaiting (agent : OverrideAgent) (confirmed : ConfirmedOverride) : Prop :=
  confirmed ∈ agent.held ∨ confirmed ∈ agent.queue ∨ agent.loop = .received confirmed

/-- The request has been cancelled or submitted. -/
def Concluded (agent : OverrideAgent) (requestId : String) : Prop :=
  requestId ∈ agent.cancelled ∨ requestId ∈ agent.submitted

/-- The request ids are distinct. -/
def FreshId (agent : OverrideAgent) : OverrideEvent → Prop
  | .request requestId _ _ => requestId ∉ agent.issued
  | _ => True

/-- Neither the reaper nor a failed send removes the context of a request while one of its
confirmations waits and it is not concluded. -/
def KeepsContext (agent : OverrideAgent) : OverrideEvent → Prop
  | .reap =>
      ∀ confirmed pending, OverrideWaiting agent confirmed →
        ¬ Concluded agent confirmed.requestId →
        agent.pending confirmed.requestId = some pending →
          agent.clock - pending.createdAt < overridePendingTtl
  | .sent false =>
      ∀ confirmed message, OverrideWaiting agent confirmed →
        ¬ Concluded agent confirmed.requestId → agent.task = .sending message →
          confirmed.requestId ≠ message.requestId
  | _ => True

/-! ## Submissions -/

/-- What makes every submission the only one of its request. -/
structure SubmittedOnce (agent : OverrideAgent) : Prop where
  once : ∀ requestId, agent.submitted.count requestId ≤ 1
  audited : ∀ requestId,
    grantsOf agent requestId + (grantDue requestId agent.loop).toNat =
      agent.submitted.count requestId
  removed : ∀ requestId ∈ agent.submitted, agent.pending requestId = none ∨
    ∃ confirmed pending, agent.loop = .accepted confirmed pending ∧
      confirmed.requestId = requestId
  submitting : ∀ confirmed pending, agent.loop = .submitting confirmed pending →
    confirmed.requestId ∈ agent.issued ∧ confirmed.requestId ∉ agent.submitted
  stored : ∀ requestId pending, agent.pending requestId = some pending →
    requestId ∈ agent.issued
  known : ∀ requestId ∈ agent.submitted, requestId ∈ agent.issued

theorem start_submittedOnce (clock : Nat) : SubmittedOnce (OverrideAgent.start clock) where
  once := fun _ => Nat.zero_le 1
  audited := fun _ => rfl
  removed := fun _ member => nomatch member
  submitting := fun _ _ at' => nomatch at'
  stored := fun _ _ found => nomatch found
  known := fun _ member => nomatch member

/-- The map loses contexts and gains none. -/
def Shrinks (before after : String → Option PendingOverride) : Prop :=
  ∀ requestId, after requestId = none ∨ after requestId = before requestId

theorem Shrinks.refl (pending : String → Option PendingOverride) : Shrinks pending pending :=
  fun _ => Or.inr rfl

theorem Shrinks.update (pending : String → Option PendingOverride) (requestId : String) :
    Shrinks pending (Function.update pending requestId none) := by
  intro other
  by_cases same : other = requestId
  · rw [same, Function.update_self]
    exact Or.inl rfl
  · rw [Function.update_of_ne same]
    exact Or.inr rfl

theorem Shrinks.filter (pending : String → Option PendingOverride)
    (keep : PendingOverride → Bool) :
    Shrinks pending fun requestId => (pending requestId).filter keep := by
  intro requestId
  dsimp only
  cases pending requestId with
  | none => exact Or.inl rfl
  | some context =>
      by_cases kept : keep context = true
      · exact Or.inr (by simp [kept])
      · exact Or.inl (by simp [kept])

/-- A step that submits nothing and grants nothing: the map only shrinks, and what the loop
owes and may submit is what it was. -/
structure Uneventful (agent next : OverrideAgent) : Prop where
  pending : Shrinks agent.pending next.pending
  issued : next.issued = agent.issued
  submitted : next.submitted = agent.submitted
  granted : next.granted = agent.granted
  due : ∀ requestId, grantDue requestId next.loop = grantDue requestId agent.loop
  accepted : ∀ confirmed context, agent.loop = .accepted confirmed context →
    next.loop = .accepted confirmed context ∨ next.pending confirmed.requestId = none
  submitting : ∀ confirmed context, next.loop = .submitting confirmed context →
    agent.loop = .submitting confirmed context ∨
      agent.pending confirmed.requestId = some context ∧
        ∃ received, agent.loop = .received received

/-- A step of the loop on one context, between two stages that owe no audit event. -/
theorem Uneventful.of_move {agent : OverrideAgent} {loop : OverrideLoop}
    (queue : List ConfirmedOverride) (discarded : List String)
    (before : ∀ requestId, grantDue requestId agent.loop = false)
    (after : ∀ requestId, grantDue requestId loop = false)
    (submitting : ∀ confirmed context, loop = .submitting confirmed context →
      agent.pending confirmed.requestId = some context ∧
        ∃ received, agent.loop = .received received) :
    Uneventful agent { agent with loop := loop, queue := queue, discarded := discarded } where
  pending := Shrinks.refl _
  issued := rfl
  submitted := rfl
  granted := rfl
  due := fun requestId => (after requestId).trans (before requestId).symm
  accepted := by
    intro confirmed context at'
    have due := before confirmed.requestId
    simp [at', grantDue] at due
  submitting := fun confirmed context at' => Or.inr (submitting confirmed context at')

theorem Uneventful.submittedOnce {agent next : OverrideAgent} (quiet : Uneventful agent next)
    (inv : SubmittedOnce agent) : SubmittedOnce next := by
  constructor
  · rw [quiet.submitted]
    exact inv.once
  · intro requestId
    rw [quiet.submitted, quiet.due, grantsOf, quiet.granted]
    exact inv.audited requestId
  · rw [quiet.submitted]
    intro requestId member
    obtain gone | ⟨confirmed, context, at', rfl⟩ := inv.removed requestId member
    · cases quiet.pending requestId with
      | inl still => exact Or.inl still
      | inr same => exact Or.inl (same.trans gone)
    · cases quiet.accepted confirmed context at' with
      | inl still => exact Or.inr ⟨confirmed, context, still, rfl⟩
      | inr gone => exact Or.inl gone
  · rw [quiet.submitted, quiet.issued]
    intro confirmed context at'
    obtain still | ⟨found, received, before⟩ := quiet.submitting confirmed context at'
    · exact inv.submitting confirmed context still
    · -- The loop has just found the context, so it was not submitted before.
      refine ⟨inv.stored _ _ found, ?_⟩
      intro member
      obtain gone | ⟨other, taken, elsewhere, -⟩ := inv.removed _ member
      · cases gone.symm.trans found
      · cases before.symm.trans elsewhere
  · rw [quiet.issued]
    intro requestId context found
    cases quiet.pending requestId with
    | inl gone => cases gone.symm.trans found
    | inr same => exact inv.stored requestId context (same.symm.trans found)
  · rw [quiet.submitted, quiet.issued]
    exact inv.known

/-- A step of the tasks beside the loop. -/
theorem SubmittedOnce.aside {agent next : OverrideAgent} (inv : SubmittedOnce agent)
    (pending : Shrinks agent.pending next.pending) (loop : next.loop = agent.loop)
    (issued : next.issued = agent.issued) (submitted : next.submitted = agent.submitted)
    (granted : next.granted = agent.granted) : SubmittedOnce next := by
  have quiet : Uneventful agent next :=
    ⟨pending, issued, submitted, granted, fun _ => by rw [loop],
      fun _ _ at' => Or.inl (loop.trans at'), fun _ _ at' => Or.inl (loop ▸ at')⟩
  exact quiet.submittedOnce inv

section Steps

variable {agent : OverrideAgent}

/-- A new request: its id is new, so nothing is known of it yet. -/
theorem acceptRequest_submittedOnce (inv : SubmittedOnce agent) {requestId : String}
    (fresh : requestId ∉ agent.issued) (request : OverrideRequest) (session : Option Nat) :
    SubmittedOnce (agent.acceptRequest requestId request session) := by
  have grows : ∀ other ∈ agent.issued, other ∈ agent.issued ++ [requestId] :=
    fun _ member => List.mem_append_left _ member
  have submitting : ∀ confirmed context, agent.loop = .submitting confirmed context →
      confirmed.requestId ∈ agent.issued ++ [requestId] ∧
        confirmed.requestId ∉ agent.submitted := by
    intro confirmed context at'
    obtain ⟨issued, new⟩ := inv.submitting confirmed context at'
    exact ⟨grows _ issued, new⟩
  have known : ∀ other ∈ agent.submitted, other ∈ agent.issued ++ [requestId] :=
    fun other member => grows other (inv.known other member)
  cases session with
  | none =>
      exact ⟨inv.once, inv.audited, inv.removed, submitting,
        fun other context found => grows other (inv.stored other context found), known⟩
  | some sessionId =>
      refine ⟨inv.once, inv.audited, ?_, submitting, ?_, known⟩
      · intro other member
        have different : other ≠ requestId := by
          rintro rfl
          exact fresh (inv.known other member)
        simp only [OverrideAgent.acceptRequest, Function.update_of_ne different]
        exact inv.removed other member
      · intro other context found
        by_cases same : other = requestId
        · simp [OverrideAgent.acceptRequest, same]
        · simp only [OverrideAgent.acceptRequest, Function.update_of_ne same] at found
          exact grows other (inv.stored other context found)

theorem lookUp_uneventful {confirmed : ConfirmedOverride}
    (at' : agent.loop = .received confirmed) : Uneventful agent (agent.lookUp confirmed) := by
  have before : ∀ requestId, grantDue requestId agent.loop = false := by
    simp [at', grantDue]
  unfold OverrideAgent.lookUp
  split
  · rename_i context found
    apply Uneventful.of_move _ _ before (fun _ => rfl)
    intro other taken same
    cases same
    exact ⟨found, confirmed, at'⟩
  · exact Uneventful.of_move _ _ before (fun _ => rfl) (fun _ _ elsewhere => nomatch elsewhere)

/-- The answer of the server: the loop submits what was not submitted before. -/
theorem finishSubmit_submittedOnce (env : OverrideEnv) (inv : SubmittedOnce agent)
    {confirmed : ConfirmedOverride} {context : PendingOverride}
    (at' : agent.loop = .submitting confirmed context)
    (answer : ApprovalRequest → Except String String) :
    SubmittedOnce (agent.finishSubmit env answer confirmed context) := by
  obtain ⟨issued, new⟩ := inv.submitting confirmed context at'
  unfold OverrideAgent.finishSubmit
  split
  · constructor
    · intro other
      rw [List.count_append]
      by_cases same : confirmed.requestId = other
      · subst same
        simp [List.count_eq_zero_of_not_mem new]
      · simpa [same] using inv.once other
    · intro other
      have before := inv.audited other
      rw [at'] at before
      rw [List.count_append, ← before]
      by_cases same : confirmed.requestId = other <;> simp [grantsOf, grantDue, same]
    · intro other member
      cases List.mem_append.mp member with
      | inl earlier =>
          obtain gone | ⟨received, taken, elsewhere, -⟩ := inv.removed other earlier
          · exact Or.inl gone
          · cases at'.symm.trans elsewhere
      | inr last =>
          cases List.mem_singleton.mp last
          exact Or.inr ⟨confirmed, context, rfl, rfl⟩
    · intro other taken elsewhere
      cases elsewhere
    · exact inv.stored
    · intro other member
      cases List.mem_append.mp member with
      | inl earlier => exact inv.known other earlier
      | inr last =>
          cases List.mem_singleton.mp last
          exact issued
  · have quiet := @Uneventful.of_move agent .idle agent.queue agent.discarded
      (fun _ => by simp [at', grantDue]) (fun _ => rfl) (fun _ _ elsewhere => nomatch elsewhere)
    exact quiet.submittedOnce inv

theorem remove_uneventful {confirmed : ConfirmedOverride} {context : PendingOverride}
    (at' : agent.loop = .accepted confirmed context) :
    Uneventful agent
      { agent.removePending confirmed.requestId with loop := .retired confirmed context } := by
  refine ⟨Shrinks.update _ _, rfl, rfl, rfl, ?_, ?_, fun _ _ elsewhere => nomatch elsewhere⟩
  · intro requestId
    rw [at']
    rfl
  · intro other taken same
    cases at'.symm.trans same
    exact Or.inr (Function.update_self _ _ _)

/-- The audit event is the one that was due. -/
theorem audit_submittedOnce (inv : SubmittedOnce agent) {confirmed : ConfirmedOverride}
    {context : PendingOverride} (at' : agent.loop = .retired confirmed context)
    (event : OverrideGranted) :
    SubmittedOnce { agent with
      loop := .idle, granted := agent.granted ++ [(confirmed.requestId, event)] } := by
  refine ⟨inv.once, ?_, ?_, fun _ _ elsewhere => (nomatch elsewhere), inv.stored, inv.known⟩
  · intro other
    have before := inv.audited other
    rw [at'] at before
    rw [← before]
    by_cases same : confirmed.requestId = other <;> simp [grantsOf, grantDue, same]
  · intro other member
    obtain gone | ⟨received, taken, elsewhere, -⟩ := inv.removed other member
    · exact Or.inl gone
    · cases at'.symm.trans elsewhere

/-- Every step with a new id keeps the submissions apart. -/
theorem step_submittedOnce (env : OverrideEnv) (event : OverrideEvent)
    (inv : SubmittedOnce agent) (fresh : FreshId agent event) :
    SubmittedOnce (agent.step env event) := by
  cases event with
  | wait milliseconds =>
      exact inv.aside (Shrinks.refl _) rfl rfl rfl rfl
  | request requestId request session =>
      simp only [OverrideAgent.step]
      split
      · exact acceptRequest_submittedOnce inv fresh request session
      · exact inv
  | sent delivered =>
      simp only [OverrideAgent.step]
      split
      · exact inv
      · cases delivered with
        | true => exact inv.aside (Shrinks.refl _) rfl rfl rfl rfl
        | false => exact inv.aside (Shrinks.update _ _) rfl rfl rfl rfl
  | userConfirmed requestId justification =>
      simp only [OverrideAgent.step, OverrideAgent.dispatchConfirmed]
      split
      · exact inv.aside (Shrinks.refl _) rfl rfl rfl rfl
      · exact inv
  | enqueue index =>
      simp only [OverrideAgent.step, OverrideAgent.enqueue]
      split
      · split
        · exact inv.aside (Shrinks.refl _) rfl rfl rfl rfl
        · exact inv
      · exact inv
  | userCancelled requestId =>
      exact inv.aside (Shrinks.update _ _) rfl rfl rfl rfl
  | receive =>
      simp only [OverrideAgent.step]
      split
      · rename_i confirmed rest idle _
        have before : ∀ requestId, grantDue requestId agent.loop = false := by
          simp [idle, grantDue]
        have quiet := @Uneventful.of_move agent (.received confirmed) rest agent.discarded before
          (fun _ => rfl) (fun _ _ elsewhere => nomatch elsewhere)
        exact quiet.submittedOnce inv
      · exact inv
  | lookUp =>
      simp only [OverrideAgent.step]
      split
      · rename_i confirmed at'
        exact (lookUp_uneventful at').submittedOnce inv
      · exact inv
  | answer answer =>
      simp only [OverrideAgent.step]
      split
      · rename_i confirmed context at'
        exact finishSubmit_submittedOnce env inv at' answer
      · exact inv
  | remove =>
      simp only [OverrideAgent.step]
      split
      · rename_i confirmed context at'
        exact (remove_uneventful at').submittedOnce inv
      · exact inv
  | audit =>
      simp only [OverrideAgent.step]
      split
      · rename_i confirmed context at'
        exact audit_submittedOnce inv at' _
      · exact inv
  | reap =>
      exact inv.aside (Shrinks.filter _ _) rfl rfl rfl rfl

end Steps

/-! ## Confirmations -/

/-- A confirmation that waits has a context, or its request is concluded. -/
structure NoneLost (agent : OverrideAgent) : Prop where
  waiting : ∀ confirmed, OverrideWaiting agent confirmed →
    (agent.pending confirmed.requestId).isSome ∨ Concluded agent confirmed.requestId
  explained : ∀ requestId ∈ agent.discarded, Concluded agent requestId

theorem start_noneLost (clock : Nat) : NoneLost (OverrideAgent.start clock) where
  waiting := by
    rintro confirmed (held | queued | received)
    · cases held
    · cases queued
    · cases received
  explained := fun _ member => nomatch member

/-- What a step has to keep so that no confirmation is lost. -/
structure KeepsConfirmations (agent next : OverrideAgent) : Prop where
  waiting : ∀ confirmed, OverrideWaiting next confirmed →
    OverrideWaiting agent confirmed ∨ (next.pending confirmed.requestId).isSome
  context : ∀ confirmed, OverrideWaiting agent confirmed →
    (agent.pending confirmed.requestId).isSome → ¬ Concluded agent confirmed.requestId →
      (next.pending confirmed.requestId).isSome ∨ Concluded next confirmed.requestId
  concluded : ∀ requestId, Concluded agent requestId → Concluded next requestId
  discarded : ∀ requestId ∈ next.discarded,
    requestId ∈ agent.discarded ∨ Concluded next requestId

theorem NoneLost.keep {agent next : OverrideAgent} (inv : NoneLost agent)
    (keeps : KeepsConfirmations agent next) : NoneLost next := by
  constructor
  · intro confirmed waiting
    cases keeps.waiting confirmed waiting with
    | inr found => exact Or.inl found
    | inl before =>
        by_cases concluded : Concluded agent confirmed.requestId
        · exact Or.inr (keeps.concluded _ concluded)
        · cases inv.waiting confirmed before with
          | inl found => exact keeps.context confirmed before found concluded
          | inr concluded' => exact absurd concluded' concluded
  · intro requestId member
    cases keeps.discarded requestId member with
    | inl earlier => exact keeps.concluded requestId (inv.explained requestId earlier)
    | inr concluded => exact concluded

theorem KeepsConfirmations.refl (agent : OverrideAgent) : KeepsConfirmations agent agent where
  waiting := fun _ => Or.inl
  context := fun _ _ found _ => Or.inl found
  concluded := fun _ concluded => concluded
  discarded := fun _ => Or.inl

/-- Contexts are removed, and nothing else happens to the confirmations. -/
theorem KeepsConfirmations.of_removal {agent next : OverrideAgent}
    (held : next.held = agent.held) (queue : next.queue = agent.queue)
    (loop : ∀ confirmed, next.loop = .received confirmed → agent.loop = .received confirmed)
    (discarded : next.discarded = agent.discarded)
    (concluded : ∀ requestId, Concluded agent requestId → Concluded next requestId)
    (context : ∀ confirmed, OverrideWaiting agent confirmed →
      (agent.pending confirmed.requestId).isSome → ¬ Concluded agent confirmed.requestId →
        (next.pending confirmed.requestId).isSome ∨ Concluded next confirmed.requestId) :
    KeepsConfirmations agent next where
  waiting := by
    unfold OverrideWaiting
    rw [held, queue]
    rintro confirmed (first | second | third)
    · exact Or.inl (Or.inl first)
    · exact Or.inl (Or.inr (Or.inl second))
    · exact Or.inl (Or.inr (Or.inr (loop confirmed third)))
  context := context
  concluded := concluded
  discarded := by
    rw [discarded]
    exact fun _ => Or.inl

/-- Nothing happens to the map or to the confirmations. -/
theorem KeepsConfirmations.of_contexts {agent next : OverrideAgent}
    (held : next.held = agent.held) (queue : next.queue = agent.queue)
    (loop : ∀ confirmed, next.loop = .received confirmed → agent.loop = .received confirmed)
    (discarded : next.discarded = agent.discarded) (pending : next.pending = agent.pending)
    (concluded : ∀ requestId, Concluded agent requestId → Concluded next requestId) :
    KeepsConfirmations agent next := by
  apply KeepsConfirmations.of_removal held queue loop discarded concluded
  intro confirmed _ found _
  rw [pending]
  exact Or.inl found

/-- A confirmation moves on between the dispatchers, the channel and the loop. -/
theorem KeepsConfirmations.of_move {agent : OverrideAgent} {held queue : List ConfirmedOverride}
    {loop : OverrideLoop}
    (waiting : ∀ confirmed,
      confirmed ∈ held ∨ confirmed ∈ queue ∨ loop = .received confirmed →
        OverrideWaiting agent confirmed) :
    KeepsConfirmations agent { agent with held := held, queue := queue, loop := loop } where
  waiting := fun confirmed after => Or.inl (waiting confirmed after)
  context := fun _ _ found _ => Or.inl found
  concluded := fun _ concluded => concluded
  discarded := fun _ => Or.inl

theorem enqueue_keepsConfirmations (agent : OverrideAgent) (index : Nat) :
    KeepsConfirmations agent (agent.enqueue index) := by
  unfold OverrideAgent.enqueue
  split
  · rename_i confirmed found
    split
    · apply KeepsConfirmations.of_move
      rintro other (held | queued | received)
      · exact Or.inl (List.mem_of_mem_eraseIdx held)
      · cases List.mem_append.mp queued with
        | inl earlier => exact Or.inr (Or.inl earlier)
        | inr last =>
            cases List.mem_singleton.mp last
            exact Or.inl (List.mem_of_getElem? found)
      · exact Or.inr (Or.inr received)
    · exact KeepsConfirmations.refl agent
  · exact KeepsConfirmations.refl agent

theorem dispatchConfirmed_keepsConfirmations (agent : OverrideAgent)
    (requestId justification : String) :
    KeepsConfirmations agent (agent.dispatchConfirmed requestId justification) := by
  unfold OverrideAgent.dispatchConfirmed
  split
  · rename_i context found
    refine ⟨?_, fun _ _ still _ => Or.inl still, fun _ concluded => concluded, fun _ => Or.inl⟩
    rintro confirmed (held | queued | received)
    · cases List.mem_append.mp held with
      | inl earlier => exact Or.inl (Or.inl earlier)
      | inr last =>
          cases List.mem_singleton.mp last
          exact Or.inr (Option.isSome_iff_exists.mpr ⟨context, found⟩)
    · exact Or.inl (Or.inr (Or.inl queued))
    · exact Or.inl (Or.inr (Or.inr received))
  · exact KeepsConfirmations.refl agent

/-- The lookup: without a context the request is concluded already. -/
theorem lookUp_noneLost {agent : OverrideAgent} (inv : NoneLost agent)
    {confirmed : ConfirmedOverride} (at' : agent.loop = .received confirmed) :
    NoneLost (agent.lookUp confirmed) := by
  unfold OverrideAgent.lookUp
  split
  · apply inv.keep
    exact KeepsConfirmations.of_contexts rfl rfl (fun _ elsewhere => nomatch elsewhere) rfl rfl
      (fun _ concluded => concluded)
  · rename_i gone
    have concluded : Concluded agent confirmed.requestId := by
      cases inv.waiting confirmed (Or.inr (Or.inr at')) with
      | inl found => simp [gone] at found
      | inr concluded => exact concluded
    constructor
    · rintro other (held | queued | received)
      · exact inv.waiting other (Or.inl held)
      · exact inv.waiting other (Or.inr (Or.inl queued))
      · cases received
    · intro requestId member
      cases List.mem_append.mp member with
      | inl earlier => exact inv.explained requestId earlier
      | inr last =>
          cases List.mem_singleton.mp last
          exact concluded

theorem isSome_update_of_ne {pending : String → Option PendingOverride} {requestId other : String}
    (different : other ≠ requestId) (found : (pending other).isSome)
    (context : Option PendingOverride) :
    (Function.update pending requestId context other).isSome := by
  rwa [Function.update_of_ne different]

theorem acceptRequest_keepsConfirmations (agent : OverrideAgent) (requestId : String)
    (request : OverrideRequest) (session : Option Nat) :
    KeepsConfirmations agent (agent.acceptRequest requestId request session) := by
  cases session with
  | none =>
      exact KeepsConfirmations.of_contexts rfl rfl (fun _ same => same) rfl rfl
        (fun _ concluded => concluded)
  | some sessionId =>
      refine KeepsConfirmations.of_removal rfl rfl (fun _ same => same) rfl
        (fun _ concluded => concluded) ?_
      intro confirmed _ found _
      by_cases same : confirmed.requestId = requestId
      · simp [OverrideAgent.acceptRequest, same]
      · exact Or.inl (isSome_update_of_ne same found _)

/-- What a cancellation removes is concluded. -/
theorem dispatchCancelled_keepsConfirmations (agent : OverrideAgent) (requestId : String) :
    KeepsConfirmations agent (agent.dispatchCancelled requestId) := by
  have grows : ∀ other, Concluded agent other →
      Concluded (agent.dispatchCancelled requestId) other := by
    rintro other (cancelled | submitted)
    · exact Or.inl (List.mem_append_left _ cancelled)
    · exact Or.inr submitted
  refine KeepsConfirmations.of_removal rfl rfl (fun _ same => same) rfl grows ?_
  intro confirmed _ found _
  by_cases same : confirmed.requestId = requestId
  · exact Or.inr (Or.inl (List.mem_append_right _ (by simp [same])))
  · exact Or.inl (isSome_update_of_ne same found none)

theorem finishSubmit_keepsConfirmations (env : OverrideEnv) (agent : OverrideAgent)
    (answer : ApprovalRequest → Except String String) (confirmed : ConfirmedOverride)
    (context : PendingOverride) :
    KeepsConfirmations agent (agent.finishSubmit env answer confirmed context) := by
  unfold OverrideAgent.finishSubmit
  split
  · refine KeepsConfirmations.of_contexts rfl rfl (fun _ elsewhere => nomatch elsewhere)
      rfl rfl ?_
    rintro other (cancelled | submitted)
    · exact Or.inl cancelled
    · exact Or.inr (List.mem_append_left _ submitted)
  · exact KeepsConfirmations.of_contexts rfl rfl (fun _ elsewhere => nomatch elsewhere) rfl rfl
      (fun _ concluded => concluded)

/-- A request that the loop has to retire is submitted. -/
theorem SubmittedOnce.mem_submitted {agent : OverrideAgent} (inv : SubmittedOnce agent)
    {confirmed : ConfirmedOverride} {context : PendingOverride}
    (at' : agent.loop = .accepted confirmed context) :
    confirmed.requestId ∈ agent.submitted := by
  have counted := inv.audited confirmed.requestId
  rw [at'] at counted
  simp only [grantDue, decide_true, Bool.toNat_true] at counted
  apply List.count_pos_iff.mp
  omega

/-- A failed send removes the context of no waiting confirmation. -/
theorem finishSend_keepsConfirmations {agent : OverrideAgent} {message : OverrideMessage}
    (delivered : Bool) (sending : agent.task = .sending message)
    (keeps : KeepsContext agent (.sent delivered)) :
    KeepsConfirmations agent (agent.finishSend message delivered) := by
  cases delivered with
  | true =>
      exact KeepsConfirmations.of_contexts rfl rfl (fun _ same => same) rfl rfl
        (fun _ concluded => concluded)
  | false =>
      refine KeepsConfirmations.of_removal rfl rfl (fun _ same => same) rfl
        (fun _ concluded => concluded) ?_
      intro confirmed waiting found unsettled
      have different := keeps confirmed message waiting unsettled sending
      exact Or.inl (isSome_update_of_ne different found none)

theorem receive_keepsConfirmations {agent : OverrideAgent} {confirmed : ConfirmedOverride}
    {rest : List ConfirmedOverride} (queued : agent.queue = confirmed :: rest) :
    KeepsConfirmations agent { agent with loop := .received confirmed, queue := rest } := by
  apply KeepsConfirmations.of_move
  rintro other (held | later | received)
  · exact Or.inl held
  · exact Or.inr (Or.inl (by simp [queued, later]))
  · cases received
    exact Or.inr (Or.inl (by simp [queued]))

/-- The context that the loop removes is that of a submitted request. -/
theorem remove_keepsConfirmations {agent : OverrideAgent} (once : SubmittedOnce agent)
    {confirmed : ConfirmedOverride} {context : PendingOverride}
    (at' : agent.loop = .accepted confirmed context) :
    KeepsConfirmations agent
      { agent.removePending confirmed.requestId with loop := .retired confirmed context } := by
  refine KeepsConfirmations.of_removal rfl rfl (fun _ elsewhere => nomatch elsewhere) rfl
    (fun _ concluded => concluded) ?_
  intro other _ found _
  by_cases same : other.requestId = confirmed.requestId
  · rw [same]
    exact Or.inr (Or.inr (once.mem_submitted at'))
  · exact Or.inl (isSome_update_of_ne same found none)

theorem reap_keepsConfirmations {agent : OverrideAgent} (keeps : KeepsContext agent .reap) :
    KeepsConfirmations agent agent.reap := by
  refine KeepsConfirmations.of_removal rfl rfl (fun _ same => same) rfl
    (fun _ concluded => concluded) ?_
  intro confirmed waiting found unsettled
  obtain ⟨context, stored⟩ := Option.isSome_iff_exists.mp found
  have young := keeps confirmed context waiting unsettled stored
  apply Or.inl
  simp [OverrideAgent.reap, stored, young]

/-- Every step that keeps the contexts of waiting confirmations loses none. -/
theorem step_noneLost {agent : OverrideAgent} (env : OverrideEnv) (event : OverrideEvent)
    (once : SubmittedOnce agent) (inv : NoneLost agent) (keeps : KeepsContext agent event) :
    NoneLost (agent.step env event) := by
  cases event with
  | wait milliseconds =>
      apply inv.keep
      exact KeepsConfirmations.of_contexts rfl rfl (fun _ same => same) rfl rfl
        (fun _ concluded => concluded)
  | request requestId request session =>
      simp only [OverrideAgent.step]
      split
      · exact inv.keep (acceptRequest_keepsConfirmations agent requestId request session)
      · exact inv
  | sent delivered =>
      simp only [OverrideAgent.step]
      split
      · exact inv
      · rename_i message sending
        exact inv.keep (finishSend_keepsConfirmations delivered sending keeps)
  | userConfirmed requestId justification =>
      exact inv.keep (dispatchConfirmed_keepsConfirmations agent requestId justification)
  | enqueue index => exact inv.keep (enqueue_keepsConfirmations agent index)
  | userCancelled requestId =>
      exact inv.keep (dispatchCancelled_keepsConfirmations agent requestId)
  | receive =>
      simp only [OverrideAgent.step]
      split
      · rename_i confirmed rest idle queued
        exact inv.keep (receive_keepsConfirmations queued)
      · exact inv
  | lookUp =>
      simp only [OverrideAgent.step]
      split
      · rename_i confirmed at'
        exact lookUp_noneLost inv at'
      · exact inv
  | answer answer =>
      simp only [OverrideAgent.step]
      split
      · rename_i confirmed context at'
        exact inv.keep (finishSubmit_keepsConfirmations env agent answer confirmed context)
      · exact inv
  | remove =>
      simp only [OverrideAgent.step]
      split
      · rename_i confirmed context at'
        exact inv.keep (remove_keepsConfirmations once at')
      · exact inv
  | audit =>
      simp only [OverrideAgent.step]
      split
      · apply inv.keep
        exact KeepsConfirmations.of_contexts rfl rfl (fun _ elsewhere => nomatch elsewhere)
          rfl rfl (fun _ concluded => concluded)
      · exact inv
  | reap => exact inv.keep (reap_keepsConfirmations keeps)

/-! ## Runs -/

/-- In every run with distinct request ids, each request is submitted at most once, and the
audit events are those of the submissions that the server accepted. -/
theorem run_submittedOnce (env : OverrideEnv) (clock : Nat) (events : List OverrideEvent)
    (fresh : Each (OverrideAgent.step env) FreshId (OverrideAgent.start clock) events) :
    SubmittedOnce (events.foldl (OverrideAgent.step env) (OverrideAgent.start clock)) :=
  fresh.invariant (fun _ event inv => step_submittedOnce env event inv) (start_submittedOnce clock)

/-- In every run with distinct request ids in which neither the reaper nor a failed send
removes the context of a confirmation that waits, no override is granted twice and none is
lost. -/
theorem run_overridesKept (env : OverrideEnv) (clock : Nat) (events : List OverrideEvent)
    (met : Each (OverrideAgent.step env)
      (fun agent event => FreshId agent event ∧ KeepsContext agent event)
      (OverrideAgent.start clock) events) :
    ∀ before after, events = before ++ after →
      OverridesKept (before.foldl (OverrideAgent.step env) (OverrideAgent.start clock)) := by
  rintro before after rfl
  have part := ((Lib.each_append _ before after).mp met).1
  have preserved : ∀ agent event, SubmittedOnce agent ∧ NoneLost agent →
      FreshId agent event ∧ KeepsContext agent event →
        SubmittedOnce (agent.step env event) ∧ NoneLost (agent.step env event) := by
    rintro agent event ⟨once, none⟩ ⟨fresh, keeps⟩
    exact ⟨step_submittedOnce env event once fresh, step_noneLost env event once none keeps⟩
  obtain ⟨once, none⟩ :=
    part.invariant preserved ⟨start_submittedOnce clock, start_noneLost clock⟩
  exact ⟨once.once, once.audited, none.explained⟩

/-- A request of the hook for one document. -/
def documentOverride : OverrideRequest where
  requesterSid := "S-1-5-21-7"
  pid := 4120
  dataObjectId := "doc-9"
  action := "COPY"
  classification := "T3"
  destinationScope := none
  justification := ""
  resourcePath := "C:\\Finance\\plan.docx"

/-- An agent with a server and one account. -/
def overrideEnv : OverrideEnv where
  serverClient := some "agent-1"
  agentIdVariable := none
  lookupAccountName sid := if sid = "S-1-5-21-7" then some "alice" else none

/-- A confirmation that waits for a minute, past a tick of the reaper, and is accepted. -/
def acceptedInTime : List OverrideEvent :=
  [.request "ovr-1" documentOverride (some 2), .sent true, .userConfirmed "ovr-1" "audit",
    .enqueue 0, .wait 60000, .reap, .receive, .lookUp, .answer (fun _ => .ok "apr-1"), .remove,
    .audit]

theorem acceptedInTime_kept :
    OverridesKept (acceptedInTime.foldl (OverrideAgent.step overrideEnv)
        (OverrideAgent.start 0)) ∧
      (acceptedInTime.foldl (OverrideAgent.step overrideEnv)
        (OverrideAgent.start 0)).submitted = ["ovr-1"] := by
  constructor
  · apply run_overridesKept overrideEnv 0 acceptedInTime ?_ acceptedInTime [] (by simp)
    have young : ∀ agent : OverrideAgent, agent.clock < overridePendingTtl →
        KeepsContext agent .reap :=
      fun _ early _ _ _ _ _ => Nat.lt_of_le_of_lt (Nat.sub_le _ _) early
    exact ⟨⟨List.not_mem_nil, trivial⟩, ⟨trivial, trivial⟩, ⟨trivial, trivial⟩, ⟨trivial, trivial⟩,
      ⟨trivial, trivial⟩, ⟨trivial, young _ (by decide)⟩,
      ⟨trivial, trivial⟩, ⟨trivial, trivial⟩, ⟨trivial, trivial⟩, ⟨trivial, trivial⟩,
      ⟨trivial, trivial⟩, trivial⟩
  · decide

/-- Two confirmed requests; the submission of the first takes two minutes, and the reaper
ticks at its end. -/
def slowSubmission : List OverrideEvent :=
  [.request "ovr-1" documentOverride (some 2), .sent true,
    .request "ovr-2" documentOverride (some 2), .sent true,
    .userConfirmed "ovr-1" "audit", .enqueue 0, .userConfirmed "ovr-2" "audit", .enqueue 0,
    .receive, .lookUp, .wait 120000, .reap, .answer (fun _ => .ok "apr-1"), .remove, .audit,
    .receive, .lookUp]

/-- The second confirmation is lost: it was neither cancelled nor submitted. -/
theorem slowSubmission_not_kept :
    let agent := slowSubmission.foldl (OverrideAgent.step overrideEnv) (OverrideAgent.start 0)
    Each (OverrideAgent.step overrideEnv) FreshId (OverrideAgent.start 0) slowSubmission ∧
      agent.discarded = ["ovr-2"] ∧ agent.cancelled = [] ∧ agent.submitted = ["ovr-1"] ∧
      ¬ OverridesKept agent := by
  refine ⟨?_, by decide, by decide, by decide, ?_⟩
  · simp [slowSubmission, FreshId, OverrideAgent.step, OverrideAgent.start,
      OverrideAgent.acceptRequest, OverrideAgent.finishSend]
  · intro kept
    have explained := kept.explained "ovr-2" (by decide)
    revert explained
    decide

end DlpSystem.Approvals
