import DlpSystem.Approval.Requests
import DlpSystem.Lib.Fallible
import Mathlib.Data.List.Perm.Basic

/-!
# The lifecycle of an approval

Grants, rejects and revokes of one approval may overlap in any way, and old pending
approvals may be cleaned up meanwhile.  The status guard of the update decides: a row
leaves `pending` once and `approved` once.
-/

namespace DlpSystem.Approvals

open Common Abac Server
open Lib (bind_eq_ok_iff foldl_invariant)

/-! ## Steps and counts -/

/-- The steps of the server, and the clean-up, which no handler runs. -/
inductive LifecycleStep
  | serve (step : ServerStep)
  | cleanup (before : String) (fails : Bool)

/-- The effect of a step. -/
def lifecycleNext (env : ApprovalEnv) (server : ApprovalServer) : LifecycleStep → ApprovalServer
  | .serve step => server.next env step
  | .cleanup before fails =>
      if fails then server
      else
        { server with
          db := { server.db with approvals := server.db.approvals.cleanupOrphaned before } }

/-- The status of an approval, when it is in the table. -/
def statusOf (server : ApprovalServer) (id : String) : Option ApprovalStatus :=
  (server.db.approvals.getById id).map ApprovalRow.status

/-- The requests that settle a pending approval. -/
def RequestKind.isDecision : RequestKind → Bool
  | .grant => true
  | .reject => true
  | _ => false

/-- The requests that revoke. -/
def RequestKind.isRevocation : RequestKind → Bool
  | .revoke => true
  | _ => false

/-- The requests of some kinds on an approval that have answered with success. -/
def succeeded (kinds : RequestKind → Bool) (id : String) (server : ApprovalServer) : Nat :=
  server.successes.countP fun success => kinds success.1 && decide (success.2 = id)

/-- A request of some kinds on an approval whose change is committed. -/
def Request.audits (kinds : RequestKind → Bool) (id : String) : Request → Bool
  | .auditing kind named _ => kinds kind && decide (named = id)
  | _ => false

/-- The requests of some kinds on an approval whose change is committed, answered or not. -/
def handled (kinds : RequestKind → Bool) (id : String) (server : ApprovalServer) : Nat :=
  succeeded kinds id server + server.requests.countP (Request.audits kinds id)

theorem succeeded_le_handled (kinds : RequestKind → Bool) (id : String)
    (server : ApprovalServer) : succeeded kinds id server ≤ handled kinds id server :=
  Nat.le_add_right _ _

/-! ## What a step does to an approval -/

/-- The updates of the handlers, by the request that makes them. -/
inductive HandlerUpdate (env : ApprovalEnv) : RequestKind → StateUpdate → Prop
  | grant (id : String) (body : GrantRequest) (now validUntil : DateTime) :
      HandlerUpdate env .grant (grantUpdate env id body now validUntil)
  | reject (id : String) (now : DateTime) : HandlerUpdate env .reject (rejectUpdate env id now)
  | revoke (id : String) (now : DateTime) : HandlerUpdate env .revoke (revokeUpdate env id now)

/-- Everything a step can do to the approvals and the counts: nothing, a new pending row,
the commit of one handler's update, or the removal of old pending rows. -/
inductive StepEffect (env : ApprovalEnv) (server after : ApprovalServer) : Prop
  | quiet (same : after.db.approvals = server.db.approvals)
      (counts : ∀ kinds id, handled kinds id after ≤ handled kinds id server)
  | created (record : ApprovalUpsertRow)
      (inserted : server.db.approvals.insert record = some after.db.approvals)
      (counts : ∀ kinds id, kinds .create = false →
        handled kinds id after ≤ handled kinds id server)
  | committed (kind : RequestKind) (update : StateUpdate) (made : HandlerUpdate env kind update)
      (affected : (server.db.approvals.updateState update).2 ≠ 0)
      (updated : after.db.approvals = (server.db.approvals.updateState update).1)
      (counts : ∀ kinds id, handled kinds id after ≤
        handled kinds id server + if kinds kind && decide (update.id = id) then 1 else 0)
  | cleaned (before : String)
      (removed : after.db.approvals = server.db.approvals.cleanupOrphaned before)
      (counts : ∀ kinds id, handled kinds id after ≤ handled kinds id server)

theorem countP_of_getElem? {requests : List Request} {index : Nat} {request : Request}
    (found : requests[index]? = some request) (holds : Request → Bool) :
    requests.countP holds =
      (requests.eraseIdx index).countP holds + if holds request then 1 else 0 := by
  rcases List.getElem?_eq_some_iff.mp found with ⟨inRange, rfl⟩
  rw [← List.countP_cons]
  exact ((List.getElem_cons_eraseIdx_perm inRange).countP_eq holds).symm

/-- The counts after a request's step, from what the request was and has become. -/
theorem handled_absorb {server : ApprovalServer} {index : Nat} {request : Request}
    (found : server.requests[index]? = some request) (effect : Effect)
    (kinds : RequestKind → Bool) (id : String) :
    handled kinds id (server.absorb index effect) + (if request.audits kinds id then 1 else 0) =
      handled kinds id server +
        effect.success.toList.countP (fun success => kinds success.1 && decide (success.2 = id)) +
        effect.next.toList.countP (Request.audits kinds id) := by
  have before := countP_of_getElem? found (Request.audits kinds id)
  simp only [handled, succeeded, ApprovalServer.absorb, List.countP_append]
  omega

section Advance

variable {env : ApprovalEnv} {server : ApprovalServer} {index : Nat} {request : Request}

/-- A step that leaves the approvals alone and starts no audit. -/
theorem quiet_absorb (found : server.requests[index]? = some request) {effect : Effect}
    (same : effect.db.approvals = server.db.approvals) (noSuccess : effect.success = none)
    (noAudit : ∀ kinds id, effect.next.toList.countP (Request.audits kinds id) = 0) :
    StepEffect env server (server.absorb index effect) := by
  apply StepEffect.quiet same
  intro kinds id
  have counted := handled_absorb found effect kinds id
  rw [noAudit kinds id, noSuccess] at counted
  simp only [Option.toList_none, List.countP_nil] at counted
  omega

theorem fail_absorb (found : server.requests[index]? = some request) :
    StepEffect env server (server.absorb index (.fail server.db)) :=
  quiet_absorb found rfl rfl fun _ _ => rfl

/-- The commit of a handler. -/
theorem commit_absorb (found : server.requests[index]? = some request) {fails : Bool}
    {update : StateUpdate} {kind : RequestKind} (made : HandlerUpdate env kind update)
    (approval : ApprovalRow) (granted : Option (String × GrantRecord)) :
    StepEffect env server
      (server.absorb index (Request.commit server.db fails update kind approval granted)) := by
  cases committed : commitUpdate server.db.approvals fails update with
  | error error =>
      have failed : Request.commit server.db fails update kind approval granted =
          .fail server.db := by
        rw [Request.commit, committed]
      rw [failed]
      exact fail_absorb found
  | ok approvals =>
      have effect : Request.commit server.db fails update kind approval granted =
          ⟨{ server.db with approvals := approvals }, some (.auditing kind update.id approval),
            granted, none, none⟩ := by
        rw [Request.commit, committed]
      rw [effect]
      rcases commitUpdate_eq_ok_iff.mp committed with ⟨_, affected, rfl⟩
      apply StepEffect.committed kind update made affected rfl
      intro kinds id
      have counted := handled_absorb found ⟨{ server.db with approvals :=
        (server.db.approvals.updateState update).1 }, some (.auditing kind update.id approval),
          granted, none, none⟩ kinds id
      simp only [Option.toList_none, List.countP_nil, Option.toList_some, List.countP_singleton]
        at counted
      exact Nat.le_trans (Nat.le_add_right _ _) (Nat.le_of_eq counted)

/-- What the next step of a request can do. -/
theorem advance_effect (found : server.requests[index]? = some request) (now : DateTime)
    (fails : Bool) (correlationId : String) :
    StepEffect env server
      (server.absorb index (request.advance env server.db now fails correlationId)) := by
  cases request with
  | granting id body validUntil row stage =>
      cases stage with
      | fetched => exact quiet_absorb found rfl rfl fun _ _ => rfl
      | tiered tier =>
          simp only [Request.advance]
          cases boardGate env tier server.db.boardKey fails id row body with
          | error error => exact fail_absorb found
          | ok _ => exact quiet_absorb found rfl rfl fun _ _ => rfl
      | gated boardKey =>
          simp only [Request.advance]
          cases env.signToken (approvalClaims row id now validUntil) with
          | error error => exact fail_absorb found
          | ok token => exact quiet_absorb found rfl rfl fun _ _ => rfl
      | signed boardKey grantedAt token =>
          exact commit_absorb found (.grant id body grantedAt validUntil) _ _
  | rejecting id row => exact commit_absorb found (.reject id now) _ _
  | revoking id row => exact commit_absorb found (.revoke id now) _ _
  | auditing kind id approval =>
      cases fails with
      | true => exact fail_absorb found
      | false =>
          have same : (server.absorb index (Request.advance env server.db now false correlationId
              (.auditing kind id approval))).db.approvals = server.db.approvals := rfl
          apply StepEffect.quiet same
          intro kinds other
          have counted := handled_absorb found
            (Request.advance env server.db now false correlationId (.auditing kind id approval))
            kinds other
          -- the request leaves the audits and joins the successes
          have moved : ((Request.advance env server.db now false correlationId
              (.auditing kind id approval)).success.toList.countP fun success =>
                kinds success.1 && decide (success.2 = other)) =
              if (Request.auditing kind id approval).audits kinds other then 1 else 0 :=
            List.countP_singleton
          rw [moved] at counted
          exact Nat.le_of_eq (Nat.add_right_cancel counted)
  | listing rows =>
      cases rows with
      | nil => exact fail_absorb found
      | cons pair rest =>
          simp only [Request.advance]
          cases activeResponse env now pair.1 with
          | error error => exact fail_absorb found
          | ok response => exact quiet_absorb found rfl rfl fun _ _ => rfl

end Advance

theorem accept_effect {env : ApprovalEnv} {server : ApprovalServer}
    {accepted : Except AppError Request}
    (noAudit : ∀ request, accepted = .ok request → ∀ kinds id, request.audits kinds id = false) :
    StepEffect env server (server.accept accepted) := by
  cases outcome : accepted with
  | error error => exact .quiet rfl fun _ _ => Nat.le_refl _
  | ok request =>
      refine .quiet rfl ?_
      intro kinds id
      simp [handled, succeeded, ApprovalServer.accept, noAudit request outcome kinds id]

/-- What a step can do. -/
theorem next_effect (env : ApprovalEnv) (server : ApprovalServer) (step : ServerStep) :
    StepEffect env server (server.next env step) := by
  cases step with
  | createLabel row => exact .quiet rfl fun _ _ => Nat.le_refl _
  | updateLabel row => exact .quiet rfl fun _ _ => Nat.le_refl _
  | deleteLabel id => exact .quiet rfl fun _ _ => Nat.le_refl _
  | updateBoardKey pubkeyHex fails => exact .quiet rfl fun _ _ => Nat.le_refl _
  | create id now body fails =>
      simp only [ApprovalServer.next]
      cases body.validate with
      | error error => exact .quiet rfl fun _ _ => Nat.le_refl _
      | ok _ =>
          cases committed : commitInsert server.db.approvals fails
              (body.record id (env.toRfc3339 now)) with
          | error error => exact .quiet rfl fun _ _ => Nat.le_refl _
          | ok approvals =>
              apply StepEffect.created _ (commitInsert_eq_ok_iff.mp committed).2
              intro kinds other noCreate
              simp [handled, succeeded, Request.audits, noCreate]
  | startGrant id now body fails =>
      apply accept_effect
      intro request accepted kinds other
      rcases bind_eq_ok_iff.mp accepted with ⟨validUntil, _, accepted⟩
      rcases bind_eq_ok_iff.mp accepted with ⟨row, _, accepted⟩
      cases Except.ok.inj accepted
      rfl
  | startReject id fails =>
      apply accept_effect
      intro request accepted kinds other
      rcases bind_eq_ok_iff.mp accepted with ⟨row, _, accepted⟩
      cases Except.ok.inj accepted
      rfl
  | startRevoke id fails =>
      apply accept_effect
      intro request accepted kinds other
      rcases bind_eq_ok_iff.mp accepted with ⟨row, _, accepted⟩
      cases Except.ok.inj accepted
      rfl
  | startList now fails =>
      simp only [ApprovalServer.next]
      split
      · exact .quiet rfl fun _ _ => Nat.le_refl _
      · refine .quiet rfl ?_
        intro kinds id
        simp [handled, succeeded, Request.audits]
  | advance index now fails correlationId =>
      simp only [ApprovalServer.next]
      cases found : server.requests[index]? with
      | none => exact .quiet rfl fun _ _ => Nat.le_refl _
      | some request => exact advance_effect found now fails correlationId

theorem lifecycleNext_effect (env : ApprovalEnv) (server : ApprovalServer) (step : LifecycleStep) :
    StepEffect env server (lifecycleNext env server step) := by
  cases step with
  | serve step => exact next_effect env server step
  | cleanup before fails =>
      simp only [lifecycleNext]
      split
      · exact .quiet rfl fun _ _ => Nat.le_refl _
      · exact .cleaned before rfl fun _ _ => Nat.le_refl _

/-! ## The moves of the status -/

/-- How the status of an approval may change in one step.  `none` is an approval that is
not in the table. -/
inductive StatusMove : Option ApprovalStatus → Option ApprovalStatus → Prop
  | stays (status : Option ApprovalStatus) : StatusMove status status
  | created : StatusMove none (some .pending)
  | cleaned : StatusMove (some .pending) none
  | granted : StatusMove (some .pending) (some .approved)
  | rejected : StatusMove (some .pending) (some .rejected)
  | revoked : StatusMove (some .approved) (some .revoked)

section Moves

variable {env : ApprovalEnv} {server after : ApprovalServer} {id : String}

theorem statusOf_congr (same : after.db.approvals = server.db.approvals) :
    statusOf after id = statusOf server id := by
  rw [statusOf, statusOf, same]

/-- An update moves the approval that it names from the expected status to the new one. -/
theorem statusOf_updated {update : StateUpdate}
    (affected : (server.db.approvals.updateState update).2 ≠ 0)
    (updated : after.db.approvals = (server.db.approvals.updateState update).1) :
    statusOf server update.id = some update.expectedCurrentStatus ∧
      statusOf after update.id = some update.newStatus := by
  rcases ApprovalTable.status_of_affected affected with ⟨row, found, expected⟩
  have applies := (update.applies_iff row).mpr
    ⟨(ApprovalTable.getById_eq_some_iff.mp found).2, expected⟩
  constructor
  · rw [statusOf, found, Option.map_some, expected]
  · rw [statusOf, updated, ApprovalTable.getById_updateState, found]
    simp [StateUpdate.apply, applies, StateUpdate.set]

theorem statusOf_updated_other {update : StateUpdate} (other : update.id ≠ id)
    (updated : after.db.approvals = (server.db.approvals.updateState update).1) :
    statusOf after id = statusOf server id := by
  rw [statusOf, statusOf, updated, ApprovalTable.getById_updateState]
  cases found : server.db.approvals.getById id with
  | none => rfl
  | some row =>
      have named := (ApprovalTable.getById_eq_some_iff.mp found).2
      have untouched : ¬ update.applies row := by
        intro applies
        exact other (((update.applies_iff row).mp applies).1.symm.trans named)
      simp [StateUpdate.apply, untouched]

/-- The clean-up removes an approval only while it is pending. -/
theorem statusOf_cleaned (id : String) {before : String}
    (removed : after.db.approvals = server.db.approvals.cleanupOrphaned before) :
    statusOf after id = statusOf server id ∨
      statusOf server id = some .pending ∧ statusOf after id = none := by
  rw [statusOf, statusOf, removed, ApprovalTable.getById_cleanupOrphaned]
  cases server.db.approvals.getById id with
  | none => exact Or.inl rfl
  | some row =>
      cases orphaned : ApprovalTable.isOrphaned before row with
      | false =>
          rw [Option.filter_some, if_pos (by rw [orphaned]; rfl)]
          exact Or.inl rfl
      | true =>
          have pending : row.status = .pending := by
            simp only [ApprovalTable.isOrphaned, Bool.and_eq_true, decide_eq_true_eq] at orphaned
            exact orphaned.1
          rw [Option.filter_some, if_neg (by rw [orphaned]; decide), Option.map_some, pending]
          exact Or.inr ⟨rfl, rfl⟩

theorem HandlerUpdate.statusMove {kind : RequestKind} {update : StateUpdate}
    (made : HandlerUpdate env kind update) :
    StatusMove (some update.expectedCurrentStatus) (some update.newStatus) := by
  cases made with
  | grant id body now validUntil => exact .granted
  | reject id now => exact .rejected
  | revoke id now => exact .revoked

/-- A step moves the status of an approval along the lifecycle. -/
theorem StepEffect.statusMove (effect : StepEffect env server after) (id : String) :
    StatusMove (statusOf server id) (statusOf after id) := by
  cases effect with
  | quiet same counts =>
      rw [statusOf_congr same]
      exact .stays _
  | created record inserted counts =>
      rw [statusOf, statusOf, ApprovalTable.getById_insert inserted]
      by_cases named : record.id = id
      · rw [if_pos named, ← named, ApprovalTable.fresh_of_insert inserted]
        exact .created
      · rw [if_neg named]
        exact .stays _
  | committed kind update made affected updated counts =>
      by_cases named : update.id = id
      · rcases statusOf_updated affected updated with ⟨before, now⟩
        rw [← named, before, now]
        exact made.statusMove
      · rw [statusOf_updated_other named updated]
        exact .stays _
  | cleaned before removed counts =>
      rcases statusOf_cleaned id removed with same | ⟨pending, absent⟩
      · rw [same]
        exact .stays _
      · rw [pending, absent]
        exact .cleaned

/-! ## One decision, one revocation -/

/-- At most one decision and one revocation of an approval are committed, and each has
left its mark on the status. -/
structure Settled (id : String) (server : ApprovalServer) : Prop where
  decisions : handled RequestKind.isDecision id server ≤ 1
  decided : handled RequestKind.isDecision id server ≠ 0 →
    statusOf server id ≠ none ∧ statusOf server id ≠ some .pending
  revocations : handled RequestKind.isRevocation id server ≤ 1
  revoked : handled RequestKind.isRevocation id server ≠ 0 → statusOf server id = some .revoked

theorem Settled.no_decision (settled : Settled id server)
    (open_ : statusOf server id = none ∨ statusOf server id = some .pending) :
    handled RequestKind.isDecision id server = 0 := by
  by_contra some
  rcases open_ with absent | pending
  · exact (settled.decided some).1 absent
  · exact (settled.decided some).2 pending

theorem Settled.no_revocation (settled : Settled id server)
    (other : statusOf server id ≠ some .revoked) :
    handled RequestKind.isRevocation id server = 0 := by
  by_contra some
  exact other (settled.revoked some)

/-- Fewer counts at the same status. -/
theorem Settled.of_same_status (settled : Settled id server)
    (same : statusOf after id = statusOf server id)
    (decisions : handled RequestKind.isDecision id after ≤
      handled RequestKind.isDecision id server)
    (revocations : handled RequestKind.isRevocation id after ≤
      handled RequestKind.isRevocation id server) : Settled id after where
  decisions := Nat.le_trans decisions settled.decisions
  decided some := by
    rw [same]
    exact settled.decided (fun zero => some (Nat.le_zero.mp (zero ▸ decisions)))
  revocations := Nat.le_trans revocations settled.revocations
  revoked some := by
    rw [same]
    exact settled.revoked (fun zero => some (Nat.le_zero.mp (zero ▸ revocations)))

/-- An approval without any committed request is settled. -/
theorem Settled.of_none (decisions : handled RequestKind.isDecision id after ≤ 0)
    (revocations : handled RequestKind.isRevocation id after ≤ 0) : Settled id after where
  decisions := Nat.le_trans decisions (Nat.zero_le 1)
  decided some := absurd (Nat.le_zero.mp decisions) some
  revocations := Nat.le_trans revocations (Nat.zero_le 1)
  revoked some := absurd (Nat.le_zero.mp revocations) some

/-- A decision is the first one, since it meets a pending approval. -/
theorem Settled.decide_once (settled : Settled id server) {status : ApprovalStatus}
    (before : statusOf server id = some .pending) (now : statusOf after id = some status)
    (left : status ≠ .pending)
    (decisions : handled RequestKind.isDecision id after ≤
      handled RequestKind.isDecision id server + 1)
    (revocations : handled RequestKind.isRevocation id after ≤
      handled RequestKind.isRevocation id server) : Settled id after := by
  have first := settled.no_decision (Or.inr before)
  have unrevoked := settled.no_revocation (by simp [before])
  rw [first] at decisions
  rw [unrevoked] at revocations
  constructor
  · exact decisions
  · intro _
    simp [now, left]
  · exact Nat.le_trans revocations (Nat.zero_le 1)
  · intro some
    exact absurd (Nat.le_zero.mp revocations) some

/-- A revocation is the first one, since it meets an approved approval. -/
theorem Settled.revoke_once (settled : Settled id server)
    (before : statusOf server id = some .approved) (now : statusOf after id = some .revoked)
    (decisions : handled RequestKind.isDecision id after ≤
      handled RequestKind.isDecision id server)
    (revocations : handled RequestKind.isRevocation id after ≤
      handled RequestKind.isRevocation id server + 1) : Settled id after := by
  have first := settled.no_revocation (by simp [before])
  rw [first] at revocations
  constructor
  · exact Nat.le_trans decisions settled.decisions
  · intro _
    simp [now]
  · exact revocations
  · intro _
    exact now

/-- The commit of a handler on the approval itself. -/
theorem Settled.commit (settled : Settled id server) {kind : RequestKind} {update : StateUpdate}
    (made : HandlerUpdate env kind update)
    (before : statusOf server id = some update.expectedCurrentStatus)
    (now : statusOf after id = some update.newStatus)
    (counts : ∀ kinds, handled kinds id after ≤
      handled kinds id server + if kinds kind then 1 else 0) : Settled id after := by
  have decisions := counts RequestKind.isDecision
  have revocations := counts RequestKind.isRevocation
  cases made with
  | grant id body time validUntil =>
      exact settled.decide_once before now (show ApprovalStatus.approved ≠ .pending by decide)
        decisions revocations
  | reject id time =>
      exact settled.decide_once before now (show ApprovalStatus.rejected ≠ .pending by decide)
        decisions revocations
  | revoke id time => exact settled.revoke_once before now decisions revocations

/-- Every step keeps an approval settled. -/
theorem StepEffect.settled (effect : StepEffect env server after) (settled : Settled id server) :
    Settled id after := by
  cases effect with
  | quiet same counts =>
    exact settled.of_same_status (statusOf_congr same) (counts _ _) (counts _ _)
  | created record inserted counts =>
      have decisions := counts RequestKind.isDecision id rfl
      have revocations := counts RequestKind.isRevocation id rfl
      by_cases named : record.id = id
      · have absent : statusOf server id = none := by
          rw [statusOf, ← named, ApprovalTable.fresh_of_insert inserted, Option.map_none]
        rw [settled.no_decision (Or.inl absent)] at decisions
        rw [settled.no_revocation (by simp [absent])] at revocations
        exact .of_none decisions revocations
      · have same : statusOf after id = statusOf server id := by
          rw [statusOf, statusOf, ApprovalTable.getById_insert inserted, if_neg named]
        exact settled.of_same_status same decisions revocations
  | committed kind update made affected updated counts =>
      by_cases named : update.id = id
      · rcases statusOf_updated affected updated with ⟨before, now⟩
        rw [named] at before now
        apply settled.commit made before now
        intro kinds
        simpa [named] using counts kinds id
      · apply settled.of_same_status (statusOf_updated_other named updated)
        · simpa [named] using counts RequestKind.isDecision id
        · simpa [named] using counts RequestKind.isRevocation id
  | cleaned before removed counts =>
      have decisions := counts RequestKind.isDecision id
      have revocations := counts RequestKind.isRevocation id
      rcases statusOf_cleaned id removed with same | ⟨pending, _⟩
      · exact settled.of_same_status same decisions revocations
      · rw [settled.no_decision (Or.inr pending)] at decisions
        rw [settled.no_revocation (by simp [pending])] at revocations
        exact .of_none decisions revocations

end Moves

/-! ## Whole runs -/

/-- A server that starts: no request is in flight and none has answered. -/
structure Starts (server : ApprovalServer) : Prop where
  idle : server.requests = []
  unanswered : server.successes = []

/-- The step in which a revoke of the approval is committed. -/
def RevokeCommits (env : ApprovalEnv) (server : ApprovalServer) (id : String) :
    LifecycleStep → Prop
  | .serve (.advance index now fails _) =>
      ∃ row approvals, server.requests[index]? = some (.revoking id row) ∧
        commitUpdate server.db.approvals fails (revokeUpdate env id now) = .ok approvals
  | _ => False

theorem Starts.settled {server : ApprovalServer} (starts : Starts server) (id : String) :
    Settled id server := by
  apply Settled.of_none
  · simp [handled, succeeded, starts.idle, starts.unanswered]
  · simp [handled, succeeded, starts.idle, starts.unanswered]

theorem StatusMove.eq_revoked {status : Option ApprovalStatus}
    (move : StatusMove (some .revoked) status) : status = some .revoked := by
  cases move
  rfl

/-- Revoked is final. -/
theorem statusOf_revoked_run (env : ApprovalEnv) {server : ApprovalServer} {id : String}
    (revoked : statusOf server id = some .revoked) (run : List LifecycleStep) :
    statusOf (run.foldl (lifecycleNext env) server) id = some .revoked := by
  have preserved : ∀ server step, statusOf server id = some .revoked →
      statusOf (lifecycleNext env server step) id = some .revoked := by
    intro server step revoked
    have move := (lifecycleNext_effect env server step).statusMove id
    rw [revoked] at move
    exact move.eq_revoked
  exact @foldl_invariant _ _ _ (statusOf · id = some .revoked) preserved server run revoked

theorem statusOf_of_revokeCommits {env : ApprovalEnv} {server : ApprovalServer} {id : String}
    {step : LifecycleStep} (commits : RevokeCommits env server id step) :
    statusOf (lifecycleNext env server step) id = some .revoked := by
  match step, commits with
  | .serve (.advance index now fails correlationId), commits =>
      rcases commits with ⟨row, approvals, found, committed⟩
      rcases commitUpdate_eq_ok_iff.mp committed with ⟨_, affected, updated⟩
      have left : (lifecycleNext env server
          (.serve (.advance index now fails correlationId))).db.approvals =
            (server.db.approvals.updateState (revokeUpdate env id now)).1 := by
        simp only [lifecycleNext, ApprovalServer.next, found, Request.advance, Request.commit,
          committed]
        exact updated.symm
      exact (statusOf_updated affected left).2

/-- The lifecycle of an approval over every run: each step moves its status along the
lifecycle or not at all, at most one grant or reject and at most one revoke of it answer
with success, and once a revoke is committed no list has a token for it. -/
theorem approval_lifecycle (env : ApprovalEnv) {server : ApprovalServer} (starts : Starts server)
    (id : String) (run : List LifecycleStep) :
    (∀ before step after, run = before ++ step :: after →
      StatusMove (statusOf (before.foldl (lifecycleNext env) server) id)
        (statusOf ((before ++ [step]).foldl (lifecycleNext env) server) id)) ∧
      succeeded RequestKind.isDecision id (run.foldl (lifecycleNext env) server) ≤ 1 ∧
      succeeded RequestKind.isRevocation id (run.foldl (lifecycleNext env) server) ≤ 1 ∧
      ∀ before step after, run = before ++ step :: after →
        RevokeCommits env (before.foldl (lifecycleNext env) server) id step →
        ∀ fails now responses,
          listActiveApprovals env (run.foldl (lifecycleNext env) server).db.approvals fails now =
            .ok responses →
          ∀ response ∈ responses, response.claims.jti ≠ id := by
  have settled : Settled id (run.foldl (lifecycleNext env) server) :=
    foldl_invariant (fun server step => (lifecycleNext_effect env server step).settled) run
      (starts.settled id)
  refine ⟨?_, ?_, ?_, ?_⟩
  · intro before step after _
    rw [List.foldl_append]
    exact (lifecycleNext_effect env _ step).statusMove id
  · exact Nat.le_trans (succeeded_le_handled _ _ _) settled.decisions
  · exact Nat.le_trans (succeeded_le_handled _ _ _) settled.revocations
  · rintro before step after rfl commits fails now responses listed response member rfl
    have revoked := statusOf_revoked_run env (statusOf_of_revokeCommits commits) after
    rw [List.foldl_append, List.foldl_cons] at listed
    rcases exists_row_of_listed listed member with ⟨row, found, approved⟩
    rw [statusOf, found, Option.map_some, approved] at revoked
    cases revoked

/-- A server with one pending approval. -/
def pendingServer : ApprovalServer :=
  ⟨pendingDb, [], fun _ => none, [], []⟩

/-- A step of the first request in flight. -/
def stepFirst : LifecycleStep :=
  .serve (.advance 0 sampleNow false "event-001")

/-- A grant and a reject that have both read the pending row; the reject commits first.
A request that takes a step goes to the end of the list. -/
def overlappingRun : List LifecycleStep :=
  [.serve (.startGrant "approval-001" sampleNow ⟨"2027-01-01T00:00:00+00:00", none⟩ false),
    .serve (.startReject "approval-001" false), stepFirst, stepFirst, stepFirst, stepFirst,
    stepFirst, stepFirst]

/-- Of the two requests one succeeds. -/
theorem overlappingRun_lifecycle :
    Starts pendingServer ∧
      statusOf (overlappingRun.foldl (lifecycleNext sampleEnv) pendingServer) "approval-001" =
        some .rejected ∧
      succeeded RequestKind.isDecision "approval-001"
        (overlappingRun.foldl (lifecycleNext sampleEnv) pendingServer) = 1 ∧
      succeeded RequestKind.isDecision "approval-001"
        (overlappingRun.foldl (lifecycleNext sampleEnv) pendingServer) ≤ 1 :=
  ⟨⟨rfl, rfl⟩, by decide +kernel, by decide +kernel,
    (approval_lifecycle sampleEnv ⟨rfl, rfl⟩ "approval-001" overlappingRun).2.1⟩

end DlpSystem.Approvals
