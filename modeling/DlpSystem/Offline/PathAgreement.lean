import DlpSystem.Agent.EnforcementPaths

/-!
# Two paths without the engine

With the engine unreachable both enforcement paths answer from the decision cache.  On a
hit they see the same answer.  On a miss the file monitor goes by the classification it
has worked out, and the hook pipe by the classification of a request that carries none.
-/

namespace DlpSystem.Offline

open Common Abac Agent

variable {Key : Type} {jwt : JwtLibrary Key}

/-! ## What each path does with an answer -/

/-- An answer denies under a global mode. -/
def denies (globalMode : EnforcementMode) (response : EvaluateResponse) : Bool :=
  (decisionUnder globalMode response).isDenied

/-- An override of the file monitor, under the label that the answer names. -/
def monitorOverride (jwt : JwtLibrary Key) (approvals : Option (ApprovalCache Key)) (now : Nat)
    (globalMode : EnforcementMode) (response : EvaluateResponse) (userSid action : String) : Bool :=
  isBlocking (effectiveModeOf globalMode response) &&
    approvals.any fun cache =>
      (checkApprovalOverride jwt cache now response userSid action none).1.isSome

/-- An override of the hook pipe, under the path itself. -/
def hookOverride (jwt : JwtLibrary Key) (approvals : ApprovalCache Key) (now : Nat)
    (callerSid : String) (request : HookRequest) : Bool :=
  (approvals.check jwt now ⟨callerSid, request.path, request.action, none⟩ none).1.isSome

/-- The approval cache answers with an allow. -/
theorem check_decision {cache : ApprovalCache Key} {now : Nat} {key : ApprovalCacheKey}
    {requestDst : Option String} {answer : EvaluateResponse}
    (found : (cache.check jwt now key requestDst).1 = some answer) : answer.decision = .allow := by
  unfold ApprovalCache.check at found
  repeat' split at found
  all_goals cases found
  all_goals rfl

theorem checkApprovalOverride_decision {cache : ApprovalCache Key} {now : Nat}
    {response : EvaluateResponse} {userSid action : String} {dst : Option String}
    {override : EvaluateResponse × ApprovalClaims}
    (found : (checkApprovalOverride jwt cache now response userSid action dst).1 =
      some override) : override.1.decision = .allow := by
  unfold checkApprovalOverride at found
  cases key : keyFromEvaluation response userSid action dst with
  | none => simp [key] at found
  | some key' =>
      simp only [key] at found
      rcases checked : cache.check jwt now key' dst with ⟨answer, left⟩
      simp only [checked] at found
      cases answer with
      | none => cases found
      | some answer =>
          simp only [Option.map_eq_some_iff] at found
          rcases found with ⟨entry, _, rfl⟩
          exact check_decision (congrArg Prod.fst checked)

/-- The file monitor denies what the answer denies and no approval overrides. -/
theorem overrideStage_denied_iff (approvals : Option (ApprovalCache Key)) (now : Nat)
    (globalMode : EnforcementMode) (response : EvaluateResponse) (userSid action : String) :
    (overrideStage jwt approvals now globalMode response userSid action).decision.isDenied ↔
      denies globalMode response = true ∧
        monitorOverride jwt approvals now globalMode response userSid action = false := by
  unfold overrideStage denies monitorOverride
  cases blocking : isBlocking (effectiveModeOf globalMode response) with
  | false => simp [blocking]
  | true =>
      cases denied : (decisionUnder globalMode response).isDenied with
      | false => simp [blocking, denied]
      | true =>
          cases approvals with
          | none => simp [blocking, denied]
          | some cache =>
              cases found : (checkApprovalOverride jwt cache now response userSid action none).1 with
              | none => simp [blocking, found, denied]
              | some override =>
                  have allows := checkApprovalOverride_decision found
                  simp only [blocking, denied, Bool.and_self, if_true, found, allows]
                  simp [found, Decision.isDenied]

/-- The hook pipe denies what the answer denies and no approval overrides. -/
theorem evaluateHookRequest_denied_iff
    (lookupHash : UInt32 → UInt64 → Option HashEvidence) (request : HookRequest)
    (callerSid : String) (manager : OfflineManager) (approvals : ApprovalCache Key)
    (instant now : Nat) (globalMode : EnforcementMode) :
    (evaluateHookRequest jwt lookupHash request callerSid manager approvals instant now
        globalMode).1.decision.isDenied ↔
      hookOverride jwt approvals now callerSid request = false ∧
        denies globalMode (manager.offlineDecision instant
          (hookRequestToEvaluateRequest request callerSid)).1 = true := by
  unfold evaluateHookRequest hookOverride
  cases found : (approvals.check jwt now
      ⟨callerSid, request.path, request.action, none⟩ none).1 with
  | none => simp [applyEffectiveModeToHookDecision, denies]
  | some answer => simp [check_decision found, Decision.isDenied]

/-! ## Agreement -/

/-- The fresh entry of the decision cache for a path and a user. -/
def cachedAnswer (manager : OfflineManager) (instant : Nat) (path userSid : String) :
    Option EvaluateResponse :=
  (manager.cache.fresh instant (decisionKey path userSid)).map DecisionEntry.response

/-- With the engine unreachable, the file monitor goes by the cache. -/
theorem evaluate_unreachable (manager : OfflineManager) (instant : Nat)
    (request : EvaluateRequest) :
    (manager.evaluate instant request .unreachable).1 =
      (cachedAnswer manager instant request.resource.path request.userSid).getD
        (failClosedResponse request.resource.classification) := by
  unfold OfflineManager.evaluate OfflineManager.afterEngine
  split
  · rw [OfflineManager.offlineDecision_eq]
    rfl
  · rw [OfflineManager.offlineDecision_eq]
    rfl

/-- A failed-closed answer denies exactly the sensitive tiers, in every global mode but
`Audit`. -/
theorem denies_failClosedResponse {globalMode : EnforcementMode} (notAudit : globalMode ≠ .audit)
    (classification : Classification) :
    denies globalMode (failClosedResponse classification) = isSensitive classification := by
  have enforced : effectiveModeOf globalMode (failClosedResponse classification) ≠ .audit := by
    cases classification <;> cases globalMode <;> simp_all [effectiveModeOf, failClosedResponse,
      isSensitive, computeEffectiveMode]
  rw [denies, decisionUnder, if_neg enforced]
  cases classification <;> rfl

/-- A failed-closed answer names no label, so no approval overrides it. -/
theorem monitorOverride_failClosedResponse (approvals : Option (ApprovalCache Key)) (now : Nat)
    (globalMode : EnforcementMode) (classification : Classification) (userSid action : String) :
    monitorOverride jwt approvals now globalMode (failClosedResponse classification) userSid
      action = false := by
  have unnamed : (failClosedResponse classification).matchedLabelId = none := by
    cases classification <;> rfl
  cases approvals with
  | none => simp [monitorOverride]
  | some cache => simp [monitorOverride, checkApprovalOverride, keyFromEvaluation, unnamed]

/-- With the engine unreachable and a global mode other than `Audit`, the hook pipe denies
what the file monitor denies exactly if: without a cached answer the provisional
classification is not sensitive; with one, no approval stands under the path itself, or
the answer permits, or an approval overrides it for the file monitor too. -/
theorem paths_agree_iff {globalMode : EnforcementMode} (notAudit : globalMode ≠ .audit)
    (jwt : JwtLibrary Key) (texts : FileTexts) (context : MonitorContext)
    (manager : OfflineManager) (approvals : Option (ApprovalCache Key))
    (hookApprovals : ApprovalCache Key)
    (lookupHash : UInt32 → UInt64 → Option HashEvidence) (instant now : Nat)
    (action : FileAction) (request : HookRequest) (samePath : request.path = action.path) :
    ((monitorVerdict jwt texts context manager approvals instant now .unreachable globalMode
          action).1.decision.isDenied →
        (evaluateHookRequest jwt lookupHash request context.userSid manager hookApprovals instant
          now globalMode).1.decision.isDenied) ↔
      match cachedAnswer manager instant action.path context.userSid with
      | none => isSensitive (provisionalClassification texts action.path) = false
      | some response =>
          hookOverride jwt hookApprovals now context.userSid request = false ∨
            denies globalMode response = false ∨
            monitorOverride jwt approvals now globalMode response context.userSid
              (actionFor action).debugText = true := by
  have monitor : (monitorVerdict jwt texts context manager approvals instant now .unreachable
      globalMode action).1 =
        overrideStage jwt approvals now globalMode
          ((cachedAnswer manager instant action.path context.userSid).getD
            (failClosedResponse (provisionalClassification texts action.path)))
          context.userSid (actionFor action).debugText :=
    congrArg
      (fun response => overrideStage jwt approvals now globalMode response context.userSid
        (actionFor action).debugText)
      (evaluate_unreachable manager instant (monitorRequest texts context action))
  have hook : (manager.offlineDecision instant
      (hookRequestToEvaluateRequest request context.userSid)).1 =
        (cachedAnswer manager instant action.path context.userSid).getD
          (failClosedResponse .T1) := by
    rw [OfflineManager.offlineDecision_eq, ← samePath]
    rfl
  rw [monitor, overrideStage_denied_iff, evaluateHookRequest_denied_iff, hook]
  cases cachedAnswer manager instant action.path context.userSid with
  | none =>
      simp only [Option.getD_none, denies_failClosedResponse notAudit,
        monitorOverride_failClosedResponse]
      simp [isSensitive]
  | some response =>
      simp only [Option.getD_some]
      cases hookOverride jwt hookApprovals now context.userSid request <;>
        cases denies globalMode response <;> simp

/-- A token library that knows no token. -/
def noTokens : JwtLibrary Unit :=
  ⟨fun _ _ => none⟩

/-- An approval cache with nothing in it. -/
def noApprovals : ApprovalCache Unit :=
  ⟨fun _ => none, none⟩

/-- A user at work. -/
def sampleContext : MonitorContext :=
  ⟨"S-1", "user", ⟨[], .unmanaged, .unknown, .healthy⟩, 0, 1, none⟩

/-- A write, as the hook reports it. -/
def hookWrite (path : String) : HookRequest :=
  ⟨path, "WRITE", none, none, 1, 1⟩

/-- A manager that has kept one denial. -/
def denialKept : OfflineManager :=
  ⟨true, DecisionCache.new.insert 0 "C:\\Restricted\\a.txt" "S-1"
    ⟨.deny, some "p1", "denied", some .block, false, none⟩⟩

/-- Both paths deny the write that the engine denied before. -/
theorem denialKept_agrees :
    (monitorVerdict noTokens (fun _ => none) sampleContext denialKept none 1 1 .unreachable .block
        (.written "C:\\Restricted\\a.txt")).1.decision = .deny ∧
      (evaluateHookRequest noTokens (fun _ _ => none) (hookWrite "C:\\Restricted\\a.txt") "S-1"
        denialKept noApprovals 1 1 .block).1.decision.isDenied := by
  have denied : (monitorVerdict noTokens (fun _ => none) sampleContext denialKept none 1 1
      .unreachable .block (.written "C:\\Restricted\\a.txt")).1.decision = .deny := by
    decide +kernel
  have condition : hookOverride noTokens noApprovals 1 "S-1"
      (hookWrite "C:\\Restricted\\a.txt") = false := by
    decide +kernel
  have kept : cachedAnswer denialKept 1 "C:\\Restricted\\a.txt" "S-1" =
      some ⟨.deny, some "p1", "denied", some .block, false, none⟩ := by
    decide +kernel
  have agree := paths_agree_iff (by decide : EnforcementMode.block ≠ .audit) noTokens
    (fun _ => none) sampleContext denialKept none noApprovals (fun _ _ => none) 1 1
    (.written "C:\\Restricted\\a.txt") (hookWrite "C:\\Restricted\\a.txt") rfl
  refine ⟨denied, agree.mpr ?_ (by rw [denied]; rfl)⟩
  simp only [FileAction.path, sampleContext, kept]
  exact Or.inl condition

/-- Without a kept answer the file monitor denies a write in a restricted directory, and
the hook pipe allows it. -/
theorem restricted_disagrees :
    (monitorVerdict noTokens (fun _ => none) sampleContext ⟨true, DecisionCache.new⟩ none 1 1
        .unreachable .block (.written "C:\\Restricted\\a.txt")).1.decision = .deny ∧
      (evaluateHookRequest noTokens (fun _ _ => none) (hookWrite "C:\\Restricted\\a.txt") "S-1"
        ⟨true, DecisionCache.new⟩ noApprovals 1 1 .block).1.decision = .allow := by
  decide +kernel

end DlpSystem.Offline
