import DlpSystem.Server.PolicyStore

/-!
# What an evaluation depends on

Two evaluations of one context: under two global enforcement modes, and with and
without labels.  The first matching policy depends on the classification and not on
the mode; the mode decides only what its denial becomes.
-/

namespace DlpSystem.Policies

open Abac Server

/-! ## The matching policy -/

/-- The first enabled policy whose conditions match. -/
def matchingPolicy (policies : List Policy) (ctx : AbacContext) (resource : Resource) :
    Option Policy :=
  policies.find? fun policy => policy.enabled && policyMatches ctx resource policy

/-- The policy that an evaluation finds. -/
def matchedPolicy (policies : List Policy) (ctx : AbacContext)
    (labelService : Option LabelService) (labelAwareEnabled : Bool) : Option Policy :=
  matchingPolicy policies ctx
    { ctx.resource with
      classification := (effectiveClassification ctx labelService labelAwareEnabled).1 }

/-- The loop answers for the first policy that matches. -/
theorem evaluatePolicies_eq (globalMode : EnforcementMode) (ctx : AbacContext)
    (resource : Resource) (labelId : Option String) (policies : List Policy) :
    evaluatePolicies globalMode ctx resource labelId policies =
      ((matchingPolicy policies ctx resource).map (policyResponse globalMode labelId)).getD
        (defaultResponse labelId resource.classification) := by
  induction policies with
  | nil => rfl
  | cons policy rest ih =>
      rw [evaluatePolicies, matchingPolicy, List.find?_cons]
      cases found : (policy.enabled && policyMatches ctx resource policy) with
      | true => rfl
      | false => exact ih

theorem evaluate_eq (policies : List Policy) (globalMode : EnforcementMode) (ctx : AbacContext)
    (labelService : Option LabelService) (labelAwareEnabled : Bool) :
    evaluate policies globalMode ctx labelService labelAwareEnabled =
      ((matchedPolicy policies ctx labelService labelAwareEnabled).map
        (policyResponse globalMode
          (effectiveClassification ctx labelService labelAwareEnabled).2)).getD
        (defaultResponse (effectiveClassification ctx labelService labelAwareEnabled).2
          (effectiveClassification ctx labelService labelAwareEnabled).1) :=
  evaluatePolicies_eq ..

/-! ## Enforcement modes -/

/-- Under a global mode a policy is only audited, and it denies. -/
def AuditsDenial (globalMode : EnforcementMode) (policy : Policy) : Prop :=
  computeEffectiveMode globalMode policy.enforcementMode = .audit ∧ policy.action.isDenied

instance (globalMode : EnforcementMode) (policy : Policy) :
    Decidable (AuditsDenial globalMode policy) :=
  inferInstanceAs (Decidable (_ ∧ _))

theorem policyResponse_of_audits {globalMode : EnforcementMode} {policy : Policy}
    (audits : AuditsDenial globalMode policy) (labelId : Option String) :
    (policyResponse globalMode labelId policy).decision = .allow ∧
      (policyResponse globalMode labelId policy).wouldHaveDenied = true := by
  rcases audits with ⟨mode, denied⟩
  simp [policyResponse, enforcedDecision, mode, denied]

theorem policyResponse_of_not_audits {globalMode : EnforcementMode} {policy : Policy}
    (enforced : ¬AuditsDenial globalMode policy) (labelId : Option String) :
    (policyResponse globalMode labelId policy).decision = policy.action ∧
      (policyResponse globalMode labelId policy).wouldHaveDenied = false := by
  unfold AuditsDenial at enforced
  cases mode : computeEffectiveMode globalMode policy.enforcementMode with
  | audit =>
      have permits : policy.action.isDenied = false := by simpa [mode] using enforced
      simp [policyResponse, enforcedDecision, mode, permits]
  | block => simp [policyResponse, enforcedDecision, mode]
  | auditAndBlock => simp [policyResponse, enforcedDecision, mode]
  | perPolicy => simp [policyResponse, enforcedDecision, mode]

theorem defaultResponse_wouldHaveDenied (labelId : Option String)
    (classification : Classification) :
    (defaultResponse labelId classification).wouldHaveDenied = false := by
  cases classification <;> rfl

section Modes

variable {policies : List Policy} {ctx : AbacContext} {labelService : Option LabelService}
  {labelAwareEnabled : Bool}

/-- The answer names the policy that was found and the label that was resolved. -/
theorem evaluate_names (globalMode : EnforcementMode) :
    (evaluate policies globalMode ctx labelService labelAwareEnabled).matchedPolicyId =
        (matchedPolicy policies ctx labelService labelAwareEnabled).map Policy.id ∧
      (evaluate policies globalMode ctx labelService labelAwareEnabled).matchedLabelId =
        (effectiveClassification ctx labelService labelAwareEnabled).2 := by
  rw [evaluate_eq]
  cases matchedPolicy policies ctx labelService labelAwareEnabled with
  | some policy => exact ⟨rfl, rfl⟩
  | none =>
      generalize (effectiveClassification ctx labelService labelAwareEnabled).1 = tier
      cases tier <;> exact ⟨rfl, rfl⟩

/-- `would_have_denied` marks the denials that were only audited. -/
theorem evaluate_wouldHaveDenied_iff (globalMode : EnforcementMode) :
    (evaluate policies globalMode ctx labelService labelAwareEnabled).wouldHaveDenied = true ↔
      ∃ policy, matchedPolicy policies ctx labelService labelAwareEnabled = some policy ∧
        AuditsDenial globalMode policy := by
  rw [evaluate_eq]
  cases matchedPolicy policies ctx labelService labelAwareEnabled with
  | none => simp [defaultResponse_wouldHaveDenied]
  | some policy =>
      by_cases audits : AuditsDenial globalMode policy
      · simp [policyResponse_of_audits audits, audits]
      · simp [policyResponse_of_not_audits audits, audits]

/-- A matched policy that one mode audits and the other does not: the first run allows
and says that it would have denied, the second returns the denial. -/
theorem evaluate_of_audits_one {first second : EnforcementMode} {policy : Policy}
    (found : matchedPolicy policies ctx labelService labelAwareEnabled = some policy)
    (audits : AuditsDenial first policy) (enforces : ¬AuditsDenial second policy) :
    (evaluate policies first ctx labelService labelAwareEnabled).decision = .allow ∧
      (evaluate policies first ctx labelService labelAwareEnabled).wouldHaveDenied = true ∧
      (evaluate policies second ctx labelService labelAwareEnabled).decision = policy.action ∧
      policy.action.isDenied := by
  rw [evaluate_eq, evaluate_eq, found]
  have allowed := policyResponse_of_audits audits
    (effectiveClassification ctx labelService labelAwareEnabled).2
  have denied := policyResponse_of_not_audits enforces
    (effectiveClassification ctx labelService labelAwareEnabled).2
  exact ⟨allowed.1, allowed.2, denied.1, audits.2⟩

/-- In every other case the two decisions are equal. -/
theorem evaluate_decision_eq {first second : EnforcementMode}
    (alike : ∀ policy, matchedPolicy policies ctx labelService labelAwareEnabled = some policy →
      (AuditsDenial first policy ↔ AuditsDenial second policy)) :
    (evaluate policies first ctx labelService labelAwareEnabled).decision =
      (evaluate policies second ctx labelService labelAwareEnabled).decision := by
  rw [evaluate_eq, evaluate_eq]
  cases found : matchedPolicy policies ctx labelService labelAwareEnabled with
  | none => rfl
  | some policy =>
      have same := alike policy found
      simp only [Option.map_some, Option.getD_some]
      by_cases audits : AuditsDenial first policy
      · rw [(policyResponse_of_audits audits _).1, (policyResponse_of_audits (same.mp audits) _).1]
      · have enforced : ¬AuditsDenial second policy := fun other => audits (same.mpr other)
        rw [(policyResponse_of_not_audits audits _).1, (policyResponse_of_not_audits enforced _).1]

end Modes

/-- The global enforcement mode decides only whether a denial blocks.  Two modes give
the same policy and the same label; where one of them audits a denial that the other
enforces, the first run allows and notes the denial and the second denies; otherwise the
decisions are equal; and a run notes a denial only where it audits one. -/
theorem evaluate_mode_affects_only_blocking (policies : List Policy) (ctx : AbacContext)
    (labelService : Option LabelService) (labelAwareEnabled : Bool)
    (first second : EnforcementMode) :
    (evaluate policies first ctx labelService labelAwareEnabled).matchedPolicyId =
        (matchedPolicy policies ctx labelService labelAwareEnabled).map Policy.id ∧
      (evaluate policies first ctx labelService labelAwareEnabled).matchedPolicyId =
        (evaluate policies second ctx labelService labelAwareEnabled).matchedPolicyId ∧
      (evaluate policies first ctx labelService labelAwareEnabled).matchedLabelId =
        (evaluate policies second ctx labelService labelAwareEnabled).matchedLabelId ∧
      (∀ policy, matchedPolicy policies ctx labelService labelAwareEnabled = some policy →
        AuditsDenial first policy → ¬AuditsDenial second policy →
          (evaluate policies first ctx labelService labelAwareEnabled).decision = .allow ∧
          (evaluate policies first ctx labelService labelAwareEnabled).wouldHaveDenied = true ∧
          (evaluate policies second ctx labelService labelAwareEnabled).decision = policy.action ∧
          policy.action.isDenied) ∧
      ((∀ policy, matchedPolicy policies ctx labelService labelAwareEnabled = some policy →
          (AuditsDenial first policy ↔ AuditsDenial second policy)) →
        (evaluate policies first ctx labelService labelAwareEnabled).decision =
          (evaluate policies second ctx labelService labelAwareEnabled).decision) ∧
      ((evaluate policies first ctx labelService labelAwareEnabled).wouldHaveDenied = true ↔
        ∃ policy, matchedPolicy policies ctx labelService labelAwareEnabled = some policy ∧
          AuditsDenial first policy) := by
  have names := @evaluate_names policies ctx labelService labelAwareEnabled first
  have otherNames := @evaluate_names policies ctx labelService labelAwareEnabled second
  refine ⟨names.1, names.1.trans otherNames.1.symm, names.2.trans otherNames.2.symm, ?_, ?_, ?_⟩
  · intro policy found audits enforces
    exact evaluate_of_audits_one found audits enforces
  · exact evaluate_decision_eq
  · exact evaluate_wouldHaveDenied_iff first

/-! ## Labels -/

/-- The label of the resource says what the request says.  A resource without a label,
without a path or without a label service counts as T4. -/
def LabelAgrees (ctx : AbacContext) : Option LabelService → Prop
  | none => ctx.resource.classification = .T4
  | some service =>
      match ctx.resourcePath with
      | none => ctx.resource.classification = .T4
      | some path =>
          ((service.resolveTierAndLabelId path).1.tier.toClassification.getD .T4) =
            ctx.resource.classification

theorem labelAgrees_iff {ctx : AbacContext} {labelService : Option LabelService} :
    LabelAgrees ctx labelService ↔
      (effectiveClassification ctx labelService true).1 = ctx.resource.classification := by
  unfold LabelAgrees effectiveClassification
  cases labelService with
  | none => exact eq_comm
  | some service =>
      cases ctx.resourcePath with
      | none => exact eq_comm
      | some path =>
          simp only [if_true, classificationOfResolved]
          cases (service.resolveTierAndLabelId path).1.tier.toClassification with
          | none => exact Iff.rfl
          | some classification => exact Iff.rfl

/-- The decision depends on the label only through the classification. -/
theorem evaluate_decision_congr {policies : List Policy} {globalMode : EnforcementMode}
    {ctx : AbacContext} {labelService : Option LabelService}
    (same : (effectiveClassification ctx labelService true).1 = ctx.resource.classification) :
    (evaluate policies globalMode ctx labelService true).decision =
      (evaluate policies globalMode ctx labelService false).decision := by
  have tiers : (effectiveClassification ctx labelService true).1 =
      (effectiveClassification ctx labelService false).1 := same
  rw [evaluate_eq, evaluate_eq, matchedPolicy, matchedPolicy, tiers]
  cases matchingPolicy policies ctx _ with
  | some policy => rfl
  | none =>
      generalize (effectiveClassification ctx labelService false).1 = tier
      cases tier <;> rfl

/-- A list that denies exactly one classification. -/
def denyOnly (classification : Classification) : List Policy :=
  [⟨"deny", "deny", [.classification "eq" classification], .deny, true, .all, .block⟩,
    ⟨"allow", "allow", [], .allow, true, .all, .block⟩]

theorem evaluate_denyOnly (ctx : AbacContext) (labelService : Option LabelService)
    (labelAwareEnabled : Bool) (classification : Classification) :
    (evaluate (denyOnly classification) .perPolicy ctx labelService
        labelAwareEnabled).decision.isDenied ↔
      (effectiveClassification ctx labelService labelAwareEnabled).1 = classification := by
  by_cases same : (effectiveClassification ctx labelService labelAwareEnabled).1 = classification
  · simp [evaluate, denyOnly, evaluatePolicies, policyMatches, conditionMatches,
      compareOpClassification, policyResponse, computeEffectiveMode, enforcedDecision, same,
      Decision.isDenied]
  · simp [evaluate, denyOnly, evaluatePolicies, policyMatches, conditionMatches,
      compareOpClassification, policyResponse, computeEffectiveMode, enforcedDecision, same,
      Decision.isDenied]

/-- Labels never loosen the answer, whatever the policies, exactly for the resources
whose label says what the request says. -/
theorem labelAware_stricter_iff (ctx : AbacContext) (labelService : Option LabelService) :
    (∀ policies globalMode,
        (evaluate policies globalMode ctx labelService false).decision.isDenied →
          (evaluate policies globalMode ctx labelService true).decision.isDenied) ↔
      LabelAgrees ctx labelService := by
  rw [labelAgrees_iff]
  constructor
  · intro stricter
    have deniedWithout := (evaluate_denyOnly ctx labelService false ctx.resource.classification).mpr
      rfl
    exact (evaluate_denyOnly ctx labelService true ctx.resource.classification).mp
      (stricter _ _ deniedWithout)
  · intro same policies globalMode denied
    rw [evaluate_decision_congr same]
    exact denied

/-! ## Policies that follow the tiers -/

/-- Under a global mode a policy blocks what it matches. -/
def Blocks (globalMode : EnforcementMode) (policy : Policy) : Prop :=
  policy.action.isDenied ∧ ¬AuditsDenial globalMode policy

/-- Tiers that are denied by default. -/
def DeniedByDefault (classification : Classification) : Prop :=
  classification = .T3 ∨ classification = .T4

/-- From one classification to another, blocking policies keep matching and no other
policy starts to. -/
structure Tightens (policies : List Policy) (globalMode : EnforcementMode) (ctx : AbacContext)
    (resource labelled : Resource) : Prop where
  keepsBlocking : ∀ policy ∈ policies, Blocks globalMode policy →
    policyMatches ctx resource policy → policyMatches ctx labelled policy
  addsNoAllowing : ∀ policy ∈ policies, ¬Blocks globalMode policy →
    policyMatches ctx labelled policy → policyMatches ctx resource policy
  keepsDefault : DeniedByDefault resource.classification →
    DeniedByDefault labelled.classification

theorem policyResponse_denied_iff (globalMode : EnforcementMode) (labelId : Option String)
    (policy : Policy) :
    (policyResponse globalMode labelId policy).decision.isDenied ↔ Blocks globalMode policy := by
  by_cases audits : AuditsDenial globalMode policy
  · simp [policyResponse_of_audits audits, Blocks, audits, Decision.isDenied]
  · simp [policyResponse_of_not_audits audits, Blocks, audits]

theorem defaultResponse_denied_iff (labelId : Option String) (classification : Classification) :
    (defaultResponse labelId classification).decision.isDenied ↔
      DeniedByDefault classification := by
  cases classification <;> simp [defaultResponse, DeniedByDefault, Decision.isDenied]

/-- The same policies for two contexts: if blocking policies keep matching, no other
policy starts to match and the default stays a denial, all that was denied is denied. -/
theorem evaluatePolicies_denied_mono {policies : List Policy} {globalMode : EnforcementMode}
    {ctx other : AbacContext} {resource labelled : Resource} {labelId otherId : Option String}
    (keepsBlocking : ∀ policy ∈ policies, policy.enabled → Blocks globalMode policy →
      policyMatches ctx resource policy → policyMatches other labelled policy)
    (addsNoAllowing : ∀ policy ∈ policies, policy.enabled → ¬Blocks globalMode policy →
      policyMatches other labelled policy → policyMatches ctx resource policy)
    (keepsDefault : DeniedByDefault resource.classification →
      DeniedByDefault labelled.classification)
    (denied : (evaluatePolicies globalMode ctx resource labelId policies).decision.isDenied) :
    (evaluatePolicies globalMode other labelled otherId policies).decision.isDenied := by
  induction policies with
  | nil =>
      rw [evaluatePolicies, defaultResponse_denied_iff] at denied ⊢
      exact keepsDefault denied
  | cons policy rest ih =>
      have ofRest := ih
        (fun later member => keepsBlocking later (List.mem_cons_of_mem _ member))
        (fun later member => addsNoAllowing later (List.mem_cons_of_mem _ member))
      rw [evaluatePolicies] at denied ⊢
      cases enabled : policy.enabled with
      | false =>
          rw [enabled] at denied
          exact ofRest denied
      | true =>
          rw [enabled] at denied
          simp only [Bool.true_and] at denied ⊢
          by_cases blocks : Blocks globalMode policy
          · by_cases matchesNow : policyMatches other labelled policy
            · rw [if_pos matchesNow, policyResponse_denied_iff]
              exact blocks
            · have matched : ¬policyMatches ctx resource policy := fun before =>
                matchesNow (keepsBlocking policy (List.mem_cons_self ..) enabled blocks before)
              rw [if_neg matched] at denied
              rw [if_neg matchesNow]
              exact ofRest denied
          · by_cases matched : policyMatches ctx resource policy
            · rw [if_pos matched, policyResponse_denied_iff] at denied
              exact absurd denied blocks
            · have matchesNow : ¬policyMatches other labelled policy := fun now =>
                matched (addsNoAllowing policy (List.mem_cons_self ..) enabled blocks now)
              rw [if_neg matched] at denied
              rw [if_neg matchesNow]
              exact ofRest denied

/-- With policies that the label's tier tightens, labels only make the answer stricter. -/
theorem labelAware_stricter_of_tightens {policies : List Policy} {globalMode : EnforcementMode}
    {ctx : AbacContext} {labelService : Option LabelService}
    (tightens : Tightens policies globalMode ctx ctx.resource
      { ctx.resource with classification := (effectiveClassification ctx labelService true).1 })
    (denied : (evaluate policies globalMode ctx labelService false).decision.isDenied) :
    (evaluate policies globalMode ctx labelService true).decision.isDenied :=
  evaluatePolicies_denied_mono
    (fun policy member _ => tightens.keepsBlocking policy member)
    (fun policy member _ => tightens.addsNoAllowing policy member) tightens.keepsDefault denied

/-! ## A file with a label -/

/-- A request for a file, with the classification that the agent sent. -/
def sampleContext (classification : Classification) : AbacContext where
  subject := ⟨[], .managed, .corporate, .healthy⟩
  resource := ⟨"C:\\Data\\a.txt", classification⟩
  accessContext := .localAccess
  sourceApplication := none
  destinationApplication := none
  sourceOrigin := none
  destinationOrigin := none
  resourcePath := some "C:\\Data\\a.txt"
  sourceVolumeClass := none
  destinationVolumeClass := none

/-- A label database in which the folder of the file has a label. -/
def sampleLabels (tier : Tier) : LabelService where
  db := ⟨[⟨"label-001", "C:\\Data", .folder, tier⟩], false, false, fun _ => false⟩
  cache _ := none
  now := 0

/-- The request says T4 and the folder's label T1: without labels the default denies,
with labels it allows. -/
theorem lowerLabel_loosens :
    (evaluate [] .perPolicy (sampleContext .T4) (some (sampleLabels .T1)) false).decision = .deny ∧
      (evaluate [] .perPolicy (sampleContext .T4) (some (sampleLabels .T1)) true).decision =
        .allow := by
  constructor
  · decide +kernel
  · decide +kernel

end DlpSystem.Policies
