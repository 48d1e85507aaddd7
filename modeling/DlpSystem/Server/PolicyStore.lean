import DlpSystem.Server.LabelService
import Mathlib.Data.List.Infix

/-!
# Policy evaluation

`PolicyStore::evaluate`: the classification of the resource, from the request or from
its label, the first enabled policy whose conditions match, and the default for
requests that no policy matches.
-/

namespace DlpSystem.Server

open Abac

/-! ## Conditions -/

/-- `str::contains`. -/
def contains (text pattern : String) : Bool :=
  decide (pattern.toList <:+: text.toList)

/-- `classification_ord`. -/
def classificationOrd : Classification → Nat
  | .T1 => 1
  | .T2 => 2
  | .T3 => 3
  | .T4 => 4

/-- `compare_op`. -/
def compareOp {α : Type} [DecidableEq α] (op : String) (actual expected : α) : Bool :=
  match op with
  | "eq" => actual = expected
  | "neq" => actual ≠ expected
  | _ => false

/-- `compare_op_ord`, on device health. -/
def compareOpOrd (op : String) (actual expected : DeviceHealthStatus) : Bool :=
  match op with
  | "eq" => actual = expected
  | "neq" => actual ≠ expected
  | "gt" => actual.severity > expected.severity
  | "lt" => actual.severity < expected.severity
  | "gte" => actual.severity ≥ expected.severity
  | "lte" => actual.severity ≤ expected.severity
  | _ => false

/-- `compare_op_classification`. -/
def compareOpClassification (op : String) (actual expected : Classification) : Bool :=
  match op with
  | "eq" => actual = expected
  | "neq" => actual ≠ expected
  | "gt" => classificationOrd actual > classificationOrd expected
  | "lt" => classificationOrd actual < classificationOrd expected
  | _ => false

/-- `memberof_matches`. -/
def memberofMatches (op targetSid : String) (subjectGroups : List String) : Bool :=
  match op with
  | "in" => subjectGroups.any fun sid => sid = targetSid
  | "not_in" => subjectGroups.all fun sid => sid ≠ targetSid
  | "eq" => subjectGroups.any fun sid => sid = targetSid
  | "neq" => subjectGroups.all fun sid => sid ≠ targetSid
  | "contains" => subjectGroups.any fun sid => contains sid targetSid
  | _ => false

/-- Exact comparison of a text. -/
def exactTextMatches (op actual expected : String) : Bool :=
  match op with
  | "eq" => actual = expected
  | "ne" => actual ≠ expected
  | _ => false

/-- Comparison of a text, with `contains`. -/
def textMatches (op actual expected : String) : Bool :=
  match op with
  | "eq" => actual = expected
  | "ne" => actual ≠ expected
  | "contains" => contains actual expected
  | _ => false

/-- `app_identity_matches`. -/
def appIdentityMatches (field : AppField) (op value : String) : Option AppIdentity → Bool
  | none => false
  | some app =>
      match field with
      | .publisher => exactTextMatches op app.publisher value
      | .imagePath => textMatches op app.imagePath value
      | .trustTier => exactTextMatches op app.trustTier.text value
      | .aumid => textMatches op (app.aumid.getD "") value
      | .packageFamilyName => textMatches op (app.packageFamilyName.getD "") value

/-- `volume_class_matches`. -/
def volumeClassMatches (op : String) (expected : VolumeClass) : Option VolumeClass → Bool
  | none => false
  | some actual =>
      match op with
      | "eq" => actual = expected
      | "ne" => actual ≠ expected
      | "in" => actual = expected
      | _ => false

/-- `origin_matches`. -/
def originMatches (op expected : String) : Option String → Bool
  | none => false
  | some origin => textMatches op origin expected

/-- `condition_matches`: the classification comes from the resource, the rest from the
context. -/
def conditionMatches (ctx : AbacContext) (resource : Resource) : PolicyCondition → Bool
  | .classification op value => compareOpClassification op resource.classification value
  | .memberOf op groupSid => memberofMatches op groupSid ctx.subject.groups
  | .deviceTrust op value => compareOp op ctx.subject.deviceTrust value
  | .networkLocation op value => compareOp op ctx.subject.networkLocation value
  | .deviceHealth op value => compareOpOrd op ctx.subject.deviceHealth value
  | .accessContext op value => compareOp op ctx.accessContext value
  | .sourceApplication field op value => appIdentityMatches field op value ctx.sourceApplication
  | .destinationApplication field op value =>
      appIdentityMatches field op value ctx.destinationApplication
  | .sourceOrigin op value => originMatches op value ctx.sourceOrigin
  | .destinationOrigin op value => originMatches op value ctx.destinationOrigin
  | .sourceVolumeClass op value => volumeClassMatches op value ctx.sourceVolumeClass
  | .destinationVolumeClass op value => volumeClassMatches op value ctx.destinationVolumeClass

/-- The conditions of a policy, composed by its mode. -/
def policyMatches (ctx : AbacContext) (resource : Resource) (policy : Policy) : Bool :=
  match policy.mode with
  | .all => policy.conditions.all (conditionMatches ctx resource)
  | .any => policy.conditions.any (conditionMatches ctx resource)
  | .none => !policy.conditions.any (conditionMatches ctx resource)

/-! ## Answers -/

/-- How a mode appears in the reason of an answer. -/
def modeText : EnforcementMode → String
  | .audit => "Audit"
  | .block => "Block"
  | .auditAndBlock => "AuditAndBlock"
  | .perPolicy => "PerPolicy"

/-- The decision of a matching policy, and whether it would have denied. -/
def enforcedDecision (effectiveMode : EnforcementMode) (action : Decision) : Decision × Bool :=
  match effectiveMode with
  | .audit => if action.isDenied then (.allow, true) else (action, false)
  | .block => (action, false)
  | .auditAndBlock => (action, false)
  | .perPolicy => (action, false)

/-- The answer of a matching policy. -/
def policyResponse (globalMode : EnforcementMode) (matchedLabelId : Option String)
    (policy : Policy) : EvaluateResponse :=
  let effectiveMode := computeEffectiveMode globalMode policy.enforcementMode
  { decision := (enforcedDecision effectiveMode policy.action).1
    matchedPolicyId := some policy.id
    reason := "matched policy '" ++ policy.name ++ "' (effective mode: " ++
      modeText effectiveMode ++ ")"
    enforcementMode := some effectiveMode
    wouldHaveDenied := (enforcedDecision effectiveMode policy.action).2
    matchedLabelId := matchedLabelId }

/-- The answer when no policy matches. -/
def defaultResponse (matchedLabelId : Option String) :
    Classification → EvaluateResponse
  | .T1 => ⟨.allow, none, "No matching policy; default allow", none, false, matchedLabelId⟩
  | .T2 => ⟨.allow, none, "No matching policy; default allow", none, false, matchedLabelId⟩
  | .T3 => ⟨.deny, none, "No matching policy; default deny", none, false, matchedLabelId⟩
  | .T4 => ⟨.deny, none, "No matching policy; default deny", none, false, matchedLabelId⟩

/-- The loop over the policies. -/
def evaluatePolicies (globalMode : EnforcementMode) (ctx : AbacContext) (resource : Resource)
    (matchedLabelId : Option String) : List Policy → EvaluateResponse
  | [] => defaultResponse matchedLabelId resource.classification
  | policy :: rest =>
      if policy.enabled && policyMatches ctx resource policy then
        policyResponse globalMode matchedLabelId policy
      else evaluatePolicies globalMode ctx resource matchedLabelId rest

/-! ## Evaluation -/

/-- The classification from a resolved label, and the label id. -/
def classificationOfResolved (resolved : ResolvedTierWithId) : Classification × Option String :=
  match resolved.tier.toClassification with
  | some classification => (classification, resolved.labelId)
  | none => (.T4, none)

/-- The classification that evaluation uses, and the label it came from. -/
def effectiveClassification (ctx : AbacContext) (labelService : Option LabelService)
    (labelAwareEnabled : Bool) : Classification × Option String :=
  if labelAwareEnabled then
    match labelService with
    | none => (.T4, none)
    | some service =>
        match ctx.resourcePath with
        | none => (.T4, none)
        | some path => classificationOfResolved (service.resolveTierAndLabelId path).1
  else (ctx.resource.classification, none)

/-- `PolicyStore::evaluate`, on the cached policies in their order of priority. -/
def evaluate (policies : List Policy) (globalMode : EnforcementMode) (ctx : AbacContext)
    (labelService : Option LabelService) (labelAwareEnabled : Bool) : EvaluateResponse :=
  let effective := effectiveClassification ctx labelService labelAwareEnabled
  evaluatePolicies globalMode ctx { ctx.resource with classification := effective.1 }
    effective.2 policies

end DlpSystem.Server
