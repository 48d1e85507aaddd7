import DlpSystem.Policy.Evaluation

/-!
# Missing attributes

Six attributes of a context may be missing.  A condition on a missing attribute does not
hold, whatever its operator.  For the policy around the condition this goes both ways: a
policy with mode ALL or ANY can only stop matching, a policy with mode NONE can only
start to.
-/

namespace DlpSystem.Policies

open Abac Server

/-- The attributes that may be missing. -/
inductive Attribute
  | sourceApplication
  | destinationApplication
  | sourceOrigin
  | destinationOrigin
  | sourceVolumeClass
  | destinationVolumeClass
  deriving DecidableEq

/-- The attribute that a condition asks about, if it is one that may be missing. -/
def attributeOf : PolicyCondition → Option Attribute
  | .sourceApplication .. => some .sourceApplication
  | .destinationApplication .. => some .destinationApplication
  | .sourceOrigin .. => some .sourceOrigin
  | .destinationOrigin .. => some .destinationOrigin
  | .sourceVolumeClass .. => some .sourceVolumeClass
  | .destinationVolumeClass .. => some .destinationVolumeClass
  | _ => none

/-- A context with some of its attributes replaced by `None`. -/
def without (ctx : AbacContext) (removed : Attribute → Bool) : AbacContext :=
  { ctx with
    sourceApplication := if removed .sourceApplication then none else ctx.sourceApplication
    destinationApplication :=
      if removed .destinationApplication then none else ctx.destinationApplication
    sourceOrigin := if removed .sourceOrigin then none else ctx.sourceOrigin
    destinationOrigin := if removed .destinationOrigin then none else ctx.destinationOrigin
    sourceVolumeClass := if removed .sourceVolumeClass then none else ctx.sourceVolumeClass
    destinationVolumeClass :=
      if removed .destinationVolumeClass then none else ctx.destinationVolumeClass }

/-- A condition asks about a removed attribute. -/
def asksRemoved (removed : Attribute → Bool) (condition : PolicyCondition) : Bool :=
  (attributeOf condition).any removed

section Removed

variable {removed : Attribute → Bool} {ctx : AbacContext} {resource : Resource}

/-- Conditions on a removed attribute fail and the others stay as they were. -/
theorem conditionMatches_without (condition : PolicyCondition) :
    conditionMatches (without ctx removed) resource condition =
      (!asksRemoved removed condition && conditionMatches ctx resource condition) := by
  have asked : ∀ named, attributeOf condition = some named →
      asksRemoved removed condition = removed named := by
    intro named found
    simp [asksRemoved, found]
  cases condition with
  | classification op value => rfl
  | memberOf op groupSid => rfl
  | deviceTrust op value => rfl
  | networkLocation op value => rfl
  | deviceHealth op value => rfl
  | accessContext op value => rfl
  | sourceApplication field op value =>
      rw [asked _ rfl]
      cases gone : removed .sourceApplication <;>
        simp [conditionMatches, without, gone, appIdentityMatches]
  | destinationApplication field op value =>
      rw [asked _ rfl]
      cases gone : removed .destinationApplication <;>
        simp [conditionMatches, without, gone, appIdentityMatches]
  | sourceOrigin op value =>
      rw [asked _ rfl]
      cases gone : removed .sourceOrigin <;>
        simp [conditionMatches, without, gone, originMatches]
  | destinationOrigin op value =>
      rw [asked _ rfl]
      cases gone : removed .destinationOrigin <;>
        simp [conditionMatches, without, gone, originMatches]
  | sourceVolumeClass op value =>
      rw [asked _ rfl]
      cases gone : removed .sourceVolumeClass <;>
        simp [conditionMatches, without, gone, volumeClassMatches]
  | destinationVolumeClass op value =>
      rw [asked _ rfl]
      cases gone : removed .destinationVolumeClass <;>
        simp [conditionMatches, without, gone, volumeClassMatches]

/-- A condition of the policy held and asked about a removed attribute. -/
def LosesCondition (removed : Attribute → Bool) (ctx : AbacContext) (resource : Resource)
    (policy : Policy) : Prop :=
  ∃ condition ∈ policy.conditions,
    asksRemoved removed condition = true ∧ conditionMatches ctx resource condition = true

/-- A policy that loses no condition matches as before. -/
theorem policyMatches_without_of_kept {policy : Policy}
    (kept : ¬LosesCondition removed ctx resource policy) :
    policyMatches (without ctx removed) resource policy = policyMatches ctx resource policy := by
  have same : ∀ condition ∈ policy.conditions,
      conditionMatches (without ctx removed) resource condition =
        conditionMatches ctx resource condition := by
    intro condition member
    rw [conditionMatches_without]
    cases asks : asksRemoved removed condition with
    | false => rfl
    | true =>
        cases held : conditionMatches ctx resource condition with
        | false => rfl
        | true => exact absurd ⟨condition, member, asks, held⟩ kept
  have sameAll : policy.conditions.all (conditionMatches (without ctx removed) resource) =
      policy.conditions.all (conditionMatches ctx resource) := by
    rw [Bool.eq_iff_iff, List.all_eq_true, List.all_eq_true]
    exact forall₂_congr fun condition member => by rw [same condition member]
  have sameAny : policy.conditions.any (conditionMatches (without ctx removed) resource) =
      policy.conditions.any (conditionMatches ctx resource) := by
    rw [Bool.eq_iff_iff, List.any_eq_true, List.any_eq_true]
    exact exists_congr fun condition => and_congr_right fun member => by rw [same condition member]
  unfold policyMatches
  rw [sameAll, sameAny]

/-- With mode ALL or ANY a policy can only stop matching. -/
theorem policyMatches_of_without {policy : Policy} (positive : policy.mode ≠ .none)
    (matched : policyMatches (without ctx removed) resource policy) :
    policyMatches ctx resource policy := by
  have held : ∀ condition, conditionMatches (without ctx removed) resource condition = true →
      conditionMatches ctx resource condition = true := by
    intro condition after
    rw [conditionMatches_without, Bool.and_eq_true] at after
    exact after.2
  unfold policyMatches at matched ⊢
  cases mode : policy.mode with
  | all =>
      rw [mode] at matched
      rw [List.all_eq_true] at matched ⊢
      exact fun condition member => held condition (matched condition member)
  | any =>
      rw [mode] at matched
      rw [List.any_eq_true] at matched ⊢
      rcases matched with ⟨condition, member, after⟩
      exact ⟨condition, member, held condition after⟩
  | none => exact absurd mode positive

/-- With mode NONE a policy can only start to match. -/
theorem policyMatches_without_of_none {policy : Policy} (negative : policy.mode = .none)
    (matched : policyMatches ctx resource policy) :
    policyMatches (without ctx removed) resource policy := by
  unfold policyMatches at matched ⊢
  rw [negative] at matched ⊢
  simp only [Bool.not_eq_true', List.any_eq_false] at matched ⊢
  intro condition member after
  rw [conditionMatches_without, Bool.and_eq_true] at after
  exact matched condition member after.2

end Removed

/-- The resource with the classification that evaluation uses. -/
def evaluatedResource (ctx : AbacContext) (labelService : Option LabelService)
    (labelAwareEnabled : Bool) : Resource :=
  { ctx.resource with
    classification := (effectiveClassification ctx labelService labelAwareEnabled).1 }

/-- Missing attributes fail their conditions, and nothing else.  A denial can be lost only
through a condition that held, in an enabled policy that blocks with mode ALL or ANY or
that does not block with mode NONE. -/
theorem missing_attributes_fail_conditions (policies : List Policy)
    (globalMode : EnforcementMode) (ctx : AbacContext) (labelService : Option LabelService)
    (labelAwareEnabled : Bool) (removed : Attribute → Bool) :
    (∀ resource condition,
        conditionMatches (without ctx removed) resource condition =
          (!asksRemoved removed condition && conditionMatches ctx resource condition)) ∧
      ((evaluate policies globalMode ctx labelService labelAwareEnabled).decision.isDenied →
        (∀ policy ∈ policies, policy.enabled →
          LosesCondition removed ctx (evaluatedResource ctx labelService labelAwareEnabled) policy →
          (Blocks globalMode policy ↔ policy.mode = .none)) →
        (evaluate policies globalMode (without ctx removed) labelService
          labelAwareEnabled).decision.isDenied) := by
  refine ⟨fun _ condition => conditionMatches_without condition, ?_⟩
  intro denied harmless
  have keepsBlocking : ∀ policy ∈ policies, policy.enabled → Blocks globalMode policy →
      policyMatches ctx (evaluatedResource ctx labelService labelAwareEnabled) policy →
      policyMatches (without ctx removed)
        (evaluatedResource ctx labelService labelAwareEnabled) policy := by
    intro policy member enabled blocks matched
    by_cases loses :
        LosesCondition removed ctx (evaluatedResource ctx labelService labelAwareEnabled) policy
    · exact policyMatches_without_of_none ((harmless policy member enabled loses).mp blocks) matched
    · exact (policyMatches_without_of_kept loses).trans matched
  have addsNoAllowing : ∀ policy ∈ policies, policy.enabled → ¬Blocks globalMode policy →
      policyMatches (without ctx removed)
        (evaluatedResource ctx labelService labelAwareEnabled) policy →
      policyMatches ctx (evaluatedResource ctx labelService labelAwareEnabled) policy := by
    intro policy member enabled permits matched
    by_cases loses :
        LosesCondition removed ctx (evaluatedResource ctx labelService labelAwareEnabled) policy
    · refine policyMatches_of_without (fun negative => permits ?_) matched
      exact (harmless policy member enabled loses).mpr negative
    · exact (policyMatches_without_of_kept loses).symm.trans matched
  -- The classification is the same: no attribute that may be missing goes into it.
  exact evaluatePolicies_denied_mono keepsBlocking addsNoAllowing id denied

/-! ## A policy on the volume -/

/-- A T1 file that goes to a USB stick. -/
def usbContext : AbacContext :=
  { sampleContext .T1 with destinationVolumeClass := some .usbRemovable }

/-- The volume of the destination is not known. -/
def noVolume : Attribute → Bool
  | .destinationVolumeClass => true
  | _ => false

/-- A policy about USB sticks. -/
def usbPolicy (mode : PolicyMode) (action : Decision) : Policy :=
  ⟨"usb", "usb", [.destinationVolumeClass "eq" .usbRemovable], action, true, mode, .block⟩

/-- A policy that denies everything. -/
def denyAll : Policy :=
  ⟨"all", "all", [], .deny, true, .all, .block⟩

/-- A denial of all that is not a USB stick starts to match when the volume is unknown,
and the file stays denied. -/
theorem unknownVolume_denied :
    (evaluate [usbPolicy .none .deny, denyAll] .perPolicy usbContext none
        false).decision.isDenied ∧
      (evaluate [usbPolicy .none .deny, denyAll] .perPolicy (without usbContext noVolume) none
        false).decision.isDenied := by
  have denied : (evaluate [usbPolicy .none .deny, denyAll] .perPolicy usbContext none
      false).decision.isDenied := by decide +kernel
  refine ⟨denied, (missing_attributes_fail_conditions _ _ _ _ _ noVolume).2 denied ?_⟩
  intro policy member _ loses
  rcases List.mem_cons.mp member with rfl | later
  · exact iff_of_true ⟨rfl, fun audits => absurd audits.1 (by decide)⟩ rfl
  · rcases List.mem_singleton.mp later with rfl
    rcases loses with ⟨condition, ofPolicy, _⟩
    cases ofPolicy

/-- The denying policy asks for the volume: without the volume it does not match, and the
default allows. -/
theorem unknownVolume_allowed :
    (evaluate [usbPolicy .all .deny] .perPolicy usbContext none false).decision = .deny ∧
      (evaluate [usbPolicy .all .deny] .perPolicy (without usbContext noVolume) none
        false).decision = .allow := by
  constructor
  · decide +kernel
  · decide +kernel

end DlpSystem.Policies
