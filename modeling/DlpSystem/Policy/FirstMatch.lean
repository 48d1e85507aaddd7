import DlpSystem.Policy.Acceptance
import DlpSystem.Policy.MissingAttributes

/-!
# First match by priority

What the conditions of a policy say, apart from how they are computed, and the policy that
an evaluation reports: of the enabled policies of the table whose conditions hold, the one
of smallest priority.  The order of the rows in the table does not matter.
-/

namespace DlpSystem.Policies

open Abac Server Lib

/-! ## What conditions say -/

/-- What an operator says, given the operators that a condition knows.  Any other operator
says nothing that could hold. -/
def Says (op : String) (known : List (String × Prop)) : Prop :=
  ∃ entry ∈ known, op = entry.1 ∧ entry.2

/-- A comparison of two values of a type without an order. -/
def ScalarHolds {α : Type} (op : String) (actual expected : α) : Prop :=
  Says op [("eq", actual = expected), ("neq", actual ≠ expected)]

/-- A comparison of a text as a whole. -/
def ExactTextHolds (op actual expected : String) : Prop :=
  Says op [("eq", actual = expected), ("ne", actual ≠ expected)]

/-- A comparison of a text, or a search in it. -/
def TextHolds (op actual expected : String) : Prop :=
  Says op
    [("eq", actual = expected), ("ne", actual ≠ expected),
      ("contains", expected.toList <:+: actual.toList)]

/-- What a condition says of an application. -/
def ApplicationHolds (op value : String) (app : AppIdentity) : AppField → Prop
  | .publisher => ExactTextHolds op app.publisher value
  | .imagePath => TextHolds op app.imagePath value
  | .trustTier => ExactTextHolds op app.trustTier.text value
  | .aumid => TextHolds op (app.aumid.getD "") value
  | .packageFamilyName => TextHolds op (app.packageFamilyName.getD "") value

/-- A comparison of the class of a volume; `in` takes one class. -/
def VolumeHolds (op : String) (actual expected : VolumeClass) : Prop :=
  Says op [("eq", actual = expected), ("ne", actual ≠ expected), ("in", actual = expected)]

/-- What a condition says of a context.  Of an attribute that is missing it says nothing
that holds. -/
def ConditionHolds (ctx : AbacContext) (resource : Resource) : PolicyCondition → Prop
  | .classification op value =>
      Says op
        [("eq", resource.classification = value), ("neq", resource.classification ≠ value),
          ("gt", classificationOrd value < classificationOrd resource.classification),
          ("lt", classificationOrd resource.classification < classificationOrd value)]
  | .memberOf op groupSid =>
      Says op
        [("in", groupSid ∈ ctx.subject.groups), ("not_in", groupSid ∉ ctx.subject.groups),
          ("eq", groupSid ∈ ctx.subject.groups), ("neq", groupSid ∉ ctx.subject.groups),
          ("contains", ∃ sid ∈ ctx.subject.groups, groupSid.toList <:+: sid.toList)]
  | .deviceTrust op value => ScalarHolds op ctx.subject.deviceTrust value
  | .networkLocation op value => ScalarHolds op ctx.subject.networkLocation value
  | .deviceHealth op value =>
      let actual := ctx.subject.deviceHealth
      Says op
        [("eq", actual = value), ("neq", actual ≠ value),
          ("gt", value.severity < actual.severity), ("lt", actual.severity < value.severity),
          ("gte", value.severity ≤ actual.severity), ("lte", actual.severity ≤ value.severity)]
  | .accessContext op value => ScalarHolds op ctx.accessContext value
  | .sourceApplication field op value =>
      ∃ app ∈ ctx.sourceApplication, ApplicationHolds op value app field
  | .destinationApplication field op value =>
      ∃ app ∈ ctx.destinationApplication, ApplicationHolds op value app field
  | .sourceOrigin op value => ∃ origin ∈ ctx.sourceOrigin, TextHolds op origin value
  | .destinationOrigin op value => ∃ origin ∈ ctx.destinationOrigin, TextHolds op origin value
  | .sourceVolumeClass op value => ∃ actual ∈ ctx.sourceVolumeClass, VolumeHolds op actual value
  | .destinationVolumeClass op value =>
      ∃ actual ∈ ctx.destinationVolumeClass, VolumeHolds op actual value

/-- The conditions of a policy hold under its mode. -/
def PolicyHolds (ctx : AbacContext) (resource : Resource) (policy : Policy) : Prop :=
  match policy.mode with
  | .all => ∀ condition ∈ policy.conditions, ConditionHolds ctx resource condition
  | .any => ∃ condition ∈ policy.conditions, ConditionHolds ctx resource condition
  | .none => ∀ condition ∈ policy.conditions, ¬ ConditionHolds ctx resource condition

/-! ## The matchers compute it -/

theorem compareOp_iff {α : Type} [DecidableEq α] (op : String) (actual expected : α) :
    compareOp op actual expected = true ↔ ScalarHolds op actual expected := by
  unfold compareOp ScalarHolds Says
  split <;> simp_all

theorem compareOpOrd_iff (op : String) (actual expected : DeviceHealthStatus) :
    compareOpOrd op actual expected = true ↔
      Says op
        [("eq", actual = expected), ("neq", actual ≠ expected),
          ("gt", expected.severity < actual.severity),
          ("lt", actual.severity < expected.severity),
          ("gte", expected.severity ≤ actual.severity),
          ("lte", actual.severity ≤ expected.severity)] := by
  unfold compareOpOrd Says
  split <;> simp_all

theorem compareOpClassification_iff (op : String) (actual expected : Classification) :
    compareOpClassification op actual expected = true ↔
      Says op
        [("eq", actual = expected), ("neq", actual ≠ expected),
          ("gt", classificationOrd expected < classificationOrd actual),
          ("lt", classificationOrd actual < classificationOrd expected)] := by
  unfold compareOpClassification Says
  split <;> simp_all

theorem memberofMatches_iff (op targetSid : String) (groups : List String) :
    memberofMatches op targetSid groups = true ↔
      Says op
        [("in", targetSid ∈ groups), ("not_in", targetSid ∉ groups), ("eq", targetSid ∈ groups),
          ("neq", targetSid ∉ groups),
          ("contains", ∃ sid ∈ groups, targetSid.toList <:+: sid.toList)] := by
  have outside : (∀ sid ∈ groups, ¬ sid = targetSid) ↔ targetSid ∉ groups := by
    constructor
    · exact fun differs member => differs targetSid member rfl
    · rintro missing sid member rfl
      exact missing member
  unfold memberofMatches Says
  split <;> simp_all [contains]

theorem exactTextMatches_iff (op actual expected : String) :
    exactTextMatches op actual expected = true ↔ ExactTextHolds op actual expected := by
  unfold exactTextMatches ExactTextHolds Says
  split <;> simp_all

theorem textMatches_iff (op actual expected : String) :
    textMatches op actual expected = true ↔ TextHolds op actual expected := by
  unfold textMatches TextHolds Says
  split <;> simp_all [contains]

theorem appIdentityMatches_iff (field : AppField) (op value : String)
    (identity : Option AppIdentity) :
    appIdentityMatches field op value identity = true ↔
      ∃ app ∈ identity, ApplicationHolds op value app field := by
  cases identity with
  | none => simp [appIdentityMatches]
  | some app =>
      cases field <;>
        simp [appIdentityMatches, ApplicationHolds, exactTextMatches_iff, textMatches_iff]

theorem originMatches_iff (op expected : String) (origin : Option String) :
    originMatches op expected origin = true ↔ ∃ actual ∈ origin, TextHolds op actual expected := by
  cases origin with
  | none => simp [originMatches]
  | some actual => simp [originMatches, textMatches_iff]

theorem volumeClassMatches_iff (op : String) (expected : VolumeClass)
    (actual : Option VolumeClass) :
    volumeClassMatches op expected actual = true ↔
      ∃ volume ∈ actual, VolumeHolds op volume expected := by
  cases actual with
  | none => simp [volumeClassMatches]
  | some volume =>
      simp only [volumeClassMatches, VolumeHolds, Says]
      split <;> simp_all

theorem conditionMatches_iff (ctx : AbacContext) (resource : Resource)
    (condition : PolicyCondition) :
    conditionMatches ctx resource condition = true ↔ ConditionHolds ctx resource condition := by
  cases condition with
  | classification op value => exact compareOpClassification_iff ..
  | memberOf op groupSid => exact memberofMatches_iff ..
  | deviceTrust op value => exact compareOp_iff ..
  | networkLocation op value => exact compareOp_iff ..
  | deviceHealth op value => exact compareOpOrd_iff ..
  | accessContext op value => exact compareOp_iff ..
  | sourceApplication field op value => exact appIdentityMatches_iff ..
  | destinationApplication field op value => exact appIdentityMatches_iff ..
  | sourceOrigin op value => exact originMatches_iff ..
  | destinationOrigin op value => exact originMatches_iff ..
  | sourceVolumeClass op value => exact volumeClassMatches_iff ..
  | destinationVolumeClass op value => exact volumeClassMatches_iff ..

theorem policyMatches_iff (ctx : AbacContext) (resource : Resource) (policy : Policy) :
    policyMatches ctx resource policy = true ↔ PolicyHolds ctx resource policy := by
  unfold policyMatches PolicyHolds
  cases policy.mode with
  | all => simp only [List.all_eq_true, conditionMatches_iff]
  | any => simp only [List.any_eq_true, conditionMatches_iff]
  | none =>
      simp only [Bool.not_eq_true', List.any_eq_false, conditionMatches_iff]

/-! ## Policies of a table -/

section Table

variable {Value : Type} (json : ConditionsJson Value)

/-- The policy that a row of the table holds. -/
def InTable (table : List PolicyRow) (policy : StoredPolicy) : Prop :=
  ∃ row ∈ table, deserializePolicyRow json row = some policy

/-- An enabled policy of the table whose conditions hold. -/
structure Applies (table : List PolicyRow) (ctx : AbacContext) (resource : Resource)
    (policy : StoredPolicy) : Prop where
  stored : InTable json table policy
  enabled : policy.enabled = true
  holds : PolicyHolds ctx resource policy.toPolicy

/-- Of these policies, the one of smallest priority. -/
structure AppliesFirst (table : List PolicyRow) (ctx : AbacContext) (resource : Resource)
    (policy : StoredPolicy) : Prop extends Applies json table ctx resource policy where
  smallest : ∀ other, Applies json table ctx resource other →
    policy.priority.toNat ≤ other.priority.toNat

variable {json} {table : List PolicyRow}

theorem priority_of_deserializePolicyRow {row : PolicyRow} {policy : StoredPolicy}
    (reads : deserializePolicyRow json row = some policy) :
    policy.priority = asU32 row.priority := by
  unfold deserializePolicyRow at reads
  obtain ⟨conditions, -, afterConditions⟩ := Option.bind_eq_some_iff.mp reads
  obtain ⟨mode, -, built⟩ := Option.bind_eq_some_iff.mp afterConditions
  cases built
  rfl

/-- In its range a priority is read as it is. -/
theorem toNat_asU32 {value : Int} (range : 0 ≤ value ∧ value < UInt32.size) :
    (asU32 value).toNat = value.toNat := by
  rcases range with ⟨positive, small⟩
  obtain ⟨natural, rfl⟩ := Int.eq_ofNat_of_zero_le positive
  have fits : natural < UInt32.size := by exact_mod_cast small
  have readBack := asU32_toNat (UInt32.ofNat natural)
  rw [UInt32.toNat_ofNat_of_lt' fits] at readBack
  rw [readBack, UInt32.toNat_ofNat_of_lt' fits, Int.toNat_natCast]

/-- The list of the store is sorted strictly by priority. -/
theorem pairwise_loadFromDb
    (inRange : ∀ row ∈ table, 0 ≤ row.priority ∧ row.priority < UInt32.size)
    (distinct : table.Pairwise fun left right => left.priority ≠ right.priority) :
    (loadFromDb json table).Pairwise fun left right =>
      left.priority.toNat < right.priority.toNat := by
  rw [loadFromDb, List.pairwise_filterMap]
  apply (pairwise_lt_sortAscending distinct).imp_of_mem
  intro left right leftListed rightListed lt leftPolicy leftReads rightPolicy rightReads
  have leftRange := inRange left ((mem_sortAscending ..).mp leftListed)
  have rightRange := inRange right ((mem_sortAscending ..).mp rightListed)
  rw [priority_of_deserializePolicyRow leftReads, priority_of_deserializePolicyRow rightReads,
    toNat_asU32 leftRange, toNat_asU32 rightRange]
  omega

theorem applies_iff {ctx : AbacContext} {resource : Resource} {policy : StoredPolicy} :
    Applies json table ctx resource policy ↔
      policy ∈ loadFromDb json table ∧
        (policy.enabled && policyMatches ctx resource policy.toPolicy) = true := by
  rw [Bool.and_eq_true, policyMatches_iff, mem_loadFromDb_iff]
  constructor
  · exact fun applies => ⟨applies.stored, applies.enabled, applies.holds⟩
  · exact fun ⟨stored, enabled, holds⟩ => ⟨stored, enabled, holds⟩

/-- The first match in the list of the store is the policy of smallest priority. -/
theorem find?_loadFromDb_iff
    (inRange : ∀ row ∈ table, 0 ≤ row.priority ∧ row.priority < UInt32.size)
    (distinct : table.Pairwise fun left right => left.priority ≠ right.priority)
    (ctx : AbacContext) (resource : Resource) (policy : StoredPolicy) :
    ((loadFromDb json table).find? fun policy : StoredPolicy =>
        policy.enabled && policyMatches ctx resource policy.toPolicy) = some policy ↔
      AppliesFirst json table ctx resource policy := by
  rw [find?_eq_some_iff_least (pairwise_loadFromDb inRange distinct), ← and_assoc, ← applies_iff]
  constructor
  · rintro ⟨applies, least⟩
    exact ⟨applies, fun other otherApplies =>
      least other (applies_iff.mp otherApplies).1 (applies_iff.mp otherApplies).2⟩
  · intro first
    exact ⟨first.toApplies, fun other member accepted =>
      first.smallest other (applies_iff.mpr ⟨member, accepted⟩)⟩

/-- No match in the list of the store: no policy applies. -/
theorem find?_loadFromDb_eq_none_iff (ctx : AbacContext) (resource : Resource) :
    ((loadFromDb json table).find? fun policy : StoredPolicy =>
        policy.enabled && policyMatches ctx resource policy.toPolicy) = none ↔
      ∀ policy, ¬ Applies json table ctx resource policy := by
  rw [List.find?_eq_none]
  constructor
  · intro rejected policy applies
    exact rejected policy (applies_iff.mp applies).1 (applies_iff.mp applies).2
  · intro none policy member accepted
    exact none policy (applies_iff.mpr ⟨member, accepted⟩)

end Table

/-- The decision when no policy applies. -/
def defaultDecision : Classification → Decision
  | .T1 => .allow
  | .T2 => .allow
  | .T3 => .deny
  | .T4 => .deny

theorem defaultResponse_decision (labelId : Option String) (classification : Classification) :
    (defaultResponse labelId classification).decision = defaultDecision classification ∧
      (defaultResponse labelId classification).matchedPolicyId = none := by
  cases classification <;> exact ⟨rfl, rfl⟩

section Answer

variable {Value : Type} {json : ConditionsJson Value} {table : List PolicyRow} {ctx : AbacContext}
  {labelService : Option LabelService} {labelAwareEnabled : Bool}

/-- After the table was read, an evaluation answers for the first match in the list of the
store. -/
theorem evaluate_invalidate_eq (store : PolicyStore) (globalMode : Option String) :
    (store.invalidate json (some table) globalMode).evaluate ctx labelService labelAwareEnabled =
      ((((loadFromDb json table).find? fun policy : StoredPolicy =>
          policy.enabled && policyMatches ctx
            (evaluatedResource ctx labelService labelAwareEnabled) policy.toPolicy).map
        StoredPolicy.toPolicy).map
          (policyResponse (globalModeOf globalMode)
            (effectiveClassification ctx labelService labelAwareEnabled).2)).getD
        (defaultResponse (effectiveClassification ctx labelService labelAwareEnabled).2
          (evaluatedResource ctx labelService labelAwareEnabled).classification) := by
  change Server.evaluate ((loadFromDb json table).map StoredPolicy.toPolicy) _ ctx labelService
    labelAwareEnabled = _
  rw [evaluate_eq, matchedPolicy, matchingPolicy, List.find?_map]
  rfl

/-- Without a match the answer is the default. -/
theorem evaluate_of_none (store : PolicyStore) (globalMode : Option String)
    (found : ((loadFromDb json table).find? fun policy : StoredPolicy =>
      policy.enabled && policyMatches ctx (evaluatedResource ctx labelService labelAwareEnabled)
        policy.toPolicy) = none) :
    let answer := (store.invalidate json (some table) globalMode).evaluate ctx labelService
      labelAwareEnabled
    answer.matchedPolicyId = none ∧ answer.decision =
      defaultDecision (evaluatedResource ctx labelService labelAwareEnabled).classification := by
  intro answer
  have byDefault := defaultResponse_decision
    (effectiveClassification ctx labelService labelAwareEnabled).2
    (evaluatedResource ctx labelService labelAwareEnabled).classification
  have answered : answer = _ := evaluate_invalidate_eq store globalMode
  simp only [found, Option.map_none, Option.getD_none] at answered
  rw [answered]
  exact ⟨byDefault.2, byDefault.1⟩

/-- With a match the answer names it. -/
theorem matchedPolicyId_of_found (store : PolicyStore) (globalMode : Option String)
    {policy : StoredPolicy}
    (found : ((loadFromDb json table).find? fun policy : StoredPolicy =>
      policy.enabled && policyMatches ctx (evaluatedResource ctx labelService labelAwareEnabled)
        policy.toPolicy) = some policy) :
    ((store.invalidate json (some table) globalMode).evaluate ctx labelService
      labelAwareEnabled).matchedPolicyId = some policy.id := by
  rw [evaluate_invalidate_eq, found]
  rfl

end Answer

/-- After the table was read, an evaluation reports the enabled policy of smallest priority
whose conditions hold under its mode.  It reports none exactly if there is none, and then
it allows T1 and T2 and denies T3 and T4. -/
theorem evaluate_first_match {Value : Type} (json : ConditionsJson Value) (store : PolicyStore)
    (table : List PolicyRow) (globalMode : Option String) (ctx : AbacContext)
    (labelService : Option LabelService) (labelAwareEnabled : Bool)
    (inRange : ∀ row ∈ table, 0 ≤ row.priority ∧ row.priority < UInt32.size)
    (distinct : table.Pairwise fun left right => left.priority ≠ right.priority) :
    let resource := evaluatedResource ctx labelService labelAwareEnabled
    let answer := (store.invalidate json (some table) globalMode).evaluate ctx labelService
      labelAwareEnabled
    (∀ id, answer.matchedPolicyId = some id ↔
        ∃ policy, AppliesFirst json table ctx resource policy ∧ policy.id = id) ∧
      (answer.matchedPolicyId = none ↔ ∀ policy, ¬ Applies json table ctx resource policy) ∧
      (answer.matchedPolicyId = none →
        answer.decision = defaultDecision resource.classification) := by
  intro resource answer
  have first_iff := @find?_loadFromDb_iff _ json table inRange distinct ctx resource
  have none_iff := @find?_loadFromDb_eq_none_iff _ json table ctx resource
  cases found : (loadFromDb json table).find? fun policy : StoredPolicy =>
      policy.enabled && policyMatches ctx resource policy.toPolicy with
  | none =>
      have unmatched := none_iff.mp found
      obtain ⟨unnamed, byDefault⟩ := evaluate_of_none store globalMode found
      rw [show answer.matchedPolicyId = none from unnamed]
      constructor
      · intro id
        constructor
        · intro impossible
          cases impossible
        · rintro ⟨policy, first, _⟩
          exact absurd first.toApplies (unmatched policy)
      constructor
      · exact ⟨fun _ => unmatched, fun _ => rfl⟩
      · exact fun _ => byDefault
  | some policy =>
      have first := (first_iff policy).mp found
      have named : answer.matchedPolicyId = some policy.id :=
        matchedPolicyId_of_found store globalMode found
      rw [named]
      constructor
      · intro id
        constructor
        · intro same
          exact ⟨policy, first, Option.some.inj same⟩
        · rintro ⟨other, otherFirst, rfl⟩
          have sameFound := (first_iff other).mpr otherFirst
          rw [found] at sameFound
          rw [Option.some.inj sameFound]
      constructor
      · constructor
        · intro impossible
          cases impossible
        · intro unmatched
          exact absurd first.toApplies (unmatched policy)
      · intro impossible
        cases impossible

/-- A row of the table that denies T4, under a priority. -/
def denyRow (id : String) (priority : Int) : PolicyRow where
  id := id
  name := "deny"
  description := none
  priority := priority
  conditions := t4Conditions
  action := "DENY"
  enabled := 1
  mode := "ALL"
  enforcementMode := "Block"
  version := 1
  updatedAt := "t0"

/-- The policy of such a row. -/
def denyStored (id : String) (priority : Int) : StoredPolicy where
  id := id
  name := "deny"
  conditions := [.classification "eq" .T4]
  action := .deny
  enabled := true
  mode := .all
  enforcementMode := .block
  description := none
  priority := asU32 priority
  version := 1

theorem deserializePolicyRow_denyRow (id : String) (priority : Int) :
    deserializePolicyRow textConditions (denyRow id priority) = some (denyStored id priority) := by
  have denies : decisionOfAction "DENY" = .deny := by decide
  have conditions : textConditions.fromStr t4Conditions =
      some [.classification "eq" .T4] := by
    simp [textConditions]
  simp only [deserializePolicyRow, denyRow, conditions, denies]
  rfl

/-- The policy that was inserted second has the smaller priority and is reported. -/
theorem second_denyRow_reported :
    (((⟨[], .perPolicy⟩ : PolicyStore).invalidate textConditions
        (some [denyRow "p1" 20, denyRow "p2" 10]) none).evaluate (sampleContext .T4) none
          false).matchedPolicyId = some "p2" := by
  have inRange : ∀ row ∈ [denyRow "p1" 20, denyRow "p2" 10],
      0 ≤ row.priority ∧ row.priority < UInt32.size := by
    intro row member
    rcases List.mem_pair.mp member with rfl | rfl
    · decide
    · decide
  have first := evaluate_first_match textConditions ⟨[], .perPolicy⟩
    [denyRow "p1" 20, denyRow "p2" 10] none (sampleContext .T4) none false inRange
    (by simp [denyRow])
  have smallest : AppliesFirst textConditions [denyRow "p1" 20, denyRow "p2" 10]
      (sampleContext .T4) (evaluatedResource (sampleContext .T4) none false)
        (denyStored "p2" 10) :=
    { stored := ⟨denyRow "p2" 10, by simp, deserializePolicyRow_denyRow "p2" 10⟩
      enabled := rfl
      holds := (policyMatches_iff ..).mp (by decide)
      smallest := by
        rintro other ⟨⟨row, member, reads⟩, -, -⟩
        rcases List.mem_pair.mp member with rfl | rfl
        · rw [deserializePolicyRow_denyRow] at reads
          cases reads
          decide
        · rw [deserializePolicyRow_denyRow] at reads
          cases reads
          exact Nat.le_refl _ }
  exact (first.1 "p2").mpr ⟨denyStored "p2" 10, smallest, rfl⟩

end DlpSystem.Policies
