import DlpSystem.Lib.Fallible
import DlpSystem.Server.AdminApi

/-!
# Accepted policies and the policies that are evaluated

A policy that `create_policy` or `update_policy` has accepted is in the list that
`evaluate` uses, as it was sent, exactly if its conditions can be read.  The handlers
take any JSON for conditions, and the store skips a row that it cannot read.
-/

namespace DlpSystem.Server

open Abac Lib

/-! ## Columns that are read back -/

@[simp]
theorem modeOfColumn_modeStr (mode : PolicyMode) : modeOfColumn (modeStr mode) = some mode := by
  cases mode <;> rfl

theorem enforcementModeStr_eq (mode : EnforcementMode) :
    enforcementModeStr mode = modeText mode := by
  cases mode <;> decide

@[simp]
theorem parseEnforcementMode_enforcementModeStr (mode : EnforcementMode) :
    parseEnforcementMode (enforcementModeStr mode) = mode := by
  rw [enforcementModeStr_eq]
  cases mode <;> rfl

@[simp]
theorem asU32_toNat (value : UInt32) : asU32 value.toNat = value := by
  have small : (value.toNat : Int) % 2 ^ 32 = value.toNat := by
    have bound := value.toNat_lt
    omega
  rw [asU32, UInt32.ofInt, small, Int.toNat_natCast, UInt32.ofNat_toNat]

@[simp]
theorem enabled_of_column (enabled : Bool) :
    ((if enabled = true then (1 : Int) else 0) != 0) = enabled := by
  cases enabled <;> rfl

/-! ## Names of actions -/

/-- The documented names of a decision, in lower case. -/
def actionNames : Decision → List String
  | .allow => ["allow"]
  | .deny => ["deny"]
  | .allowWithLog => ["allow_with_log", "allowwithlog"]
  | .denyWithAlert => ["deny_with_alert", "denywithalert"]

/-- The decision of an action: the one that it names in any case, and a denial if it
names none. -/
def DecisionNamed (action : String) (decision : Decision) : Prop :=
  asciiLowercase action ∈ actionNames decision ∨
    decision = .deny ∧ ∀ other, asciiLowercase action ∉ actionNames other

theorem decisionNamed_decisionOfAction (action : String) :
    DecisionNamed action (decisionOfAction action) := by
  unfold decisionOfAction
  split
  case h_7 noAllow noDeny noLog noLog' noAlert noAlert' =>
    right
    constructor
    · rfl
    · intro other
      cases other <;> simp_all [actionNames]
  all_goals
    rename_i named
    left
    rw [named]
    simp [actionNames]

/-! ## Requests -/

/-- The requests that write a policy. -/
inductive PolicyRequest (Value : Type)
  | create (payload : PolicyPayload Value)
  | update (path : String) (payload : PolicyPayload Value)

section Requests

variable {Value : Type}

/-- The payload of a request. -/
def PolicyRequest.payload : PolicyRequest Value → PolicyPayload Value
  | .create payload => payload
  | .update _ payload => payload

/-- The handler of a request. -/
def PolicyRequest.handle (json : ConditionsJson Value) (now : String) (table : List PolicyRow) :
    PolicyRequest Value → Except AdminError (List PolicyRow × PolicyResponse Value)
  | .create payload => createPolicy json now table payload
  | .update path payload => updatePolicy json now table path payload

variable {json : ConditionsJson Value} {now : String} {table written : List PolicyRow}
  {response : PolicyResponse Value}

/-- A row under the id of the answer holds the payload. -/
def HoldsPayload (json : ConditionsJson Value) (now : String) (payload : PolicyPayload Value)
    (id : String) (table : List PolicyRow) : Prop :=
  (∃ row ∈ table, row.id = id) ∧
    ∀ row ∈ table, row.id = id → ∃ version, row = payload.row json id version now

theorem createPolicy_holdsPayload {payload : PolicyPayload Value}
    (accepted : createPolicy json now table payload = .ok (written, response)) :
    HoldsPayload json now payload response.id written := by
  unfold createPolicy at accepted
  split at accepted
  · cases accepted
  · obtain ⟨inserted, insertion, answer⟩ := bind_eq_ok_iff.mp accepted
    cases answer
    unfold insertPolicy at insertion
    split at insertion
    · cases insertion
    · rename_i fresh
      split at insertion
      · cases insertion
        constructor
        · exact ⟨_, List.mem_append_right _ List.mem_cons_self, rfl⟩
        · intro row member sameId
          rcases List.mem_append.mp member with old | new
          · have known : (table.any fun row => row.id = payload.id) = true := by
              rw [List.any_eq_true]
              exact ⟨row, old, decide_eq_true sameId⟩
            exact absurd known fresh
          · rw [List.mem_singleton.mp new]
            exact ⟨1, rfl⟩
      · cases insertion

theorem updatePolicies_eq_ok {update : PolicyRow} {rows : Nat}
    (done : updatePolicies table update = .ok (written, rows)) (some : rows ≠ 0) :
    (∃ row ∈ table, row.id = update.id) ∧
      written = table.map fun row => if row.id = update.id then row.updated update else row := by
  unfold updatePolicies at done
  simp only at done
  split at done
  · cases done
    exact absurd rfl some
  · rename_i changed
    split at done
    · cases done
      constructor
      · obtain ⟨row, member⟩ := List.exists_mem_of_length_pos (Nat.pos_of_ne_zero changed)
        rw [List.mem_filter] at member
        exact ⟨row, member.1, by simpa using member.2⟩
      · rfl
    · cases done

theorem updatePolicy_holdsPayload {path : String} {payload : PolicyPayload Value}
    (accepted : updatePolicy json now table path payload = .ok (written, response)) :
    HoldsPayload json now payload response.id written := by
  unfold updatePolicy at accepted
  obtain ⟨id, -, afterPath⟩ := bind_eq_ok_iff.mp accepted
  obtain ⟨⟨changed, rows⟩, updated, afterUpdate⟩ := bind_eq_ok_iff.mp afterPath
  simp only at afterUpdate
  split at afterUpdate
  · cases afterUpdate
  · rename_i someRows
    obtain ⟨version, -, answer⟩ := bind_eq_ok_iff.mp afterUpdate
    cases answer
    obtain ⟨⟨row, member, sameId⟩, rfl⟩ := updatePolicies_eq_ok updated someRows
    have rowId : (payload.row json id 0 now).id = id := rfl
    rw [rowId] at sameId ⊢
    constructor
    · refine ⟨row.updated (payload.row json id 0 now), ?_, sameId⟩
      apply List.mem_map.mpr
      exact ⟨row, member, if_pos sameId⟩
    · intro changedRow changedMember changedId
      obtain ⟨source, -, rfl⟩ := List.mem_map.mp changedMember
      by_cases sourceId : source.id = id
      · refine ⟨source.version + 1, ?_⟩
        simp only [PolicyRow.updated, PolicyPayload.row, sourceId]
        rfl
      · simp only [if_neg sourceId] at changedId
        exact absurd changedId sourceId

/-- An accepted request leaves its payload in the table, and nothing else under its id. -/
theorem handle_holdsPayload {request : PolicyRequest Value}
    (accepted : request.handle json now table = .ok (written, response)) :
    HoldsPayload json now request.payload response.id written := by
  cases request with
  | create payload => exact createPolicy_holdsPayload accepted
  | update path payload => exact updatePolicy_holdsPayload accepted

/-! ## Reading back -/

/-- A policy of the list is the payload, with the decision that its action names. -/
structure Enforces (json : ConditionsJson Value) (payload : PolicyPayload Value)
    (policy : StoredPolicy) : Prop where
  conditions : json.fromValue payload.conditions = some policy.conditions
  mode : policy.mode = payload.mode
  enforcementMode : policy.enforcementMode = payload.enforcementMode
  priority : policy.priority = payload.priority
  action : DecisionNamed payload.action policy.action
  enabled : policy.enabled = payload.enabled

/-- The row of a payload is read exactly if its conditions are. -/
theorem deserializePolicyRow_row (payload : PolicyPayload Value) (id : String) (version : Int) :
    deserializePolicyRow json (payload.row json id version now) =
      (json.fromValue payload.conditions).map fun conditions =>
        { id := id
          name := payload.name
          conditions := conditions
          action := decisionOfAction payload.action
          enabled := payload.enabled
          mode := payload.mode
          enforcementMode := payload.enforcementMode
          description := payload.description
          priority := payload.priority
          version := asU64 version } := by
  simp only [deserializePolicyRow, PolicyPayload.row, json.fromStr_toString,
    modeOfColumn_modeStr, parseEnforcementMode_enforcementModeStr, asU32_toNat,
    enabled_of_column]
  cases json.fromValue payload.conditions with
  | none => rfl
  | some conditions => rfl

theorem mem_loadFromDb_iff {policy : StoredPolicy} :
    policy ∈ loadFromDb json table ↔
      ∃ row ∈ table, deserializePolicyRow json row = some policy := by
  simp only [loadFromDb, listPolicies, List.mem_filterMap, mem_sortAscending]

theorem id_of_deserializePolicyRow {row : PolicyRow} {policy : StoredPolicy}
    (reads : deserializePolicyRow json row = some policy) : policy.id = row.id := by
  unfold deserializePolicyRow at reads
  obtain ⟨conditions, -, afterConditions⟩ := Option.bind_eq_some_iff.mp reads
  obtain ⟨mode, -, built⟩ := Option.bind_eq_some_iff.mp afterConditions
  cases built
  rfl

/-- Every policy of the list under the id of the answer is the payload. -/
theorem enforces_of_mem {payload : PolicyPayload Value} {id : String} {policy : StoredPolicy}
    (held : HoldsPayload json now payload id table) (member : policy ∈ loadFromDb json table)
    (sameId : policy.id = id) : Enforces json payload policy := by
  obtain ⟨row, rowMember, reads⟩ := mem_loadFromDb_iff.mp member
  have rowId : row.id = id := (id_of_deserializePolicyRow reads).symm.trans sameId
  obtain ⟨version, rfl⟩ := held.2 row rowMember rowId
  rw [deserializePolicyRow_row] at reads
  obtain ⟨conditions, decoded, rfl⟩ := Option.map_eq_some_iff.mp reads
  exact
    { conditions := decoded
      mode := rfl
      enforcementMode := rfl
      priority := rfl
      action := decisionNamed_decisionOfAction payload.action
      enabled := rfl }

/-- A payload whose conditions can be read is in the list. -/
theorem exists_mem_of_decodes {payload : PolicyPayload Value} {id : String}
    (held : HoldsPayload json now payload id table)
    (decodes : (json.fromValue payload.conditions).isSome) :
    ∃ policy ∈ loadFromDb json table, policy.id = id := by
  obtain ⟨row, member, rowId⟩ := held.1
  obtain ⟨version, rfl⟩ := held.2 row member rowId
  obtain ⟨conditions, decoded⟩ := Option.isSome_iff_exists.mp decodes
  have reads : deserializePolicyRow json (payload.row json id version now) = _ :=
    deserializePolicyRow_row payload id version
  rw [decoded] at reads
  exact ⟨_, mem_loadFromDb_iff.mpr ⟨_, member, reads⟩, rfl⟩

/-- After an accepted request and the `invalidate` that follows, the policy is in the list
of the store as it was sent if and only if its conditions decode. -/
theorem accepted_enforced_iff (json : ConditionsJson Value) (now : String)
    (table written : List PolicyRow) (request : PolicyRequest Value)
    (response : PolicyResponse Value) (store : PolicyStore) (globalMode : Option String)
    (accepted : request.handle json now table = .ok (written, response))
    (enabled : request.payload.enabled = true) :
    (∃ policy ∈ (store.invalidate json (some written) globalMode).cache,
        policy.id = response.id ∧ policy.enabled = true ∧
          Enforces json request.payload policy) ↔
      (json.fromValue request.payload.conditions).isSome := by
  have held := handle_holdsPayload accepted
  constructor
  · rintro ⟨policy, -, -, -, enforces⟩
    rw [enforces.conditions]
    rfl
  · intro decodes
    obtain ⟨policy, member, sameId⟩ := exists_mem_of_decodes held decodes
    have enforces := enforces_of_mem held member sameId
    exact ⟨policy, member, sameId, enforces.enabled.trans enabled, enforces⟩

/-- A policy whose conditions do not decode is accepted, and nothing under its id is
evaluated. -/
theorem not_mem_of_not_decodes {request : PolicyRequest Value}
    (accepted : request.handle json now table = .ok (written, response))
    (undecodable : json.fromValue request.payload.conditions = none) {policy : StoredPolicy}
    (member : policy ∈ loadFromDb json written) : policy.id ≠ response.id := by
  intro sameId
  have enforces := enforces_of_mem (handle_holdsPayload accepted) member sameId
  have decoded := enforces.conditions
  rw [undecodable] at decoded
  cases decoded

end Requests

/-! ## An unread policy -/

/-- The JSON of a condition on T4. -/
def t4Conditions : String :=
  "[\x7b\"attribute\":\"classification\",\"op\":\"eq\",\"value\":\"T4\"\x7d]"

/-- Values given by their compact text.  Of the texts used below, the array of one
condition is a list of conditions, and an object is not. -/
def textConditions : ConditionsJson String where
  toString text := text
  fromStr text := if text = t4Conditions then some [.classification "eq" .T4] else none
  fromValue text := if text = t4Conditions then some [.classification "eq" .T4] else none
  fromStr_toString _ := rfl

/-- A policy that denies what its conditions match. -/
def denyPayload (conditions : String) : PolicyPayload String where
  id := "p1"
  name := "deny"
  description := none
  priority := 10
  conditions := conditions
  action := "DENY"
  enabled := true
  mode := .all
  enforcementMode := .block

/-- The table after the policy was created in an empty one. -/
def denyTable (conditions : String) : List PolicyRow :=
  [(denyPayload conditions).row textConditions "p1" 1 "t0"]

theorem create_denyPayload (conditions : String) :
    (PolicyRequest.create (denyPayload conditions)).handle textConditions "t0" [] =
      .ok (denyTable conditions, (denyPayload conditions).response "p1" 1 "t0") := by
  have allowed : enforcementModeAllowed
      ((denyPayload conditions).row textConditions "p1" 1 "t0").enforcementMode = true := by
    change enforcementModeAllowed (enforcementModeStr .block) = true
    rw [enforcementModeStr_eq]
    rfl
  have inserted : insertPolicy [] ((denyPayload conditions).row textConditions "p1" 1 "t0") =
      .ok (denyTable conditions) := by
    rw [insertPolicy, if_pos allowed]
    rfl
  have named : ¬ ((denyPayload conditions).id = "" ∨ (denyPayload conditions).name = "") := by
    simp [denyPayload]
  rw [PolicyRequest.handle, createPolicy, if_neg named]
  exact bind_eq_ok_iff.mpr ⟨_, inserted, rfl⟩

/-- A denial for T4 is enforced. -/
theorem deny_t4_enforced :
    ∃ policy ∈ ((⟨[], .perPolicy⟩ : PolicyStore).invalidate textConditions
        (some (denyTable t4Conditions)) none).cache,
      policy.id = "p1" ∧ policy.enabled = true ∧
        Enforces textConditions (denyPayload t4Conditions) policy := by
  have decodes : (textConditions.fromValue t4Conditions).isSome := by
    simp [textConditions]
  exact (accepted_enforced_iff textConditions "t0" [] _ (.create (denyPayload t4Conditions)) _
    ⟨[], .perPolicy⟩ none (create_denyPayload t4Conditions) rfl).mpr decodes

/-- A policy with an object for its conditions is accepted and enabled, and no policy is
evaluated under its id. -/
theorem deny_object_not_enforced :
    (PolicyRequest.create (denyPayload "\x7b\x7d")).handle textConditions "t0" [] =
        .ok (denyTable "\x7b\x7d", (denyPayload "\x7b\x7d").response "p1" 1 "t0") ∧
      (denyPayload "\x7b\x7d").enabled = true ∧
      ¬ ∃ policy ∈ ((⟨[], .perPolicy⟩ : PolicyStore).invalidate textConditions
          (some (denyTable "\x7b\x7d")) none).cache, policy.id = "p1" := by
  have accepted := create_denyPayload "\x7b\x7d"
  have undecodable : textConditions.fromValue "\x7b\x7d" = none := by
    simp [textConditions, t4Conditions]
  constructor
  · exact accepted
  constructor
  · rfl
  · rintro ⟨policy, member, sameId⟩
    exact not_mem_of_not_decodes accepted undecodable member sameId

end DlpSystem.Server
