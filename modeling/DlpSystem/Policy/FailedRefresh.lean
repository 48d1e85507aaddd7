import DlpSystem.Policy.Acceptance
import DlpSystem.Policy.Evaluation

/-!
# Refreshes that fail

`refresh` and `invalidate` read the policies and the global enforcement mode, one after the
other.  Policies that cannot be read stay as they are cached; a mode that cannot be read is
replaced by `PerPolicy`.
-/

namespace DlpSystem.Policies

open Abac Server

/-! ## Reads of a refresh -/

/-- What `refresh_global_mode` gets from the database. -/
inductive ModeRead
  | connectionFailed
  | readFailed
  | value (text : Option String)
  deriving DecidableEq

/-- The mode could not be read. -/
def ModeRead.fails : ModeRead → Bool
  | .connectionFailed => true
  | .readFailed => true
  | .value _ => false

/-- `refresh_global_mode`. -/
def refreshGlobalMode (store : PolicyStore) (read : ModeRead) : PolicyStore :=
  { store with
    globalMode :=
      match read with
      | .connectionFailed => .perPolicy
      | .readFailed => .perPolicy
      | .value (some text) => parseEnforcementMode text
      | .value none => .perPolicy }

section Refresh

variable {Value : Type} (json : ConditionsJson Value)

/-- The policies after `load_from_db`, which fails if the table cannot be read. -/
def reloadPolicies (store : PolicyStore) (table : Option (List PolicyRow)) : PolicyStore :=
  match table with
  | some rows => { store with cache := loadFromDb json rows }
  | none => store

/-- `refresh`. -/
def refresh (store : PolicyStore) (table : Option (List PolicyRow)) (read : ModeRead) :
    PolicyStore :=
  refreshGlobalMode (reloadPolicies json store table) read

/-- `invalidate`, whose reads may fail. -/
def invalidate (store : PolicyStore) (table : Option (List PolicyRow)) (read : ModeRead) :
    PolicyStore :=
  refreshGlobalMode (reloadPolicies json store table) read

/-- For the mode a failure is as good as a missing key. -/
theorem invalidate_eq (store : PolicyStore) (table : Option (List PolicyRow)) (read : ModeRead) :
    invalidate json store table read =
      store.invalidate json table
        (match read with
          | .value text => text
          | _ => none) := by
  unfold invalidate reloadPolicies refreshGlobalMode PolicyStore.invalidate
  cases table with
  | none =>
      cases read with
      | value text => cases text <;> rfl
      | _ => rfl
  | some rows =>
      cases read with
      | value text => cases text <;> rfl
      | _ => rfl

end Refresh

/-- What could not be read is as it was cached.  When nothing could be read, evaluations
answer as before. -/
structure KeepsUnread (before after : PolicyStore) (table : Option (List PolicyRow))
    (read : ModeRead) : Prop where
  policies : table = none → after.cache = before.cache
  mode : read.fails = true → after.globalMode = before.globalMode
  evaluations : table = none → read.fails = true →
    ∀ ctx labelService labelAwareEnabled,
      after.evaluate ctx labelService labelAwareEnabled =
        before.evaluate ctx labelService labelAwareEnabled

/-! ## What a refresh keeps -/

section Kept

variable {Value : Type} {json : ConditionsJson Value} {store : PolicyStore}
  {table : Option (List PolicyRow)} {read : ModeRead}

theorem globalMode_of_fails (fails : read.fails = true) :
    (refreshGlobalMode store read).globalMode = .perPolicy := by
  cases read with
  | connectionFailed => rfl
  | readFailed => rfl
  | value text => cases fails

theorem keepsUnread_reload_iff :
    KeepsUnread store (refreshGlobalMode (reloadPolicies json store table) read) table read ↔
      (read.fails = true → store.globalMode = .perPolicy) := by
  constructor
  · intro kept fails
    rw [← kept.mode fails, globalMode_of_fails fails]
  · intro harmless
    have sameCache : table = none →
        (refreshGlobalMode (reloadPolicies json store table) read).cache = store.cache := by
      rintro rfl
      rfl
    have sameMode : read.fails = true →
        (refreshGlobalMode (reloadPolicies json store table) read).globalMode =
          store.globalMode := by
      intro fails
      rw [globalMode_of_fails fails, harmless fails]
    constructor
    · exact sameCache
    · exact sameMode
    · intro unread fails ctx labelService labelAwareEnabled
      rw [PolicyStore.evaluate, PolicyStore.evaluate, sameCache unread, sameMode fails]

/-- The mode has no part in which policy matches. -/
theorem matchedPolicyId_of_same_cache {before after : PolicyStore}
    (sameCache : after.cache = before.cache) (ctx : AbacContext)
    (labelService : Option LabelService) (labelAwareEnabled : Bool) :
    (after.evaluate ctx labelService labelAwareEnabled).matchedPolicyId =
      (before.evaluate ctx labelService labelAwareEnabled).matchedPolicyId := by
  rw [PolicyStore.evaluate, PolicyStore.evaluate, (evaluate_names after.globalMode).1,
    (evaluate_names before.globalMode).1, sameCache]

end Kept

/-- A refresh and an invalidation keep what they could not read exactly if the mode was
read or the cached mode is `PerPolicy`.  Policies that could not be read match as before in
any case. -/
theorem failed_refresh_keeps_iff {Value : Type} (json : ConditionsJson Value)
    (store : PolicyStore) (table : Option (List PolicyRow)) (read : ModeRead) :
    (KeepsUnread store (refresh json store table read) table read ↔
        read.fails = false ∨ store.globalMode = .perPolicy) ∧
      (KeepsUnread store (invalidate json store table read) table read ↔
        read.fails = false ∨ store.globalMode = .perPolicy) ∧
      ∀ ctx labelService labelAwareEnabled,
        ((refresh json store none read).evaluate ctx labelService
              labelAwareEnabled).matchedPolicyId =
            (store.evaluate ctx labelService labelAwareEnabled).matchedPolicyId ∧
          ((invalidate json store none read).evaluate ctx labelService
              labelAwareEnabled).matchedPolicyId =
            (store.evaluate ctx labelService labelAwareEnabled).matchedPolicyId := by
  have condition : (read.fails = true → store.globalMode = .perPolicy) ↔
      read.fails = false ∨ store.globalMode = .perPolicy := by
    cases read.fails with
    | true => simp
    | false => simp
  have kept := (@keepsUnread_reload_iff _ json store table read).trans condition
  constructor
  · exact kept
  constructor
  · exact kept
  · intro ctx labelService labelAwareEnabled
    have sameCache : (refresh json store none read).cache = store.cache := rfl
    have matched := matchedPolicyId_of_same_cache sameCache ctx labelService labelAwareEnabled
    exact ⟨matched, matched⟩

/-- A store that only audits, with a policy that denies T4. -/
def auditStore : PolicyStore where
  cache := [⟨⟨"p1", "deny", [.classification "eq" .T4], .deny, true, .all, .block⟩, none, 10, 1⟩]
  globalMode := .audit

/-- After an outage the store denies. -/
theorem auditStore_denies_after_outage :
    ¬ KeepsUnread auditStore (refresh textConditions auditStore none .connectionFailed) none
        .connectionFailed ∧
      (auditStore.evaluate (sampleContext .T4) none false).decision = .allow ∧
      ((refresh textConditions auditStore none .connectionFailed).evaluate (sampleContext .T4)
        none false).decision = .deny := by
  constructor
  · intro kept
    exact nomatch kept.mode rfl
  constructor
  · decide
  · decide

end DlpSystem.Policies
