import DlpSystem.Lib.EventRun
import DlpSystem.Policy.Evaluation

/-!
# Evaluation behind the label cache

A resolution is cached without the id of its label.  Everything else of an evaluation is
the same from the cache and from the table, as long as the table stays what it was.
-/

namespace DlpSystem.Labels

open Abac Server Lib

/-- `resolve_tier_and_label_id` of a path at a time. -/
def visit (service : LabelService) (call : String × Nat) : LabelService :=
  ({ service with now := call.2 }.resolveTierAndLabelId call.1).2

/-- The service over a label database with nothing cached, at a time. -/
def coldService (db : LabelDb) (now : Nat) : LabelService :=
  ⟨db, fun _ => none, now⟩

/-- The service after some resolutions, at a later time. -/
def warmService (db : LabelDb) (calls : List (String × Nat)) (now : Nat) : LabelService :=
  { calls.foldl visit (coldService db 0) with now := now }

/-- What the table says of a path; `none` when a read fails. -/
def tableResult (db : LabelDb) (path : String) : Option ResolvedTierWithId :=
  (db.getByPath path).bind fun exact =>
    (db.findParentLabel path).map fun parent => combineLabels exact parent

/-- Every cached entry is what the table says of its path. -/
def CacheOfTable (service : LabelService) : Prop :=
  ∀ path entry, service.cache path = some entry →
    ∃ result, tableResult service.db path = some result ∧
      entry = result.toCacheEntry entry.inserted

/-! ## Resolution -/

/-- A hit answers from the entry, a miss from the table. -/
theorem resolve_eq (service : LabelService) (path : String) :
    (service.resolveTierAndLabelId path).1 =
      match service.cached path with
      | some entry => entry.toResolved
      | none => (tableResult service.db path).getD lookupFailed := by
  unfold LabelService.resolveTierAndLabelId tableResult
  cases service.cached path with
  | some entry => rfl
  | none =>
      cases service.db.getByPath path with
      | none => rfl
      | some exact =>
          cases service.db.findParentLabel path with
          | none => rfl
          | some parent => rfl

/-- A resolution leaves the cache as it was, or adds what the table says. -/
theorem resolve_cache_cases (service : LabelService) (path : String) :
    (service.resolveTierAndLabelId path).2 = service ∨
      ∃ result, tableResult service.db path = some result ∧
        (service.resolveTierAndLabelId path).2 =
          { service with
            cache := Function.update service.cache path
              (some (result.toCacheEntry service.now)) } := by
  unfold LabelService.resolveTierAndLabelId tableResult
  cases service.cached path with
  | some entry => exact Or.inl rfl
  | none =>
      cases service.db.getByPath path with
      | none => exact Or.inl rfl
      | some exact =>
          cases service.db.findParentLabel path with
          | none => exact Or.inl rfl
          | some parent => exact Or.inr ⟨_, rfl, rfl⟩

theorem toCacheEntry_inserted (result : ResolvedTierWithId) (now : Nat) :
    (result.toCacheEntry now).inserted = now := by
  rcases result with ⟨tier, source, parentPath, labelId⟩
  cases source <;> rfl

/-- A resolution keeps the database, and a cache that says what the table says. -/
theorem CacheOfTable.visit {service : LabelService} (faithful : CacheOfTable service)
    (call : String × Nat) :
    (visit service call).db = service.db ∧ CacheOfTable (visit service call) := by
  rcases resolve_cache_cases { service with now := call.2 } call.1 with
    same | ⟨result, ofTable, added⟩
  · rw [Labels.visit, same]
    exact ⟨rfl, faithful⟩
  · rw [Labels.visit, added]
    refine ⟨rfl, ?_⟩
    intro path entry found
    replace found : Function.update service.cache call.1
        (some (result.toCacheEntry call.2)) path = some entry := found
    by_cases visited : path = call.1
    · subst visited
      rw [Function.update_self] at found
      cases Option.some.inj found
      exact ⟨result, ofTable, by rw [toCacheEntry_inserted]⟩
    · rw [Function.update_of_ne visited] at found
      exact faithful path entry found

/-- After any resolutions the cache says what the table says. -/
theorem cacheOfTable_warmService (db : LabelDb) (calls : List (String × Nat)) (now : Nat) :
    (warmService db calls now).db = db ∧ CacheOfTable (warmService db calls now) := by
  have invariant : (calls.foldl visit (coldService db 0)).db = db ∧
      CacheOfTable (calls.foldl visit (coldService db 0)) := by
    have start : (coldService db 0).db = db ∧ CacheOfTable (coldService db 0) :=
      ⟨rfl, fun path entry found => nomatch found⟩
    have preserved : ∀ (service : LabelService) (call : String × Nat),
        service.db = db ∧ CacheOfTable service →
          (visit service call).db = db ∧ CacheOfTable (visit service call) := by
      intro service call kept
      have after := kept.2.visit call
      exact ⟨after.1.trans kept.1, after.2⟩
    exact foldl_invariant preserved calls start
  exact invariant

/-- The way through the cache loses the id of the label and nothing else. -/
theorem toResolved_toCacheEntry (exact parent : Option LabelRow) (now : Nat) :
    ((combineLabels exact parent).toCacheEntry now).toResolved =
      { combineLabels exact parent with labelId := none } := by
  cases exact with
  | none =>
      cases parent with
      | none => rfl
      | some parent => rfl
  | some exact =>
      cases parent with
      | none => rfl
      | some parent =>
          simp only [combineLabels]
          split
          · rfl
          · rfl

theorem tableResult_eq_some {db : LabelDb} {path : String} {result : ResolvedTierWithId}
    (found : tableResult db path = some result) :
    ∃ exact parent, result = combineLabels exact parent := by
  simp only [tableResult, Option.bind_eq_some_iff, Option.map_eq_some_iff] at found
  rcases found with ⟨exact, _, parent, _, rfl⟩
  exact ⟨exact, parent, rfl⟩

/-! ## Evaluation -/

/-- The label id goes into the answer and nowhere else. -/
theorem evaluatePolicies_labelId (globalMode : EnforcementMode) (ctx : AbacContext)
    (resource : Resource) (labelId otherId : Option String) (policies : List Policy) :
    evaluatePolicies globalMode ctx resource labelId policies =
      { evaluatePolicies globalMode ctx resource otherId policies with
        matchedLabelId := labelId } := by
  rw [Policies.evaluatePolicies_eq, Policies.evaluatePolicies_eq]
  cases Policies.matchingPolicy policies ctx resource with
  | some policy => rfl
  | none =>
      generalize resource.classification = tier
      cases tier <;> rfl

/-- The path of the request has an entry in the cache that has not expired. -/
def answeredFromCache (service : LabelService) (ctx : AbacContext) : Bool :=
  ctx.resourcePath.any fun path => (service.cached path).isSome

/-- A cached resolution gives the same classification, without the label. -/
theorem effectiveClassification_warm {db : LabelDb} {calls : List (String × Nat)} {now : Nat}
    {ctx : AbacContext} :
    effectiveClassification ctx (some (warmService db calls now)) true =
      ((effectiveClassification ctx (some (coldService db now)) true).1,
        if answeredFromCache (warmService db calls now) ctx then none
        else (effectiveClassification ctx (some (coldService db now)) true).2) := by
  rcases cacheOfTable_warmService db calls now with ⟨sameDb, faithful⟩
  simp only [effectiveClassification, answeredFromCache, if_true]
  cases ctx.resourcePath with
  | none => rfl
  | some path =>
      simp only [resolve_eq, Option.any_some, sameDb]
      have nothing : (coldService db now).cached path = none := rfl
      rw [nothing]
      cases hit : (warmService db calls now).cached path with
      | none => rfl
      | some entry =>
          have stored := (Option.filter_eq_some_iff.mp hit).1
          rcases faithful path entry stored with ⟨result, ofTable, built⟩
          rw [sameDb] at ofTable
          rcases tableResult_eq_some ofTable with ⟨exact, parent, rfl⟩
          have dbOfCold : (coldService db now).db = db := rfl
          simp only [dbOfCold, ofTable, Option.getD_some, Option.isSome_some, if_true]
          rw [built, toResolved_toCacheEntry]
          simp only [classificationOfResolved]
          cases (combineLabels exact parent).tier.toClassification with
          | none => rfl
          | some classification => rfl

/-- After any resolutions over one label database, an evaluation with labels is the
evaluation with nothing cached, but for the label: a cached path is answered without it. -/
theorem evaluate_cached_same_but_label (db : LabelDb) (calls : List (String × Nat)) (now : Nat)
    (policies : List Policy) (globalMode : EnforcementMode) (ctx : AbacContext) :
    evaluate policies globalMode ctx (some (warmService db calls now)) true =
      { evaluate policies globalMode ctx (some (coldService db now)) true with
        matchedLabelId :=
          if answeredFromCache (warmService db calls now) ctx then none
          else (evaluate policies globalMode ctx (some (coldService db now)) true).matchedLabelId } := by
  have labelOfCold := (@Policies.evaluate_names policies ctx (some (coldService db now)) true
    globalMode).2
  rw [labelOfCold, evaluate, evaluate, effectiveClassification_warm]
  exact evaluatePolicies_labelId ..

/-- The second evaluation of a labelled file names no label. -/
theorem secondEvaluation_without_label :
    (evaluate [] .perPolicy (Policies.sampleContext .T4)
        (some (coldService (Policies.sampleLabels .T3).db 0)) true).matchedLabelId =
          some "label-001" ∧
      (evaluate [] .perPolicy (Policies.sampleContext .T4)
        (some (warmService (Policies.sampleLabels .T3).db [("C:\\Data\\a.txt", 0)] 0))
          true).matchedLabelId = none := by
  constructor
  · decide +kernel
  · decide +kernel

end DlpSystem.Labels
