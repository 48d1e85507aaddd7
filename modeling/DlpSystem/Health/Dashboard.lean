import DlpSystem.Server.SnapshotStores
import Mathlib.Data.Finset.Dedup
import Mathlib.Data.Finset.Card

/-!
# What the dashboard says about agents that fail

As long as there are no more agents than keys, the store holds the latest snapshot of each.  The
status comes from the largest of their codes, and the code of an agent that recovers is larger
than that of an isolated one.
-/

namespace DlpSystem.Health

open Ipc Lib Server

/-! ## Runs -/

/-- The agents that report, in the order of their reports. -/
def agentsOf (steps : List HealthStep) : List String :=
  steps.filterMap fun step =>
    match step with
    | .record agentId _ => some agentId
    | .push _ => none

/-- The latest snapshot of an agent, with another step. -/
def latestAfter (agentId : String) (last : Option HookHealthSnapshot) :
    HealthStep → Option HookHealthSnapshot
  | .record other snapshot => if other = agentId then some snapshot else last
  | .push _ => last

/-- The latest snapshot of an agent. -/
def latestSnapshot (steps : List HealthStep) (agentId : String) : Option HookHealthSnapshot :=
  steps.foldl (latestAfter agentId) none

/-- The latest snapshots of all agents. -/
def latestSnapshots (steps : List HealthStep) : List HookHealthSnapshot :=
  (agentsOf steps).dedup.filterMap (latestSnapshot steps)

/-- The calls so far. -/
def ingestsAfter (maxHistory maxKeys : Nat) (steps : List HealthStep) : HealthIngests :=
  steps.foldl HealthIngests.next (.start maxHistory maxKeys)

/-! ## The dashboard -/

/-- An isolated agent makes the status critical, and no agent that fails or recovers is reported
as healthy. -/
def SpeaksUp (latest : List HookHealthSnapshot) (status : String) : Prop :=
  ((∃ snap ∈ latest, snap.currentFailState = 2) → status = "critical") ∧
    ((∃ snap ∈ latest, snap.currentFailState = 1 ∨ snap.currentFailState = 2 ∨
      snap.currentFailState = 3) → status ≠ "healthy")

/-- The sums are those of the counters, and the status is right about agents that fail. -/
structure IsHonest (latest : List HookHealthSnapshot) (dashboard : DashboardHealthSnapshot) :
    Prop where
  injected : dashboard.injectedPids.toNat = (latest.map fun snap => snap.injectedPids.toNat).sum
  patched : dashboard.patchedModules.toNat =
    (latest.map fun snap => snap.patchedModules.toNat).sum
  roundTrips : dashboard.pipeRoundTrips60s.toNat =
    (latest.map fun snap => snap.pipeRoundTrips60s.toNat).sum
  status : SpeaksUp latest dashboard.overallStatus

/-- What is reported once the agents have these latest snapshots. -/
def ReportsHonestly (latest : List HookHealthSnapshot) :
    Option DashboardHealthSnapshot → Prop
  | none => latest = []
  | some dashboard => IsHonest latest dashboard

/-- The sums fit into their words. -/
def SumsFit (latest : List HookHealthSnapshot) : Prop :=
  (latest.map fun snap => snap.injectedPids.toNat).sum < 2 ^ 64 ∧
    (latest.map fun snap => snap.patchedModules.toNat).sum < 2 ^ 64 ∧
    (latest.map fun snap => snap.pipeRoundTrips60s.toNat).sum < 2 ^ 64

/-- No code is larger than that of an isolated agent; or no agent is isolated, and if one is
degraded or recovers, the hit rate is low. -/
def CodesSpeak (order : List HookHealthSnapshot) : Prop :=
  (∀ snap ∈ order, snap.currentFailState ≤ 2) ∨
    ((∀ snap ∈ order, snap.currentFailState ≠ 2) ∧
      ((∃ snap ∈ order, snap.currentFailState = 1 ∨ snap.currentFailState = 3) →
        (order.foldl DashboardTotals.add .zero).HasLowHitRate))

section Totals

variable {order : List HookHealthSnapshot}

/-- A counter of the loop wraps around at the end of its word. -/
theorem toNat_foldl_add (counter : HookHealthSnapshot → UInt64) (start : UInt64) :
    (order.foldl (fun total snap => total + counter snap) start).toNat =
      (start.toNat + (order.map fun snap => (counter snap).toNat).sum) % 2 ^ 64 := by
  induction order generalizing start with
  | nil =>
      rw [List.foldl_nil, List.map_nil, List.sum_nil, Nat.add_zero]
      exact (Nat.mod_eq_of_lt start.toNat_lt).symm
  | cons snap rest ih =>
      rw [List.foldl_cons, ih, List.map_cons, List.sum_cons, UInt64.toNat_add,
        Nat.mod_add_mod, Nat.add_assoc]

/-- A field of the totals that each round changes on its own. -/
theorem foldl_add_field {α : Type} (field : DashboardTotals → α)
    (change : α → HookHealthSnapshot → α)
    (each : ∀ totals snap, field (totals.add snap) = change (field totals) snap)
    (totals : DashboardTotals) :
    field (order.foldl DashboardTotals.add totals) = order.foldl change (field totals) := by
  induction order generalizing totals with
  | nil => rfl
  | cons snap rest ih => rw [List.foldl_cons, List.foldl_cons, ih, each]

theorem count_totals : (order.foldl DashboardTotals.add .zero).count = order.length := by
  rw [foldl_add_field DashboardTotals.count (fun count _ => count + 1) fun _ _ => rfl,
    List.foldl_add_const]
  show 0 + 1 * order.length = order.length
  omega

theorem toNat_max (code other : UInt8) : (max code other).toNat = max code.toNat other.toNat := by
  show (if code ≤ other then other else code).toNat = _
  rw [Nat.max_def]
  by_cases less : code ≤ other
  · rw [if_pos less, if_pos (UInt8.le_iff_toNat_le.mp less)]
  · rw [if_neg less, if_neg fun notLess => less (UInt8.le_iff_toNat_le.mpr notLess)]

/-- The largest code is one of the codes, or the one at the start. -/
theorem foldl_max_spec (start : UInt8) :
    let largest := order.foldl (fun code snap => max code snap.currentFailState) start
    start.toNat ≤ largest.toNat ∧ (∀ snap ∈ order, snap.currentFailState.toNat ≤ largest.toNat) ∧
      (largest = start ∨ ∃ snap ∈ order, snap.currentFailState = largest) := by
  induction order generalizing start with
  | nil => exact ⟨Nat.le_refl _, List.forall_mem_nil _, Or.inl rfl⟩
  | cons snap rest ih =>
      obtain ⟨above, all, one⟩ := ih (max start snap.currentFailState)
      rw [toNat_max] at above
      refine ⟨le_trans (le_max_left ..) above, ?_, ?_⟩
      · exact List.forall_mem_cons.mpr ⟨le_trans (le_max_right ..) above, all⟩
      · rcases one with isStart | ⟨other, member, same⟩
        · by_cases less : start ≤ snap.currentFailState
          · right
            refine ⟨snap, List.mem_cons_self, ?_⟩
            exact (if_pos less).symm.trans isStart.symm
          · left
            exact isStart.trans (if_neg less)
        · exact Or.inr ⟨other, List.mem_cons_of_mem _ member, same⟩

/-- The largest code of the dashboard. -/
theorem maxFailState_spec :
    let largest := (order.foldl DashboardTotals.add .zero).maxFailState
    (∀ snap ∈ order, snap.currentFailState.toNat ≤ largest.toNat) ∧
      (largest = 0 ∨ ∃ snap ∈ order, snap.currentFailState = largest) := by
  rw [foldl_add_field DashboardTotals.maxFailState
    (fun code snap => max code snap.currentFailState) fun _ _ => rfl]
  exact (foldl_max_spec 0).2

/-- With no code larger than that of an isolated agent, it is. -/
theorem speaksUp_of_le
    (small : (order.foldl DashboardTotals.add .zero).maxFailState.toNat ≤ 2) :
    SpeaksUp order (order.foldl DashboardTotals.add .zero).overallStatus := by
  obtain ⟨all, _⟩ := @maxFailState_spec order
  rw [DashboardTotals.overallStatus]
  by_cases isTwo : (order.foldl DashboardTotals.add .zero).maxFailState = 2
  · rw [if_pos isTwo]
    exact ⟨fun _ => rfl, fun _ => by decide⟩
  have noTwo : ¬ ∃ snap ∈ order, snap.currentFailState = 2 := by
    rintro ⟨snap, member, two⟩
    have below := all snap member
    rw [two] at below
    exact isTwo (UInt8.toNat_inj.mp (Nat.le_antisymm small below))
  refine ⟨fun isolated => absurd isolated noTwo, ?_⟩
  by_cases isOne : (order.foldl DashboardTotals.add .zero).maxFailState = 1
  · rw [if_neg isTwo, if_pos isOne]
    exact fun _ => by decide
  · rintro ⟨snap, member, failing⟩
    have below := all snap member
    have notOne : (order.foldl DashboardTotals.add .zero).maxFailState.toNat ≠ 1 :=
      fun one => isOne (UInt8.toNat_inj.mp one)
    have notTwo : (order.foldl DashboardTotals.add .zero).maxFailState.toNat ≠ 2 :=
      fun two => isTwo (UInt8.toNat_inj.mp two)
    have large : 1 ≤ snap.currentFailState.toNat := by
      rcases failing with code | code | code <;> rw [code] <;> decide
    omega

/-- With a larger code, only the hit rate can make the status anything but healthy. -/
theorem speaksUp_iff_of_lt
    (large : 2 < (order.foldl DashboardTotals.add .zero).maxFailState.toNat) :
    SpeaksUp order (order.foldl DashboardTotals.add .zero).overallStatus ↔
      (∀ snap ∈ order, snap.currentFailState ≠ 2) ∧
        ((∃ snap ∈ order, snap.currentFailState = 1 ∨ snap.currentFailState = 3) →
          (order.foldl DashboardTotals.add .zero).HasLowHitRate) := by
  have notTwo : (order.foldl DashboardTotals.add .zero).maxFailState ≠ 2 := by
    intro two
    rw [two] at large
    exact absurd large (by decide)
  have notOne : (order.foldl DashboardTotals.add .zero).maxFailState ≠ 1 := by
    intro one
    rw [one] at large
    exact absurd large (by decide)
  rw [SpeaksUp, DashboardTotals.overallStatus, if_neg notTwo, if_neg notOne]
  constructor
  · rintro ⟨isolated, failing⟩
    constructor
    · intro snap member two
      have critical := isolated ⟨snap, member, two⟩
      split at critical <;> exact absurd critical (by decide)
    · rintro ⟨snap, member, code⟩
      by_contra fine
      rw [if_neg fine] at failing
      refine failing ⟨snap, member, ?_⟩ rfl
      tauto
  · rintro ⟨noTwo, low⟩
    constructor
    · rintro ⟨snap, member, two⟩
      exact absurd two (noTwo snap member)
    · rintro ⟨snap, member, failing⟩
      have isLow := low ⟨snap, member, by
        have differs := noTwo snap member
        tauto⟩
      rw [if_pos isLow]
      decide

/-- The status is right about agents that fail exactly where the codes speak for themselves. -/
theorem speaksUp_iff :
    SpeaksUp order (order.foldl DashboardTotals.add .zero).overallStatus ↔ CodesSpeak order := by
  obtain ⟨all, one⟩ := @maxFailState_spec order
  by_cases small : (order.foldl DashboardTotals.add .zero).maxFailState.toNat ≤ 2
  · refine iff_of_true (speaksUp_of_le small) (Or.inl ?_)
    intro snap member
    exact UInt8.le_iff_toNat_le.mpr (le_trans (all snap member) small)
  · rw [speaksUp_iff_of_lt (Nat.not_le.mp small), CodesSpeak, or_iff_right]
    intro every
    rcases one with zero | ⟨snap, member, same⟩
    · rw [zero] at small
      exact small (by decide)
    · rw [← same] at small
      exact small (UInt8.le_iff_toNat_le.mp (every snap member))

/-- A counter of the dashboard is the sum exactly if the sum fits into its word. -/
theorem toNat_total_iff (field : DashboardTotals → UInt64) (counter : HookHealthSnapshot → UInt64)
    (each : ∀ totals snap, field (totals.add snap) = field totals + counter snap)
    (zero : field .zero = 0) :
    (field (order.foldl DashboardTotals.add .zero)).toNat =
        (order.map fun snap => (counter snap).toNat).sum ↔
      (order.map fun snap => (counter snap).toNat).sum < 2 ^ 64 := by
  rw [foldl_add_field field (fun total snap => total + counter snap) each, zero,
    toNat_foldl_add, UInt64.toNat_zero, Nat.zero_add]
  constructor
  · intro same
    rw [← same]
    exact Nat.mod_lt _ (by decide)
  · exact Nat.mod_eq_of_lt

/-- What the dashboard says of some snapshots is honest exactly where the sums fit and the codes
speak for themselves. -/
theorem reportsHonestly_iff :
    ReportsHonestly order (HealthSnapshotStore.getDashboardSnapshot order) ↔
      SumsFit order ∧ CodesSpeak order := by
  rw [HealthSnapshotStore.getDashboardSnapshot, count_totals]
  by_cases none : order.length = 0
  · obtain rfl := List.length_eq_zero_iff.mp none
    refine iff_of_true rfl ⟨?_, Or.inl (List.forall_mem_nil _)⟩
    unfold SumsFit
    decide
  · rw [if_neg none, ← speaksUp_iff, SumsFit,
      ← toNat_total_iff DashboardTotals.injectedPids _ (fun _ _ => rfl) rfl,
      ← toNat_total_iff DashboardTotals.patchedModules _ (fun _ _ => rfl) rfl,
      ← toNat_total_iff DashboardTotals.pipeRoundTrips _ (fun _ _ => rfl) rfl]
    constructor
    · intro honest
      exact ⟨⟨honest.injected, honest.patched, honest.roundTrips⟩, honest.status⟩
    · rintro ⟨⟨injected, patched, roundTrips⟩, status⟩
      exact ⟨injected, patched, roundTrips, status⟩

end Totals

/-! ## The store -/

section Store

variable {steps : List HealthStep} {ingests : HealthIngests} {maxHistory maxKeys : Nat}

theorem latestSnapshot_concat (steps : List HealthStep) (step : HealthStep) (agentId : String) :
    latestSnapshot (steps ++ [step]) agentId =
      latestAfter agentId (latestSnapshot steps agentId) step := by
  rw [latestSnapshot, List.foldl_append]
  rfl

theorem agentsOf_concat_record (steps : List HealthStep) (agentId : String)
    (snapshot : HookHealthSnapshot) :
    agentsOf (steps ++ [.record agentId snapshot]) = agentsOf steps ++ [agentId] := by
  rw [agentsOf, List.filterMap_append]
  rfl

theorem agentsOf_concat_push (steps : List HealthStep) (index : Nat) :
    agentsOf (steps ++ [.push index]) = agentsOf steps := by
  rw [agentsOf, List.filterMap_append]
  exact List.append_nil _

/-- An agent that has reported has a latest snapshot. -/
theorem isSome_latestSnapshot_iff (steps : List HealthStep) (agentId : String) :
    (latestSnapshot steps agentId).isSome ↔ agentId ∈ agentsOf steps := by
  induction steps using List.reverseRecOn with
  | nil => simp [latestSnapshot, agentsOf]
  | append_singleton steps step ih =>
      rw [latestSnapshot_concat]
      cases step with
      | push index =>
          rw [agentsOf_concat_push]
          exact ih
      | record other snapshot =>
          rw [agentsOf_concat_record, List.mem_append, List.mem_singleton, latestAfter]
          by_cases same : other = agentId
          · simp [same]
          · rw [if_neg same, ih, or_iff_left fun isOther => same isOther.symm]

/-- The store holds the latest snapshot of each agent, and each agent is queued or is to be. -/
structure HoldsLatest (maxKeys : Nat) (steps : List HealthStep) (ingests : HealthIngests) :
    Prop where
  queues : QueuesKeys ingests.store.snapshots ingests.store.keyQueue ingests.unpushed
  latest : ∀ agentId, (ingests.store.snapshots.lookup agentId).map AgentHealthRecord.latest =
    latestSnapshot steps agentId
  maxKeys_eq : ingests.store.maxKeys = maxKeys

theorem HoldsLatest.mem_agentsOf (holds : HoldsLatest maxKeys steps ingests) (key : String) :
    key ∈ ingests.store.snapshots ↔ key ∈ agentsOf steps := by
  rw [← isSome_latestSnapshot_iff, ← holds.latest, Option.isSome_map, AList.lookup_isSome]

theorem holdsLatest_start (maxHistory maxKeys : Nat) :
    HoldsLatest maxKeys [] (.start maxHistory maxKeys) where
  queues := QueuesKeys.nil
  latest := fun agentId => by
    simp [HealthIngests.start, HealthSnapshotStore.withCaps, latestSnapshot]
  maxKeys_eq := rfl

theorem HoldsLatest.record (holds : HoldsLatest maxKeys steps ingests) (agentId : String)
    (snapshot : HookHealthSnapshot) :
    HoldsLatest maxKeys (steps ++ [.record agentId snapshot])
      (ingests.next (.record agentId snapshot)) where
  queues := by
    rw [HealthIngests.next]
    by_cases present : agentId ∈ ingests.store.snapshots
    · rw [if_pos present, List.append_nil]
      exact holds.queues.insert_present present _
    · rw [if_neg present]
      exact holds.queues.insert_new present _
  latest := by
    intro other
    rw [latestSnapshot_concat, latestAfter]
    by_cases same : agentId = other
    · subst same
      show ((ingests.store.snapshots.insert _ _).lookup _).map _ = _
      rw [AList.lookup_insert, if_pos rfl, Option.map_some,
        HealthSnapshotStore.latest_recordWith]
    · show ((ingests.store.snapshots.insert _ _).lookup _).map _ = _
      rw [AList.lookup_insert_ne (Ne.symm same), if_neg same]
      exact holds.latest other
  maxKeys_eq := holds.maxKeys_eq

/-- A queue of no more agents than keys has room for another one. -/
theorem HoldsLatest.room (holds : HoldsLatest maxKeys steps ingests)
    (few : (agentsOf steps).toFinset.card ≤ maxKeys) {index : Nat} {key : String}
    (found : ingests.unpushed[index]? = some key) :
    ingests.store.keyQueue.length < ingests.store.maxKeys := by
  have inside : (ingests.store.keyQueue ++ ingests.unpushed).toFinset ⊆
      (agentsOf steps).toFinset := by
    intro other member
    rw [List.mem_toFinset] at member ⊢
    exact (holds.mem_agentsOf other).mp ((holds.queues.mem_iff other).mp member)
  have atMost := Finset.card_le_card inside
  rw [List.toFinset_card_of_nodup holds.queues.nodup, List.length_append] at atMost
  have waiting : 0 < ingests.unpushed.length :=
    List.length_pos_of_mem (List.mem_of_getElem? found)
  rw [holds.maxKeys_eq]
  omega

theorem HoldsLatest.push (holds : HoldsLatest maxKeys steps ingests)
    (few : (agentsOf steps).toFinset.card ≤ maxKeys) (index : Nat) :
    HoldsLatest maxKeys (steps ++ [.push index]) (ingests.next (.push index)) := by
  have same : ∀ agentId, latestSnapshot (steps ++ [.push index]) agentId =
      latestSnapshot steps agentId := fun agentId => latestSnapshot_concat ..
  rw [HealthIngests.next]
  cases found : ingests.unpushed[index]? with
  | none =>
      refine { holds with latest := ?_ }
      intro agentId
      rw [same]
      exact holds.latest agentId
  | some key =>
      have pushed : ingests.store.push key =
          { ingests.store with keyQueue := ingests.store.keyQueue ++ [key] } := by
        rw [HealthSnapshotStore.push, pushKey_of_lt (holds.room few found)]
      dsimp only
      rw [pushed]
      refine ⟨holds.queues.push_of_room found, ?_, holds.maxKeys_eq⟩
      intro agentId
      rw [same]
      exact holds.latest agentId

theorem holdsLatest_after (few : (agentsOf steps).toFinset.card ≤ maxKeys) :
    HoldsLatest maxKeys steps (ingestsAfter maxHistory maxKeys steps) := by
  induction steps using List.reverseRecOn with
  | nil => exact holdsLatest_start maxHistory maxKeys
  | append_singleton steps step ih =>
      have fewer : (agentsOf steps).toFinset.card ≤ maxKeys := by
        refine le_trans (Finset.card_le_card ?_) few
        intro agentId member
        rw [List.mem_toFinset] at member ⊢
        rw [agentsOf, List.filterMap_append]
        exact List.mem_append_left _ member
      rw [ingestsAfter, List.foldl_append]
      cases step with
      | record agentId snapshot => exact (ih fewer).record agentId snapshot
      | push index => exact (ih fewer).push fewer index

/-- The store's latest snapshots are those of the agents. -/
theorem HoldsLatest.latest_perm (holds : HoldsLatest maxKeys steps ingests) :
    ingests.store.latest.Perm (latestSnapshots steps) := by
  have values : ingests.store.latest =
      ingests.store.snapshots.keys.filterMap (latestSnapshot steps) := by
    rw [AList.keys, List.keys, List.filterMap_map, HealthSnapshotStore.latest,
      ← List.filterMap_eq_map]
    apply List.filterMap_congr
    intro entry member
    have found : ingests.store.snapshots.lookup entry.1 = some entry.2 :=
      AList.mem_lookup_iff.mpr member
    have known := holds.latest entry.1
    rw [found] at known
    exact known
  have keys : ingests.store.snapshots.keys.Perm (agentsOf steps).dedup := by
    rw [List.perm_ext_iff_of_nodup ingests.store.snapshots.keys_nodup (List.nodup_dedup _)]
    intro key
    rw [List.mem_dedup, ← holds.mem_agentsOf]
    exact AList.mem_keys.symm
  rw [values]
  exact keys.filterMap _

end Store

/-! ## The dashboard of a run -/

section Order

variable {order latest : List HookHealthSnapshot} (perm : order.Perm latest)
include perm

theorem isHonest_congr (dashboard : DashboardHealthSnapshot) :
    IsHonest order dashboard ↔ IsHonest latest dashboard := by
  have sums : ∀ counter : HookHealthSnapshot → Nat,
      (order.map counter).sum = (latest.map counter).sum := fun counter => (perm.map counter).sum_nat
  have status : ∀ text, SpeaksUp order text ↔ SpeaksUp latest text := by
    intro text
    simp only [SpeaksUp, perm.mem_iff]
  constructor
  · rintro ⟨injected, patched, roundTrips, speaks⟩
    exact ⟨injected.trans (sums _), patched.trans (sums _), roundTrips.trans (sums _),
      (status _).mp speaks⟩
  · rintro ⟨injected, patched, roundTrips, speaks⟩
    exact ⟨injected.trans (sums _).symm, patched.trans (sums _).symm,
      roundTrips.trans (sums _).symm, (status _).mpr speaks⟩

theorem reportsHonestly_congr (report : Option DashboardHealthSnapshot) :
    ReportsHonestly order report ↔ ReportsHonestly latest report := by
  cases report with
  | none =>
      constructor
      · rintro rfl
        exact perm.nil_eq.symm
      · rintro rfl
        exact perm.eq_nil
  | some dashboard => exact isHonest_congr perm dashboard

theorem sumsFit_congr : SumsFit order ↔ SumsFit latest := by
  have sums : ∀ counter : HookHealthSnapshot → Nat,
      (order.map counter).sum = (latest.map counter).sum := fun counter => (perm.map counter).sum_nat
  rw [SumsFit, SumsFit, sums, sums, sums]

end Order

/-- After any run of calls by no more agents than keys, the dashboard is honest about the latest
snapshot of each agent exactly where the sums fit and the codes speak for themselves. -/
theorem dashboard_honest_iff (maxHistory : Nat) {maxKeys : Nat} {steps : List HealthStep}
    (few : (agentsOf steps).toFinset.card ≤ maxKeys) {order : List HookHealthSnapshot}
    (iterates : order.Perm (ingestsAfter maxHistory maxKeys steps).store.latest) :
    ReportsHonestly (latestSnapshots steps) (HealthSnapshotStore.getDashboardSnapshot order) ↔
      SumsFit (latestSnapshots steps) ∧ CodesSpeak order := by
  have perm := iterates.trans (holdsLatest_after few).latest_perm
  rw [← reportsHonestly_congr perm, ← sumsFit_congr perm]
  exact reportsHonestly_iff

/-- An idle agent with a code. -/
def idleSnapshot (currentFailState : UInt8) : HookHealthSnapshot :=
  ⟨1, 1, 0, 0, currentFailState, 100⟩

/-- Two agents that report at the same time, the first healthy and the second degraded. -/
def healthyAndDegraded : List HealthStep :=
  [.record "A" (idleSnapshot 0), .record "B" (idleSnapshot 1), .push 1, .push 0]

theorem dashboard_honest_degraded :
    ReportsHonestly (latestSnapshots healthyAndDegraded)
        (HealthSnapshotStore.getDashboardSnapshot
          (ingestsAfter 12 4 healthyAndDegraded).store.latest) ∧
      (HealthSnapshotStore.getDashboardSnapshot
        (ingestsAfter 12 4 healthyAndDegraded).store.latest).map
          DashboardHealthSnapshot.overallStatus = some "degraded" := by
  refine ⟨?_, by decide⟩
  exact (@dashboard_honest_iff 12 4 healthyAndDegraded (by decide) _ (List.Perm.refl _)).mpr
    ⟨by unfold SumsFit; decide, Or.inl (by decide)⟩

/-- Two agents that report at the same time, the first isolated and the second recovering. -/
def isolatedAndRecovering : List HealthStep :=
  [.record "A" (idleSnapshot 2), .record "B" (idleSnapshot 3), .push 1, .push 0]

/-- The recovering agent hides the isolated one. -/
theorem dashboard_hides_isolated :
    (ingestsAfter 12 4 isolatedAndRecovering).unpushed = [] ∧
      (HealthSnapshotStore.getDashboardSnapshot
        (ingestsAfter 12 4 isolatedAndRecovering).store.latest).map
          DashboardHealthSnapshot.overallStatus = some "healthy" ∧
      latestSnapshot isolatedAndRecovering "A" = some (idleSnapshot 2) := by
  decide

end DlpSystem.Health
