import DlpSystem.Agent.SnapshotAggregators
import Mathlib.Data.List.Induction

/-!
# Warnings after two degraded polls

A degraded poll raises the counter only if the poll before it was healthy, and a healthy poll
sets it back to zero, so that it never reaches two: no run of snapshots ever brings a warning.
Critical snapshots and the history are handled as documented.
-/

namespace DlpSystem.Agent

open Ipc

variable {showRate : UInt64 → String}

/-! ## Runs -/

/-- The aggregator after some snapshots. -/
def healthAfter (showRate : UInt64 → String) (snapshots : List HookHealthSnapshot) :
    HealthAggregator :=
  snapshots.foldl (fun aggregator snapshot =>
    (aggregator.ingestSnapshot showRate snapshot).1) .new

/-- An event of a severity is emitted at a snapshot after some others. -/
def EmitsAt (showRate : UInt64 → String) (severity : String) (before : List HookHealthSnapshot)
    (snapshot : HookHealthSnapshot) : Prop :=
  ∃ event, ((healthAfter showRate before).ingestSnapshot showRate snapshot).2 = some event ∧
    event.policyMode = severity

/-- The last status that is not degraded.  An aggregator starts healthy. -/
def lastSettled (snapshots : List HookHealthSnapshot) : HealthStatus :=
  ((snapshots.map computeStatus).reverse.find? fun status => decide (status ≠ .degraded)).getD
    .healthy

/-- The rule of two polls at a snapshot after some others: it and the one before it are
degraded, the last other status was healthy, and no warning was emitted since. -/
def TwoPolls (showRate : UInt64 → String) (before : List HookHealthSnapshot)
    (snapshot : HookHealthSnapshot) : Prop :=
  ∃ earlier previous, before = earlier ++ [previous] ∧
    computeStatus previous = .degraded ∧ computeStatus snapshot = .degraded ∧
    lastSettled earlier = .healthy ∧
    ∀ front warned back, before = front ++ warned :: back →
      (∀ later ∈ warned :: back, computeStatus later = .degraded) →
      ¬ EmitsAt showRate "warn" front warned

/-- Warnings follow the rule, critical snapshots are reported, and the history holds the last
snapshots. -/
def FollowsRules (showRate : UInt64 → String) (snapshots : List HookHealthSnapshot) : Prop :=
  ∀ before snapshot after, snapshots = before ++ snapshot :: after →
    (EmitsAt showRate "warn" before snapshot ↔ TwoPolls showRate before snapshot) ∧
      (EmitsAt showRate "crit" before snapshot ↔ computeStatus snapshot = .critical) ∧
      (healthAfter showRate (before ++ [snapshot])).history =
        (before ++ [snapshot]).drop ((before ++ [snapshot]).length - maxHistoryLen)

/-! ## One snapshot -/

theorem healthAfter_concat (before : List HookHealthSnapshot) (snapshot : HookHealthSnapshot) :
    healthAfter showRate (before ++ [snapshot]) =
      ((healthAfter showRate before).ingestSnapshot showRate snapshot).1 :=
  List.foldl_concat _ _ _ _

/-- The counter is at most one, and zero after a healthy snapshot. -/
structure BelowThreshold (aggregator : HealthAggregator) : Prop where
  atMostOne : aggregator.consecutiveDegraded ≤ 1
  healthy : aggregator.lastStatus = .healthy → aggregator.consecutiveDegraded = 0

namespace HealthAggregator

variable {aggregator : HealthAggregator} {snapshot : HookHealthSnapshot}

theorem ingestSnapshot_history :
    (aggregator.ingestSnapshot showRate snapshot).1.history =
      pushHistory aggregator.history snapshot := by
  rw [ingestSnapshot]
  dsimp only
  split
  · split <;> split <;> rfl
  · rfl
  · rfl

theorem ingestSnapshot_critical (critical : computeStatus snapshot = .critical) :
    aggregator.ingestSnapshot showRate snapshot =
      (⟨pushHistory aggregator.history snapshot, .critical, 0⟩,
        some (emitHealthAuditEvent showRate "crit" snapshot aggregator.lastStatus .critical)) := by
  rw [ingestSnapshot, critical]

theorem ingestSnapshot_healthy (healthy : computeStatus snapshot = .healthy) :
    aggregator.ingestSnapshot showRate snapshot =
      (⟨pushHistory aggregator.history snapshot, .healthy, 0⟩, none) := by
  rw [ingestSnapshot, healthy]

/-- Below the threshold a degraded snapshot is not reported. -/
theorem ingestSnapshot_degraded (showRate : UInt64 → String) (below : BelowThreshold aggregator)
    (degraded : computeStatus snapshot = .degraded) :
    ∃ count ≤ 1, aggregator.ingestSnapshot showRate snapshot =
      (⟨pushHistory aggregator.history snapshot, .degraded, count⟩, none) := by
  rw [ingestSnapshot, degraded]
  dsimp only
  have atMostOne : (if aggregator.lastStatus = .healthy then aggregator.consecutiveDegraded + 1
      else aggregator.consecutiveDegraded) ≤ 1 := by
    split
    · rename_i healthy
      rw [below.healthy healthy]
    · exact below.atMostOne
  have belowTwo : ¬ (if aggregator.lastStatus = .healthy then aggregator.consecutiveDegraded + 1
      else aggregator.consecutiveDegraded) ≥ consecutiveDegradedThreshold :=
    Nat.not_le.mpr (Nat.lt_succ_of_le atMostOne)
  rw [if_neg belowTwo]
  exact ⟨_, atMostOne, rfl⟩

/-- Every snapshot leaves the counter below the threshold. -/
theorem belowThreshold_ingestSnapshot (below : BelowThreshold aggregator) :
    BelowThreshold (aggregator.ingestSnapshot showRate snapshot).1 := by
  cases status : computeStatus snapshot with
  | healthy =>
      rw [ingestSnapshot_healthy status]
      exact ⟨Nat.zero_le _, fun _ => rfl⟩
  | critical =>
      rw [ingestSnapshot_critical status]
      exact ⟨Nat.zero_le _, fun _ => rfl⟩
  | degraded =>
      obtain ⟨count, atMostOne, ingested⟩ := ingestSnapshot_degraded showRate below status
      rw [ingested]
      exact ⟨atMostOne, fun healthy => by cases healthy⟩

end HealthAggregator

/-! ## All snapshots -/

theorem belowThreshold_healthAfter (snapshots : List HookHealthSnapshot) :
    BelowThreshold (healthAfter showRate snapshots) := by
  induction snapshots using List.reverseRecOn with
  | nil => exact ⟨Nat.zero_le _, fun _ => rfl⟩
  | append_singleton before snapshot ih =>
      rw [healthAfter_concat]
      exact HealthAggregator.belowThreshold_ingestSnapshot ih

/-- No snapshot of any run brings a warning. -/
theorem not_emitsAt_warn (before : List HookHealthSnapshot) (snapshot : HookHealthSnapshot) :
    ¬ EmitsAt showRate "warn" before snapshot := by
  rintro ⟨event, emitted, isWarning⟩
  cases status : computeStatus snapshot with
  | healthy =>
      rw [HealthAggregator.ingestSnapshot_healthy status] at emitted
      cases emitted
  | critical =>
      rw [HealthAggregator.ingestSnapshot_critical status] at emitted
      injection emitted with same
      rw [← same] at isWarning
      exact absurd isWarning (by simp [emitHealthAuditEvent])
  | degraded =>
      obtain ⟨count, -, ingested⟩ := HealthAggregator.ingestSnapshot_degraded
        showRate (belowThreshold_healthAfter before) status
      rw [ingested] at emitted
      cases emitted

theorem emitsAt_crit_iff (before : List HookHealthSnapshot) (snapshot : HookHealthSnapshot) :
    EmitsAt showRate "crit" before snapshot ↔ computeStatus snapshot = .critical := by
  constructor
  · rintro ⟨event, emitted, -⟩
    cases status : computeStatus snapshot with
    | critical => rfl
    | healthy =>
        rw [HealthAggregator.ingestSnapshot_healthy status] at emitted
        cases emitted
    | degraded =>
        obtain ⟨count, -, ingested⟩ := HealthAggregator.ingestSnapshot_degraded
          showRate (belowThreshold_healthAfter before) status
        rw [ingested] at emitted
        cases emitted
  · intro critical
    rw [EmitsAt, HealthAggregator.ingestSnapshot_critical critical]
    exact ⟨_, rfl, rfl⟩

/-- The history holds the last twelve snapshots. -/
theorem history_healthAfter (snapshots : List HookHealthSnapshot) :
    (healthAfter showRate snapshots).history =
      snapshots.drop (snapshots.length - maxHistoryLen) := by
  induction snapshots using List.reverseRecOn with
  | nil => rfl
  | append_singleton before snapshot ih =>
      rw [healthAfter_concat, HealthAggregator.ingestSnapshot_history,
        HealthAggregator.pushHistory, ih]
      have within : before.length - maxHistoryLen ≤ before.length := Nat.sub_le _ _
      rw [← List.drop_append_of_le_length within]
      split
      · rename_i full
        rw [List.length_drop, List.length_append, List.length_singleton] at full
        rw [List.tail_drop, List.length_append, List.length_singleton]
        congr 1
        omega
      · rename_i short
        rw [List.length_drop, List.length_append, List.length_singleton] at short
        rw [List.length_append, List.length_singleton]
        congr 1
        omega

/-- The rules are followed exactly in runs in which no two degraded snapshots come after a
healthy start. -/
theorem followsRules_iff (showRate : UInt64 → String) (snapshots : List HookHealthSnapshot) :
    FollowsRules showRate snapshots ↔
      ∀ earlier previous snapshot after,
        snapshots = earlier ++ previous :: snapshot :: after →
          computeStatus previous = .degraded → computeStatus snapshot = .degraded →
          lastSettled earlier ≠ .healthy := by
  constructor
  · intro follows earlier previous snapshot after run first second settled
    have cut : snapshots = (earlier ++ [previous]) ++ snapshot :: after := by
      rw [run]
      simp
    have due : TwoPolls showRate (earlier ++ [previous]) snapshot :=
      ⟨earlier, previous, rfl, first, second, settled,
        fun front warned _ _ _ => not_emitsAt_warn front warned⟩
    exact not_emitsAt_warn _ _ ((follows _ _ _ cut).1.mpr due)
  · rintro condition before snapshot after rfl
    constructor
    · constructor
      · intro warned
        exact absurd warned (not_emitsAt_warn _ _)
      · rintro ⟨earlier, previous, rfl, first, second, settled, -⟩
        exact absurd settled (condition earlier previous snapshot after (by simp) first second)
    · exact ⟨emitsAt_crit_iff _ _, history_healthAfter _⟩

/-- A snapshot with a hit rate of 0.70. -/
def degradedSnapshot : HookHealthSnapshot :=
  ⟨5, 12, 100, 0x3FE6666666666666, 0, 1700000000⟩

/-- A snapshot with a hit rate of 0.90. -/
def healthySnapshot : HookHealthSnapshot :=
  ⟨5, 12, 100, 0x3FECCCCCCCCCCCCD, 0, 1700000000⟩

/-- Two degraded snapshots after a healthy one bring no warning. -/
theorem not_followsRules_degraded :
    ¬ FollowsRules (fun _ => "0.70") [healthySnapshot, degradedSnapshot, degradedSnapshot] := by
  intro follows
  have due : TwoPolls (fun _ => "0.70") [healthySnapshot, degradedSnapshot] degradedSnapshot :=
    ⟨[healthySnapshot], degradedSnapshot, rfl, by decide +kernel, by decide +kernel,
      by decide +kernel, fun front warned _ _ _ => not_emitsAt_warn front warned⟩
  exact not_emitsAt_warn _ _
    ((follows [healthySnapshot, degradedSnapshot] degradedSnapshot [] rfl).1.mpr due)

end DlpSystem.Agent
