import DlpSystem.Agent.ProcessRegistry
import Mathlib.Data.List.Induction

/-!
# Lifecycle notifications

The notifier is to tell its observer each time a process stops being `Injected`.  Evictions
and `record_unhooked` look at the state before; `record_exited` sends in any case, and
`record_skipped` never does.
-/

namespace DlpSystem.Processes

open Agent Lib

/-- For every key there are as many notifications as departures from `Injected`. -/
def NotificationsMatch (registry : ProcessRegistry) : Prop :=
  ∀ key, registry.notifications.count key = registry.departures.count key

/-- The condition on a call: an exit is recorded of a process that is `Injected`, and a
process is skipped that is not. -/
def NotifiesRightly (registry : ProcessRegistry) : RegistryCall → Prop
  | .recordExited key => registry.isInjected key = true
  | .recordSkipped key _ => registry.isInjected key = false
  | _ => True

instance (registry : ProcessRegistry) : ∀ call, Decidable (NotifiesRightly registry call)
  | .recordExited key => inferInstanceAs (Decidable (registry.isInjected key = true))
  | .recordSkipped key _ => inferInstanceAs (Decidable (registry.isInjected key = false))
  | .tryClaim _ | .recordInjected _ _ _ | .recordHello _ _ | .recordUnhooked _
  | .pruneExited => inferInstanceAs (Decidable True)

/-! ## What the calls send -/

/-- What is sent after `before` are the departures since then, and `owed` besides. -/
def SendsBut (owed : List ProcessKey) (before after : ProcessRegistry) : Prop :=
  ∃ sent, after.notifications = before.notifications ++ sent ∧
    after.departures = before.departures ++ owed ++ sent

theorem SendsBut.trans {owed : List ProcessKey} {first second third : ProcessRegistry}
    (before : SendsBut owed first second) (after : SendsBut [] second third) :
    SendsBut owed first third := by
  obtain ⟨sent, notified, departed⟩ := before
  obtain ⟨later, laterNotified, laterDeparted⟩ := after
  refine ⟨sent ++ later, ?_, ?_⟩
  · rw [laterNotified, notified, List.append_assoc]
  · rw [laterDeparted, departed, List.append_nil, List.append_assoc]

section Calls

variable (registry : ProcessRegistry)

theorem sendsBut_refl : SendsBut [] registry registry :=
  ⟨[], by simp, by simp⟩

theorem sendsBut_put (key : ProcessKey) (entry : ProcessEntry) :
    SendsBut (if registry.isInjected key && !entry.state.isInjected then [key] else [])
      registry (registry.put key entry) := by
  refine ⟨[], by simp [ProcessRegistry.put], ?_⟩
  rw [ProcessRegistry.put, List.append_nil]
  split <;> simp

theorem sendsBut_evict (key : ProcessKey) : SendsBut [] registry (registry.evict key) := by
  refine ⟨if registry.isInjected key then [key] else [], ?_, ?_⟩
  · unfold ProcessRegistry.evict
    split <;> simp [ProcessRegistry.notify, ProcessRegistry.remove]
  · unfold ProcessRegistry.evict
    split
    · rename_i injected
      have still : (registry.notify key).isInjected key = true := injected
      simp only [ProcessRegistry.remove, still, if_true, List.append_nil]
      rfl
    · rename_i other
      simp [ProcessRegistry.remove, other]

theorem sendsBut_enforceCapLoop (rounds : Nat) :
    SendsBut [] registry (ProcessRegistry.enforceCapLoop rounds registry) := by
  induction rounds generalizing registry with
  | zero => exact sendsBut_refl registry
  | succ rounds ih =>
      rw [ProcessRegistry.enforceCapLoop]
      split
      · split
        · rename_i key _
          exact (sendsBut_evict registry key).trans (ih (registry.evict key))
        · exact sendsBut_refl registry
      · exact sendsBut_refl registry

theorem sendsBut_insertWithEviction (key : ProcessKey) (state : ProcessState) :
    SendsBut (if registry.isInjected key && !state.isInjected then [key] else [])
      registry (registry.insertWithEviction key state) := by
  have put : SendsBut (if registry.isInjected key && !state.isInjected then [key] else [])
      registry (registry.putNew key state) := sendsBut_put registry key _
  exact put.trans (sendsBut_enforceCapLoop (registry.putNew key state) _)

theorem sendsBut_remove {key : ProcessKey} (uninjected : registry.isInjected key = false) :
    SendsBut [] registry (registry.remove key) := by
  refine ⟨[], by simp [ProcessRegistry.remove], ?_⟩
  simp [ProcessRegistry.remove, uninjected]

theorem sendsBut_foldl_remove (keys : List ProcessKey)
    (uninjected : ∀ key ∈ keys, registry.isInjected key = false) :
    SendsBut [] registry (keys.foldl ProcessRegistry.remove registry) := by
  induction keys generalizing registry with
  | nil => exact sendsBut_refl registry
  | cons first rest ih =>
      obtain ⟨here, later⟩ := List.forall_mem_cons.mp uninjected
      apply (sendsBut_remove registry here).trans
      apply ih
      intro key member
      rw [ProcessRegistry.isInjected, ProcessRegistry.get_remove]
      split
      · rfl
      · exact later key member

/-- The departure of which a call sends no notification. -/
def owedBy : RegistryCall → List ProcessKey
  | .recordSkipped key _ => if registry.isInjected key then [key] else []
  | _ => []

theorem sendsBut_next (call : RegistryCall) (quiet : ∀ key, call ≠ .recordExited key) :
    SendsBut (owedBy registry call) registry (registry.next call) := by
  cases call with
  | tryClaim key =>
      simp only [ProcessRegistry.next, ProcessRegistry.tryClaim]
      split
      · rename_i absent
        have claimed := sendsBut_put registry key ⟨.discovered, registry.nextSeq⟩
        rw [ProcessRegistry.isInjected, absent] at claimed
        exact claimed
      · exact sendsBut_refl registry
  | recordInjected key arch now =>
      have sends := sendsBut_insertWithEviction registry key (.injected arch now none)
      rw [ProcessState.isInjected, Bool.not_true, Bool.and_false] at sends
      exact sends
  | recordHello key now =>
      simp only [ProcessRegistry.next, ProcessRegistry.recordHello]
      split
      · rename_i arch injectedAt hello seq found
        have sends := sendsBut_put registry key ⟨.injected arch injectedAt (some now), seq⟩
        rw [ProcessState.isInjected, Bool.not_true, Bool.and_false] at sends
        exact sends
      · exact sendsBut_refl registry
  | recordSkipped key reason =>
      have sends := sendsBut_insertWithEviction registry key (.skipped reason)
      have uninjected : (ProcessState.skipped reason).isInjected = false := rfl
      rw [uninjected, Bool.not_false, Bool.and_true] at sends
      exact sends
  | recordExited key => exact (quiet key rfl).elim
  | recordUnhooked key =>
      simp only [ProcessRegistry.next, ProcessRegistry.recordUnhooked]
      split
      · rename_i arch injectedAt hello seq found
        have injected : registry.isInjected key = true := by
          rw [ProcessRegistry.isInjected, ProcessRegistry.get, found]
          rfl
        refine ⟨[key], rfl, ?_⟩
        simp [ProcessRegistry.notify, ProcessRegistry.put, injected, ProcessState.isInjected,
          owedBy]
      · exact sendsBut_refl registry
  | pruneExited =>
      apply sendsBut_foldl_remove
      intro key member
      rw [ProcessRegistry.isInjected, (registry.mem_exitedKeys).mp member]
      rfl

variable {registry}

theorem SendsBut.match_iff {owed : List ProcessKey} {after : ProcessRegistry}
    (sends : SendsBut owed registry after) (matched : NotificationsMatch registry) :
    NotificationsMatch after ↔ owed = [] := by
  obtain ⟨sent, notified, departed⟩ := sends
  have counts (key : ProcessKey) :
      after.notifications.count key = after.departures.count key ↔ owed.count key = 0 := by
    rw [notified, departed, List.count_append, List.count_append, List.count_append, matched key]
    omega
  simp only [NotificationsMatch, counts, List.count_eq_zero]
  exact List.eq_nil_iff_forall_not_mem.symm

theorem match_recordExited_iff {key : ProcessKey} (matched : NotificationsMatch registry) :
    NotificationsMatch (registry.recordExited key) ↔ registry.isInjected key = true := by
  obtain ⟨sent, notified, departed⟩ := sendsBut_insertWithEviction registry key .exited
  have counts (other : ProcessKey) :
      (registry.recordExited key).notifications.count other =
          (registry.recordExited key).departures.count other ↔
        [key].count other =
          (if registry.isInjected key && !ProcessState.exited.isInjected then [key]
            else []).count other := by
    simp only [ProcessRegistry.recordExited, ProcessRegistry.notify]
    rw [notified, departed, List.count_append, List.count_append, List.count_append,
      List.count_append, matched other]
    omega
  simp only [NotificationsMatch, counts]
  cases registry.isInjected key with
  | true => simp [ProcessState.isInjected]
  | false =>
      simp only [Bool.false_and, Bool.false_eq_true, if_false, List.count_nil, iff_false]
      intro never
      simpa using never key

/-- A call keeps the match exactly if it meets the condition. -/
theorem match_next_iff (call : RegistryCall) (matched : NotificationsMatch registry) :
    NotificationsMatch (registry.next call) ↔ NotifiesRightly registry call := by
  by_cases exits : ∃ key, call = .recordExited key
  · obtain ⟨key, rfl⟩ := exits
    exact match_recordExited_iff matched
  · have quiet : ∀ key, call ≠ .recordExited key := fun key same => exits ⟨key, same⟩
    rw [(sendsBut_next registry call quiet).match_iff matched]
    cases call with
    | recordExited key => exact (quiet key rfl).elim
    | recordSkipped key reason => simp [owedBy, NotifiesRightly]
    | tryClaim | recordInjected | recordHello | recordUnhooked | pruneExited =>
        exact ⟨fun _ => trivial, fun _ => rfl⟩

end Calls

/-! ## Who is notified of -/

/-- The process is `Injected`, or has been. -/
def WasInjected (registry : ProcessRegistry) (key : ProcessKey) : Prop :=
  registry.isInjected key = true ∨ key ∈ registry.departures

section History

variable {registry : ProcessRegistry} {key : ProcessKey}

theorem WasInjected.of_put {other : ProcessKey} {entry : ProcessEntry}
    (was : WasInjected (registry.put other entry) key) :
    WasInjected registry key ∨ other = key ∧ entry.state.isInjected = true := by
  rcases was with injected | departed
  · rw [ProcessRegistry.isInjected, ProcessRegistry.get_put] at injected
    split at injected
    · rename_i same
      exact .inr ⟨same.symm, injected⟩
    · exact .inl (.inl injected)
  · rw [ProcessRegistry.put] at departed
    split at departed
    · rename_i leaves
      rcases List.mem_append.mp departed with before | here
      · exact .inl (.inr before)
      · rw [List.mem_singleton.mp here]
        exact .inl (.inl (Bool.and_eq_true _ _ ▸ leaves).1)
    · exact .inl (.inr departed)

theorem WasInjected.of_remove {other : ProcessKey}
    (was : WasInjected (registry.remove other) key) : WasInjected registry key := by
  rcases was with injected | departed
  · rw [ProcessRegistry.isInjected, ProcessRegistry.get_remove] at injected
    split at injected
    · cases injected
    · exact .inl injected
  · rw [ProcessRegistry.remove] at departed
    split at departed
    · rename_i leaves
      rcases List.mem_append.mp departed with before | here
      · exact .inr before
      · rw [List.mem_singleton.mp here]
        exact .inl leaves
    · exact .inr departed

theorem WasInjected.of_evict {other : ProcessKey}
    (was : WasInjected (registry.evict other) key) : WasInjected registry key := by
  unfold ProcessRegistry.evict at was
  split at was
  · exact was.of_remove
  · exact was.of_remove

theorem WasInjected.of_enforceCapLoop {rounds : Nat}
    (was : WasInjected (ProcessRegistry.enforceCapLoop rounds registry) key) :
    WasInjected registry key := by
  induction rounds generalizing registry with
  | zero => exact was
  | succ rounds ih =>
      rw [ProcessRegistry.enforceCapLoop] at was
      split at was
      · split at was
        · exact (ih was).of_evict
        · exact was
      · exact was

theorem WasInjected.of_insertWithEviction {other : ProcessKey} {state : ProcessState}
    (was : WasInjected (registry.insertWithEviction other state) key) :
    WasInjected registry key ∨ other = key ∧ state.isInjected = true := by
  have put : WasInjected (registry.put other ⟨state, registry.nextSeq⟩) key :=
    was.of_enforceCapLoop
  exact put.of_put

theorem WasInjected.of_foldl_remove {keys : List ProcessKey}
    (was : WasInjected (keys.foldl ProcessRegistry.remove registry) key) :
    WasInjected registry key := by
  induction keys generalizing registry with
  | nil => exact was
  | cons first rest ih => exact (ih was).of_remove

/-- A process gets `Injected` by a call that records it. -/
theorem WasInjected.of_next {call : RegistryCall} (was : WasInjected (registry.next call) key) :
    WasInjected registry key ∨ ∃ arch now, call = .recordInjected key arch now := by
  cases call with
  | tryClaim other =>
      simp only [ProcessRegistry.next, ProcessRegistry.tryClaim] at was
      split at was
      · have put : WasInjected (registry.put other ⟨.discovered, registry.nextSeq⟩) key := was
        exact .inl (put.of_put.resolve_right fun absurd => by cases absurd.2)
      · exact .inl was
  | recordInjected other arch now =>
      rcases was.of_insertWithEviction with before | ⟨rfl, -⟩
      · exact .inl before
      · exact .inr ⟨arch, now, rfl⟩
  | recordHello other now =>
      simp only [ProcessRegistry.next, ProcessRegistry.recordHello] at was
      split at was
      · rename_i arch injectedAt hello seq found
        rcases was.of_put with before | ⟨rfl, -⟩
        · exact .inl before
        · refine .inl (.inl ?_)
          rw [ProcessRegistry.isInjected, ProcessRegistry.get, found]
          rfl
      · exact .inl was
  | recordSkipped other reason =>
      exact .inl (was.of_insertWithEviction.resolve_right fun absurd => by cases absurd.2)
  | recordExited other =>
      have inserted : WasInjected (registry.insertWithEviction other .exited) key := was
      exact .inl (inserted.of_insertWithEviction.resolve_right fun absurd => by cases absurd.2)
  | recordUnhooked other =>
      simp only [ProcessRegistry.next, ProcessRegistry.recordUnhooked] at was
      split at was
      · rename_i arch injectedAt hello seq found
        have put : WasInjected (registry.put other ⟨.exited, seq⟩) key := was
        exact .inl (put.of_put.resolve_right fun absurd => by cases absurd.2)
      · exact .inl was
  | pruneExited => exact .inl was.of_foldl_remove

end History

theorem recorded_of_wasInjected {calls : List RegistryCall} {key : ProcessKey}
    (was : WasInjected (calls.foldl ProcessRegistry.next .new) key) :
    ∃ arch now, .recordInjected key arch now ∈ calls := by
  induction calls using List.reverseRecOn with
  | nil =>
      rcases was with injected | departed
      · cases injected
      · cases departed
  | append_singleton calls call ih =>
      rw [List.foldl_append] at was
      rcases was.of_next with before | ⟨arch, now, rfl⟩
      · obtain ⟨arch, now, member⟩ := ih before
        exact ⟨arch, now, List.mem_append_left [call] member⟩
      · exact ⟨arch, now, List.mem_append_right calls List.mem_cons_self⟩

/-! ## Runs -/

/-- At every point of the run the notifications are the departures, and none is of a process
that was never recorded as `Injected`. -/
def NotifiedExactly (calls : List RegistryCall) : Prop :=
  ∀ before after, calls = before ++ after →
    NotificationsMatch (before.foldl ProcessRegistry.next .new) ∧
      ∀ key ∈ (before.foldl ProcessRegistry.next .new).notifications,
        ∃ arch now, .recordInjected key arch now ∈ before

/-- The notifications of a run are right exactly if every exit is recorded of a process that
is `Injected` then, and no process is skipped that is. -/
theorem notified_exactly_iff (calls : List RegistryCall) :
    NotifiedExactly calls ↔ Each ProcessRegistry.next NotifiesRightly .new calls := by
  have initially : NotificationsMatch .new := fun _ => rfl
  rw [← at_cuts_iff_each (fun _ call matched => match_next_iff call matched) initially calls]
  constructor
  · intro exactly before after run
    exact (exactly before after run).1
  · intro matched before after run
    refine ⟨matched before after run, fun key sent => recorded_of_wasInjected (.inr ?_)⟩
    rw [← List.count_pos_iff, ← matched before after run key]
    exact List.count_pos_iff.mpr sent

/-- A process that was skipped exits: a notification is sent of it. -/
theorem skipped_process_notified :
    ¬NotifiedExactly [.tryClaim ⟨1, 1⟩, .recordSkipped ⟨1, 1⟩ .selfProcess,
      .recordExited ⟨1, 1⟩] := by
  intro exactly
  have counts := (exactly _ [] (List.append_nil _).symm).1 ⟨1, 1⟩
  revert counts
  decide

end DlpSystem.Processes
