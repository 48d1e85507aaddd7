import DlpSystem.Agent.ProcessRegistry
import Mathlib.Data.List.Induction

/-!
# Claims of a process

`try_claim` answers `Claimed` when the registry has no entry for the process.  Entries go in
two ways: the cap evicts them, whatever their state, and `prune_exited` removes those that
are `Exited`, as a process also is once it has unhooked itself.
-/

namespace DlpSystem.Processes

open Agent Lib

variable (key : ProcessKey)

/-- The call is a claim of the process, and it is answered with `Claimed`. -/
def isClaimed (registry : ProcessRegistry) (call : RegistryCall) : Bool :=
  decide (call = .tryClaim key) && decide ((registry.tryClaim key).1 = .claimed)

/-- How often `try_claim` answers `Claimed` for the process. -/
def claims : ProcessRegistry → List RegistryCall → Nat
  | _, [] => 0
  | registry, call :: calls =>
      (if isClaimed key registry call then 1 else 0) + claims (registry.next call) calls

/-- What a call inserts with eviction. -/
def insertion : RegistryCall → Option (ProcessKey × ProcessState)
  | .recordInjected other arch now => some (other, .injected arch now none)
  | .recordSkipped other reason => some (other, .skipped reason)
  | .recordExited other => some (other, .exited)
  | _ => none

/-- The call inserts an entry, has more than `MAX_REGISTRY_SIZE` of them then, and evicts the
one of the process. -/
def capEvicts (registry : ProcessRegistry) (call : RegistryCall) : Bool :=
  (insertion call).any fun (other, state) =>
    let inserted := registry.putNew other state
    decide (maxRegistrySize < inserted.size) && (inserted.get key).isSome &&
      (inserted.enforceCap.get key).isNone

/-- Somewhere in the run the process has unhooked itself while it was `Injected`, and the
exited entries are pruned later. -/
def UnhookedThenPruned (registry : ProcessRegistry) (calls : List RegistryCall) : Prop :=
  ∃ before between after,
    calls = before ++ .recordUnhooked key :: (between ++ .pruneExited :: after) ∧
      (before.foldl ProcessRegistry.next registry).isInjected key = true

section Steps

variable {key : ProcessKey} {registry : ProcessRegistry} {call : RegistryCall}

theorem present_insertWithEviction {other : ProcessKey} {state : ProcessState}
    (inserts : insertion call = some (other, state)) (kept : capEvicts key registry call = false)
    (present : registry.get key ≠ none) :
    (registry.insertWithEviction other state).get key ≠ none := by
  have put : (registry.putNew other state).get key ≠ none := by
    rw [ProcessRegistry.get_putNew]
    split
    · exact Option.some_ne_none state
    · exact present
  rcases (registry.putNew other state).get_enforceCap key with same | ⟨gone, full⟩
  · rw [ProcessRegistry.insertWithEviction, same]
    exact put
  · simp [capEvicts, inserts, full, gone, Option.isSome_iff_ne_none.mpr put] at kept

theorem get_recordHello (registry : ProcessRegistry) (key other : ProcessKey) (now : Nat) :
    (registry.recordHello other now).get key = registry.get key ∨
      registry.isInjected key = true ∧
        ∃ arch injectedAt, (registry.recordHello other now).get key =
          some (.injected arch injectedAt (some now)) := by
  unfold ProcessRegistry.recordHello
  split
  · rename_i arch injectedAt hello seq found
    rw [ProcessRegistry.get_put]
    split
    · rename_i same
      refine .inr ⟨?_, arch, injectedAt, rfl⟩
      rw [same, ProcessRegistry.isInjected, ProcessRegistry.get, found]
      rfl
    · exact .inl rfl
  · exact .inl rfl

theorem get_recordUnhooked (registry : ProcessRegistry) (key other : ProcessKey) :
    (registry.recordUnhooked other).get key = registry.get key ∨
      other = key ∧ registry.isInjected key = true ∧
        (registry.recordUnhooked other).get key = some .exited := by
  unfold ProcessRegistry.recordUnhooked
  split
  · rename_i arch injectedAt hello seq found
    rw [ProcessRegistry.get_notify, ProcessRegistry.get_put]
    split
    · rename_i same
      refine .inr ⟨same.symm, ?_, rfl⟩
      rw [same, ProcessRegistry.isInjected, ProcessRegistry.get, found]
      rfl
    · exact .inl rfl
  · exact .inl rfl

theorem get_tryClaim (registry : ProcessRegistry) (key other : ProcessKey) :
    (registry.tryClaim other).2.get key = registry.get key ∨
      other = key ∧ (registry.tryClaim other).2.get key = some .discovered := by
  unfold ProcessRegistry.tryClaim
  split
  · rw [ProcessRegistry.get_putNew]
    split
    · rename_i same
      exact .inr ⟨same.symm, rfl⟩
    · exact .inl rfl
  · exact .inl rfl

theorem get_of_isClaimed (claimed : isClaimed key registry call = true) :
    registry.get key = none := by
  have answer : (registry.tryClaim key).1 = .claimed :=
    of_decide_eq_true (Bool.and_eq_true _ _ ▸ claimed).2
  unfold ProcessRegistry.tryClaim at answer
  split at answer
  · assumption
  · cases answer

theorem present_of_isClaimed (claimed : isClaimed key registry call = true) :
    (registry.next call).get key ≠ none := by
  have absent := get_of_isClaimed claimed
  have claim : call = .tryClaim key := of_decide_eq_true (Bool.and_eq_true _ _ ▸ claimed).1
  rw [claim, ProcessRegistry.next,
    ProcessRegistry.tryClaim, absent, ProcessRegistry.get_putNew, if_pos rfl]
  exact Option.some_ne_none _

/-- An entry that the cap spares and that no prune finds exited stays. -/
theorem present_next (kept : capEvicts key registry call = false)
    (spared : call = .pruneExited → registry.get key ≠ some .exited)
    (present : registry.get key ≠ none) : (registry.next call).get key ≠ none := by
  cases call with
  | tryClaim other =>
      rcases get_tryClaim registry key other with same | ⟨-, claimed⟩
      · rwa [ProcessRegistry.next, same]
      · rw [ProcessRegistry.next, claimed]
        exact Option.some_ne_none _
  | recordInjected other arch now => exact present_insertWithEviction rfl kept present
  | recordHello other now =>
      rcases get_recordHello registry key other now with
        same | ⟨-, arch, injectedAt, greeted⟩
      · rwa [ProcessRegistry.next, same]
      · rw [ProcessRegistry.next, greeted]
        exact Option.some_ne_none _
  | recordSkipped other reason => exact present_insertWithEviction rfl kept present
  | recordExited other =>
      rw [ProcessRegistry.next, ProcessRegistry.recordExited, ProcessRegistry.get_notify]
      exact present_insertWithEviction rfl kept present
  | recordUnhooked other =>
      rcases get_recordUnhooked registry key other with
        same | ⟨-, -, exited⟩
      · rwa [ProcessRegistry.next, same]
      · rw [ProcessRegistry.next, exited]
        exact Option.some_ne_none _
  | pruneExited =>
      rw [ProcessRegistry.next, ProcessRegistry.get_pruneExited, if_neg (spared rfl)]
      exact present

theorem exited_insertWithEviction {other : ProcessKey} {state : ProcessState}
    (exited : (registry.insertWithEviction other state).get key = some .exited) :
    registry.get key = some .exited ∨ other = key ∧ state = .exited := by
  rcases (registry.putNew other state).get_enforceCap key with same | ⟨gone, -⟩
  · rw [ProcessRegistry.insertWithEviction, same, ProcessRegistry.get_putNew] at exited
    split at exited
    · rename_i here
      exact .inr ⟨here.symm, Option.some.inj exited⟩
    · exact .inl exited
  · rw [ProcessRegistry.insertWithEviction, gone] at exited
    cases exited

/-- An entry becomes `Exited` when the process exits or unhooks itself. -/
theorem exited_next (exited : (registry.next call).get key = some .exited) :
    registry.get key = some .exited ∨ call = .recordExited key ∨
      call = .recordUnhooked key ∧ registry.isInjected key = true := by
  cases call with
  | tryClaim other =>
      rcases get_tryClaim registry key other with same | ⟨-, claimed⟩
      · exact .inl (same ▸ exited)
      · cases claimed.symm.trans exited
  | recordInjected other arch now =>
      rcases exited_insertWithEviction exited with before | ⟨-, absurd⟩
      · exact .inl before
      · cases absurd
  | recordHello other now =>
      rcases get_recordHello registry key other now with
        same | ⟨-, arch, injectedAt, greeted⟩
      · exact .inl (same ▸ exited)
      · cases greeted.symm.trans exited
  | recordSkipped other reason =>
      rcases exited_insertWithEviction exited with before | ⟨-, absurd⟩
      · exact .inl before
      · cases absurd
  | recordExited other =>
      rcases exited_insertWithEviction exited with before | ⟨rfl, -⟩
      · exact .inl before
      · exact .inr (.inl rfl)
  | recordUnhooked other =>
      rcases get_recordUnhooked registry key other with
        same | ⟨rfl, injected, -⟩
      · exact .inl (same ▸ exited)
      · exact .inr (.inr ⟨rfl, injected⟩)
  | pruneExited =>
      rw [ProcessRegistry.next, ProcessRegistry.get_pruneExited] at exited
      split at exited
      · cases exited
      · exact .inl exited

end Steps

/-! ## Runs -/

theorem claims_append (registry : ProcessRegistry) (before after : List RegistryCall) :
    claims key registry (before ++ after) =
      claims key registry before +
        claims key (before.foldl ProcessRegistry.next registry) after := by
  induction before generalizing registry with
  | nil => exact (Nat.zero_add _).symm
  | cons call before ih => rw [List.cons_append, claims, claims, ih, List.foldl_cons, Nat.add_assoc]

theorem UnhookedThenPruned.append {registry : ProcessRegistry} {before after : List RegistryCall}
    (pruned : UnhookedThenPruned key registry before) :
    UnhookedThenPruned key registry (before ++ after) := by
  obtain ⟨first, between, last, rfl, injected⟩ := pruned
  exact ⟨first, between, last ++ after, by simp, injected⟩

/-- Along a run in which nothing removes the entry of a process once it is there. -/
theorem claims_of_kept (calls : List RegistryCall) (alive : .recordExited key ∉ calls)
    (kept : Each ProcessRegistry.next (fun registry call => capEvicts key registry call = false)
      .new calls)
    (hooked : ¬UnhookedThenPruned key .new calls) :
    claims key .new calls ≤ 1 ∧
      (0 < claims key .new calls →
        (calls.foldl ProcessRegistry.next .new).get key ≠ none) ∧
      ((calls.foldl ProcessRegistry.next .new).get key = some .exited →
        ∃ before after, calls = before ++ .recordUnhooked key :: after ∧
          (before.foldl ProcessRegistry.next .new).isInjected key = true) := by
  induction calls using List.reverseRecOn with
  | nil =>
      refine ⟨Nat.zero_le 1, fun claimed => ?_, fun exited => ?_⟩
      · exact (Nat.lt_irrefl 0 claimed).elim
      · cases exited
  | append_singleton calls call ih =>
      obtain ⟨keptBefore, keptHere, -⟩ := (each_append _ _ _).mp kept
      obtain ⟨atMostOnce, present, exited⟩ := ih
        (fun member => alive (List.mem_append_left [call] member)) keptBefore
        (fun pruned => hooked (pruned.append key))
      -- a prune that finds the entry exited would come after the process has unhooked itself
      have spared : call = .pruneExited →
          (calls.foldl ProcessRegistry.next .new).get key ≠ some .exited := by
        rintro rfl found
        obtain ⟨before, after, rfl, injected⟩ := exited found
        exact hooked ⟨before, after, [], by simp, injected⟩
      rw [claims_append, List.foldl_append]
      simp only [claims, List.foldl_cons, List.foldl_nil, Nat.add_zero]
      constructor
      · split
        · rename_i claimedHere
          have absent : (calls.foldl ProcessRegistry.next .new).get key = none :=
            get_of_isClaimed claimedHere
          have never : ¬0 < claims key .new calls := fun claimed => present claimed absent
          omega
        · exact atMostOnce
      constructor
      · intro claimed
        by_cases absent : (calls.foldl ProcessRegistry.next .new).get key = none
        · have here : isClaimed key (calls.foldl ProcessRegistry.next .new) call = true := by
            by_contra unclaimed
            rw [if_neg unclaimed] at claimed
            exact present claimed absent
          exact present_of_isClaimed here
        · exact present_next keptHere spared absent
      · intro found
        rcases exited_next found with before | exit | ⟨unhook, injected⟩
        · obtain ⟨first, last, rfl, injected⟩ := exited before
          exact ⟨first, last ++ [call], by simp, injected⟩
        · exact (alive (by simp [exit])).elim
        · exact ⟨calls, [], by rw [unhook], injected⟩

/-- Before its exit is recorded, a process is claimed at most once, unless the cap evicts its
entry or the entry is pruned after the process has unhooked itself. -/
theorem claimed_at_most_once (calls : List RegistryCall) (alive : .recordExited key ∉ calls)
    (kept : Each ProcessRegistry.next (fun registry call => capEvicts key registry call = false)
      .new calls)
    (hooked : ¬UnhookedThenPruned key .new calls) : claims key .new calls ≤ 1 :=
  (claims_of_kept key calls alive kept hooked).1

/-- Three threads claim a process, which is injected and greets. -/
theorem claimed_at_most_once_injected :
    claims ⟨1, 1⟩ .new [.tryClaim ⟨1, 1⟩, .tryClaim ⟨1, 1⟩, .recordInjected ⟨1, 1⟩ "x64" 0,
      .recordHello ⟨1, 1⟩ 1, .tryClaim ⟨1, 1⟩] ≤ 1 := by
  apply claimed_at_most_once
  · decide
  · decide
  · rintro ⟨before, between, after, run, -⟩
    have unhooked : RegistryCall.recordUnhooked ⟨1, 1⟩ ∈
        before ++ .recordUnhooked ⟨1, 1⟩ :: (between ++ .pruneExited :: after) := by simp
    rw [← run] at unhooked
    revert unhooked
    decide

/-- A process that has unhooked itself and was pruned is claimed again. -/
theorem unhooked_process_claimed_again :
    .recordExited ⟨1, 1⟩ ∉ [RegistryCall.tryClaim ⟨1, 1⟩, .recordInjected ⟨1, 1⟩ "x64" 0,
        .recordUnhooked ⟨1, 1⟩, .pruneExited, .tryClaim ⟨1, 1⟩] ∧
      ¬claims ⟨1, 1⟩ .new [.tryClaim ⟨1, 1⟩, .recordInjected ⟨1, 1⟩ "x64" 0,
        .recordUnhooked ⟨1, 1⟩, .pruneExited, .tryClaim ⟨1, 1⟩] ≤ 1 := by
  decide

end DlpSystem.Processes
