import DlpSystem.Hook.ThreadSuspender

/-!
# Threads that stay frozen

When `with_suspended_threads` ends, a thread that it has suspended may still be suspended, or
may have been resumed twice: both loops stop at the first error, the guard exists only after
the first one, and an error in the last one runs the guard over all threads again.
-/

namespace DlpSystem.Hook

/-! ## The property -/

/-- A thread that was suspended has been resumed as often, or its own `ResumeThread` has
failed. -/
def Thawed (thread : HostThread) : Prop :=
  0 < thread.suspensions →
    thread.resumptions = thread.suspensions ∨ thread.resumeFailed = true

/-- No thread stays frozen. -/
def NeverFrozen (threads : List HostThread) : Prop :=
  ∀ thread ∈ threads, Thawed thread

/-- The threads beside the current one. -/
def otherThreads (currentTid : Nat) (threads : List HostThread) : List HostThread :=
  threads.filter fun thread => thread.tid ≠ currentTid

/-- Every instruction pointer can be read and is outside the stub. -/
def RipsClear (stubStart : Nat) (others : List HostThread) : Prop :=
  ∀ thread ∈ others, ∃ rip, thread.rip = some rip ∧ inStub stubStart rip = false

/-- The results of the system calls under which every thread is released: all threads can be
suspended, or the first one cannot; on the way out through the guard it resumes all threads
but perhaps the last; after the closure either all threads are resumed, or the first call
fails and the guard resumes all but perhaps the last, or only the last call fails and the
guard stops at the first thread. -/
def Released {α : Type} (stubStart : Nat) (others : List HostThread) (closure : Option α) :
    Prop :=
  ((∃ thread ∈ others, thread.suspends = false) →
    ∀ thread ∈ others.head?, thread.suspends = false) ∧
  ((∀ thread ∈ others, thread.suspends = true) → (¬ RipsClear stubStart others ∨ closure = none) →
    ∀ thread ∈ others.dropLast, thread.resumesOnDrop = true) ∧
  ((∀ thread ∈ others, thread.suspends = true) → RipsClear stubStart others → closure ≠ none →
    (∀ thread ∈ others, thread.resumes = true) ∨
    ((∀ thread ∈ others.head?, thread.resumes = false) ∧
      ∀ thread ∈ others.dropLast, thread.resumesOnDrop = true) ∨
    ((∀ thread ∈ others.dropLast, thread.resumes = true) ∧
      ∀ thread ∈ others.head?, thread.resumesOnDrop = false))

/-! ## Lists of threads -/

section Lists

variable {currentTid : Nat} {thread : HostThread} {threads : List HostThread}

theorem neverFrozen_cons :
    NeverFrozen (thread :: threads) ↔ Thawed thread ∧ NeverFrozen threads :=
  List.forall_mem_cons

theorem otherThreads_cons_current (current : thread.tid = currentTid) :
    otherThreads currentTid (thread :: threads) = otherThreads currentTid threads :=
  List.filter_cons_of_neg (by simp [current])

theorem otherThreads_cons_other (other : thread.tid ≠ currentTid) :
    otherThreads currentTid (thread :: threads) = thread :: otherThreads currentTid threads :=
  List.filter_cons_of_pos (by simp [other])

/-- All elements but the last. -/
theorem forall_mem_dropLast_cons {holds : HostThread → Prop} :
    (∀ other ∈ (thread :: threads).dropLast, holds other) ↔
      (threads = [] ∨ holds thread) ∧ ∀ other ∈ threads.dropLast, holds other := by
  cases threads with
  | nil => simp
  | cons next rest => simp [List.dropLast_cons_of_ne_nil]

/-- The calls before the first failure: the thread is suspended, and nothing has resumed it
yet. -/
def Waiting (currentTid : Nat) (thread : HostThread) : Prop :=
  if thread.tid = currentTid then thread.suspensions = 0
  else thread.suspensions = 1 ∧ thread.resumptions = 0 ∧ thread.resumeFailed = false

theorem Waiting.of_other (waiting : Waiting currentTid thread) (other : thread.tid ≠ currentTid) :
    thread.suspensions = 1 ∧ thread.resumptions = 0 ∧ thread.resumeFailed = false := by
  rwa [Waiting, if_neg other] at waiting

theorem Waiting.thawed_of_current (waiting : Waiting currentTid thread)
    (current : thread.tid = currentTid) : Thawed thread := by
  rw [Waiting, if_pos current] at waiting
  intro suspended
  omega

theorem Waiting.not_thawed (waiting : Waiting currentTid thread)
    (other : thread.tid ≠ currentTid) : ¬ Thawed thread := by
  obtain ⟨suspended, resumed, failed⟩ := waiting.of_other other
  simp [Thawed, suspended, resumed, failed]

/-- Threads that wait stay frozen, unless there are none beside the current one. -/
theorem neverFrozen_waiting_iff (waiting : ∀ thread ∈ threads, Waiting currentTid thread) :
    NeverFrozen threads ↔ otherThreads currentTid threads = [] := by
  rw [otherThreads, List.filter_eq_nil_iff]
  constructor
  · intro thawed thread member
    by_contra other
    exact (waiting thread member).not_thawed (by simpa using other) (thawed thread member)
  · intro none thread member
    exact (waiting thread member).thawed_of_current (by simpa using none thread member)

end Lists

/-! ## The loops -/

section Loops

variable {currentTid : Nat} {succeeds : HostThread → Bool} {thread : HostThread}
  {threads : List HostThread}

theorem resumeAllThreads_current (current : thread.tid = currentTid) :
    resumeAllThreads succeeds currentTid (thread :: threads) =
      (thread :: (resumeAllThreads succeeds currentTid threads).1,
        (resumeAllThreads succeeds currentTid threads).2) := by
  rw [resumeAllThreads, if_pos current]

theorem resumeAllThreads_success (other : thread.tid ≠ currentTid)
    (success : succeeds thread = true) :
    resumeAllThreads succeeds currentTid (thread :: threads) =
      ({ thread with resumptions := thread.resumptions + 1 } ::
          (resumeAllThreads succeeds currentTid threads).1,
        (resumeAllThreads succeeds currentTid threads).2) := by
  rw [resumeAllThreads, if_neg other, if_pos success, HostThread.resume, if_pos success]

theorem resumeAllThreads_failure (other : thread.tid ≠ currentTid)
    (failure : ¬ succeeds thread = true) :
    resumeAllThreads succeeds currentTid (thread :: threads) =
      ({ thread with resumeFailed := true } :: threads, false) := by
  rw [resumeAllThreads, if_neg other, if_neg failure, HostThread.resume, if_neg failure]

example : resumeAllThreads HostThread.resumes 7 [⟨7, true, none, false, false, 0, 0, false⟩] =
    ([⟨7, true, none, false, false, 0, 0, false⟩], true) := by
  rw [resumeAllThreads, if_pos rfl, resumeAllThreads]

theorem resumeAllThreads_ok_iff :
    (resumeAllThreads succeeds currentTid threads).2 = true ↔
      ∀ thread ∈ otherThreads currentTid threads, succeeds thread = true := by
  induction threads with
  | nil => simp [resumeAllThreads, otherThreads]
  | cons thread threads ih =>
      by_cases current : thread.tid = currentTid
      · rw [resumeAllThreads_current current, otherThreads_cons_current current, ih]
      · by_cases success : succeeds thread = true
        · rw [resumeAllThreads_success current success, otherThreads_cons_other current,
            List.forall_mem_cons, ih]
          simp [success]
        · rw [resumeAllThreads_failure current success, otherThreads_cons_other current,
            List.forall_mem_cons]
          simp [success]

/-- One loop over waiting threads releases them all exactly if only the last call may
fail. -/
theorem neverFrozen_resumeAllThreads_iff
    (waiting : ∀ thread ∈ threads, Waiting currentTid thread) :
    NeverFrozen (resumeAllThreads succeeds currentTid threads).1 ↔
      ∀ thread ∈ (otherThreads currentTid threads).dropLast, succeeds thread = true := by
  induction threads with
  | nil => simp [resumeAllThreads, otherThreads, NeverFrozen]
  | cons thread threads ih =>
      obtain ⟨first, rest⟩ := List.forall_mem_cons.mp waiting
      by_cases current : thread.tid = currentTid
      · rw [resumeAllThreads_current current, otherThreads_cons_current current,
          neverFrozen_cons, ih rest]
        simp [first.thawed_of_current current]
      · obtain ⟨suspended, resumed, failed⟩ := first.of_other current
        rw [otherThreads_cons_other current, forall_mem_dropLast_cons]
        by_cases success : succeeds thread = true
        · rw [resumeAllThreads_success current success, neverFrozen_cons, ih rest]
          simp [Thawed, suspended, resumed, success]
        · rw [resumeAllThreads_failure current success, neverFrozen_cons,
            neverFrozen_waiting_iff rest]
          constructor
          · rintro ⟨-, none⟩
            simp [none]
          · rintro ⟨none | success', -⟩
            · exact ⟨fun _ => Or.inr rfl, none⟩
            · exact absurd success' success

/-- The guard after a failure in the last loop. -/
theorem neverFrozen_dropGuard_iff (waiting : ∀ thread ∈ threads, Waiting currentTid thread)
    (failed : (resumeAllThreads HostThread.resumes currentTid threads).2 = false) :
    NeverFrozen (dropGuard currentTid
        (resumeAllThreads HostThread.resumes currentTid threads).1) ↔
      ((∀ thread ∈ (otherThreads currentTid threads).head?, thread.resumes = false) ∧
          ∀ thread ∈ (otherThreads currentTid threads).dropLast, thread.resumesOnDrop = true) ∨
        ((∀ thread ∈ (otherThreads currentTid threads).dropLast, thread.resumes = true) ∧
          ∀ thread ∈ (otherThreads currentTid threads).head?, thread.resumesOnDrop = false) := by
  induction threads with
  | nil => cases failed
  | cons thread threads ih =>
      obtain ⟨first, rest⟩ := List.forall_mem_cons.mp waiting
      by_cases current : thread.tid = currentTid
      · rw [resumeAllThreads_current current] at failed ⊢
        rw [otherThreads_cons_current current, dropGuard, resumeAllThreads_current current,
          neverFrozen_cons, ← ih rest failed]
        simp [first.thawed_of_current current, dropGuard]
      · obtain ⟨suspended, resumed, unfailed⟩ := first.of_other current
        rw [otherThreads_cons_other current, forall_mem_dropLast_cons, forall_mem_dropLast_cons]
        by_cases success : thread.resumes = true
        · -- The first thread is resumed, and once more unless the guard stops there.
          rw [resumeAllThreads_success current success] at failed ⊢
          by_cases again : thread.resumesOnDrop = true
          · have guarded := @resumeAllThreads_success currentTid HostThread.resumesOnDrop
              { thread with resumptions := thread.resumptions + 1 }
              (resumeAllThreads HostThread.resumes currentTid threads).1 current again
            rw [dropGuard, guarded, neverFrozen_cons]
            simp [Thawed, suspended, resumed, unfailed, success, again]
          · have guarded := @resumeAllThreads_failure currentTid HostThread.resumesOnDrop
              { thread with resumptions := thread.resumptions + 1 }
              (resumeAllThreads HostThread.resumes currentTid threads).1 current again
            rw [dropGuard, guarded, neverFrozen_cons, neverFrozen_resumeAllThreads_iff rest]
            simp [Thawed, success, again]
        · -- The first thread is not resumed, and the guard starts with it.
          rw [resumeAllThreads_failure current success]
          by_cases again : thread.resumesOnDrop = true
          · have guarded := @resumeAllThreads_success currentTid HostThread.resumesOnDrop
              { thread with resumeFailed := true } threads current again
            rw [dropGuard, guarded, neverFrozen_cons, neverFrozen_resumeAllThreads_iff rest]
            simp [Thawed, success, again]
          · have guarded := @resumeAllThreads_failure currentTid HostThread.resumesOnDrop
              { thread with resumeFailed := true } threads current again
            rw [dropGuard, guarded, neverFrozen_cons, neverFrozen_waiting_iff rest]
            constructor
            · rintro ⟨-, none⟩
              simp [none, success]
            · rintro (⟨-, none | again', -⟩ | ⟨⟨none | success', -⟩, -⟩)
              · exact ⟨fun _ => Or.inr rfl, none⟩
              · exact absurd again' again
              · exact ⟨fun _ => Or.inr rfl, none⟩
              · exact absurd success' success

/-! The first loop. -/

theorem suspendAllOtherThreads_current (current : thread.tid = currentTid) :
    suspendAllOtherThreads currentTid (thread :: threads) =
      (thread :: (suspendAllOtherThreads currentTid threads).1,
        (suspendAllOtherThreads currentTid threads).2) := by
  rw [suspendAllOtherThreads, if_pos current]

theorem suspendAllOtherThreads_success (other : thread.tid ≠ currentTid)
    (success : thread.suspends = true) :
    suspendAllOtherThreads currentTid (thread :: threads) =
      ({ thread with suspensions := thread.suspensions + 1 } ::
          (suspendAllOtherThreads currentTid threads).1,
        (suspendAllOtherThreads currentTid threads).2) := by
  rw [suspendAllOtherThreads, if_neg other, if_pos success, HostThread.suspend, if_pos success]

theorem suspendAllOtherThreads_failure (other : thread.tid ≠ currentTid)
    (failure : ¬ thread.suspends = true) :
    suspendAllOtherThreads currentTid (thread :: threads) = (thread :: threads, false) := by
  rw [suspendAllOtherThreads, if_neg other, if_neg failure, HostThread.suspend, if_neg failure]

theorem suspendAllOtherThreads_ok_iff :
    (suspendAllOtherThreads currentTid threads).2 = true ↔
      ∀ thread ∈ otherThreads currentTid threads, thread.suspends = true := by
  induction threads with
  | nil => simp [suspendAllOtherThreads, otherThreads]
  | cons thread threads ih =>
      by_cases current : thread.tid = currentTid
      · rw [suspendAllOtherThreads_current current, otherThreads_cons_current current, ih]
      · by_cases success : thread.suspends = true
        · rw [suspendAllOtherThreads_success current success, otherThreads_cons_other current,
            List.forall_mem_cons, ih]
          simp [success]
        · rw [suspendAllOtherThreads_failure current success, otherThreads_cons_other current,
            List.forall_mem_cons]
          simp [success]

/-- A thread that the enumeration has found. -/
def Fresh (thread : HostThread) : Prop :=
  thread.suspensions = 0 ∧ thread.resumptions = 0 ∧ thread.resumeFailed = false

/-- After an error, the first loop leaves a thread frozen, unless the first call failed. -/
theorem neverFrozen_suspendAllOtherThreads_iff (fresh : ∀ thread ∈ threads, Fresh thread)
    (failed : (suspendAllOtherThreads currentTid threads).2 = false) :
    NeverFrozen (suspendAllOtherThreads currentTid threads).1 ↔
      ∀ thread ∈ (otherThreads currentTid threads).head?, thread.suspends = false := by
  induction threads with
  | nil => cases failed
  | cons thread threads ih =>
      obtain ⟨⟨suspended, resumed, unfailed⟩, rest⟩ := List.forall_mem_cons.mp fresh
      by_cases current : thread.tid = currentTid
      · rw [suspendAllOtherThreads_current current] at failed ⊢
        rw [otherThreads_cons_current current, neverFrozen_cons, ih rest failed]
        simp [Thawed, suspended]
      · rw [otherThreads_cons_other current]
        by_cases success : thread.suspends = true
        · rw [suspendAllOtherThreads_success current success, neverFrozen_cons]
          simp [Thawed, suspended, resumed, unfailed, success]
        · rw [suspendAllOtherThreads_failure current success]
          have still : NeverFrozen (thread :: threads) := by
            intro other member counted
            exact absurd (fresh other member).1 (Nat.pos_iff_ne_zero.mp counted)
          simp [still, success]

/-- Without an error, the first loop leaves every other thread suspended once. -/
theorem suspendAllOtherThreads_waiting (fresh : ∀ thread ∈ threads, Fresh thread)
    (success : (suspendAllOtherThreads currentTid threads).2 = true) :
    ∀ thread ∈ (suspendAllOtherThreads currentTid threads).1, Waiting currentTid thread := by
  induction threads with
  | nil => exact fun _ member => nomatch member
  | cons thread threads ih =>
      obtain ⟨⟨suspended, resumed, unfailed⟩, rest⟩ := List.forall_mem_cons.mp fresh
      by_cases current : thread.tid = currentTid
      · rw [suspendAllOtherThreads_current current] at success ⊢
        dsimp only
        rw [List.forall_mem_cons]
        exact ⟨by simp [Waiting, current, suspended], ih rest success⟩
      · by_cases suspends : thread.suspends = true
        · rw [suspendAllOtherThreads_success current suspends] at success ⊢
          dsimp only
          rw [List.forall_mem_cons]
          exact ⟨by simp [Waiting, current, suspended, resumed, unfailed], ih rest success⟩
        · rw [suspendAllOtherThreads_failure current suspends] at success
          cases success

theorem checkRips_ok_iff (stubStart : Nat) :
    checkRips stubStart currentTid threads = .ok () ↔
      RipsClear stubStart (otherThreads currentTid threads) := by
  induction threads with
  | nil => simp [checkRips, otherThreads, RipsClear]
  | cons thread threads ih =>
      by_cases current : thread.tid = currentTid
      · rw [otherThreads_cons_current current, checkRips, if_pos current, ih]
      · rw [otherThreads_cons_other current, checkRips, if_neg current, RipsClear,
          List.forall_mem_cons]
        cases rip : thread.rip with
        | none => simp
        | some value =>
            by_cases stub : inStub stubStart value = true
            · simp [stub]
            · dsimp only
              rw [if_neg stub, ih, RipsClear]
              simp [stub]

/-! ## What the loops leave unchanged -/

/-- The loops change the counts only. -/
theorem suspendAllOtherThreads_fresh :
    (suspendAllOtherThreads currentTid threads).1.map HostThread.fresh =
      threads.map HostThread.fresh := by
  induction threads with
  | nil => rfl
  | cons thread threads ih =>
      by_cases current : thread.tid = currentTid
      · rw [suspendAllOtherThreads_current current, List.map_cons, ih, List.map_cons]
      · by_cases success : thread.suspends = true
        · rw [suspendAllOtherThreads_success current success, List.map_cons, ih, List.map_cons]
          rfl
        · rw [suspendAllOtherThreads_failure current success]

theorem otherThreads_map_fresh :
    otherThreads currentTid (threads.map HostThread.fresh) =
      (otherThreads currentTid threads).map HostThread.fresh := by
  rw [otherThreads, List.filter_map]
  rfl

theorem released_map_fresh {α : Type} (stubStart : Nat) (others : List HostThread)
    (closure : Option α) :
    Released stubStart (others.map HostThread.fresh) closure ↔
      Released stubStart others closure := by
  have last : ∀ holds : HostThread → Prop,
      (∀ thread ∈ (others.map HostThread.fresh).dropLast, holds thread) ↔
        ∀ thread ∈ others.dropLast, holds thread.fresh := by
    intro holds
    rw [← List.map_dropLast, List.forall_mem_map]
  have head : ∀ holds : HostThread → Prop,
      (∀ thread ∈ (others.map HostThread.fresh).head?, holds thread) ↔
        ∀ thread ∈ others.head?, holds thread.fresh := by
    intro holds
    cases others <;> simp
  simp only [Released, RipsClear, last, head, List.forall_mem_map, forall_exists_index, and_imp]
  rfl

end Loops

/-! ## The whole call -/

theorem fresh_map_fresh (found : List HostThread) :
    ∀ thread ∈ found.map HostThread.fresh, Fresh thread := by
  intro thread member
  obtain ⟨original, -, rfl⟩ := List.mem_map.mp member
  exact ⟨rfl, rfl, rfl⟩

section Released

variable {α : Type} {stubStart : Nat} {others : List HostThread} {closure : Option α}

theorem released_iff_of_not_suspended
    (failed : ¬ ∀ thread ∈ others, thread.suspends = true) :
    Released stubStart others closure ↔
      ∀ thread ∈ others.head?, thread.suspends = false := by
  have some : ∃ thread ∈ others, thread.suspends = false := by
    simpa using failed
  simp [Released, failed, some]

theorem released_iff_of_aborted (suspended : ∀ thread ∈ others, thread.suspends = true)
    (aborted : ¬ RipsClear stubStart others ∨ closure = none) :
    Released stubStart others closure ↔
      ∀ thread ∈ others.dropLast, thread.resumesOnDrop = true := by
  have none : ¬ ∃ thread ∈ others, thread.suspends = false := by
    simpa using suspended
  have unreturned : RipsClear stubStart others → ¬ closure ≠ .none := by
    intro clear
    cases aborted with
    | inl stub => exact absurd clear stub
    | inr panics => simp [panics]
  constructor
  · intro released
    exact released.2.1 suspended aborted
  · intro last
    exact ⟨fun some => absurd some none, fun _ _ => last,
      fun _ clear returns => absurd returns (unreturned clear)⟩

theorem released_iff_of_completed (suspended : ∀ thread ∈ others, thread.suspends = true)
    (clear : RipsClear stubStart others) (returns : closure ≠ none) :
    Released stubStart others closure ↔
      (∀ thread ∈ others, thread.resumes = true) ∨
      ((∀ thread ∈ others.head?, thread.resumes = false) ∧
        ∀ thread ∈ others.dropLast, thread.resumesOnDrop = true) ∨
      ((∀ thread ∈ others.dropLast, thread.resumes = true) ∧
        ∀ thread ∈ others.head?, thread.resumesOnDrop = false) := by
  have none : ¬ ∃ thread ∈ others, thread.suspends = false := by
    simpa using suspended
  constructor
  · intro released
    exact released.2.2 suspended clear returns
  · intro resumed
    refine ⟨fun some => absurd some none, ?_, fun _ _ _ => resumed⟩
    rintro - (stub | panics)
    · exact absurd clear stub
    · exact absurd panics returns

end Released

/-- The part of the call with the guard. -/
theorem neverFrozen_patchWithGuard_iff {α : Type} {stubStart currentTid : Nat}
    {threads : List HostThread} (closure : Option α)
    (waiting : ∀ thread ∈ threads, Waiting currentTid thread)
    (suspended : ∀ thread ∈ otherThreads currentTid threads, thread.suspends = true) :
    NeverFrozen (patchWithGuard stubStart currentTid threads closure).1 ↔
      Released stubStart (otherThreads currentTid threads) closure := by
  have guarded : NeverFrozen (dropGuard currentTid threads) ↔
      ∀ thread ∈ (otherThreads currentTid threads).dropLast, thread.resumesOnDrop = true :=
    neverFrozen_resumeAllThreads_iff waiting
  unfold patchWithGuard
  split
  · rename_i error rips
    have stub : ¬ RipsClear stubStart (otherThreads currentTid threads) := by
      rw [← checkRips_ok_iff, rips]
      exact nofun
    rw [guarded, released_iff_of_aborted suspended (Or.inl stub)]
  · rw [guarded, released_iff_of_aborted suspended (Or.inr rfl)]
  · rename_i value rips
    have clear := (checkRips_ok_iff stubStart).mp rips
    have returns : some value ≠ none := Option.some_ne_none value
    rw [released_iff_of_completed suspended clear returns]
    split
    · rename_i resumed finished
      have all : ∀ thread ∈ otherThreads currentTid threads, thread.resumes = true := by
        rw [← resumeAllThreads_ok_iff, finished]
      have last : NeverFrozen (resumeAllThreads HostThread.resumes currentTid threads).1 :=
        (neverFrozen_resumeAllThreads_iff waiting).mpr fun thread member =>
          all thread ((List.dropLast_sublist _).subset member)
      rw [finished] at last
      exact iff_of_true last (Or.inl all)
    · rename_i resumed stopped
      have failed : (resumeAllThreads HostThread.resumes currentTid threads).2 = false := by
        rw [stopped]
      have some : ¬ ∀ thread ∈ otherThreads currentTid threads, thread.resumes = true := by
        rw [← resumeAllThreads_ok_iff, failed]
        exact Bool.false_ne_true
      have again := neverFrozen_dropGuard_iff waiting failed
      rw [stopped] at again
      rw [again]
      simp only [some, false_or]

/-- Whatever the system calls return and whether the closure returns or panics, no thread
stays frozen exactly if their results are those of `Released`. -/
theorem neverFrozen_withSuspendedThreads_iff {α : Type} (stubStart currentTid : Nat)
    (enumerated : Option (List HostThread)) (closure : Option α) :
    NeverFrozen (withSuspendedThreads stubStart currentTid enumerated closure).1 ↔
      ∀ found, enumerated = some found →
        Released stubStart (otherThreads currentTid found) closure := by
  cases enumerated with
  | none => simp [withSuspendedThreads, NeverFrozen]
  | some found =>
      have fresh := fresh_map_fresh found
      have same := @suspendAllOtherThreads_fresh currentTid (found.map HostThread.fresh)
      simp only [Option.some.injEq, forall_eq']
      rw [← released_map_fresh, ← otherThreads_map_fresh, withSuspendedThreads]
      split
      · rename_i threads stopped
        have failed :
            (suspendAllOtherThreads currentTid (found.map HostThread.fresh)).2 = false := by
          rw [stopped]
        have some : ¬ ∀ thread ∈ otherThreads currentTid (found.map HostThread.fresh),
            thread.suspends = true := by
          rw [← suspendAllOtherThreads_ok_iff, failed]
          exact Bool.false_ne_true
        have first := neverFrozen_suspendAllOtherThreads_iff fresh failed
        rw [stopped] at first
        rw [released_iff_of_not_suspended some, first]
      · rename_i threads finished
        have success :
            (suspendAllOtherThreads currentTid (found.map HostThread.fresh)).2 = true := by
          rw [finished]
        have waiting := suspendAllOtherThreads_waiting fresh success
        rw [finished] at same waiting
        -- The threads after the loop return what the threads before it would.
        have calls : (otherThreads currentTid threads).map HostThread.fresh =
            (otherThreads currentTid (found.map HostThread.fresh)).map HostThread.fresh := by
          rw [← otherThreads_map_fresh, same, otherThreads_map_fresh]
        have suspended : ∀ thread ∈ otherThreads currentTid threads, thread.suspends = true := by
          have before := suspendAllOtherThreads_ok_iff.mp success
          have mapped : ∀ thread ∈ (otherThreads currentTid threads).map HostThread.fresh,
              thread.suspends = true := by
            rw [calls]
            exact List.forall_mem_map.mpr before
          exact List.forall_mem_map.mp mapped
        rw [neverFrozen_patchWithGuard_iff closure waiting suspended,
          ← released_map_fresh stubStart (otherThreads currentTid threads), calls,
          released_map_fresh]

/-- Two threads beside the current one; the second cannot be suspended. -/
def secondRefuses : List HostThread :=
  [⟨1, true, some 0, true, true, 0, 0, false⟩, ⟨2, true, some 0, true, true, 0, 0, false⟩,
    ⟨3, false, some 0, true, true, 0, 0, false⟩]

/-- The first of them is suspended and never resumed. -/
theorem secondRefuses_frozen :
    withSuspendedThreads 0x7FF800001000 1 (some secondRefuses) (some ()) =
        ([⟨1, true, some 0, true, true, 0, 0, false⟩, ⟨2, true, some 0, true, true, 1, 0, false⟩,
          ⟨3, false, some 0, true, true, 0, 0, false⟩], .returned (.error .suspendFailed)) ∧
      ¬ NeverFrozen
        (withSuspendedThreads 0x7FF800001000 1 (some secondRefuses) (some ())).1 := by
  refine ⟨rfl, ?_⟩
  intro thawed
  have second := thawed ⟨2, true, some 0, true, true, 1, 0, false⟩ (by decide)
  revert second
  simp [Thawed]

end DlpSystem.Hook
