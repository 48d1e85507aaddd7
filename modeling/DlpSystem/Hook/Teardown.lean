import DlpSystem.Lib.EventRun

/-!
# Teardown of the hook DLL

A trampoline call that is to be classified registers itself in `ACTIVE_CALLS` between two
looks at `SHUTTING_DOWN`; a call that passes through does not.  The teardown raises the flag,
waits for the counter, restores the import table, releases the shared mappings and then
frees the image.  The machine has any number of calls and one teardown.
-/

namespace DlpSystem.Hook

open Lib

/-- Where a call of a trampoline is. -/
inductive CallStage
  /-- Not in the image of the DLL. -/
  | outside
  /-- In the trampoline, before the first look at `SHUTTING_DOWN`. -/
  | entered
  /-- The first look has found no shutdown. -/
  | checked
  /-- Counted, before the second look. -/
  | counted
  /-- `enter_hook_call` has returned true and `exit_hook_call` has not been called. -/
  | body
  /-- Counted, but the second look has found the shutdown. -/
  | withdrawing
  /-- Passing through to the original function. -/
  | fallback
  /-- No longer counted, before the return to the caller. -/
  | leaving
  deriving DecidableEq

/-- The stages in which `ACTIVE_CALLS` has the call. -/
def CallStage.isCounted : CallStage → Bool
  | .counted | .body | .withdrawing => true
  | _ => false

/-- Where the teardown is: `unhook_all_internal`, and after it `self_unload`. -/
inductive TeardownStage
  | running
  | draining
  | drained (timedOut : Bool)
  | restored (timedOut restoreSuccess : Bool)
  | unmapped (success : Bool)
  | unloading
  /-- The drain of `self_unload` is over, and the counter is loaded a last time. -/
  | lastLoad
  /-- The last load has found no active call. -/
  | confirmed
  | freed
  | aborted
  deriving DecidableEq

/-- The DLL in a process. -/
structure HookTeardown where
  calls : List CallStage
  activeCalls : Nat
  shuttingDown : Bool
  teardown : TeardownStage
  deriving DecidableEq

/-- The steps of a run. -/
inductive TeardownStep
  | enter (call : Nat)
  /-- `reentrant` says that a hook is active on the thread already. -/
  | firstLook (call : Nat) (reentrant : Bool)
  | increment (call : Nat)
  | secondLook (call : Nat)
  | withdraw (call : Nat)
  /-- The body is over, and the guard drops; after a panic the original is called. -/
  | exitBody (call : Nat) (panicked : Bool)
  | finishFallback (call : Nat)
  | leave (call : Nat)
  | beginUnhook
  | drainLoad (deadlinePassed : Bool)
  | restoreEntries (restoreSuccess : Bool)
  | unmap
  | beginUnload
  | unloadLoad (deadlinePassed : Bool)
  | lastLoad
  | freeLibrary (instanceKnown : Bool)
  deriving DecidableEq

namespace HookTeardown

/-- The call goes from one stage to the next one, and the counter becomes `activeCalls`. -/
def move (dll : HookTeardown) (call : Nat) (source target : CallStage) (activeCalls : Nat) :
    HookTeardown :=
  if dll.calls[call]? = some source then
    { dll with calls := dll.calls.set call target, activeCalls := activeCalls }
  else dll

/-- One step.  Steps of a call that is not that far, and of a teardown that is not, do
nothing. -/
def next (dll : HookTeardown) : TeardownStep → HookTeardown
  | .enter call => dll.move call .outside .entered dll.activeCalls
  -- `with_reentrancy_guard`
  | .firstLook call reentrant =>
      dll.move call .entered (if reentrant || dll.shuttingDown then .fallback else .checked)
        dll.activeCalls
  | .increment call => dll.move call .checked .counted (dll.activeCalls + 1)
  | .secondLook call =>
      dll.move call .counted (if dll.shuttingDown then .withdrawing else .body) dll.activeCalls
  | .withdraw call => dll.move call .withdrawing .fallback (dll.activeCalls - 1)
  -- `ReentrancyGuard::drop`
  | .exitBody call panicked =>
      dll.move call .body (if panicked then .fallback else .leaving) (dll.activeCalls - 1)
  | .finishFallback call => dll.move call .fallback .leaving dll.activeCalls
  | .leave call => dll.move call .leaving .outside dll.activeCalls
  | .beginUnhook =>
      if dll.teardown = .running then { dll with shuttingDown := true, teardown := .draining }
      else dll
  | .drainLoad deadlinePassed =>
      if dll.teardown = .draining then
        if dll.activeCalls = 0 then { dll with teardown := .drained false }
        else if deadlinePassed then { dll with teardown := .drained true }
        else dll
      else dll
  | .restoreEntries restoreSuccess =>
      match dll.teardown with
      | .drained timedOut => { dll with teardown := .restored timedOut restoreSuccess }
      | _ => dll
  | .unmap =>
      match dll.teardown with
      | .restored timedOut restoreSuccess =>
          { dll with teardown := .unmapped (restoreSuccess && !timedOut) }
      | _ => dll
  | .beginUnload =>
      if dll.teardown = .unmapped true then { dll with teardown := .unloading } else dll
  | .unloadLoad deadlinePassed =>
      if dll.teardown = .unloading ∧ (dll.activeCalls = 0 ∨ deadlinePassed = true) then
        { dll with teardown := .lastLoad }
      else dll
  | .lastLoad =>
      if dll.teardown = .lastLoad then
        { dll with teardown := if 0 < dll.activeCalls then .aborted else .confirmed }
      else dll
  | .freeLibrary instanceKnown =>
      if dll.teardown = .confirmed then
        { dll with teardown := if instanceKnown then .freed else .aborted }
      else dll

/-- No call is in the DLL, and nothing is torn down. -/
def start (threads : Nat) : HookTeardown where
  calls := List.replicate threads .outside
  activeCalls := 0
  shuttingDown := false
  teardown := .running

end HookTeardown

/-- The shared mappings are released, or being released. -/
def TeardownStage.isUnmapped : TeardownStage → Bool
  | .unmapped _ | .unloading | .lastLoad | .confirmed | .freed | .aborted => true
  | .running | .draining | .drained _ | .restored _ _ => false

/-- Once the mappings are released, no call is between `enter_hook_call` and
`exit_hook_call`. -/
def UnmappedUnused (dll : HookTeardown) : Prop :=
  dll.teardown.isUnmapped = true → .body ∉ dll.calls

/-- The condition on a step: if the drain has given up, the calls that it waited for are over
when the mappings are released. -/
def ReleasedAfterCalls (dll : HookTeardown) : TeardownStep → Prop
  | .unmap =>
      match dll.teardown with
      | .restored true _ => .body ∉ dll.calls
      | _ => True
  | _ => True

/-- The image is freed only when every call is outside of it. -/
def FreedUnused (dll : HookTeardown) : TeardownStep → Prop
  | .freeLibrary true => dll.teardown = .confirmed → ∀ call ∈ dll.calls, call = .outside
  | _ => True

/-- The condition on a step: when the image is freed, no call is in a part of a trampoline
that the drain does not wait for, before `enter_hook_call` has let it in, on its way through
to the original function, or after `exit_hook_call`. -/
def FreedAfterUncounted (dll : HookTeardown) : TeardownStep → Prop
  | .freeLibrary true =>
      dll.teardown = .confirmed → ∀ call ∈ dll.calls, call = .outside ∨ call = .body
  | _ => True

/-! ## The counter and the flag -/

/-- The teardown has found the counter at zero after the flag was raised. -/
def TeardownStage.isDrained : TeardownStage → Bool
  | .drained false | .restored false _ | .unmapped true | .unloading | .lastLoad
  | .confirmed | .freed => true
  | _ => false

/-- The counter is the number of counted calls, the flag is up once the teardown runs, and
after a complete drain no call is in its body. -/
structure Counting (dll : HookTeardown) : Prop where
  counts : dll.activeCalls = dll.calls.countP CallStage.isCounted
  flagged : dll.teardown ≠ .running → dll.shuttingDown = true
  drained : dll.teardown.isDrained = true → .body ∉ dll.calls

namespace HookTeardown

variable {dll : HookTeardown} {call activeCalls : Nat} {source target : CallStage}

/-- The counter after a call has gone from one stage to another. -/
def recount (dll : HookTeardown) (source target : CallStage) : Nat :=
  dll.activeCalls + target.isCounted.toNat - source.isCounted.toNat

theorem counts_move (counts : dll.activeCalls = dll.calls.countP CallStage.isCounted) :
    (dll.move call source target (dll.recount source target)).activeCalls =
      (dll.move call source target (dll.recount source target)).calls.countP
        CallStage.isCounted := by
  unfold move
  split
  · rename_i here
    obtain ⟨inside, value⟩ := List.getElem?_eq_some_iff.mp here
    have member : source ∈ dll.calls := value ▸ List.getElem_mem inside
    have present : source.isCounted.toNat ≤ dll.calls.countP CallStage.isCounted := by
      cases isCounted : source.isCounted with
      | true => exact List.countP_pos_iff.mpr ⟨source, member, isCounted⟩
      | false => exact Nat.zero_le _
    dsimp only
    rw [List.countP_set inside, value, recount, counts, Nat.sub_add_comm present]
    have weight (flag : Bool) : flag.toNat = if flag = true then 1 else 0 := by
      cases flag with
      | true => rfl
      | false => rfl
    simp only [weight]
  · exact counts

theorem teardown_move :
    (dll.move call source target activeCalls).teardown = dll.teardown := by
  unfold move
  split <;> rfl

theorem shuttingDown_move :
    (dll.move call source target activeCalls).shuttingDown = dll.shuttingDown := by
  unfold move
  split <;> rfl

/-- A call gets into its body only while the flag is down. -/
theorem body_move (unused : .body ∉ dll.calls) (outside : target ≠ .body) :
    .body ∉ (dll.move call source target activeCalls).calls := by
  unfold move
  split
  · intro member
    rcases List.mem_or_eq_of_mem_set member with before | here
    · exact unused before
    · exact outside here.symm
  · exact unused

/-- How the teardown goes on: to a drained stage only from one, or with no call counted, and
to a stage without the mappings only from one, or by their release. -/
structure Advances (dll : HookTeardown) (step : TeardownStep) (stage : TeardownStage) : Prop where
  started : dll.teardown ≠ .running
  drains : stage.isDrained = true → dll.teardown.isDrained = true ∨ dll.activeCalls = 0
  unmaps : stage.isUnmapped = true → dll.teardown.isUnmapped = true ∨ step = .unmap

/-- From a stage that is drained and without the mappings every stage follows. -/
theorem Advances.of_unmapped {dll : HookTeardown} {step : TeardownStep} {stage : TeardownStage}
    (drained : dll.teardown.isDrained = true) (unmapped : dll.teardown.isUnmapped = true) :
    dll.Advances step stage where
  started := by
    intro running
    rw [running] at drained
    cases drained
  drains _ := .inl drained
  unmaps _ := .inl unmapped

/-- The teardown goes on, or nothing happens. -/
def AdvancesOrStays (dll : HookTeardown) (step : TeardownStep) : Prop :=
  (∃ stage, dll.next step = { dll with teardown := stage } ∧ dll.Advances step stage) ∨
    dll.next step = dll

/-- A load of the counter ends the draining when it is zero, or when the time is over. -/
theorem advancesOrStays_drainLoad (dll : HookTeardown) (deadlinePassed : Bool) :
    dll.AdvancesOrStays (.drainLoad deadlinePassed) := by
  rw [AdvancesOrStays, next]
  split
  · rename_i draining
    split
    · rename_i zero
      exact .inl ⟨_, rfl, by simp [draining], fun _ => .inr zero, Bool.noConfusion⟩
    · split
      · exact .inl ⟨_, rfl, by simp [draining], Bool.noConfusion, Bool.noConfusion⟩
      · exact .inr rfl
  · exact .inr rfl

theorem advancesOrStays_restoreEntries (dll : HookTeardown) (restoreSuccess : Bool) :
    dll.AdvancesOrStays (.restoreEntries restoreSuccess) := by
  rw [AdvancesOrStays, next]
  split
  · rename_i timedOut stage
    have drains : (TeardownStage.restored timedOut restoreSuccess).isDrained = true →
        dll.teardown.isDrained = true := by
      rw [stage]
      cases timedOut with
      | true => exact Bool.noConfusion
      | false => exact fun _ => rfl
    exact .inl ⟨_, rfl, by simp [stage], fun drained => .inl (drains drained), Bool.noConfusion⟩
  · exact .inr rfl

theorem advancesOrStays_unmap (dll : HookTeardown) : dll.AdvancesOrStays .unmap := by
  rw [AdvancesOrStays, next]
  split
  · rename_i timedOut restoreSuccess stage
    have drains : (TeardownStage.unmapped (restoreSuccess && !timedOut)).isDrained = true →
        dll.teardown.isDrained = true := by
      rw [stage]
      cases timedOut with
      | true =>
          rw [Bool.not_true, Bool.and_false]
          exact Bool.noConfusion
      | false => exact fun _ => rfl
    exact .inl ⟨_, rfl, by simp [stage], fun drained => .inl (drains drained), fun _ => .inr rfl⟩
  · exact .inr rfl

/-- What a step does: a call moves on, into its body only while the flag is down; the
teardown begins, or goes on; or nothing happens. -/
theorem next_cases (dll : HookTeardown) (step : TeardownStep) :
    (∃ call source target,
        dll.next step = dll.move call source target (dll.recount source target) ∧
          (target = .body → dll.shuttingDown = false)) ∨
      dll.next step = { dll with shuttingDown := true, teardown := .draining } ∨
        dll.AdvancesOrStays step := by
  cases step with
  | enter call => exact .inl ⟨call, .outside, .entered, rfl, CallStage.noConfusion⟩
  | firstLook call reentrant =>
      rw [next]
      split
      · exact .inl ⟨call, .entered, .fallback, rfl, CallStage.noConfusion⟩
      · exact .inl ⟨call, .entered, .checked, rfl, CallStage.noConfusion⟩
  | increment call => exact .inl ⟨call, .checked, .counted, rfl, CallStage.noConfusion⟩
  | secondLook call =>
      rw [next]
      split
      · exact .inl ⟨call, .counted, .withdrawing, rfl, CallStage.noConfusion⟩
      · rename_i down
        exact .inl ⟨call, .counted, .body, rfl, fun _ => Bool.not_eq_true _ ▸ down⟩
  | withdraw call => exact .inl ⟨call, .withdrawing, .fallback, rfl, CallStage.noConfusion⟩
  | exitBody call panicked =>
      rw [next]
      split
      · exact .inl ⟨call, .body, .fallback, rfl, CallStage.noConfusion⟩
      · exact .inl ⟨call, .body, .leaving, rfl, CallStage.noConfusion⟩
  | finishFallback call => exact .inl ⟨call, .fallback, .leaving, rfl, CallStage.noConfusion⟩
  | leave call => exact .inl ⟨call, .leaving, .outside, rfl, CallStage.noConfusion⟩
  | beginUnhook =>
      rw [AdvancesOrStays, next]
      split
      · exact .inr (.inl rfl)
      · exact .inr (.inr (.inr rfl))
  | drainLoad deadlinePassed => exact .inr (.inr (dll.advancesOrStays_drainLoad deadlinePassed))
  | restoreEntries restoreSuccess =>
      exact .inr (.inr (dll.advancesOrStays_restoreEntries restoreSuccess))
  | unmap => exact .inr (.inr dll.advancesOrStays_unmap)
  | beginUnload =>
      rw [AdvancesOrStays, next]
      split
      · rename_i stage
        exact .inr (.inr (.inl ⟨_, rfl, .of_unmapped (by rw [stage]; rfl) (by rw [stage]; rfl)⟩))
      · exact .inr (.inr (.inr rfl))
  | unloadLoad deadlinePassed =>
      rw [AdvancesOrStays, next]
      split
      · rename_i stage
        exact .inr (.inr (.inl ⟨_, rfl, .of_unmapped (by rw [stage.1]; rfl) (by rw [stage.1]; rfl)⟩))
      · exact .inr (.inr (.inr rfl))
  | lastLoad =>
      rw [AdvancesOrStays, next]
      split
      · rename_i stage
        exact .inr (.inr (.inl ⟨_, rfl, .of_unmapped (by rw [stage]; rfl) (by rw [stage]; rfl)⟩))
      · exact .inr (.inr (.inr rfl))
  | freeLibrary instanceKnown =>
      rw [AdvancesOrStays, next]
      split
      · rename_i stage
        exact .inr (.inr (.inl ⟨_, rfl, .of_unmapped (by rw [stage]; rfl) (by rw [stage]; rfl)⟩))
      · exact .inr (.inr (.inr rfl))

end HookTeardown

namespace Counting

variable {dll : HookTeardown} {call activeCalls : Nat} {source target : CallStage}

theorem not_running (drained : dll.teardown.isDrained = true) : dll.teardown ≠ .running := by
  intro running
  rw [running] at drained
  cases drained

theorem move (counting : Counting dll) (unflagged : target = .body → dll.shuttingDown = false) :
    Counting (dll.move call source target (dll.recount source target)) := by
  constructor
  · exact HookTeardown.counts_move counting.counts
  · rw [HookTeardown.teardown_move, HookTeardown.shuttingDown_move]
    exact counting.flagged
  · rw [HookTeardown.teardown_move]
    intro drained
    apply HookTeardown.body_move (counting.drained drained)
    intro enters
    have raised := counting.flagged (not_running drained)
    cases raised.symm.trans (unflagged enters)

theorem unused_of_no_active (counting : Counting dll) (zero : dll.activeCalls = 0) :
    .body ∉ dll.calls := by
  intro member
  have nothing : dll.calls.countP CallStage.isCounted = 0 := counting.counts.symm.trans zero
  exact List.countP_eq_zero.mp nothing .body member rfl

theorem next (counting : Counting dll) (step : TeardownStep) : Counting (dll.next step) := by
  rcases dll.next_cases step with
    ⟨call, source, target, moved, unflagged⟩ | begun | ⟨stage, gone, advances⟩ | same
  · rw [moved]
    exact counting.move unflagged
  · rw [begun]
    exact ⟨counting.counts, fun _ => rfl, Bool.noConfusion⟩
  · rw [gone]
    constructor
    · exact counting.counts
    · exact fun _ => counting.flagged advances.started
    · intro drained
      rcases advances.drains drained with before | zero
      · exact counting.drained before
      · have unused := unused_of_no_active counting zero
        exact unused
  · rw [same]
    exact counting

theorem start (threads : Nat) : Counting (.start threads) := by
  constructor
  · exact (List.countP_eq_zero.mpr fun call member => by
      rw [List.eq_of_mem_replicate member]
      exact Bool.false_ne_true).symm
  · exact fun running => (running rfl).elim
  · exact fun absurd => by cases absurd

end Counting

/-! ## The shared mappings -/

namespace UnmappedUnused

variable {dll : HookTeardown} {call activeCalls : Nat} {source target : CallStage}

theorem move (unused : UnmappedUnused dll) (counting : Counting dll)
    (unflagged : target = .body → dll.shuttingDown = false) :
    UnmappedUnused (dll.move call source target activeCalls) := by
  intro unmapped
  rw [HookTeardown.teardown_move] at unmapped
  apply HookTeardown.body_move (unused unmapped)
  intro enters
  have started : dll.teardown ≠ .running := by
    intro running
    rw [running] at unmapped
    cases unmapped
  cases (counting.flagged started).symm.trans (unflagged enters)

/-- The steps other than the release keep it. -/
theorem next (unused : UnmappedUnused dll) (counting : Counting dll) {step : TeardownStep}
    (other : step ≠ .unmap) : UnmappedUnused (dll.next step) := by
  rcases dll.next_cases step with
    ⟨call, source, target, moved, unflagged⟩ | begun | ⟨stage, gone, advances⟩ | same
  · rw [moved]
    exact unused.move counting unflagged
  · rw [begun]
    exact Bool.noConfusion
  · rw [gone]
    intro unmapped
    exact unused ((advances.unmaps unmapped).resolve_right other)
  · rw [same]
    exact unused

theorem unmap_iff (unused : UnmappedUnused dll) (counting : Counting dll) :
    UnmappedUnused (dll.next .unmap) ↔ ReleasedAfterCalls dll .unmap := by
  rw [HookTeardown.next, ReleasedAfterCalls]
  cases stage : dll.teardown with
  | restored timedOut restoreSuccess =>
      have now : UnmappedUnused
          { dll with teardown := .unmapped (restoreSuccess && !timedOut) } ↔
            .body ∉ dll.calls :=
        ⟨fun unused => unused rfl, fun left _ => left⟩
      cases timedOut with
      | true => exact now
      | false =>
          apply iff_of_true
          · exact now.mpr (counting.drained (by rw [stage]; rfl))
          · trivial
  | _ => exact iff_of_true unused trivial

/-- A step keeps the mappings unused exactly if it meets the condition. -/
theorem next_iff (unused : UnmappedUnused dll) (counting : Counting dll) (step : TeardownStep) :
    UnmappedUnused (dll.next step) ↔ ReleasedAfterCalls dll step := by
  by_cases release : step = .unmap
  · rw [release]
    exact unused.unmap_iff counting
  · apply iff_of_true
    · exact unused.next counting release
    · cases step with
      | unmap => exact (release rfl).elim
      | _ => trivial

end UnmappedUnused

/-- For any number of threads and every interleaving: no call uses the shared mappings at or
after their release exactly if, where the drain has timed out, the calls that it waited for
are over by the release. -/
theorem mappings_outlive_calls_iff (threads : Nat) (steps : List TeardownStep) :
    (∀ before after, steps = before ++ after →
        UnmappedUnused (before.foldl HookTeardown.next (.start threads))) ↔
      Each HookTeardown.next ReleasedAfterCalls (.start threads) steps := by
  have counting (events : List TeardownStep) :
      Counting (events.foldl HookTeardown.next (.start threads)) :=
    foldl_invariant (fun _ step counting => counting.next step) events (.start threads)
  have initially : Counting (.start threads) ∧ UnmappedUnused (.start threads) :=
    ⟨.start threads, fun absurd => by cases absurd⟩
  have kept : ∀ dll step, Counting dll ∧ UnmappedUnused dll →
      ((Counting (dll.next step) ∧ UnmappedUnused (dll.next step)) ↔
        ReleasedAfterCalls dll step) := by
    rintro dll step ⟨countingHere, unused⟩
    rw [← unused.next_iff countingHere step]
    exact and_iff_right (countingHere.next step)
  rw [← at_cuts_iff_each kept initially steps]
  simp only [counting, true_and]

/-- The drain gives up while a call is in its body, and the mappings are released under it. -/
theorem timed_out_drain_unmaps :
    ¬∀ before after,
        [.enter 0, .firstLook 0 false, .increment 0, .secondLook 0, .beginUnhook,
            .drainLoad true, .restoreEntries true, .unmap] = before ++ after →
          UnmappedUnused (before.foldl HookTeardown.next (.start 1)) := by
  intro unused
  have still := unused _ [] (List.append_nil _).symm rfl
  revert still
  decide

/-! ## The image -/

theorem freed_iff {dll : HookTeardown} (counting : Counting dll) (step : TeardownStep) :
    FreedUnused dll step ↔ FreedAfterUncounted dll step := by
  cases step with
  | freeLibrary instanceKnown =>
      cases instanceKnown with
      | false => exact Iff.rfl
      | true =>
          apply forall_congr'
          intro confirmed
          have unused : .body ∉ dll.calls := counting.drained (by rw [confirmed]; rfl)
          constructor
          · intro empty call member
            exact .inl (empty call member)
          · intro uncounted call member
            rcases uncounted call member with outside | inBody
            · exact outside
            · exact (unused (inBody ▸ member)).elim
  | _ => exact Iff.rfl

/-- For any number of threads and every interleaving: nobody is in a trampoline when the image
is freed exactly if no thread is in a part of one then that the drain does not wait for. -/
theorem image_freed_unused_iff (threads : Nat) (steps : List TeardownStep) :
    Each HookTeardown.next FreedUnused (.start threads) steps ↔
      Each HookTeardown.next FreedAfterUncounted (.start threads) steps :=
  each_congr (fun _ step _ counting _ => counting.next step)
    (fun _ step _ counting => freed_iff counting step) (.start threads)

/-- A call that arrives during the shutdown passes through to the original function, and the
image is freed before it returns. -/
theorem image_freed_under_fallback :
    ¬Each HookTeardown.next FreedUnused (.start 1)
      [.beginUnhook, .enter 0, .firstLook 0 false, .drainLoad false, .restoreEntries true, .unmap,
        .beginUnload, .unloadLoad false, .lastLoad, .freeLibrary true] := by
  intro unused
  have empty := unused.2.2.2.2.2.2.2.2.2.1 rfl .fallback (by decide)
  cases empty

end DlpSystem.Hook
