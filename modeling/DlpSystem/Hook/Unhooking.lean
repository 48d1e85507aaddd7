import DlpSystem.Hook.ImportTable
import DlpSystem.Lib.EventRun

/-!
# Hooking and unhooking

`init` saves the address of each function that it can resolve and patches the entry of the
host's import table; `unhook_all_internal` writes the saved addresses back.  The two go
through the same table of statics with different types: a saved address is written as an
`Option<usize>`, with its tag before it, and read as one word.
-/

namespace DlpSystem.Hook

/-- The functions of the table `HOOKS`. -/
inductive HookedFunction
  | createFileW
  | ntCreateFile
  | writeFile
  | writeFileEx
  | moveFileExW
  | copyFileExW
  | deleteFileW
  | replaceFileW
  | setFileInformationByHandle
  | ntOpenFile
  | ntWriteFile
  | ntSetInformationFile
  deriving DecidableEq

/-- `HOOKS`, in its order. -/
def hooks : List HookedFunction :=
  [.createFileW, .ntCreateFile, .writeFile, .writeFileEx, .moveFileExW, .copyFileExW,
    .deleteFileW, .replaceFileW, .setFileInformationByHandle, .ntOpenFile, .ntWriteFile,
    .ntSetInformationFile]

theorem mem_hooks (hook : HookedFunction) : hook ∈ hooks := by
  cases hook <;> decide

def HookedFunction.dllName : HookedFunction → String
  | .ntCreateFile | .ntOpenFile | .ntWriteFile | .ntSetInformationFile => "ntdll.dll"
  | _ => "kernel32.dll"

/-- A process with the DLL in it, before `init`.  An `ORIGINAL_*` static is one word, an
`IAT_*` static two; no two statics share a word, and the import table of the host has none
of theirs.  Exported functions are neither at address 1 nor the DLL's own. -/
structure HookedProcess where
  original : HookedFunction → Nat
  iat : HookedFunction → Nat
  trampoline : HookedFunction → Nat
  /-- The module of the host, if `GetModuleHandleW` finds it. -/
  host : Option HostModule
  /-- `resolve_proc`. -/
  resolveProc : HookedFunction → Option Nat
  memory : Memory
  originals_apart : ∀ hook other, original hook = original other → hook = other
  original_iat_apart : ∀ hook other, original hook ≠ iat other ∧ original hook ≠ iat other + 1
  iats_apart : ∀ hook other, hook ≠ other → iat hook ≠ iat other ∧ iat hook ≠ iat other + 1
  slots_apart : ∀ loaded ∈ host, ∀ slot ∈ loaded.slots, ∀ hook,
    slot ≠ original hook ∧ slot ≠ original hook + 1 ∧ slot ≠ iat hook ∧ slot ≠ iat hook + 1
  statics_none : ∀ hook, memory (original hook) = 0 ∧ memory (iat hook) = 0
  procs_foreign : ∀ hook proc, resolveProc hook = some proc →
    proc ≠ 1 ∧ ∀ other, proc ≠ trampoline other

/-- The memory, and the entries of the import table that were patched so far. -/
structure InitRun where
  memory : Memory
  patched : List Nat

namespace HookedProcess

variable (process : HookedProcess)

/-- The entries of the host's import table. -/
def slots : List Nat :=
  (process.host.map HostModule.slots).getD []

/-- What `init` does for one entry of `HOOKS`.  `patches` says where `VirtualProtect`
succeeds. -/
def initHook (host : HostModule) (patches : HookedFunction → Bool) (run : InitRun)
    (hook : HookedFunction) : InitRun :=
  match process.resolveProc hook with
  | none => run
  | some originalProc =>
      let saved := writeSome run.memory (process.original hook) originalProc
      match findIatEntry host saved hook.dllName originalProc with
      | none => { run with memory := saved }
      | some slot =>
          match patchIat saved slot (process.trampoline hook) (patches hook) with
          | (true, patched) =>
              { memory := writeSome patched (process.iat hook) slot
                patched := run.patched ++ [slot] }
          | (false, unpatched) => { run with memory := unpatched }

/-- `init`, when it is called for the first time. -/
def init (patches : HookedFunction → Bool) : InitRun :=
  match process.host with
  | none => ⟨process.memory, []⟩
  | some host => hooks.foldl (process.initHook host patches) ⟨process.memory, []⟩

/-- What `unhook_all_internal` does for one entry of `HOOKS`. -/
def unhookHook (restores : HookedFunction → Bool) (state : Bool × Memory)
    (hook : HookedFunction) : Option (Bool × Memory) :=
  match readOption state.2 (process.iat hook) with
  | none => none
  | some iatOpt =>
      let orig := state.2 (process.original hook)
      match iatOpt, decide (orig ≠ 0) with
      | some iat, true =>
          match patchIat state.2 iat orig (restores hook) with
          | (true, memory) => some (state.1, memory)
          | (false, memory) => some (false, memory)
      | some _, false | none, true => some (false, state.2)
      | none, false => some state

/-- `unhook_all_internal` with no active call to wait for, or `none` if it reads an `Option`
that is none. -/
def unhookAllInternal (restores : HookedFunction → Bool) (memory : Memory) :
    Option (Bool × Memory) :=
  hooks.foldlM (process.unhookHook restores) (true, memory)

/-- The words of the statics that `init` is to write. -/
def IsIntended (address : Nat) : Prop :=
  ∃ hook, process.resolveProc hook ≠ none ∧
    (address = process.original hook ∨ address = process.iat hook ∨
      address = process.iat hook + 1)

/-- Unhooking undoes hooking: every entry of the import table is as it was before `init`, no
other word but the intended ones has changed, and the result is true exactly if every
entry that was patched is restored. -/
def UnhookUndoes (patches restores : HookedFunction → Bool) : Prop :=
  ∃ result memory,
    process.unhookAllInternal restores (process.init patches).memory = some (result, memory) ∧
      (∀ slot ∈ process.slots, memory slot = process.memory slot) ∧
      (∀ address, address ∉ process.slots → ¬process.IsIntended address →
        memory address = process.memory address) ∧
      (result = true ↔
        ∀ slot ∈ (process.init patches).patched, memory slot = process.memory slot)

/-! ## What is hooked so far -/

/-- After some of the hooks: an `IAT_*` static is set for hooks that were done, and points to
an entry that holds a trampoline; the other entries are as before. -/
structure HookedSoFar (host : HostModule) (done : List HookedFunction) (memory : Memory) :
    Prop where
  done : ∀ hook, memory (process.iat hook) = 1 → hook ∈ done
  target : ∀ hook, memory (process.iat hook) = 1 → memory (process.iat hook + 1) ∈ host.slots
  patched : ∀ hook, memory (process.iat hook) = 1 →
    ∃ other, memory (memory (process.iat hook + 1)) = process.trampoline other
  slots : ∀ slot ∈ host.slots, memory slot = process.memory slot ∨
    ∃ other, memory slot = process.trampoline other

section Init

variable {process} {host : HostModule} {done : List HookedFunction} {memory : Memory}

/-- The tag of the saved address overwrites the static, and the address spills into the word
after it; at worst it hits the tag of an `IAT_*` static. -/
theorem HookedSoFar.save (hosted : process.host = some host)
    (soFar : process.HookedSoFar host done memory) {hook : HookedFunction} {proc : Nat}
    (resolved : process.resolveProc hook = some proc) :
    process.HookedSoFar host done (writeSome memory (process.original hook) proc) := by
  have slot_kept : ∀ slot ∈ host.slots,
      writeSome memory (process.original hook) proc slot = memory slot := by
    intro slot member
    obtain ⟨first, second, -, -⟩ := process.slots_apart host hosted slot member hook
    rw [writeSome_apply, if_neg second, if_neg first]
  have tag_kept : ∀ other, writeSome memory (process.original hook) proc (process.iat other) = 1 →
      memory (process.iat other) = 1 := by
    intro other set
    rw [writeSome_apply] at set
    split at set
    · exact ((process.procs_foreign hook proc resolved).1 set).elim
    · rwa [if_neg (process.original_iat_apart hook other).1.symm] at set
  have value_kept : ∀ other,
      writeSome memory (process.original hook) proc (process.iat other + 1) =
        memory (process.iat other + 1) := by
    intro other
    obtain ⟨first, second⟩ := process.original_iat_apart hook other
    rw [writeSome_apply, if_neg (fun same => first (Nat.succ.inj same).symm), if_neg second.symm]
  constructor
  · intro other set
    exact soFar.done other (tag_kept other set)
  · intro other set
    rw [value_kept]
    exact soFar.target other (tag_kept other set)
  · intro other set
    have before := tag_kept other set
    rw [value_kept, slot_kept _ (soFar.target other before)]
    exact soFar.patched other before
  · intro slot member
    rw [slot_kept slot member]
    exact soFar.slots slot member

/-- The memory after an entry is patched. -/
def patchedMemory (process : HookedProcess) (memory : Memory) (hook : HookedFunction)
    (slot : Nat) : Memory :=
  writeSome (Function.update memory slot (process.trampoline hook)) (process.iat hook) slot

section Patch

variable (hosted : process.host = some host) {slot : Nat} (member : slot ∈ host.slots)
  (hook : HookedFunction)

include hosted in
theorem patchedMemory_slot {other : Nat} (listed : other ∈ host.slots) :
    patchedMemory process memory hook slot other =
      if other = slot then process.trampoline hook else memory other := by
  obtain ⟨-, -, first, second⟩ := process.slots_apart host hosted other listed hook
  rw [patchedMemory, writeSome_apply, if_neg second, if_neg first, Function.update_apply]

include hosted member in
theorem patchedMemory_original (other : HookedFunction) :
    patchedMemory process memory hook slot (process.original other) =
      memory (process.original other) := by
  obtain ⟨first, second⟩ := process.original_iat_apart other hook
  obtain ⟨apart, -⟩ := process.slots_apart host hosted slot member other
  rw [patchedMemory, writeSome_apply, if_neg second, if_neg first, Function.update_apply,
    if_neg apart.symm]

theorem patchedMemory_iat_self (process : HookedProcess) (memory : Memory)
    (hook : HookedFunction) (slot : Nat) :
    patchedMemory process memory hook slot (process.iat hook) = 1 ∧
      patchedMemory process memory hook slot (process.iat hook + 1) = slot := by
  constructor
  · rw [patchedMemory, writeSome_apply, if_neg (Nat.succ_ne_self _).symm, if_pos rfl]
  · rw [patchedMemory, writeSome_apply, if_pos rfl]

include hosted member in
theorem patchedMemory_iat_other {other : HookedFunction} (different : other ≠ hook) :
    patchedMemory process memory hook slot (process.iat other) = memory (process.iat other) ∧
      patchedMemory process memory hook slot (process.iat other + 1) =
        memory (process.iat other + 1) := by
  obtain ⟨first, second⟩ := process.iats_apart other hook different
  obtain ⟨-, third⟩ := process.iats_apart hook other different.symm
  obtain ⟨-, -, tag, value⟩ := process.slots_apart host hosted slot member other
  constructor
  · rw [patchedMemory, writeSome_apply, if_neg second, if_neg first, Function.update_apply,
      if_neg tag.symm]
  · rw [patchedMemory, writeSome_apply, if_neg (fun same => first (Nat.succ.inj same)),
      if_neg third.symm, Function.update_apply, if_neg value.symm]

include hosted member in
/-- An entry gets a trampoline, and the `IAT_*` static its address. -/
theorem HookedSoFar.patch (soFar : process.HookedSoFar host done memory) :
    process.HookedSoFar host (done ++ [hook]) (patchedMemory process memory hook slot) := by
  have patched_slot : ∀ other ∈ host.slots,
      (∃ owner, memory other = process.trampoline owner) →
        ∃ owner, patchedMemory process memory hook slot other = process.trampoline owner := by
    intro other listed before
    rw [patchedMemory_slot hosted hook listed]
    split
    · exact ⟨hook, rfl⟩
    · exact before
  obtain ⟨-, selfValue⟩ := patchedMemory_iat_self process memory hook slot
  constructor
  · intro other set
    by_cases same : other = hook
    · simp [same]
    · rw [(patchedMemory_iat_other hosted member hook same).1] at set
      exact List.mem_append_left _ (soFar.done other set)
  · intro other set
    by_cases same : other = hook
    · rw [same, selfValue]
      exact member
    · obtain ⟨tag, value⟩ := patchedMemory_iat_other hosted member hook same
      rw [value]
      exact soFar.target other (tag ▸ set)
  · intro other set
    by_cases same : other = hook
    · rw [same, selfValue, patchedMemory_slot hosted hook member, if_pos rfl]
      exact ⟨hook, rfl⟩
    · obtain ⟨tag, value⟩ := patchedMemory_iat_other hosted member hook same
      rw [value]
      exact patched_slot _ (soFar.target other (tag ▸ set)) (soFar.patched other (tag ▸ set))
  · intro other listed
    rw [patchedMemory_slot hosted hook listed]
    split
    · exact .inr ⟨hook, rfl⟩
    · exact soFar.slots other listed

end Patch

variable (patches : HookedFunction → Bool) {run : InitRun} {hook : HookedFunction}

/-- What `init` does for a hook: nothing, a save, or a save and a patch. -/
theorem initHook_cases (host : HostModule) (run : InitRun) (hook : HookedFunction) :
    process.resolveProc hook = none ∧ process.initHook host patches run hook = run ∨
      ∃ proc, process.resolveProc hook = some proc ∧
        (process.initHook host patches run hook =
            { run with memory := writeSome run.memory (process.original hook) proc } ∨
          ∃ slot ∈ host.slots,
            writeSome run.memory (process.original hook) proc slot = proc ∧
              process.initHook host patches run hook =
                { memory := patchedMemory process
                    (writeSome run.memory (process.original hook) proc) hook slot
                  patched := run.patched ++ [slot] }) := by
  cases resolved : process.resolveProc hook with
  | none =>
      refine .inl ⟨rfl, ?_⟩
      rw [initHook, resolved]
  | some proc =>
      refine .inr ⟨proc, rfl, ?_⟩
      rw [initHook, resolved]
      dsimp only
      cases found : findIatEntry host (writeSome run.memory (process.original hook) proc)
          hook.dllName proc with
      | none => exact .inl rfl
      | some slot =>
          obtain ⟨member, value⟩ := findIatEntry_found found
          cases patches hook with
          | false => exact .inl rfl
          | true => exact .inr ⟨slot, member, value, rfl⟩

theorem HookedSoFar.mono (soFar : process.HookedSoFar host done memory) {more : List HookedFunction}
    (part : done ⊆ more) : process.HookedSoFar host more memory :=
  ⟨fun hook set => part (soFar.done hook set), soFar.target, soFar.patched, soFar.slots⟩

theorem HookedSoFar.initHook (hosted : process.host = some host)
    (soFar : process.HookedSoFar host done run.memory) (hook : HookedFunction) :
    process.HookedSoFar host (done ++ [hook]) (process.initHook host patches run hook).memory := by
  have part : done ⊆ done ++ [hook] := List.subset_append_left done [hook]
  rcases initHook_cases patches host run hook with
    ⟨-, same⟩ | ⟨proc, resolved, saves | ⟨slot, member, -, patches⟩⟩
  · rw [same]
    exact soFar.mono part
  · rw [saves]
    exact (soFar.save hosted resolved).mono part
  · rw [patches]
    exact (soFar.save hosted resolved).patch hosted member hook

/-- The static of the hook holds the tag, and if its entry was patched, the entry holds what
is neither its value before nor the tag, and no other `IAT_*` static points to it. -/
structure SavedWrongly (process : HookedProcess) (host : HostModule) (hook : HookedFunction)
    (memory : Memory) : Prop where
  tag : memory (process.original hook) = 1
  entry : memory (process.iat hook) = 1 → ∃ slot ∈ host.slots,
    memory slot ≠ process.memory slot ∧ process.memory slot ≠ 1 ∧
      ∀ other, memory (process.iat other) = 1 → memory (process.iat other + 1) = slot →
        memory (process.original other) = 1

theorem savedWrongly_initHook (hosted : process.host = some host)
    (soFar : process.HookedSoFar host done run.memory) (new : hook ∉ done)
    (resolved : process.resolveProc hook ≠ none) :
    SavedWrongly process host hook (process.initHook host patches run hook).memory := by
  rcases initHook_cases patches host run hook with
    ⟨unresolved, -⟩ | ⟨proc, found, saves | ⟨slot, member, value, patched⟩⟩
  · exact (resolved unresolved).elim
  · have saved := soFar.save hosted found
    rw [saves]
    constructor
    · dsimp only
      rw [writeSome_apply, if_neg (Nat.succ_ne_self _).symm, if_pos rfl]
    · intro set
      exact (new (saved.done hook set)).elim
  · have saved := soFar.save hosted found
    obtain ⟨notTag, notTrampoline⟩ := process.procs_foreign hook proc found
    have before : process.memory slot = proc := by
      rcases saved.slots slot member with same | ⟨other, trampoline⟩
      · rw [← same, value]
      · exact (notTrampoline other (value.symm.trans trampoline)).elim
    rw [patched]
    constructor
    · dsimp only
      rw [patchedMemory_original hosted member, writeSome_apply,
        if_neg (Nat.succ_ne_self _).symm, if_pos rfl]
    · intro _
      refine ⟨slot, member, ?_, before ▸ notTag, ?_⟩
      · dsimp only
        rw [patchedMemory_slot hosted hook member, if_pos rfl, before]
        exact (notTrampoline hook).symm
      · intro other set points
        by_cases same : other = hook
        · dsimp only
          rw [same, patchedMemory_original hosted member, writeSome_apply,
            if_neg (Nat.succ_ne_self _).symm, if_pos rfl]
        · obtain ⟨tagKept, valueKept⟩ := patchedMemory_iat_other hosted member hook same
          dsimp only at set points
          rw [tagKept] at set
          rw [valueKept] at points
          obtain ⟨owner, trampoline⟩ := saved.patched other set
          rw [points, value] at trampoline
          exact (notTrampoline owner trampoline).elim

/-! ## The whole of `init` -/

theorem HookedSoFar.foldl (hosted : process.host = some host)
    (soFar : process.HookedSoFar host done run.memory) (later : List HookedFunction) :
    process.HookedSoFar host (done ++ later)
      (later.foldl (process.initHook host patches) run).memory := by
  induction later generalizing run done with
  | nil => simpa using soFar
  | cons hook later ih =>
      have next := ih (soFar.initHook patches hosted hook)
      rwa [List.append_assoc] at next

theorem foldl_initHook_unresolved {later : List HookedFunction}
    (unresolved : ∀ hook ∈ later, process.resolveProc hook = none) :
    later.foldl (process.initHook host patches) run = run := by
  induction later with
  | nil => rfl
  | cons hook later ih =>
      obtain ⟨here, rest⟩ := List.forall_mem_cons.mp unresolved
      have same : process.initHook host patches run hook = run := by
        rw [HookedProcess.initHook, here]
      rw [List.foldl_cons, same]
      exact ih rest

theorem patched_slots (later : List HookedFunction)
    (listed : ∀ slot ∈ run.patched, slot ∈ host.slots) :
    ∀ slot ∈ (later.foldl (process.initHook host patches) run).patched, slot ∈ host.slots := by
  have kept : ∀ (run : InitRun) (hook : HookedFunction),
      (∀ slot ∈ run.patched, slot ∈ host.slots) →
        ∀ slot ∈ (process.initHook host patches run hook).patched, slot ∈ host.slots := by
    intro run hook listed
    rcases initHook_cases patches host run hook with
      ⟨-, same⟩ | ⟨proc, -, saves | ⟨slot, member, -, patched⟩⟩
    · rwa [same]
    · rwa [saves]
    · rw [patched]
      intro other there
      rcases List.mem_append.mp there with before | here
      · exact listed other before
      · rwa [List.mem_singleton.mp here]
  exact Lib.foldl_invariant kept later listed

theorem hookedSoFar_start : process.HookedSoFar host [] process.memory := by
  have unset (hook : HookedFunction) : process.memory (process.iat hook) ≠ 1 := by
    rw [(process.statics_none hook).2]
    exact Nat.zero_ne_one
  exact ⟨fun hook set => (unset hook set).elim, fun hook set => (unset hook set).elim,
    fun hook set => (unset hook set).elim, fun slot _ => .inl rfl⟩

end Init

/-- The last of the elements with a property. -/
theorem exists_last {α : Type} {property : α → Prop} {elements : List α}
    (present : ∃ element ∈ elements, property element) :
    ∃ before element after, elements = before ++ element :: after ∧ property element ∧
      ∀ later ∈ after, ¬property later := by
  induction elements with
  | nil => simp at present
  | cons first rest ih =>
      by_cases later : ∃ element ∈ rest, property element
      · obtain ⟨before, element, after, rfl, holds, last⟩ := ih later
        exact ⟨first :: before, element, after, rfl, holds, last⟩
      · obtain ⟨element, member, holds⟩ := present
        rcases List.mem_cons.mp member with rfl | there
        · exact ⟨[], element, rest, rfl, holds, fun other listed held =>
            later ⟨other, listed, held⟩⟩
        · exact (later ⟨element, there, holds⟩).elim

/-- If a function resolves, the static of the last one is saved wrongly. -/
theorem init_savedWrongly {process : HookedProcess} {host : HostModule}
    (hosted : process.host = some host) (patches : HookedFunction → Bool)
    (resolves : ∃ hook, process.resolveProc hook ≠ none) :
    ∃ hook, SavedWrongly process host hook (process.init patches).memory := by
  obtain ⟨resolvable, resolved⟩ := resolves
  have present : ∃ hook ∈ hooks, process.resolveProc hook ≠ none :=
    ⟨resolvable, mem_hooks resolvable, resolved⟩
  obtain ⟨before, hook, after, split, here, last⟩ := exists_last present
  have new : hook ∉ before := by
    have nodup : hooks.Nodup := by decide
    rw [split, List.nodup_append] at nodup
    exact fun member => nodup.2.2 hook member hook List.mem_cons_self rfl
  have soFar : process.HookedSoFar host ([] ++ before)
      (before.foldl (process.initHook host patches) ⟨process.memory, []⟩).memory :=
    HookedSoFar.foldl patches hosted hookedSoFar_start before
  have last : ∀ later ∈ after, process.resolveProc later = none :=
    fun later member => not_not.mp (last later member)
  refine ⟨hook, ?_⟩
  rw [init, hosted]
  dsimp only
  rw [split, List.foldl_append, List.foldl_cons, foldl_initHook_unresolved patches last]
  exact savedWrongly_initHook patches hosted soFar new here

/-! ## What unhooking writes -/

/-- The statics of the hooks are as in the first memory. -/
def SameStatics (process : HookedProcess) (first memory : Memory) : Prop :=
  ∀ hook, memory (process.original hook) = first (process.original hook) ∧
    memory (process.iat hook) = first (process.iat hook) ∧
    memory (process.iat hook + 1) = first (process.iat hook + 1)

section Unhook

variable {process : HookedProcess} {host : HostModule} {restores : HookedFunction → Bool}
  {first : Memory} {state after : Bool × Memory} {hook : HookedFunction}

/-- What one hook does to the memory: nothing, or a write of the saved word to the entry. -/
structure Unhooked (process : HookedProcess) (first : Memory) (hook : HookedFunction)
    (state after : Bool × Memory) : Prop where
  success : after.1 = true → state.1 = true
  failure : first (process.iat hook) ≠ 1 → first (process.original hook) ≠ 0 → after.1 = false
  write : after.2 = state.2 ∨ first (process.iat hook) = 1 ∧
    after.2 = Function.update state.2 (first (process.iat hook + 1)) (first (process.original hook))

theorem unhookHook_spec (same : SameStatics process first state.2)
    (runs : process.unhookHook restores state hook = some after) :
    Unhooked process first hook state after := by
  obtain ⟨sameOriginal, sameTag, sameValue⟩ := same hook
  simp only [unhookHook, readOption, sameOriginal, sameTag, sameValue] at runs
  by_cases unset : first (process.iat hook) = 0
  · rw [if_pos unset] at runs
    dsimp only at runs
    split at runs
    · contradiction
    · contradiction
    · cases runs
      exact ⟨fun absurd => (Bool.false_ne_true absurd).elim, fun _ _ => rfl, .inl rfl⟩
    · rename_i nothing
      cases runs
      exact ⟨id, fun _ saved => (saved (by simpa using nothing)).elim, .inl rfl⟩
  rw [if_neg unset] at runs
  by_cases set : first (process.iat hook) = 1
  · rw [if_pos set] at runs
    dsimp only at runs
    split at runs
    · rename_i iat pointed saved
      cases pointed
      cases restored : restores hook with
      | false =>
          rw [restored] at runs
          cases runs
          exact ⟨fun absurd => (Bool.false_ne_true absurd).elim, fun other => (other set).elim,
            .inl rfl⟩
      | true =>
          rw [restored] at runs
          cases runs
          exact ⟨id, fun other => (other set).elim, .inr ⟨set, rfl⟩⟩
    · cases runs
      exact ⟨fun absurd => (Bool.false_ne_true absurd).elim, fun other => (other set).elim,
        .inl rfl⟩
    · contradiction
    · contradiction
  · rw [if_neg set] at runs
    cases runs

theorem SameStatics.unhooked (hosted : process.host = some host)
    (targets : ∀ hook, first (process.iat hook) = 1 →
      first (process.iat hook + 1) ∈ host.slots)
    (same : SameStatics process first state.2)
    (unhooked : Unhooked process first hook state after) :
    SameStatics process first after.2 := by
  rcases unhooked.write with nothing | ⟨set, written⟩
  · rwa [nothing]
  · intro other
    obtain ⟨original, -, tag, value⟩ :=
      process.slots_apart host hosted _ (targets hook set) other
    rw [written, Function.update_of_ne original.symm, Function.update_of_ne tag.symm,
      Function.update_of_ne value.symm]
    exact same other

/-- What a run over several hooks does. -/
structure UnhookedAll (process : HookedProcess) (first : Memory) (done : List HookedFunction)
    (state after : Bool × Memory) : Prop where
  success : after.1 = true → state.1 = true
  failure : ∀ hook ∈ done, first (process.iat hook) ≠ 1 →
    first (process.original hook) ≠ 0 → after.1 = false
  write : ∀ address value,
    (∀ hook, first (process.iat hook) = 1 → first (process.iat hook + 1) = address →
      first (process.original hook) = value) →
    after.2 address = state.2 address ∨ after.2 address = value

theorem foldlM_unhookHook_spec (hosted : process.host = some host)
    (targets : ∀ hook, first (process.iat hook) = 1 →
      first (process.iat hook + 1) ∈ host.slots)
    (same : SameStatics process first state.2) {later : List HookedFunction}
    (runs : later.foldlM (process.unhookHook restores) state = some after) :
    UnhookedAll process first later state after := by
  induction later generalizing state with
  | nil =>
      cases runs
      exact ⟨id, fun _ absurd => by simp at absurd, fun _ _ _ => .inl rfl⟩
  | cons hook later ih =>
      rw [List.foldlM_cons] at runs
      obtain ⟨middle, here, rest⟩ := Option.bind_eq_some_iff.mp runs
      have unhooked := unhookHook_spec same here
      have all := ih (same.unhooked hosted targets unhooked) rest
      constructor
      · exact fun success => unhooked.success (all.success success)
      · intro other member untagged saved
        rcases List.mem_cons.mp member with rfl | there
        · have failed := unhooked.failure untagged saved
          by_contra success
          rw [all.success (Bool.not_eq_false _ ▸ success)] at failed
          cases failed
        · exact all.failure other there untagged saved
      · intro address value only
        rcases all.write address value only with kept | written
        · rw [kept]
          rcases unhooked.write with nothing | ⟨set, written⟩
          · rw [nothing]
            exact .inl rfl
          · rw [written, Function.update_apply]
            split
            · rename_i pointed
              exact .inr (only hook set pointed.symm)
            · exact .inl rfl
        · exact .inr written

end Unhook

/-! ## Unhooking undoes hooking only if there was nothing to hook -/

variable (process : HookedProcess) (patches restores : HookedFunction → Bool)

theorem not_undoes_of_resolved {host : HostModule} (hosted : process.host = some host)
    (resolves : ∃ hook, process.resolveProc hook ≠ none) :
    ¬process.UnhookUndoes patches restores := by
  rintro ⟨result, memory, runs, restored, -, exactly⟩
  obtain ⟨hook, wrongly⟩ := init_savedWrongly hosted patches resolves
  have soFar : process.HookedSoFar host ([] ++ hooks) (process.init patches).memory := by
    rw [init, hosted]
    exact HookedSoFar.foldl patches hosted hookedSoFar_start hooks
  have slots : process.slots = host.slots := by
    rw [HookedProcess.slots, hosted]
    rfl
  have all := foldlM_unhookHook_spec hosted soFar.target (fun hook => ⟨rfl, rfl, rfl⟩) runs
  by_cases set : (process.init patches).memory (process.iat hook) = 1
  · obtain ⟨slot, member, changed, untagged, only⟩ := wrongly.entry set
    have before := restored slot (slots ▸ member)
    rcases all.write slot 1 only with kept | tag
    · exact changed (kept.symm.trans before)
    · exact untagged (before.symm.trans tag)
  · have saved : (process.init patches).memory (process.original hook) ≠ 0 := by
      rw [wrongly.tag]
      exact Nat.one_ne_zero
    have failed := all.failure hook (mem_hooks hook) set saved
    have listed : ∀ slot ∈ (process.init patches).patched, slot ∈ process.slots := by
      rw [slots, init, hosted]
      exact patched_slots patches hooks (by simp)
    have success := exactly.mpr fun slot member => restored slot (listed slot member)
    cases failed.symm.trans success

theorem init_of_unresolved
    (nothing : process.host = none ∨ ∀ hook, process.resolveProc hook = none) :
    process.init patches = ⟨process.memory, []⟩ := by
  unfold init
  split
  · rfl
  · rename_i host hosted
    have unresolved := nothing.resolve_left (by simp [hosted])
    exact foldl_initHook_unresolved patches fun hook _ => unresolved hook

theorem unhook_fresh : process.unhookAllInternal restores process.memory =
    some (true, process.memory) := by
  have still (hook : HookedFunction) :
      process.unhookHook restores (true, process.memory) hook = some (true, process.memory) := by
    obtain ⟨unsaved, unset⟩ := process.statics_none hook
    simp [unhookHook, readOption, unsaved, unset]
  have all (later : List HookedFunction) :
      later.foldlM (process.unhookHook restores) (true, process.memory) =
        some (true, process.memory) := by
    induction later with
    | nil => rfl
    | cons hook later ih =>
        rw [List.foldlM_cons, still]
        exact ih
  exact all hooks

/-- For every host and every outcome of resolving, finding, patching and restoring: unhooking
undoes hooking exactly if there is no host module or no function resolves. -/
theorem unhook_undoes_iff :
    process.UnhookUndoes patches restores ↔
      process.host = none ∨ ∀ hook, process.resolveProc hook = none := by
  constructor
  · intro undoes
    cases hosted : process.host with
    | none => exact .inl rfl
    | some host =>
        refine .inr fun hook => ?_
        by_contra resolved
        exact process.not_undoes_of_resolved patches restores hosted ⟨hook, resolved⟩ undoes
  · intro nothing
    refine ⟨true, process.memory, ?_, fun _ _ => rfl, fun _ _ _ => rfl, ?_⟩
    · rw [process.init_of_unresolved patches nothing]
      exact process.unhook_fresh restores
    · simp

end HookedProcess

/-- The place of a hook in `HOOKS`. -/
def HookedFunction.index : HookedFunction → Nat
  | .createFileW => 0
  | .ntCreateFile => 1
  | .writeFile => 2
  | .writeFileEx => 3
  | .moveFileExW => 4
  | .copyFileExW => 5
  | .deleteFileW => 6
  | .replaceFileW => 7
  | .setFileInformationByHandle => 8
  | .ntOpenFile => 9
  | .ntWriteFile => 10
  | .ntSetInformationFile => 11

theorem HookedFunction.index_lt (hook : HookedFunction) : hook.index < 12 := by
  cases hook <;> decide

theorem HookedFunction.index_injective {hook other : HookedFunction}
    (same : hook.index = other.index) : hook = other := by
  cases hook <;> cases other <;> first | rfl | cases same

/-- A host that imports `WriteFile` only, which is at the address 5000. -/
def writeFileProcess : HookedProcess where
  original hook := 100 + hook.index
  iat hook := 200 + 2 * hook.index
  trampoline hook := 1000 + hook.index
  host := some ⟨[⟨some "KERNEL32.dll", 300, 1⟩]⟩
  resolveProc hook := if hook = .writeFile then some 5000 else none
  memory := Function.update (fun _ => 0) 300 5000
  originals_apart := by
    intro hook other same
    exact HookedFunction.index_injective (Nat.add_left_cancel same)
  original_iat_apart := by
    intro hook other
    have := hook.index_lt
    omega
  iats_apart := by
    intro hook other different
    have : hook.index ≠ other.index := fun same => different (HookedFunction.index_injective same)
    omega
  slots_apart := by
    rintro _ ⟨⟩ slot member hook
    have : slot = 300 := by simpa [HostModule.slots, ImportDescriptor.thunks] using member
    have := hook.index_lt
    omega
  statics_none := by
    intro hook
    have := hook.index_lt
    rw [Function.update_of_ne (by omega), Function.update_of_ne (by omega)]
    exact ⟨rfl, rfl⟩
  procs_foreign := by
    intro hook proc resolved
    have : proc = 5000 := by
      split at resolved
      · exact (Option.some.inj resolved).symm
      · cases resolved
    refine ⟨by omega, fun other => ?_⟩
    have := other.index_lt
    omega

/-- `WriteFile` is hooked, every page can be made writable, and still it is not unhooked. -/
theorem writeFile_not_unhooked :
    ¬writeFileProcess.UnhookUndoes (fun _ => true) fun _ => true := by
  have tag : (writeFileProcess.unhookAllInternal (fun _ => true)
      (writeFileProcess.init fun _ => true).memory).map (fun after => after.2 300) = some 1 := by
    decide +kernel
  rintro ⟨result, memory, runs, restored, -⟩
  rw [runs] at tag
  have entry : memory 300 = 5000 := restored 300 (by decide)
  cases entry.symm.trans (Option.some.inj tag)

end DlpSystem.Hook
