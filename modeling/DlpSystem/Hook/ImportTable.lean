import Mathlib.Logic.Function.Basic

/-!
# The import table of the host

`pe_utils`: the entries of the import table of a module are words of its memory, and a
function is hooked by a write to its entry.  Memory is flat and addressed by words.
-/

namespace DlpSystem.Hook

/-- The words of the process. -/
abbrev Memory := Nat → Nat

/-- `IMAGE_IMPORT_DESCRIPTOR`: the name of the DLL, if it is text, and its thunks, up to the
null word that ends them. -/
structure ImportDescriptor where
  name : Option String
  firstThunk : Nat
  thunkCount : Nat

/-- A loaded module, by its import descriptors up to the one with no name. -/
structure HostModule where
  descriptors : List ImportDescriptor

/-- `MAX_IMPORT_DESCRIPTORS`. -/
def maxImportDescriptors : Nat := 512

/-- `eq_ignore_ascii_case`. -/
def eqIgnoreAsciiCase (left right : String) : Bool :=
  decide (left.toList.map Char.toLower = right.toList.map Char.toLower)

namespace ImportDescriptor

/-- The addresses of the thunks. -/
def thunks (descriptor : ImportDescriptor) : List Nat :=
  List.range' descriptor.firstThunk descriptor.thunkCount

def isOf (descriptor : ImportDescriptor) (dllName : String) : Bool :=
  descriptor.name.any fun name => eqIgnoreAsciiCase name dllName

end ImportDescriptor

/-- The addresses of all entries of the import table. -/
def HostModule.slots (host : HostModule) : List Nat :=
  host.descriptors.flatMap ImportDescriptor.thunks

/-- The inner loop of `find_iat_entry`. -/
def scanThunks (memory : Memory) (targetProc : Nat) : List Nat → Option Nat
  | [] => none
  | thunk :: rest =>
      if memory thunk = 0 then none
      else if memory thunk = targetProc then some thunk
      else scanThunks memory targetProc rest

/-- The loop of `find_iat_entry` over the descriptors. -/
def scanDescriptors (memory : Memory) (dllName : String) (targetProc : Nat) :
    List ImportDescriptor → Option Nat
  | [] => none
  | descriptor :: rest =>
      if descriptor.isOf dllName then
        match scanThunks memory targetProc descriptor.thunks with
        | some thunk => some thunk
        | none => scanDescriptors memory dllName targetProc rest
      else scanDescriptors memory dllName targetProc rest

/-- `find_iat_entry`. -/
def findIatEntry (host : HostModule) (memory : Memory) (dllName : String) (targetProc : Nat) :
    Option Nat :=
  if targetProc = 0 then none
  else scanDescriptors memory dllName targetProc (host.descriptors.take maxImportDescriptors)

/-- `patch_iat`, and `restore_iat` as well.  `unprotected` says whether `VirtualProtect` makes
the page writable. -/
def patchIat (memory : Memory) (iat newFn : Nat) (unprotected : Bool) : Bool × Memory :=
  if unprotected then (true, Function.update memory iat newFn) else (false, memory)

/-- A write of `Some(value)` to an `Option<usize>`: the tag, and the value in the next word. -/
def writeSome (memory : Memory) (address value : Nat) : Memory :=
  Function.update (Function.update memory address 1) (address + 1) value

theorem writeSome_apply (memory : Memory) (address value word : Nat) :
    writeSome memory address value word =
      if word = address + 1 then value else if word = address then 1 else memory word := by
  simp only [writeSome, Function.update_apply]

/-- A read of an `Option<usize>`.  A tag that is neither of `None` nor of `Some` has no
meaning. -/
def readOption (memory : Memory) (address : Nat) : Option (Option Nat) :=
  if memory address = 0 then some none
  else if memory address = 1 then some (some (memory (address + 1)))
  else none

/-! ## What is found -/

theorem scanThunks_found {memory : Memory} {targetProc slot : Nat} {thunks : List Nat}
    (found : scanThunks memory targetProc thunks = some slot) :
    slot ∈ thunks ∧ memory slot = targetProc := by
  induction thunks with
  | nil => cases found
  | cons thunk rest ih =>
      rw [scanThunks] at found
      split at found
      · cases found
      · split at found
        · rename_i here
          cases found
          exact ⟨List.mem_cons_self, here⟩
        · obtain ⟨member, value⟩ := ih found
          exact ⟨List.mem_cons_of_mem thunk member, value⟩

theorem scanDescriptors_found {memory : Memory} {dllName : String} {targetProc slot : Nat}
    {descriptors : List ImportDescriptor}
    (found : scanDescriptors memory dllName targetProc descriptors = some slot) :
    slot ∈ descriptors.flatMap ImportDescriptor.thunks ∧ memory slot = targetProc := by
  induction descriptors with
  | nil => cases found
  | cons descriptor rest ih =>
      have later : scanDescriptors memory dllName targetProc rest = some slot →
          slot ∈ (descriptor :: rest).flatMap ImportDescriptor.thunks ∧
            memory slot = targetProc := by
        intro found
        obtain ⟨member, value⟩ := ih found
        rw [List.flatMap_cons]
        exact ⟨List.mem_append_right _ member, value⟩
      rw [scanDescriptors] at found
      split at found
      · split at found
        · rename_i thunk here
          cases found
          obtain ⟨member, value⟩ := scanThunks_found here
          rw [List.flatMap_cons]
          exact ⟨List.mem_append_left _ member, value⟩
        · exact later found
      · exact later found

/-- An entry that is found is one of the table, and has the address of the function. -/
theorem findIatEntry_found {host : HostModule} {memory : Memory} {dllName : String}
    {targetProc slot : Nat} (found : findIatEntry host memory dllName targetProc = some slot) :
    slot ∈ host.slots ∧ memory slot = targetProc := by
  rw [findIatEntry] at found
  split at found
  · cases found
  · obtain ⟨member, value⟩ := scanDescriptors_found found
    refine ⟨?_, value⟩
    obtain ⟨descriptor, listed, thunk⟩ := List.mem_flatMap.mp member
    exact List.mem_flatMap.mpr ⟨descriptor, List.mem_of_mem_take listed, thunk⟩

end DlpSystem.Hook
