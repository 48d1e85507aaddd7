import DlpSystem.Lib.Casing
import DlpSystem.Lib.Codec
import Mathlib.Algebra.Ring.Int.Defs
import Mathlib.Algebra.Ring.Nat

/-!
# Detection of EDR hooks

`EdrDetector`: a system call stub is taken for hooked by an EDR when an EDR is loaded and the
stub starts with a jump into a loaded module.  The list of modules is kept for some seconds.
-/

namespace DlpSystem.Hook

open Lib

/-- `KNOWN_EDR_MODULES`. -/
def knownEdrModules : List Text :=
  ["csagent.dll".toList, "csfalcon.dll".toList, "SentinelAgent.dll".toList,
    "MsMpEng.exe".toList, "cb.exe".toList]

/-- `MODULE_CACHE_TTL`.  Times are milliseconds of the monotonic clock, which starts at twice
this age. -/
def moduleCacheTtl : Nat :=
  5000

/-- `ModuleInfo`.  Addresses and sizes are words of 64 bits. -/
structure ModuleInfo where
  base : UInt64
  size : UInt64
  name : Text
  deriving DecidableEq

/-- The bytes of the address space. -/
abbrev ByteMemory := UInt64 → UInt8

/-- A little-endian `i32` at an address. -/
def readRel32 (memory : ByteMemory) (address : UInt64) : Int32 :=
  (UInt32.ofNat (leNat [memory address, memory (address + 1), memory (address + 2),
    memory (address + 3)])).toInt32

/-- `rel32 as usize` extends the sign. -/
def asUsize (offset : Int32) : UInt64 :=
  offset.toInt64.toUInt64

/-- `usize::saturating_add`. -/
def saturatingAdd (base size : UInt64) : UInt64 :=
  UInt64.ofNat (min (base.toNat + size.toNat) (2 ^ 64 - 1))

/-- `is_address_in_edr_module_range`: any module of the list will do. -/
def isAddressInEdrModuleRange (addr : UInt64) (modules : List ModuleInfo) : Bool :=
  modules.any fun loaded =>
    loaded.base ≤ addr && decide (addr < saturatingAdd loaded.base loaded.size)

/-- `EdrDetector`. -/
structure EdrDetector where
  cachedModules : List ModuleInfo
  lastRefresh : Nat

namespace EdrDetector

/-- `EdrDetector::new`, at a time. -/
def new (now : Nat) : EdrDetector :=
  ⟨[], now - moduleCacheTtl * 2⟩

/-- `refresh_module_list`: the list becomes what the system enumerates. -/
def refreshModuleList (enumerated : List ModuleInfo) (now : Nat) : EdrDetector :=
  ⟨enumerated, now⟩

/-- `ensure_fresh_cache`. -/
def ensureFreshCache (detector : EdrDetector) (enumerated : List ModuleInfo) (now : Nat) :
    EdrDetector :=
  if now - detector.lastRefresh < moduleCacheTtl then detector
  else refreshModuleList enumerated now

/-- The name of a module contains a known one, in lower case. -/
def containsKnownName (casing : Casing) (loaded : ModuleInfo) : Bool :=
  knownEdrModules.any fun known =>
    casing.toLowercase known <:+: casing.toLowercase loaded.name

/-- `any_known_edr_module_loaded`, on the refreshed list. -/
def anyKnownEdrModuleLoaded (casing : Casing) (detector : EdrDetector) : Bool :=
  detector.cachedModules.any (containsKnownName casing)

/-- `is_edr_hooked`, with the detector that it leaves. -/
def isEdrHooked (casing : Casing) (detector : EdrDetector) (enumerated : List ModuleInfo)
    (now : Nat) (memory : ByteMemory) (stubAddr : UInt64) : Bool × EdrDetector :=
  let fresh := detector.ensureFreshCache enumerated now
  if !fresh.anyKnownEdrModuleLoaded casing then (false, fresh)
  else if memory stubAddr ≠ 0xE9 then (false, fresh)
  else
    let target := stubAddr + 5 + asUsize (readRel32 memory (stubAddr + 1))
    (isAddressInEdrModuleRange target fresh.cachedModules, fresh)

/-- The list that a call looks at. -/
def freshModules (detector : EdrDetector) (enumerated : List ModuleInfo) (now : Nat) :
    List ModuleInfo :=
  (detector.ensureFreshCache enumerated now).cachedModules

/-- What a call answers. -/
theorem isEdrHooked_iff {casing : Casing} {detector : EdrDetector}
    {enumerated : List ModuleInfo} {now : Nat} {memory : ByteMemory} {stubAddr : UInt64} :
    (detector.isEdrHooked casing enumerated now memory stubAddr).1 = true ↔
      (∃ loaded ∈ detector.freshModules enumerated now, containsKnownName casing loaded = true) ∧
        memory stubAddr = 0xE9 ∧
        isAddressInEdrModuleRange (stubAddr + 5 + asUsize (readRel32 memory (stubAddr + 1)))
          (detector.freshModules enumerated now) = true := by
  rw [isEdrHooked, freshModules, anyKnownEdrModuleLoaded, ← List.any_eq_true]
  cases (detector.ensureFreshCache enumerated now).cachedModules.any (containsKnownName casing)
  · simp
  · by_cases jump : memory stubAddr = 0xE9
    · simp [jump]
    · simp [jump]

end EdrDetector

/-! ## Arithmetic of addresses -/

theorem toNat_saturatingAdd (base size : UInt64) :
    (saturatingAdd base size).toNat = min (base.toNat + size.toNat) (2 ^ 64 - 1) := by
  apply UInt64.toNat_ofNat_of_lt'
  show _ < 2 ^ 64
  omega

/-- A word that extends the sign stands for the same number. -/
theorem asUsize_eq_ofInt (offset : Int32) : asUsize offset = UInt64.ofInt offset.toInt := by
  have bound : (offset.toInt64.toInt % 2 ^ 64).toNat < UInt64.size := by
    show _ < 2 ^ 64
    omega
  have word : BitVec.ofInt 64 offset.toInt64.toInt = offset.toInt64.toBitVec :=
    BitVec.ofInt_toInt
  apply UInt64.toNat_inj.mp
  rw [← Int32.toInt_toInt64, UInt64.ofInt, UInt64.toNat_ofNat_of_lt' bound]
  have value := @BitVec.toNat_ofInt 64 offset.toInt64.toInt
  rw [word] at value
  exact value

/-! ## Which stubs are taken for hooked

A stub is hooked by an EDR when it jumps into a module whose name is a known one.  The detector
asks for two things apart: that a module contains a known name, and that the jump leads into
any module.
-/

open EdrDetector

/-- The five bytes at an address. -/
def stubBytes (memory : ByteMemory) (stubAddr : UInt64) : List UInt8 :=
  [memory stubAddr, memory (stubAddr + 1), memory (stubAddr + 2), memory (stubAddr + 3),
    memory (stubAddr + 4)]

/-- The signed number of four bytes, least significant first. -/
def signedNumber (bytes : List UInt8) : Int :=
  if leNat bytes < 2 ^ 31 then leNat bytes else leNat bytes - 2 ^ 32

/-- Code at an address is a `JMP rel32` to a target: the displacement counts from the end of
the instruction, and addresses wrap around. -/
def JumpsTo (code : List UInt8) (address target : UInt64) : Prop :=
  ∃ displacement, displacement.length = 4 ∧ code = 0xE9 :: displacement ∧
    target = UInt64.ofInt (address.toNat + 5 + signedNumber displacement)

/-- The range of a module holds an address. -/
def ModuleInfo.Holds (loaded : ModuleInfo) (address : UInt64) : Prop :=
  loaded.base.toNat ≤ address.toNat ∧ address.toNat < loaded.base.toNat + loaded.size.toNat

instance (loaded : ModuleInfo) (address : UInt64) : Decidable (loaded.Holds address) :=
  inferInstanceAs (Decidable (_ ∧ _))

/-- The name of a module is a known one, up to letter case. -/
def IsKnownEdr (casing : Casing) (loaded : ModuleInfo) : Prop :=
  ∃ known ∈ knownEdrModules, casing.toLowercase loaded.name = casing.toLowercase known

instance (casing : Casing) (loaded : ModuleInfo) : Decidable (IsKnownEdr casing loaded) :=
  inferInstanceAs (Decidable (∃ known ∈ knownEdrModules, _))

/-- A known module holds an address. -/
def KnownHolds (casing : Casing) (modules : List ModuleInfo) (address : UInt64) : Prop :=
  ∃ loaded ∈ modules, IsKnownEdr casing loaded ∧ loaded.Holds address

/-- Code at an address jumps into a known module. -/
def IsHookedByEdr (casing : Casing) (modules : List ModuleInfo) (code : List UInt8)
    (address : UInt64) : Prop :=
  ∃ target, JumpsTo code address target ∧ KnownHolds casing modules target

/-- A jump into any module leads into a known one once some module contains a known name; a
jump to the last address of all does not lead into a known one. -/
def LeadsIntoKnown (casing : Casing) (modules : List ModuleInfo) (code : List UInt8)
    (address : UInt64) : Prop :=
  ∀ target, JumpsTo code address target →
    if target.toNat = 2 ^ 64 - 1 then ¬ KnownHolds casing modules target
    else ∀ named ∈ modules, containsKnownName casing named = true →
      ∀ loaded ∈ modules, loaded.Holds target → KnownHolds casing modules target

/-! ### The target of a jump -/

theorem leNat_lt (bytes : List UInt8) : leNat bytes < 256 ^ bytes.length := by
  induction bytes with
  | nil => decide
  | cons byte rest ih =>
      have low : byte.toNat < 256 := byte.toNat_lt
      rw [leNat, List.length_cons, Nat.pow_succ']
      omega

/-- Four bytes as an `i32`. -/
theorem toInt_toInt32 {bytes : List UInt8} (length : bytes.length = 4) :
    (UInt32.ofNat (leNat bytes)).toInt32.toInt = signedNumber bytes := by
  have bound := leNat_lt bytes
  rw [length] at bound
  have value : (UInt32.ofNat (leNat bytes)).toBitVec.toNat = leNat bytes :=
    UInt32.toNat_ofNat_of_lt' bound
  show (UInt32.ofNat (leNat bytes)).toBitVec.toInt = _
  rw [BitVec.toInt_eq_toNat_cond, value, signedNumber]
  by_cases small : leNat bytes < 2 ^ 31
  · rw [if_pos small, if_pos (by omega)]
  · rw [if_neg small, if_neg (by omega)]
    rfl

/-- Where the detector takes the jump to lead. -/
def jumpTarget (memory : ByteMemory) (stubAddr : UInt64) : UInt64 :=
  stubAddr + 5 + asUsize (readRel32 memory (stubAddr + 1))

/-- The wrapped sum of the words is the jump of the processor. -/
theorem jumpTarget_eq (memory : ByteMemory) (stubAddr : UInt64) :
    jumpTarget memory stubAddr =
      UInt64.ofInt (stubAddr.toNat + 5 + signedNumber (stubBytes memory stubAddr).tail) := by
  have rest : ∀ offset : UInt64, stubAddr + 1 + offset = stubAddr + (1 + offset) :=
    fun offset => UInt64.add_assoc ..
  have start : UInt64.ofInt (stubAddr.toNat : Int) = stubAddr := by
    have bound := stubAddr.toNat_lt
    have same : ((stubAddr.toNat : Int) % 2 ^ 64).toNat = stubAddr.toNat := by omega
    rw [UInt64.ofInt, same, UInt64.ofNat_toNat]
  rw [jumpTarget, asUsize_eq_ofInt, readRel32, toInt_toInt32 rfl, rest, rest, rest,
    UInt64.ofInt_add, UInt64.ofInt_add, start]
  rfl

theorem jumpsTo_iff {memory : ByteMemory} {stubAddr target : UInt64} :
    JumpsTo (stubBytes memory stubAddr) stubAddr target ↔
      memory stubAddr = 0xE9 ∧ target = jumpTarget memory stubAddr := by
  rw [jumpTarget_eq]
  constructor
  · rintro ⟨displacement, _, same, rfl⟩
    obtain ⟨first, rfl⟩ := List.cons.inj same
    exact ⟨first, rfl⟩
  · rintro ⟨first, rfl⟩
    exact ⟨(stubBytes memory stubAddr).tail, rfl, congrArg (· :: _) first, rfl⟩

/-! ### Ranges and names -/

/-- The check of the ranges misses the last address. -/
theorem isAddressInEdrModuleRange_iff {addr : UInt64} {modules : List ModuleInfo} :
    isAddressInEdrModuleRange addr modules = true ↔
      addr.toNat ≠ 2 ^ 64 - 1 ∧ ∃ loaded ∈ modules, loaded.Holds addr := by
  have bound : addr.toNat < 2 ^ 64 := addr.toNat_lt
  rw [isAddressInEdrModuleRange, List.any_eq_true]
  simp only [Bool.and_eq_true, decide_eq_true_eq, UInt64.le_iff_toNat_le, UInt64.lt_iff_toNat_lt,
    toNat_saturatingAdd]
  constructor
  · rintro ⟨loaded, member, above, below⟩
    exact ⟨by omega, loaded, member, above, by omega⟩
  · rintro ⟨notLast, loaded, member, above, below⟩
    exact ⟨loaded, member, above, by omega⟩

theorem containsKnownName_of_isKnownEdr {casing : Casing} {loaded : ModuleInfo}
    (known : IsKnownEdr casing loaded) : containsKnownName casing loaded = true := by
  obtain ⟨name, member, same⟩ := known
  rw [containsKnownName, List.any_eq_true]
  exact ⟨name, member, decide_eq_true (same ▸ List.infix_refl _)⟩

/-! ### The detector -/

section Detector

variable {casing : Casing} {detector : EdrDetector} {enumerated : List ModuleInfo} {now : Nat}
  {memory : ByteMemory} {stubAddr : UInt64}

/-- What the detector finds, in the words of the specification. -/
theorem isEdrHooked_iff_holds :
    (detector.isEdrHooked casing enumerated now memory stubAddr).1 = true ↔
      ∃ target, JumpsTo (stubBytes memory stubAddr) stubAddr target ∧
        target.toNat ≠ 2 ^ 64 - 1 ∧
        (∃ named ∈ detector.freshModules enumerated now,
          containsKnownName casing named = true) ∧
        ∃ loaded ∈ detector.freshModules enumerated now, loaded.Holds target := by
  rw [isEdrHooked_iff]
  constructor
  · rintro ⟨named, jump, inRange⟩
    obtain ⟨notLast, holds⟩ := isAddressInEdrModuleRange_iff.mp inRange
    exact ⟨_, jumpsTo_iff.mpr ⟨jump, rfl⟩, notLast, named, holds⟩
  · rintro ⟨target, jumps, notLast, named, holds⟩
    obtain ⟨jump, rfl⟩ := jumpsTo_iff.mp jumps
    exact ⟨named, jump, isAddressInEdrModuleRange_iff.mpr ⟨notLast, holds⟩⟩

/-- The detector recognises the hooks of an EDR exactly where jumps into modules lead into
known ones. -/
theorem isEdrHooked_iff_isHookedByEdr (casing : Casing) (detector : EdrDetector)
    (enumerated : List ModuleInfo) (now : Nat) (memory : ByteMemory) (stubAddr : UInt64) :
    ((detector.isEdrHooked casing enumerated now memory stubAddr).1 = true ↔
        IsHookedByEdr casing (detector.freshModules enumerated now)
          (stubBytes memory stubAddr) stubAddr) ↔
      LeadsIntoKnown casing (detector.freshModules enumerated now)
        (stubBytes memory stubAddr) stubAddr := by
  rw [isEdrHooked_iff_holds]
  constructor
  · intro exact target jumps
    split
    · rename_i last
      intro known
      obtain ⟨other, otherJumps, notLast, _⟩ := exact.mpr ⟨target, jumps, known⟩
      rw [(jumpsTo_iff.mp otherJumps).2, ← (jumpsTo_iff.mp jumps).2] at notLast
      exact notLast last
    · rename_i notLast
      intro named member contains loaded loadedMember holds
      obtain ⟨other, otherJumps, known⟩ := exact.mp ⟨target, jumps, notLast,
        ⟨named, member, contains⟩, loaded, loadedMember, holds⟩
      rw [(jumpsTo_iff.mp jumps).2, ← (jumpsTo_iff.mp otherJumps).2]
      exact known
  · intro leads
    constructor
    · rintro ⟨target, jumps, notLast, ⟨named, member, contains⟩, loaded, loadedMember, holds⟩
      have known := leads target jumps
      rw [if_neg notLast] at known
      exact ⟨target, jumps, known named member contains loaded loadedMember holds⟩
    · rintro ⟨target, jumps, known⟩
      have notLast : target.toNat ≠ 2 ^ 64 - 1 := by
        intro last
        have unknown := leads target jumps
        rw [if_pos last] at unknown
        exact unknown known
      obtain ⟨loaded, member, isKnown, holds⟩ := known
      exact ⟨target, jumps, notLast, ⟨loaded, member, containsKnownName_of_isKnownEdr isKnown⟩,
        loaded, member, holds⟩

end Detector

/-- A stub at `0x500` that jumps to `0x1800`. -/
def jumpingStub : ByteMemory := fun address =>
  if address = 0x500 then 0xE9 else if address = 0x501 then 0xFB
  else if address = 0x502 then 0x12 else 0

/-- A module that holds `0x1800`, and that of an EDR elsewhere. -/
def loadedModules : List ModuleInfo :=
  [⟨0x1000, 0x1000, "kernel32.dll".toList⟩, ⟨0x7000, 0x1000, "csagent.dll".toList⟩]

/-- With an EDR loaded, a jump into another module is taken for its hook. -/
theorem isEdrHooked_foreign :
    ((EdrDetector.mk [] 0).isEdrHooked Casing.excerpt loadedModules moduleCacheTtl jumpingStub
        0x500).1 = true ∧
      ¬ IsHookedByEdr Casing.excerpt
        ((EdrDetector.mk [] 0).freshModules loadedModules moduleCacheTtl)
        (stubBytes jumpingStub 0x500) 0x500 := by
  constructor
  · decide
  · rintro ⟨target, jumps, known⟩
    obtain ⟨_, rfl⟩ := jumpsTo_iff.mp jumps
    revert known
    unfold KnownHolds
    decide

end DlpSystem.Hook
