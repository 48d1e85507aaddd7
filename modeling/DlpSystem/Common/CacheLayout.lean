import DlpSystem.Common.Str
import Mathlib.Logic.Function.Basic

/-!
# The shared-memory classification cache: types and layout

The ABI structs that the agent (writer) and the hook DLL (reader) share, and the
mapping itself.  The mapping is a typed memory: the version word, the other
header fields, and one memory for each kind of table entry, addressed by byte
offset from the start of the mapping.  Padding fields that nobody reads are left
out.

Splitting the tables into memories of their own is sound because the regions
that `init_header` lays out do not overlap; `geometry_disjoint` records the
arithmetic.
-/

namespace DlpSystem.Common

/-! ## Values -/

/-- `Classification`. -/
inductive Classification
  | T1
  | T2
  | T3
  | T4
  deriving DecidableEq, Repr

/-- `HookOp`. -/
inductive HookOp
  | read
  | write
  deriving DecidableEq, Repr

/-- `EnforcementMode`. -/
inductive EnforcementMode
  | audit
  | block
  | auditAndBlock
  | perPolicy
  deriving DecidableEq, Repr

/-- `CACHE_MAGIC`, with the same value in both crates. -/
def cacheMagic : UInt64 := 0x44545001

/-- `CACHE_LAYOUT_VERSION`. -/
def cacheLayoutVersion : UInt32 := 2

/-- `CACHE_TOTAL_SIZE`, 2 MiB. -/
def cacheTotalSize : UInt64 := 2 * 1024 * 1024

/-- `CACHE_HEADER_SIZE`. -/
def cacheHeaderSize : UInt32 := 128

/-- `size_of::<PrefixEntry>()`. -/
def prefixEntrySize : Nat := 272

/-- `size_of::<HashEntry>()`. -/
def hashEntrySize : Nat := 16

/-- `size_of::<AllowlistEntry>()`. -/
def allowlistEntrySize : Nat := 268

/-! ## Records -/

/-- `CacheHeader` without its version word, which `Mapping` holds. -/
structure CacheHeader where
  magic : UInt64
  layoutVersion : UInt32
  headerSize : UInt32
  totalSize : UInt64
  prefixTableOffset : UInt64
  prefixCount : UInt64
  hashTableOffset0 : UInt64
  hashTableOffset1 : UInt64
  hashSlots : UInt64
  createdAtEpochSecs : UInt64
  checksum : UInt64
  allowlistOffset : UInt64
  allowlistCount : UInt64
  /-- `_reserved`; its first byte is the global enforcement mode. -/
  reserved : Vector UInt8 24
  deriving DecidableEq

/-- `u64::from_le_bytes`. -/
def u64FromLeBytes (bytes : List UInt8) : UInt64 :=
  bytes.foldr (fun byte word => word <<< 8 ||| byte.toUInt64) 0

/-- There is a byte for the global enforcement mode. -/
theorem modeByte_lt : 0 < 24 := by
  decide

/-- `chunks_exact(8)` of the reserved bytes. -/
def reservedChunks (reserved : Vector UInt8 24) : List (List UInt8) :=
  [0, 8, 16].map fun start => (reserved.toList.drop start).take 8

/-- The value that both checksum functions compute. -/
def checksumOf (header : CacheHeader) : UInt64 :=
  (reservedChunks header.reserved).foldl (fun sum chunk => sum ^^^ u64FromLeBytes chunk)
    (0 ^^^ header.magic ^^^ header.layoutVersion.toUInt64 ^^^ header.headerSize.toUInt64 ^^^
      header.totalSize ^^^ header.prefixTableOffset ^^^ header.prefixCount ^^^
      header.hashTableOffset0 ^^^ header.hashTableOffset1 ^^^ header.hashSlots ^^^
      header.createdAtEpochSecs ^^^ header.allowlistOffset ^^^ header.allowlistCount)

/-- `PrefixEntry`. -/
structure PrefixEntry where
  prefixLen : UInt16
  prefixBytes : Vector UInt8 260
  tier : UInt8
  ttlSecs : UInt16
  deriving DecidableEq

/-- `HashEntry`. -/
structure HashEntry where
  hash : UInt64
  tier : UInt8
  ttlSecs : UInt16
  deriving DecidableEq

/-- A slot as `write_bytes(.., 0, ..)` leaves it. -/
def HashEntry.zero : HashEntry :=
  ⟨0, 0, 0⟩

/-- `AllowlistEntry`. -/
structure AllowlistEntry where
  prefixLen : UInt16
  prefixBytes : Vector UInt8 260
  category : UInt8
  deriving DecidableEq

/-- The shared-memory mapping. -/
structure Mapping where
  versionWord : UInt64
  header : CacheHeader
  prefixAt : Nat → PrefixEntry
  hashAt : Nat → HashEntry
  allowlistAt : Nat → AllowlistEntry

namespace Mapping

/-- A fresh mapping: all bytes zero. -/
def zero : Mapping where
  versionWord := 0
  header := ⟨0, 0, 0, 0, 0, 0, 0, 0, 0, 0, 0, 0, 0, Vector.replicate 24 0⟩
  prefixAt := fun _ => ⟨0, Vector.replicate 260 0, 0, 0⟩
  hashAt := fun _ => HashEntry.zero
  allowlistAt := fun _ => ⟨0, Vector.replicate 260 0, 0⟩

/-- Write one prefix entry at a byte offset. -/
def setPrefix (mapping : Mapping) (offset : Nat) (entry : PrefixEntry) : Mapping :=
  { mapping with prefixAt := Function.update mapping.prefixAt offset entry }

/-- Write one hash entry at a byte offset. -/
def setHash (mapping : Mapping) (offset : Nat) (entry : HashEntry) : Mapping :=
  { mapping with hashAt := Function.update mapping.hashAt offset entry }

/-- The prefix table at a byte offset, by entry index. -/
def prefixTable (mapping : Mapping) (offset : Nat) : Nat → PrefixEntry :=
  fun index => mapping.prefixAt (offset + index * prefixEntrySize)

/-- The hash table at a byte offset, by slot index. -/
def hashTable (mapping : Mapping) (offset : Nat) : Nat → HashEntry :=
  fun index => mapping.hashAt (offset + index * hashEntrySize)

theorem hashTable_apply (mapping : Mapping) (offset index : Nat) :
    mapping.hashTable offset index = mapping.hashAt (offset + index * hashEntrySize) :=
  rfl

theorem prefixTable_apply (mapping : Mapping) (offset index : Nat) :
    mapping.prefixTable offset index = mapping.prefixAt (offset + index * prefixEntrySize) :=
  rfl

end Mapping

/-- The low bit of a version word: the active buffer, and at the same time the
mark of a writer in progress. -/
def bufferOf (versionWord : UInt64) : UInt8 :=
  (versionWord &&& 1).toUInt8

/-- The offset field of the hash table of a buffer. -/
def CacheHeader.hashTableOffset (header : CacheHeader) (buffer : UInt8) : UInt64 :=
  if buffer == 0 then header.hashTableOffset0 else header.hashTableOffset1

/-! ## The layout of `init_header` -/

/-- `prefix_table_offset` as `init_header` sets it. -/
def prefixTableStart : UInt64 := 128

/-- `hash_table_offset_0` as `init_header` sets it. -/
def hashTableStart0 : UInt64 := 128 + 128 * 1024

/-- `hash_table_offset_1` as `init_header` sets it. -/
def hashTableStart1 : UInt64 := 128 + 128 * 1024 + 900 * 1024

/-- `hash_slots` as `init_header` sets it: 57600. -/
def hashSlotCount : UInt64 := 900 * 1024 / 16

/-- The most prefix entries that the writer keeps: 481. -/
def maxPrefixEntries : Nat :=
  128 * 1024 / prefixEntrySize

/-- The header fields that `init_header` sets once and no rebuild changes. -/
structure HasLayout (header : CacheHeader) : Prop where
  magic : header.magic = cacheMagic
  layoutVersion : header.layoutVersion = cacheLayoutVersion
  headerSize : header.headerSize = cacheHeaderSize
  totalSize : header.totalSize = cacheTotalSize
  prefixTableOffset : header.prefixTableOffset = prefixTableStart
  hashTableOffset0 : header.hashTableOffset0 = hashTableStart0
  hashTableOffset1 : header.hashTableOffset1 = hashTableStart1
  hashSlots : header.hashSlots = hashSlotCount

/-- Where the hash table of a buffer starts. -/
def hashTableStart (buffer : UInt8) : Nat :=
  (if buffer == 0 then hashTableStart0 else hashTableStart1).toNat

theorem HasLayout.hashTableOffset {header : CacheHeader} (layout : HasLayout header)
    (buffer : UInt8) : (header.hashTableOffset buffer).toNat = hashTableStart buffer := by
  unfold CacheHeader.hashTableOffset hashTableStart
  rw [layout.hashTableOffset0, layout.hashTableOffset1]

/-- Header, prefix table and the two hash tables follow each other in the
mapping without overlap. -/
theorem geometry_disjoint :
    cacheHeaderSize.toNat ≤ prefixTableStart.toNat ∧
    prefixTableStart.toNat + maxPrefixEntries * prefixEntrySize ≤ hashTableStart 0 ∧
    hashTableStart 0 + hashSlotCount.toNat * hashEntrySize ≤ hashTableStart 1 ∧
    hashTableStart 1 + hashSlotCount.toNat * hashEntrySize ≤ cacheTotalSize.toNat := by
  decide

/-- The two values a buffer index takes. -/
theorem bufferOf_cases (versionWord : UInt64) :
    (versionWord &&& 1 = 0 ∧ bufferOf versionWord = 0) ∨
      (versionWord &&& 1 = 1 ∧ bufferOf versionWord = 1) := by
  have bit : versionWord &&& 1 = 0 ∨ versionWord &&& 1 = 1 := by
    have value : (versionWord &&& 1).toNat = versionWord.toNat % 2 := by
      rw [UInt64.toNat_and]
      exact Nat.and_one_is_mod _
    have small : versionWord.toNat % 2 < 2 := Nat.mod_lt _ (by decide)
    have zeroOrOne : versionWord.toNat % 2 = 0 ∨ versionWord.toNat % 2 = 1 := by omega
    rcases zeroOrOne with zero | one
    · exact .inl (UInt64.toNat_inj.mp (by rw [value, zero]; rfl))
    · exact .inr (UInt64.toNat_inj.mp (by rw [value, one]; rfl))
  rcases bit with zero | one
  · exact .inl ⟨zero, by rw [bufferOf, zero]; rfl⟩
  · exact .inr ⟨one, by rw [bufferOf, one]; rfl⟩

/-- A hash table of either buffer ends inside the mapping. -/
theorem hashTable_inside (buffer : UInt8) :
    hashTableStart buffer + hashSlotCount.toNat * hashEntrySize ≤ cacheTotalSize.toNat := by
  unfold hashTableStart
  split <;> decide

/-- A slot of one buffer is no slot of the other. -/
theorem hashSlot_ne {left right : Nat} (leftBound : left < hashSlotCount.toNat)
    (rightBound : right < hashSlotCount.toNat) :
    hashTableStart 0 + left * hashEntrySize ≠ hashTableStart 1 + right * hashEntrySize := by
  have slots : hashSlotCount.toNat = 57600 := by decide
  have start0 : hashTableStart 0 = 131200 := by decide
  have start1 : hashTableStart 1 = 1052800 := by decide
  simp only [hashEntrySize, start0, start1]
  omega

theorem hashSlotCount_pos : 0 < hashSlotCount.toNat := by
  decide

/-- The byte size of a hash table does not wrap around. -/
theorem hashSlotCount_mul_size :
    (hashSlotCount * UInt64.ofNat hashEntrySize).toNat = hashSlotCount.toNat * hashEntrySize := by
  decide

theorem hashSlotCount_toNat : hashSlotCount.toNat = 57600 := by
  decide

-- From here on the slot count is a number like any other: nothing should unfold
-- a loop of that length.
attribute [irreducible] hashSlotCount

end DlpSystem.Common
