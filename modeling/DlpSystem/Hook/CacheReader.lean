import DlpSystem.Common.CacheLayout
import DlpSystem.Common.PathHash
import DlpSystem.Lib.OpenAddressing
import DlpSystem.Lib.StepProgram

/-!
# The hook DLL's reader of the classification cache

`CacheView::lookup` with its two table searches, the header validation,
`global_mode` and `decide`.  Like the writer, the reader is a program of atomic
accesses in source order.

The DLL is built for x64 and for x86, and the source casts header fields and
hashes to `usize`; the target is therefore an argument.  The thread-local
`LAST_VALIDATED_VERSION` is passed in and handed back.
-/

namespace DlpSystem.Hook

open Common Lib StepProgram

/-- The two targets the DLL is built for. -/
inductive Target
  | x86
  | x64
  deriving DecidableEq, Repr

/-- The width of `usize`. -/
def Target.usizeBits : Target → Nat
  | .x86 => 32
  | .x64 => 64

/-- `value as usize`, and the wrap-around of `usize` arithmetic. -/
def Target.asUsize (target : Target) (value : Nat) : Nat :=
  value % 2 ^ target.usizeBits

/-- `u8_to_classification`. -/
def u8ToClassification (tier : UInt8) : Option Classification :=
  if tier = 1 then some .T1
  else if tier = 2 then some .T2
  else if tier = 3 then some .T3
  else if tier = 4 then some .T4
  else none

/-- `DenyReturn`. -/
inductive DenyReturn
  | boolFalse
  | invalidHandleValue
  | statusAccessDenied
  deriving DecidableEq, Repr

/-- `CacheView::decide`. -/
def decideCached (classification : Classification) (op : HookOp) : Option DenyReturn :=
  match classification, op with
  | .T3, .write => some .boolFalse
  | .T4, .write => some .boolFalse
  | _, _ => none

/-- `now_secs.saturating_sub(created_at)`. -/
def ageAt (nowSecs createdAt : UInt64) : Nat :=
  nowSecs.toNat - createdAt.toNat

/-! ## Header -/

/-- `CacheView::compute_checksum`. -/
def computeChecksum : StepProgram Mapping UInt64 := do
  let magic ← load fun mapping => mapping.header.magic
  let layoutVersion ← load fun mapping => mapping.header.layoutVersion
  let headerSize ← load fun mapping => mapping.header.headerSize
  let totalSize ← load fun mapping => mapping.header.totalSize
  let prefixTableOffset ← load fun mapping => mapping.header.prefixTableOffset
  let prefixCount ← load fun mapping => mapping.header.prefixCount
  let hashTableOffset0 ← load fun mapping => mapping.header.hashTableOffset0
  let hashTableOffset1 ← load fun mapping => mapping.header.hashTableOffset1
  let hashSlots ← load fun mapping => mapping.header.hashSlots
  let createdAtEpochSecs ← load fun mapping => mapping.header.createdAtEpochSecs
  let allowlistOffset ← load fun mapping => mapping.header.allowlistOffset
  let allowlistCount ← load fun mapping => mapping.header.allowlistCount
  let reserved ← load fun mapping => mapping.header.reserved
  let checksum := 0 ^^^ magic ^^^ layoutVersion.toUInt64 ^^^ headerSize.toUInt64 ^^^ totalSize ^^^
    prefixTableOffset ^^^ prefixCount ^^^ hashTableOffset0 ^^^ hashTableOffset1 ^^^ hashSlots ^^^
    createdAtEpochSecs ^^^ allowlistOffset ^^^ allowlistCount
  pure ((reservedChunks reserved).foldl (fun sum chunk => sum ^^^ u64FromLeBytes chunk) checksum)

/-- `full_validation`; `true` stands for `Ok(())`. -/
def fullValidation : StepProgram Mapping Bool := do
  let magic ← load fun mapping => mapping.header.magic
  if magic ≠ cacheMagic then pure false else do
  let layoutVersion ← load fun mapping => mapping.header.layoutVersion
  if layoutVersion ≠ cacheLayoutVersion then pure false else do
  let headerSize ← load fun mapping => mapping.header.headerSize
  if headerSize ≠ cacheHeaderSize then pure false else do
  let totalSize ← load fun mapping => mapping.header.totalSize
  if totalSize ≠ cacheTotalSize then pure false else do
  let prefixTableOffset ← load fun mapping => mapping.header.prefixTableOffset
  if prefixTableOffset ≥ cacheTotalSize then pure false else do
  let hashTableOffset0 ← load fun mapping => mapping.header.hashTableOffset0
  if hashTableOffset0 ≥ cacheTotalSize then pure false else do
  let hashTableOffset1 ← load fun mapping => mapping.header.hashTableOffset1
  if hashTableOffset1 ≥ cacheTotalSize then pure false else do
  let computed ← computeChecksum
  let checksum ← load fun mapping => mapping.header.checksum
  pure (checksum == computed)

/-- `global_mode`: an unknown byte is read as Block. -/
def globalMode : StepProgram Mapping UInt8 := do
  let byte ← load fun mapping => getElem mapping.header.reserved 0 modeByte_lt
  pure (if byte = 1 then 1 else if byte = 2 then 2 else if byte = 3 then 3 else 0)

/-! ## Table searches -/

/-- Whether the first `prefix_len` bytes of an entry start the path. -/
def entryMatches (path : Str) (entry : PrefixEntry) : Bool :=
  decide (entry.prefixLen.toNat ≤ path.length) &&
    Str.eqIgnoreAsciiCase (path.take entry.prefixLen.toNat)
      (entry.prefixBytes.toList.take entry.prefixLen.toNat)

/-- The scan of the prefix table from entry `index` on. -/
def scanPrefixes (path : Str) (age tableOffset : Nat) :
    Nat → Nat → StepProgram Mapping (Option Classification)
  | 0, _ => pure none
  | remaining + 1, index => do
      let entry ← load fun mapping => mapping.prefixTable tableOffset index
      if entry.prefixLen = 0 then scanPrefixes path age tableOffset remaining (index + 1)
      else if entry.prefixLen > 260 then pure none
      else if entryMatches path entry then
        if age ≥ entry.ttlSecs.toNat then scanPrefixes path age tableOffset remaining (index + 1)
        else pure (u8ToClassification entry.tier)
      else scanPrefixes path age tableOffset remaining (index + 1)

/-- `prefix_lookup`. -/
def prefixLookup (target : Target) (path : Str) (nowSecs : UInt64) :
    StepProgram Mapping (Option Classification) := do
  let count ← load fun mapping => mapping.header.prefixCount
  let prefixCount := target.asUsize count.toNat
  if prefixCount = 0 then pure none else do
  let offset ← load fun mapping => mapping.header.prefixTableOffset
  let prefixTableOffset := target.asUsize offset.toNat
  let prefixTableSize := target.asUsize (prefixCount * prefixEntrySize)
  if prefixTableOffset + prefixTableSize > cacheTotalSize.toNat then pure none else do
  let createdAt ← load fun mapping => mapping.header.createdAtEpochSecs
  scanPrefixes path (ageAt nowSecs createdAt) prefixTableOffset prefixCount 0

/-- The probe loop of `hash_lookup`. -/
def probeHash (hash : UInt64) (age tableOffset hashSlots : Nat) :
    Nat → Nat → StepProgram Mapping (Option Classification)
  | 0, _ => pure none
  | fuel + 1, idx => do
      let entry ← load fun mapping => mapping.hashTable tableOffset idx
      if entry.hash = 0 then pure none
      else if entry.hash = hash then
        if age ≥ entry.ttlSecs.toNat then pure none
        else pure (u8ToClassification entry.tier)
      else probeHash hash age tableOffset hashSlots fuel ((idx + 1) % hashSlots)

/-- `hash_lookup`. -/
def hashLookup (target : Target) (buffer : UInt8) (path : Str) (nowSecs : UInt64) :
    StepProgram Mapping (Option Classification) := do
  let slots ← load fun mapping => mapping.header.hashSlots
  let hashSlots := target.asUsize slots.toNat
  if hashSlots = 0 then pure none else do
  let offset ← load fun mapping => mapping.header.hashTableOffset buffer
  let hashOffset := target.asUsize offset.toNat
  let hashTableSize := target.asUsize (hashSlots * hashEntrySize)
  if hashOffset + hashTableSize > cacheTotalSize.toNat then pure none else do
  let hash := fnv1a64 path
  let idx := target.asUsize hash.toNat % hashSlots
  let createdAt ← load fun mapping => mapping.header.createdAtEpochSecs
  probeHash hash (ageAt nowSecs createdAt) hashOffset hashSlots hashSlots idx

/-! ## Lookup -/

/-- Step 1 of `lookup`: read the version word and, while it is odd, once more.
`none` is the exit taken while a writer is in progress.  The word that is
returned is the first one read, also after a successful retry. -/
def acquireVersion : StepProgram Mapping (Option UInt64) := do
  let versionWord ← load fun mapping => mapping.versionWord
  if versionWord &&& 1 ≠ 0 then do
    let retryWord ← load fun mapping => mapping.versionWord
    if retryWord &&& 1 ≠ 0 then pure none
    else pure (some versionWord)
  else pure (some versionWord)

/-- Step 2 of `lookup`: full validation for a version that this thread has not
validated yet, else the cheap magic check.  Returns whether the header was
accepted and the new `LAST_VALIDATED_VERSION`. -/
def validateVersion (version lastValidated : UInt64) : StepProgram Mapping (Bool × UInt64) := do
  if version ≠ lastValidated then do
    let valid ← fullValidation
    pure (valid, if valid then version else lastValidated)
  else do
    let magic ← load fun mapping => mapping.header.magic
    pure (magic == cacheMagic, lastValidated)

/-- Steps 4 and 5 of `lookup`, on a normalised path. -/
def searchTables (target : Target) (buffer : UInt8) (normalized : Str) (nowSecs : UInt64) :
    StepProgram Mapping (Option Classification) := do
  let fromPrefix ← prefixLookup target normalized nowSecs
  match fromPrefix with
  | some classification => pure (some classification)
  | none => hashLookup target buffer normalized nowSecs

/-- `lookup` from step 2 on, for the version word read in step 1. -/
def lookupAt (target : Target) (path : Str) (nowSecs lastValidated versionWord : UInt64) :
    StepProgram Mapping (Option Classification × UInt64) := do
  let (valid, validated) ← validateVersion (versionWord >>> 1) lastValidated
  if valid = false then pure (none, validated)
  else
    match normalizePath path with
    | none => pure (none, validated)
    | some normalized => do
        let found ← searchTables target (bufferOf versionWord) normalized nowSecs
        pure (found, validated)

/-- `CacheView::lookup`.  The second component of the result is the new
`LAST_VALIDATED_VERSION`; the operation kind is not looked at. -/
def lookup (target : Target) (path : Str) (_op : HookOp) (nowSecs lastValidated : UInt64) :
    StepProgram Mapping (Option Classification × UInt64) := do
  let acquired ← acquireVersion
  match acquired with
  | none => pure (none, lastValidated)
  | some versionWord => lookupAt target path nowSecs lastValidated versionWord

end DlpSystem.Hook
