import DlpSystem.Common.CacheLayout
import DlpSystem.Common.PathHash
import DlpSystem.Lib.OpenAddressing
import DlpSystem.Lib.StableSort
import DlpSystem.Lib.StepProgram

/-!
# The agent's writer of the classification cache

`ClassificationCache::init_header`, `rebuild` and `build_in_buffer`.  A rebuild
is a program of atomic steps, one for each access to a header field or to a
table entry, in the order of the source.  The live enforcement mode and the
wall clock, which the source reads from its surroundings, are arguments.
-/

namespace DlpSystem.Agent

open Common Lib StepProgram

/-- `CacheKey`: a path, its tier and its TTL in seconds. -/
structure CacheKey where
  path : Str
  tier : Classification
  ttl : UInt32
  deriving DecidableEq, Repr

/-- The errors of `CacheError` that `rebuild` can return. -/
inductive CacheError
  | boundsCheckFailed (offset len total : UInt64)
  | overflow (message : String)
  deriving DecidableEq, Repr

/-! ## Encodings -/

/-- `tier_to_u8`. -/
def tierToU8 : Classification → UInt8
  | .T1 => 1
  | .T2 => 2
  | .T3 => 3
  | .T4 => 4

/-- `mode_to_u8`. -/
def modeToU8 : EnforcementMode → UInt8
  | .audit => 1
  | .auditAndBlock => 2
  | .perPolicy => 3
  | .block => 0

/-- `(*ttl).min(u16::MAX as u32) as u16`. -/
def clampTtl (ttl : UInt32) : UInt16 :=
  (min ttl 65535).toUInt16

/-- The first `len` bytes of a path, padded with zeros to the 260 bytes of the
prefix field. -/
def padPrefix (path : Str) : Vector UInt8 260 :=
  ⟨(path.take 260 ++ List.replicate (260 - path.length) 0).toArray, by
    simp only [List.size_toArray, List.length_append, List.length_take, List.length_replicate]
    omega⟩

/-- The prefix entry written for a directory. -/
def encodePrefix (key : CacheKey) : PrefixEntry where
  prefixLen := UInt16.ofNat (min key.path.length 260)
  prefixBytes := padPrefix key.path
  tier := tierToU8 key.tier
  ttlSecs := clampTtl key.ttl

/-- The hash entry written for a file. -/
def encodeHash (key : CacheKey) : HashEntry where
  hash := fnv1a64 key.path
  tier := tierToU8 key.tier
  ttlSecs := clampTtl key.ttl

/-- A path that ends in a separator is a directory prefix. -/
def CacheKey.isDirectory (key : CacheKey) : Bool :=
  key.path.endsWithByte Str.backslash || key.path.endsWithByte Str.slash

/-- The directory entries of a list, in order. -/
def prefixEntries (entries : List CacheKey) : List CacheKey :=
  entries.filter CacheKey.isDirectory

/-- The per-file entries of a list, in order. -/
def hashEntries (entries : List CacheKey) : List CacheKey :=
  entries.filter fun key => !key.isDirectory

/-- The directory entries as they go into the prefix table: longest first, cut
to the capacity of the table. -/
def keptPrefixes (entries : List CacheKey) : List CacheKey :=
  (sortDescending (fun key => key.path.length) (prefixEntries entries)).take maxPrefixEntries

/-! ## The programs -/

/-- `init_header(0)`, on a mapping with any content. -/
def initHeader (mode : EnforcementMode) (mapping : Mapping) : Mapping :=
  { mapping with
    versionWord := ((1 : UInt64) <<< 1) ||| 0
    header :=
      { magic := cacheMagic
        layoutVersion := cacheLayoutVersion
        headerSize := cacheHeaderSize
        totalSize := cacheTotalSize
        prefixTableOffset := prefixTableStart
        prefixCount := 0
        hashTableOffset0 := hashTableStart0
        hashTableOffset1 := hashTableStart1
        hashSlots := hashSlotCount
        createdAtEpochSecs := 0
        checksum := 0
        allowlistOffset := 0
        allowlistCount := 0
        reserved := (Vector.replicate 24 0).set 0 (modeToU8 mode) } }

/-- `write_bytes` over the slots from `index` on. -/
def clearHashTable (hashOffset : Nat) : Nat → Nat → StepProgram Mapping Unit
  | 0, _ => pure ()
  | remaining + 1, index => do
      store fun mapping => mapping.setHash (hashOffset + index * hashEntrySize) HashEntry.zero
      clearHashTable hashOffset remaining (index + 1)

/-- The loop that writes the prefix entries, from table index `index` on. -/
def writePrefixEntries (tableOffset : Nat) :
    Nat → List CacheKey → StepProgram Mapping (Except CacheError Unit)
  | _, [] => pure (.ok ())
  | index, key :: rest =>
      let offset := tableOffset + index * prefixEntrySize
      if offset + prefixEntrySize > cacheTotalSize.toNat then
        pure (.error (.boundsCheckFailed (UInt64.ofNat offset) (UInt64.ofNat prefixEntrySize)
          cacheTotalSize))
      else do
        store fun mapping => mapping.setPrefix offset (encodePrefix key)
        writePrefixEntries tableOffset (index + 1) rest

/-- The probe loop of one insertion; `true` when a vacant slot was found. -/
def insertHashEntry (hashOffset hashSlots : Nat) (key : CacheKey) :
    Nat → Nat → StepProgram Mapping (Except CacheError Bool)
  | 0, _ => pure (.ok false)
  | fuel + 1, idx =>
      let slotOffset := hashOffset + idx * hashEntrySize
      if slotOffset + hashEntrySize > cacheTotalSize.toNat then
        pure (.error (.boundsCheckFailed (UInt64.ofNat slotOffset) (UInt64.ofNat hashEntrySize)
          cacheTotalSize))
      else do
        let hash ← load fun mapping => (mapping.hashAt slotOffset).hash
        if hash = 0 then do
          store fun mapping => mapping.setHash slotOffset (encodeHash key)
          pure (.ok true)
        else
          insertHashEntry hashOffset hashSlots key fuel ((idx + 1) % hashSlots)

/-- The text of the overflow error. -/
def overflowMessage (hashCount : Nat) (hashSlots : Nat) : String :=
  s!"hash table full after {hashCount} entries (slots={hashSlots})"

/-- The loop over the per-file entries; `hashCount` of them are already in. -/
def insertHashEntries (hashOffset hashSlots : Nat) :
    Nat → List CacheKey → StepProgram Mapping (Except CacheError Unit)
  | _, [] => pure (.ok ())
  | hashCount, key :: rest => do
      let inserted ← insertHashEntry hashOffset hashSlots key hashSlots
        ((fnv1a64 key.path).toNat % hashSlots)
      match inserted with
      | .error error => pure (.error error)
      | .ok false => pure (.error (.overflow (overflowMessage hashCount hashSlots)))
      | .ok true => insertHashEntries hashOffset hashSlots (hashCount + 1) rest

/-- `build_in_buffer`. -/
def buildInBuffer (mode : EnforcementMode) (bufferIndex : UInt8) (entries : List CacheKey) :
    StepProgram Mapping (Except CacheError Unit) := do
  let hashOffset ← load fun mapping => mapping.header.hashTableOffset bufferIndex
  let hashSlots ← load fun mapping => mapping.header.hashSlots
  let hashTableSize := hashSlots * UInt64.ofNat hashEntrySize
  if hashOffset.toNat + hashTableSize.toNat > cacheTotalSize.toNat then
    pure (.error (.boundsCheckFailed hashOffset hashTableSize cacheTotalSize))
  else do
    clearHashTable hashOffset.toNat hashSlots.toNat 0
    let prefixTableOffset ← load fun mapping => mapping.header.prefixTableOffset
    let kept := keptPrefixes entries
    let written ← writePrefixEntries prefixTableOffset.toNat 0 kept
    match written with
    | .error error => pure (.error error)
    | .ok () => do
        store fun mapping =>
          { mapping with header := { mapping.header with prefixCount := UInt64.ofNat kept.length } }
        let inserted ← insertHashEntries hashOffset.toNat hashSlots.toNat 0 (hashEntries entries)
        match inserted with
        | .error error => pure (.error error)
        | .ok () => do
            -- The mode byte is refreshed only after every entry found its slot.
            store fun mapping =>
              { mapping with
                header := { mapping.header with
                  reserved := mapping.header.reserved.set 0 (modeToU8 mode) modeByte_lt } }
            pure (.ok ())

/-- `ClassificationCache::compute_checksum`. -/
def computeChecksum : StepProgram Mapping UInt64 := do
  let magic ← load fun mapping => mapping.header.magic
  let layoutVersion ← load fun mapping => mapping.header.layoutVersion
  let headerSize ← load fun mapping => mapping.header.headerSize
  let totalSize ← load fun mapping => mapping.header.totalSize
  let prefixTableOffset ← load fun mapping => mapping.header.prefixTableOffset
  let prefixCount ← load fun mapping => mapping.header.prefixCount
  let hashTableOffset0 ← load fun mapping => mapping.header.hashTableOffset0
  let hashTableOffset1 ← load fun mapping => mapping.header.hashTableOffset1
  let hashSlots ← load fun mapping => mapping.header.hashSlots
  let createdAtEpochSecs ← load fun mapping => mapping.header.createdAtEpochSecs
  let allowlistOffset ← load fun mapping => mapping.header.allowlistOffset
  let allowlistCount ← load fun mapping => mapping.header.allowlistCount
  let reserved ← load fun mapping => mapping.header.reserved
  let checksum := 0 ^^^ magic ^^^ layoutVersion.toUInt64 ^^^ headerSize.toUInt64 ^^^ totalSize ^^^
    prefixTableOffset ^^^ prefixCount ^^^ hashTableOffset0 ^^^ hashTableOffset1 ^^^ hashSlots ^^^
    createdAtEpochSecs ^^^ allowlistOffset ^^^ allowlistCount
  pure ((reservedChunks reserved).foldl (fun sum chunk => sum ^^^ u64FromLeBytes chunk) checksum)

/-- `rebuild`.  The odd word announces the write, the last store publishes. -/
def rebuild (mode : EnforcementMode) (nowSecs : UInt64) (entries : List CacheKey) :
    StepProgram Mapping (Except CacheError UInt64) := do
  let currentVersionWord ← load fun mapping => mapping.versionWord
  let currentBuffer := bufferOf currentVersionWord
  let currentVersion := currentVersionWord >>> 1
  let inactiveBuffer := 1 - currentBuffer
  let newVersion := currentVersion + 1
  let oddVersionWord := (newVersion <<< 1) ||| inactiveBuffer.toUInt64 ||| 1
  store fun mapping => { mapping with versionWord := oddVersionWord }
  let built ← buildInBuffer mode inactiveBuffer entries
  match built with
  | .error error => do
      store fun mapping => { mapping with versionWord := currentVersionWord }
      pure (.error error)
  | .ok () => do
      store fun mapping =>
        { mapping with header := { mapping.header with createdAtEpochSecs := nowSecs } }
      let checksum ← computeChecksum
      store fun mapping => { mapping with header := { mapping.header with checksum := checksum } }
      let evenVersionWord := (newVersion <<< 1) ||| inactiveBuffer.toUInt64
      store fun mapping => { mapping with versionWord := evenVersionWord }
      pure (.ok newVersion)

end DlpSystem.Agent
