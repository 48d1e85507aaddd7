import DlpSystem.Agent.CacheWriter
import DlpSystem.Lib.StridedTable

/-!
# What a rebuild does to the mapping

One run of `rebuild`, with no reader in between, is described by
`rebuild_cases`: the prefix table holds the directory entries, sorted and cut to
capacity; the hash table of the inactive buffer holds the per-file entries by
open addressing; the hash table of the active buffer and the layout fields are
as they were.  A rebuild fails exactly when the per-file entries do not fit, and
then it has already replaced the prefix table.
-/

namespace DlpSystem.Agent

open Common Lib StepProgram

/-- The hash table as an instance of open addressing: hash zero marks a vacant
slot, and an entry's home is its hash modulo the number of slots. -/
def hashAddressing : Addressing HashEntry where
  slots := hashSlotCount.toNat
  vacant := fun entry => entry.hash == 0
  home := fun entry => entry.hash.toNat % hashSlotCount.toNat
  homeInside := fun _ => Nat.mod_lt _ hashSlotCount_pos

/-! ## The loops -/

theorem run_clearHashTable (hashOffset remaining index : Nat) (mapping : Mapping) :
    (clearHashTable hashOffset remaining index).run mapping =
      ((), { mapping with
        hashAt := writeAll hashOffset hashEntrySize mapping.hashAt index
          (List.replicate remaining HashEntry.zero) }) := by
  induction remaining generalizing index mapping with
  | zero => rfl
  | succ remaining ih =>
      rw [clearHashTable, run_bind, run_store, ih, List.replicate_succ]
      rfl

theorem run_writePrefixEntries {tableOffset index : Nat} {keys : List CacheKey}
    (inside : tableOffset + (index + keys.length) * prefixEntrySize ≤ cacheTotalSize.toNat)
    (mapping : Mapping) :
    (writePrefixEntries tableOffset index keys).run mapping =
      (.ok (), { mapping with
        prefixAt := writeAll tableOffset prefixEntrySize mapping.prefixAt index
          (keys.map encodePrefix) }) := by
  induction keys generalizing index mapping with
  | nil => rfl
  | cons key rest ih =>
      have insideRest : tableOffset + (index + 1 + rest.length) * prefixEntrySize ≤
          cacheTotalSize.toNat := by
        rw [Nat.add_right_comm]
        exact inside
      have first : tableOffset + index * prefixEntrySize + prefixEntrySize ≤
          tableOffset + (index + 1 + rest.length) * prefixEntrySize := by
        rw [Nat.add_mul, Nat.succ_mul, Nat.add_assoc]
        omega
      have fits : ¬ tableOffset + index * prefixEntrySize + prefixEntrySize >
          cacheTotalSize.toNat := Nat.not_lt.mpr (first.trans insideRest)
      simp only [writePrefixEntries, if_neg fits, run_store_bind]
      rw [ih insideRest]
      rfl

/-- The probe loop of one insertion is `probe` for a vacant slot. -/
theorem run_insertHashEntry {hashOffset hashSlots : Nat}
    (inside : hashOffset + hashSlots * hashEntrySize ≤ cacheTotalSize.toNat)
    (key : CacheKey) (fuel : Nat) {idx : Nat} (bound : idx < hashSlots) (mapping : Mapping) :
    (insertHashEntry hashOffset hashSlots key fuel idx).run mapping =
      match probe hashSlots (fun entry : HashEntry => entry.hash == 0)
        (mapping.hashTable hashOffset) fuel idx with
      | none => (.ok false, mapping)
      | some slot =>
          (.ok true, mapping.setHash (hashOffset + slot * hashEntrySize) (encodeHash key)) := by
  induction fuel generalizing idx with
  | zero => rfl
  | succ fuel ih =>
      have fits : ¬ hashOffset + idx * hashEntrySize + hashEntrySize > cacheTotalSize.toNat := by
        simp only [hashEntrySize] at inside ⊢
        omega
      simp only [insertHashEntry, if_neg fits, run_load_bind, run_ite, probe, Mapping.hashTable,
        beq_iff_eq]
      split
      · rfl
      · exact ih (Nat.mod_lt _ (Nat.zero_lt_of_lt bound))

/-- Inserting in the memory is inserting in the table. -/
theorem hashTable_setHash (mapping : Mapping) (hashOffset slot : Nat) (entry : HashEntry) :
    (mapping.setHash (hashOffset + slot * hashEntrySize) entry).hashTable hashOffset =
      Function.update (mapping.hashTable hashOffset) slot entry :=
  update_strided (by decide) slot entry

theorem prefixTable_setPrefix (mapping : Mapping) (tableOffset index : Nat) (entry : PrefixEntry) :
    (mapping.setPrefix (tableOffset + index * prefixEntrySize) entry).prefixTable tableOffset =
      Function.update (mapping.prefixTable tableOffset) index entry := by
  funext place
  rw [Mapping.prefixTable_apply, Mapping.setPrefix]
  dsimp only
  by_cases same : place = index
  · rw [same, Function.update_self, Function.update_self]
  · have apart : tableOffset + place * prefixEntrySize ≠ tableOffset + index * prefixEntrySize :=
      fun equal => same ((strided_inj (by decide)).mp equal)
    rw [Function.update_of_ne same, Function.update_of_ne apart, Mapping.prefixTable_apply]

/-- The loop over the per-file entries is `insertAll`; only slots of the table
are written. -/
theorem run_insertHashEntries {hashOffset : Nat}
    (inside : hashOffset + hashSlotCount.toNat * hashEntrySize ≤ cacheTotalSize.toNat)
    (hashCount : Nat) (keys : List CacheKey) (mapping : Mapping) :
    ∃ result hashAt,
      (insertHashEntries hashOffset hashSlotCount.toNat hashCount keys).run mapping =
        (result, { mapping with hashAt := hashAt }) ∧
      (∀ address, (∀ slot < hashSlotCount.toNat, address ≠ hashOffset + slot * hashEntrySize) →
        hashAt address = mapping.hashAt address) ∧
      match hashAddressing.insertAll (mapping.hashTable hashOffset) (keys.map encodeHash) with
      | some table =>
          result = .ok () ∧ ∀ slot, hashAt (hashOffset + slot * hashEntrySize) = table slot
      | none => ∃ message, result = .error (.overflow message) := by
  induction keys generalizing hashCount mapping with
  | nil =>
      exact ⟨.ok (), mapping.hashAt, rfl, fun _ _ => rfl, rfl, fun _ => rfl⟩
  | cons key rest ih =>
      have home : (fnv1a64 key.path).toNat % hashSlotCount.toNat < hashSlotCount.toNat :=
        Nat.mod_lt _ hashSlotCount_pos
      have one := run_insertHashEntry inside key hashSlotCount.toNat home mapping
      -- The library's probe starts at the home slot of the encoded key.
      have sameProbe : probe hashAddressing.slots hashAddressing.vacant
          (mapping.hashTable hashOffset) hashAddressing.slots
            (hashAddressing.home (encodeHash key)) =
          probe hashSlotCount.toNat (fun entry : HashEntry => entry.hash == 0)
            (mapping.hashTable hashOffset) hashSlotCount.toNat
            ((fnv1a64 key.path).toNat % hashSlotCount.toNat) := rfl
      simp only [insertHashEntries, run_bind, one, List.map_cons, Addressing.insertAll,
        Addressing.insert, sameProbe]
      cases found : probe hashSlotCount.toNat (fun entry : HashEntry => entry.hash == 0)
          (mapping.hashTable hashOffset) hashSlotCount.toNat
          ((fnv1a64 key.path).toNat % hashSlotCount.toNat) with
      | none =>
          exact ⟨_, mapping.hashAt, rfl, fun _ _ => rfl, _, rfl⟩
      | some slot =>
          obtain ⟨result, hashAt, ran, frame, outcome⟩ := ih (hashCount + 1)
            (mapping.setHash (hashOffset + slot * hashEntrySize) (encodeHash key))
          have slotBound : slot < hashSlotCount.toNat := by
            rcases probe_eq_some home found with ⟨offset, -, place, -⟩
            rw [place]
            exact Nat.mod_lt _ hashSlotCount_pos
          refine ⟨result, hashAt, ran, fun address outside => ?_, ?_⟩
          · rw [frame address outside]
            exact Function.update_of_ne (outside slot slotBound) _ _
          · rw [hashTable_setHash] at outcome
            exact outcome

/-! ## `build_in_buffer` -/

theorem length_keptPrefixes_le (entries : List CacheKey) :
    (keptPrefixes entries).length ≤ maxPrefixEntries := by
  rw [keptPrefixes, List.length_take]
  exact Nat.min_le_left _ _

/-- The prefix memory after the directory entries have been written. -/
def prefixesWritten (prefixAt : Nat → PrefixEntry) (entries : List CacheKey) : Nat → PrefixEntry :=
  writeAll prefixTableStart.toNat prefixEntrySize prefixAt 0
    ((keptPrefixes entries).map encodePrefix)

/-- The hash memory after the table of a buffer has been zeroed. -/
def hashesCleared (buffer : UInt8) (hashAt : Nat → HashEntry) : Nat → HashEntry :=
  writeAll (hashTableStart buffer) hashEntrySize hashAt 0
    (List.replicate hashSlotCount.toNat HashEntry.zero)

theorem hashesCleared_slot (buffer : UInt8) (hashAt : Nat → HashEntry) {slot : Nat}
    (bound : slot < hashSlotCount.toNat) :
    hashesCleared buffer hashAt (hashTableStart buffer + slot * hashEntrySize) =
      HashEntry.zero := by
  unfold hashesCleared
  exact writeAll_replicate (by decide) HashEntry.zero bound

theorem hashesCleared_outside (buffer : UInt8) (hashAt : Nat → HashEntry) {address : Nat}
    (outside : ∀ slot < hashSlotCount.toNat,
      address ≠ hashTableStart buffer + slot * hashEntrySize) :
    hashesCleared buffer hashAt address = hashAt address := by
  unfold hashesCleared
  refine writeAll_outside fun slot _ bound => outside slot ?_
  rwa [List.length_replicate, Nat.zero_add] at bound

/-- The mapping when the loop over the per-file entries starts. -/
def beforeInsert (mapping : Mapping) (buffer : UInt8) (entries : List CacheKey) : Mapping :=
  { mapping with
    header := { mapping.header with prefixCount := UInt64.ofNat (keptPrefixes entries).length }
    prefixAt := prefixesWritten mapping.prefixAt entries
    hashAt := hashesCleared buffer mapping.hashAt }

/-- What `build_in_buffer` does after that loop. -/
def finishBuild (mode : EnforcementMode) :
    Except CacheError Unit × Mapping → Except CacheError Unit × Mapping
  | (.error error, mapping) => (.error error, mapping)
  | (.ok (), mapping) =>
      (.ok (), { mapping with
        header := { mapping.header with
          reserved := mapping.header.reserved.set 0 (modeToU8 mode) modeByte_lt } })

/-- The last steps of `build_in_buffer`. -/
private def finishProgram (mode : EnforcementMode) :
    Except CacheError Unit → StepProgram Mapping (Except CacheError Unit)
  | .error error => pure (.error error)
  | .ok () => do
      store fun mapping =>
        { mapping with
          header := { mapping.header with
            reserved := mapping.header.reserved.set 0 (modeToU8 mode) modeByte_lt } }
      pure (.ok ())

private theorem run_finishProgram (mode : EnforcementMode)
    (inserted : Except CacheError Unit × Mapping) :
    (finishProgram mode inserted.1).run inserted.2 = finishBuild mode inserted := by
  rcases inserted with ⟨error | value, after⟩ <;> rfl

private theorem run_clearBuffer_bind {α : Type} (buffer : UInt8) (mapping : Mapping)
    (rest : Unit → StepProgram Mapping α) :
    (clearHashTable (hashTableStart buffer) hashSlotCount.toNat 0 >>= rest).run mapping =
      (rest ()).run { mapping with hashAt := hashesCleared buffer mapping.hashAt } := by
  rw [run_bind, run_clearHashTable, ← hashesCleared]

private theorem run_writeKept_bind {α : Type} (entries : List CacheKey) (mapping : Mapping)
    (rest : Except CacheError Unit → StepProgram Mapping α) :
    (writePrefixEntries prefixTableStart.toNat 0 (keptPrefixes entries) >>= rest).run mapping =
      (rest (.ok ())).run
        { mapping with prefixAt := prefixesWritten mapping.prefixAt entries } := by
  have capacity : prefixTableStart.toNat + maxPrefixEntries * prefixEntrySize ≤
      cacheTotalSize.toNat := by decide
  have kept := Nat.mul_le_mul_right prefixEntrySize (length_keptPrefixes_le entries)
  rw [run_bind, run_writePrefixEntries, ← prefixesWritten]
  rw [Nat.zero_add]
  exact (Nat.add_le_add_left kept _).trans capacity

theorem run_buildInBuffer {mapping : Mapping} (layout : HasLayout mapping.header)
    (mode : EnforcementMode) (buffer : UInt8) (entries : List CacheKey) :
    (buildInBuffer mode buffer entries).run mapping =
      finishBuild mode ((insertHashEntries (hashTableStart buffer) hashSlotCount.toNat 0
        (hashEntries entries)).run (beforeInsert mapping buffer entries)) := by
  have fits : ¬ (mapping.header.hashTableOffset buffer).toNat +
      (mapping.header.hashSlots * UInt64.ofNat hashEntrySize).toNat > cacheTotalSize.toNat := by
    rw [layout.hashTableOffset, layout.hashSlots, hashSlotCount_mul_size]
    exact Nat.not_lt.mpr (hashTable_inside buffer)
  rw [buildInBuffer, run_load_bind, run_load_bind]
  dsimp only
  rw [if_neg fits, layout.hashTableOffset, layout.hashSlots, run_clearBuffer_bind, run_load_bind,
    layout.prefixTableOffset, run_writeKept_bind, run_store_bind, run_bind]
  exact run_finishProgram mode _

/-- What a build leaves in the hash memory: the table of the buffer is filled
from an empty one, and nothing else is touched. -/
structure HashesBuilt (buffer : UInt8) (entries : List CacheKey)
    (before after : Nat → HashEntry) (final : Option (Nat → HashEntry)) : Prop where
  /-- `final` is the outcome of inserting the per-file entries into a table
  that starts out empty. -/
  inserted : ∃ cleared : Nat → HashEntry,
    (∀ slot < hashSlotCount.toNat, cleared slot = HashEntry.zero) ∧
      hashAddressing.insertAll cleared ((hashEntries entries).map encodeHash) = final
  stored : ∀ table, final = some table →
    ∀ slot, after (hashTableStart buffer + slot * hashEntrySize) = table slot
  frame : ∀ address,
    (∀ slot < hashSlotCount.toNat, address ≠ hashTableStart buffer + slot * hashEntrySize) →
      after address = before address

/-- The two ways a build ends. -/
theorem build_cases {mapping : Mapping} (layout : HasLayout mapping.header)
    (mode : EnforcementMode) (buffer : UInt8) (entries : List CacheKey) :
    (∃ hashAt table, HashesBuilt buffer entries mapping.hashAt hashAt (some table) ∧
      (buildInBuffer mode buffer entries).run mapping =
        (.ok (), { mapping with
          header := { mapping.header with
            prefixCount := UInt64.ofNat (keptPrefixes entries).length
            reserved := mapping.header.reserved.set 0 (modeToU8 mode) modeByte_lt }
          prefixAt := prefixesWritten mapping.prefixAt entries
          hashAt := hashAt })) ∨
    (∃ hashAt message, HashesBuilt buffer entries mapping.hashAt hashAt none ∧
      (buildInBuffer mode buffer entries).run mapping =
        (.error (.overflow message), { mapping with
          header := { mapping.header with
            prefixCount := UInt64.ofNat (keptPrefixes entries).length }
          prefixAt := prefixesWritten mapping.prefixAt entries
          hashAt := hashAt })) := by
  obtain ⟨result, hashAt, ran, frame, outcome⟩ := run_insertHashEntries
    (hashTable_inside buffer) 0 (hashEntries entries) (beforeInsert mapping buffer entries)
  have clearedSlots : ∀ slot < hashSlotCount.toNat,
      (beforeInsert mapping buffer entries).hashTable (hashTableStart buffer) slot =
        HashEntry.zero := by
    intro slot bound
    rw [Mapping.hashTable_apply]
    exact hashesCleared_slot buffer mapping.hashAt bound
  have framed : ∀ address,
      (∀ slot < hashSlotCount.toNat, address ≠ hashTableStart buffer + slot * hashEntrySize) →
        hashAt address = mapping.hashAt address := by
    intro address outside
    rw [frame address outside]
    exact hashesCleared_outside buffer mapping.hashAt outside
  rw [run_buildInBuffer layout, ran]
  cases final : hashAddressing.insertAll
      ((beforeInsert mapping buffer entries).hashTable (hashTableStart buffer))
      ((hashEntries entries).map encodeHash) with
  | some table =>
      left
      rw [final] at outcome
      rcases outcome with ⟨rfl, stored⟩
      refine ⟨hashAt, table, ⟨⟨_, clearedSlots, final⟩, ?_, framed⟩, rfl⟩
      intro other same slot
      obtain rfl : table = other := Option.some.inj same
      exact stored slot
  | none =>
      right
      rw [final] at outcome
      rcases outcome with ⟨message, rfl⟩
      exact ⟨hashAt, message, ⟨⟨_, clearedSlots, final⟩, by simp, framed⟩, rfl⟩

/-! ## `rebuild` -/

/-- The version word that a successful rebuild publishes. -/
def nextWord (versionWord : UInt64) : UInt64 :=
  ((versionWord >>> 1) + 1) <<< 1 ||| (1 - bufferOf versionWord).toUInt64

/-- The mapping once a rebuild has stored its odd word. -/
def announced (mapping : Mapping) : Mapping :=
  { mapping with
    versionWord := ((mapping.versionWord >>> 1) + 1) <<< 1 |||
      (1 - bufferOf mapping.versionWord).toUInt64 ||| 1 }

/-- The header that a successful rebuild leaves, before its checksum is set. -/
def rebuiltHeader (header : CacheHeader) (mode : EnforcementMode) (nowSecs : UInt64)
    (entries : List CacheKey) : CacheHeader :=
  { header with
    prefixCount := UInt64.ofNat (keptPrefixes entries).length
    reserved := header.reserved.set 0 (modeToU8 mode) modeByte_lt
    createdAtEpochSecs := nowSecs }

/-- The two ways a rebuild ends.  A failed one puts the old version word back
over a prefix table that it has already replaced. -/
theorem rebuild_cases {mapping : Mapping} (layout : HasLayout mapping.header)
    (mode : EnforcementMode) (nowSecs : UInt64) (entries : List CacheKey) :
    (∃ hashAt table,
      HashesBuilt (1 - bufferOf mapping.versionWord) entries mapping.hashAt hashAt (some table) ∧
      (rebuild mode nowSecs entries).run mapping =
        (.ok ((mapping.versionWord >>> 1) + 1), { mapping with
          versionWord := nextWord mapping.versionWord
          header := { rebuiltHeader mapping.header mode nowSecs entries with
            checksum := checksumOf (rebuiltHeader mapping.header mode nowSecs entries) }
          prefixAt := prefixesWritten mapping.prefixAt entries
          hashAt := hashAt })) ∨
    (∃ hashAt message,
      HashesBuilt (1 - bufferOf mapping.versionWord) entries mapping.hashAt hashAt none ∧
      (rebuild mode nowSecs entries).run mapping =
        (.error (.overflow message), { mapping with
          header := { mapping.header with
            prefixCount := UInt64.ofNat (keptPrefixes entries).length }
          prefixAt := prefixesWritten mapping.prefixAt entries
          hashAt := hashAt })) := by
  have announcedLayout : HasLayout (announced mapping).header := layout
  rcases build_cases announcedLayout mode (1 - bufferOf mapping.versionWord) entries with
    ⟨hashAt, table, built, ran⟩ | ⟨hashAt, message, built, ran⟩
  · left
    refine ⟨hashAt, table, built, ?_⟩
    rw [rebuild, run_load_bind]
    dsimp only
    rw [run_store_bind, run_bind, ← announced, ran]
    rfl
  · right
    refine ⟨hashAt, message, built, ?_⟩
    rw [rebuild, run_load_bind]
    dsimp only
    rw [run_store_bind, run_bind, ← announced, ran]
    rfl

end DlpSystem.Agent
