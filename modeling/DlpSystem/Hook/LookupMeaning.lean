import DlpSystem.Hook.CacheReader

/-!
# What a lookup returns

The reader's programs run alone: their results as functions of the mapping, and
the part of the mapping that a lookup looks at once it has its version word.
-/

namespace DlpSystem.Hook

open Common Lib StepProgram

/-! ## Version word -/

/-- An even version word is handed on. -/
theorem run_acquireVersion_of_even {mapping : Mapping} (even : mapping.versionWord &&& 1 = 0) :
    acquireVersion.run mapping = (some mapping.versionWord, mapping) := by
  simp [acquireVersion, even]

/-- An odd version word that stays is taken for a writer in progress. -/
theorem run_acquireVersion_of_odd {mapping : Mapping} (odd : mapping.versionWord &&& 1 = 1) :
    acquireVersion.run mapping = (none, mapping) := by
  simp [acquireVersion, odd]

/-! ## Validation -/

theorem run_computeChecksum (mapping : Mapping) :
    computeChecksum.run mapping = (checksumOf mapping.header, mapping) :=
  rfl

/-- The tables of `init_header` begin within the mapping. -/
theorem tables_inside {header : CacheHeader} (layout : HasLayout header) :
    ¬ header.prefixTableOffset ≥ cacheTotalSize ∧ ¬ header.hashTableOffset0 ≥ cacheTotalSize ∧
      ¬ header.hashTableOffset1 ≥ cacheTotalSize := by
  rw [layout.prefixTableOffset, layout.hashTableOffset0, layout.hashTableOffset1]
  decide

/-- A header with the layout of `init_header` is valid as soon as its checksum is. -/
theorem run_fullValidation {mapping : Mapping} (layout : HasLayout mapping.header) :
    fullValidation.run mapping =
      (mapping.header.checksum == checksumOf mapping.header, mapping) := by
  obtain ⟨prefixInside, hash0Inside, hash1Inside⟩ := tables_inside layout
  simp only [fullValidation, run_load_bind, layout.magic, layout.layoutVersion,
    layout.headerSize, layout.totalSize, ne_eq, not_true_eq_false, if_false,
    if_neg prefixInside, if_neg hash0Inside, if_neg hash1Inside]
  rw [run_bind, run_computeChecksum]
  rfl

/-- With a valid checksum the version check accepts, whatever the thread has
validated before. -/
theorem run_validateVersion {mapping : Mapping} (layout : HasLayout mapping.header)
    (valid : mapping.header.checksum = checksumOf mapping.header) (version lastValidated : UInt64) :
    (validateVersion version lastValidated).run mapping = ((true, version), mapping) := by
  unfold validateVersion
  split
  · simp [run_fullValidation layout, valid]
  · rename_i same
    have equal : version = lastValidated := by simpa using same
    simp [layout.magic, equal]

/-! ## The prefix table -/

/-- The scan of `prefix_lookup` over the entries of the table. -/
def scanEntries (path : Str) (age : Nat) : List PrefixEntry → Option Classification
  | [] => none
  | entry :: rest =>
      if entry.prefixLen = 0 then scanEntries path age rest
      else if entry.prefixLen > 260 then none
      else if entryMatches path entry then
        if age ≥ entry.ttlSecs.toNat then scanEntries path age rest
        else u8ToClassification entry.tier
      else scanEntries path age rest

/-- The first `count` entries of a table, from `index` on. -/
def entriesFrom {α : Type} (table : Nat → α) (count index : Nat) : List α :=
  (List.range' index count).map table

theorem run_scanPrefixes (path : Str) (age tableOffset remaining index : Nat)
    (mapping : Mapping) :
    (scanPrefixes path age tableOffset remaining index).run mapping =
      (scanEntries path age
        (entriesFrom (mapping.prefixTable tableOffset) remaining index), mapping) := by
  induction remaining generalizing index with
  | zero => rfl
  | succ remaining ih =>
      simp only [scanPrefixes, run_load_bind, run_ite, entriesFrom, List.range'_succ,
        List.map_cons, scanEntries]
      split_ifs
      · exact ih (index + 1)
      · rfl
      · exact ih (index + 1)
      · rfl
      · exact ih (index + 1)

/-- With the layout of `init_header` and a count within capacity, `prefix_lookup`
is the scan of the whole table. -/
theorem run_prefixLookup {mapping : Mapping} (layout : HasLayout mapping.header)
    (capacity : mapping.header.prefixCount.toNat ≤ maxPrefixEntries)
    (target : Target) (path : Str) (nowSecs : UInt64) :
    (prefixLookup target path nowSecs).run mapping =
      (scanEntries path (ageAt nowSecs mapping.header.createdAtEpochSecs)
        (entriesFrom (mapping.prefixTable prefixTableStart.toNat)
          mapping.header.prefixCount.toNat 0), mapping) := by
  have countValue : target.asUsize mapping.header.prefixCount.toNat =
      mapping.header.prefixCount.toNat := by
    have small : maxPrefixEntries < 2 ^ target.usizeBits := by cases target <;> decide
    exact Nat.mod_eq_of_lt (by omega)
  have offsetValue : target.asUsize mapping.header.prefixTableOffset.toNat =
      prefixTableStart.toNat := by
    rw [layout.prefixTableOffset]
    cases target <;> decide
  have scaled := Nat.mul_le_mul_right prefixEntrySize capacity
  have sizeValue : target.asUsize (mapping.header.prefixCount.toNat * prefixEntrySize) =
      mapping.header.prefixCount.toNat * prefixEntrySize := by
    have small : maxPrefixEntries * prefixEntrySize < 2 ^ target.usizeBits := by
      cases target <;> decide
    exact Nat.mod_eq_of_lt (by omega)
  have fits : ¬ prefixTableStart.toNat + mapping.header.prefixCount.toNat * prefixEntrySize >
      cacheTotalSize.toNat := by
    have bytes : prefixTableStart.toNat + maxPrefixEntries * prefixEntrySize ≤
        cacheTotalSize.toNat := by decide
    omega
  simp only [prefixLookup, run_load_bind, run_ite, countValue, offsetValue, sizeValue,
    if_neg fits, run_scanPrefixes]
  split_ifs with empty
  · rw [empty]
    rfl
  · rfl

/-! ## The hash table -/

/-- What `hash_lookup` makes of the slot at which its probe stopped. -/
def readSlot (age : Nat) (entry : HashEntry) : Option Classification :=
  if entry.hash = 0 then none
  else if age ≥ entry.ttlSecs.toNat then none
  else u8ToClassification entry.tier

theorem run_probeHash (hash : UInt64) (age tableOffset hashSlots fuel idx : Nat)
    (mapping : Mapping) :
    (probeHash hash age tableOffset hashSlots fuel idx).run mapping =
      ((probe hashSlots (fun entry : HashEntry => entry.hash == 0 || entry.hash == hash)
        (mapping.hashTable tableOffset) fuel idx).bind fun slot =>
          readSlot age (mapping.hashTable tableOffset slot), mapping) := by
  induction fuel generalizing idx with
  | zero => rfl
  | succ fuel ih =>
      simp only [probeHash, run_load_bind, run_ite, probe, Bool.or_eq_true, beq_iff_eq]
      by_cases vacant : (mapping.hashTable tableOffset idx).hash = 0
      · simp [vacant, readSlot]
      · by_cases hit : (mapping.hashTable tableOffset idx).hash = hash
        · subst hit
          simp only [vacant, if_false, if_true, or_true, Option.bind_some, readSlot]
          split_ifs <;> rfl
        · simp only [vacant, hit, if_false, or_self]
          exact ih ((idx + 1) % hashSlots)

/-- The slot at which the reader's probe for a hash starts. -/
def readerHome (target : Target) (hash : UInt64) : Nat :=
  target.asUsize hash.toNat % hashSlotCount.toNat

/-- With the layout of `init_header`, `hash_lookup` is a probe of the buffer's
table. -/
theorem run_hashLookup {mapping : Mapping} (layout : HasLayout mapping.header)
    (target : Target) (buffer : UInt8) (path : Str) (nowSecs : UInt64) :
    (hashLookup target buffer path nowSecs).run mapping =
      ((probe hashSlotCount.toNat
        (fun entry : HashEntry => entry.hash == 0 || entry.hash == fnv1a64 path)
        (mapping.hashTable (hashTableStart buffer)) hashSlotCount.toNat
        (readerHome target (fnv1a64 path))).bind fun slot =>
          readSlot (ageAt nowSecs mapping.header.createdAtEpochSecs)
            (mapping.hashTable (hashTableStart buffer) slot), mapping) := by
  have slotsValue : target.asUsize hashSlotCount.toNat = hashSlotCount.toNat := by
    rw [hashSlotCount_toNat]
    cases target <;> decide
  have offsetValue : target.asUsize (hashTableStart buffer) = hashTableStart buffer := by
    unfold hashTableStart
    cases target <;> split <;> decide
  have sizeValue : target.asUsize (hashSlotCount.toNat * hashEntrySize) =
      hashSlotCount.toNat * hashEntrySize := by
    rw [hashSlotCount_toNat]
    cases target <;> decide
  have someSlots : ¬ hashSlotCount.toNat = 0 := hashSlotCount_pos.ne'
  have fits : ¬ hashTableStart buffer + hashSlotCount.toNat * hashEntrySize >
      cacheTotalSize.toNat := Nat.not_lt.mpr (hashTable_inside buffer)
  simp only [hashLookup, run_load_bind, layout.hashSlots, slotsValue, if_neg someSlots,
    layout.hashTableOffset, offsetValue, sizeValue, if_neg fits, run_probeHash, readerHome]

/-! ## What a lookup looks at -/

/-- Two mappings that agree on all a lookup in `buffer` reads after the version
word: the other header fields, the prefix table and the buffer's hash table. -/
structure SameView (buffer : UInt8) (left right : Mapping) : Prop where
  header : right.header = left.header
  prefixes : right.prefixAt = left.prefixAt
  hashes : ∀ slot < hashSlotCount.toNat,
    right.hashTable (hashTableStart buffer) slot = left.hashTable (hashTableStart buffer) slot

theorem SameView.refl (buffer : UInt8) (mapping : Mapping) : SameView buffer mapping mapping :=
  ⟨rfl, rfl, fun _ _ => rfl⟩

theorem SameView.trans {buffer : UInt8} {first second third : Mapping}
    (left : SameView buffer first second) (right : SameView buffer second third) :
    SameView buffer first third :=
  ⟨right.header.trans left.header, right.prefixes.trans left.prefixes,
    fun slot bound => (right.hashes slot bound).trans (left.hashes slot bound)⟩

section Sees

variable {buffer : UInt8} {mapping : Mapping}

private theorem header_agrees {α : Type} (field : CacheHeader → α) :
    ∀ other, SameView buffer mapping other → field other.header = field mapping.header :=
  fun _ view => congrArg field view.header

theorem sees_fullValidation (layout : HasLayout mapping.header) :
    Sees (SameView buffer) fullValidation mapping := by
  obtain ⟨prefixInside, hash0Inside, hash1Inside⟩ := tables_inside layout
  unfold fullValidation computeChecksum
  apply sees_load_bind (header_agrees (·.magic))
  rw [if_neg (not_not.mpr layout.magic)]
  apply sees_load_bind (header_agrees (·.layoutVersion))
  rw [if_neg (not_not.mpr layout.layoutVersion)]
  apply sees_load_bind (header_agrees (·.headerSize))
  rw [if_neg (not_not.mpr layout.headerSize)]
  apply sees_load_bind (header_agrees (·.totalSize))
  rw [if_neg (not_not.mpr layout.totalSize)]
  apply sees_load_bind (header_agrees (·.prefixTableOffset))
  rw [if_neg prefixInside]
  apply sees_load_bind (header_agrees (·.hashTableOffset0))
  rw [if_neg hash0Inside]
  apply sees_load_bind (header_agrees (·.hashTableOffset1))
  rw [if_neg hash1Inside]
  apply sees_load_bind (header_agrees (·.magic))
  apply sees_load_bind (header_agrees (·.layoutVersion))
  apply sees_load_bind (header_agrees (·.headerSize))
  apply sees_load_bind (header_agrees (·.totalSize))
  apply sees_load_bind (header_agrees (·.prefixTableOffset))
  apply sees_load_bind (header_agrees (·.prefixCount))
  apply sees_load_bind (header_agrees (·.hashTableOffset0))
  apply sees_load_bind (header_agrees (·.hashTableOffset1))
  apply sees_load_bind (header_agrees (·.hashSlots))
  apply sees_load_bind (header_agrees (·.createdAtEpochSecs))
  apply sees_load_bind (header_agrees (·.allowlistOffset))
  apply sees_load_bind (header_agrees (·.allowlistCount))
  apply sees_load_bind (header_agrees (·.reserved))
  exact sees_load_bind (header_agrees (·.checksum)) trivial

theorem sees_scanPrefixes (path : Str) (age tableOffset remaining index : Nat) :
    Sees (SameView buffer) (scanPrefixes path age tableOffset remaining index) mapping := by
  induction remaining generalizing index with
  | zero => trivial
  | succ remaining ih =>
      refine sees_load_bind (fun other view => ?_) ?_
      · simp only [Mapping.prefixTable, view.prefixes]
      · split_ifs
        · exact ih (index + 1)
        · trivial
        · exact ih (index + 1)
        · trivial
        · exact ih (index + 1)

theorem sees_prefixLookup (target : Target) (path : Str) (nowSecs : UInt64) :
    Sees (SameView buffer) (prefixLookup target path nowSecs) mapping := by
  apply sees_load_bind (header_agrees (·.prefixCount))
  dsimp only
  split
  · trivial
  · apply sees_load_bind (header_agrees (·.prefixTableOffset))
    split
    · trivial
    · apply sees_load_bind (header_agrees (·.createdAtEpochSecs))
      exact sees_scanPrefixes ..

theorem sees_probeHash (hash : UInt64) (age fuel : Nat) {idx : Nat}
    (bound : idx < hashSlotCount.toNat) :
    Sees (SameView buffer)
      (probeHash hash age (hashTableStart buffer) hashSlotCount.toNat fuel idx) mapping := by
  induction fuel generalizing idx with
  | zero => trivial
  | succ fuel ih =>
      apply sees_load_bind (fun other view => view.hashes idx bound)
      split_ifs
      · trivial
      · trivial
      · trivial
      · exact ih (Nat.mod_lt _ hashSlotCount_pos)

theorem sees_hashLookup (layout : HasLayout mapping.header) (target : Target) (path : Str)
    (nowSecs : UInt64) :
    Sees (SameView buffer) (hashLookup target buffer path nowSecs) mapping := by
  have slotsValue : target.asUsize mapping.header.hashSlots.toNat = hashSlotCount.toNat := by
    rw [layout.hashSlots, hashSlotCount_toNat]
    cases target <;> decide
  have offsetValue : target.asUsize (mapping.header.hashTableOffset buffer).toNat =
      hashTableStart buffer := by
    rw [layout.hashTableOffset]
    unfold hashTableStart
    cases target <;> split <;> decide
  apply sees_load_bind (header_agrees (·.hashSlots))
  dsimp only
  rw [slotsValue]
  split
  · trivial
  · apply sees_load_bind (header_agrees (·.hashTableOffset buffer))
    rw [offsetValue]
    split
    · trivial
    · apply sees_load_bind (header_agrees (·.createdAtEpochSecs))
      exact sees_probeHash _ _ _ (Nat.mod_lt _ hashSlotCount_pos)

theorem sees_searchTables (layout : HasLayout mapping.header) (target : Target) (path : Str)
    (nowSecs : UInt64) :
    Sees (SameView buffer) (searchTables target buffer path nowSecs) mapping := by
  apply sees_bind (SameView.refl buffer mapping) (sees_prefixLookup ..)
  split
  · trivial
  · exact sees_hashLookup layout ..

theorem sees_validateVersion (layout : HasLayout mapping.header)
    (version lastValidated : UInt64) :
    Sees (SameView buffer) (validateVersion version lastValidated) mapping := by
  unfold validateVersion
  split
  · exact sees_bind (SameView.refl buffer mapping) (sees_fullValidation layout) trivial
  · exact sees_load_bind (header_agrees (·.magic)) trivial

/-- Past its version word, a lookup reads nothing but its view. -/
theorem sees_lookupAt (layout : HasLayout mapping.header) (target : Target) (path : Str)
    (nowSecs lastValidated versionWord : UInt64) :
    Sees (SameView (bufferOf versionWord))
      (lookupAt target path nowSecs lastValidated versionWord) mapping := by
  apply sees_bind (SameView.refl _ mapping) (sees_validateVersion layout ..)
  dsimp only
  split_ifs
  · trivial
  · split
    · trivial
    · exact sees_bind (SameView.refl _ mapping) (sees_searchTables layout ..) trivial

end Sees

end DlpSystem.Hook
