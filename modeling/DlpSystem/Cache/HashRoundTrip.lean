import DlpSystem.Cache.Agreement

/-!
# Per-file entries through the shared hash table

The writer stores a per-file entry under the hash of the path as it was given;
the reader asks with the hash of the normalised path, and, in the 32-bit DLL,
starts its probe at a slot computed from the low half of the hash.  The file
determines which entries make the trip.
-/

namespace DlpSystem.Cache

open Common Lib StepProgram Agent Hook

/-- The table that a successful build leaves in a buffer. -/
structure Filled (buffer : UInt8) (keys : List CacheKey) (mapping : Mapping) : Prop where
  layout : HasLayout mapping.header
  probed : hashAddressing.Probed (mapping.hashTable (hashTableStart buffer))
  stored : ∀ key ∈ keys, ∃ slot < hashSlotCount.toNat,
    mapping.hashTable (hashTableStart buffer) slot = encodeHash key
  origin : ∀ slot < hashSlotCount.toNat,
    (mapping.hashTable (hashTableStart buffer) slot).hash ≠ 0 →
      ∃ key ∈ keys, mapping.hashTable (hashTableStart buffer) slot = encodeHash key

private theorem vacant_eq_false_iff {entry : HashEntry} :
    hashAddressing.vacant entry = false ↔ entry.hash ≠ 0 := by
  simp [hashAddressing]

/-- Inserting keys with non-zero hashes into an empty table stores them all, and
nothing else. -/
theorem filled_of_built {buffer : UInt8} {entries : List CacheKey}
    {before after table : Nat → HashEntry}
    (built : HashesBuilt buffer entries before after (some table)) {mapping : Mapping}
    (layout : HasLayout mapping.header) (memory : mapping.hashAt = after)
    (nonzero : ∀ key ∈ hashEntries entries, fnv1a64 key.path ≠ 0) :
    Filled buffer (hashEntries entries) mapping := by
  rcases built.inserted with ⟨cleared, empty, inserted⟩
  have contents : mapping.hashTable (hashTableStart buffer) = table := by
    funext slot
    rw [Mapping.hashTable_apply, memory, built.stored table rfl slot]
  have present : ∀ entry ∈ (hashEntries entries).map encodeHash,
      hashAddressing.vacant entry = false := by
    intro entry entry_mem
    rcases List.mem_map.mp entry_mem with ⟨key, key_mem, rfl⟩
    exact vacant_eq_false_iff.mpr (nonzero key key_mem)
  have vacantBefore : ∀ slot < hashSlotCount.toNat,
      hashAddressing.vacant (cleared slot) = true := by
    intro slot bound
    rw [empty slot bound]
    rfl
  have probedBefore : hashAddressing.Probed cleared := by
    intro slot bound used
    rw [vacantBefore slot bound] at used
    cases used
  refine ⟨layout, ?_, fun key key_mem => ?_, fun slot bound used => ?_⟩
  · rw [contents]
    exact probedBefore.insertAll inserted
  · obtain ⟨slot, bound, holds⟩ := Addressing.insertAll_stores present inserted
      (encodeHash key) (List.mem_map_of_mem key_mem)
    exact ⟨slot, bound, by rw [contents, holds]⟩
  · rw [contents] at used ⊢
    rcases Addressing.insertAll_origin inserted (vacant_eq_false_iff.mpr used) with
      usedBefore | listed
    · rw [vacantBefore slot bound] at usedBefore
      cases usedBefore
    · rcases List.mem_map.mp listed with ⟨key, key_mem, holds⟩
      exact ⟨key, key_mem, holds.symm⟩

/-! ## Lookups in a filled table -/

section Filled

variable {buffer : UInt8} {keys : List CacheKey} {mapping : Mapping}

private theorem readerHome_lt (target : Target) (hash : UInt64) :
    readerHome target hash < hashSlotCount.toNat :=
  Nat.mod_lt _ hashSlotCount_pos

theorem readSlot_eq_some {age : Nat} {key : CacheKey} {tier : Classification} :
    readSlot age (encodeHash key) = some tier ↔
      fnv1a64 key.path ≠ 0 ∧ age < min key.ttl.toNat 65535 ∧ key.tier = tier := by
  have ttl : (encodeHash key).ttlSecs.toNat = min key.ttl.toNat 65535 := toNat_clampTtl key.ttl
  have decoded : u8ToClassification (encodeHash key).tier = some key.tier :=
    u8ToClassification_tierToU8 key.tier
  have hash : (encodeHash key).hash = fnv1a64 key.path := rfl
  rw [readSlot, ttl, decoded, hash]
  split_ifs with zero expired
  · simp [zero]
  · simp only [false_iff, not_and]
    intro _ live
    omega
  · simp only [Option.some.injEq, ne_eq, zero, not_false_eq_true, true_and]
    exact ⟨fun same => ⟨by omega, same⟩, And.right⟩

/-- A hit comes from a listed entry with the same hash whose stored TTL is live. -/
theorem Filled.of_hashLookup_eq_some (filled : Filled buffer keys mapping) {target : Target}
    {path : Str} {nowSecs : UInt64} {tier : Classification}
    (hit : ((hashLookup target buffer path nowSecs).run mapping).1 = some tier) :
    ∃ key ∈ keys, fnv1a64 key.path = fnv1a64 path ∧ key.tier = tier ∧
      ageAt nowSecs mapping.header.createdAtEpochSecs < min key.ttl.toNat 65535 := by
  rw [run_hashLookup filled.layout] at hit
  rcases Option.bind_eq_some_iff.mp hit with ⟨slot, found, read⟩
  rcases probe_eq_some (readerHome_lt _ _) found with ⟨offset, -, place, stops, -⟩
  have bound : slot < hashSlotCount.toNat := by
    rw [place]
    exact Nat.mod_lt _ hashSlotCount_pos
  have used : (mapping.hashTable (hashTableStart buffer) slot).hash ≠ 0 := by
    intro zero
    simp [readSlot, zero] at read
  rcases filled.origin slot bound used with ⟨key, key_mem, holds⟩
  rw [holds] at read stops
  rcases readSlot_eq_some.mp read with ⟨nonzero, live, sameTier⟩
  have sameHash : fnv1a64 key.path = fnv1a64 path := by
    simpa [encodeHash, nonzero] using stops
  exact ⟨key, key_mem, sameHash, sameTier, live⟩

/-- A listed entry with the hash of the path is found when the reader's probe
starts at the writer's slot and no other listed entry has that hash. -/
theorem Filled.hashLookup_eq_some (filled : Filled buffer keys mapping)
    (distinct : (keys.map fun key => fnv1a64 key.path).Nodup) {target : Target} {path : Str}
    (aligned : readerHome target (fnv1a64 path) = (fnv1a64 path).toNat % hashSlotCount.toNat)
    {nowSecs : UInt64} {key : CacheKey} (key_mem : key ∈ keys)
    (nonzero : fnv1a64 key.path ≠ 0) (sameHash : fnv1a64 key.path = fnv1a64 path)
    (live : ageAt nowSecs mapping.header.createdAtEpochSecs < min key.ttl.toNat 65535) :
    ((hashLookup target buffer path nowSecs).run mapping).1 = some key.tier := by
  rcases filled.stored key key_mem with ⟨slot, bound, holds⟩
  have used : hashAddressing.vacant (mapping.hashTable (hashTableStart buffer) slot) = false := by
    rw [holds]
    exact vacant_eq_false_iff.mpr nonzero
  have isHit : ((mapping.hashTable (hashTableStart buffer) slot).hash == fnv1a64 path) = true := by
    rw [holds]
    simpa [encodeHash] using sameHash
  have sameHome : ∀ entry : HashEntry, (entry.hash == fnv1a64 path) = true →
      hashAddressing.home entry = readerHome target (fnv1a64 path) := by
    intro entry hit
    have equal : entry.hash = fnv1a64 path := by simpa using hit
    rw [aligned, ← equal]
    rfl
  obtain ⟨found, foundBound, result, foundUsed, foundHit⟩ :=
    Addressing.probe_of_present filled.probed (readerHome_lt target (fnv1a64 path)) sameHome
      bound used isHit
  obtain ⟨other, other_mem, otherHolds⟩ := filled.origin found foundBound
    (vacant_eq_false_iff.mp foundUsed)
  -- Distinct hashes make the entry that was found the one that was asked for.
  have sameKey : other = key := by
    rw [otherHolds] at foundHit
    have equal : fnv1a64 other.path = fnv1a64 key.path := by
      rw [sameHash]
      simpa [encodeHash] using foundHit
    exact List.inj_on_of_nodup_map distinct other_mem key_mem equal
  rw [run_hashLookup filled.layout]
  refine Option.bind_eq_some_iff.mpr ⟨found, result, ?_⟩
  rw [otherHolds, sameKey]
  exact readSlot_eq_some.mpr ⟨nonzero, live, rfl⟩

/-- A hash that no listed entry has is not found. -/
theorem Filled.hashLookup_eq_none (filled : Filled buffer keys mapping) {path : Str}
    (foreign : ∀ key ∈ keys, fnv1a64 key.path ≠ fnv1a64 path) (target : Target)
    (nowSecs : UInt64) :
    ((hashLookup target buffer path nowSecs).run mapping).1 = none := by
  apply Option.eq_none_iff_forall_ne_some.mpr
  intro tier hit
  obtain ⟨key, key_mem, sameHash, -⟩ := filled.of_hashLookup_eq_some hit
  exact foreign key key_mem sameHash

end Filled

/-! ## Round trip -/

/-- The reader's side: in the buffer that was built, every listed
path whose TTL has not run out is found with its tier, and a string whose hash is
that of no listed path is not found.  The reader asks with the normalised path. -/
def RoundTrips (target : Target) (mapping : Mapping) (buffer : UInt8) (entries : List CacheKey)
    (nowSecs : UInt64) : Prop :=
  (∀ key ∈ entries, ∀ normalized, normalizePath key.path = some normalized →
    ageAt nowSecs mapping.header.createdAtEpochSecs < key.ttl.toNat →
      ((hashLookup target buffer normalized nowSecs).run mapping).1 = some key.tier) ∧
  ∀ path, (∀ key ∈ entries, fnv1a64 key.path ≠ fnv1a64 path) →
    ((hashLookup target buffer path nowSecs).run mapping).1 = none

/-- Every live listed path has, in its normalised spelling, the stored hash of a
listed entry of the same tier, whose TTL, clamped to 16 bits, is live. -/
def HashedAsNormalized (entries : List CacheKey) (age : Nat) : Prop :=
  ∀ key ∈ entries, ∀ normalized, normalizePath key.path = some normalized →
    age < key.ttl.toNat →
      ∃ stored ∈ entries, fnv1a64 stored.path = fnv1a64 normalized ∧ stored.tier = key.tier ∧
        age < min stored.ttl.toNat 65535

/-- The reader starts its probe for each listed path at the slot the writer
starts at.  This is a condition on the 32-bit DLL only. -/
def ProbesAligned (target : Target) (entries : List CacheKey) : Prop :=
  ∀ key ∈ entries, ∀ normalized, normalizePath key.path = some normalized →
    readerHome target (fnv1a64 normalized) = (fnv1a64 normalized).toNat % hashSlotCount.toNat

theorem probesAligned_x64 (entries : List CacheKey) : ProbesAligned .x64 entries := by
  intro key _ normalized _
  have whole : Target.x64.asUsize (fnv1a64 normalized).toNat = (fnv1a64 normalized).toNat :=
    Nat.mod_eq_of_lt (fnv1a64 normalized).toNat_lt
  rw [readerHome, whole]

/-- A build of per-file entries with non-zero hashes that fit succeeds, fills the
table of its buffer with them, and leaves the creation time alone. -/
theorem build_fills {mapping : Mapping} (layout : HasLayout mapping.header)
    (mode : EnforcementMode) (buffer : UInt8) {entries : List CacheKey}
    (files : ∀ key ∈ entries, key.isDirectory = false)
    (nonzero : ∀ key ∈ entries, fnv1a64 key.path ≠ 0)
    (fits : entries.length ≤ hashSlotCount.toNat) :
    ((buildInBuffer mode buffer entries).run mapping).1 = .ok () ∧
      Filled buffer entries ((buildInBuffer mode buffer entries).run mapping).2 ∧
      ((buildInBuffer mode buffer entries).run mapping).2.header.createdAtEpochSecs =
        mapping.header.createdAtEpochSecs := by
  have allFiles : hashEntries entries = entries :=
    List.filter_eq_self.mpr fun key key_mem => by simp [files key key_mem]
  rcases build_cases layout mode buffer entries with
    ⟨hashAt, table, built, ran⟩ | ⟨hashAt, message, built, ran⟩
  · have layoutAfter : HasLayout
        ((buildInBuffer mode buffer entries).run mapping).2.header := by
      rw [ran]
      exact layout_rebuilt layout _ _ _ _
    have filled := filled_of_built built layoutAfter (by rw [ran]) (by rwa [allFiles])
    rw [allFiles] at filled
    exact ⟨by rw [ran], filled, by rw [ran]⟩
  · rcases built.inserted with ⟨cleared, empty, inserted⟩
    rw [allFiles] at inserted
    have stored := (insertAll_cleared_isSome_iff empty nonzero).mpr fits
    rw [inserted] at stored
    cases stored

/-- Distinct non-zero hashes that fit are stored by the build, and they make the
trip to an aligned reader exactly when every live path is hashed as the reader
will ask for it. -/
theorem roundTrips_iff (target : Target) (mapping : Mapping) (layout : HasLayout mapping.header)
    (mode : EnforcementMode) (buffer : UInt8) (entries : List CacheKey)
    (files : ∀ key ∈ entries, key.isDirectory = false)
    (nonzero : ∀ key ∈ entries, fnv1a64 key.path ≠ 0)
    (distinct : (entries.map fun key => fnv1a64 key.path).Nodup)
    (fits : entries.length ≤ hashSlotCount.toNat)
    (aligned : ProbesAligned target entries) :
    ((buildInBuffer mode buffer entries).run mapping).1 = .ok () ∧
      ∀ nowSecs, RoundTrips target ((buildInBuffer mode buffer entries).run mapping).2 buffer
          entries nowSecs ↔
        HashedAsNormalized entries (ageAt nowSecs mapping.header.createdAtEpochSecs) := by
  rcases build_fills layout mode buffer files nonzero fits with ⟨ok, filled, created⟩
  refine ⟨ok, fun nowSecs => ?_⟩
  generalize ((buildInBuffer mode buffer entries).run mapping).2 = after at filled created ⊢
  rw [← created]
  constructor
  · rintro ⟨found, -⟩ key key_mem normalized accepted live
    exact filled.of_hashLookup_eq_some (found key key_mem normalized accepted live)
  · intro hashed
    refine ⟨fun key key_mem normalized accepted live => ?_, fun path foreign =>
      filled.hashLookup_eq_none foreign target nowSecs⟩
    obtain ⟨stored, stored_mem, sameHash, sameTier, storedLive⟩ :=
      hashed key key_mem normalized accepted live
    rw [← sameTier]
    exact filled.hashLookup_eq_some distinct (aligned key key_mem normalized accepted)
      stored_mem (nonzero stored stored_mem) sameHash storedLive

/-- A per-file entry in the spelling the reader asks for. -/
def canonicalKey : CacheKey :=
  ⟨ascii "C:\\DATA\\PLAN.TXT", .T4, 3600⟩

/-- The same file in lower case. -/
def lowerCaseKey : CacheKey :=
  ⟨ascii "C:\\data\\plan.txt", .T4, 3600⟩

theorem roundTrips_canonicalKey :
    RoundTrips .x64
      ((buildInBuffer .block 0 [canonicalKey]).run (initHeader .block Mapping.zero)).2 0
      [canonicalKey] 100 := by
  have iff := (roundTrips_iff .x64 (initHeader .block Mapping.zero)
    (layout_initHeader .block Mapping.zero) .block 0 [canonicalKey] (by decide) (by decide)
    (by decide) hashSlotCount_pos (probesAligned_x64 _)).2 100
  apply iff.mpr
  intro key key_mem normalized accepted live
  obtain rfl : key = canonicalKey := by simpa using key_mem
  have unchanged : normalizePath canonicalKey.path = some canonicalKey.path := by decide
  obtain rfl : canonicalKey.path = normalized := Option.some.inj (unchanged.symm.trans accepted)
  exact ⟨canonicalKey, List.mem_singleton_self _, rfl, rfl, by decide⟩

/-- The lower-case entry is stored, and the reader misses it. -/
theorem not_roundTrips_lowerCaseKey :
    normalizePath lowerCaseKey.path = some canonicalKey.path ∧
      ((buildInBuffer .block 0 [lowerCaseKey]).run (initHeader .block Mapping.zero)).1 = .ok () ∧
      ¬ RoundTrips .x64
        ((buildInBuffer .block 0 [lowerCaseKey]).run (initHeader .block Mapping.zero)).2 0
        [lowerCaseKey] 100 := by
  have accepted : normalizePath lowerCaseKey.path = some canonicalKey.path := by decide
  have files : ∀ key ∈ [lowerCaseKey], key.isDirectory = false := by decide
  have nonzero : ∀ key ∈ [lowerCaseKey], fnv1a64 key.path ≠ 0 := by decide
  obtain ⟨ok, filled, created⟩ := build_fills (layout_initHeader .block Mapping.zero) .block 0
    files nonzero hashSlotCount_pos
  refine ⟨accepted, ok, fun trips => ?_⟩
  have live : ageAt 100 ((buildInBuffer .block 0 [lowerCaseKey]).run
      (initHeader .block Mapping.zero)).2.header.createdAtEpochSecs < lowerCaseKey.ttl.toNat := by
    rw [created]
    decide
  have foreign : ∀ key ∈ [lowerCaseKey], fnv1a64 key.path ≠ fnv1a64 canonicalKey.path := by decide
  have found := trips.1 lowerCaseKey (List.mem_singleton_self _) canonicalKey.path accepted live
  rw [filled.hashLookup_eq_none foreign .x64 100] at found
  cases found

end DlpSystem.Cache
