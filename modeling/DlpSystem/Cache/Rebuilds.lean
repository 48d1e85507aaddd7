import DlpSystem.Agent.RebuildEffect

/-!
# Sequences of rebuilds

The life of the mapping from `init_header` on, as a list of rebuild calls.  Three
facts hold along every such run: the layout fields stay as they were laid down,
the low bit of the version word flips with every successful rebuild, and after a
successful rebuild the tables and the checksum are those of its entries.
-/

namespace DlpSystem.Cache

open Common Lib StepProgram Agent

/-- One call of `rebuild`, with the enforcement mode and the wall clock that the
call reads. -/
structure RebuildCall where
  mode : EnforcementMode
  nowSecs : UInt64
  entries : List CacheKey

namespace RebuildCall

/-- The program of a call. -/
def program (call : RebuildCall) : StepProgram Mapping (Except CacheError UInt64) :=
  rebuild call.mode call.nowSecs call.entries

/-- The call returns `Ok`. -/
def Succeeds (call : RebuildCall) (mapping : Mapping) : Prop :=
  ∃ version, (call.program.run mapping).1 = .ok version

/-- The call returns `Err`. -/
def Fails (call : RebuildCall) (mapping : Mapping) : Prop :=
  ∃ error, (call.program.run mapping).1 = .error error

/-- The mapping after the call. -/
def after (call : RebuildCall) (mapping : Mapping) : Mapping :=
  (call.program.run mapping).2

end RebuildCall

/-- The mapping after a sequence of calls. -/
def afterCalls (mapping : Mapping) (calls : List RebuildCall) : Mapping :=
  calls.foldl (fun current call => call.after current) mapping

/-- Every call of a sequence returns `Ok`. -/
def AllSucceed : Mapping → List RebuildCall → Prop
  | _, [] => True
  | mapping, call :: rest => call.Succeeds mapping ∧ AllSucceed (call.after mapping) rest

@[simp]
theorem afterCalls_nil (mapping : Mapping) : afterCalls mapping [] = mapping :=
  rfl

@[simp]
theorem afterCalls_cons (mapping : Mapping) (call : RebuildCall) (rest : List RebuildCall) :
    afterCalls mapping (call :: rest) = afterCalls (call.after mapping) rest :=
  rfl

theorem afterCalls_append (mapping : Mapping) (before rest : List RebuildCall) :
    afterCalls mapping (before ++ rest) = afterCalls (afterCalls mapping before) rest :=
  List.foldl_append

theorem allSucceed_append {mapping : Mapping} {before rest : List RebuildCall} :
    AllSucceed mapping (before ++ rest) ↔
      AllSucceed mapping before ∧ AllSucceed (afterCalls mapping before) rest := by
  induction before generalizing mapping with
  | nil => simp [AllSucceed]
  | cons call before ih => simp [AllSucceed, ih, and_assoc]

/-! ## One call -/

/-- The state in which a successful call leaves the mapping. -/
structure Published (call : RebuildCall) (mapping : Mapping) : Prop where
  layout : HasLayout mapping.header
  prefixCount : mapping.header.prefixCount = UInt64.ofNat (keptPrefixes call.entries).length
  createdAt : mapping.header.createdAtEpochSecs = call.nowSecs
  checksum : mapping.header.checksum = checksumOf mapping.header
  prefixes : ∀ index (inside : index < (keptPrefixes call.entries).length),
    mapping.prefixTable prefixTableStart.toNat index =
      encodePrefix (keptPrefixes call.entries)[index]

variable {call : RebuildCall} {mapping : Mapping}

theorem prefixesWritten_inside (prefixAt : Nat → PrefixEntry) (entries : List CacheKey)
    {index : Nat} (inside : index < (keptPrefixes entries).length) :
    prefixesWritten prefixAt entries (prefixTableStart.toNat + index * prefixEntrySize) =
      encodePrefix (keptPrefixes entries)[index] := by
  have listed : index < ((keptPrefixes entries).map encodePrefix).length := by simpa using inside
  rw [prefixesWritten, writeAll_get (by decide) listed, List.getElem_map]

/-- The fields that a rebuild writes are no layout fields. -/
theorem layout_rebuilt {header : CacheHeader} (layout : HasLayout header)
    (count created checksum : UInt64) (reserved : Vector UInt8 24) :
    HasLayout { header with
      prefixCount := count, createdAtEpochSecs := created, checksum := checksum,
      reserved := reserved } :=
  ⟨layout.magic, layout.layoutVersion, layout.headerSize, layout.totalSize,
    layout.prefixTableOffset, layout.hashTableOffset0, layout.hashTableOffset1, layout.hashSlots⟩

/-- A successful call publishes its entries under the next version word. -/
theorem published_after (layout : HasLayout mapping.header) (succeeds : call.Succeeds mapping) :
    Published call (call.after mapping) ∧
      (call.after mapping).versionWord = nextWord mapping.versionWord := by
  rcases succeeds with ⟨version, ok⟩
  rcases rebuild_cases layout call.mode call.nowSecs call.entries with
    ⟨hashAt, table, built, ran⟩ | ⟨hashAt, message, built, ran⟩
  · unfold RebuildCall.after RebuildCall.program
    rw [ran]
    refine ⟨⟨layout_rebuilt layout _ _ _ _, rfl, rfl, rfl, fun index inside => ?_⟩, rfl⟩
    rw [Mapping.prefixTable_apply]
    exact prefixesWritten_inside mapping.prefixAt call.entries inside
  · unfold RebuildCall.program at ok
    rw [ran] at ok
    cases ok

/-- No call changes the layout. -/
theorem layout_after (layout : HasLayout mapping.header) (call : RebuildCall) :
    HasLayout (call.after mapping).header := by
  unfold RebuildCall.after RebuildCall.program
  rcases rebuild_cases layout call.mode call.nowSecs call.entries with
    ⟨hashAt, table, built, ran⟩ | ⟨hashAt, message, built, ran⟩
  · rw [ran]
    exact layout_rebuilt layout _ _ _ _
  · rw [ran]
    exact layout_rebuilt layout _ _ _ _

theorem succeeds_or_fails (call : RebuildCall) (mapping : Mapping) :
    call.Succeeds mapping ∨ call.Fails mapping := by
  unfold RebuildCall.Succeeds RebuildCall.Fails
  cases (call.program.run mapping).1 with
  | ok version => exact .inl ⟨version, rfl⟩
  | error error => exact .inr ⟨error, rfl⟩

/-- Per-file entries with non-zero hashes fit exactly when there are no more of
them than slots. -/
theorem insertAll_cleared_isSome_iff {cleared : Nat → HashEntry}
    (empty : ∀ slot < hashSlotCount.toNat, cleared slot = HashEntry.zero) {keys : List CacheKey}
    (nonzero : ∀ key ∈ keys, fnv1a64 key.path ≠ 0) :
    (hashAddressing.insertAll cleared (keys.map encodeHash)).isSome ↔
      keys.length ≤ hashSlotCount.toNat := by
  have present : ∀ entry ∈ keys.map encodeHash, hashAddressing.vacant entry = false := by
    intro entry entry_mem
    rcases List.mem_map.mp entry_mem with ⟨key, key_mem, rfl⟩
    simpa [hashAddressing, encodeHash] using nonzero key key_mem
  have noneUsed : (hashAddressing.occupied cleared).card = 0 := by
    rw [Finset.card_eq_zero, Addressing.occupied, Finset.filter_eq_empty_iff]
    intro slot slot_mem
    rw [empty slot (Finset.mem_range.mp slot_mem)]
    simp [hashAddressing, HashEntry.zero]
  rw [Addressing.insertAll_isSome_iff present, noneUsed, Nat.zero_add, List.length_map]
  rfl

/-- A rebuild whose per-file entries have non-zero hashes succeeds exactly when
they fit. -/
theorem succeeds_iff_fits (layout : HasLayout mapping.header)
    (nonzero : ∀ key ∈ hashEntries call.entries, fnv1a64 key.path ≠ 0) :
    call.Succeeds mapping ↔ (hashEntries call.entries).length ≤ hashSlotCount.toNat := by
  unfold RebuildCall.Succeeds RebuildCall.program
  rcases rebuild_cases layout call.mode call.nowSecs call.entries with
    ⟨hashAt, table, built, ran⟩ | ⟨hashAt, message, built, ran⟩
  · rcases built.inserted with ⟨cleared, empty, inserted⟩
    rw [← insertAll_cleared_isSome_iff empty nonzero, inserted, ran]
    simp
  · rcases built.inserted with ⟨cleared, empty, inserted⟩
    rw [← insertAll_cleared_isSome_iff empty nonzero, inserted, ran]
    simp

/-! ## Parity -/

/-- The shifted version does not reach the low bit. -/
private theorem shiftLeft_or_and_one (word low : UInt64) :
    (word <<< 1 ||| low) &&& 1 = low &&& 1 := by
  have shifted : (word <<< 1).toNat % 2 = 0 := by
    rw [UInt64.toNat_shiftLeft]
    change (word.toNat <<< 1) % 2 ^ 64 % 2 = 0
    rw [Nat.shiftLeft_eq]
    omega
  apply UInt64.toNat_inj.mp
  rw [UInt64.toNat_and, UInt64.toNat_or, UInt64.toNat_and, Nat.and_or_distrib_right]
  change ((word <<< 1).toNat &&& 1) ||| (low.toNat &&& 1) = low.toNat &&& 1
  rw [Nat.and_one_is_mod, shifted, Nat.zero_or]

/-- The published word names the other buffer. -/
theorem bufferOf_nextWord (word : UInt64) : bufferOf (nextWord word) = 1 - bufferOf word := by
  have lowBit : nextWord word &&& 1 = (1 - bufferOf word).toUInt64 &&& 1 :=
    shiftLeft_or_and_one _ _
  have unfolded : bufferOf (nextWord word) = ((1 - bufferOf word).toUInt64 &&& 1).toUInt8 := by
    rw [← lowBit]
    rfl
  rw [unfolded]
  rcases bufferOf_cases word with ⟨-, zero⟩ | ⟨-, one⟩
  · rw [zero]
    decide
  · rw [one]
    decide

/-- The buffer bit counts the successful rebuilds modulo two. -/
theorem bufferOf_afterCalls {calls : List RebuildCall} (layout : HasLayout mapping.header)
    (succeed : AllSucceed mapping calls) :
    bufferOf (afterCalls mapping calls).versionWord =
      if calls.length % 2 = 0 then bufferOf mapping.versionWord
      else 1 - bufferOf mapping.versionWord := by
  induction calls generalizing mapping with
  | nil => rfl
  | cons call rest ih =>
      rcases succeed with ⟨first, others⟩
      rcases published_after layout first with ⟨published, word⟩
      rw [afterCalls_cons, ih published.layout others, word, bufferOf_nextWord, List.length_cons]
      have involution : 1 - (1 - bufferOf mapping.versionWord) = bufferOf mapping.versionWord := by
        rcases bufferOf_cases mapping.versionWord with ⟨-, zero⟩ | ⟨-, one⟩
        · rw [zero]
          decide
        · rw [one]
          decide
      by_cases even : rest.length % 2 = 0
      · have odd : ¬ (rest.length + 1) % 2 = 0 := by omega
        rw [if_pos even, if_neg odd]
      · have evenNext : (rest.length + 1) % 2 = 0 := by omega
        rw [if_neg even, if_pos evenNext, involution]

/-! ## Runs -/

theorem layout_initHeader (mode : EnforcementMode) (raw : Mapping) :
    HasLayout (initHeader mode raw).header :=
  ⟨rfl, rfl, rfl, rfl, rfl, rfl, rfl, rfl⟩

theorem layout_afterCalls (layout : HasLayout mapping.header) (calls : List RebuildCall) :
    HasLayout (afterCalls mapping calls).header := by
  induction calls generalizing mapping with
  | nil => exact layout
  | cons call rest ih => exact ih (layout_after layout call)

/-- After a run of successful rebuilds from `init_header` the mapping is as the
last one published it, and the buffer bit is the parity of their number. -/
theorem published_of_run {mode : EnforcementMode} {raw : Mapping} {before : List RebuildCall}
    {last : RebuildCall} (succeed : AllSucceed (initHeader mode raw) (before ++ [last])) :
    Published last (afterCalls (initHeader mode raw) (before ++ [last])) ∧
      bufferOf (afterCalls (initHeader mode raw) (before ++ [last])).versionWord =
        if (before ++ [last]).length % 2 = 0 then 0 else 1 := by
  have start := layout_initHeader mode raw
  constructor
  · rcases allSucceed_append.mp succeed with ⟨-, lastSucceeds, -⟩
    rw [afterCalls_append]
    exact (published_after (layout_afterCalls start before) lastSucceeds).1
  · have first : bufferOf (initHeader mode raw).versionWord = 0 := by
      change bufferOf (((1 : UInt64) <<< 1) ||| 0) = 0
      decide
    rw [bufferOf_afterCalls start succeed, first]
    rfl

end DlpSystem.Cache
