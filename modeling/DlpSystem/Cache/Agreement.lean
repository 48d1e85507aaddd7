import DlpSystem.Cache.Rebuilds
import DlpSystem.Hook.LookupMeaning

/-!
# Writer and reader agree on directory entries

What the agent wrote with its last successful rebuild is what the DLL should
find: the tier of the longest live directory entry that starts the path.  The
file relates the reader's scan of the encoded prefix table to that
specification, and settles when the two agree.

Two things stand between them.  The published version word of every other
rebuild is odd, which the reader takes for a writer in progress; and the stored
TTL is clamped to 16 bits.
-/

namespace DlpSystem.Cache

open Common Lib StepProgram Agent Hook

/-! ## Specification -/

/-- Whether a path starts with a directory entry, up to ASCII case. -/
def startsWithEntry (path : Str) (key : CacheKey) : Bool :=
  decide (key.path.length ≤ path.length) &&
    Str.eqIgnoreAsciiCase (path.take key.path.length) key.path

/-- A directory entry that starts the path and whose TTL has not run out. -/
def liveMatch (path : Str) (age : Nat) (key : CacheKey) : Bool :=
  key.isDirectory && startsWithEntry path key && decide (age < key.ttl.toNat)

/-- The tier a list of entries gives to a path: that of the longest live
directory entry that starts it, the earliest one among equally long entries. -/
def listedTier (entries : List CacheKey) (path : Str) (age : Nat) : Option Classification :=
  ((entries.filter (liveMatch path age)).argmax fun key => key.path.length).map CacheKey.tier

/-! ## Decoding what was encoded -/

theorem u8ToClassification_tierToU8 (tier : Classification) :
    u8ToClassification (tierToU8 tier) = some tier := by
  cases tier <;> rfl

theorem toNat_clampTtl (ttl : UInt32) : (clampTtl ttl).toNat = min ttl.toNat 65535 := by
  have limit : (65535 : UInt32).toNat = 65535 := rfl
  change (if ttl ≤ 65535 then ttl else 65535).toUInt16.toNat = min ttl.toNat 65535
  split
  · rename_i small
    rw [UInt32.le_iff_toNat_le, limit] at small
    rw [UInt32.toNat_toUInt16]
    omega
  · rename_i large
    rw [UInt32.le_iff_toNat_le, limit] at large
    have clamped : (65535 : UInt32).toUInt16.toNat = 65535 := rfl
    omega

theorem toNat_prefixLen {key : CacheKey} (short : key.path.length ≤ 260) :
    (encodePrefix key).prefixLen.toNat = key.path.length := by
  have least : min key.path.length 260 = key.path.length := Nat.min_eq_left short
  simp only [encodePrefix, least, UInt16.toNat_ofNat']
  omega

theorem take_padPrefix {path : Str} (short : path.length ≤ 260) :
    (padPrefix path).toList.take path.length = path := by
  simp [padPrefix, List.take_of_length_le short]

theorem entryMatches_encodePrefix {key : CacheKey} (short : key.path.length ≤ 260) (path : Str) :
    entryMatches path (encodePrefix key) = startsWithEntry path key := by
  unfold entryMatches startsWithEntry
  rw [toNat_prefixLen short]
  simp only [encodePrefix, take_padPrefix short]

/-- A directory path is not empty. -/
theorem length_pos_of_isDirectory {key : CacheKey} (directory : key.isDirectory = true) :
    0 < key.path.length := by
  rcases path : key.path with _ | ⟨byte, rest⟩
  · simp [CacheKey.isDirectory, path, Str.endsWithByte] at directory
  · simp

/-- The scan of encoded directory entries returns the first one that matches
and is live by its stored TTL. -/
theorem scanEntries_encodePrefix (path : Str) (age : Nat) {keys : List CacheKey}
    (directories : ∀ key ∈ keys, key.isDirectory = true)
    (short : ∀ key ∈ keys, key.path.length ≤ 260) :
    scanEntries path age (keys.map encodePrefix) =
      (keys.find? fun key =>
        startsWithEntry path key && decide (age < (clampTtl key.ttl).toNat)).map
          CacheKey.tier := by
  induction keys with
  | nil => rfl
  | cons key rest ih =>
      have keyShort := short key List.mem_cons_self
      have nonempty := length_pos_of_isDirectory (directories key List.mem_cons_self)
      have lenValue := toNat_prefixLen keyShort
      have notZero : ¬ (encodePrefix key).prefixLen = 0 := by
        intro zero
        rw [zero] at lenValue
        simp at lenValue
        omega
      have notLong : ¬ (encodePrefix key).prefixLen > 260 := by
        rw [gt_iff_lt, UInt16.lt_iff_toNat_lt, lenValue]
        exact Nat.not_lt.mpr keyShort
      have tail := ih (fun other other_mem => directories other (List.mem_cons_of_mem key other_mem))
        (fun other other_mem => short other (List.mem_cons_of_mem key other_mem))
      rw [List.map_cons, scanEntries, if_neg notZero, if_neg notLong,
        entryMatches_encodePrefix keyShort]
      have storedTtl : (encodePrefix key).ttlSecs = clampTtl key.ttl := rfl
      have storedTier : (encodePrefix key).tier = tierToU8 key.tier := rfl
      rw [storedTtl, storedTier, u8ToClassification_tierToU8]
      cases starts : startsWithEntry path key with
      | false => simpa [starts] using tail
      | true =>
          by_cases live : age < (clampTtl key.ttl).toNat
          · simp [starts, live]
          · have expired : (clampTtl key.ttl).toNat ≤ age := Nat.not_lt.mp live
            simpa [starts, live, expired] using tail

/-! ## Lookups in a published mapping -/

section Published

variable {call : RebuildCall} {mapping : Mapping}

theorem Published.toNat_prefixCount (published : Published call mapping) :
    mapping.header.prefixCount.toNat = (keptPrefixes call.entries).length := by
  have capacity := length_keptPrefixes_le call.entries
  have small : maxPrefixEntries < 2 ^ 64 := by decide
  rw [published.prefixCount, UInt64.toNat_ofNat']
  exact Nat.mod_eq_of_lt (by omega)

theorem Published.entriesFrom_prefixTable (published : Published call mapping) :
    entriesFrom (mapping.prefixTable prefixTableStart.toNat)
      mapping.header.prefixCount.toNat 0 = (keptPrefixes call.entries).map encodePrefix := by
  rw [published.toNat_prefixCount]
  apply List.ext_getElem (by simp [entriesFrom])
  intro index _ inside
  have listed : index < (keptPrefixes call.entries).length := by simpa using inside
  simp only [entriesFrom, List.getElem_map, List.getElem_range', Nat.zero_add, Nat.one_mul]
  exact published.prefixes index listed

/-- The scan of a published prefix table. -/
theorem Published.run_prefixLookup (published : Published call mapping) (target : Target)
    (path : Str) (nowSecs : UInt64) :
    (prefixLookup target path nowSecs).run mapping =
      (scanEntries path (ageAt nowSecs call.nowSecs)
        ((keptPrefixes call.entries).map encodePrefix), mapping) := by
  have capacity : mapping.header.prefixCount.toNat ≤ maxPrefixEntries := by
    rw [published.toNat_prefixCount]
    exact length_keptPrefixes_le call.entries
  rw [Hook.run_prefixLookup published.layout capacity, published.entriesFrom_prefixTable,
    published.createdAt]

/-- Past its version word, a lookup of an accepted path searches the tables. -/
theorem Published.run_lookupAt (published : Published call mapping) {path normalized : Str}
    (accepted : normalizePath path = some normalized) (target : Target)
    (nowSecs lastValidated versionWord : UInt64) :
    ((lookupAt target path nowSecs lastValidated versionWord).run mapping).1.1 =
      ((searchTables target (bufferOf versionWord) normalized nowSecs).run mapping).1 := by
  rw [lookupAt, run_bind, run_validateVersion published.layout published.checksum]
  simp only [accepted, Bool.true_eq_false, if_false]
  rw [run_bind]
  rfl

/-- An even version word lets the lookup through. -/
theorem Published.run_lookup (published : Published call mapping)
    (even : mapping.versionWord &&& 1 = 0) {path normalized : Str}
    (accepted : normalizePath path = some normalized) (target : Target) (op : HookOp)
    (nowSecs lastValidated : UInt64) :
    ((lookup target path op nowSecs lastValidated).run mapping).1.1 =
      ((searchTables target (bufferOf mapping.versionWord) normalized nowSecs).run mapping).1 := by
  rw [lookup, run_bind, run_acquireVersion_of_even even]
  exact published.run_lookupAt accepted target nowSecs lastValidated mapping.versionWord

/-- A hit in the prefix table decides the search. -/
theorem Published.searchTables_eq_some (published : Published call mapping) {normalized : Str}
    {nowSecs : UInt64} {tier : Classification}
    (hit : scanEntries normalized (ageAt nowSecs call.nowSecs)
      ((keptPrefixes call.entries).map encodePrefix) = some tier)
    (target : Target) (buffer : UInt8) :
    ((searchTables target buffer normalized nowSecs).run mapping).1 = some tier := by
  rw [searchTables, run_bind, published.run_prefixLookup, hit]
  rfl

/-- When every stored TTL has run out, the hash table answers nothing. -/
theorem hashLookup_expired (layout : HasLayout mapping.header) {nowSecs : UInt64}
    (expired : 65535 ≤ ageAt nowSecs mapping.header.createdAtEpochSecs) (target : Target)
    (buffer : UInt8) (path : Str) :
    ((hashLookup target buffer path nowSecs).run mapping).1 = none := by
  rw [run_hashLookup layout]
  apply Option.bind_eq_none_iff.mpr
  intro slot _
  have bound := (mapping.hashTable (hashTableStart buffer) slot).ttlSecs.toNat_lt
  unfold readSlot
  split_ifs with vacant live
  · rfl
  · rfl
  · omega

end Published

/-- Up to the limit of the stored TTL, the scan of the published table answers
what the list of entries says. -/
theorem scan_kept_eq_listedTier {entries : List CacheKey}
    (short : ∀ key ∈ prefixEntries entries, key.path.length ≤ 260)
    (few : (prefixEntries entries).length ≤ maxPrefixEntries) (path : Str) {age : Nat}
    (young : age < 65535) :
    scanEntries path age ((keptPrefixes entries).map encodePrefix) =
      listedTier entries path age := by
  let sorted := sortDescending (fun key : CacheKey => key.path.length) (prefixEntries entries)
  have wholeTable : keptPrefixes entries = sorted :=
    List.take_of_length_le (by simpa [sorted] using few)
  have listed : ∀ key ∈ sorted, key ∈ prefixEntries entries := fun key key_mem =>
    (perm_sortDescending _ _).mem_iff.mp key_mem
  have sameTtl : ∀ key : CacheKey,
      decide (age < (clampTtl key.ttl).toNat) = decide (age < key.ttl.toNat) := by
    intro key
    rw [toNat_clampTtl]
    exact decide_eq_decide.mpr ⟨fun live => by omega, fun live => by omega⟩
  rw [wholeTable, scanEntries_encodePrefix path age
    (fun key key_mem => (List.mem_filter.mp (listed key key_mem)).2)
    (fun key key_mem => short key (listed key key_mem))]
  have sameFilter : ∀ key : CacheKey,
      (startsWithEntry path key && decide (age < key.ttl.toNat) && key.isDirectory) =
        liveMatch path age key := by
    intro key
    unfold liveMatch
    cases key.isDirectory <;> cases startsWithEntry path key <;> simp
  simp only [sameTtl]
  rw [find?_sortDescending, listedTier, prefixEntries, List.filter_filter]
  simp only [sameFilter]

/-- Beyond that limit the scan answers nothing. -/
theorem scan_kept_expired {entries : List CacheKey}
    (short : ∀ key ∈ prefixEntries entries, key.path.length ≤ 260) (path : Str) {age : Nat}
    (expired : 65535 ≤ age) :
    scanEntries path age ((keptPrefixes entries).map encodePrefix) = none := by
  have listed : ∀ key ∈ keptPrefixes entries, key ∈ prefixEntries entries := fun key key_mem =>
    (perm_sortDescending _ _).mem_iff.mp (List.mem_of_mem_take key_mem)
  rw [scanEntries_encodePrefix path age
    (fun key key_mem => (List.mem_filter.mp (listed key key_mem)).2)
    (fun key key_mem => short key (listed key key_mem))]
  refine Option.map_eq_none_iff.mpr (List.find?_eq_none.mpr fun key _ => ?_)
  have clamped := toNat_clampTtl key.ttl
  have notLive : ¬ age < (clampTtl key.ttl).toNat := by omega
  simp [notLive]

/-! ## Agreement -/

/-- What the cache owes its readers after a run of rebuilds whose last list is
`entries`: the lookup does not take the exit for a writer in progress, and a path
that starts with a live directory entry gets the tier the list gives it. -/
def ReaderAgrees (target : Target) (mapping : Mapping) (last : RebuildCall)
    (path normalized : Str) (op : HookOp) (nowSecs lastValidated : UInt64) : Prop :=
  (acquireVersion.run mapping).1 ≠ none ∧
    ((∃ key ∈ last.entries, liveMatch normalized (ageAt nowSecs last.nowSecs) key = true) →
      ((lookup target path op nowSecs lastValidated).run mapping).1.1 =
        listedTier last.entries normalized (ageAt nowSecs last.nowSecs))

/-- Reader and writer agree exactly after an even number of rebuilds, and while
the age of the cache is within 16 bits or no entry is live any more. -/
theorem readerAgrees_iff (target : Target) (mode : EnforcementMode) (raw : Mapping)
    (before : List RebuildCall) (last : RebuildCall)
    (succeed : AllSucceed (initHeader mode raw) (before ++ [last]))
    (short : ∀ key ∈ prefixEntries last.entries, key.path.length ≤ 260)
    (few : (prefixEntries last.entries).length ≤ maxPrefixEntries)
    (path normalized : Str) (accepted : normalizePath path = some normalized)
    (op : HookOp) (nowSecs lastValidated : UInt64) :
    ReaderAgrees target (afterCalls (initHeader mode raw) (before ++ [last])) last
        path normalized op nowSecs lastValidated ↔
      (before ++ [last]).length % 2 = 0 ∧
        (ageAt nowSecs last.nowSecs < 65535 ∨
          ∀ key ∈ last.entries,
            liveMatch normalized (ageAt nowSecs last.nowSecs) key = false) := by
  rcases published_of_run succeed with ⟨published, parity⟩
  generalize afterCalls (initHeader mode raw) (before ++ [last]) = mapping at published parity ⊢
  rcases bufferOf_cases mapping.versionWord with ⟨even, buffer⟩ | ⟨odd, buffer⟩
  · have evenRun : (before ++ [last]).length % 2 = 0 := by
      by_contra oddRun
      rw [buffer, if_neg oddRun] at parity
      cases parity
    have acquired : (acquireVersion.run mapping).1 ≠ none := by
      simp [run_acquireVersion_of_even even]
    simp only [ReaderAgrees, evenRun, acquired, ne_eq, not_false_eq_true, true_and]
    rw [published.run_lookup even accepted, searchTables, run_bind,
      published.run_prefixLookup]
    by_cases young : ageAt nowSecs last.nowSecs < 65535
    · -- The scan finds what the list says, and a live entry makes that a hit.
      simp only [young, true_or, iff_true]
      rintro ⟨key, key_mem, live⟩
      rw [scan_kept_eq_listedTier short few normalized young]
      cases found : listedTier last.entries normalized (ageAt nowSecs last.nowSecs) with
      | some tier => rfl
      | none =>
          have noneLive := List.argmax_eq_none.mp (Option.map_eq_none_iff.mp found)
          have kept := List.mem_filter.mpr ⟨key_mem, live⟩
          rw [noneLive] at kept
          cases kept
    · -- Every stored TTL has run out, so the lookup misses.
      have expired : 65535 ≤ ageAt nowSecs last.nowSecs := Nat.not_lt.mp young
      have expiredHeader : 65535 ≤ ageAt nowSecs mapping.header.createdAtEpochSecs := by
        rw [published.createdAt]
        exact expired
      rw [scan_kept_expired short normalized expired]
      dsimp only
      rw [hashLookup_expired published.layout expiredHeader]
      simp only [young, false_or]
      constructor
      · intro agrees key key_mem
        by_contra live
        have listed := agrees ⟨key, key_mem, by simpa using live⟩
        have noneLive := List.argmax_eq_none.mp (Option.map_eq_none_iff.mp listed.symm)
        have kept := List.mem_filter.mpr ⟨key_mem, by simpa using live⟩
        rw [noneLive] at kept
        cases kept
      · rintro noneLive ⟨key, key_mem, live⟩
        rw [noneLive key key_mem] at live
        cases live
  · have oddRun : ¬ (before ++ [last]).length % 2 = 0 := by
      intro evenRun
      rw [buffer, if_pos evenRun] at parity
      cases parity
    have refused : (acquireVersion.run mapping).1 = none := by
      rw [run_acquireVersion_of_odd odd]
    simp only [ReaderAgrees, refused, ne_eq, not_true_eq_false, false_and, oddRun]

/-- One directory entry, rebuilt at epoch second 1000. -/
def dataCall : RebuildCall where
  mode := .block
  nowSecs := 1000
  entries := [⟨ascii "C:\\DATA\\", .T4, 3600⟩]

theorem dataCall_succeeds {mapping : Mapping} (layout : HasLayout mapping.header) :
    dataCall.Succeeds mapping :=
  (succeeds_iff_fits layout (by decide)).mpr (by decide)

/-- After a single rebuild of one directory entry the reader refuses the cache. -/
theorem not_readerAgrees_after_one :
    AllSucceed (initHeader .block Mapping.zero) [dataCall] ∧
      normalizePath (ascii "C:\\DATA\\PLAN.TXT") = some (ascii "C:\\DATA\\PLAN.TXT") ∧
      listedTier dataCall.entries (ascii "C:\\DATA\\PLAN.TXT") (ageAt 1001 1000) = some .T4 ∧
      ¬ ReaderAgrees .x64 (afterCalls (initHeader .block Mapping.zero) [dataCall]) dataCall
        (ascii "C:\\DATA\\PLAN.TXT") (ascii "C:\\DATA\\PLAN.TXT") .write 1001 0 := by
  have succeeds : AllSucceed (initHeader .block Mapping.zero) ([] ++ [dataCall]) :=
    ⟨dataCall_succeeds (layout_initHeader .block Mapping.zero), trivial⟩
  rcases published_of_run succeeds with ⟨-, parity⟩
  refine ⟨succeeds, by decide, by decide, fun agrees => ?_⟩
  apply agrees.1
  rcases bufferOf_cases (afterCalls (initHeader .block Mapping.zero) [dataCall]).versionWord with
    ⟨-, zero⟩ | ⟨odd, -⟩
  · rw [List.nil_append, zero] at parity
    cases parity
  · rw [run_acquireVersion_of_odd odd]

/-- After a second rebuild of the same entry it answers. -/
theorem readerAgrees_after_two :
    ReaderAgrees .x64 (afterCalls (initHeader .block Mapping.zero) ([dataCall] ++ [dataCall]))
      dataCall (ascii "C:\\DATA\\PLAN.TXT") (ascii "C:\\DATA\\PLAN.TXT") .write 1001 0 := by
  have start := layout_initHeader .block Mapping.zero
  have first := dataCall_succeeds start
  have second := dataCall_succeeds (layout_after start dataCall)
  exact (readerAgrees_iff .x64 .block Mapping.zero [dataCall] dataCall ⟨first, second, trivial⟩
    (by decide) (by decide) (ascii "C:\\DATA\\PLAN.TXT") (ascii "C:\\DATA\\PLAN.TXT")
    (by decide) .write 1001 0).mpr ⟨by decide, .inl (by decide)⟩

end DlpSystem.Cache
