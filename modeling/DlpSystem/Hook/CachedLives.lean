import DlpSystem.Hook.LookupMeaning
import DlpSystem.Hook.Trampoline

/-!
# The shared-cache entry behind a cached classification

The LRU keeps a classification without the age of the entry that it was read from.  Here
every slot of the LRU is paired with the life of that entry, and a lookup returns the life
of the entry that answered it.  The calls themselves are those of the source.
-/

namespace DlpSystem.Hook

open Common Lib StepProgram

/-- When a shared-cache entry was made, and for how many seconds it may be used. -/
structure EntryLife where
  createdAt : UInt64
  ttlSecs : UInt16
  deriving DecidableEq

/-- The entry may still be used. -/
def EntryLife.FreshAt (life : EntryLife) (nowSecs : UInt64) : Prop :=
  ageAt nowSecs life.createdAt < life.ttlSecs.toNat

instance (life : EntryLife) (nowSecs : UInt64) : Decidable (life.FreshAt nowSecs) :=
  inferInstanceAs (Decidable (_ < _))

/-! ## Answers of the shared cache -/

/-- The classification of an entry, with the life of the entry. -/
def answerOf (createdAt : UInt64) (tier : UInt8) (ttlSecs : UInt16) :
    Option (Classification × EntryLife) :=
  (u8ToClassification tier).map fun classification => (classification, ⟨createdAt, ttlSecs⟩)

/-- The entry at which the scan of `prefix_lookup` ends with an answer. -/
def answeringEntry (path : Str) (age : Nat) : List PrefixEntry → Option PrefixEntry
  | [] => none
  | entry :: rest =>
      if entry.prefixLen = 0 then answeringEntry path age rest
      else if entry.prefixLen > 260 then none
      else if entryMatches path entry then
        if age ≥ entry.ttlSecs.toNat then answeringEntry path age rest
        else some entry
      else answeringEntry path age rest

/-- What `prefix_lookup` finds, with the life of the entry. -/
def prefixAnswer (target : Target) (path : Str) (nowSecs : UInt64) (mapping : Mapping) :
    Option (Classification × EntryLife) :=
  let createdAt := mapping.header.createdAtEpochSecs
  let prefixCount := target.asUsize mapping.header.prefixCount.toNat
  let prefixTableOffset := target.asUsize mapping.header.prefixTableOffset.toNat
  if prefixCount = 0 then none
  else if prefixTableOffset + target.asUsize (prefixCount * prefixEntrySize) >
      cacheTotalSize.toNat then none
  else
    (answeringEntry path (ageAt nowSecs createdAt)
      (entriesFrom (mapping.prefixTable prefixTableOffset) prefixCount 0)).bind fun entry =>
        answerOf createdAt entry.tier entry.ttlSecs

/-- What `hash_lookup` finds, with the life of the entry. -/
def hashAnswer (target : Target) (buffer : UInt8) (path : Str) (nowSecs : UInt64)
    (mapping : Mapping) : Option (Classification × EntryLife) :=
  let createdAt := mapping.header.createdAtEpochSecs
  let hashSlots := target.asUsize mapping.header.hashSlots.toNat
  let hashOffset := target.asUsize (mapping.header.hashTableOffset buffer).toNat
  if hashSlots = 0 then none
  else if hashOffset + target.asUsize (hashSlots * hashEntrySize) > cacheTotalSize.toNat then none
  else
    (probe hashSlots (fun entry : HashEntry => entry.hash == 0 || entry.hash == fnv1a64 path)
      (mapping.hashTable hashOffset) hashSlots
      (target.asUsize (fnv1a64 path).toNat % hashSlots)).bind fun slot =>
        let entry := mapping.hashTable hashOffset slot
        if entry.hash = 0 then none
        else if ageAt nowSecs createdAt ≥ entry.ttlSecs.toNat then none
        else answerOf createdAt entry.tier entry.ttlSecs

/-- What `lookup` finds, with the life of the entry. -/
def lookupAnswer (target : Target) (path : Str) (nowSecs lastValidated : UInt64)
    (mapping : Mapping) : Option (Classification × EntryLife) :=
  match (acquireVersion.run mapping).1 with
  | none => none
  | some versionWord =>
      if ((validateVersion (versionWord >>> 1) lastValidated).run mapping).1.1 = false then none
      else
        match normalizePath path with
        | none => none
        | some normalized =>
            (prefixAnswer target normalized nowSecs mapping).or
              (hashAnswer target (bufferOf versionWord) normalized nowSecs mapping)

section Answers

variable (target : Target) (path : Str) (nowSecs : UInt64) (mapping : Mapping)

theorem map_fst_answerOf (createdAt : UInt64) (tier : UInt8) (ttlSecs : UInt16) :
    (answerOf createdAt tier ttlSecs).map Prod.fst = u8ToClassification tier := by
  simp [answerOf, Function.comp_def]

theorem scanEntries_eq_bind (age : Nat) (entries : List PrefixEntry) :
    scanEntries path age entries =
      (answeringEntry path age entries).bind fun entry => u8ToClassification entry.tier := by
  induction entries with
  | nil => rfl
  | cons entry rest ih =>
      simp only [scanEntries, answeringEntry]
      split_ifs
      · exact ih
      · rfl
      · exact ih
      · rfl
      · exact ih

theorem run_prefixLookup_eq :
    (prefixLookup target path nowSecs).run mapping =
      ((prefixAnswer target path nowSecs mapping).map Prod.fst, mapping) := by
  simp only [prefixLookup, prefixAnswer, run_load_bind, run_ite, run_scanPrefixes]
  split_ifs
  · rfl
  · rfl
  · simp only [scanEntries_eq_bind, Option.map_bind, Function.comp_def, map_fst_answerOf]

theorem run_hashLookup_eq (buffer : UInt8) :
    (hashLookup target buffer path nowSecs).run mapping =
      ((hashAnswer target buffer path nowSecs mapping).map Prod.fst, mapping) := by
  simp only [hashLookup, hashAnswer, run_load_bind, run_ite, run_probeHash]
  split_ifs
  · rfl
  · rfl
  · rw [Option.map_bind]
    congr 2
    funext slot
    simp only [readSlot, Function.comp_apply]
    split_ifs
    · rfl
    · rfl
    · rw [map_fst_answerOf]

theorem run_searchTables_eq (buffer : UInt8) :
    (searchTables target buffer path nowSecs).run mapping =
      (((prefixAnswer target path nowSecs mapping).or
        (hashAnswer target buffer path nowSecs mapping)).map Prod.fst, mapping) := by
  simp only [searchTables, run_bind, run_prefixLookup_eq]
  cases prefixAnswer target path nowSecs mapping with
  | none => exact run_hashLookup_eq target path nowSecs mapping buffer
  | some answer => rfl

/-- The reader's programs leave the mapping alone. -/
theorem keeps_acquireVersion : Keeps (id : Mapping → Mapping) acquireVersion := by
  apply keeps_load_bind
  intro versionWord
  split
  · apply keeps_load_bind
    intro retryWord
    split <;> trivial
  · trivial

theorem keeps_computeChecksum : Keeps (id : Mapping → Mapping) computeChecksum := by
  iterate 13
    apply keeps_load_bind
    intro field
  trivial

theorem keeps_fullValidation : Keeps (id : Mapping → Mapping) fullValidation := by
  -- One load and one comparison for each field that is compared with a constant.
  iterate 7
    apply keeps_load_bind
    intro field
    split
    · trivial
  apply keeps_bind keeps_computeChecksum
  intro computed
  apply keeps_load_bind
  intro checksum
  trivial

theorem keeps_validateVersion (version lastValidated : UInt64) :
    Keeps (id : Mapping → Mapping) (validateVersion version lastValidated) := by
  rw [validateVersion]
  split
  · exact keeps_bind keeps_fullValidation fun valid => trivial
  · exact keeps_load_bind _ fun magic => trivial

/-- A lookup returns the classification of its answer. -/
theorem run_lookup_eq (op : HookOp) (lastValidated : UInt64) :
    ((lookup target path op nowSecs lastValidated).run mapping).1.1 =
      (lookupAnswer target path nowSecs lastValidated mapping).map Prod.fst := by
  have acquired : (acquireVersion.run mapping).2 = mapping := keeps_acquireVersion.run_snd mapping
  rw [lookup, run_bind, acquired, lookupAnswer]
  cases (acquireVersion.run mapping).1 with
  | none => rfl
  | some versionWord =>
      have validated : ((validateVersion (versionWord >>> 1) lastValidated).run mapping).2 =
          mapping := (keeps_validateVersion ..).run_snd mapping
      simp only [lookupAt, run_bind, validated, run_ite]
      split_ifs
      · rfl
      · cases normalizePath path with
        | none => rfl
        | some normalized =>
            simp only [run_bind, run_searchTables_eq]
            rfl

variable {target path nowSecs mapping}

theorem life_of_answerOf {createdAt : UInt64} {tier : UInt8} {ttlSecs : UInt16}
    {classification : Classification} {life : EntryLife}
    (answered : answerOf createdAt tier ttlSecs = some (classification, life)) :
    life = ⟨createdAt, ttlSecs⟩ := by
  obtain ⟨found, -, built⟩ := Option.map_eq_some_iff.mp answered
  exact (Prod.mk.inj built).2.symm

/-- The scan only answers with an entry that has not expired. -/
theorem age_lt_of_answeringEntry {age : Nat} {entries : List PrefixEntry} {entry : PrefixEntry}
    (answered : answeringEntry path age entries = some entry) : age < entry.ttlSecs.toNat := by
  induction entries with
  | nil => cases answered
  | cons head rest ih =>
      rw [answeringEntry] at answered
      split_ifs at answered with vacant long matched expired
      · exact ih answered
      · exact ih answered
      · cases Option.some.inj answered
        exact Nat.not_le.mp expired
      · exact ih answered

theorem fresh_of_prefixAnswer {classification : Classification} {life : EntryLife}
    (answered : prefixAnswer target path nowSecs mapping = some (classification, life)) :
    life.FreshAt nowSecs := by
  simp only [prefixAnswer] at answered
  split_ifs at answered
  obtain ⟨entry, found, built⟩ := Option.bind_eq_some_iff.mp answered
  rw [life_of_answerOf built]
  exact age_lt_of_answeringEntry found

theorem fresh_of_hashAnswer {buffer : UInt8} {classification : Classification}
    {life : EntryLife}
    (answered : hashAnswer target buffer path nowSecs mapping = some (classification, life)) :
    life.FreshAt nowSecs := by
  simp only [hashAnswer] at answered
  split_ifs at answered
  obtain ⟨slot, found, built⟩ := Option.bind_eq_some_iff.mp answered
  split_ifs at built with vacant expired
  rw [life_of_answerOf built]
  exact Nat.not_le.mp expired

/-- The shared cache only answers with an entry that has not expired. -/
theorem fresh_of_lookupAnswer {lastValidated : UInt64} {classification : Classification}
    {life : EntryLife}
    (answered : lookupAnswer target path nowSecs lastValidated mapping =
      some (classification, life)) : life.FreshAt nowSecs := by
  rw [lookupAnswer] at answered
  split at answered
  · cases answered
  · split_ifs at answered
    split at answered
    · cases answered
    · rcases Option.or_eq_some_iff.mp answered with fromPrefix | ⟨-, fromHash⟩
      · exact fresh_of_prefixAnswer fromPrefix
      · exact fresh_of_hashAnswer fromHash

end Answers

end DlpSystem.Hook
