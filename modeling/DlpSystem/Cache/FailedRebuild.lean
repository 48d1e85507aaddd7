import DlpSystem.Cache.Agreement

/-!
# Failed rebuilds

A rebuild that overflows the hash table puts the old version word back.  Only
the hash tables are doubled, though: the prefix table and its count have been
replaced by then, in place.  The file says when no reader can tell.
-/

namespace DlpSystem.Cache

open Common Lib StepProgram Agent Hook

/-- No lookup can tell the mapping after the call from the mapping before it,
whatever version the reading thread has validated. -/
def Invisible (call : RebuildCall) (mapping : Mapping) : Prop :=
  ∀ (target : Target) (path : Str) (op : HookOp) (nowSecs lastValidated : UInt64),
    ((lookup target path op nowSecs lastValidated).run (call.after mapping)).1.1 =
      ((lookup target path op nowSecs lastValidated).run mapping).1.1

/-- Every failed call of a run is invisible. -/
def FailuresInvisible : Mapping → List RebuildCall → Prop
  | _, [] => True
  | mapping, call :: rest =>
      (call.Fails mapping → Invisible call mapping) ∧ FailuresInvisible (call.after mapping) rest

/-- The prefix table that the call would write is the one in place. -/
def PrefixTableInPlace (mapping : Mapping) (entries : List CacheKey) : Prop :=
  mapping.header.prefixCount = UInt64.ofNat (keptPrefixes entries).length ∧
    ∀ index (inside : index < (keptPrefixes entries).length),
      mapping.prefixTable prefixTableStart.toNat index =
        encodePrefix (keptPrefixes entries)[index]

/-- Every failed call of a run meets an odd version word, which no reader gets
past, or brings the directory entries that are already in the table. -/
def FailuresCovered : Mapping → List RebuildCall → Prop
  | _, [] => True
  | mapping, call :: rest =>
      (call.Fails mapping →
        mapping.versionWord &&& 1 = 1 ∨ PrefixTableInPlace mapping call.entries) ∧
      FailuresCovered (call.after mapping) rest

/-! ## One failed call -/

variable {call : RebuildCall} {mapping : Mapping}

/-- A build in the inactive buffer leaves the active hash table alone. -/
theorem active_unchanged {entries : List CacheKey} {before after : Nat → HashEntry}
    {final : Option (Nat → HashEntry)} {word : UInt64}
    (built : HashesBuilt (1 - bufferOf word) entries before after final) {slot : Nat}
    (bound : slot < hashSlotCount.toNat) :
    after (hashTableStart (bufferOf word) + slot * hashEntrySize) =
      before (hashTableStart (bufferOf word) + slot * hashEntrySize) := by
  apply built.frame _
  intro other otherBound
  rcases bufferOf_cases word with ⟨-, zero⟩ | ⟨-, one⟩
  · rw [zero]
    exact hashSlot_ne bound otherBound
  · rw [one]
    exact (hashSlot_ne otherBound bound).symm

/-- What a failed call leaves behind. -/
theorem after_of_fails (layout : HasLayout mapping.header) (fails : call.Fails mapping) :
    ∃ hashAt, call.after mapping =
        { mapping with
          header := { mapping.header with
            prefixCount := UInt64.ofNat (keptPrefixes call.entries).length }
          prefixAt := prefixesWritten mapping.prefixAt call.entries
          hashAt := hashAt } ∧
      ∀ slot < hashSlotCount.toNat,
        hashAt (hashTableStart (bufferOf mapping.versionWord) + slot * hashEntrySize) =
          mapping.hashAt
            (hashTableStart (bufferOf mapping.versionWord) + slot * hashEntrySize) := by
  rcases fails with ⟨error, failed⟩
  unfold RebuildCall.program at failed
  unfold RebuildCall.after RebuildCall.program
  rcases rebuild_cases layout call.mode call.nowSecs call.entries with
    ⟨hashAt, table, built, ran⟩ | ⟨hashAt, message, built, ran⟩
  · rw [ran] at failed
    cases failed
  · exact ⟨hashAt, by rw [ran], fun slot bound => active_unchanged built bound⟩

/-- With its directory entries already in place, a failed call changes nothing
that a lookup in the active buffer reads. -/
theorem sameView_of_inPlace (layout : HasLayout mapping.header) (fails : call.Fails mapping)
    (inPlace : PrefixTableInPlace mapping call.entries) :
    SameView (bufferOf mapping.versionWord) mapping (call.after mapping) ∧
      (call.after mapping).versionWord = mapping.versionWord := by
  rcases after_of_fails layout fails with ⟨hashAt, after, active⟩
  rw [after]
  refine ⟨⟨?_, ?_, fun slot bound => ?_⟩, rfl⟩
  · rw [← inPlace.1]
  · apply writeAll_eq_self
    intro index inside
    have listed : index < (keptPrefixes call.entries).length := by simpa using inside
    rw [Nat.zero_add, List.getElem_map]
    exact inPlace.2 index listed
  · exact active slot bound

/-- A lookup depends on the version word and on its view of the rest. -/
theorem lookup_congr {left right : Mapping} (layout : HasLayout left.header)
    (sameWord : right.versionWord = left.versionWord)
    (view : SameView (bufferOf left.versionWord) left right) (target : Target) (path : Str)
    (op : HookOp) (nowSecs lastValidated : UInt64) :
    ((lookup target path op nowSecs lastValidated).run right).1 =
      ((lookup target path op nowSecs lastValidated).run left).1 := by
  rw [lookup, run_bind, run_bind]
  rcases bufferOf_cases left.versionWord with ⟨even, -⟩ | ⟨odd, -⟩
  · have evenRight : right.versionWord &&& 1 = 0 := by rw [sameWord, even]
    rw [run_acquireVersion_of_even even, run_acquireVersion_of_even evenRight]
    dsimp only
    rw [sameWord]
    exact (sees_lookupAt layout ..).run_fst_eq (SameView.refl _ left) view
  · have oddRight : right.versionWord &&& 1 = 1 := by rw [sameWord, odd]
    rw [run_acquireVersion_of_odd odd, run_acquireVersion_of_odd oddRight]
    rfl

/-- While the version word is odd, a lookup run alone misses. -/
theorem lookup_of_odd (odd : mapping.versionWord &&& 1 = 1) (target : Target) (path : Str)
    (op : HookOp) (nowSecs lastValidated : UInt64) :
    ((lookup target path op nowSecs lastValidated).run mapping).1 = (none, lastValidated) := by
  rw [lookup, run_bind, run_acquireVersion_of_odd odd]
  rfl

theorem invisible_of_fails (layout : HasLayout mapping.header) (fails : call.Fails mapping)
    (covered : mapping.versionWord &&& 1 = 1 ∨ PrefixTableInPlace mapping call.entries) :
    Invisible call mapping := by
  intro target path op nowSecs lastValidated
  rcases covered with odd | inPlace
  · rcases after_of_fails layout fails with ⟨hashAt, after, -⟩
    have oddAfter : (call.after mapping).versionWord &&& 1 = 1 := by
      rw [after]
      exact odd
    rw [lookup_of_odd odd, lookup_of_odd oddAfter]
  · rcases sameView_of_inPlace layout fails inPlace with ⟨view, word⟩
    rw [lookup_congr layout word view]

/-! ## Runs -/

private theorem failuresInvisible_of_layout {calls : List RebuildCall}
    (layout : HasLayout mapping.header) (covered : FailuresCovered mapping calls) :
    FailuresInvisible mapping calls := by
  induction calls generalizing mapping with
  | nil => trivial
  | cons call rest ih =>
      exact ⟨fun fails => invisible_of_fails layout fails (covered.1 fails),
        ih (layout_after layout call) covered.2⟩

/-- In every run from `init_header`, the failed rebuilds are invisible if each of
them meets an odd version word or the directory entries already in place. -/
theorem failuresInvisible_of_covered (mode : EnforcementMode) (raw : Mapping)
    (calls : List RebuildCall) (covered : FailuresCovered (initHeader mode raw) calls) :
    FailuresInvisible (initHeader mode raw) calls :=
  failuresInvisible_of_layout (layout_initHeader mode raw) covered

/-- One file more than there are slots, after a directory entry. -/
def overfullCall (tier : Classification) : RebuildCall where
  mode := .block
  nowSecs := 1000
  entries := ⟨ascii "C:\\DATA\\", tier, 3600⟩ ::
    List.replicate (hashSlotCount.toNat + 1) ⟨ascii "A", .T1, 60⟩

private theorem hashEntries_overfullCall (tier : Classification) :
    hashEntries (overfullCall tier).entries =
      List.replicate (hashSlotCount.toNat + 1) ⟨ascii "A", .T1, 60⟩ := by
  have directory : (!CacheKey.isDirectory ⟨ascii "C:\\DATA\\", tier, 3600⟩) = false := by
    cases tier <;> decide
  have file : (!CacheKey.isDirectory ⟨ascii "A", .T1, 60⟩) = true := by decide
  rw [hashEntries, overfullCall, List.filter_cons_of_neg (by simp [directory])]
  exact List.filter_replicate_of_pos file

private theorem prefixEntries_overfullCall (tier : Classification) :
    prefixEntries (overfullCall tier).entries = [⟨ascii "C:\\DATA\\", tier, 3600⟩] := by
  have directory : CacheKey.isDirectory ⟨ascii "C:\\DATA\\", tier, 3600⟩ = true := by
    cases tier <;> decide
  have file : ¬ CacheKey.isDirectory ⟨ascii "A", .T1, 60⟩ = true := by decide
  rw [prefixEntries, overfullCall, List.filter_cons_of_pos directory,
    List.filter_replicate_of_neg file]

private theorem keptPrefixes_overfullCall (tier : Classification) :
    keptPrefixes (overfullCall tier).entries = [⟨ascii "C:\\DATA\\", tier, 3600⟩] := by
  rw [keptPrefixes, prefixEntries_overfullCall]
  rfl

theorem overfullCall_fails (layout : HasLayout mapping.header) (tier : Classification) :
    (overfullCall tier).Fails mapping := by
  have nonzero : ∀ key ∈ hashEntries (overfullCall tier).entries, fnv1a64 key.path ≠ 0 := by
    intro key key_mem
    rw [hashEntries_overfullCall] at key_mem
    obtain rfl := List.eq_of_mem_replicate key_mem
    decide
  apply (succeeds_or_fails _ mapping).resolve_left
  intro succeeds
  have fits := (succeeds_iff_fits layout nonzero).mp succeeds
  rw [hashEntries_overfullCall, List.length_replicate] at fits
  omega

/-- A failed rebuild that found the directory entries of `dataCall` in place has
replaced them by its own, under the version and checksum of `dataCall`. -/
private theorem published_overfullCall (published : Published dataCall mapping)
    (tier : Classification) :
    Published (overfullCall tier) ((overfullCall tier).after mapping) ∧
      ((overfullCall tier).after mapping).versionWord = mapping.versionWord := by
  obtain ⟨hashAt, after, -⟩ := after_of_fails published.layout
    (overfullCall_fails published.layout tier)
  have sameCount : UInt64.ofNat (keptPrefixes (overfullCall tier).entries).length =
      mapping.header.prefixCount := by
    rw [published.prefixCount, keptPrefixes_overfullCall]
    rfl
  rw [after, sameCount]
  refine ⟨⟨published.layout, sameCount.symm, published.createdAt, published.checksum,
    fun index inside => ?_⟩, rfl⟩
  rw [Mapping.prefixTable_apply]
  exact prefixesWritten_inside mapping.prefixAt (overfullCall tier).entries inside

/-- After two good rebuilds a T4 directory is looked up as T4; a third rebuild
fails, and from then on the same lookup gives T1. -/
theorem not_invisible_overfullCall :
    (overfullCall .T1).Fails (afterCalls (initHeader .block Mapping.zero) [dataCall, dataCall]) ∧
      ((lookup .x64 (ascii "C:\\DATA\\PLAN.TXT") .write 1001 0).run
        (afterCalls (initHeader .block Mapping.zero) [dataCall, dataCall])).1.1 = some .T4 ∧
      ((lookup .x64 (ascii "C:\\DATA\\PLAN.TXT") .write 1001 0).run
        ((overfullCall .T1).after
          (afterCalls (initHeader .block Mapping.zero) [dataCall, dataCall]))).1.1 = some .T1 := by
  have start := layout_initHeader .block Mapping.zero
  have succeed : AllSucceed (initHeader .block Mapping.zero) ([dataCall] ++ [dataCall]) :=
    ⟨dataCall_succeeds start, dataCall_succeeds (layout_after start dataCall), trivial⟩
  rcases published_of_run succeed with ⟨published, parity⟩
  change Published dataCall (afterCalls (initHeader .block Mapping.zero) [dataCall, dataCall])
    at published
  change bufferOf (afterCalls (initHeader .block Mapping.zero) [dataCall, dataCall]).versionWord = 0
    at parity
  generalize afterCalls (initHeader .block Mapping.zero) [dataCall, dataCall] = good
    at published parity ⊢
  have even : good.versionWord &&& 1 = 0 := by
    rcases bufferOf_cases good.versionWord with ⟨even, -⟩ | ⟨-, one⟩
    · exact even
    · rw [one] at parity
      cases parity
  rcases published_overfullCall published .T1 with ⟨replaced, sameWord⟩
  have evenAfter : ((overfullCall .T1).after good).versionWord &&& 1 = 0 := by
    rw [sameWord, even]
  have accepted : normalizePath (ascii "C:\\DATA\\PLAN.TXT") =
      some (ascii "C:\\DATA\\PLAN.TXT") := by decide
  refine ⟨overfullCall_fails published.layout .T1, ?_, ?_⟩
  · rw [published.run_lookup even accepted]
    exact published.searchTables_eq_some (by decide) .x64 _
  · rw [replaced.run_lookup evenAfter accepted]
    refine replaced.searchTables_eq_some ?_ .x64 _
    rw [keptPrefixes_overfullCall]
    change scanEntries (ascii "C:\\DATA\\PLAN.TXT") (ageAt 1001 1000)
      ([⟨ascii "C:\\DATA\\", .T1, 3600⟩].map encodePrefix) = some .T1
    decide

/-- After one good rebuild the version word is odd, and a failed one is invisible. -/
theorem failuresInvisible_after_one :
    (overfullCall .T1).Fails (dataCall.after (initHeader .block Mapping.zero)) ∧
      FailuresInvisible (initHeader .block Mapping.zero) [dataCall, overfullCall .T1] := by
  have start := layout_initHeader .block Mapping.zero
  have first := dataCall_succeeds start
  rcases published_after start first with ⟨published, word⟩
  refine ⟨overfullCall_fails published.layout .T1,
    failuresInvisible_of_covered .block Mapping.zero _ ⟨fun fails => ?_, fun _ => .inl ?_, trivial⟩⟩
  · rcases first with ⟨version, ok⟩
    rcases fails with ⟨error, failed⟩
    rw [ok] at failed
    cases failed
  · rw [word]
    decide

end DlpSystem.Cache
