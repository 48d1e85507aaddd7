import DlpSystem.Disk.Runs
import DlpSystem.Lib.FilledMap

/-!
# Letters after an enumeration

An enumeration of the disks fills the map of drive letters from the connected disks and
from those that the allowlist remembers, in the order of their instance ids.  A remembered
disk that is not connected still has the letter that it once had.
-/

namespace DlpSystem.Disks

open Agent Lib

/-- `handle_enumeration_success`, with what it does to the enumerator. -/
def handleEnumerationSuccess (enumerator : DiskEnumerator) (bootLetter : Option Char)
    (disks tomlDisks : List DiskIdentity) : DiskEnumerator :=
  enumerator.updateDiskEnumerator
    (DiskEnumerator.mergeWithTomlSnapshot (DiskEnumerator.markBootDisk bootLetter disks) tomlDisks)

/-- Every live disk is found under its letter, and no other letter has a disk. -/
structure RoutesLive (letters : LetterMap) (liveDisks : List DiskIdentity) : Prop where
  sends : ∀ disk ∈ liveDisks, ∀ letter ∈ disk.driveLetter, letters.lookup letter = some disk
  only : ∀ letter ∈ letters, ∃ disk ∈ liveDisks, disk.driveLetter = some letter

/-- A remembered disk that is not connected, by its last entry in the allowlist. -/
def IsPhantom (disks tomlDisks : List DiskIdentity) (phantom : DiskIdentity) : Prop :=
  (tomlDisks.reverse.find? fun disk => disk.instanceId = phantom.instanceId) = some phantom ∧
    phantom.instanceId ∉ disks.map DiskIdentity.instanceId

instance (disks tomlDisks : List DiskIdentity) : DecidablePred (IsPhantom disks tomlDisks) :=
  fun _ => inferInstanceAs (Decidable (_ ∧ _))

/-- The condition.  The letter of a disk that is not connected, if it has one, belongs to a
connected disk with a larger instance id. -/
def PhantomsOutranked (disks tomlDisks : List DiskIdentity) : Prop :=
  ∀ phantom ∈ tomlDisks, IsPhantom disks tomlDisks phantom → ∀ letter ∈ phantom.driveLetter,
    ∃ disk ∈ disks, disk.driveLetter = some letter ∧ phantom.instanceId < disk.instanceId

-- The letters of the phantoms are gone through, and not all characters.
instance (disks tomlDisks : List DiskIdentity) : Decidable (PhantomsOutranked disks tomlDisks) :=
  have _ : ∀ phantom : DiskIdentity, Decidable (∀ letter ∈ phantom.driveLetter,
      ∃ disk ∈ disks, disk.driveLetter = some letter ∧ phantom.instanceId < disk.instanceId) :=
    fun phantom => Option.decidableForallMem phantom.driveLetter
  inferInstanceAs (Decidable (∀ phantom ∈ tomlDisks, _))

/-! ## The merged list -/

section Merged

variable {liveDisks tomlDisks : List DiskIdentity}

/-- The merged list is ordered by instance id. -/
theorem pairwise_mergeWithTomlSnapshot (liveDisks tomlDisks : List DiskIdentity) :
    (DiskEnumerator.mergeWithTomlSnapshot liveDisks tomlDisks).Pairwise
      fun left right => left.instanceId ≤ right.instanceId := by
  have sorted : (DiskEnumerator.mergeWithTomlSnapshot liveDisks tomlDisks).Pairwise
      fun left right => decide (left.instanceId ≤ right.instanceId) = true := by
    apply List.pairwise_mergeSort
    · intro first second third left right
      exact decide_eq_true ((of_decide_eq_true left).trans (of_decide_eq_true right))
    · intro left right
      simpa using le_total left.instanceId right.instanceId
  exact sorted.imp of_decide_eq_true

/-- A disk of the merged list is what its id was last given to. -/
theorem mem_mergeWithTomlSnapshot_iff (disk : DiskIdentity) :
    disk ∈ DiskEnumerator.mergeWithTomlSnapshot liveDisks tomlDisks ↔
      ((liveDisks.reverse.find? fun other => other.instanceId = disk.instanceId).or
        (tomlDisks.reverse.find? fun other => other.instanceId = disk.instanceId)) =
          some disk := by
  have collected : DiskEnumerator.collectDisks (tomlDisks ++ liveDisks) =
      fillMap (fun other => some other.instanceId) (tomlDisks ++ liveDisks) := rfl
  have found : (DiskEnumerator.collectDisks (tomlDisks ++ liveDisks)).lookup disk.instanceId =
      (liveDisks.reverse.find? fun other => other.instanceId = disk.instanceId).or
        (tomlDisks.reverse.find? fun other => other.instanceId = disk.instanceId) := by
    rw [collected, lookup_fillMap, List.reverse_append, List.find?_append]
    simp only [Option.some.injEq]
  rw [← found]
  have filed := (DiskEnumerator.collectDisks_spec (tomlDisks ++ liveDisks)).1
  rw [DiskEnumerator.mergeWithTomlSnapshot, List.mem_mergeSort, List.mem_map]
  constructor
  · rintro ⟨entry, member, rfl⟩
    rw [filed entry member]
    exact AList.mem_lookup_iff.mpr member
  · intro present
    exact ⟨⟨disk.instanceId, disk⟩, AList.mem_lookup_iff.mp present, rfl⟩

/-- The merged list has the live disks and the phantoms. -/
theorem mem_merged_iff (ids : (liveDisks.map DiskIdentity.instanceId).Nodup)
    (disk : DiskIdentity) :
    disk ∈ DiskEnumerator.mergeWithTomlSnapshot liveDisks tomlDisks ↔
      disk ∈ liveDisks ∨ IsPhantom liveDisks tomlDisks disk := by
  rw [mem_mergeWithTomlSnapshot_iff]
  cases found : liveDisks.reverse.find? fun other => other.instanceId = disk.instanceId with
  | none =>
      have absent : disk.instanceId ∉ liveDisks.map DiskIdentity.instanceId := by
        intro member
        obtain ⟨other, live, same⟩ := List.mem_map.mp member
        have passed := List.find?_eq_none.mp found other (List.mem_reverse.mpr live)
        simp [same] at passed
      rw [Option.none_or, IsPhantom, and_iff_left absent]
      constructor
      · exact .inr
      · rintro (live | phantom)
        · exact absurd (List.mem_map_of_mem live) absent
        · exact phantom
  | some other =>
      have live : other ∈ liveDisks := List.mem_reverse.mp (List.mem_of_find?_eq_some found)
      have same : other.instanceId = disk.instanceId := by simpa using List.find?_some found
      rw [Option.some_or, Option.some.injEq]
      constructor
      · rintro rfl
        exact .inl live
      · rintro (member | ⟨-, absent⟩)
        · exact List.inj_on_of_nodup_map ids live member same
        · exact absurd (same ▸ List.mem_map_of_mem live) absent

end Merged

/-! ## Letters -/

section Letters

variable {liveDisks tomlDisks : List DiskIdentity}

/-- Two disks with one letter are one disk. -/
theorem eq_of_driveLetter_eq (letters : (liveDisks.filterMap DiskIdentity.driveLetter).Nodup)
    {left right : DiskIdentity} (leftLive : left ∈ liveDisks) (rightLive : right ∈ liveDisks)
    {letter : Char} (leftLetter : left.driveLetter = some letter)
    (rightLetter : right.driveLetter = some letter) : left = right := by
  have apart := List.pairwise_filterMap.mp letters
  have symmetric : Std.Symm fun left right : DiskIdentity =>
      ∀ first, left.driveLetter = some first → ∀ second, right.driveLetter = some second →
        first ≠ second :=
    ⟨fun _ _ differ first isFirst second isSecond same =>
      differ second isSecond first isFirst same.symm⟩
  by_contra differ
  exact absurd rfl (apart.forall leftLive rightLive differ letter leftLetter letter rightLetter)

/-- The letters of a merged list: its disk of the largest instance id has a letter. -/
theorem routesLive_fillMap_iff (ids : (liveDisks.map DiskIdentity.instanceId).Nodup)
    (letters : (liveDisks.filterMap DiskIdentity.driveLetter).Nodup) :
    RoutesLive (fillMap DiskIdentity.driveLetter
        (DiskEnumerator.mergeWithTomlSnapshot liveDisks tomlDisks)) liveDisks ↔
      PhantomsOutranked liveDisks tomlDisks := by
  have ascending := pairwise_mergeWithTomlSnapshot liveDisks tomlDisks
  constructor
  · intro routes phantom remembered isPhantom letter lettered
    have merged := (mem_merged_iff ids phantom).mpr (.inr isPhantom)
    obtain ⟨winner, found⟩ := exists_lookup_fillMap merged lettered
    obtain ⟨disk, live, diskLetter⟩ := routes.only letter (AList.lookup_isSome.mp (by simp [found]))
    have winnerIs := routes.sends disk live letter diskLetter
    have below : phantom.instanceId ≤ disk.instanceId :=
      rank_le_of_lookup_fillMap ascending winnerIs merged lettered
    have differs : phantom.instanceId ≠ disk.instanceId := by
      intro same
      exact isPhantom.2 (same ▸ List.mem_map_of_mem live)
    exact ⟨disk, live, diskLetter, lt_of_le_of_ne below differs⟩
  · intro outranked
    have phantomOf : ∀ disk ∈ DiskEnumerator.mergeWithTomlSnapshot liveDisks tomlDisks,
        disk ∉ liveDisks → ∀ letter ∈ disk.driveLetter, ∃ live ∈ liveDisks,
          live.driveLetter = some letter ∧ disk.instanceId < live.instanceId := by
      intro disk merged notLive letter lettered
      have isPhantom := ((mem_merged_iff ids disk).mp merged).resolve_left notLive
      have remembered := List.mem_reverse.mp (List.mem_of_find?_eq_some isPhantom.1)
      exact outranked disk remembered isPhantom letter lettered
    constructor
    · intro disk live letter lettered
      have merged : disk ∈ DiskEnumerator.mergeWithTomlSnapshot liveDisks tomlDisks :=
        (mem_merged_iff ids disk).mpr (.inl live)
      obtain ⟨winner, found⟩ := exists_lookup_fillMap merged lettered
      obtain ⟨winnerMerged, winnerLetter⟩ := mem_of_lookup_fillMap found
      rw [found]
      by_cases winnerLive : winner ∈ liveDisks
      · rw [eq_of_driveLetter_eq letters winnerLive live winnerLetter lettered]
      · obtain ⟨other, otherLive, otherLetter, larger⟩ :=
          phantomOf winner winnerMerged winnerLive letter winnerLetter
        cases eq_of_driveLetter_eq letters otherLive live otherLetter lettered
        exact absurd (rank_le_of_lookup_fillMap ascending found merged lettered) (not_le.mpr larger)
    · intro letter present
      obtain ⟨winner, found⟩ := Option.isSome_iff_exists.mp (AList.lookup_isSome.mpr present)
      obtain ⟨winnerMerged, winnerLetter⟩ := mem_of_lookup_fillMap found
      by_cases winnerLive : winner ∈ liveDisks
      · exact ⟨winner, winnerLive, winnerLetter⟩
      · obtain ⟨other, otherLive, otherLetter, -⟩ :=
          phantomOf winner winnerMerged winnerLive letter winnerLetter
        exact ⟨other, otherLive, otherLetter⟩

end Letters

/-- A phantom of the machine is one of its disks as they are marked. -/
theorem phantomsOutranked_markBootDisk (bootLetter : Option Char)
    (disks tomlDisks : List DiskIdentity) :
    PhantomsOutranked (DiskEnumerator.markBootDisk bootLetter disks) tomlDisks ↔
      PhantomsOutranked disks tomlDisks := by
  have pairs : (DiskEnumerator.markBootDisk bootLetter disks).map
        (fun disk => (disk.driveLetter, disk.instanceId)) =
      disks.map fun disk => (disk.driveLetter, disk.instanceId) :=
    DiskEnumerator.map_markBootDisk _ (fun _ => rfl) bootLetter disks
  have outranks : ∀ (live : List DiskIdentity) (letter : Char) (instanceId : String),
      (∃ disk ∈ live, disk.driveLetter = some letter ∧ instanceId < disk.instanceId) ↔
        ∃ pair ∈ live.map fun disk => (disk.driveLetter, disk.instanceId),
          pair.1 = some letter ∧ instanceId < pair.2 := by
    simp
  simp only [PhantomsOutranked, IsPhantom, DiskEnumerator.markBootDisk_ids, outranks, pairs]

/-- After an enumeration the letters lead to the live disks exactly if every disk that is not
connected has no letter or is outranked by the connected disk of its letter. -/
theorem routesLive_iff (enumerator : DiskEnumerator) (bootLetter : Option Char)
    (disks tomlDisks : List DiskIdentity) (ids : (disks.map DiskIdentity.instanceId).Nodup)
    (letters : (disks.filterMap DiskIdentity.driveLetter).Nodup) :
    RoutesLive (handleEnumerationSuccess enumerator bootLetter disks tomlDisks).driveLetterMap
        (DiskEnumerator.markBootDisk bootLetter disks) ↔
      PhantomsOutranked disks tomlDisks := by
  have filled :
      (handleEnumerationSuccess enumerator bootLetter disks tomlDisks).driveLetterMap =
        fillMap DiskIdentity.driveLetter (DiskEnumerator.mergeWithTomlSnapshot
          (DiskEnumerator.markBootDisk bootLetter disks) tomlDisks) := by
    rw [handleEnumerationSuccess, DiskEnumerator.updateDiskEnumerator, fillMap]
    dsimp only
    congr 1
    funext map disk
    cases disk.driveLetter with
    | none => rfl
    | some letter => rfl
  rw [filled, routesLive_fillMap_iff, phantomsOutranked_markBootDisk]
  · rw [DiskEnumerator.markBootDisk_ids]
    exact ids
  · have byLetters : ∀ live : List DiskIdentity, live.filterMap DiskIdentity.driveLetter =
        (live.map DiskIdentity.driveLetter).filterMap id := by
      intro live
      rw [List.filterMap_map]
      rfl
    rw [byLetters, DiskEnumerator.map_markBootDisk _ (fun _ => rfl), ← byLetters]
    exact letters

/-- A remembered disk that once had the letter of a connected one, with a smaller id. -/
theorem routesLive_outranked :
    RoutesLive (handleEnumerationSuccess .new (some 'C') [sampleDisk "B" 'E', sampleDisk "C" 'C']
        [sampleDisk "A" 'E', sampleDisk "C" 'D']).driveLetterMap
      (DiskEnumerator.markBootDisk (some 'C') [sampleDisk "B" 'E', sampleDisk "C" 'C']) :=
  (routesLive_iff .new (some 'C') [sampleDisk "B" 'E', sampleDisk "C" 'C']
    [sampleDisk "A" 'E', sampleDisk "C" 'D'] (by decide) (by decide)).mpr (by decide +kernel)

/-- The remembered disk with the larger id takes the letter of the connected one. -/
theorem phantom_takes_letter :
    ¬ RoutesLive (handleEnumerationSuccess .new none [sampleDisk "A" 'E']
        [sampleDisk "B" 'E']).driveLetterMap
      (DiskEnumerator.markBootDisk none [sampleDisk "A" 'E']) := by
  intro routes
  have sent := routes.sends (sampleDisk "A" 'E') List.mem_cons_self 'E' rfl
  have merged : DiskEnumerator.mergeWithTomlSnapshot
      (DiskEnumerator.markBootDisk none [sampleDisk "A" 'E']) [sampleDisk "B" 'E'] =
        [sampleDisk "A" 'E', sampleDisk "B" 'E'] :=
    List.mergeSort_of_pairwise (by decide +kernel)
  have taken : (handleEnumerationSuccess .new none [sampleDisk "A" 'E']
      [sampleDisk "B" 'E']).driveLetterMap.lookup 'E' = some (sampleDisk "B" 'E') := by
    rw [handleEnumerationSuccess, merged]
    decide +kernel
  exact absurd (sent.symm.trans taken) (by decide)

end DlpSystem.Disks
