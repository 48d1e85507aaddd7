import DlpSystem.Agent.PolicyMapper
import Mathlib.Logic.Function.Basic

/-!
# The DACL tripwire

`build_canonical_security_descriptor` and what is built on it: a protected path gets a
DACL with a Deny entry for all users, in front of the entries that it had.  A DACL is the
list of its entries in the text form of Windows, and the calls of Windows succeed, and read
and write it as it is; SIDs stay as they are written.
-/

namespace DlpSystem.Agent

open Abac

/-- The entries of a DACL. -/
abbrev Dacl := List String

/-- `CanonicalAclSnapshot`, by its entries. -/
structure CanonicalAclSnapshot where
  dacl : Dacl
  deriving DecidableEq

/-- `DaclTripwireError`, without the failures of Windows. -/
inductive DaclTripwireError
  | aclTooLarge (path : String) (sizeKb : Nat)
  | invalidPath (message : String)
  | walkError (message : String)
  deriving DecidableEq

/-- `MAX_ACL_SIZE_BYTES`. -/
def maxAclSizeBytes : Nat := 60 * 1024

/-- `MAX_RECURSIVE_FILES`. -/
def maxRecursiveFiles : Nat := 10000

/-- The files of a machine, as far as their protection goes. -/
structure Volume where
  /-- What stands before the DACL in the text of a descriptor. -/
  ownerAndGroup : String → String
  dacl : String → Dacl
  isReparsePoint : String → Bool
  /-- The bytes that a DACL takes as a binary. -/
  aclSize : Dacl → Nat

/-- `DENIED_MASK`: write, delete, change permissions, take ownership. -/
def deniedMask : UInt32 :=
  0x00120116 ||| 0x00010000 ||| 0x00040000 ||| 0x00080000

/-- A mask as eight hexadecimal digits. -/
def hexMask (mask : UInt32) : String :=
  let digits := (Nat.toDigits 16 mask.toNat).map Char.toUpper
  String.ofList (List.replicate (8 - digits.length) '0' ++ digits)

/-- The tripwire: a Deny entry for all authenticated users. -/
def denyAce : String :=
  "(D;;0x" ++ hexMask deniedMask ++ ";;;S-1-5-11)"

example : denyAce = "(D;;0x001F0116;;;S-1-5-11)" := by decide +kernel

/-- The entry that allows everything to SYSTEM. -/
def systemAce : String := "(A;;FA;;;S-1-5-18)"

/-- The entry that allows everything to the administrators of the product. -/
def adminAce (dlpAdminSid : String) : String :=
  "(A;;FA;;;" ++ dlpAdminSid ++ ")"

/-- The DACL part of a security descriptor in text form. -/
def sddlText (dacl : Dacl) : String :=
  "D:" ++ String.join dacl

/-- The loop over the characters of a DACL text: an entry ends where the parentheses are
balanced. -/
def splitAces : Int → List Char → List Char → List String
  | _, _, [] => []
  | depth, current, char :: rest =>
      if char = '(' then
        splitAces (depth + 1) ((if depth = 0 then [] else current) ++ [char]) rest
      else if char = ')' then
        let ace := current ++ [char]
        if depth - 1 = 0 then String.ofList ace :: splitAces (depth - 1) ace rest
        else splitAces (depth - 1) ace rest
      else splitAces depth (current ++ [char]) rest

/-- An entry of the given kind that names a SID. -/
def isAceFor (kind sid ace : String) : Bool :=
  containsText ace.toList sid.toList && kind.toList.isPrefixOf ace.toList

/-- An entry that is carried over: not the tripwire, and not one of those in front of it. -/
def keepsAce (dlpAdminSid : Option String) (ace : String) : Bool :=
  !isAceFor "(D;" "S-1-5-11" ace && !isAceFor "(A;" "S-1-5-18" ace &&
    !(dlpAdminSid.any fun sid => isAceFor "(A;" sid ace)

/-- The entries that are carried over from a descriptor in text form.  Nothing is carried
over unless the text starts with the DACL. -/
def keptAces (existingSddl : String) (dlpAdminSid : Option String) : Dacl :=
  match existingSddl.toList with
  | 'D' :: ':' :: daclPart => (splitAces 0 [] daclPart).filter (keepsAce dlpAdminSid)
  | _ => []

/-- The entries that `build_canonical_security_descriptor` builds, in their order. -/
def canonicalDacl (existingSddl : String) (dlpAdminSid : Option String)
    (includeDenyAce : Bool) : Dacl :=
  [systemAce] ++ (dlpAdminSid.map adminAce).toList ++
    (if includeDenyAce then [denyAce] else []) ++ keptAces existingSddl dlpAdminSid

/-- `should_apply_tripwire_for_global_mode`. -/
def shouldApplyTripwireForGlobalMode (globalMode : EnforcementMode) : Bool :=
  decide (globalMode ≠ .audit)

/-- The tripwire stands in a DACL. -/
def hasTripwire (dacl : Dacl) : Bool :=
  decide (denyAce ∈ dacl)

theorem adminAce_ne_denyAce (dlpAdminSid : String) : adminAce dlpAdminSid ≠ denyAce := by
  intro same
  have chars := congrArg String.toList same
  have deny : denyAce.toList.take 2 = ['(', 'D'] := by decide +kernel
  have allow : (adminAce dlpAdminSid).toList.take 2 = ['(', 'A'] := by
    simp [adminAce]
  rw [chars, deny] at allow
  exact absurd allow (by decide)

theorem denyAce_not_kept (existingSddl : String) (dlpAdminSid : Option String) :
    denyAce ∉ keptAces existingSddl dlpAdminSid := by
  unfold keptAces
  split
  · intro member
    have recognized : isAceFor "(D;" "S-1-5-11" denyAce = true := by decide +kernel
    have keeps := (List.mem_filter.mp member).2
    rw [keepsAce, recognized] at keeps
    cases keeps
  · exact List.not_mem_nil

/-- The tripwire stands in a canonical DACL exactly if it is asked for. -/
theorem hasTripwire_canonical (existingSddl : String) (dlpAdminSid : Option String)
    (includeDenyAce : Bool) :
    hasTripwire (canonicalDacl existingSddl dlpAdminSid includeDenyAce) = includeDenyAce := by
  have system : denyAce ≠ systemAce := by decide +kernel
  have admin : denyAce ∉ (dlpAdminSid.map adminAce).toList := by
    cases dlpAdminSid with
    | none => simp
    | some sid => simpa using (adminAce_ne_denyAce sid).symm
  have kept := denyAce_not_kept existingSddl dlpAdminSid
  cases includeDenyAce with
  | true => simp [hasTripwire, canonicalDacl]
  | false =>
      simp only [hasTripwire, canonicalDacl, Bool.false_eq_true, if_false,
        List.append_nil, List.mem_append, List.mem_singleton, decide_eq_false_iff_not, not_or]
      exact ⟨⟨system, admin⟩, kept⟩

namespace Volume

variable {volume : Volume}

/-- `GetFileSecurityW`: the descriptor of a path in text form. -/
def readSddl (volume : Volume) (path : String) : String :=
  volume.ownerAndGroup path ++ sddlText (volume.dacl path)

/-- `SetFileSecurityW`. -/
def writeDacl (volume : Volume) (path : String) (dacl : Dacl) : Volume :=
  { volume with dacl := Function.update volume.dacl path dacl }

@[simp]
theorem writeDacl_self (volume : Volume) (path : String) (dacl : Dacl) :
    (volume.writeDacl path dacl).dacl path = dacl := by
  simp only [writeDacl, Function.update_self]

theorem writeDacl_ne (volume : Volume) {path other : String} (dacl : Dacl)
    (differs : other ≠ path) : (volume.writeDacl path dacl).dacl other = volume.dacl other := by
  simp only [writeDacl, Function.update_of_ne differs]

/-- `validate_path`.  A second colon is looked for only where the path does not start with
a letter, which no protected path does. -/
def validatePath (volume : Volume) (path : String) : Except DaclTripwireError Unit :=
  let chars := path.toList
  if ['\\', '\\'].isPrefixOf chars then
    .error (.invalidPath s!"UNC paths are not supported: {path}")
  else if ['\\', '\\', '?', '\\'].isPrefixOf chars then
    .error (.invalidPath s!"extended-length paths are not supported: {path}")
  else if "\\\\?\\volume\x7b".toList.isPrefixOf (chars.map Char.toLower) then
    .error (.invalidPath s!"volume GUID paths are not supported: {path}")
  else if '~' ∈ chars then
    .error (.invalidPath s!"8.3 short names are not supported: {path}")
  else if ':' ∈ chars ∧ (chars.head?.any Char.isAlpha) = false ∧ ':' ∈ chars.drop 2 then
    .error (.invalidPath s!"alternate data streams are not supported: {path}")
  else if volume.isReparsePoint path then
    .error (.invalidPath s!"reparse points (junctions/symlinks) are not supported: {path}")
  else .ok ()

/-- `build_canonical_security_descriptor`. -/
def buildCanonicalSecurityDescriptor (volume : Volume) (dlpAdminSid : Option String)
    (includeDenyAce : Bool) (path : String) : Except DaclTripwireError CanonicalAclSnapshot :=
  let dacl := canonicalDacl (volume.readSddl path) dlpAdminSid includeDenyAce
  if volume.aclSize dacl > maxAclSizeBytes then
    .error (.aclTooLarge path (volume.aclSize dacl / 1024))
  else .ok ⟨dacl⟩

/-- What `apply_tripwire_to_path` and `remove_tripwire_by_rebuilding_without_deny` share. -/
def rebuildAcl (volume : Volume) (dlpAdminSid : Option String) (includeDenyAce : Bool)
    (path : String) : Except DaclTripwireError (CanonicalAclSnapshot × Volume) := do
  volume.validatePath path
  let snapshot ← volume.buildCanonicalSecurityDescriptor dlpAdminSid includeDenyAce path
  return (snapshot, volume.writeDacl path snapshot.dacl)

/-- `apply_tripwire_to_path`. -/
def applyTripwireToPath (volume : Volume) (dlpAdminSid : Option String) (path : String) :
    Except DaclTripwireError (CanonicalAclSnapshot × Volume) :=
  volume.rebuildAcl dlpAdminSid true path

/-- `remove_tripwire_by_rebuilding_without_deny`. -/
def removeTripwireByRebuildingWithoutDeny (volume : Volume) (dlpAdminSid : Option String)
    (path : String) : Except DaclTripwireError (CanonicalAclSnapshot × Volume) :=
  volume.rebuildAcl dlpAdminSid false path

/-- `remove_tripwire_from_path`: the snapshot is written as it is. -/
def removeTripwireFromPath (volume : Volume) (path : String)
    (originalSnapshot : CanonicalAclSnapshot) : Except DaclTripwireError Volume :=
  if volume.aclSize originalSnapshot.dacl > maxAclSizeBytes then
    .error (.aclTooLarge path (volume.aclSize originalSnapshot.dacl / 1024))
  else .ok (volume.writeDacl path originalSnapshot.dacl)

/-- The second pass of `apply_tripwire_recursive`.  It stops at a DACL that is too large,
and what it has written by then stays. -/
def applyTripwires (volume : Volume) (dlpAdminSid : Option String)
    (snapshots : List CanonicalAclSnapshot) :
    List String → Except DaclTripwireError (List CanonicalAclSnapshot) × Volume
  | [] => (.ok snapshots, volume)
  | entry :: rest =>
      match volume.applyTripwireToPath dlpAdminSid entry with
      | .ok (snapshot, after) =>
          applyTripwires after dlpAdminSid (snapshots ++ [snapshot]) rest
      | .error (.aclTooLarge path sizeKb) => (.error (.aclTooLarge path sizeKb), volume)
      | .error _ => applyTripwires volume dlpAdminSid snapshots rest

/-- `apply_tripwire_recursive`, by the entries that the walk finds. -/
def applyTripwireRecursive (volume : Volume) (dlpAdminSid : Option String)
    (entries : List String) :
    Except DaclTripwireError (List CanonicalAclSnapshot) × Volume :=
  if entries.length > maxRecursiveFiles then
    (.error (.walkError s!"Path exceeds {maxRecursiveFiles} file limit — activation rejected"),
      volume)
  else volume.applyTripwires dlpAdminSid [] entries

/-- A rebuilt DACL is the one of the snapshot, and has the tripwire as asked. -/
theorem rebuildAcl_ok {dlpAdminSid : Option String} {includeDenyAce : Bool} {path : String}
    {snapshot : CanonicalAclSnapshot} {after : Volume}
    (rebuilt : volume.rebuildAcl dlpAdminSid includeDenyAce path = .ok (snapshot, after)) :
    after = volume.writeDacl path snapshot.dacl ∧ hasTripwire snapshot.dacl = includeDenyAce := by
  unfold rebuildAcl buildCanonicalSecurityDescriptor at rebuilt
  cases validated : volume.validatePath path with
  | error reason =>
      rw [validated] at rebuilt
      cases rebuilt
  | ok valid =>
      rw [validated] at rebuilt
      dsimp only at rebuilt
      split at rebuilt
      · cases rebuilt
      · cases rebuilt
        exact ⟨rfl, hasTripwire_canonical _ _ _⟩

/-- Every snapshot of the walk has the tripwire. -/
theorem hasTripwire_of_applyTripwires {dlpAdminSid : Option String}
    {taken snapshots : List CanonicalAclSnapshot} {entries : List String}
    (earlier : ∀ snapshot ∈ taken, hasTripwire snapshot.dacl = true)
    (applied : (volume.applyTripwires dlpAdminSid taken entries).1 = .ok snapshots) :
    ∀ snapshot ∈ snapshots, hasTripwire snapshot.dacl = true := by
  induction entries generalizing volume taken with
  | nil =>
      cases applied
      exact earlier
  | cons entry rest ih =>
      unfold applyTripwires at applied
      split at applied
      · rename_i snapshot after rebuilt
        refine ih (fun other member => ?_) applied
        rcases List.mem_append.mp member with old | new
        · exact earlier other old
        · rw [List.mem_singleton.mp new]
          exact (rebuildAcl_ok rebuilt).2
      · cases applied
      · exact ih earlier applied

theorem hasTripwire_of_applyTripwireRecursive {dlpAdminSid : Option String}
    {snapshots : List CanonicalAclSnapshot} {entries : List String}
    (applied : (volume.applyTripwireRecursive dlpAdminSid entries).1 = .ok snapshots) :
    ∀ snapshot ∈ snapshots, hasTripwire snapshot.dacl = true := by
  unfold applyTripwireRecursive at applied
  split at applied
  · cases applied
  · exact hasTripwire_of_applyTripwires (fun _ member => absurd member List.not_mem_nil) applied

end Volume

/-! ## Staged changes of protected paths

The table `protected_paths_staging`: which protected paths are about to lose their
tripwire, and which have lost it.  Rows are filed under the canonical spelling of a path.
-/

/-- `NormalizeError`. -/
inductive NormalizeError
  | notAbsolute
  | traversal
  deriving DecidableEq

/-- `normalize_protected_path`. -/
def normalizeProtectedPath (path : String) : Except NormalizeError String :=
  let chars := path.toList
  if chars = [] then .error .notAbsolute
  else if ['.', '.'] ∈ chars.splitOnP (fun char => char = '\\' || char = '/') then
    .error .traversal
  else
    let normalized := chars.map fun char => if char = '/' then '\\' else char
    let isDriveLetter :=
      match normalized with
      | letter :: ':' :: _ => letter.isAlpha
      | _ => false
    let isUnc := ['\\', '\\'].isPrefixOf normalized
    if isDriveLetter = false ∧ isUnc = false then .error .notAbsolute
    else
      let upper := normalized.map Char.toUpper
      .ok (String.ofList (if ['\\'].isSuffixOf upper then upper else upper ++ ['\\']))

example : (normalizeProtectedPath "c:/data").toOption = some "C:\\DATA\\" := by decide +kernel

/-- The operations of staging rows. -/
inductive StagingOperation
  | add
  | remove
  deriving DecidableEq

/-- `StagingRow`, without its path. -/
structure StagingRow where
  operation : StagingOperation
  stagedAt : Nat
  appliedAt : Option Nat
  deriving DecidableEq

/-- A removal that has not been applied yet. -/
def StagingRow.isOpenRemoval (row : StagingRow) : Bool :=
  decide (row.operation = .remove) && row.appliedAt.isNone

/-- The rows by path. -/
abbrev StagingTable := String → Option StagingRow

namespace StagingTable

/-- `stage_removals`.  Paths that cannot be normalized are left out. -/
def stageRemovals (table : StagingTable) (now : Nat) (paths : List String) : StagingTable :=
  paths.foldl
    (fun table path =>
      match normalizeProtectedPath path with
      | .ok normalized => Function.update table normalized (some ⟨.remove, now, none⟩)
      | .error _ => table)
    table

/-- `clear_staged_removals`. -/
def clearStagedRemovals (table : StagingTable) (paths : List String) : StagingTable :=
  paths.foldl
    (fun table path =>
      match normalizeProtectedPath path with
      | .ok normalized =>
          Function.update table normalized
            ((table normalized).filter fun row => decide (row.operation ≠ .remove))
      | .error _ => table)
    table

/-- `mark_applied_locked`: a row that is not there is not added. -/
def markAppliedLocked (table : StagingTable) (now : Nat) (normalized : String) : StagingTable :=
  Function.update table normalized
    ((table normalized).map fun row => { row with appliedAt := some now })

/-- `gc_expired_rows`: rows that were applied go when they are older than `ttl`. -/
def gcExpiredRows (table : StagingTable) (now ttl : Nat) : StagingTable :=
  fun path =>
    (table path).filter fun row => row.appliedAt.isNone || decide (now ≤ row.stagedAt + ttl)

/-- One round of the loop of `migrate_staging_keys`, with the number of rows re-keyed. -/
def migrateStagingKey (state : StagingTable × Nat) (raw : String) : StagingTable × Nat :=
  let (table, migrated) := state
  match normalizeProtectedPath raw with
  | .error _ => (table, migrated)
  | .ok canonical =>
      if canonical = raw then (table, migrated)
      else if (table canonical).isSome then (Function.update table raw none, migrated + 1)
      else
        (Function.update (Function.update table canonical (table raw)) raw none, migrated + 1)

/-- `migrate_staging_keys`, for the paths in the order in which the query lists them. -/
def migrateStagingKeys (table : StagingTable) (rawPaths : List String) : StagingTable × Nat :=
  rawPaths.foldl migrateStagingKey (table, 0)

end StagingTable

end DlpSystem.Agent
