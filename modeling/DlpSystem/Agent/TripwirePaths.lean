import DlpSystem.Agent.DaclTripwire
import DlpSystem.Lib.ByteSlices
import DlpSystem.Lib.CasedPieces

/-!
# Validation of tripwire paths

`validate_path` on any text, with the byte offset at which it slices the path: the slice
panics where there is no boundary between characters at the offset.
-/

namespace DlpSystem.Agent

open Lib

/-- `symlink_metadata`: the attributes of a file, or the text of an error. -/
inductive SymlinkMetadata
  | attributes (bits : UInt32)
  | failed (error : String)

/-- `FILE_ATTRIBUTE_REPARSE_POINT`. -/
def fileAttributeReparsePoint : UInt32 :=
  0x00000400

/-- The check for reparse points. -/
def rejectReparsePoint (metadata : SymlinkMetadata) (path : Text) :
    Except DaclTripwireError Unit :=
  let pathStr := String.ofList path
  match metadata with
  | .attributes bits =>
      if bits &&& fileAttributeReparsePoint ≠ 0 then
        .error (.invalidPath
          s!"reparse points (junctions/symlinks) are not supported: {pathStr}")
      else .ok ()
  | .failed error => .error (.invalidPath s!"cannot read path metadata: {pathStr}: {error}")

/-- `validate_path`; a panic has no result. -/
def validatePath (casing : Casing) (metadata : SymlinkMetadata) (path : Text) :
    Option (Except DaclTripwireError Unit) :=
  let pathStr := String.ofList path
  if "\\\\".toList <+: path then
    some (.error (.invalidPath s!"UNC paths are not supported: {pathStr}"))
  else if "\\\\?\\".toList <+: path then
    some (.error (.invalidPath s!"extended-length paths are not supported: {pathStr}"))
  else if "\\\\?\\volume\x7b".toList <+: casing.toLowercase path then
    some (.error (.invalidPath s!"volume GUID paths are not supported: {pathStr}"))
  else if '~' ∈ path then
    some (.error (.invalidPath s!"8.3 short names are not supported: {pathStr}"))
  else if ':' ∈ path ∧ path.head?.any Char.isAlpha = false then
    match dropBytes 2 path with
    | none => none
    | some withoutDrive =>
        if ':' ∈ withoutDrive then
          some (.error (.invalidPath s!"alternate data streams are not supported: {pathStr}"))
        else some (rejectReparsePoint metadata path)
  else some (rejectReparsePoint metadata path)

section Validation

variable {casing : Casing} {metadata : SymlinkMetadata} {path : Text}

/-- Only a path of two backslashes has two backslashes in lower case. -/
theorem unc_of_toLowercase (lowered : "\\\\".toList <+: casing.toLowercase path) :
    "\\\\".toList <+: path := by
  have isMark : Casing.IsMark '\\' := by
    unfold Casing.IsMark
    decide
  obtain ⟨tail, split⟩ := lowered
  obtain ⟨rest, rfl, more⟩ :=
    Casing.exists_cons_of_lowerFrom_eq_cons isMark (show _ = '\\' :: ('\\' :: tail) from split.symm)
  obtain ⟨others, rfl, _⟩ := Casing.exists_cons_of_lowerFrom_eq_cons isMark more
  exact ⟨others, rfl⟩

/-- What decides about a path that is no UNC path. -/
theorem validatePath_of_noUnc (noUnc : ¬ "\\\\".toList <+: path) :
    validatePath casing metadata path =
      if '~' ∈ path then
        let pathStr := String.ofList path
        some (.error (.invalidPath s!"8.3 short names are not supported: {pathStr}"))
      else if ':' ∈ path ∧ path.head?.any Char.isAlpha = false then
        (dropBytes 2 path).map fun withoutDrive =>
          if ':' ∈ withoutDrive then
            let pathStr := String.ofList path
            .error (.invalidPath s!"alternate data streams are not supported: {pathStr}")
          else rejectReparsePoint metadata path
      else some (rejectReparsePoint metadata path) := by
  have noExtended : ¬ "\\\\?\\".toList <+: path :=
    fun extended => noUnc (List.IsPrefix.trans ⟨_, rfl⟩ extended)
  have noVolume : ¬ "\\\\?\\volume\x7b".toList <+: casing.toLowercase path :=
    fun volume => noUnc (unc_of_toLowercase (List.IsPrefix.trans ⟨_, rfl⟩ volume))
  rw [validatePath, if_neg noUnc, if_neg noExtended, if_neg noVolume]
  split
  · rfl
  · split
    · cases dropBytes 2 path with
      | none => rfl
      | some withoutDrive =>
          dsimp only [Option.map_some]
          split <;> rfl
    · rfl

/-! ## Paths from the root of a drive -/

/-- What a volume says about a path. -/
def Volume.symlinkMetadata (volume : Volume) (path : String) : SymlinkMetadata :=
  .attributes (if volume.isReparsePoint path then fileAttributeReparsePoint else 0)

/-- A path that starts with a letter is not sliced, and is validated as a volume validates
it. -/
theorem validatePath_eq_volume (volume : Volume) {path : String}
    (letter : path.toList.head?.any Char.isAlpha = true) :
    validatePath casing (volume.symlinkMetadata path) path.toList =
      some (volume.validatePath path) := by
  cases chars : path.toList with
  | nil =>
      rw [chars] at letter
      cases letter
  | cons first rest =>
      rw [chars] at letter
      have isLetter : first.isAlpha = true := letter
      have noBackslash : ∀ char, char = first ∨ char = first.toLower → '\\' ≠ char := by
        rintro char (rfl | rfl) same
        · rw [← same] at isLetter
          cases isLetter
        · rw [← isAlpha_toLower, ← same] at isLetter
          cases isLetter
      have noUnc : ¬ "\\\\".toList <+: first :: rest :=
        fun unc => noBackslash first (Or.inl rfl) (List.cons_prefix_cons.mp unc).1
      have noPattern : ∀ char more (others : Text), char = first ∨ char = first.toLower →
          ('\\' :: more).isPrefixOf (char :: others) = false := by
        intro char more others isChar
        rw [List.isPrefixOf, beq_false_of_ne (noBackslash char isChar), Bool.false_and]
      have same : String.ofList (first :: rest) = path := by
        rw [← chars, String.ofList_toList]
      have noSlice : ¬ (':' ∈ first :: rest ∧ (first :: rest).head?.any Char.isAlpha = false) :=
        fun sliced => by rw [letter] at sliced; cases sliced.2
      have noStream : ¬ (':' ∈ first :: rest ∧ (first :: rest).head?.any Char.isAlpha = false ∧
          ':' ∈ (first :: rest).drop 2) :=
        fun sliced => noSlice ⟨sliced.1, sliced.2.1⟩
      have reparse : rejectReparsePoint (volume.symlinkMetadata path) (first :: rest) =
          if volume.isReparsePoint path then .error (.invalidPath
            s!"reparse points (junctions/symlinks) are not supported: {path}") else .ok () := by
        unfold rejectReparsePoint Volume.symlinkMetadata
        rw [same]
        cases volume.isReparsePoint path <;> rfl
      rw [Volume.validatePath, chars, if_neg (by rw [noPattern first _ rest (Or.inl rfl)]; exact Bool.false_ne_true),
        if_neg (by rw [noPattern first _ rest (Or.inl rfl)]; exact Bool.false_ne_true),
        if_neg (by
          rw [List.map_cons]
          exact (Bool.eq_false_iff).mp (noPattern _ _ _ (Or.inr rfl)))]
      rw [validatePath_of_noUnc noUnc, if_neg noSlice, if_neg noStream, reparse, same]
      by_cases tilde : '~' ∈ first :: rest
      · rw [if_pos tilde, if_pos tilde]
      · rw [if_neg tilde, if_neg tilde]

end Validation

end DlpSystem.Agent
