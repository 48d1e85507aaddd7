import DlpSystem.Agent.EnforcementPaths
import DlpSystem.Agent.ProcessAllowlist
import DlpSystem.Common.Classifier
import DlpSystem.Lib.ByteSlices

/-!
# Enforcement for cloud storage

`detect_share_links` looks for the share paths of four cloud providers in a lower-cased copy of
a text, and takes the links out of the text itself at the byte offsets found there.  The sync
folders of the providers follow below.
-/

namespace DlpSystem.Agent

open Lib

/-- `CloudProvider`. -/
inductive CloudProvider
  | oneDrive
  | googleDrive
  | dropbox
  | box
  deriving DecidableEq

/-- `DetectedShareLink`. -/
structure DetectedShareLink where
  provider : CloudProvider
  url : Text
  deriving DecidableEq

/-- `ProviderPatterns`. -/
structure ProviderPatterns where
  provider : CloudProvider
  patterns : List Text

/-- `PROVIDER_PATTERNS`. -/
def providerPatterns : List ProviderPatterns :=
  [{ provider := .oneDrive
     patterns := [
       "1drv.ms/".toList,
       "onedrive.live.com/".toList,
       "sharepoint.com/s/".toList,
       "sharepoint.com/?share=".toList] },
   { provider := .googleDrive
     patterns := [
       "drive.google.com/file/d/".toList,
       "drive.google.com/drive/folders/".toList,
       "docs.google.com/document/d/".toList,
       "docs.google.com/spreadsheets/d/".toList,
       "docs.google.com/presentation/d/".toList] },
   { provider := .dropbox
     patterns := [
       "dropbox.com/s/".toList,
       "dropbox.com/sh/".toList,
       "dropbox.com/scl/".toList] },
   { provider := .box
     patterns := ["//app.box.com/s/".toList, "//box.com/s/".toList] }]

/-- `char::is_ascii_whitespace`. -/
def isAsciiWhitespaceChar (char : Char) : Bool :=
  char ∈ [' ', '\t', '\n', '\x0c', '\r']

/-! ## The search -/

/-- The lower-cased text in front of the first occurrence of the first pattern that occurs. -/
def matchFront (lower : Text) (patterns : List Text) : Option Text :=
  patterns.findSome? fun pattern => (lower.dropInfix? pattern).map Prod.fst

/-- The text in front of the last `http` of a text, or all of it. -/
def linkFront (front : Text) : Text :=
  match front.reverse.dropInfix? "http".toList.reverse with
  | some (_, before) => before.reverse
  | none => front

/-- One round of the loop over the providers.  It panics if the offset in the lower-cased copy
is no offset of a character of the text. -/
def detectProvider (casing : Casing) (text : Text) (results : List DetectedShareLink)
    (row : ProviderPatterns) : Option (List DetectedShareLink) :=
  match matchFront (casing.toLowercase text) row.patterns with
  | some front =>
      (dropBytes (byteLength (linkFront front)) text).map fun slice =>
        results ++ [⟨row.provider, slice.takeWhile fun char => !isAsciiWhitespaceChar char⟩]
  | none => some results

/-- `detect_share_links`.  Without a value it has panicked. -/
def detectShareLinks (casing : Casing) (text : Text) : Option (List DetectedShareLink) :=
  providerPatterns.foldlM (detectProvider casing text) []

/-! ## Enforcement in cloud sync folders

`CloudEnforcer` denies writes of sensitive files whose path starts, in lower case, with that of
a sync folder.  A `PathBuf` gives back the text that it was made of.
-/

open Abac Common

/-- `CloudProvider::display_name`. -/
def CloudProvider.displayName : CloudProvider → String
  | oneDrive => "OneDrive"
  | googleDrive => "Google Drive"
  | dropbox => "Dropbox"
  | box => "Box"

theorem CloudProvider.displayName_injective : Function.Injective displayName := by
  rintro ⟨⟩ ⟨⟩ <;> simp [displayName]

/-- `PathSource`. -/
inductive PathSource
  | registry
  | fallback
  deriving DecidableEq

/-- `SyncPath`. -/
structure SyncPath where
  provider : CloudProvider
  path : Text
  source : PathSource
  deriving DecidableEq

/-- `std::env::var`. -/
abbrev EnvVars :=
  Text → Option Text

/-- `expand_env_vars`: only a variable at the start. -/
def expandEnvVars (env : EnvVars) : Text → Text
  | '%' :: afterPct =>
      if '%' ∈ afterPct then
        match env (afterPct.takeWhile fun char => char ≠ '%') with
        | some value => value ++ (afterPct.dropWhile fun char => char ≠ '%').drop 1
        | none => '%' :: afterPct
      else '%' :: afterPct
  | raw => raw

/-- `normalize_path`. -/
def normalizePath (env : EnvVars) (raw : Text) : Text :=
  let text := expandEnvVars env raw
  if text.getLast? = some '\\' then text else text ++ ['\\']

/-- `Classification::label`, its `Display`. -/
def classificationLabel : Classification → String
  | .T1 => "Public"
  | .T2 => "Internal"
  | .T3 => "Confidential"
  | .T4 => "Restricted"

/-- `CloudBlockResult`. -/
structure CloudBlockResult where
  decision : Decision
  reason : String
  provider : String
  notify : Bool
  deriving DecidableEq

/-- `is_write_like_action`. -/
def isWriteLikeAction : FileAction → Bool
  | .created _ | .written _ | .moved _ _ => true
  | _ => false

/-- `CloudEnforcer`. -/
structure CloudEnforcer where
  syncPaths : List SyncPath

namespace CloudEnforcer

/-- `with_sync_paths`. -/
def withSyncPaths (syncPaths : List SyncPath) : CloudEnforcer :=
  ⟨syncPaths⟩

/-- `detect_sync_provider`. -/
def detectSyncProvider (enforcer : CloudEnforcer) (casing : Casing) (path : Text) :
    Option SyncPath :=
  let lower := casing.toLowercase path
  enforcer.syncPaths.find? fun sync => casing.toLowercase sync.path <+: lower

/-- `check`. -/
def check (enforcer : CloudEnforcer) (casing : Casing) (path : Text) (action : FileAction)
    (classification : Classification) : Option CloudBlockResult :=
  if !isWriteLikeAction action then none
  else
    match enforcer.detectSyncProvider casing path with
    | none => none
    | some sync =>
        let provider := sync.provider.displayName
        if .T3 ≤ classification then
          let label := classificationLabel classification
          some
            { decision := .deny
              reason := s!"Cloud sync blocked: {label} file in {provider} folder"
              provider := provider
              notify := true }
        else none

/-- A sensitive write is denied in the folder that is found. -/
theorem check_of_sensitive (enforcer : CloudEnforcer) (casing : Casing) (path : Text)
    {action : FileAction} {classification : Classification}
    (writes : isWriteLikeAction action = true) (sensitive : .T3 ≤ classification) :
    (enforcer.check casing path action classification).map
        (fun result => (result.decision, result.provider)) =
      (enforcer.detectSyncProvider casing path).map
        fun sync => (.deny, sync.provider.displayName) := by
  rw [check, writes, Bool.not_true, if_neg Bool.false_ne_true]
  cases enforcer.detectSyncProvider casing path with
  | none => rfl
  | some sync =>
      dsimp only
      rw [if_pos sensitive]
      rfl

end CloudEnforcer

/-! ### Texts of folders -/

/-- A variable that is set is replaced by its value. -/
theorem expandEnvVars_variable {env : EnvVars} {name value : Text} (noPercent : '%' ∉ name)
    (set : env name = some value) (rest : Text) :
    expandEnvVars env ('%' :: (name ++ '%' :: rest)) = value ++ rest := by
  have front : (name ++ '%' :: rest).takeWhile (fun char => char ≠ '%') = name := by
    rw [List.takeWhile_append_of_pos, List.takeWhile_cons_of_neg (by simp), List.append_nil]
    intro char member
    simpa using fun same : char = '%' => noPercent (same ▸ member)
  have back : (name ++ '%' :: rest).dropWhile (fun char => char ≠ '%') = '%' :: rest := by
    rw [List.dropWhile_append_of_pos, List.dropWhile_cons_of_neg (by simp)]
    intro char member
    simpa using fun same : char = '%' => noPercent (same ▸ member)
  have found : '%' ∈ name ++ '%' :: rest := List.mem_append_right name List.mem_cons_self
  rw [expandEnvVars, if_pos found, front, set]
  dsimp only
  rw [back]
  rfl

/-- A folder without a variable stands for itself. -/
theorem expandEnvVars_of_head_ne {env : EnvVars} {raw : Text} (noPercent : raw.head? ≠ some '%') :
    expandEnvVars env raw = raw := by
  unfold expandEnvVars
  split
  · exact absurd rfl noPercent
  · rfl

/-- A normalised folder ends with a backslash. -/
theorem exists_normalizePath_eq (env : EnvVars) (raw : Text) :
    ∃ front, normalizePath env raw = front ++ ['\\'] ∧
      (expandEnvVars env raw = front ∨ expandEnvVars env raw = front ++ ['\\']) := by
  rw [normalizePath]
  by_cases ended : (expandEnvVars env raw).getLast? = some '\\'
  · obtain ⟨front, split⟩ := List.getLast?_eq_some_iff.mp ended
    exact ⟨front, by rw [if_pos ended, split], Or.inr split⟩
  · exact ⟨expandEnvVars env raw, if_neg ended, Or.inl rfl⟩

end DlpSystem.Agent
