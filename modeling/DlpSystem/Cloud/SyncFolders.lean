import DlpSystem.Agent.CloudEnforcer
import DlpSystem.Lib.CasedPieces
import Mathlib.Data.List.Find

/-!
# Sync folders by their components

A path lies below a folder when its components start with those of the folder, whatever the
separators.  The enforcer compares the texts: it also wants the separators of the folder, with
a component or none between two of them, and it is content with the folder itself.
-/

namespace DlpSystem.Cloud

open Abac Common Lib Agent

/-! ## Components -/

/-- The components of a path. -/
def components (path : Text) : List Text :=
  (((segments isPathSeparator path).1.map Prod.fst) ++ [(segments isPathSeparator path).2]).filter
    fun piece => piece ≠ []

/-- The components of a path in lower case. -/
def loweredComponents (casing : Casing) (path : Text) : List Text :=
  (components path).map casing.toLowercase

/-- A path lies below a folder. -/
def IsStrictlyBelow (casing : Casing) (folder path : Text) : Prop :=
  loweredComponents casing folder <+: loweredComponents casing path ∧
    (components folder).length < (components path).length

instance (casing : Casing) (folder path : Text) :
    Decidable (IsStrictlyBelow casing folder path) :=
  inferInstanceAs (Decidable (_ ∧ _))

/-- The separators of a path, each with whether no component stands in front of it. -/
def separators (path : Text) : List (Bool × Char) :=
  (segments isPathSeparator path).1.map fun part => (part.1.isEmpty, part.2)

/-- The components of a path start with those of a folder, and its separators with those of
the folder. -/
def IsWrittenBelow (casing : Casing) (folder path : Text) : Prop :=
  loweredComponents casing folder <+: loweredComponents casing path ∧
    separators folder <+: separators path

instance (casing : Casing) (folder path : Text) :
    Decidable (IsWrittenBelow casing folder path) :=
  inferInstanceAs (Decidable (_ ∧ _))

/-! ## Texts and components -/

section Components

variable {casing : Casing}

/-- Pieces agree, separators included, when the separators do and the pieces that are not
empty. -/
theorem map_isPrefix_iff {parts others : List (Text × Char)} {last : Text} :
    (parts.map fun part => (casing.toLowercase part.1, part.2)) <+:
        (others.map fun part => (casing.toLowercase part.1, part.2)) ↔
      ((parts.map Prod.fst).filter fun piece => piece ≠ []).map casing.toLowercase <+:
          ((others.map Prod.fst ++ [last]).filter fun piece => piece ≠ []).map
            casing.toLowercase ∧
        (parts.map fun part => (part.1.isEmpty, part.2)) <+:
          (others.map fun part => (part.1.isEmpty, part.2)) := by
  induction parts generalizing others with
  | nil => simp
  | cons part parts ih =>
      cases others with
      | nil => simp
      | cons other others =>
          obtain ⟨piece, sep⟩ := part
          obtain ⟨front, second⟩ := other
          simp only [List.map_cons, List.cons_append, List.cons_prefix_cons, Prod.mk.injEq, ih]
          cases piece with
          | nil =>
              cases front with
              | nil =>
                  simp only [true_and, ne_eq, not_true_eq_false, decide_false,
                    Bool.false_eq_true, not_false_eq_true, List.filter_cons_of_neg]
                  exact and_left_comm
              | cons head more =>
                  have differ : casing.toLowercase [] ≠ casing.toLowercase (head :: more) :=
                    fun same => List.cons_ne_nil _ _ (Casing.toLowercase_eq_nil_iff.mp same.symm)
                  simp [differ]
          | cons head more =>
              cases front with
              | nil =>
                  have differ : casing.toLowercase (head :: more) ≠ casing.toLowercase [] :=
                    fun same => List.cons_ne_nil _ _ (Casing.toLowercase_eq_nil_iff.mp same)
                  simp [differ]
              | cons other rest =>
                  simp only [ne_eq, reduceCtorEq, not_false_eq_true, decide_true,
                    List.filter_cons_of_pos, List.map_cons, List.cons_prefix_cons,
                    List.isEmpty_cons, true_and]
                  tauto

/-- A folder that ends with a separator starts a path in lower case when the path is written
below it. -/
theorem toLowercase_isPrefix_iff_isWrittenBelow
    (separates : SeparatesWords casing isPathSeparator) {folder : Text}
    (ended : (segments isPathSeparator folder).2 = []) (path : Text) :
    casing.toLowercase folder <+: casing.toLowercase path ↔ IsWrittenBelow casing folder path := by
  rw [toLowercase_isPrefix_iff separates ended, loweredSegments, loweredSegments,
    @map_isPrefix_iff casing _ _ (segments isPathSeparator path).2, IsWrittenBelow,
    loweredComponents, loweredComponents, components, components, ended, separators, separators]
  simp

/-- What a separator at the end leaves. -/
theorem segments_concat_separator (front : Text) :
    segments isPathSeparator (front ++ ['\\']) =
      ((segments isPathSeparator front).1 ++ [((segments isPathSeparator front).2, '\\')], []) := by
  have isSeparator : isPathSeparator '\\' = true := rfl
  induction front using @segments_induction isPathSeparator with
  | last text none =>
      rw [segments_append none isSeparator, segments_of_none none]
      rfl
  | piece piece sep back none isSep ih =>
      rw [List.append_assoc, List.cons_append, segments_append none isSep,
        segments_append none isSep, ih]
      rfl

/-- A separator at the end adds no component. -/
theorem components_concat_separator (front : Text) :
    components (front ++ ['\\']) = components front := by
  have noPiece : [([] : Text)].filter (fun piece => piece ≠ []) = [] := rfl
  rw [components, components, segments_concat_separator, List.map_append, List.filter_append,
    noPiece, List.append_nil]
  rfl

/-- A folder has its components before and after it is normalised. -/
theorem components_normalizePath (env : EnvVars) (raw : Text) :
    components (normalizePath env raw) = components (expandEnvVars env raw) := by
  obtain ⟨front, normal, same | same⟩ := exists_normalizePath_eq env raw
  · rw [normal, same, components_concat_separator]
  · rw [normal, same]

theorem segments_normalizePath (env : EnvVars) (raw : Text) :
    (segments isPathSeparator (normalizePath env raw)).2 = [] := by
  obtain ⟨front, normal, _⟩ := exists_normalizePath_eq env raw
  rw [normal, segments_concat_separator]

end Components

/-! ## The enforcer -/

/-- A sync folder as a provider or a user has written it. -/
structure SyncFolder where
  provider : CloudProvider
  raw : Text
  source : PathSource

/-- A sync folder with its normalised path. -/
def SyncFolder.syncPath (env : EnvVars) (folder : SyncFolder) : SyncPath :=
  ⟨folder.provider, normalizePath env folder.raw, folder.source⟩

/-- The provider of the first folder that a path lies below. -/
def belowProvider (casing : Casing) (env : EnvVars) (folders : List SyncFolder) (path : Text) :
    Option CloudProvider :=
  (folders.find? fun folder =>
    IsStrictlyBelow casing (expandEnvVars env folder.raw) path).map SyncFolder.provider

/-- The provider of the first folder that a path is written below. -/
def writtenProvider (casing : Casing) (env : EnvVars) (folders : List SyncFolder) (path : Text) :
    Option CloudProvider :=
  (folders.find? fun folder =>
    IsWrittenBelow casing (normalizePath env folder.raw) path).map SyncFolder.provider

/-- The enforcer looks for the first folder that the path is written below. -/
theorem map_detectSyncProvider {casing : Casing}
    (separates : SeparatesWords casing isPathSeparator) (env : EnvVars)
    (folders : List SyncFolder) (path : Text) :
    ((CloudEnforcer.withSyncPaths (folders.map (SyncFolder.syncPath env))).detectSyncProvider
        casing path).map SyncPath.provider = writtenProvider casing env folders path := by
  rw [CloudEnforcer.detectSyncProvider, CloudEnforcer.withSyncPaths, writtenProvider]
  dsimp only
  rw [List.find?_map, Option.map_map]
  have same : ((fun sync : SyncPath => decide (casing.toLowercase sync.path <+:
        casing.toLowercase path)) ∘ SyncFolder.syncPath env) =
      fun folder : SyncFolder => decide
        (IsWrittenBelow casing (normalizePath env folder.raw) path) := by
    funext folder
    apply decide_eq_decide.mpr
    exact toLowercase_isPrefix_iff_isWrittenBelow separates (segments_normalizePath env _) path
  rw [same]
  rfl

/-- A folder is spelled like a path: if its components start those of the path, then its
separators start those of the path exactly if the path has more components. -/
def IsSpelledLike (casing : Casing) (env : EnvVars) (folder : SyncFolder) (path : Text) : Prop :=
  loweredComponents casing (expandEnvVars env folder.raw) <+: loweredComponents casing path →
    (separators (normalizePath env folder.raw) <+: separators path ↔
      (components (expandEnvVars env folder.raw)).length < (components path).length)

instance (casing : Casing) (env : EnvVars) (folder : SyncFolder) (path : Text) :
    Decidable (IsSpelledLike casing env folder path) :=
  inferInstanceAs (Decidable (_ → (_ ↔ _)))

/-- Below a folder that is spelled like it a path is also written. -/
theorem isSpelledLike_iff {casing : Casing} {env : EnvVars} {folder : SyncFolder} {path : Text} :
    IsSpelledLike casing env folder path ↔
      (IsWrittenBelow casing (normalizePath env folder.raw) path ↔
        IsStrictlyBelow casing (expandEnvVars env folder.raw) path) := by
  have sameComponents : loweredComponents casing (normalizePath env folder.raw) =
      loweredComponents casing (expandEnvVars env folder.raw) := by
    rw [loweredComponents, components_normalizePath, loweredComponents]
  rw [IsSpelledLike, IsWrittenBelow, IsStrictlyBelow, sameComponents, and_congr_right_iff]

theorem writtenProvider_eq {casing : Casing} {env : EnvVars} {folders : List SyncFolder}
    {path : Text} (spelled : ∀ folder ∈ folders, IsSpelledLike casing env folder path) :
    writtenProvider casing env folders path = belowProvider casing env folders path := by
  have same : ∀ folder ∈ folders,
      decide (IsWrittenBelow casing (normalizePath env folder.raw) path) =
        decide (IsStrictlyBelow casing (expandEnvVars env folder.raw) path) := by
    intro folder member
    exact decide_eq_decide.mpr (isSpelledLike_iff.mp (spelled folder member))
  rw [writtenProvider, belowProvider, List.find?_congr same]

theorem writtenProvider_singleton_iff {casing : Casing} {env : EnvVars} {folder : SyncFolder}
    {path : Text} :
    writtenProvider casing env [folder] path = belowProvider casing env [folder] path ↔
      IsSpelledLike casing env folder path := by
  rw [isSpelledLike_iff, writtenProvider, belowProvider, List.find?_singleton,
    List.find?_singleton]
  by_cases written : IsWrittenBelow casing (normalizePath env folder.raw) path
  · by_cases below : IsStrictlyBelow casing (expandEnvVars env folder.raw) path
    · simp [written, below]
    · simp [written, below]
  · by_cases below : IsStrictlyBelow casing (expandEnvVars env folder.raw) path
    · simp [written, below]
    · simp [written, below]

/-- A write is denied exactly below one of the folders, under the provider of the first one. -/
def FollowsFolders (casing : Casing) (env : EnvVars) (folders : List SyncFolder) (path : Text)
    (action : FileAction) (classification : Classification) : Prop :=
  ((CloudEnforcer.withSyncPaths (folders.map (SyncFolder.syncPath env))).check casing path
      action classification).map (fun result => (result.decision, result.provider)) =
    (belowProvider casing env folders path).map
      fun provider => (Decision.deny, provider.displayName)

theorem followsFolders_iff {casing : Casing} (separates : SeparatesWords casing isPathSeparator)
    (env : EnvVars) (folders : List SyncFolder) (path : Text) {action : FileAction}
    {classification : Classification} (writes : isWriteLikeAction action = true)
    (sensitive : .T3 ≤ classification) :
    FollowsFolders casing env folders path action classification ↔
      writtenProvider casing env folders path = belowProvider casing env folders path := by
  have named : Function.Injective fun provider : CloudProvider =>
      (Decision.deny, provider.displayName) := by
    intro provider other same
    exact CloudProvider.displayName_injective (Prod.mk.inj same).2
  rw [FollowsFolders, CloudEnforcer.check_of_sensitive _ _ _ writes sensitive,
    ← map_detectSyncProvider separates, ← (Option.map_injective named).eq_iff, Option.map_map]
  rfl

theorem separatesWords_wordExcerpt : SeparatesWords Casing.wordExcerpt isPathSeparator := by
  intro sep isSep
  have either : sep = '\\' ∨ sep = '/' := by simpa [isPathSeparator] using isSep
  rcases either with rfl | rfl
  · exact ⟨⟨by decide, by decide⟩, Casing.endsWords_wordExcerpt (by decide)⟩
  · exact ⟨⟨by decide, by decide⟩, Casing.endsWords_wordExcerpt (by decide)⟩

/-- Two folders of the path's drive, one of them above the path, with its separators. -/
def twoFolders : List SyncFolder :=
  [⟨.dropbox, "C:\\Box\\".toList, .registry⟩, ⟨.oneDrive, "C:\\Sync".toList, .registry⟩]

end DlpSystem.Cloud
