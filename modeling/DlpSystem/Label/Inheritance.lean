import DlpSystem.Label.Staleness
import Mathlib.Order.MinMax

/-!
# A path and the folder it lies in

The tier of a path is the stricter of its own label and the label of the nearest labelled
folder.  What that folder inherits from folders above it does not reach the path.
-/

namespace DlpSystem.Labels

open Abac Server

/-! ## Resolution from an empty cache -/

/-- The tier of a path, resolved with an empty cache. -/
def coldTier (rows : List LabelRow) (now : Nat) (path : String) : Tier :=
  ((coldService (readable rows) now).resolveTierAndLabelId path).1.tier

theorem findParentLabel_readable (rows : List LabelRow) (path : String) :
    (readable rows).findParentLabel path = some (parentRow rows path) :=
  rfl

theorem coldTier_eq (rows : List LabelRow) (now : Nat) (path : String) :
    coldTier rows now path = (resolutionIn rows path).tier := by
  have fromTable : tableResult (readable rows) path = some (resolutionIn rows path) := rfl
  rw [coldTier, resolve_eq, show (coldService (readable rows) now).cached path = none from rfl]
  change ((tableResult (readable rows) path).getD lookupFailed).tier = _
  rw [fromTable, Option.getD_some]

/-! ## The stricter of two labels -/

/-- One of the labels that were read is at least as strict as a tier. -/
def AsStrict (rank : Nat) (exact parent : Option LabelRow) : Prop :=
  (∃ row, exact = some row ∧ rank ≤ row.tier.strictnessRank) ∨
    ∃ row, parent = some row ∧ rank ≤ row.tier.strictnessRank

theorem strictnessRank_le (tier : Tier) : tier.strictnessRank ≤ 5 := by
  cases tier <;> decide

/-- Of two labels the stricter one counts. -/
theorem strictnessRank_combineLabels (exact parent : LabelRow) :
    (combineLabels (some exact) (some parent)).tier.strictnessRank =
      max exact.tier.strictnessRank parent.tier.strictnessRank := by
  rw [combineLabels]
  split
  · rename_i stricter
    simp only [Tier.isStricterThan, Bool.or_eq_true, decide_eq_true_eq, beq_iff_eq] at stricter
    change exact.tier.strictnessRank = _
    omega
  · rename_i looser
    simp only [Tier.isStricterThan, Bool.or_eq_true, decide_eq_true_eq, beq_iff_eq] at looser
    change parent.tier.strictnessRank = _
    omega

/-- The result is at least as strict as a tier if one of the labels is, or if there are
none. -/
theorem le_combineLabels_iff {rank : Nat} (small : rank ≤ 5) (exact parent : Option LabelRow) :
    rank ≤ (combineLabels exact parent).tier.strictnessRank ↔
      (exact = none ∧ parent = none) ∨ AsStrict rank exact parent := by
  cases exact with
  | none =>
      cases parent with
      | none => simp [combineLabels, Tier.strictnessRank, small]
      | some parent => simp [combineLabels, AsStrict]
  | some exact =>
      cases parent with
      | none => simp [combineLabels, AsStrict]
      | some parent => simp [strictnessRank_combineLabels, AsStrict]

/-- The result is at most as strict as a tier if both labels are. -/
theorem combineLabels_le_iff {rank : Nat} {exact : LabelRow} (parent : Option LabelRow) :
    (combineLabels (some exact) parent).tier.strictnessRank ≤ rank ↔
      exact.tier.strictnessRank ≤ rank ∧
        ∀ row, parent = some row → row.tier.strictnessRank ≤ rank := by
  cases parent with
  | none => simp [combineLabels]
  | some parent => simp [strictnessRank_combineLabels]

/-! ## A path and its folder -/

/-- The label of a folder is a row of its path. -/
theorem parentRow_mem {rows : List LabelRow} {path : String} {folder : LabelRow}
    (nearest : parentRow rows path = some folder) : folder ∈ rows := by
  obtain ⟨reversed, -, found⟩ := List.exists_of_findSome?_eq_some nearest
  exact List.mem_of_find?_eq_some found

/-- The folder of a path has a label of its own. -/
theorem exists_exactRow {rows : List LabelRow} {folder : LabelRow} (member : folder ∈ rows) :
    ∃ own, exactRow rows folder.path = some own := by
  cases found : exactRow rows folder.path with
  | some own => exact ⟨own, rfl⟩
  | none =>
      have missing := List.find?_eq_none.mp found folder member
      simp at missing

/-- A path is at least as strict as the label of the nearest labelled folder.  It is at
least as strict as that folder resolves exactly if its own label or the label of the
folder is as strict as the first label of the folder's path and as the nearest labelled
folder above. -/
theorem at_least_as_strict_as_folder (rows : List LabelRow) (now : Nat) (path : String)
    (folder : LabelRow)
    (nearest : (readable rows).findParentLabel path = some (some folder)) :
    folder.tier.strictnessRank ≤ (coldTier rows now path).strictnessRank ∧
      ((coldTier rows now folder.path).strictnessRank ≤ (coldTier rows now path).strictnessRank ↔
        (∀ own, exactRow rows folder.path = some own →
            AsStrict own.tier.strictnessRank (exactRow rows path) (some folder)) ∧
          ∀ above, parentRow rows folder.path = some above →
            AsStrict above.tier.strictnessRank (exactRow rows path) (some folder)) := by
  have parent : parentRow rows path = some folder := by
    rw [findParentLabel_readable] at nearest
    exact Option.some.inj nearest
  have le_iff : ∀ tier : Tier,
      tier.strictnessRank ≤ (coldTier rows now path).strictnessRank ↔
        AsStrict tier.strictnessRank (exactRow rows path) (some folder) := by
    intro tier
    rw [coldTier_eq, resolutionIn, parent, le_combineLabels_iff (strictnessRank_le tier)]
    simp
  constructor
  · rw [le_iff]
    exact .inr ⟨folder, rfl, Nat.le_refl _⟩
  · obtain ⟨own, ownFound⟩ := exists_exactRow (parentRow_mem parent)
    rw [coldTier_eq rows now folder.path, resolutionIn, ownFound, combineLabels_le_iff, le_iff]
    constructor
    · rintro ⟨ownStrict, aboveStrict⟩
      constructor
      · intro other found
        rw [← Option.some.inj found]
        exact ownStrict
      · intro above found
        exact (le_iff above.tier).mp (aboveStrict above found)
    · rintro ⟨ownStrict, aboveStrict⟩
      constructor
      · exact ownStrict own rfl
      · intro above found
        exact (le_iff above.tier).mpr (aboveStrict above found)

/-- A folder with T1 inside one with T4. -/
def nestedFolders : List LabelRow :=
  [⟨"l1", "C:\\Data", .folder, .T4⟩, ⟨"l2", "C:\\Data\\Public", .folder, .T1⟩]

/-- The file in the inner folder is at least T1. -/
theorem nestedFolders_file_at_least_T1 :
    Tier.T1.strictnessRank ≤
      (coldTier nestedFolders 0 "C:\\Data\\Public\\plan.txt").strictnessRank :=
  (at_least_as_strict_as_folder nestedFolders 0 "C:\\Data\\Public\\plan.txt"
    ⟨"l2", "C:\\Data\\Public", .folder, .T1⟩ (by decide)).1

/-- The inner folder is T4 and the file in it is T1. -/
theorem nestedFolders_file_less_strict :
    (readable nestedFolders).findParentLabel "C:\\Data\\Public\\plan.txt" =
        some (some ⟨"l2", "C:\\Data\\Public", .folder, .T1⟩) ∧
      ¬ (coldTier nestedFolders 0 "C:\\Data\\Public").strictnessRank ≤
        (coldTier nestedFolders 0 "C:\\Data\\Public\\plan.txt").strictnessRank := by
  constructor
  · decide
  · decide

end DlpSystem.Labels
