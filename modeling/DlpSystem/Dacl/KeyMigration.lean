import DlpSystem.Agent.CanonicalPaths
import Mathlib.Data.List.Induction

/-!
# Staged removals after the migration of keys

Several raw spellings of a path come together under one canonical key.  The row that stays is
the one that had the canonical key before, or else the one whose spelling the query lists
first.  Its age and its operation play no part, and an open removal among the others is lost.
-/

namespace DlpSystem.Dacls

open Agent StagingTable

/-- The paths of a table, each once, in the order of a query. -/
structure Listing (table : StagingTable) where
  paths : List String
  distinct : paths.Nodup
  listed : ∀ path, path ∈ paths ↔ (table path).isSome = true

/-- The table after a migration. -/
def migrated {table : StagingTable} (listing : Listing table) : StagingTable :=
  (table.migrateStagingKeys listing.paths).1

/-- Some row of a canonical path is an open removal, and none of that path is newer. -/
def LatestRemoval (table : StagingTable) (canonical : String) : Prop :=
  ∃ raw row, normalizeProtectedPath raw = .ok canonical ∧ table raw = some row ∧
    row.isOpenRemoval = true ∧
    ∀ other otherRow, normalizeProtectedPath other = .ok canonical →
      table other = some otherRow → otherRow.stagedAt ≤ row.stagedAt

/-- What a migration should leave. -/
structure KeepsRemovals {table : StagingTable} (listing : Listing table) : Prop where
  /-- Rows stand under canonical paths. -/
  canonical : ∀ path name, (migrated listing path).isSome = true →
    normalizeProtectedPath path = .ok name → path = name
  removals : ∀ name, LatestRemoval table name →
    ∃ row, migrated listing name = some row ∧ row.isOpenRemoval = true
  /-- A path that no row comes to or leaves keeps its row. -/
  others : ∀ path, (∀ name, normalizeProtectedPath path = .ok name → path = name) →
    (∀ raw, (table raw).isSome = true → normalizeProtectedPath raw = .ok path → raw = path) →
    migrated listing path = table path
  again : ∀ second : Listing (migrated listing),
    ((migrated listing).migrateStagingKeys second.paths).2 = 0

/-! ## The loop -/

/-- A row of the path under another spelling is there. -/
def isRawOf (canonical raw : String) : Bool :=
  decide (normalizeProtectedPath raw = .ok canonical ∧ raw ≠ canonical)

section Loop

variable {table : StagingTable} {rawPaths : List String} {raw path canonical : String}
  {count : Nat}

/-- A round for a path that cannot be normalized, or is canonical, does nothing. -/
theorem migrateStagingKey_of_kept
    (kept : ∀ canonical, normalizeProtectedPath raw = .ok canonical → canonical = raw) :
    migrateStagingKey (table, count) raw = (table, count) := by
  rw [migrateStagingKey]
  cases normalized : normalizeProtectedPath raw with
  | error failure => rfl
  | ok canonical => exact if_pos (kept canonical normalized)

theorem migrateStagingKey_of_taken (moved : isRawOf canonical raw = true)
    (taken : (table canonical).isSome = true) :
    (migrateStagingKey (table, count) raw).1 = Function.update table raw none := by
  obtain ⟨normalized, other⟩ := of_decide_eq_true moved
  rw [migrateStagingKey, normalized]
  dsimp only
  rw [if_neg other.symm, if_pos taken]

theorem migrateStagingKey_of_free (moved : isRawOf canonical raw = true)
    (free : table canonical = none) :
    (migrateStagingKey (table, count) raw).1 =
      Function.update (Function.update table canonical (table raw)) raw none := by
  obtain ⟨normalized, other⟩ := of_decide_eq_true moved
  rw [migrateStagingKey, normalized]
  dsimp only
  rw [if_neg other.symm, free, if_neg (by simp)]

/-- The row that a path has after the loop.  A canonical path keeps its row, or gets that of
the first raw spelling; a raw spelling loses its row. -/
def loopRow (table : StagingTable) (rawPaths : List String) (path : String) :
    Option StagingRow :=
  match normalizeProtectedPath path with
  | .error _ => table path
  | .ok canonical =>
      if canonical = path then (table path).or ((rawPaths.find? (isRawOf path)).bind table)
      else if path ∈ rawPaths then none
      else table path

theorem migrateStagingKeys_concat :
    table.migrateStagingKeys (rawPaths ++ [raw]) =
      migrateStagingKey (table.migrateStagingKeys rawPaths) raw :=
  List.foldl_concat _ _ _ _

theorem loopRow_of_raw (moved : isRawOf canonical path = true) :
    loopRow table rawPaths path = if path ∈ rawPaths then none else table path := by
  obtain ⟨normalized, other⟩ := of_decide_eq_true moved
  rw [loopRow, normalized]
  exact if_neg other.symm

theorem loopRow_of_canonical (isCanonical : normalizeProtectedPath path = .ok path) :
    loopRow table rawPaths path =
      (table path).or ((rawPaths.find? (isRawOf path)).bind table) := by
  rw [loopRow, isCanonical]
  exact if_pos rfl

theorem loopRow_of_error {failure : NormalizeError}
    (refused : normalizeProtectedPath path = .error failure) :
    loopRow table rawPaths path = table path := by
  rw [loopRow, refused]

/-- A path is refused, canonical, or a raw spelling. -/
theorem spelling_cases (path : String) :
    (∃ failure, normalizeProtectedPath path = .error failure) ∨
      normalizeProtectedPath path = .ok path ∨ ∃ canonical, isRawOf canonical path = true := by
  cases normalized : normalizeProtectedPath path with
  | error failure => exact Or.inl ⟨failure, rfl⟩
  | ok canonical =>
      by_cases same : path = canonical
      · rw [same]
        exact Or.inr (Or.inl rfl)
      · exact Or.inr (Or.inr ⟨canonical, decide_eq_true ⟨normalized, same⟩⟩)

theorem isRawOf_canonical {canonical raw : String} (moved : isRawOf canonical raw = true) :
    normalizeProtectedPath canonical = .ok canonical :=
  normalizeProtectedPath_idem (of_decide_eq_true moved).1

/-- A spelling that is not raw adds nothing to the rows of the loop. -/
theorem loopRow_concat_of_kept
    (kept : ∀ canonical, normalizeProtectedPath raw = .ok canonical → canonical = raw) :
    loopRow table (rawPaths ++ [raw]) path = loopRow table rawPaths path := by
  have notRaw (canonical : String) : isRawOf canonical raw = false := by
    apply decide_eq_false
    rintro ⟨normalized, other⟩
    exact other (kept canonical normalized).symm
  rcases spelling_cases path with ⟨failure, refused⟩ | isCanonical | ⟨canonical, moved⟩
  · rw [loopRow_of_error refused, loopRow_of_error refused]
  · rw [loopRow_of_canonical isCanonical, loopRow_of_canonical isCanonical, List.find?_append,
      List.find?_singleton, notRaw, if_neg Bool.false_ne_true, Option.or_none]
  · have other : path ≠ raw := by
      rintro rfl
      rw [notRaw] at moved
      cases moved
    rw [loopRow_of_raw moved, loopRow_of_raw moved]
    simp [other]

/-- A raw spelling changes only its own row and that of its canonical path. -/
theorem loopRow_concat_of_raw (moved : isRawOf canonical raw = true) (isOther : path ≠ raw)
    (isAway : path ≠ canonical) :
    loopRow table (rawPaths ++ [raw]) path = loopRow table rawPaths path := by
  rcases spelling_cases path with ⟨failure, refused⟩ | isCanonical | ⟨own, ownMoved⟩
  · rw [loopRow_of_error refused, loopRow_of_error refused]
  · have notRaw : isRawOf path raw = false := by
      apply decide_eq_false
      rintro ⟨same, -⟩
      rw [(of_decide_eq_true moved).1] at same
      injection same with same
      exact isAway same.symm
    rw [loopRow_of_canonical isCanonical, loopRow_of_canonical isCanonical, List.find?_append,
      List.find?_singleton, notRaw, if_neg Bool.false_ne_true, Option.or_none]
  · rw [loopRow_of_raw ownMoved, loopRow_of_raw ownMoved]
    simp [isOther]

/-- A canonical path that has a row keeps it when another spelling comes. -/
theorem loopRow_concat_taken {held : StagingRow}
    (isCanonical : normalizeProtectedPath canonical = .ok canonical)
    (taken : loopRow table rawPaths canonical = some held) :
    loopRow table (rawPaths ++ [raw]) canonical = some held := by
  rw [loopRow_of_canonical isCanonical] at taken ⊢
  rw [← taken, List.find?_append]
  cases own : table canonical with
  | some ownRow => rfl
  | none =>
      rw [own, Option.none_or] at taken
      obtain ⟨first, found, -⟩ := Option.bind_eq_some_iff.mp taken
      rw [found]
      rfl

/-- A canonical path without a row gets that of the first spelling. -/
theorem loopRow_concat_free (moved : isRawOf canonical raw = true)
    (present : ∀ earlier ∈ rawPaths, (table earlier).isSome = true)
    (free : loopRow table rawPaths canonical = none) :
    loopRow table (rawPaths ++ [raw]) canonical = table raw := by
  have isCanonical := isRawOf_canonical moved
  rw [loopRow_of_canonical isCanonical, Option.or_eq_none_iff] at free
  obtain ⟨own, noFirst⟩ := free
  have unseen : rawPaths.find? (isRawOf canonical) = none := by
    cases found : rawPaths.find? (isRawOf canonical) with
    | none => rfl
    | some first =>
        have has := present first (List.mem_of_find?_eq_some found)
        rw [found, Option.bind_some] at noFirst
        rw [noFirst] at has
        cases has
  rw [loopRow_of_canonical isCanonical, own, List.find?_append, unseen, List.find?_singleton,
    if_pos moved]
  rfl

/-- What the loop leaves. -/
theorem migrateStagingKeys_apply (distinct : rawPaths.Nodup)
    (present : ∀ raw ∈ rawPaths, (table raw).isSome = true) (path : String) :
    (table.migrateStagingKeys rawPaths).1 path = loopRow table rawPaths path := by
  induction rawPaths using List.reverseRecOn generalizing path with
  | nil =>
      rcases spelling_cases path with ⟨failure, refused⟩ | isCanonical | ⟨canonical, moved⟩
      · exact (loopRow_of_error refused).symm
      · rw [loopRow_of_canonical isCanonical]
        exact Option.or_none.symm
      · rw [loopRow_of_raw moved, if_neg List.not_mem_nil]
        rfl
  | append_singleton before raw ih =>
      obtain ⟨distinctBefore, -, apart⟩ := List.nodup_append.mp distinct
      have fresh : raw ∉ before := fun member =>
        apart raw member raw (List.mem_singleton_self _) rfl
      have presentBefore : ∀ earlier ∈ before, (table earlier).isSome = true :=
        fun earlier member => present earlier (List.mem_append_left _ member)
      specialize ih distinctBefore presentBefore
      rw [migrateStagingKeys_concat]
      generalize table.migrateStagingKeys before = reached at ih
      obtain ⟨left, count⟩ := reached
      dsimp only at ih
      by_cases kept : ∀ canonical, normalizeProtectedPath raw = .ok canonical → canonical = raw
      · rw [migrateStagingKey_of_kept kept, loopRow_concat_of_kept kept]
        exact ih path
      · push Not at kept
        obtain ⟨canonical, normalized, other⟩ := kept
        have moved : isRawOf canonical raw = true := decide_eq_true ⟨normalized, other.symm⟩
        by_cases same : path = raw
        · have gone : loopRow table (before ++ [raw]) raw = none := by
            rw [loopRow_of_raw moved, if_pos (by simp)]
          rw [same, gone]
          cases taken : left canonical with
          | some held =>
              rw [migrateStagingKey_of_taken moved (by rw [taken]; rfl), Function.update_self]
          | none => rw [migrateStagingKey_of_free moved taken, Function.update_self]
        · cases taken : left canonical with
          | some held =>
              rw [migrateStagingKey_of_taken moved (by rw [taken]; rfl),
                Function.update_of_ne same]
              by_cases away : path = canonical
              · rw [away, taken]
                rw [ih] at taken
                exact (loopRow_concat_taken (isRawOf_canonical moved) taken).symm
              · rw [ih, loopRow_concat_of_raw moved same away]
          | none =>
              rw [migrateStagingKey_of_free moved taken, Function.update_of_ne same]
              by_cases away : path = canonical
              · have row : left raw = table raw := by
                  rw [ih, loopRow_of_raw moved, if_neg fresh]
                rw [ih] at taken
                rw [away, Function.update_self, row,
                  loopRow_concat_free moved presentBefore taken]
              · rw [Function.update_of_ne away, ih, loopRow_concat_of_raw moved same away]

end Loop

/-- Nothing is re-keyed where nothing is raw. -/
theorem migrateStagingKeys_of_kept {table : StagingTable} {rawPaths : List String}
    (kept : ∀ raw ∈ rawPaths, ∀ canonical, normalizeProtectedPath raw = .ok canonical →
      canonical = raw) :
    table.migrateStagingKeys rawPaths = (table, 0) := by
  induction rawPaths using List.reverseRecOn with
  | nil => rfl
  | append_singleton before raw ih =>
      rw [migrateStagingKeys_concat,
        ih fun earlier member => kept earlier (List.mem_append_left _ member)]
      exact migrateStagingKey_of_kept
        (kept raw (List.mem_append_right _ (List.mem_singleton_self _)))

/-! ## What a migration leaves -/

section Migration

variable {table : StagingTable} (listing : Listing table)

/-- The row that stays for a canonical path: its own, or that of the spelling that the query
lists first. -/
def keptRow (name : String) : Option StagingRow :=
  (table name).or ((listing.paths.find? (isRawOf name)).bind table)

theorem migrated_apply (path : String) :
    migrated listing path = loopRow table listing.paths path :=
  migrateStagingKeys_apply listing.distinct (fun raw member => (listing.listed raw).mp member) path

theorem migrated_canonical {name : String} (isCanonical : normalizeProtectedPath name = .ok name) :
    migrated listing name = keptRow listing name := by
  rw [migrated_apply, loopRow_of_canonical isCanonical, keptRow]

/-- A raw spelling keeps no row. -/
theorem migrated_of_raw {canonical raw : String} (moved : isRawOf canonical raw = true) :
    migrated listing raw = none := by
  rw [migrated_apply, loopRow_of_raw moved]
  split
  · rfl
  · rename_i unlisted
    rw [listing.listed raw] at unlisted
    simpa using unlisted

/-- The migration keeps the open removals exactly if for each path whose latest row is one the
row that stays is one. -/
theorem keepsRemovals_iff :
    KeepsRemovals listing ↔
      ∀ name, LatestRemoval table name →
        ∃ row, keptRow listing name = some row ∧ row.isOpenRemoval = true := by
  have canonicalOf {name : String} (latest : LatestRemoval table name) :
      normalizeProtectedPath name = .ok name := by
    obtain ⟨raw, -, normalized, -⟩ := latest
    exact normalizeProtectedPath_idem normalized
  have stands : ∀ path name, (migrated listing path).isSome = true →
      normalizeProtectedPath path = .ok name → path = name := by
    intro path name has normalized
    by_contra other
    rw [migrated_of_raw listing (decide_eq_true ⟨normalized, other⟩)] at has
    cases has
  constructor
  · intro keeps name latest
    rw [← migrated_canonical listing (canonicalOf latest)]
    exact keeps.removals name latest
  · intro condition
    constructor
    · exact stands
    · intro name latest
      rw [migrated_canonical listing (canonicalOf latest)]
      exact condition name latest
    · intro path stays reached
      rcases spelling_cases path with ⟨failure, refused⟩ | isCanonical | ⟨canonical, moved⟩
      · rw [migrated_apply, loopRow_of_error refused]
      · have unseen : listing.paths.find? (isRawOf path) = none := by
          apply List.find?_eq_none.mpr
          intro raw member moved
          obtain ⟨normalized, other⟩ := of_decide_eq_true moved
          exact other (reached raw ((listing.listed raw).mp member) normalized)
        rw [migrated_canonical listing isCanonical, keptRow, unseen]
        exact Option.or_none
      · obtain ⟨normalized, other⟩ := of_decide_eq_true moved
        exact absurd (stays canonical normalized) other
    · intro second
      rw [migrateStagingKeys_of_kept]
      intro raw member canonical normalized
      exact (stands raw canonical ((second.listed raw).mp member) normalized).symm

end Migration

/-- A table with an old row under the canonical path, applied long ago, and an open removal
under a raw spelling. -/
def clashTable : StagingTable :=
  Function.update (Function.update (fun _ => none) "C:\\DATA\\" (some ⟨.remove, 1, some 2⟩))
    "c:\\data" (some ⟨.remove, 5, none⟩)

/-- The paths of that table. -/
def clashListing : Listing clashTable where
  paths := ["C:\\DATA\\", "c:\\data"]
  distinct := by decide
  listed := by
    intro path
    rw [clashTable]
    by_cases raw : path = "c:\\data"
    · rw [raw, Function.update_self]
      simp
    · by_cases canonical : path = "C:\\DATA\\"
      · rw [canonical, Function.update_of_ne (by decide), Function.update_self]
        simp
      · rw [Function.update_of_ne raw, Function.update_of_ne canonical]
        simp [raw, canonical]

/-- The newer open removal goes, and the applied row stays. -/
theorem not_keepsRemovals_clash : ¬ KeepsRemovals clashListing := by
  intro keeps
  have raw : normalizeProtectedPath "c:\\data" = .ok "C:\\DATA\\" := by decide +kernel
  have latest : LatestRemoval clashTable "C:\\DATA\\" := by
    refine ⟨"c:\\data", ⟨.remove, 5, none⟩, raw, rfl, rfl, ?_⟩
    intro other otherRow _ found
    have listed := (clashListing.listed other).mpr (by rw [found]; rfl)
    rcases List.mem_pair.mp listed with rfl | rfl
    · injection found with same
      rw [← same]
      decide
    · injection found with same
      rw [← same]
  obtain ⟨row, kept, isOpen⟩ := keeps.removals _ latest
  rw [migrated_canonical clashListing (normalizeProtectedPath_idem raw)] at kept
  injection kept with same
  rw [← same] at isOpen
  cases isOpen

end DlpSystem.Dacls
