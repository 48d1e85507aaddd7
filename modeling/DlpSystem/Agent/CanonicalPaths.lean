import DlpSystem.Agent.DaclTripwire
import DlpSystem.Lib.Casing

/-!
# Canonical spellings of protected paths

`normalize_protected_path` turns a path into its canonical spelling: absolute, in upper case,
with backslashes, and closed by one.  Staging rows are filed under it, and a canonical
spelling is its own.
-/

namespace DlpSystem.Agent

open Lib

/-- Pieces of a text that was changed letter by letter, with the separators kept. -/
theorem splitOnP_map {α : Type} {separates : α → Bool} {change : α → α}
    (kept : ∀ char, separates (change char) = separates char) (chars : List α) :
    (chars.map change).splitOnP separates =
      (chars.splitOnP separates).map (List.map change) := by
  induction chars with
  | nil => rfl
  | cons char chars ih =>
      rw [List.map_cons, List.splitOnP_cons_eq_if_modifyHead, List.splitOnP_cons_eq_if_modifyHead,
        kept, ih]
      split
      · rfl
      · cases chars.splitOnP separates with
        | nil => rfl
        | cons piece pieces => rfl

/-! ## Letters -/

/-- The separators of a protected path. -/
def isSeparatorChar (char : Char) : Bool :=
  char = '\\' || char = '/'

/-- A letter of a normalized path. -/
def normalizedChar (char : Char) : Char :=
  (if char = '/' then '\\' else char).toUpper

theorem toUpper_eq_iff {char other : Char} (noLetter : other.isAlpha = false) :
    char.toUpper = other ↔ char = other := by
  by_cases same : char.toUpper = char
  · rw [same]
  · have isLetter := isAlpha_of_toUpper_ne same
    constructor
    · rintro rfl
      rw [isAlpha_toUpper, isLetter] at noLetter
      cases noLetter
    · rintro rfl
      rw [isLetter] at noLetter
      cases noLetter

theorem normalizedChar_ne_slash (char : Char) : normalizedChar char ≠ '/' := by
  unfold normalizedChar
  rw [ne_eq, toUpper_eq_iff (by decide)]
  split
  · decide
  · assumption

theorem normalizedChar_idem (char : Char) :
    normalizedChar (normalizedChar char) = normalizedChar char := by
  calc
    normalizedChar (normalizedChar char) = (normalizedChar char).toUpper := by
      rw [normalizedChar, if_neg (normalizedChar_ne_slash char)]
    _ = normalizedChar char := toUpper_toUpper _

theorem isSeparatorChar_normalizedChar (char : Char) :
    isSeparatorChar (normalizedChar char) = isSeparatorChar char := by
  have backslash : normalizedChar char = '\\' ↔ char = '/' ∨ char = '\\' := by
    unfold normalizedChar
    rw [toUpper_eq_iff (by decide)]
    split <;> simp_all
  simp [isSeparatorChar, backslash, normalizedChar_ne_slash, Bool.or_comm]

theorem normalizedChar_eq_dot {char : Char} : normalizedChar char = '.' ↔ char = '.' := by
  unfold normalizedChar
  rw [toUpper_eq_iff (by decide)]
  split <;> simp_all

/-! ## Canonical paths -/

/-- A path starts with a drive letter or is a UNC path. -/
def startsAbsolute (chars : List Char) : Prop :=
  (∃ letter rest, letter.isAlpha = true ∧ chars = letter :: ':' :: rest) ∨
    ∃ rest, chars = '\\' :: '\\' :: rest

/-- The canonical spellings. -/
structure CanonicalChars (chars : List Char) : Prop where
  absolute : startsAbsolute chars
  descends : ['.', '.'] ∉ chars.splitOnP isSeparatorChar
  letters : chars.map normalizedChar = chars
  closed : ['\\'] <:+ chars

theorem startsAbsolute_map {chars : List Char}
    (absolute : startsAbsolute (chars.map fun char => if char = '/' then '\\' else char)) :
    startsAbsolute (chars.map normalizedChar) := by
  have both : chars.map normalizedChar =
      (chars.map fun char => if char = '/' then '\\' else char).map Char.toUpper := by
    rw [List.map_map]
    rfl
  rw [both]
  rcases absolute with ⟨letter, rest, alpha, shape⟩ | ⟨rest, shape⟩
  · rw [shape]
    exact .inl ⟨letter.toUpper, rest.map Char.toUpper, (isAlpha_toUpper letter).trans alpha, rfl⟩
  · rw [shape]
    exact .inr ⟨rest.map Char.toUpper, rfl⟩

theorem startsAbsolute.append {chars : List Char} (absolute : startsAbsolute chars)
    (after : List Char) : startsAbsolute (chars ++ after) := by
  rcases absolute with ⟨letter, rest, alpha, rfl⟩ | ⟨rest, rfl⟩
  · exact .inl ⟨letter, rest ++ after, alpha, rfl⟩
  · exact .inr ⟨rest ++ after, rfl⟩

theorem descends_map {chars : List Char} (descends : ['.', '.'] ∉ chars.splitOnP isSeparatorChar) :
    ['.', '.'] ∉ (chars.map normalizedChar).splitOnP isSeparatorChar := by
  rw [splitOnP_map isSeparatorChar_normalizedChar]
  intro member
  obtain ⟨piece, present, dots⟩ := List.mem_map.mp member
  have spelled : piece = ['.', '.'] := by
    rw [List.map_eq_cons_iff] at dots
    obtain ⟨first, rest, rfl, firstDot, restDots⟩ := dots
    obtain ⟨second, rfl, secondDot⟩ := List.map_eq_singleton_iff.mp restDots
    rw [normalizedChar_eq_dot.mp firstDot, normalizedChar_eq_dot.mp secondDot]
  exact descends (spelled ▸ present)

theorem not_relative_iff (chars : List Char) :
    ¬((match chars with
        | letter :: ':' :: _ => letter.isAlpha
        | _ => false) = false ∧ ['\\', '\\'].isPrefixOf chars = false) ↔
      startsAbsolute chars := by
  have unc : ['\\', '\\'].isPrefixOf chars = true ↔ ∃ rest, chars = '\\' :: '\\' :: rest := by
    rw [List.isPrefixOf_iff_prefix]
    constructor
    · rintro ⟨rest, rfl⟩
      exact ⟨rest, rfl⟩
    · rintro ⟨rest, rfl⟩
      exact ⟨rest, rfl⟩
  rw [not_and_or, Bool.not_eq_false, Bool.not_eq_false, unc, startsAbsolute]
  apply or_congr_left
  split
  · rename_i letter rest
    constructor
    · intro alpha
      exact ⟨letter, rest, alpha, rfl⟩
    · rintro ⟨other, after, alpha, same⟩
      rwa [(List.cons.inj same).1]
  · rename_i noDrive
    constructor
    · intro absurd
      cases absurd
    · rintro ⟨letter, rest, -, shape⟩
      exact (noDrive letter rest shape).elim

/-- When a path can be normalized, and what it becomes. -/
theorem normalizeProtectedPath_eq_ok_iff {path name : String} :
    normalizeProtectedPath path = .ok name ↔
      startsAbsolute (path.toList.map fun char => if char = '/' then '\\' else char) ∧
        ['.', '.'] ∉ path.toList.splitOnP isSeparatorChar ∧
        name.toList =
          if ['\\'].isSuffixOf (path.toList.map normalizedChar) then
            path.toList.map normalizedChar
          else path.toList.map normalizedChar ++ ['\\'] := by
  have both : (path.toList.map fun char => if char = '/' then '\\' else char).map Char.toUpper =
      path.toList.map normalizedChar := by
    rw [List.map_map]
    rfl
  have spelled (chars : List Char) : String.ofList chars = name ↔ name.toList = chars := by
    rw [← String.toList_inj, String.toList_ofList, eq_comm]
  by_cases empty : path.toList = []
  · simp [normalizeProtectedPath, empty, startsAbsolute]
  have pieces : path.toList.splitOnP isSeparatorChar =
      path.toList.splitOnP fun char => char = '\\' || char = '/' := rfl
  rw [pieces]
  by_cases dots : ['.', '.'] ∈ path.toList.splitOnP fun char => char = '\\' || char = '/'
  · rw [normalizeProtectedPath, if_neg empty, if_pos dots]
    simp [dots]
  rw [normalizeProtectedPath, if_neg empty, if_neg dots, ← not_relative_iff]
  simp only [both, dots, not_false_eq_true, true_and]
  rw [ite_eq_iff]
  constructor
  · intro result
    simp only [reduceCtorEq, and_false, false_or, Except.ok.injEq, spelled] at result
    exact result
  · intro result
    simp only [reduceCtorEq, and_false, false_or, Except.ok.injEq, spelled]
    exact result

/-- A normalized path is canonical. -/
theorem normalizeProtectedPath_canonical {path name : String}
    (normalized : normalizeProtectedPath path = .ok name) :
    CanonicalChars name.toList := by
  obtain ⟨absolute, descends, spelled⟩ := normalizeProtectedPath_eq_ok_iff.mp normalized
  have letters : (path.toList.map normalizedChar).map normalizedChar =
      path.toList.map normalizedChar := by
    rw [List.map_map]
    exact List.map_congr_left fun char _ => normalizedChar_idem char
  rw [spelled]
  split
  · rename_i closed
    exact ⟨startsAbsolute_map absolute, descends_map descends, letters,
      List.isSuffixOf_iff_suffix.mp closed⟩
  · constructor
    · exact (startsAbsolute_map absolute).append _
    · rw [List.splitOnP_append_cons _ _ (by decide)]
      simpa using descends_map descends
    · rw [List.map_append, letters]
      rfl
    · exact List.suffix_append _ _

/-- A canonical spelling stays as it is. -/
theorem CanonicalChars.normalize {name : String} (canonical : CanonicalChars name.toList) :
    normalizeProtectedPath name = .ok name := by
  have slashes : name.toList.map (fun char => if char = '/' then '\\' else char) =
      name.toList := by
    rw [← canonical.letters, List.map_map]
    apply List.map_congr_left
    intro char _
    exact if_neg (normalizedChar_ne_slash char)
  apply normalizeProtectedPath_eq_ok_iff.mpr
  rw [slashes, canonical.letters, if_pos (List.isSuffixOf_iff_suffix.mpr canonical.closed)]
  exact ⟨canonical.absolute, canonical.descends, rfl⟩

theorem normalizeProtectedPath_idem {path name : String}
    (normalized : normalizeProtectedPath path = .ok name) :
    normalizeProtectedPath name = .ok name :=
  (normalizeProtectedPath_canonical normalized).normalize

end DlpSystem.Agent
