import DlpSystem.Agent.TripwirePaths

/-!
# What `validate_path` promises

A path that is accepted should have no colon but that of its drive letter.  The search for a
second colon is skipped behind a letter, and elsewhere it slices the path at its third byte.
-/

namespace DlpSystem.Dacl

open Lib Agent

/-- A path without the spellings that `validate_path` rejects: its only colon is that of a
drive. -/
def IsPlainPath (path : Text) : Prop :=
  ¬ "\\\\".toList <+: path ∧ '~' ∉ path ∧
    ∀ front back, path = front ++ ':' :: back →
      ∃ letter, Char.isAlpha letter = true ∧ front = [letter]

/-- Whatever the metadata of the path, the check does not panic and accepts only plain paths. -/
def KeepsPromise (casing : Casing) (path : Text) : Prop :=
  ∀ metadata, validatePath casing metadata path ≠ none ∧
    (validatePath casing metadata path = some (.ok ()) → IsPlainPath path)

/-- A path that is rejected before its colons are looked at, that has none but that of a drive,
or that starts with no letter and has one behind its second byte. -/
def IsJudgedRight (path : Text) : Prop :=
  "\\\\".toList <+: path ∨ '~' ∈ path ∨ ':' ∉ path ∨
    (∃ letter rest, path = letter :: ':' :: rest ∧ Char.isAlpha letter = true ∧ ':' ∉ rest) ∨
    (path.head?.any Char.isAlpha = false ∧
      ∃ front back, path = front ++ back ∧ byteLength front = 2 ∧ ':' ∈ back)

section Promise

variable {casing : Casing} {path : Text}

/-- A plain path with a colon starts with a drive. -/
theorem IsPlainPath.drive (plain : IsPlainPath path) (colon : ':' ∈ path) :
    ∃ letter rest, path = letter :: ':' :: rest ∧ Char.isAlpha letter = true ∧ ':' ∉ rest := by
  obtain ⟨_, _, drive⟩ := plain
  obtain ⟨front, rest, rfl⟩ := List.append_of_mem colon
  obtain ⟨letter, isLetter, rfl⟩ := drive front rest rfl
  refine ⟨letter, rest, rfl, isLetter, ?_⟩
  intro second
  obtain ⟨between, others, rfl⟩ := List.append_of_mem second
  obtain ⟨other, _, same⟩ := drive (letter :: ':' :: between) others rfl
  cases same

theorem isPlainPath_of_drive {letter : Char} {rest : Text} (isLetter : letter.isAlpha = true)
    (only : ':' ∉ rest) (noTilde : '~' ∉ letter :: ':' :: rest) :
    IsPlainPath (letter :: ':' :: rest) := by
  refine ⟨?_, noTilde, ?_⟩
  · intro unc
    rw [← (List.cons_prefix_cons.mp unc).1] at isLetter
    cases isLetter
  · intro front back split
    cases front with
    | nil =>
        rw [(List.cons.inj split).1] at isLetter
        cases isLetter
    | cons first front =>
        obtain ⟨rfl, tail⟩ := List.cons.inj split
        cases front with
        | nil => exact ⟨letter, isLetter, rfl⟩
        | cons second front =>
            obtain ⟨_, rfl⟩ := List.cons.inj tail
            exact absurd (List.mem_append_right front List.mem_cons_self) only

/-- A path that is always rejected. -/
theorem keepsPromise_of_rejected
    (rejected : ∀ metadata, ∃ reason, validatePath casing metadata path = some (.error reason)) :
    KeepsPromise casing path := by
  intro metadata
  obtain ⟨reason, result⟩ := rejected metadata
  rw [result]
  exact ⟨Option.some_ne_none _, fun accepted => by cases accepted⟩

/-- A path that is accepted unless it is a reparse point. -/
theorem keepsPromise_iff_isPlainPath
    (accepted : ∀ metadata,
      validatePath casing metadata path = some (rejectReparsePoint metadata path)) :
    KeepsPromise casing path ↔ IsPlainPath path := by
  constructor
  · intro keeps
    exact (keeps (.attributes 0)).2 (accepted _)
  · intro plain metadata
    rw [accepted metadata]
    exact ⟨Option.some_ne_none _, fun _ => plain⟩

/-- Where the path is sliced, only a colon behind its second byte saves the promise. -/
theorem keepsPromise_of_slice (unc : ¬ "\\\\".toList <+: path) (tilde : '~' ∉ path)
    (sliced : ':' ∈ path ∧ path.head?.any Char.isAlpha = false) :
    KeepsPromise casing path ↔ ∃ back, dropBytes 2 path = some back ∧ ':' ∈ back := by
  have result : ∀ metadata, validatePath casing metadata path = _ :=
    fun metadata => (validatePath_of_noUnc unc).trans ((if_neg tilde).trans (if_pos sliced))
  cases slice : dropBytes 2 path with
  | none =>
      simp only [slice, Option.map_none] at result
      refine iff_of_false ?_ (by rintro ⟨_, found, _⟩; cases found)
      intro keeps
      exact (keeps (.attributes 0)).1 (result _)
  | some back =>
      simp only [slice, Option.map_some] at result
      by_cases colon : ':' ∈ back
      · simp only [if_pos colon] at result
        exact iff_of_true (keepsPromise_of_rejected fun metadata => ⟨_, result metadata⟩)
          ⟨back, rfl, colon⟩
      · simp only [if_neg colon] at result
        rw [keepsPromise_iff_isPlainPath result]
        constructor
        · intro plain
          obtain ⟨letter, rest, rfl, isLetter, _⟩ := plain.drive sliced.1
          have noLetter : letter.isAlpha = false := sliced.2
          rw [isLetter] at noLetter
          cases noLetter
        · rintro ⟨_, ⟨⟩, found⟩
          exact absurd found colon

/-- Where the path is not sliced, it has no colon but that of a drive, or breaks the promise. -/
theorem keepsPromise_of_no_slice (unc : ¬ "\\\\".toList <+: path) (tilde : '~' ∉ path)
    (sliced : ¬ (':' ∈ path ∧ path.head?.any Char.isAlpha = false)) :
    KeepsPromise casing path ↔ ':' ∉ path ∨
      ∃ letter rest, path = letter :: ':' :: rest ∧ Char.isAlpha letter = true ∧ ':' ∉ rest := by
  rw [keepsPromise_iff_isPlainPath fun metadata =>
    (validatePath_of_noUnc unc).trans ((if_neg tilde).trans (if_neg sliced))]
  constructor
  · intro plain
    by_cases colon : ':' ∈ path
    · exact Or.inr (plain.drive colon)
    · exact Or.inl colon
  · rintro (noColon | ⟨letter, rest, rfl, isLetter, only⟩)
    · refine ⟨unc, tilde, ?_⟩
      rintro front back rfl
      exact absurd (List.mem_append_right front List.mem_cons_self) noColon
    · exact isPlainPath_of_drive isLetter only tilde

/-- The check keeps its promise exactly on the paths that it judges right. -/
theorem keepsPromise_iff (casing : Casing) (path : Text) :
    KeepsPromise casing path ↔ IsJudgedRight path := by
  by_cases unc : "\\\\".toList <+: path
  · have rejected : KeepsPromise casing path :=
      keepsPromise_of_rejected fun metadata => ⟨_, if_pos unc⟩
    exact iff_of_true rejected (Or.inl unc)
  by_cases tilde : '~' ∈ path
  · have rejected : KeepsPromise casing path :=
      keepsPromise_of_rejected fun metadata =>
        ⟨_, (validatePath_of_noUnc unc).trans (if_pos tilde)⟩
    exact iff_of_true rejected (Or.inr (Or.inl tilde))
  by_cases sliced : ':' ∈ path ∧ path.head?.any Char.isAlpha = false
  · rw [keepsPromise_of_slice unc tilde sliced]
    simp only [dropBytes_eq_some_iff]
    constructor
    · rintro ⟨back, ⟨front, split, two⟩, colon⟩
      exact Or.inr (Or.inr (Or.inr (Or.inr ⟨sliced.2, front, back, split, two, colon⟩)))
    · rintro (isUnc | hasTilde | noColon | ⟨letter, rest, rfl, isLetter, _⟩ |
        ⟨_, front, back, split, two, colon⟩)
      · exact absurd isUnc unc
      · exact absurd hasTilde tilde
      · exact absurd sliced.1 noColon
      · have noLetter : letter.isAlpha = false := sliced.2
        rw [isLetter] at noLetter
        cases noLetter
      · exact ⟨back, ⟨front, split, two⟩, colon⟩
  · rw [keepsPromise_of_no_slice unc tilde sliced]
    constructor
    · rintro (noColon | drive)
      · exact Or.inr (Or.inr (Or.inl noColon))
      · exact Or.inr (Or.inr (Or.inr (Or.inl drive)))
    · rintro (isUnc | hasTilde | noColon | drive | ⟨noLetter, front, back, rfl, _, colon⟩)
      · exact absurd isUnc unc
      · exact absurd hasTilde tilde
      · exact Or.inl noColon
      · exact Or.inr drive
      · exact absurd ⟨List.mem_append_right front colon, noLetter⟩ sliced

end Promise

/-- A stream of a file on a drive is accepted, and a lone colon panics. -/
theorem validatePath_stream :
    (validatePath Casing.excerpt (.attributes 0) "C:\\file.txt:stream".toList = some (.ok ()) ∧
      ¬ IsPlainPath "C:\\file.txt:stream".toList) ∧
      validatePath Casing.excerpt (.attributes 0) [':'] = none := by
  refine ⟨⟨by decide, ?_⟩, by decide⟩
  rintro ⟨_, _, drive⟩
  obtain ⟨letter, _, same⟩ := drive "C:\\file.txt".toList "stream".toList (by decide)
  cases same

end DlpSystem.Dacl
