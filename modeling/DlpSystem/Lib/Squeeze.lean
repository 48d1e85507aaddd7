import Mathlib.Data.List.Chain
import Mathlib.Data.List.Infix

/-!
# Separators that follow a separator

`squeeze` drops every separator that follows one.  The pieces between the separators stay
as they are, except for the empty ones.
-/

namespace DlpSystem.Lib

universe u

variable {α : Type u} [DecidableEq α]

/-- Drops a separator that follows one; `follows` says whether one stands before the list. -/
def squeezeAfter (separator : α) : Bool → List α → List α
  | _, [] => []
  | follows, letter :: rest =>
      if letter = separator then
        if follows then squeezeAfter separator true rest
        else letter :: squeezeAfter separator true rest
      else letter :: squeezeAfter separator false rest

/-- Drops every separator that follows one. -/
def squeeze (separator : α) (text : List α) : List α :=
  squeezeAfter separator false text

variable {separator : α}

@[simp]
theorem squeezeAfter_nil (follows : Bool) : squeezeAfter separator follows [] = [] := rfl

@[simp]
theorem squeezeAfter_separator_true (rest : List α) :
    squeezeAfter separator true (separator :: rest) = squeezeAfter separator true rest := by
  simp [squeezeAfter]

@[simp]
theorem squeezeAfter_separator_false (rest : List α) :
    squeezeAfter separator false (separator :: rest) =
      separator :: squeezeAfter separator true rest := by
  simp [squeezeAfter]

theorem squeezeAfter_of_ne {letter : α} (other : letter ≠ separator) (follows : Bool)
    (rest : List α) :
    squeezeAfter separator follows (letter :: rest) =
      letter :: squeezeAfter separator false rest := by
  simp [squeezeAfter, other]

theorem squeezeAfter_sublist (follows : Bool) (text : List α) :
    (squeezeAfter separator follows text).Sublist text := by
  induction text generalizing follows with
  | nil => exact List.Sublist.refl []
  | cons letter rest ih =>
      by_cases same : letter = separator
      · subst same
        cases follows with
        | true =>
            rw [squeezeAfter_separator_true]
            exact (ih true).cons letter
        | false =>
            rw [squeezeAfter_separator_false]
            exact (ih true).cons_cons letter
      · rw [squeezeAfter_of_ne same]
        exact (ih false).cons_cons letter

/-- No two separators are left next to each other, and none at the start if one stands
before it. -/
theorem isChain_squeezeAfter (follows : Bool) (text : List α) :
    (squeezeAfter separator follows text).IsChain
        (fun left right => ¬(left = separator ∧ right = separator)) ∧
      (follows = true → (squeezeAfter separator follows text).head? ≠ some separator) := by
  induction text generalizing follows with
  | nil => simp
  | cons letter rest ih =>
      by_cases same : letter = separator
      · subst same
        cases follows with
        | true =>
            rw [squeezeAfter_separator_true]
            exact ih true
        | false =>
            rw [squeezeAfter_separator_false]
            constructor
            · apply List.isChain_cons.mpr
              constructor
              · rintro next next_head ⟨-, rfl⟩
                exact (ih true).2 rfl next_head
              · exact (ih true).1
            · simp
      · rw [squeezeAfter_of_ne same]
        constructor
        · apply List.isChain_cons.mpr
          constructor
          · rintro next - ⟨equal, -⟩
            exact same equal
          · exact (ih false).1
        · simp [same]

/-- A separator before the text costs one at most. -/
theorem length_squeezeAfter_false_le (text : List α) :
    (squeezeAfter separator false text).length ≤
      (squeezeAfter separator true text).length + 1 := by
  cases text with
  | nil => exact Nat.zero_le 1
  | cons letter rest =>
      by_cases same : letter = separator
      · subst same
        rw [squeezeAfter_separator_false, squeezeAfter_separator_true, List.length_cons]
      · rw [squeezeAfter_of_ne same, squeezeAfter_of_ne same]
        exact Nat.le_succ _

/-- Separators at the start are dropped if one stands before them. -/
theorem squeezeAfter_dropWhile (text : List α) :
    squeezeAfter separator true (text.dropWhile (· == separator)) =
      squeezeAfter separator true text := by
  induction text with
  | nil => rfl
  | cons letter rest ih =>
      by_cases same : letter = separator
      · subst same
        rw [List.dropWhile_cons_of_pos (by simp), ih, squeezeAfter_separator_true]
      · rw [List.dropWhile_cons_of_neg (by simpa using same)]

/-- Nothing is left only of a text of separators that follow one. -/
theorem squeezeAfter_true_eq_nil_iff (text : List α) :
    squeezeAfter separator true text = [] ↔ ∀ letter ∈ text, letter = separator := by
  induction text with
  | nil => simp
  | cons letter rest ih =>
      by_cases same : letter = separator
      · subst same
        rw [squeezeAfter_separator_true, ih]
        simp
      · rw [squeezeAfter_of_ne same]
        simp [same]

/-- Behind the first letter nothing is moved to the front. -/
theorem tail_squeeze_sublist (text : List α) : (squeeze separator text).tail.Sublist text.tail := by
  cases text with
  | nil => exact List.Sublist.refl []
  | cons letter rest =>
      by_cases same : letter = separator
      · subst same
        rw [squeeze, squeezeAfter_separator_false]
        exact squeezeAfter_sublist true rest
      · rw [squeeze, squeezeAfter_of_ne same]
        exact squeezeAfter_sublist false rest

/-- Squeezing a text that is changed letter by letter, with the separators kept. -/
theorem squeezeAfter_map {change : α → α}
    (kept : ∀ letter, change letter = separator ↔ letter = separator)
    (follows : Bool) (text : List α) :
    squeezeAfter separator follows (text.map change) =
      (squeezeAfter separator follows text).map change := by
  induction text generalizing follows with
  | nil => rfl
  | cons letter rest ih =>
      by_cases same : letter = separator
      · subst same
        have fixed := (kept letter).mpr rfl
        rw [List.map_cons, fixed]
        cases follows with
        | true => rw [squeezeAfter_separator_true, squeezeAfter_separator_true, ih]
        | false =>
            rw [squeezeAfter_separator_false, squeezeAfter_separator_false, ih, List.map_cons,
              fixed]
      · have other : change letter ≠ separator := fun equal => same ((kept letter).mp equal)
        rw [List.map_cons, squeezeAfter_of_ne other, squeezeAfter_of_ne same, ih, List.map_cons]

/-! ## Parts without a separator -/

/-- What a squeezed text starts with, and has no separator, the text starts with. -/
theorem prefix_of_prefix_squeezeAfter {part text : List α} (whole : separator ∉ part)
    (leads : part <+: squeezeAfter separator false text) : part <+: text := by
  induction text generalizing part with
  | nil => exact leads
  | cons letter rest ih =>
      by_cases same : letter = separator
      · subst same
        rw [squeezeAfter_separator_false] at leads
        rcases List.prefix_cons_iff.mp leads with rfl | ⟨part, rfl, -⟩
        · exact List.nil_prefix
        · exact absurd List.mem_cons_self whole
      · rw [squeezeAfter_of_ne same] at leads
        rcases List.prefix_cons_iff.mp leads with rfl | ⟨part, rfl, rest_leads⟩
        · exact List.nil_prefix
        · apply List.cons_prefix_cons.mpr
          exact ⟨rfl, ih (fun member => whole (List.mem_cons_of_mem _ member)) rest_leads⟩

/-- A part without a separator that a squeezed text contains is in the text. -/
theorem infix_of_infix_squeezeAfter {part : List α} (whole : separator ∉ part)
    {follows : Bool} {text : List α} (inside : part <:+: squeezeAfter separator follows text) :
    part <:+: text := by
  induction text generalizing follows with
  | nil => exact inside
  | cons letter rest ih =>
      by_cases same : letter = separator
      · subst same
        cases follows with
        | true =>
            rw [squeezeAfter_separator_true] at inside
            exact (ih inside).trans (List.suffix_cons letter rest).isInfix
        | false =>
            rw [squeezeAfter_separator_false] at inside
            rcases List.infix_cons_iff.mp inside with leads | inside
            · rcases List.prefix_cons_iff.mp leads with rfl | ⟨part, rfl, -⟩
              · exact List.nil_infix
              · exact absurd List.mem_cons_self whole
            · exact (ih inside).trans (List.suffix_cons letter rest).isInfix
      · have kept := squeezeAfter_of_ne same follows rest
        rw [kept] at inside
        rcases List.infix_cons_iff.mp inside with leads | inside
        · rw [← squeezeAfter_of_ne same false rest] at leads
          exact (prefix_of_prefix_squeezeAfter whole leads).isInfix
        · exact (ih inside).trans (List.suffix_cons letter rest).isInfix

/-! ## How pieces end -/

/-- Some piece between separators ends in a bad letter. -/
def endsPiece (separator : α) (bad : α → Bool) : List α → Bool
  | [] => false
  | [letter] => bad letter
  | letter :: next :: rest =>
      (bad letter && next == separator) || endsPiece separator bad (next :: rest)

section Pieces

variable {bad : α → Bool}

/-- A letter that is not bad ends no piece badly. -/
theorem endsPiece_cons_of_good {letter : α} (good : bad letter = false) (rest : List α) :
    endsPiece separator bad (letter :: rest) = endsPiece separator bad rest := by
  cases rest with
  | nil => exact good
  | cons next rest => simp [endsPiece, good]

theorem endsPiece_append_of_good {lead : List α} (good : ∀ letter ∈ lead, bad letter = false)
    (rest : List α) : endsPiece separator bad (lead ++ rest) = endsPiece separator bad rest := by
  induction lead with
  | nil => rfl
  | cons letter lead ih =>
      rw [List.cons_append, endsPiece_cons_of_good (good letter List.mem_cons_self)]
      exact ih fun other member => good other (List.mem_cons_of_mem letter member)

/-- Squeezing drops empty pieces only. -/
theorem endsPiece_squeezeAfter (good : bad separator = false) (follows : Bool) (text : List α) :
    endsPiece separator bad (squeezeAfter separator follows text) =
      endsPiece separator bad text := by
  induction text generalizing follows with
  | nil => rfl
  | cons letter rest ih =>
      by_cases same : letter = separator
      · subst same
        rw [endsPiece_cons_of_good good]
        cases follows with
        | true => rw [squeezeAfter_separator_true, ih]
        | false => rw [squeezeAfter_separator_false, endsPiece_cons_of_good good, ih]
      · rw [squeezeAfter_of_ne same]
        cases rest with
        | nil => rfl
        | cons next rest =>
            have later := ih false
            by_cases nextSame : next = separator
            · subst nextSame
              rw [squeezeAfter_separator_false] at later ⊢
              simp only [endsPiece, later]
            · rw [squeezeAfter_of_ne nextSame] at later ⊢
              simp only [endsPiece, later]

/-- A separator at the end ends no further piece. -/
theorem endsPiece_concat (good : bad separator = false) (text : List α) :
    endsPiece separator bad (text ++ [separator]) = endsPiece separator bad text := by
  induction text with
  | nil => exact good
  | cons letter rest ih =>
      cases rest with
      | nil => simp [endsPiece, good]
      | cons next rest =>
          simp only [List.cons_append, endsPiece] at ih ⊢
          rw [ih]

theorem endsPiece_map {change : α → α} (keepsBad : ∀ letter, bad (change letter) = bad letter)
    (keepsSeparator : ∀ letter, change letter = separator ↔ letter = separator)
    (text : List α) :
    endsPiece separator bad (text.map change) = endsPiece separator bad text := by
  induction text with
  | nil => rfl
  | cons letter rest ih =>
      cases rest with
      | nil => exact keepsBad letter
      | cons next rest =>
          have separates : (change next == separator) = (next == separator) := by
            rw [Bool.eq_iff_iff]
            simpa using keepsSeparator next
          simp only [List.map_cons, endsPiece] at ih ⊢
          rw [ih, keepsBad, separates]

/-- How the pieces of a split text end. -/
theorem any_splitOn_eq_endsPiece (good : bad separator = false) (text : List α) :
    ((text.splitOn separator).any fun piece => piece.getLast?.any bad) =
      endsPiece separator bad text := by
  induction text with
  | nil => rfl
  | cons letter rest ih =>
      rw [List.splitOn_cons_eq_if_modifyHead]
      by_cases same : letter = separator
      · subst same
        rw [endsPiece_cons_of_good good, ← ih]
        simp
      · have passed : ¬ (letter == separator) = true := by simpa using same
        rw [if_neg passed]
        cases rest with
        | nil => simp [endsPiece]
        | cons next rest =>
            rw [endsPiece, ← ih, List.splitOn_cons_eq_if_modifyHead]
            by_cases nextSame : next = separator
            · simp [nextSame]
            · have nextPassed : ¬ (next == separator) = true := by simpa using nextSame
              rw [if_neg nextPassed]
              cases rest.splitOn separator with
              | nil => simp [nextSame]
              | cons piece pieces => simp [nextSame]

end Pieces

end DlpSystem.Lib
