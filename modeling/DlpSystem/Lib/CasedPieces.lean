import DlpSystem.Lib.Casing

/-!
# Pieces of a text in lower case

A mark is a character of ASCII that is no letter.  Lowering leaves marks where they are and
makes no new ones.  Where a mark also ends the words next to it, a text is lowered piece by
piece between its marks.
-/

namespace DlpSystem.Lib

namespace Casing

variable {casing : Casing} {mark : Char}

/-- A character of ASCII that is no letter. -/
def IsMark (mark : Char) : Prop :=
  mark.toNat < 128 ∧ mark.isAlpha = false

/-- Only a mark is lowered to it. -/
theorem eq_of_mark_mem_lowerAt (isMark : IsMark mark) {before after : Text} {char : Char}
    (member : mark ∈ casing.lowerAt before char after) : char = mark := by
  obtain ⟨ascii, noLetter⟩ := isMark
  rw [lowerAt] at member
  split at member
  · split at member <;>
      · rw [List.mem_singleton.mp member] at ascii
        exact absurd ascii (by decide)
  · by_cases charAscii : char.toNat < 128
    · rw [casing.lower_ascii char charAscii, List.mem_singleton] at member
      exact (toLower_eq_mark_iff noLetter char).mp member.symm
    · have small := casing.lower_foreign char (Nat.not_lt.mp charAscii) mark member ascii
      unfold Char.isAlpha at noLetter
      rw [small, Bool.or_true] at noLetter
      cases noLetter

theorem lowerAt_mark (isMark : IsMark mark) (before after : Text) :
    casing.lowerAt before mark after = [mark] := by
  rw [lowerAt_ascii before after isMark.1, (toLower_eq_mark_iff isMark.2 mark).mpr rfl]

theorem lowerAt_ne_nil (before : Text) (char : Char) (after : Text) :
    casing.lowerAt before char after ≠ [] := by
  rw [lowerAt]
  split
  · split <;> exact List.cons_ne_nil _ _
  · exact casing.lower_ne_nil char

/-- A mark in front of a lowered text is in front of the text. -/
theorem exists_cons_of_lowerFrom_eq_cons (isMark : IsMark mark) {before text tail : Text}
    (lowered : casing.lowerFrom before text = mark :: tail) :
    ∃ rest, text = mark :: rest ∧ casing.lowerFrom (before ++ [mark]) rest = tail := by
  cases text with
  | nil => cases lowered
  | cons char rest =>
      have first : mark ∈ casing.lowerAt before char rest := by
        cases here : casing.lowerAt before char rest with
        | nil => exact absurd here (lowerAt_ne_nil before char rest)
        | cons head more =>
            rw [lowerFrom, here] at lowered
            rw [(List.cons.inj lowered).1]
            exact List.mem_cons_self
      obtain rfl := eq_of_mark_mem_lowerAt isMark first
      rw [lowerFrom, lowerAt_mark isMark] at lowered
      exact ⟨rest, rfl, (List.cons.inj lowered).2⟩

/-- No marks come up where there are none. -/
theorem not_mem_toLowercase (isMark : IsMark mark) {text : Text} (absent : mark ∉ text) :
    mark ∉ casing.toLowercase text := by
  have all : ∀ before, mark ∉ casing.lowerFrom before text := by
    induction text with
    | nil => exact fun _ => List.not_mem_nil
    | cons char rest ih =>
        intro before member
        rw [lowerFrom, List.mem_append] at member
        rcases member with here | later
        · obtain rfl := eq_of_mark_mem_lowerAt isMark here
          exact absent List.mem_cons_self
        · exact ih (fun inRest => absent (List.mem_cons_of_mem _ inRest)) _ later
  exact all []

theorem toLowercase_eq_nil_iff {text : Text} : casing.toLowercase text = [] ↔ text = [] := by
  constructor
  · intro lowered
    cases text with
    | nil => rfl
    | cons char rest =>
        rw [toLowercase, lowerFrom, List.append_eq_nil_iff] at lowered
        exact absurd lowered.1 (lowerAt_ne_nil [] char rest)
  · rintro rfl
    rfl

/-! ## Words -/

/-- A character ends the words on both of its sides: what stands beyond it does not matter to a
sigma. -/
structure EndsWords (casing : Casing) (mark : Char) : Prop where
  behind : ∀ front before after,
    casing.endsWord (front ++ mark :: before) after = casing.endsWord before after
  ahead : ∀ before after back,
    casing.endsWord before (after ++ mark :: back) = casing.endsWord before after

variable (ends : casing.EndsWords mark)
include ends

theorem lowerFrom_behind (front before text : Text) :
    casing.lowerFrom (front ++ mark :: before) text = casing.lowerFrom before text := by
  induction text generalizing before with
  | nil => rfl
  | cons char rest ih =>
      have next := ih (before ++ [char])
      rw [← List.cons_append, ← List.append_assoc] at next
      rw [lowerFrom, lowerFrom, lowerAt, lowerAt, ends.behind, next]

/-- A text is lowered on both sides of a mark that ends words. -/
theorem lowerFrom_append_mark (isMark : IsMark mark) (before text back : Text) :
    casing.lowerFrom before (text ++ mark :: back) =
      casing.lowerFrom before text ++ mark :: casing.toLowercase back := by
  induction text generalizing before with
  | nil =>
      show casing.lowerAt before mark back ++ casing.lowerFrom (before ++ [mark]) back = _
      rw [lowerAt_mark isMark, lowerFrom_behind ends before []]
      rfl
  | cons char rest ih =>
      rw [List.cons_append, lowerFrom, lowerFrom, ih, lowerAt, lowerAt, ends.ahead,
        List.append_assoc]

theorem toLowercase_append_mark (isMark : IsMark mark) (text back : Text) :
    casing.toLowercase (text ++ mark :: back) =
      casing.toLowercase text ++ mark :: casing.toLowercase back :=
  lowerFrom_append_mark ends isMark [] text back

end Casing

/-! ## Pieces between separators -/

section Segments

variable (isSep : Char → Bool)

/-- The pieces of a text that a separator ends, each with its separator, and the piece behind
them. -/
def segments : Text → List (Text × Char) × Text
  | [] => ([], [])
  | char :: rest =>
      if isSep char then (([], char) :: (segments rest).1, (segments rest).2)
      else
        match segments rest with
        | ([], last) => ([], char :: last)
        | ((piece, sep) :: more, last) => ((char :: piece, sep) :: more, last)

variable {isSep}

theorem segments_of_none {text : Text} (none : ∀ char ∈ text, isSep char = false) :
    segments isSep text = ([], text) := by
  induction text with
  | nil => rfl
  | cons char rest ih =>
      obtain ⟨first, others⟩ := List.forall_mem_cons.mp none
      rw [segments, if_neg (by rw [first]; exact Bool.false_ne_true), ih others]

theorem segments_append {piece : Text} {sep : Char} (none : ∀ char ∈ piece, isSep char = false)
    (isSeparator : isSep sep = true) (back : Text) :
    segments isSep (piece ++ sep :: back) =
      ((piece, sep) :: (segments isSep back).1, (segments isSep back).2) := by
  induction piece with
  | nil => rw [List.nil_append, segments, if_pos isSeparator]
  | cons char rest ih =>
      obtain ⟨first, others⟩ := List.forall_mem_cons.mp none
      rw [List.cons_append, segments, if_neg (by rw [first]; exact Bool.false_ne_true),
        ih others]

/-- A text has no separator, or a first one. -/
theorem segments_cases (text : Text) :
    (∀ char ∈ text, isSep char = false) ∨
      ∃ piece sep back, text = piece ++ sep :: back ∧ (∀ char ∈ piece, isSep char = false) ∧
        isSep sep = true := by
  induction text with
  | nil => exact Or.inl (List.forall_mem_nil _)
  | cons char rest ih =>
      cases first : isSep char with
      | true => exact Or.inr ⟨[], char, rest, rfl, List.forall_mem_nil _, first⟩
      | false =>
          rcases ih with none | ⟨piece, sep, back, rfl, none, isSeparator⟩
          · exact Or.inl (List.forall_mem_cons.mpr ⟨first, none⟩)
          · exact Or.inr ⟨char :: piece, sep, back, rfl,
              List.forall_mem_cons.mpr ⟨first, none⟩, isSeparator⟩

/-- A property of texts by their separated pieces. -/
theorem segments_induction {motive : Text → Prop}
    (last : ∀ text, (∀ char ∈ text, isSep char = false) → motive text)
    (piece : ∀ piece sep back, (∀ char ∈ piece, isSep char = false) → isSep sep = true →
      motive back → motive (piece ++ sep :: back)) (text : Text) : motive text := by
  induction length : text.length using Nat.strongRecOn generalizing text with
  | ind size ih =>
      rcases @segments_cases isSep text with none | ⟨front, sep, back, rfl, none, isSeparator⟩
      · exact last text none
      · rw [List.length_append, List.length_cons] at length
        exact piece front sep back none isSeparator (ih back.length (by omega) back rfl)

/-- Two texts with a first separator each start alike when they agree up to it and behind it. -/
theorem append_cons_isPrefix_iff {front other back rest : Text} {sep second : Char}
    (none : ∀ char ∈ front, isSep char = false) (noOther : ∀ char ∈ other, isSep char = false)
    (isSeparator : isSep sep = true) (isSecond : isSep second = true) :
    front ++ sep :: back <+: other ++ second :: rest ↔
      front = other ∧ sep = second ∧ back <+: rest := by
  induction front generalizing other with
  | nil =>
      cases other with
      | nil =>
          rw [List.nil_append, List.nil_append, List.cons_prefix_cons]
          simp only [true_and]
      | cons char others =>
          have char_ne : sep ≠ char := by
            rintro rfl
            rw [noOther sep List.mem_cons_self] at isSeparator
            cases isSeparator
          rw [List.nil_append, List.cons_append, List.cons_prefix_cons]
          simp only [char_ne, false_and, reduceCtorEq]
  | cons char others ih =>
      obtain ⟨first, none⟩ := List.forall_mem_cons.mp none
      cases other with
      | nil =>
          have ne_char : char ≠ second := by
            rintro rfl
            rw [first] at isSecond
            cases isSecond
          rw [List.nil_append, List.cons_append, List.cons_prefix_cons]
          simp only [ne_char, false_and, reduceCtorEq]
      | cons head more =>
          rw [List.cons_append, List.cons_append, List.cons_prefix_cons,
            ih none (List.forall_mem_cons.mp noOther).2, List.cons.injEq, and_assoc]

end Segments

/-! ## Lowered pieces -/

section LoweredPieces

variable (casing : Casing) (isSep : Char → Bool)

/-- The pieces of a text in lower case, with the separators that end them. -/
def loweredSegments (text : Text) : List (Text × Char) :=
  (segments isSep text).1.map fun part => (casing.toLowercase part.1, part.2)

/-- Separators are marks that end words. -/
def SeparatesWords : Prop :=
  ∀ sep, isSep sep = true → Casing.IsMark sep ∧ casing.EndsWords sep

variable {casing isSep} (separates : SeparatesWords casing isSep)
include separates

/-- Lowering makes no separators. -/
theorem toLowercase_of_none {text : Text} (none : ∀ char ∈ text, isSep char = false) :
    ∀ char ∈ casing.toLowercase text, isSep char = false := by
  intro char member
  by_contra found
  have isSeparator : isSep char = true := by simpa using found
  apply Casing.not_mem_toLowercase (separates char isSeparator).1 _ member
  intro inText
  rw [none char inText] at isSeparator
  cases isSeparator

/-- A text that ends with a separator starts another in lower case when its pieces do. -/
theorem toLowercase_isPrefix_iff {folder : Text} (ended : (segments isSep folder).2 = [])
    (path : Text) :
    casing.toLowercase folder <+: casing.toLowercase path ↔
      loweredSegments casing isSep folder <+: loweredSegments casing isSep path := by
  induction folder using @segments_induction isSep generalizing path with
  | last text none =>
      rw [segments_of_none none] at ended
      obtain rfl : text = [] := ended
      exact iff_of_true (List.nil_prefix) (List.nil_prefix)
  | piece piece sep back none isSeparator ih =>
      obtain ⟨isMark, ends⟩ := separates sep isSeparator
      rw [segments_append none isSeparator] at ended
      rw [Casing.toLowercase_append_mark ends isMark, loweredSegments,
        segments_append none isSeparator, List.map_cons]
      rcases @segments_cases isSep path with noPath | ⟨front, second, rest, rfl, noFront, isSecond⟩
      · rw [loweredSegments, segments_of_none noPath]
        refine iff_of_false ?_ (by simp)
        rintro starts
        have inPath := starts.subset (List.mem_append_right _ List.mem_cons_self)
        rw [toLowercase_of_none separates noPath sep inPath] at isSeparator
        cases isSeparator
      · obtain ⟨secondMark, secondEnds⟩ := separates second isSecond
        rw [Casing.toLowercase_append_mark secondEnds secondMark, loweredSegments,
          segments_append noFront isSecond, List.map_cons, List.cons_prefix_cons,
          append_cons_isPrefix_iff (toLowercase_of_none separates none)
            (toLowercase_of_none separates noFront) isSeparator isSecond, ih ended rest,
          Prod.mk.injEq, and_assoc]
        rfl

end LoweredPieces

/-! ## An excerpt of the tables -/

namespace Casing

/-- Letters of ASCII, and sigmas. -/
def isWordChar (char : Char) : Bool :=
  char.isAlpha || char ∈ [capitalSigma, smallSigma, finalSigma]

/-- An excerpt of the tables in which a word ends behind a letter, in front of anything else. -/
def wordExcerpt : Casing :=
  { excerpt with
    endsWord := fun before after =>
      before.getLast?.any isWordChar && !after.head?.any isWordChar }

theorem endsWords_wordExcerpt {mark : Char} (noWord : isWordChar mark = false) :
    wordExcerpt.EndsWords mark where
  behind := by
    intro front before after
    cases before with
    | nil => simp [wordExcerpt, noWord]
    | cons char rest =>
        have last : (front ++ mark :: char :: rest).getLast? = (char :: rest).getLast? := by
          rw [List.append_cons, List.getLast?_append_of_ne_nil _ (List.cons_ne_nil char rest)]
        show ((front ++ mark :: char :: rest).getLast?.any isWordChar && _) = _
        rw [last]
        rfl
  ahead := by
    intro before after back
    cases after with
    | nil => simp [wordExcerpt, noWord]
    | cons char rest => rfl

end Casing

end DlpSystem.Lib
