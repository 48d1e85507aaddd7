import Mathlib.Data.List.Infix

/-!
# Texts in lower case

Lowering a text replaces each character by its lower case, which may be several characters,
and a capital sigma by the small one or, at the end of a word, by the final one.  The tables
behind this grow with the versions of Unicode.  A `Casing` is such a table, with the laws that
all versions have in common.
-/

namespace DlpSystem.Lib

/-- A text by its characters. -/
abbrev Text := List Char

/-- A property of the characters of a text is decided by going through the text. -/
theorem forall_mem_of_all {text : Text} {property : Char → Prop} [DecidablePred property]
    (all : text.all fun char => property char) : ∀ char ∈ text, property char := by
  intro char member
  exact of_decide_eq_true (List.all_eq_true.mp all char member)

/-! ## Letters of ASCII -/

/-- A property of the characters of ASCII is decided by going through them. -/
theorem forall_ascii {property : Char → Prop} [DecidablePred property]
    (all : ∀ code : Fin 128, property (Char.ofNat code.val)) {char : Char}
    (ascii : char.toNat < 128) : property char := by
  simpa only [Char.ofNat_toNat] using all ⟨char.toNat, ascii⟩

theorem toLower_foreign {char : Char} (foreign : 128 ≤ char.toNat) : char.toLower = char := by
  unfold Char.toLower
  split
  · rename_i capital
    have bound : char.toNat ≤ 90 := capital.2
    omega
  · rfl

theorem toUpper_foreign {char : Char} (foreign : 128 ≤ char.toNat) : char.toUpper = char := by
  unfold Char.toUpper
  split
  · rename_i small
    have bound : char.toNat ≤ 122 := small.2
    omega
  · rfl

/-- A property of the cases of characters is decided for ASCII; every other character is its own
lower and upper case. -/
theorem forall_cased {property : Char → Prop} [DecidablePred property]
    (decided : ∀ code : Fin 128, property (Char.ofNat code.val))
    (uncased : ∀ char : Char, char.toLower = char → char.toUpper = char → property char)
    (char : Char) : property char := by
  rcases Nat.lt_or_ge char.toNat 128 with ascii | foreign
  · exact forall_ascii decided ascii
  · exact uncased char (toLower_foreign foreign) (toUpper_foreign foreign)

theorem toLower_toLower : ∀ char : Char, char.toLower.toLower = char.toLower :=
  forall_cased (by decide) fun char lower _ => by rw [lower, lower]

theorem toUpper_toUpper : ∀ char : Char, char.toUpper.toUpper = char.toUpper :=
  forall_cased (by decide) fun char _ upper => by rw [upper, upper]

theorem toUpper_toLower : ∀ char : Char, char.toLower.toUpper = char.toUpper :=
  forall_cased (by decide) fun char lower _ => by rw [lower]

theorem isAlpha_toLower : ∀ char : Char, char.toLower.isAlpha = char.isAlpha :=
  forall_cased (by decide) fun char lower _ => by rw [lower]

theorem isAlpha_toUpper : ∀ char : Char, char.toUpper.isAlpha = char.isAlpha :=
  forall_cased (by decide) fun char _ upper => by rw [upper]

/-- Only letters change. -/
theorem isAlpha_of_toLower_ne {char : Char} : char.toLower ≠ char → char.isAlpha = true :=
  @forall_cased (fun char => char.toLower ≠ char → char.isAlpha = true) _ (by decide)
    (fun _ lower _ changed => absurd lower changed) char

theorem isAlpha_of_toUpper_ne {char : Char} : char.toUpper ≠ char → char.isAlpha = true :=
  @forall_cased (fun char => char.toUpper ≠ char → char.isAlpha = true) _ (by decide)
    (fun _ _ upper changed => absurd upper changed) char

/-! ## Tables -/

/-- Σ. -/
def capitalSigma : Char := Char.ofNat 0x3A3

/-- σ. -/
def smallSigma : Char := Char.ofNat 0x3C3

/-- ς. -/
def finalSigma : Char := Char.ofNat 0x3C2

/-- The tables that lowering reads. -/
structure Casing where
  /-- The lower case of a character on its own. -/
  lower : Char → Text
  /-- A capital sigma between two texts ends a word. -/
  endsWord : Text → Text → Bool
  lower_ascii : ∀ char : Char, char.toNat < 128 → lower char = [char.toLower]
  /-- What has been lowered is in lower case. -/
  lower_lower : ∀ char, ∀ part ∈ lower char, lower part = [part]
  lower_capitalSigma : lower capitalSigma = [smallSigma]
  lower_finalSigma : lower finalSigma = [finalSigma]
  /-- From outside ASCII, lowering reaches only small letters of ASCII. -/
  lower_foreign : ∀ char : Char, 128 ≤ char.toNat → ∀ part ∈ lower char, part.toNat < 128 →
    part.isLower = true
  lower_ne_nil : ∀ char, lower char ≠ []

namespace Casing

variable (casing : Casing)

/-- The lower case of a character between two texts. -/
def lowerAt (before : Text) (char : Char) (after : Text) : Text :=
  if char = capitalSigma then
    if casing.endsWord before after then [finalSigma] else [smallSigma]
  else casing.lower char

/-- A text in lower case, behind a text. -/
def lowerFrom (before : Text) : Text → Text
  | [] => []
  | char :: rest => casing.lowerAt before char rest ++ lowerFrom (before ++ [char]) rest

/-- `str::to_lowercase`. -/
def toLowercase (text : Text) : Text :=
  casing.lowerFrom [] text

variable {casing}

theorem ne_capitalSigma {char : Char} (ascii : char.toNat < 128) : char ≠ capitalSigma := by
  rintro rfl
  simp [capitalSigma] at ascii

theorem lowerAt_ascii (before after : Text) {char : Char} (ascii : char.toNat < 128) :
    casing.lowerAt before char after = [char.toLower] := by
  rw [lowerAt, if_neg (ne_capitalSigma ascii), casing.lower_ascii char ascii]

/-- A front of ASCII is lowered letter by letter. -/
theorem lowerFrom_ascii_append (before : Text) {front : Text}
    (ascii : ∀ char ∈ front, char.toNat < 128) (back : Text) :
    casing.lowerFrom before (front ++ back) =
      front.map Char.toLower ++ casing.lowerFrom (before ++ front) back := by
  induction front generalizing before with
  | nil => simp
  | cons char rest ih =>
      rw [List.cons_append, lowerFrom, lowerAt_ascii _ _ (ascii char List.mem_cons_self),
        ih _ fun other member => ascii other (List.mem_cons_of_mem _ member)]
      simp

theorem toLowercase_ascii {text : Text} (ascii : ∀ char ∈ text, char.toNat < 128) :
    casing.toLowercase text = text.map Char.toLower := by
  have whole : casing.lowerFrom [] (text ++ []) = _ := lowerFrom_ascii_append [] ascii []
  rw [List.append_nil] at whole
  rw [toLowercase, whole]
  exact List.append_nil _

/-- What lowering gives is in lower case, and is no capital sigma. -/
theorem lower_of_mem_lowerAt {before after : Text} {char part : Char}
    (member : part ∈ casing.lowerAt before char after) :
    casing.lower part = [part] ∧ part ≠ capitalSigma := by
  have small : casing.lower part = [part] := by
    rw [lowerAt] at member
    split at member
    · split at member
      · rw [List.mem_singleton.mp member]
        exact casing.lower_finalSigma
      · rw [List.mem_singleton.mp member]
        apply casing.lower_lower capitalSigma
        rw [casing.lower_capitalSigma]
        exact List.mem_singleton_self _
    · exact casing.lower_lower _ _ member
  constructor
  · exact small
  · rintro rfl
    rw [casing.lower_capitalSigma] at small
    cases small

theorem lower_of_mem_lowerFrom {before text : Text} {part : Char}
    (member : part ∈ casing.lowerFrom before text) :
    casing.lower part = [part] ∧ part ≠ capitalSigma := by
  induction text generalizing before with
  | nil => cases member
  | cons char rest ih =>
      rw [lowerFrom, List.mem_append] at member
      rcases member with here | later
      · exact lower_of_mem_lowerAt here
      · exact ih later

/-- A text of lower-case characters is left as it is. -/
theorem lowerFrom_eq_self {before text : Text}
    (small : ∀ char ∈ text, casing.lower char = [char] ∧ char ≠ capitalSigma) :
    casing.lowerFrom before text = text := by
  induction text generalizing before with
  | nil => rfl
  | cons char rest ih =>
      obtain ⟨same, noSigma⟩ := small char List.mem_cons_self
      rw [lowerFrom, lowerAt, if_neg noSigma, same,
        ih fun other member => small other (List.mem_cons_of_mem _ member)]
      rfl

/-- A part of a text in lower case is in lower case. -/
theorem toLowercase_of_subset {text part : Text}
    (subset : part ⊆ casing.toLowercase text) : casing.toLowercase part = part :=
  lowerFrom_eq_self fun _ member => lower_of_mem_lowerFrom (subset member)

/-! ## Parts of a text -/

/-- The final sigma as the small one. -/
def foldSigma (char : Char) : Char :=
  if char = finalSigma then smallSigma else char

theorem foldSigma_of_ascii {char : Char} (ascii : char.toNat < 128) : foldSigma char = char := by
  rw [foldSigma, if_neg]
  rintro rfl
  exact absurd ascii (by decide)

theorem eq_of_foldSigma_ascii {char : Char} (ascii : (foldSigma char).toNat < 128) :
    foldSigma char = char := by
  by_cases final : char = finalSigma
  · rw [foldSigma, if_pos final] at ascii
    exact absurd ascii (by decide)
  · rw [foldSigma, if_neg final]

theorem map_foldSigma_lowerAt (before after : Text) (char : Char) :
    (casing.lowerAt before char after).map foldSigma = (casing.lower char).map foldSigma := by
  rw [lowerAt]
  split
  · rename_i capital
    rw [capital, casing.lower_capitalSigma]
    split <;> rfl
  · rfl

/-- Up to the final sigma, a text is lowered character by character. -/
theorem map_foldSigma_lowerFrom (before text : Text) :
    (casing.lowerFrom before text).map foldSigma =
      text.flatMap fun char => (casing.lower char).map foldSigma := by
  induction text generalizing before with
  | nil => rfl
  | cons char rest ih =>
      rw [lowerFrom, List.map_append, map_foldSigma_lowerAt, ih, List.flatMap_cons]

theorem map_foldSigma_append (front back : Text) :
    (casing.toLowercase (front ++ back)).map foldSigma =
      (casing.toLowercase front).map foldSigma ++ (casing.toLowercase back).map foldSigma := by
  rw [toLowercase, toLowercase, toLowercase, map_foldSigma_lowerFrom, map_foldSigma_lowerFrom,
    map_foldSigma_lowerFrom, List.flatMap_append]

/-- A text of ASCII is found whether sigmas are folded or not. -/
theorem infix_map_foldSigma_iff {pattern : Text} (ascii : ∀ char ∈ pattern, char.toNat < 128)
    (text : Text) : pattern <:+: text.map foldSigma ↔ pattern <:+: text := by
  constructor
  · rintro ⟨front, back, split⟩
    obtain ⟨_, rest, rfl, isFront, _⟩ := List.map_eq_append_iff.mp split.symm
    obtain ⟨before, part, rfl, _, rfl⟩ := List.map_eq_append_iff.mp isFront
    have same : part.map foldSigma = part :=
      (List.map_congr_left fun char member =>
        eq_of_foldSigma_ascii (ascii _ (List.mem_map_of_mem member))).trans (List.map_id' part)
    rw [same]
    exact ⟨before, rest, rfl⟩
  · rintro ⟨front, back, rfl⟩
    have same : pattern.map foldSigma = pattern :=
      (List.map_congr_left fun char member => foldSigma_of_ascii (ascii char member)).trans
        (List.map_id' pattern)
    rw [List.map_append, List.map_append, same]
    exact ⟨_, _, rfl⟩

/-! ## An excerpt of the tables -/

/-- The lower case of ASCII, of the capital sigma, the sign of the unit kelvin and the dotted
capital I; other characters stay. -/
def excerptLower (char : Char) : Text :=
  if char = capitalSigma then [smallSigma]
  else if char = Char.ofNat 0x212A then ['k']
  else if char = Char.ofNat 0x130 then ['i', Char.ofNat 0x307]
  else [char.toLower]

theorem excerptLower_ascii {char : Char} (ascii : char.toNat < 128) :
    excerptLower char = [char.toLower] := by
  have noSigma := ne_capitalSigma ascii
  have noKelvin : char ≠ Char.ofNat 0x212A := by
    rintro rfl
    simp at ascii
  have noDotted : char ≠ Char.ofNat 0x130 := by
    rintro rfl
    simp at ascii
  rw [excerptLower, if_neg noSigma, if_neg noKelvin, if_neg noDotted]

theorem toNat_toLower_lt {char : Char} (ascii : char.toNat < 128) : char.toLower.toNat < 128 :=
  @forall_ascii (fun char => char.toLower.toNat < 128) _ (by decide) _ ascii

/-- No other character becomes a mark. -/
theorem toLower_eq_mark_iff {mark : Char} (noLetter : mark.isAlpha = false) (char : Char) :
    char.toLower = mark ↔ char = mark := by
  by_cases same : char.toLower = char
  · rw [same]
  · have isLetter := isAlpha_of_toLower_ne same
    constructor
    · rintro rfl
      rw [isAlpha_toLower, isLetter] at noLetter
      cases noLetter
    · rintro rfl
      rw [isLetter] at noLetter
      cases noLetter

/-- An excerpt of the tables in which each capital sigma behind a letter ends a word. -/
def excerpt : Casing where
  lower := excerptLower
  endsWord := fun before after => before ≠ [] && after.isEmpty
  lower_ascii := fun _ ascii => excerptLower_ascii ascii
  lower_lower := by
    intro char part member
    by_cases ascii : char.toNat < 128
    · rw [excerptLower_ascii ascii, List.mem_singleton] at member
      rw [member, excerptLower_ascii (toNat_toLower_lt ascii), toLower_toLower]
    · rw [excerptLower] at member
      split at member
      · rw [List.mem_singleton.mp member]
        decide
      · split at member
        · rw [List.mem_singleton.mp member]
          decide
        · split at member
          · rcases List.mem_pair.mp member with rfl | rfl <;> decide
          · rename_i noSigma noKelvin noDotted
            rw [toLower_foreign (Nat.not_lt.mp ascii), List.mem_singleton] at member
            rw [member, excerptLower, if_neg noSigma, if_neg noKelvin, if_neg noDotted,
              toLower_foreign (Nat.not_lt.mp ascii)]
  lower_capitalSigma := by decide
  lower_finalSigma := by decide
  lower_foreign := by
    intro char foreign part member ascii
    rw [excerptLower] at member
    split at member
    · rw [List.mem_singleton.mp member] at ascii
      exact absurd ascii (by decide)
    · split at member
      · rw [List.mem_singleton.mp member]
        decide
      · split at member
        · rcases List.mem_pair.mp member with rfl | rfl
          · decide
          · exact absurd ascii (by decide)
        · rw [toLower_foreign foreign, List.mem_singleton] at member
          rw [member] at ascii
          exact absurd ascii (Nat.not_lt.mpr foreign)
  lower_ne_nil := by
    intro char
    rw [excerptLower]
    split
    · exact List.cons_ne_nil _ _
    · split
      · exact List.cons_ne_nil _ _
      · split <;> exact List.cons_ne_nil _ _

end Casing

end DlpSystem.Lib
