import DlpSystem.Common.CacheLayout
import DlpSystem.Lib.Casing
import DlpSystem.Lib.Windows
import Mathlib.Algebra.Ring.Nat
import Mathlib.Order.Bounds.Basic

/-!
# Classification of texts

`classify_text`: texts with social security or card numbers are T4, and texts with keywords
are T3 or T2.
-/

namespace DlpSystem.Common

open Lib

/-! ## Tiers -/

/-- The place of a tier in the order of the enumeration. -/
def Classification.rank : Classification → Nat
  | .T1 => 1
  | .T2 => 2
  | .T3 => 3
  | .T4 => 4

instance : LE Classification :=
  ⟨fun tier other => tier.rank ≤ other.rank⟩

instance (tier other : Classification) : Decidable (tier ≤ other) :=
  inferInstanceAs (Decidable (tier.rank ≤ other.rank))

theorem Classification.le_T4 (tier : Classification) : tier ≤ .T4 := by
  cases tier <;> decide

theorem Classification.T1_le (tier : Classification) : .T1 ≤ tier := by
  cases tier <;> decide

/-! ## Patterns -/

/-- `window[start..end].iter().all(|c| c.is_ascii_digit())`. -/
def digitsIn (window : Text) (first past : Nat) : Bool :=
  ((window.take past).drop first).all Char.isDigit

/-- A window of `contains_ssn_pattern`. -/
def isSsnWindow (window : Text) : Bool :=
  match window[3]? with
  | some sep =>
      (sep = '-' || sep = ' ') && window[6]? = some sep && digitsIn window 0 3 &&
        digitsIn window 4 6 && digitsIn window 7 11
  | none => false

/-- `contains_ssn_pattern`. -/
def containsSsnPattern (text : Text) : Bool :=
  if text.length < 11 then false else (windows 11 text).any isSsnWindow

/-- A window of `contains_credit_card_pattern`. -/
def isCardWindow (window : Text) : Bool :=
  match window[4]? with
  | some sep =>
      (sep = '-' || sep = ' ') && window[9]? = some sep && window[14]? = some sep &&
        digitsIn window 0 4 && digitsIn window 5 9 && digitsIn window 10 14 &&
        digitsIn window 15 19
  | none => false

/-- `contains_credit_card_pattern`: groups of four digits, or sixteen digits in a row. -/
def containsCreditCardPattern (text : Text) : Bool :=
  if text.length ≥ 19 && (windows 19 text).any isCardWindow then true
  else hasRun Char.isDigit 16 0 text

/-- `KEYWORD_RULES`. -/
def keywordRules : List (Text × Classification) :=
  [("confidential".toList, .T3), ("secret".toList, .T3), ("top secret".toList, .T3),
    ("internal only".toList, .T2), ("do not distribute".toList, .T2),
    ("internal use".toList, .T2)]

/-- The loop over the keyword rules: the first keyword of a text in lower case decides. -/
def keywordTier (lower : Text) : List (Text × Classification) → Classification
  | [] => .T1
  | (keyword, tier) :: rules =>
      if keyword <:+: lower then tier else keywordTier lower rules

/-- `classify_text`. -/
def classifyText (casing : Casing) (text : Text) : Classification :=
  if containsSsnPattern text then .T4
  else if containsCreditCardPattern text then .T4
  else keywordTier (casing.toLowercase text) keywordRules

/-! ## Tiers of texts in context

What a text contains, it contains in any context as well.  So a text is as sensitive as the
most sensitive pattern in it, and text around it never lowers its tier.
-/

/-! ### Patterns -/

/-- Groups of digits, of some sizes, with a separator in between. -/
def IsGrouped (sizes : List Nat) (part : Text) : Prop :=
  ∃ sep groups, (sep = '-' ∨ sep = ' ') ∧ groups.map List.length = sizes ∧
    (∀ group ∈ groups, group.all Char.isDigit = true) ∧ part = [sep].intercalate groups

/-- The form of a social security number. -/
def IsSsn (part : Text) : Prop :=
  IsGrouped [3, 2, 4] part

/-- The forms of a card number. -/
def IsCard (part : Text) : Prop :=
  IsGrouped [4, 4, 4, 4] part ∨ part.length = 16 ∧ part.all Char.isDigit = true

/-- A pattern of a tier occurs in a text.  Keywords occur in any case. -/
inductive Occurs (casing : Casing) (text : Text) : Classification → Prop
  | ssn {part : Text} (inside : part <:+: text) (form : IsSsn part) : Occurs casing text .T4
  | card {part : Text} (inside : part <:+: text) (form : IsCard part) : Occurs casing text .T4
  | keyword {rule : Text × Classification} (isRule : rule ∈ keywordRules)
      (inside : rule.1 <:+: casing.toLowercase text) : Occurs casing text rule.2

/-- The tiers of the patterns in a text; every text is at least public. -/
def tiersIn (casing : Casing) (text : Text) : Set Classification :=
  {tier | tier = .T1 ∨ Occurs casing text tier}

/-! ### Context -/

section Context

variable {casing : Casing} {text : Text}

/-- A keyword occurs in any context. -/
theorem infix_toLowercase_append {keyword : Text} (ascii : ∀ char ∈ keyword, char.toNat < 128)
    (before after : Text) (inside : keyword <:+: casing.toLowercase text) :
    keyword <:+: casing.toLowercase (before ++ text ++ after) := by
  rw [← Casing.infix_map_foldSigma_iff ascii] at inside ⊢
  rw [Casing.map_foldSigma_append, Casing.map_foldSigma_append]
  exact inside.trans (List.infix_append _ _ _)

theorem ascii_keywordRules :
    ∀ rule ∈ keywordRules, ∀ char ∈ rule.1, char.toNat < 128 := by
  have all : ∀ rule ∈ keywordRules, rule.1.all fun char => char.toNat < 128 := by decide
  exact fun rule isRule => forall_mem_of_all (all rule isRule)

theorem Occurs.append {tier : Classification} (occurs : Occurs casing text tier)
    (before after : Text) : Occurs casing (before ++ text ++ after) tier := by
  cases occurs with
  | ssn inside form => exact .ssn (inside.trans (List.infix_append _ _ _)) form
  | card inside form => exact .card (inside.trans (List.infix_append _ _ _)) form
  | keyword isRule inside =>
      exact .keyword isRule
        (infix_toLowercase_append (ascii_keywordRules _ isRule) before after inside)

end Context

/-! ### The detectors -/

theorem isSsnWindow_cons_iff (a b c first d e second f g h i : Char) :
    isSsnWindow [a, b, c, first, d, e, second, f, g, h, i] = true ↔
      (first = '-' ∨ first = ' ') ∧ second = first ∧ [a, b, c].all Char.isDigit = true ∧
        [d, e].all Char.isDigit = true ∧ [f, g, h, i].all Char.isDigit = true := by
  simp only [isSsnWindow, digitsIn, List.getElem?_cons_zero, List.getElem?_cons_succ,
    Bool.and_eq_true, Bool.or_eq_true, decide_eq_true_eq, List.take_succ_cons, List.take_zero,
    List.drop_zero, List.drop_succ_cons, Option.some.injEq, and_assoc]

theorem isSsnWindow_iff {window : Text} (length : window.length = 11) :
    isSsnWindow window = true ↔ IsSsn window := by
  constructor
  · match window, length with
    | [a, b, c, first, d, e, second, f, g, h, i], _ =>
      intro found
      obtain ⟨isSep, rfl, area, group, serial⟩ := (isSsnWindow_cons_iff ..).mp found
      refine ⟨_, [[a, b, c], [d, e], [f, g, h, i]], isSep, rfl, ?_, rfl⟩
      simp only [List.forall_mem_cons]
      exact ⟨area, group, serial, List.forall_mem_nil _⟩
  · rintro ⟨sep, groups, isSep, sizes, digits, rfl⟩
    match groups, sizes with
    | [[a, b, c], [d, e], [f, g, h, i]], _ =>
      simp only [List.forall_mem_cons] at digits
      obtain ⟨area, group, serial, _⟩ := digits
      exact (isSsnWindow_cons_iff ..).mpr ⟨isSep, rfl, area, group, serial⟩

theorem isCardWindow_cons_iff (a b c d first e f g h second i j k l third m n o p : Char) :
    isCardWindow [a, b, c, d, first, e, f, g, h, second, i, j, k, l, third, m, n, o, p] = true ↔
      (first = '-' ∨ first = ' ') ∧ second = first ∧ third = first ∧
        [a, b, c, d].all Char.isDigit = true ∧ [e, f, g, h].all Char.isDigit = true ∧
        [i, j, k, l].all Char.isDigit = true ∧ [m, n, o, p].all Char.isDigit = true := by
  simp only [isCardWindow, digitsIn, List.getElem?_cons_zero, List.getElem?_cons_succ,
    Bool.and_eq_true, Bool.or_eq_true, decide_eq_true_eq, List.take_succ_cons, List.take_zero,
    List.drop_zero, List.drop_succ_cons, Option.some.injEq, and_assoc]

theorem isCardWindow_iff {window : Text} (length : window.length = 19) :
    isCardWindow window = true ↔ IsGrouped [4, 4, 4, 4] window := by
  constructor
  · match window, length with
    | [a, b, c, d, first, e, f, g, h, second, i, j, k, l, third, m, n, o, p], _ =>
      intro found
      obtain ⟨isSep, rfl, rfl, one, two, three, four⟩ := (isCardWindow_cons_iff ..).mp found
      refine ⟨_, [[a, b, c, d], [e, f, g, h], [i, j, k, l], [m, n, o, p]], isSep, rfl, ?_, rfl⟩
      simp only [List.forall_mem_cons]
      exact ⟨one, two, three, four, List.forall_mem_nil _⟩
  · rintro ⟨sep, groups, isSep, sizes, digits, rfl⟩
    match groups, sizes with
    | [[a, b, c, d], [e, f, g, h], [i, j, k, l], [m, n, o, p]], _ =>
      simp only [List.forall_mem_cons] at digits
      obtain ⟨one, two, three, four, _⟩ := digits
      exact (isCardWindow_cons_iff ..).mpr ⟨isSep, rfl, rfl, one, two, three, four⟩

/-- Grouped digits are as long as the groups and the separators. -/
theorem IsGrouped.length_eq {sizes : List Nat} {part : Text} (grouped : IsGrouped sizes part) :
    part.length = sizes.sum + (sizes.length - 1) := by
  obtain ⟨sep, groups, -, rfl, -, rfl⟩ := grouped
  rw [List.length_map]
  induction groups with
  | nil => rfl
  | cons group groups ih =>
      cases groups with
      | nil => simp [List.intercalate]
      | cons second groups =>
          rw [List.intercalate_cons_cons, List.length_append, List.length_append, ih]
          simp only [List.map_cons, List.sum_cons, List.length_cons, List.length_nil]
          omega

theorem containsSsnPattern_iff {text : Text} :
    containsSsnPattern text = true ↔ ∃ part, part <:+: text ∧ IsSsn part := by
  have found : (windows 11 text).any isSsnWindow = true ↔ ∃ part, part <:+: text ∧ IsSsn part := by
    rw [List.any_eq_true]
    constructor
    · rintro ⟨window, member, isSsn⟩
      obtain ⟨inside, length⟩ := mem_windows_iff.mp member
      exact ⟨window, inside, (isSsnWindow_iff length).mp isSsn⟩
    · rintro ⟨part, inside, form⟩
      have length := form.length_eq
      exact ⟨part, mem_windows_iff.mpr ⟨inside, length⟩, (isSsnWindow_iff length).mpr form⟩
  rw [containsSsnPattern]
  split
  · rename_i short
    rw [windows_eq_nil short] at found
    exact found
  · exact found

theorem containsCreditCardPattern_iff {text : Text} :
    containsCreditCardPattern text = true ↔ ∃ part, part <:+: text ∧ IsCard part := by
  have grouped : (decide (text.length ≥ 19) && (windows 19 text).any isCardWindow) = true ↔
      ∃ part, part <:+: text ∧ IsGrouped [4, 4, 4, 4] part := by
    rw [Bool.and_eq_true, decide_eq_true_eq, List.any_eq_true]
    constructor
    · rintro ⟨_, window, member, isCard⟩
      obtain ⟨inside, length⟩ := mem_windows_iff.mp member
      exact ⟨window, inside, (isCardWindow_iff length).mp isCard⟩
    · rintro ⟨part, inside, form⟩
      have length := form.length_eq
      have long := inside.length_le
      rw [length] at long
      exact ⟨long, part, mem_windows_iff.mpr ⟨inside, length⟩, (isCardWindow_iff length).mpr form⟩
  have raw := @hasRun_iff Char Char.isDigit 16 (by decide) text
  rw [containsCreditCardPattern]
  constructor
  · intro found
    split at found
    · rename_i isGrouped
      obtain ⟨part, inside, form⟩ := grouped.mp isGrouped
      exact ⟨part, inside, Or.inl form⟩
    · obtain ⟨part, inside, form⟩ := raw.mp found
      exact ⟨part, inside, Or.inr form⟩
  · rintro ⟨part, inside, form | form⟩
    · rw [if_pos (grouped.mpr ⟨part, inside, form⟩)]
    · rw [raw.mpr ⟨part, inside, form⟩, ite_self]

/-- The rules go down in their tiers, so that the first keyword gives the highest tier. -/
theorem keywordTier_greatest (lower : Text) {rules : List (Text × Classification)}
    (descending : (rules.map Prod.snd).Pairwise fun tier later => later ≤ tier) :
    IsGreatest {tier | tier = .T1 ∨ ∃ rule ∈ rules, rule.1 <:+: lower ∧ rule.2 = tier}
      (keywordTier lower rules) := by
  induction rules with
  | nil =>
      constructor
      · exact Or.inl rfl
      · rintro tier (rfl | ⟨rule, none, _⟩)
        · exact Classification.T1_le _
        · cases none
  | cons rule rules ih =>
      obtain ⟨keyword, tier⟩ := rule
      obtain ⟨highest, rest⟩ := List.pairwise_cons.mp descending
      rw [keywordTier]
      split
      · rename_i inside
        constructor
        · exact Or.inr ⟨(keyword, tier), List.mem_cons_self, inside, rfl⟩
        · rintro other (rfl | ⟨rule, isRule, _, rfl⟩)
          · exact Classification.T1_le _
          · rcases List.mem_cons.mp isRule with rfl | later
            · exact Nat.le_refl _
            · exact highest _ (List.mem_map_of_mem later)
      · rename_i absent
        obtain ⟨found, bound⟩ := ih rest
        constructor
        · exact found.imp_right fun ⟨rule, isRule, occurs⟩ =>
            ⟨rule, List.mem_cons_of_mem _ isRule, occurs⟩
        · rintro other (rfl | ⟨rule, isRule, inside, rfl⟩)
          · exact Classification.T1_le _
          · rcases List.mem_cons.mp isRule with rfl | later
            · exact absurd inside absent
            · exact bound (Or.inr ⟨rule, later, inside, rfl⟩)

/-! ### Tiers -/

/-- A text is as sensitive as the most sensitive pattern in it. -/
theorem classifyText_isGreatest (casing : Casing) (text : Text) :
    IsGreatest (tiersIn casing text) (classifyText casing text) := by
  rw [classifyText]
  split
  · rename_i found
    obtain ⟨part, inside, form⟩ := containsSsnPattern_iff.mp found
    exact ⟨Or.inr (.ssn inside form), fun tier _ => tier.le_T4⟩
  · rename_i noSsn
    split
    · rename_i found
      obtain ⟨part, inside, form⟩ := containsCreditCardPattern_iff.mp found
      exact ⟨Or.inr (.card inside form), fun tier _ => tier.le_T4⟩
    · rename_i noCard
      have descending : (keywordRules.map Prod.snd).Pairwise fun tier later => later ≤ tier := by
        decide
      obtain ⟨found, bound⟩ := keywordTier_greatest (casing.toLowercase text) descending
      constructor
      · rcases found with isPublic | ⟨rule, isRule, inside, same⟩
        · exact Or.inl isPublic
        · exact Or.inr (same ▸ .keyword isRule inside)
      · rintro tier (rfl | occurs)
        · exact Classification.T1_le _
        · cases occurs with
          | ssn inside form => exact absurd (containsSsnPattern_iff.mpr ⟨_, inside, form⟩) noSsn
          | card inside form =>
              exact absurd (containsCreditCardPattern_iff.mpr ⟨_, inside, form⟩) noCard
          | keyword isRule inside => exact bound (Or.inr ⟨_, isRule, inside, rfl⟩)

/-- Text around a text never lowers its tier, and its tier is the highest of its patterns. -/
theorem classifyText_greatest (casing : Casing) :
    (∀ before text after,
      classifyText casing text ≤ classifyText casing (before ++ text ++ after)) ∧
      ∀ text, IsGreatest (tiersIn casing text) (classifyText casing text) := by
  constructor
  · intro before text after
    apply (classifyText_isGreatest casing (before ++ text ++ after)).2
    rcases (classifyText_isGreatest casing text).1 with isPublic | occurs
    · exact Or.inl isPublic
    · exact Or.inr (occurs.append before after)
  · exact classifyText_isGreatest casing

end DlpSystem.Common
