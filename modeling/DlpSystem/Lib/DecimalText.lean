import Mathlib.Data.String.Basic

/-!
# The order of decimal texts

Numbers that are written with a fixed number of digits are ordered as their texts are, also
when other texts follow them.  A fraction may be written without trailing zeros, if a
character before all digits follows it.
-/

namespace DlpSystem.Lib

/-! ## Texts side by side -/

/-- The first difference decides. -/
theorem append_lt_append_iff {left right leftRest rightRest : List Char}
    (sameLength : left.length = right.length) :
    left ++ leftRest < right ++ rightRest ↔ left < right ∨ left = right ∧ leftRest < rightRest := by
  induction left generalizing right with
  | nil =>
      cases right with
      | nil => simp
      | cons char right => cases sameLength
  | cons first left ih =>
      cases right with
      | nil => cases sameLength
      | cons char right =>
          rw [List.cons_append, List.cons_append, List.cons_lt_cons_iff, List.cons_lt_cons_iff,
            ih (Nat.succ.inj sameLength), List.cons.injEq, and_or_left, or_assoc, and_assoc]

/-! ## Digits -/

/-- The character of a digit. -/
def decimalDigit (digit : Nat) : Char :=
  Char.ofNat (48 + digit)

theorem toNat_decimalDigit {digit : Nat} (small : digit < 10) :
    (decimalDigit digit).toNat = 48 + digit := by
  have codes : ∀ digit < 10, (decimalDigit digit).toNat = 48 + digit := by decide
  exact codes digit small

theorem decimalDigit_lt_iff {left right : Nat} (leftSmall : left < 10) (rightSmall : right < 10) :
    decimalDigit left < decimalDigit right ↔ left < right := by
  rw [Char.lt_def, UInt32.lt_iff_toNat_lt]
  change (decimalDigit left).toNat < (decimalDigit right).toNat ↔ _
  rw [toNat_decimalDigit leftSmall, toNat_decimalDigit rightSmall]
  omega

theorem decimalDigit_inj {left right : Nat} (leftSmall : left < 10) (rightSmall : right < 10) :
    decimalDigit left = decimalDigit right ↔ left = right := by
  constructor
  · intro same
    have codes := congrArg Char.toNat same
    rw [toNat_decimalDigit leftSmall, toNat_decimalDigit rightSmall] at codes
    omega
  · rintro rfl
    rfl

/-- The last digits of a number, as many as the width. -/
def decimalText : Nat → Nat → List Char
  | 0, _ => []
  | width + 1, number => decimalDigit (number / 10 ^ width % 10) :: decimalText width number

@[simp]
theorem length_decimalText (width number : Nat) : (decimalText width number).length = width := by
  induction width with
  | zero => rfl
  | succ width ih => rw [decimalText, List.length_cons, ih]

theorem decimalText_add (left right number : Nat) :
    decimalText (left + right) number =
      decimalText left (number / 10 ^ right) ++ decimalText right number := by
  induction left with
  | zero => rw [Nat.zero_add, decimalText, List.nil_append]
  | succ left ih =>
      rw [Nat.succ_add, decimalText, ih, decimalText, List.cons_append, Nat.div_div_eq_div_mul,
        ← Nat.pow_add, Nat.add_comm right left]

theorem lt_iff_div_mod {divisor left right : Nat} (positive : 0 < divisor) :
    left < right ↔ left / divisor < right / divisor ∨
      left / divisor = right / divisor ∧ left % divisor < right % divisor := by
  have leftSplit := Nat.div_add_mod left divisor
  have rightSplit := Nat.div_add_mod right divisor
  have leftSmall := Nat.mod_lt left positive
  have rightSmall := Nat.mod_lt right positive
  rcases Nat.lt_trichotomy (left / divisor) (right / divisor) with less | same | more
  · have bound : divisor * (left / divisor + 1) ≤ divisor * (right / divisor) :=
      Nat.mul_le_mul_left divisor less
    rw [Nat.mul_add, Nat.mul_one] at bound
    simp only [less, true_or, iff_true]
    omega
  · rw [same] at leftSplit
    simp only [same, lt_irrefl, true_and, false_or]
    omega
  · have bound : divisor * (right / divisor + 1) ≤ divisor * (left / divisor) :=
      Nat.mul_le_mul_left divisor more
    rw [Nat.mul_add, Nat.mul_one] at bound
    simp only [more.not_gt, more.ne', false_and, or_self, iff_false]
    omega

/-- Texts of one width are ordered as the last digits of their numbers. -/
theorem decimalText_append_lt_iff_mod (width left right : Nat) (leftRest rightRest : List Char) :
    decimalText width left ++ leftRest < decimalText width right ++ rightRest ↔
      left % 10 ^ width < right % 10 ^ width ∨
        left % 10 ^ width = right % 10 ^ width ∧ leftRest < rightRest := by
  induction width with
  | zero => simp [decimalText, Nat.mod_one]
  | succ width ih =>
      have positive : 0 < 10 ^ width := Nat.pow_pos (by omega)
      have head : ∀ number, number % 10 ^ (width + 1) / 10 ^ width = number / 10 ^ width % 10 := by
        intro number
        rw [Nat.pow_succ, Nat.mod_mul_right_div_self]
      have rest : ∀ number, number % 10 ^ (width + 1) % 10 ^ width = number % 10 ^ width := by
        intro number
        rw [Nat.pow_succ, Nat.mod_mul_right_mod]
      have leftHead := Nat.mod_lt (left / 10 ^ width) (show 10 > 0 by omega)
      have rightHead := Nat.mod_lt (right / 10 ^ width) (show 10 > 0 by omega)
      have same_iff : left % 10 ^ (width + 1) = right % 10 ^ (width + 1) ↔
          left / 10 ^ width % 10 = right / 10 ^ width % 10 ∧
            left % 10 ^ width = right % 10 ^ width := by
        constructor
        · intro same
          rw [← head, ← head, ← rest left, ← rest right, same]
          exact ⟨rfl, rfl⟩
        · rintro ⟨sameHead, sameRest⟩
          rw [← Nat.div_add_mod (left % 10 ^ (width + 1)) (10 ^ width),
            ← Nat.div_add_mod (right % 10 ^ (width + 1)) (10 ^ width), head, head, rest, rest,
            sameHead, sameRest]
      have less_iff := @lt_iff_div_mod _ (left % 10 ^ (width + 1)) (right % 10 ^ (width + 1))
        positive
      rw [head, head, rest, rest] at less_iff
      rw [decimalText, decimalText, List.cons_append, List.cons_append, List.cons_lt_cons_iff,
        decimalDigit_lt_iff leftHead rightHead, decimalDigit_inj leftHead rightHead, ih,
        same_iff, less_iff, and_or_left, or_assoc, and_assoc]

/-- Texts of one width are ordered as their numbers. -/
theorem decimalText_append_lt_iff {width left right : Nat} {leftRest rightRest : List Char}
    (leftSmall : left < 10 ^ width) (rightSmall : right < 10 ^ width) :
    decimalText width left ++ leftRest < decimalText width right ++ rightRest ↔
      left < right ∨ left = right ∧ leftRest < rightRest := by
  rw [decimalText_append_lt_iff_mod, Nat.mod_eq_of_lt leftSmall, Nat.mod_eq_of_lt rightSmall]

/-- A text of digits only. -/
theorem mem_decimalText {width number : Nat} {char : Char}
    (member : char ∈ decimalText width number) : '0' ≤ char := by
  induction width with
  | zero => cases member
  | succ width ih =>
      rcases List.mem_cons.mp member with rfl | later
      · have small := Nat.mod_lt (number / 10 ^ width) (show 10 > 0 by omega)
        apply not_lt.mp
        intro below
        have zeroDigit : decimalDigit 0 = '0' := by decide
        rw [← zeroDigit, decimalDigit_lt_iff small (by omega)] at below
        omega
      · exact ih later

/-! ## Fractions without trailing zeros -/

/-- The text filled up with zeros. -/
def padZeros (width : Nat) (digits : List Char) : List Char :=
  digits ++ List.replicate (width - digits.length) '0'

@[simp]
theorem padZeros_nil (width : Nat) : padZeros width [] = List.replicate width '0' := by
  simp [padZeros]

@[simp]
theorem padZeros_cons (width : Nat) (digit : Char) (digits : List Char) :
    padZeros (width + 1) (digit :: digits) = digit :: padZeros width digits := by
  simp [padZeros]

/-- No number comes before zero. -/
theorem not_lt_zeros {width : Nat} {digits : List Char} (long : width ≤ digits.length)
    (areDigits : ∀ char ∈ digits, '0' ≤ char) : ¬ digits < List.replicate width '0' := by
  induction digits generalizing width with
  | nil =>
      rw [Nat.le_zero.mp long]
      exact lt_irrefl _
  | cons first rest ih =>
      cases width with
      | zero => exact List.not_lt_nil _
      | succ width =>
          rw [List.replicate_succ, List.cons_lt_cons_iff]
          rintro (below | ⟨-, restBelow⟩)
          · exact absurd below (not_lt_of_ge (areDigits first (List.mem_cons_self ..)))
          · exact ih (Nat.le_of_succ_le_succ long)
              (fun char member => areDigits char (List.mem_cons_of_mem _ member)) restBelow

theorem mem_padZeros {width : Nat} {digits : List Char} (areDigits : ∀ char ∈ digits, '0' ≤ char) :
    ∀ char ∈ padZeros width digits, '0' ≤ char := by
  intro char member
  rcases List.mem_append.mp member with own | filled
  · exact areDigits char own
  · exact (List.eq_of_mem_replicate filled).ge

/-- Of two texts of digits that are followed by characters before all digits, the one comes
first whose number comes first when both are filled up with zeros. -/
theorem append_lt_of_padZeros_lt {width : Nat} {left right leftRest rightRest : List Char}
    {leftEnd : Char} (leftShort : left.length ≤ width) (leftDigits : ∀ char ∈ left, '0' ≤ char)
    (rightDigits : ∀ char ∈ right, '0' ≤ char) (ends : leftEnd < '0')
    (less : padZeros width left < padZeros width right) :
    left ++ leftEnd :: leftRest < right ++ rightRest := by
  induction left generalizing width right with
  | nil =>
      cases right with
      | nil => exact absurd less (lt_irrefl _)
      | cons digit right =>
          -- The shorter text goes on with a character before all digits.
          rw [List.nil_append, List.cons_append, List.cons_lt_cons_iff]
          exact .inl (ends.trans_le (rightDigits digit (List.mem_cons_self ..)))
  | cons first left ih =>
      obtain ⟨width, rfl⟩ := Nat.exists_eq_succ_of_ne_zero
        (Nat.ne_of_gt (Nat.lt_of_lt_of_le (Nat.succ_pos _) leftShort))
      cases right with
      | nil =>
          rw [padZeros_nil] at less
          have filled : width + 1 ≤ (padZeros (width + 1) (first :: left)).length := by
            simp only [padZeros, List.length_append, List.length_replicate]
            omega
          exact absurd less (not_lt_zeros filled (mem_padZeros leftDigits))
      | cons digit right =>
          rw [padZeros_cons, padZeros_cons, List.cons_lt_cons_iff] at less
          rw [List.cons_append, List.cons_append, List.cons_lt_cons_iff]
          apply less.imp id
          rintro ⟨same, lessRest⟩
          exact ⟨same, ih (Nat.le_of_succ_le_succ leftShort)
            (fun char member => leftDigits char (List.mem_cons_of_mem _ member))
            (fun char member => rightDigits char (List.mem_cons_of_mem _ member)) lessRest⟩

/-- Digits that are all zero can be left out. -/
theorem padZeros_decimalText {left right number : Nat} (divides : number % 10 ^ right = 0) :
    padZeros (left + right) (decimalText left (number / 10 ^ right)) =
      decimalText (left + right) number := by
  have zeros : ∀ width, decimalText width 0 = List.replicate width '0' := by
    intro width
    induction width with
    | zero => rfl
    | succ width ih =>
        rw [decimalText, ih, Nat.zero_div, List.replicate_succ]
        rfl
  have sameLast : decimalText right number = decimalText right 0 := by
    have notLess := decimalText_append_lt_iff_mod right number 0 [] []
    have notMore := decimalText_append_lt_iff_mod right 0 number [] []
    rw [divides, Nat.zero_mod, List.append_nil, List.append_nil] at notLess notMore
    apply le_antisymm
    · exact not_lt.mp (by simp [notMore])
    · exact not_lt.mp (by simp [notLess])
  rw [padZeros, length_decimalText, Nat.add_sub_cancel_left, decimalText_add, sameLast, zeros]

end DlpSystem.Lib
