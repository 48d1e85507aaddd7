import DlpSystem.Common.NormalForm
import Mathlib.Data.List.Forall2

/-!
# Spelling variants of a path

Two spellings of one path, in letter case and in the separators.  Every check and every
step of `normalize_path` agrees on them, except for the test for the extended-length
prefix, which is made before the separators are unified.
-/

namespace DlpSystem.Common

open Str Lib

/-- Two paths differ in the ASCII case of letters and in the choice of separators only. -/
def SameSpelling (left right : Str) : Prop :=
  List.Forall₂ (fun first second : UInt8 => upperByte first = upperByte second ∨
    (isSeparator first = true ∧ isSeparator second = true)) left right

instance (left right : Str) : Decidable (SameSpelling left right) :=
  inferInstanceAs (Decidable (List.Forall₂ _ _ _))

/-- What stands behind the extended-length prefix is refused: by a check before the
separators are unified, or for a component that ends in a dot or a space. -/
def refusedBehindLead (path : Str) : Bool :=
  isRefused (path.drop 4) || hasTrailingDotOrSpace (Str.replaceByte (path.drop 4) slash backslash)

/-! ## Equal spellings -/

theorem SameSpelling.spelled_eq {left right : Str} (same : SameSpelling left right) :
    spelled left = spelled right := by
  have upper : ∀ byte : UInt8, spelledByte byte =
      if upperByte byte = slash then backslash else upperByte byte := by
    apply forall_byte
    decide +kernel
  induction same with
  | nil => rfl
  | @cons first second left right pair _ ih =>
      rw [spelled, spelled, List.map_cons, List.map_cons]
      rw [spelled, spelled] at ih
      rw [ih]
      congr 1
      rcases pair with equal | ⟨firstSeparates, secondSeparates⟩
      · rw [upper, upper, equal]
      · rw [(spelledByte_eq_backslash first).mpr firstSeparates,
          (spelledByte_eq_backslash second).mpr secondSeparates]

/-- The steps behind the prefix agree on equal spellings. -/
theorem normalForm_of_spelled_eq {left right : Str}
    (same : spelled (withoutNtLead left) = spelled (withoutNtLead right)) :
    normalForm left = normalForm right := by
  rw [normalForm, normalForm, canonicalSpelling_eq, canonicalSpelling_eq, same]

/-- A component that ends in a dot or a space is found in the spelling. -/
theorem hasTrailingDotOrSpace_normalForm (path : Str) :
    hasTrailingDotOrSpace (normalForm path) =
      endsPiece backslash isDotOrSpace (spelled (withoutNtLead path)) := by
  have squeeze : ∀ path : Str, endsPiece backslash isDotOrSpace (squeezed path) =
      endsPiece backslash isDotOrSpace path := by
    intro path
    cases path with
    | nil => rfl
    | cons first rest =>
        by_cases separator : first = backslash
        · subst separator
          rw [squeezed, endsPiece_cons_of_good rfl, endsPiece_cons_of_good rfl]
          exact endsPiece_squeezeAfter rfl false rest
        · rw [squeezed, squeeze, ← squeezeAfter_of_ne separator false]
          exact endsPiece_squeezeAfter rfl false (first :: rest)
  rw [hasTrailingDotOrSpace_eq, normalForm, canonicalSpelling_eq,
    ← squeeze (spelled (withoutNtLead path))]
  unfold stripTrailingSeparator
  split
  · rename_i trailing
    simp only [Bool.and_eq_true, Str.endsWithByte, beq_iff_eq] at trailing
    obtain ⟨front, same⟩ := List.getLast?_eq_some_iff.mp trailing.2
    rw [same, List.dropLast_concat, endsPiece_concat rfl]
  · rfl

/-- The checks of the rest behind the prefix, by its spelling. -/
theorem refusedBehindLead_eq (path : Str) :
    refusedBehindLead path =
      (isRefused (path.drop 4) || endsPiece backslash isDotOrSpace (spelled (path.drop 4))) := by
  have keepsBad : ∀ byte, isDotOrSpace (upperByte byte) = isDotOrSpace byte := by
    apply forall_byte
    decide +kernel
  have keepsSeparator : ∀ byte, upperByte byte = backslash ↔ byte = backslash := by
    apply forall_byte
    decide +kernel
  have upper : spelled (path.drop 4) =
      (Str.replaceByte (path.drop 4) slash backslash).map upperByte := by
    rw [spelled, Str.replaceByte, List.map_map]
    rfl
  rw [refusedBehindLead, hasTrailingDotOrSpace_eq, upper, endsPiece_map keepsBad keepsSeparator]

/-! ## Equal treatment -/

/-- A spelling of the device prefix is refused, as that prefix or for its dot. -/
theorem normalizePath_of_spelled_device {path : Str} (device : deviceLead <+: spelled path) :
    normalizePath path = none := by
  rw [normalizePath_eq]
  split
  · rfl
  · have plain : withoutNtLead path = path := by
      unfold withoutNtLead
      split
      · rename_i extended
        obtain ⟨rest, rfl⟩ := List.isPrefixOf_iff_prefix.mp extended
        obtain ⟨more, same⟩ := device
        have third : some (46 : UInt8) = some 63 := congrArg (fun text : Str => text[2]?) same
        exact absurd third (by decide)
      · rfl
    rw [hasTrailingDotOrSpace_normalForm, plain]
    obtain ⟨rest, same⟩ := device
    rw [← same]
    exact if_pos rfl

/-- A path that starts with a literal prefix is spelled with it. -/
theorem prefix_spelled {lead path : Str} (fixed : spelled lead = lead)
    (leads : path.startsWith lead = true) : lead <+: spelled path := by
  obtain ⟨rest, rfl⟩ := List.isPrefixOf_iff_prefix.mp leads
  rw [spelled, List.map_append]
  exact ⟨rest.map spelledByte, congrArg (· ++ _) fixed.symm⟩

/-- Equal spellings of which both or none have the prefix are treated alike. -/
theorem normalizePath_congr {left right : Str} (same : spelled left = spelled right)
    (leads : left.startsWith ntLead = right.startsWith ntLead) :
    normalizePath left = normalizePath right := by
  by_cases device : deviceLead <+: spelled left
  · rw [normalizePath_of_spelled_device device, normalizePath_of_spelled_device (same ▸ device)]
  · have literal : ∀ path : Str, ¬ deviceLead <+: spelled path →
        path.startsWith deviceLead = false := by
      intro path plain
      rw [← Bool.not_eq_true]
      exact fun literal => plain (prefix_spelled (by decide) literal)
    have rests : spelled (withoutNtLead left) = spelled (withoutNtLead right) := by
      unfold withoutNtLead
      rw [leads]
      split
      · rw [spelled, spelled, List.map_drop, List.map_drop, ← spelled, ← spelled, same]
      · exact same
    have lengths : left.length = right.length := by
      simpa using congrArg List.length same
    have empties : left.isEmpty = right.isEmpty := by
      rw [Bool.eq_iff_iff, List.isEmpty_iff_length_eq_zero, List.isEmpty_iff_length_eq_zero,
        lengths]
    rw [normalizePath_eq, normalizePath_eq, empties, literal left device,
      literal right (same ▸ device), ← isRefused_spelled (withoutNtLead left), rests,
      isRefused_spelled, normalForm_of_spelled_eq rests]

/-! ## A prefix that one spelling has -/

theorem length_stripTrailingSeparator (path : Str) :
    path.length ≤ (stripTrailingSeparator path).length + 1 := by
  unfold stripTrailingSeparator
  split
  · rw [List.length_dropLast]
    omega
  · omega

/-- With the prefix a path has a longer normal form than the rest behind it. -/
theorem length_squeezed_lt (rest : Str) :
    (stripTrailingSeparator (squeezed rest)).length <
      (stripTrailingSeparator (squeezed (ntLead ++ rest))).length := by
  have whole : squeezed (ntLead ++ rest) = ntLead ++ squeezeAfter backslash true rest := by
    apply (ntLead_prefix_squeezed_iff _ _).mpr
    exact ⟨63 :: backslash :: rest, rest, rfl, rfl, rfl⟩
  have longer := length_stripTrailingSeparator (squeezed (ntLead ++ rest))
  have shorter := (stripTrailingSeparator_sublist (squeezed rest)).length_le
  have part : (squeezed rest).length ≤ (squeezeAfter backslash true rest).length + 2 := by
    cases rest with
    | nil => exact Nat.zero_le _
    | cons first rest =>
        by_cases separator : first = backslash
        · subst separator
          rw [squeezeAfter_separator_true, squeezed, List.length_cons, squeeze]
          have behind : (squeezeAfter backslash false rest).length ≤
              (squeezeAfter backslash true rest).length + 1 := length_squeezeAfter_false_le rest
          omega
        · rw [squeezed, squeeze, squeezeAfter_of_ne separator]
          simp
  rw [whole, List.length_append, show ntLead.length = 4 from rfl] at longer
  rw [whole]
  omega

/-- What is refused of a path is refused behind the prefix, too. -/
theorem isRefused_ntLead_append {rest : Str} (refused : isRefused rest = true) :
    isRefused (ntLead ++ rest) = true := by
  by_contra passed
  rw [Bool.not_eq_true, isRefused_eq_false_iff] at passed
  have absent : colon ∉ rest := fun member =>
    passed.later (List.mem_append_right [63, backslash] member)
  apply absurd refused
  rw [Bool.not_eq_true, isRefused_eq_false_iff]
  constructor
  · exact fun member => absent (List.mem_of_mem_take member)
  · exact fun member => absent (List.mem_of_mem_drop member)
  · intro inside
    apply passed.volume
    rw [Str.toAsciiUppercase, List.map_append]
    exact inside.trans (List.suffix_append _ _).isInfix
  · intro digit isDigit inside
    exact passed.shortName digit isDigit (inside.trans (List.suffix_append _ _).isInfix)

/-- Of two equal spellings one has the literal prefix and the other one writes it with
slashes: they are treated alike only if the rest behind it is refused. -/
theorem normalizePath_eq_iff_refusedBehindLead {left right : Str}
    (same : spelled left = spelled right) (leftLead : left.startsWith ntLead = true)
    (rightLead : right.startsWith ntLead = false) :
    normalizePath left = normalizePath right ↔ refusedBehindLead left = true := by
  have behindLeft : withoutNtLead left = left.drop 4 := if_pos leftLead
  have behindRight : withoutNtLead right = right := by
    rw [withoutNtLead, if_neg (by rw [rightLead]; exact Bool.false_ne_true)]
  obtain ⟨rest, rfl⟩ := List.isPrefixOf_iff_prefix.mp leftLead
  have rightSpelled : spelled right = ntLead ++ spelled rest := by
    rw [← same, spelled, List.map_append]
    rfl
  have leftDevice : Str.startsWith (ntLead ++ rest) deviceLead = false := rfl
  have drop : (ntLead ++ rest).drop 4 = rest := rfl
  have trailing : endsPiece backslash isDotOrSpace (spelled right) =
      endsPiece backslash isDotOrSpace (spelled rest) := by
    rw [rightSpelled]
    have noneBad : ntLead.any isDotOrSpace = false := by decide
    exact endsPiece_append_of_good (by simpa using noneBad) _
  rw [refusedBehindLead_eq, drop]
  rw [drop] at behindLeft
  cases refused : isRefused rest with
  | true =>
      have refusedRight : isRefused (withoutNtLead right) = true := by
        rw [behindRight, ← isRefused_spelled, rightSpelled]
        apply isRefused_ntLead_append
        rw [isRefused_spelled]
        exact refused
      rw [normalizePath_eq, normalizePath_eq, behindLeft, refused, refusedRight]
      simp
  | false =>
      rw [Bool.false_or]
      cases ends : endsPiece backslash isDotOrSpace (spelled rest) with
      | true =>
          rw [normalizePath_eq, normalizePath_eq, hasTrailingDotOrSpace_normalForm,
            hasTrailingDotOrSpace_normalForm, behindLeft, behindRight, trailing, ends]
          simp
      | false =>
          simp only [Bool.false_eq_true, iff_false]
          have accepted : normalizePath (ntLead ++ rest) = some (normalForm (ntLead ++ rest)) := by
            apply (normalizePath_eq_some_iff _ _).mpr
            refine ⟨⟨List.cons_ne_nil _ _, leftDevice, ?_⟩, ?_, rfl⟩
            · rw [behindLeft]
              exact refused
            · rw [hasTrailingDotOrSpace_normalForm, behindLeft]
              exact ends
          intro equal
          obtain ⟨-, -, form⟩ := (normalizePath_eq_some_iff _ _).mp (equal.symm.trans accepted)
          have lengths := congrArg List.length form
          have longer := length_squeezed_lt (spelled rest)
          rw [normalForm, normalForm, canonicalSpelling_eq, canonicalSpelling_eq, behindLeft,
            behindRight, rightSpelled] at lengths
          omega

/-- Two spellings of a path have the same normal form, and so the same hash, exactly if both
or none have the literal extended-length prefix, or the rest behind it is refused. -/
theorem normalizePath_spelling_iff (left right : Str) (same : SameSpelling left right) :
    (normalizePath left = normalizePath right ∧ pathHash left = pathHash right) ↔
      (left.startsWith ntLead = right.startsWith ntLead ∨ refusedBehindLead left = true) := by
  have hashes : normalizePath left = normalizePath right → pathHash left = pathHash right :=
    fun equal => congrArg (Option.map fnv1a64) equal
  rw [and_iff_left_of_imp hashes]
  have spelling := same.spelled_eq
  cases leftLead : left.startsWith ntLead with
  | true =>
      cases rightLead : right.startsWith ntLead with
      | true =>
          simp only [true_or, iff_true]
          exact normalizePath_congr spelling (leftLead.trans rightLead.symm)
      | false =>
          simp only [Bool.true_eq_false, false_or]
          exact normalizePath_eq_iff_refusedBehindLead spelling leftLead rightLead
  | false =>
      cases rightLead : right.startsWith ntLead with
      | true =>
          have rests : refusedBehindLead left = refusedBehindLead right := by
            have behind : spelled (left.drop 4) = spelled (right.drop 4) := by
              rw [spelled, spelled, List.map_drop, List.map_drop, ← spelled, ← spelled, spelling]
            rw [refusedBehindLead_eq, refusedBehindLead_eq, ← isRefused_spelled (left.drop 4),
              behind, isRefused_spelled]
          simp only [Bool.false_eq_true, false_or]
          rw [eq_comm, rests]
          exact normalizePath_eq_iff_refusedBehindLead spelling.symm rightLead leftLead
      | false =>
          simp only [true_or, iff_true]
          exact normalizePath_congr spelling (leftLead.trans rightLead.symm)

theorem normalizePath_spelling_drive :
    normalizePath (ascii "C:\\Data\\a.txt") = normalizePath (ascii "c:/DATA/A.TXT") ∧
      pathHash (ascii "C:\\Data\\a.txt") = pathHash (ascii "c:/DATA/A.TXT") :=
  (normalizePath_spelling_iff (ascii "C:\\Data\\a.txt") (ascii "c:/DATA/A.TXT")
    (by decide)).mpr (by decide)

/-- With slashes the prefix of an extended-length path is taken for a part of it. -/
theorem normalizePath_spelling_differs :
    ¬ ∀ left right : Str, SameSpelling left right →
      normalizePath left = normalizePath right ∧ pathHash left = pathHash right := by
  intro agree
  have equal := agree (ascii "\\\\?\\C:\\Data") (ascii "//?/C:/Data") (by decide)
  exact absurd equal.1 (by decide)

end DlpSystem.Common
