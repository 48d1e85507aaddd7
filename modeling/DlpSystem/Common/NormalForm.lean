import DlpSystem.Common.PathHash
import DlpSystem.Lib.Squeeze

/-!
# Normal forms of paths

What `normalize_path` makes of a path, by the spelling of its bytes: a path is spelled
with backslashes and in upper case, and separators that follow one are dropped behind the
first byte.  A normal form is its own normal form, unless it is empty or again has the
extended-length prefix.
-/

namespace DlpSystem.Common

open Str Lib

/-! ## Spellings -/

/-- The spelling of a byte in a normal form. -/
def spelledByte (byte : UInt8) : UInt8 :=
  upperByte (if byte = slash then backslash else byte)

/-- A path with backslashes and in upper case. -/
def spelled (path : Str) : Str :=
  path.map spelledByte

/-- A byte that separates components. -/
def isSeparator (byte : UInt8) : Bool :=
  byte == slash || byte == backslash

/-- A path reads as one with the extended-length prefix, however its separators are written:
two of them or more, a question mark, and another one with something behind it. -/
def readsExtended : Str → Bool
  | first :: second :: rest =>
      isSeparator first && isSeparator second &&
        match rest.dropWhile isSeparator with
        | mark :: separator :: more =>
            mark == 63 && isSeparator separator && more.any fun byte => !isSeparator byte
        | _ => false
  | _ => false

/-- The path that is left of a path without the extended-length prefix. -/
def withoutNtLead (path : Str) : Str :=
  if path.startsWith ntLead then path.drop 4 else path

/-- Steps 3 to 5: what is refused before the separators are unified. -/
def isRefused (path : Str) : Bool :=
  hasStreamColon path || path.toAsciiUppercase.containsStr (ascii "VOLUME\x7b") ||
    isEightThreeShortName path

/-- Steps 6 to 9: the normal form of a path that is not refused. -/
def normalForm (path : Str) : Str :=
  stripTrailingSeparator (canonicalSpelling (withoutNtLead path))

theorem normalizePath_eq (path : Str) :
    normalizePath path =
      if path.isEmpty || path.startsWith deviceLead || isRefused (withoutNtLead path) then none
      else if hasTrailingDotOrSpace (normalForm path) then none
      else some (normalForm path) := by
  unfold normalizePath isRefused normalForm withoutNtLead
  cases empty : path.isEmpty with
  | true => rfl
  | false =>
      cases device : path.startsWith deviceLead with
      | true => simp
      | false =>
          simp only [Bool.or_false, Bool.false_or, Bool.false_eq_true, if_false]
          split_ifs <;> simp_all

/-- A path is accepted if no check refuses it. -/
theorem normalizePath_eq_some_iff (path normalized : Str) :
    normalizePath path = some normalized ↔
      (path ≠ [] ∧ path.startsWith deviceLead = false ∧ isRefused (withoutNtLead path) = false) ∧
        hasTrailingDotOrSpace (normalForm path) = false ∧ normalForm path = normalized := by
  rw [normalizePath_eq]
  cases refused :
      path.isEmpty || path.startsWith deviceLead || isRefused (withoutNtLead path) with
  | true =>
      simp only [if_true, reduceCtorEq, false_iff]
      rintro ⟨⟨nonempty, noDevice, passed⟩, -⟩
      simp [noDevice, passed, nonempty] at refused
  | false =>
      simp only [Bool.or_eq_false_iff, List.isEmpty_eq_false_iff] at refused
      cases trailing : hasTrailingDotOrSpace (normalForm path) with
      | true => simp
      | false => simp [refused]

/-! ## Bytes -/

/-- A property of the bytes can be checked one by one. -/
theorem forall_byte {holds : UInt8 → Prop} (each : ∀ value : Fin 256, holds (UInt8.ofFin value))
    (byte : UInt8) : holds byte := by
  simpa using each byte.toFin

theorem spelledByte_eq_backslash_iff (byte : UInt8) :
    spelledByte byte = backslash ↔ byte = slash ∨ byte = backslash := by
  revert byte
  apply forall_byte
  decide +kernel

example : spelledByte slash = backslash := by
  decide +kernel

/-- No byte is spelled as a slash or in lower case, and a spelling stays as it is. -/
theorem spelledByte_spec (byte : UInt8) :
    spelledByte byte ≠ slash ∧ isAsciiLowercase (spelledByte byte) = false ∧
      spelledByte (spelledByte byte) = spelledByte byte := by
  revert byte
  apply forall_byte
  decide +kernel

/-- The punctuation that the checks look for is spelled as it is. -/
theorem spelledByte_eq_iff {mark : UInt8}
    (punctuation : mark = colon ∨ mark = 63 ∨ mark = 46 ∨ mark = 32 ∨ mark = 126) (byte : UInt8) :
    spelledByte byte = mark ↔ byte = mark := by
  revert byte
  apply forall_byte
  rcases punctuation with rfl | rfl | rfl | rfl | rfl
  all_goals decide +kernel

example : spelledByte 46 = 46 := by
  decide +kernel

theorem isAsciiDigit_spelledByte (byte : UInt8) :
    isAsciiDigit (spelledByte byte) = isAsciiDigit byte := by
  revert byte
  apply forall_byte
  decide +kernel

/-- The letters and the brace of a volume GUID are spelled like their upper case. -/
theorem spelledByte_eq_of_mem {letter : UInt8} (member : letter ∈ ascii "VOLUME\x7b")
    (byte : UInt8) : spelledByte byte = letter ↔ upperByte byte = letter := by
  revert byte
  apply forall_byte
  revert letter
  decide +kernel

/-! ## Checks of a spelling -/

@[simp]
theorem length_spelled (path : Str) : (spelled path).length = path.length :=
  List.length_map spelledByte

theorem spelled_spelled (path : Str) : spelled (spelled path) = spelled path := by
  rw [spelled, spelled, List.map_map]
  exact List.map_congr_left fun byte _ => (spelledByte_spec byte).2.2

/-- A colon is a stream's unless it is the second byte. -/
theorem hasStreamColon_eq_false_iff (path : Str) :
    hasStreamColon path = false ↔ colon ∉ path.take 1 ∧ colon ∉ path.drop 2 := by
  cases path with
  | nil => simp [hasStreamColon]
  | cons first rest =>
      by_cases firstColon : first = colon
      · subst firstColon
        simp [hasStreamColon, List.findIdx?_cons]
      · have other : ¬ (first == colon) = true := by simpa using firstColon
        cases rest with
        | nil => simp [hasStreamColon, firstColon, Ne.symm firstColon]
        | cons second rest =>
            by_cases secondColon : second = colon
            · subst secondColon
              simp [hasStreamColon, List.findIdx?_cons, other, Ne.symm firstColon]
            · have otherSecond : ¬ (second == colon) = true := by simpa using secondColon
              cases found : rest.findIdx? (· == colon) with
              | none =>
                  have absent : colon ∉ rest := by
                    intro member
                    simpa using List.findIdx?_eq_none_iff.mp found colon member
                  simp [hasStreamColon, List.findIdx?_cons, other, otherSecond, found, absent,
                    Ne.symm firstColon]
              | some position =>
                  have present : colon ∈ rest := by
                    obtain ⟨bound, isColon, -⟩ := List.findIdx?_eq_some_iff_getElem.mp found
                    have same : rest[position] = colon := by simpa using isColon
                    exact same ▸ List.getElem_mem bound
                  simp [hasStreamColon, List.findIdx?_cons, other, otherSecond, found, present]

/-- The text of a pattern is somewhere in the path. -/
theorem containsStr_iff (path pattern : Str) :
    path.containsStr pattern = true ↔ pattern <:+: path := by
  simp only [Str.containsStr, List.any_eq_true, List.mem_tails, List.isPrefixOf_iff_prefix,
    List.infix_iff_prefix_suffix]
  exact ⟨fun ⟨rest, after, leads⟩ => ⟨rest, leads, after⟩,
    fun ⟨rest, leads, after⟩ => ⟨rest, after, leads⟩⟩

/-- A short name has a tilde in front of a digit. -/
theorem isEightThreeShortName_iff (path : Str) :
    isEightThreeShortName path = true ↔
      ∃ digit, isAsciiDigit digit = true ∧ [126, digit] <:+: path := by
  induction path with
  | nil => simp [isEightThreeShortName]
  | cons first rest ih =>
      cases rest with
      | nil => simp [isEightThreeShortName, List.infix_cons_iff, List.prefix_cons_iff]
      | cons second rest =>
          simp only [isEightThreeShortName, Bool.or_eq_true, Bool.and_eq_true, beq_iff_eq, ih]
          constructor
          · rintro (⟨rfl, digit⟩ | ⟨digit, isDigit, inside⟩)
            · exact ⟨second, digit, [], rest, rfl⟩
            · exact ⟨digit, isDigit, List.infix_cons_iff.mpr (.inr inside)⟩
          · rintro ⟨digit, isDigit, inside⟩
            rcases List.infix_cons_iff.mp inside with leads | inside
            · simp only [List.cons_prefix_cons] at leads
              obtain ⟨rfl, rfl, -⟩ := leads
              exact .inl ⟨rfl, isDigit⟩
            · exact .inr ⟨digit, isDigit, inside⟩

/-! ## The canonical spelling -/

/-- A path whose separators behind the first byte are squeezed. -/
def squeezed : Str → Str
  | [] => []
  | first :: rest => first :: squeeze backslash rest

/-- Past the lead of a UNC path the separators are squeezed. -/
theorem collapseSeparators_past {isUnc : Bool} {index : Nat} (past : isUnc = false ∨ 2 ≤ index)
    (prevWasBackslash : Bool) (path : Str) :
    collapseSeparators isUnc index prevWasBackslash path =
      squeezeAfter backslash prevWasBackslash path := by
  induction path generalizing index prevWasBackslash with
  | nil => rfl
  | cons byte rest ih =>
      have pastNext : isUnc = false ∨ 2 ≤ index + 1 := past.imp_right (by omega)
      have notLead : (isUnc && decide (index < 2)) = false := by
        rcases past with notUnc | beyond
        · simp [notUnc]
        · simp [Nat.not_lt.mpr beyond]
      simp only [collapseSeparators, notLead, Bool.false_eq_true, if_false, squeezeAfter,
        ih pastNext]
      cases prevWasBackslash with
      | true => simp
      | false => simp

/-- The two leading backslashes of a UNC path are the first byte and a single separator. -/
theorem collapseSeparators_start (path : Str) :
    collapseSeparators (path.startsWith [backslash, backslash]) 0 false path = squeezed path := by
  cases path with
  | nil => rfl
  | cons first rest =>
      cases unc : Str.startsWith (first :: rest) [backslash, backslash] with
      | true =>
          obtain ⟨rest, same⟩ := List.isPrefixOf_iff_prefix.mp unc
          cases same
          simp [collapseSeparators, squeezed, squeeze,
            collapseSeparators_past (Or.inr (Nat.le_refl 2))]
      | false =>
          rw [collapseSeparators_past (.inl rfl)]
          by_cases separator : first = backslash
          · subst separator
            cases rest with
            | nil => rfl
            | cons second rest =>
                have other : second ≠ backslash := by
                  rintro rfl
                  simp [Str.startsWith] at unc
                rw [squeezeAfter_separator_false, squeezed, squeeze, squeezeAfter_of_ne other,
                  squeezeAfter_of_ne other]
          · rw [squeezeAfter_of_ne separator]
            rfl

theorem toAsciiUppercase_squeezed (path : Str) :
    (squeezed path).toAsciiUppercase = squeezed path.toAsciiUppercase := by
  have kept : ∀ byte, upperByte byte = backslash ↔ byte = backslash := by
    apply forall_byte
    decide +kernel
  cases path with
  | nil => rfl
  | cons first rest =>
      simp only [Str.toAsciiUppercase, squeezed, squeeze, List.map_cons]
      rw [squeezeAfter_map kept]

/-- The canonical spelling squeezes the spelled path. -/
theorem canonicalSpelling_eq (path : Str) :
    canonicalSpelling path = squeezed (spelled path) := by
  have upper : spelled path = (path.replaceByte slash backslash).map upperByte := by
    rw [spelled, Str.replaceByte, List.map_map]
    rfl
  rw [canonicalSpelling, collapseSeparators_start, upper, toAsciiUppercase_squeezed]
  rfl

/-! ## What is refused -/

/-- A part is inside two changed texts alike if the changes agree on its letters. -/
theorem infix_map_of_agree {change other : UInt8 → UInt8} {part : Str}
    (agree : ∀ letter ∈ part, ∀ byte, change byte = letter → other byte = letter) {text : Str}
    (inside : part <:+: text.map change) : part <:+: text.map other := by
  obtain ⟨before, after, split⟩ := inside
  obtain ⟨front, rest, rfl, lead, same⟩ := List.map_eq_append_iff.mp split.symm
  obtain ⟨first, middle, rfl, -, inner⟩ := List.map_eq_append_iff.mp lead
  have unchanged : middle.map other = part := by
    rw [← inner]
    apply List.map_congr_left
    intro byte member
    exact agree _ (inner ▸ List.mem_map_of_mem member) byte rfl
  exact ⟨first.map other, rest.map other, by rw [← unchanged]; simp⟩

theorem hasStreamColon_spelled (path : Str) :
    hasStreamColon (spelled path) = hasStreamColon path := by
  have same : ∀ byte, spelledByte byte = colon ↔ byte = colon := spelledByte_eq_iff (.inl rfl)
  rw [Bool.eq_iff_iff, ← not_iff_not, Bool.not_eq_true, Bool.not_eq_true,
    hasStreamColon_eq_false_iff, hasStreamColon_eq_false_iff, spelled, ← List.map_take,
    ← List.map_drop]
  simp only [List.mem_map, same, exists_eq_right]

theorem containsVolume_spelled (path : Str) :
    (spelled path).toAsciiUppercase.containsStr (ascii "VOLUME\x7b") =
      path.toAsciiUppercase.containsStr (ascii "VOLUME\x7b") := by
  have upper : (spelled path).toAsciiUppercase = path.map spelledByte := by
    rw [Str.toAsciiUppercase, spelled, List.map_map]
    apply List.map_congr_left
    intro byte _
    exact (upperByte_eq_self_iff _).mpr (spelledByte_spec byte).2.1
  rw [Bool.eq_iff_iff, containsStr_iff, containsStr_iff, upper, Str.toAsciiUppercase]
  constructor
  · apply infix_map_of_agree
    exact fun letter member byte => (spelledByte_eq_of_mem member byte).mp
  · apply infix_map_of_agree
    exact fun letter member byte => (spelledByte_eq_of_mem member byte).mpr

theorem isEightThreeShortName_spelled (path : Str) :
    isEightThreeShortName (spelled path) = isEightThreeShortName path := by
  have tilde : ∀ byte, (spelledByte byte == 126) = (byte == 126) := by
    intro byte
    rw [Bool.eq_iff_iff, beq_iff_eq, beq_iff_eq]
    exact spelledByte_eq_iff (by simp) byte
  induction path with
  | nil => rfl
  | cons first rest ih =>
      cases rest with
      | nil => rfl
      | cons second rest =>
          simp only [spelled, List.map_cons, isEightThreeShortName] at ih ⊢
          rw [tilde, isAsciiDigit_spelledByte, ih]

/-- Whether a path is refused depends on its spelling only. -/
theorem isRefused_spelled (path : Str) : isRefused (spelled path) = isRefused path := by
  rw [isRefused, isRefused, hasStreamColon_spelled, containsVolume_spelled,
    isEightThreeShortName_spelled]

/-- What a path that is not refused leaves out: a colon other than that of a drive, a volume
GUID, and a short name. -/
structure PassesChecks (path : Str) : Prop where
  first : colon ∉ path.take 1
  later : colon ∉ path.drop 2
  volume : ¬ ascii "VOLUME\x7b" <:+: path.toAsciiUppercase
  shortName : ∀ digit, isAsciiDigit digit = true → ¬ [126, digit] <:+: path

theorem isRefused_eq_false_iff (path : Str) : isRefused path = false ↔ PassesChecks path := by
  have volume : path.toAsciiUppercase.containsStr (ascii "VOLUME\x7b") = false ↔
      ¬ ascii "VOLUME\x7b" <:+: path.toAsciiUppercase := by
    rw [← Bool.not_eq_true, containsStr_iff]
  have shortName : isEightThreeShortName path = false ↔
      ∀ digit, isAsciiDigit digit = true → ¬ [126, digit] <:+: path := by
    rw [← Bool.not_eq_true, isEightThreeShortName_iff, not_exists]
    exact forall_congr' fun digit => not_and
  rw [isRefused, Bool.or_eq_false_iff, Bool.or_eq_false_iff, hasStreamColon_eq_false_iff, volume,
    shortName]
  constructor
  · rintro ⟨⟨⟨first, later⟩, volume⟩, shortName⟩
    exact ⟨first, later, volume, shortName⟩
  · intro passes
    exact ⟨⟨⟨passes.first, passes.later⟩, passes.volume⟩, passes.shortName⟩

/-- What is refused of a path is refused of a longer one. -/
theorem isRefused_of_prefix {part path : Str} (leads : part <+: path)
    (passed : isRefused path = false) : isRefused part = false := by
  obtain ⟨rest, rfl⟩ := leads
  rw [isRefused_eq_false_iff] at passed ⊢
  constructor
  · intro member
    apply passed.first
    rw [List.take_append]
    exact List.mem_append_left _ member
  · intro member
    apply passed.later
    rw [List.drop_append]
    exact List.mem_append_left _ member
  · intro inside
    apply passed.volume
    rw [Str.toAsciiUppercase, List.map_append]
    exact inside.trans (List.prefix_append _ _).isInfix
  · intro digit isDigit inside
    exact passed.shortName digit isDigit (inside.trans (List.prefix_append _ _).isInfix)

/-- A part without a separator that is inside a squeezed path is inside the path. -/
theorem infix_of_infix_squeezed {part path : Str} (whole : backslash ∉ part)
    (inside : part <:+: squeezed path) : part <:+: path := by
  cases path with
  | nil => exact inside
  | cons first rest =>
      by_cases separator : first = backslash
      · subst separator
        rcases List.infix_cons_iff.mp inside with leads | inside
        · rcases List.prefix_cons_iff.mp leads with rfl | ⟨part, rfl, -⟩
          · exact List.nil_infix
          · exact absurd List.mem_cons_self whole
        · exact List.infix_cons_iff.mpr (.inr (infix_of_infix_squeezeAfter whole inside))
      · rw [squeezed, squeeze, ← squeezeAfter_of_ne separator false] at inside
        exact infix_of_infix_squeezeAfter whole inside

/-- Squeezing makes nothing that is refused. -/
theorem isRefused_squeezed {path : Str} (passed : isRefused path = false) :
    isRefused (squeezed path) = false := by
  rw [isRefused_eq_false_iff] at passed ⊢
  constructor
  · cases path with
    | nil => exact passed.first
    | cons byte rest => exact passed.first
  · cases path with
    | nil => exact passed.later
    | cons byte rest =>
        intro member
        apply passed.later
        simp only [squeezed, List.drop_succ_cons, List.drop_one] at member ⊢
        exact (tail_squeeze_sublist rest).subset member
  · intro inside
    apply passed.volume
    rw [toAsciiUppercase_squeezed] at inside
    exact infix_of_infix_squeezed (by decide) inside
  · intro digit isDigit inside
    have whole : backslash ∉ [126, digit] := by
      intro member
      rcases List.mem_cons.mp member with equal | member
      · exact absurd equal (by decide)
      · rw [← List.mem_singleton.mp member] at isDigit
        exact absurd isDigit (by decide)
    exact passed.shortName digit isDigit (infix_of_infix_squeezed whole inside)

/-- The normal form of a path that is not refused is not refused either. -/
theorem isRefused_normalForm {path : Str} (passed : isRefused (withoutNtLead path) = false) :
    isRefused (normalForm path) = false := by
  have spelling : isRefused (canonicalSpelling (withoutNtLead path)) = false := by
    rw [canonicalSpelling_eq]
    apply isRefused_squeezed
    rw [isRefused_spelled]
    exact passed
  apply isRefused_of_prefix _ spelling
  unfold normalForm stripTrailingSeparator
  split
  · exact List.dropLast_prefix _
  · exact List.prefix_rfl

/-! ## Normal forms of normal forms -/

theorem spelledByte_eq_backslash (byte : UInt8) :
    spelledByte byte = backslash ↔ isSeparator byte = true := by
  simp [spelledByte_eq_backslash_iff, isSeparator]

theorem squeezed_sublist (path : Str) : (squeezed path).Sublist path := by
  cases path with
  | nil => exact List.Sublist.refl []
  | cons first rest => exact (squeezeAfter_sublist false rest).cons_cons first

theorem isChain_tail_squeezed (path : Str) : (squeezed path).tail.IsChain NotDoubled := by
  cases path with
  | nil => exact List.isChain_nil
  | cons first rest => exact (isChain_squeezeAfter false rest).1

/-- A longer path whose separators are squeezed ends in one of them at most. -/
theorem noTrailing_stripTrailingSeparator {path : Str}
    (chain : path.tail.IsChain NotDoubled) :
    (stripTrailingSeparator path).length ≤ 3 ∨
      (stripTrailingSeparator path).endsWithByte backslash = false := by
  unfold stripTrailingSeparator
  split
  · rename_i trailing
    simp only [Bool.and_eq_true, decide_eq_true_eq, Str.endsWithByte, beq_iff_eq] at trailing
    obtain ⟨long, ends⟩ := trailing
    obtain ⟨front, rfl⟩ : ∃ front, path = front ++ [backslash] :=
      List.getLast?_eq_some_iff.mp ends
    rw [List.dropLast_concat]
    cases front with
    | nil => exact .inl (Nat.zero_le 3)
    | cons first front =>
        cases front using List.reverseRecOn with
        | nil => exact .inl (by simp)
        | append_singleton front last =>
            right
            rw [List.cons_append, List.tail_cons, List.append_assoc] at chain
            have other : last ≠ backslash := by
              rintro rfl
              have pair := List.IsChain.right_of_append chain
              simp [NotDoubled] at pair
            simpa [Str.endsWithByte, List.getLast?_cons] using other
  · rename_i kept
    simp only [Bool.and_eq_true, decide_eq_true_eq, not_and, Bool.not_eq_true] at kept
    by_cases short : path.length ≤ 3
    · exact .inl short
    · exact .inr (kept (by omega))

/-- Steps 6 to 9 leave a normal form as it is. -/
theorem stripTrailingSeparator_canonicalSpelling_normalForm (path : Str) :
    stripTrailingSeparator (canonicalSpelling (normalForm path)) = normalForm path := by
  have chain := isChain_tail_squeezed (spelled (withoutNtLead path))
  have within : (normalForm path).Sublist (spelled (withoutNtLead path)) := by
    rw [normalForm, canonicalSpelling_eq]
    exact (stripTrailingSeparator_sublist _).trans (squeezed_sublist _)
  have spellings : ∀ byte ∈ normalForm path, byte ≠ slash ∧ isAsciiLowercase byte = false := by
    intro byte member
    obtain ⟨original, -, rfl⟩ := List.mem_map.mp (within.subset member)
    exact ⟨(spelledByte_spec original).1, (spelledByte_spec original).2.1⟩
  have self : canonicalSpelling (normalForm path) = normalForm path := by
    apply (canonicalSpelling_eq_self_iff _).mpr
    refine ⟨fun member => (spellings slash member).1 rfl,
      fun byte member => (spellings byte member).2, ?_⟩
    rw [normalForm, canonicalSpelling_eq]
    unfold stripTrailingSeparator
    split
    · rw [List.tail_dropLast]
      exact chain.prefix (List.dropLast_prefix _)
    · exact chain
  rw [self]
  apply (stripTrailingSeparator_eq_self_iff _).mpr
  rw [normalForm, canonicalSpelling_eq]
  exact noTrailing_stripTrailingSeparator chain

/-! ## The prefix of a normal form -/

/-- A squeezed path has the extended-length prefix if the path reads so. -/
theorem ntLead_prefix_squeezed_iff (path more : Str) :
    squeezed path = ntLead ++ more ↔
      ∃ rest behind, path = backslash :: backslash :: rest ∧
        rest.dropWhile (· == backslash) = 63 :: backslash :: behind ∧
          squeezeAfter backslash true behind = more := by
  have lead : ntLead = [backslash, backslash, 63, backslash] := rfl
  rw [lead]
  constructor
  · intro same
    cases path with
    | nil => cases same
    | cons first path =>
        obtain ⟨rfl, later⟩ := List.cons_eq_cons.mp same
        cases path with
        | nil => cases later
        | cons second rest =>
            by_cases separator : second = backslash
            · subst separator
              rw [squeeze, squeezeAfter_separator_false] at later
              have marked := (List.cons_eq_cons.mp later).2
              rw [← squeezeAfter_dropWhile] at marked
              cases dropped : rest.dropWhile (· == backslash) with
              | nil =>
                  rw [dropped] at marked
                  cases marked
              | cons mark behind =>
                  have other : mark ≠ backslash := by
                    have passed := List.head_dropWhile_not (· == backslash)
                      (by rw [dropped]; exact List.cons_ne_nil _ _)
                    simpa [dropped] using passed
                  rw [dropped, squeezeAfter_of_ne other] at marked
                  obtain ⟨rfl, closed⟩ := List.cons_eq_cons.mp marked
                  cases behind with
                  | nil => cases closed
                  | cons next behind =>
                      by_cases again : next = backslash
                      · subst again
                        rw [squeezeAfter_separator_false] at closed
                        exact ⟨rest, behind, rfl, dropped, (List.cons_eq_cons.mp closed).2⟩
                      · rw [squeezeAfter_of_ne again] at closed
                        exact absurd (List.cons_eq_cons.mp closed).1 again
            · rw [squeeze, squeezeAfter_of_ne separator] at later
              exact absurd (List.cons_eq_cons.mp later).1 separator
  · rintro ⟨rest, behind, rfl, dropped, rfl⟩
    rw [squeezed, squeeze, squeezeAfter_separator_false, ← squeezeAfter_dropWhile, dropped,
      squeezeAfter_of_ne (by decide), squeezeAfter_separator_false]
    rfl

/-- The prefix is still there after a trailing separator was dropped, unless it is all. -/
theorem startsWith_stripTrailingSeparator_iff (path : Str) :
    (stripTrailingSeparator path).startsWith ntLead = true ↔
      ∃ more, more ≠ [] ∧ path = ntLead ++ more := by
  rw [Str.startsWith, List.isPrefixOf_iff_prefix]
  constructor
  · intro leads
    have short : (stripTrailingSeparator path) <+: path := by
      unfold stripTrailingSeparator
      split
      · exact List.dropLast_prefix path
      · exact List.prefix_rfl
    obtain ⟨more, rfl⟩ := leads.trans short
    refine ⟨more, ?_, rfl⟩
    rintro rfl
    exact absurd leads (by decide)
  · rintro ⟨more, nonempty, rfl⟩
    unfold stripTrailingSeparator
    split
    · rw [List.dropLast_append_of_ne_nil nonempty]
      exact List.prefix_append _ _
    · exact List.prefix_append _ _

/-- A path reads as extended if it does so when it is spelled. -/
theorem readsExtended_iff (path : Str) :
    readsExtended path = true ↔
      ∃ rest behind, spelled path = backslash :: backslash :: rest ∧
        rest.dropWhile (· == backslash) = 63 :: backslash :: behind ∧
          ∃ byte ∈ behind, byte ≠ backslash := by
  have separates : ∀ byte, (spelledByte byte == backslash) = isSeparator byte := by
    intro byte
    rw [Bool.eq_iff_iff, beq_iff_eq]
    exact spelledByte_eq_backslash byte
  have marks : ∀ byte, spelledByte byte = 63 ↔ byte = 63 := spelledByte_eq_iff (by simp)
  have dropped : ∀ rest : Str, (rest.map spelledByte).dropWhile (· == backslash) =
      (rest.dropWhile isSeparator).map spelledByte := by
    intro rest
    rw [List.dropWhile_map]
    congr 2
    exact funext separates
  cases path with
  | nil => simp [readsExtended, spelled]
  | cons first path =>
      cases path with
      | nil => simp [readsExtended, spelled]
      | cons second rest =>
          have behinds : ∀ behind : Str,
              (behind.any fun byte => !isSeparator byte) = true ↔
                ∃ byte ∈ behind.map spelledByte, byte ≠ backslash := by
            intro behind
            simp [← separates]
          simp only [readsExtended, spelled, List.map_cons, List.cons.injEq, Bool.and_eq_true,
            ← separates first, ← separates second, beq_iff_eq]
          constructor
          · rintro ⟨⟨firstSame, secondSame⟩, marked⟩
            split at marked
            · rename_i mark separator more unmarked
              simp only [Bool.and_eq_true, beq_iff_eq, behinds] at marked
              obtain ⟨⟨rfl, separator_eq⟩, behind⟩ := marked
              refine ⟨_, more.map spelledByte, ⟨firstSame, secondSame, rfl⟩, ?_, behind⟩
              rw [dropped, unmarked, List.map_cons, List.map_cons,
                (spelledByte_eq_backslash separator).mpr separator_eq, (marks 63).mpr rfl]
            · cases marked
          · rintro ⟨_, behind, ⟨firstSame, secondSame, rfl⟩, unmarked, byte, member, other⟩
            refine ⟨⟨firstSame, secondSame⟩, ?_⟩
            rw [dropped] at unmarked
            obtain ⟨mark, rest', split, mark_eq, unmarked⟩ := List.map_eq_cons_iff.mp unmarked
            obtain ⟨separator, more, rfl, separator_eq, rfl⟩ := List.map_eq_cons_iff.mp unmarked
            have marked := (marks mark).mp mark_eq
            subst marked
            rw [split]
            simp only [beq_self_eq_true, Bool.true_and, Bool.and_eq_true, behinds]
            exact ⟨(spelledByte_eq_backslash separator).mp separator_eq, byte, member, other⟩

/-- The normal form has the extended-length prefix again if what it was made of reads so. -/
theorem startsWith_normalForm (path : Str) :
    (normalForm path).startsWith ntLead = readsExtended (withoutNtLead path) := by
  rw [Bool.eq_iff_iff, normalForm, startsWith_stripTrailingSeparator_iff, canonicalSpelling_eq,
    readsExtended_iff]
  constructor
  · rintro ⟨more, nonempty, same⟩
    obtain ⟨rest, behind, shape, marked, rfl⟩ := (ntLead_prefix_squeezed_iff _ _).mp same
    refine ⟨rest, behind, shape, marked, ?_⟩
    rw [ne_eq, squeezeAfter_true_eq_nil_iff] at nonempty
    simpa using nonempty
  · rintro ⟨rest, behind, shape, marked, byte, member, other⟩
    refine ⟨_, ?_, (ntLead_prefix_squeezed_iff _ _).mpr ⟨rest, behind, shape, marked, rfl⟩⟩
    rw [ne_eq, squeezeAfter_true_eq_nil_iff]
    exact fun separators => other (separators byte member)

/-! ## Trailing dots and spaces -/

/-- The bytes that no component ends in. -/
def isDotOrSpace (byte : UInt8) : Bool :=
  byte == 46 || byte == 32

theorem hasTrailingDotOrSpace_eq (path : Str) :
    hasTrailingDotOrSpace path = endsPiece backslash isDotOrSpace path := by
  rw [← any_splitOn_eq_endsPiece (by decide), hasTrailingDotOrSpace]
  congr 1
  funext component
  simp only [Str.endsWithByte]
  cases component.getLast? with
  | none => rfl
  | some byte => simp [isDotOrSpace]

/-- An accepted normal form is no device path. -/
theorem startsWith_deviceLead_of_accepted {path : Str}
    (accepted : hasTrailingDotOrSpace path = false) : path.startsWith deviceLead = false := by
  rw [← Bool.not_eq_true, Str.startsWith, List.isPrefixOf_iff_prefix]
  rintro ⟨rest, rfl⟩
  rw [hasTrailingDotOrSpace_eq] at accepted
  have device : endsPiece backslash isDotOrSpace (deviceLead ++ rest) = true := rfl
  exact absurd (device.symm.trans accepted) (by decide)

/-! ## Idempotence -/

/-- The normal form of a path that is left is empty only if nothing was left. -/
theorem normalForm_eq_nil_iff (path : Str) : normalForm path = [] ↔ withoutNtLead path = [] := by
  rw [normalForm, canonicalSpelling_eq]
  unfold stripTrailingSeparator
  cases withoutNtLead path with
  | nil => simp [spelled, squeezed]
  | cons first rest =>
      simp only [spelled, List.map_cons, squeezed, reduceCtorEq, iff_false]
      split
      · rename_i long
        intro empty
        have lengths := congrArg List.length empty
        simp only [Bool.and_eq_true, decide_eq_true_eq] at long
        simp only [List.length_dropLast, List.length_nil] at lengths
        omega
      · exact List.cons_ne_nil _ _

/-- A normal form is its own normal form exactly if something was left of the path without
its prefix, and that does not read as extended again. -/
theorem normalizePath_idempotent_iff (path normalized : Str)
    (accepted : normalizePath path = some normalized) :
    normalizePath normalized = some normalized ↔
      withoutNtLead path ≠ [] ∧ readsExtended (withoutNtLead path) = false := by
  obtain ⟨⟨-, -, passed⟩, trailing, rfl⟩ := (normalizePath_eq_some_iff path normalized).mp accepted
  rw [normalizePath_eq_some_iff, ← startsWith_normalForm, ne_eq (withoutNtLead path),
    ← normalForm_eq_nil_iff]
  cases lead : (normalForm path).startsWith ntLead with
  | true =>
      -- A second pass drops the prefix.
      simp only [Bool.true_eq_false, and_false, iff_false]
      rintro ⟨-, -, same⟩
      have length : 4 ≤ (normalForm path).length :=
        (List.isPrefixOf_iff_prefix.mp lead).length_le
      have stripped := (stripTrailingSeparator_sublist
        (canonicalSpelling ((normalForm path).drop 4))).length_le
      have spelling := length_canonicalSpelling_le ((normalForm path).drop 4)
      rw [normalForm, withoutNtLead, if_pos lead] at same
      rw [same, List.length_drop] at *
      omega
  | false =>
      have left : withoutNtLead (normalForm path) = normalForm path := by
        rw [withoutNtLead, if_neg (by rw [lead]; exact Bool.false_ne_true)]
      have self : normalForm (normalForm path) = normalForm path := by
        rw [normalForm, left]
        exact stripTrailingSeparator_canonicalSpelling_normalForm path
      rw [left, self]
      simp only [startsWith_deviceLead_of_accepted trailing, isRefused_normalForm passed, trailing,
        and_true]

theorem normalizePath_idempotent_drive :
    normalizePath (ascii "C:\\FOO\\BAR") = some (ascii "C:\\FOO\\BAR") :=
  (normalizePath_idempotent_iff (ascii "\\\\?\\C:/Foo\\\\bar\\") _ (by decide)).mpr (by decide)

/-- The prefix that is written with slashes is not dropped at first, and then it is. -/
theorem normalizePath_not_idempotent :
    ¬ ∀ path normalized : Str, normalizePath path = some normalized →
      normalizePath normalized = some normalized := by
  intro idempotent
  have again := idempotent (ascii "//?/foo") (ascii "\\\\?\\FOO") (by decide)
  exact absurd again (by decide)

end DlpSystem.Common
