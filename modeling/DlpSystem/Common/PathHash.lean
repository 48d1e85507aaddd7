import DlpSystem.Common.Str
import Mathlib.Data.List.Chain

/-!
# Path normalization and FNV-1a hashing

The shared module of the hook DLL and the agent: `fnv1a_64`, `normalize_path`
and `path_hash`.  Two parties that hash the same file must hash the same
string, so besides the functions themselves the file characterizes the paths
that `normalize_path` leaves as they are.
-/

namespace DlpSystem.Common

open Str

/-! ## FNV-1a -/

/-- One byte of the FNV-1a fold. -/
def fnv1aByte (hash : UInt64) (byte : UInt8) : UInt64 :=
  (hash ^^^ byte.toUInt64) * 0x100000001b3

/-- `fnv1a_64`. -/
def fnv1a64 (bytes : Str) : UInt64 :=
  bytes.foldl fnv1aByte 0xcbf29ce484222325

example : fnv1a64 (ascii "hello") = 0xa430d84680aabd0b := by decide

/-! ## Normalization -/

/-- The extended-length prefix `\\?\`. -/
def ntLead : Str :=
  ascii "\\\\?\\"

/-- The device prefix `\\.\`. -/
def deviceLead : Str :=
  ascii "\\\\.\\"

/-- Step 3: a colon anywhere but right after a drive letter. -/
def hasStreamColon (path : Str) : Bool :=
  match path.findIdx? (· == colon) with
  | none => false
  | some colonPos =>
      if colonPos != 1 || path.length < 2 || path[1]? != some colon then true
      else (path.drop 2).contains colon

/-- `is_eight_three_short_name`: a `~` directly followed by a digit. -/
def isEightThreeShortName : Str → Bool
  | [] => false
  | [_] => false
  | first :: second :: rest =>
      (first == 126 && isAsciiDigit second) || isEightThreeShortName (second :: rest)

/-- Step 7: drop a backslash that follows a backslash, keeping the two leading
ones of a UNC path.  `index` counts the bytes already read. -/
def collapseSeparators (isUnc : Bool) : Nat → Bool → Str → Str
  | _, _, [] => []
  | index, prevWasBackslash, byte :: rest =>
      if byte = backslash then
        if isUnc && index < 2 then
          byte :: collapseSeparators isUnc (index + 1) true rest
        else if !prevWasBackslash then
          byte :: collapseSeparators isUnc (index + 1) true rest
        else
          collapseSeparators isUnc (index + 1) prevWasBackslash rest
      else
        byte :: collapseSeparators isUnc (index + 1) false rest

/-- Steps 6 to 8: one separator, no repeated separators, upper case. -/
def canonicalSpelling (path : Str) : Str :=
  let result := path.replaceByte slash backslash
  let isUnc := result.startsWith [backslash, backslash]
  (collapseSeparators isUnc 0 false result).toAsciiUppercase

/-- Step 9: strip one trailing backslash of anything longer than a root. -/
def stripTrailingSeparator (path : Str) : Str :=
  if path.length > 3 && path.endsWithByte backslash then path.dropLast else path

/-- Step 10: a component that ends in a dot or a space. -/
def hasTrailingDotOrSpace (path : Str) : Bool :=
  (path.splitOn backslash).any fun component : Str =>
    component.endsWithByte 46 || component.endsWithByte 32

/-- `normalize_path`. -/
def normalizePath (path : Str) : Option Str :=
  if path.isEmpty then none
  else
    let s : Str :=
      if path.startsWith ntLead || path.startsWith deviceLead then path.drop 4 else path
    if path.startsWith deviceLead then none
    else if hasStreamColon s then none
    else if s.toAsciiUppercase.containsStr (ascii "VOLUME\x7b") then none
    else if isEightThreeShortName s then none
    else
      let result := stripTrailingSeparator (canonicalSpelling s)
      if hasTrailingDotOrSpace result then none else some result

/-- `path_hash`. -/
def pathHash (path : Str) : Option UInt64 :=
  (normalizePath path).map fnv1a64

example : normalizePath (ascii "\\\\?\\C:/Foo\\\\bar\\") = some (ascii "C:\\FOO\\BAR") := by decide

/-! ## Paths that are their own normal form -/

/-- Two adjacent bytes are not both separators. -/
def NotDoubled (left right : UInt8) : Prop :=
  ¬(left = backslash ∧ right = backslash)

instance : DecidableRel NotDoubled :=
  fun _ _ => inferInstanceAs (Decidable (¬_))

/-- The spelling that `normalize_path` produces: no extended-length prefix, only
backslashes, upper case, no doubled separator past a UNC lead, and no trailing
separator except in a root. -/
structure IsCanonical (path : Str) : Prop where
  noNtLead : path.startsWith ntLead = false
  noSlash : slash ∉ path
  noLowercase : ∀ byte ∈ path, isAsciiLowercase byte = false
  notDoubled : path.tail.IsChain NotDoubled
  noTrailing : path.length ≤ 3 ∨ path.endsWithByte backslash = false

theorem collapseSeparators_sublist (isUnc : Bool) (index : Nat)
    (prevWasBackslash : Bool) (path : Str) :
    (collapseSeparators isUnc index prevWasBackslash path).Sublist path := by
  induction path generalizing index prevWasBackslash with
  | nil => simp [collapseSeparators]
  | cons byte rest ih =>
      simp only [collapseSeparators]
      have tail := fun flag => ih (index + 1) flag
      split_ifs
      · exact (tail true).cons_cons byte
      · exact (tail true).cons_cons byte
      · exact (tail prevWasBackslash).cons byte
      · exact (tail false).cons_cons byte

theorem stripTrailingSeparator_sublist (path : Str) :
    (stripTrailingSeparator path).Sublist path := by
  unfold stripTrailingSeparator
  split
  · exact List.dropLast_sublist path
  · exact List.Sublist.refl path

/-- Past the lead of a UNC path, collapsing changes nothing exactly when no
separator follows another. -/
theorem collapseSeparators_eq_self_iff {isUnc : Bool} {index : Nat}
    (past : isUnc = false ∨ 2 ≤ index) (prevWasBackslash : Bool) (path : Str) :
    collapseSeparators isUnc index prevWasBackslash path = path ↔
      (prevWasBackslash = true → path.head? ≠ some backslash) ∧ path.IsChain NotDoubled := by
  induction path generalizing index prevWasBackslash with
  | nil => simp [collapseSeparators]
  | cons byte rest ih =>
      have pastNext : isUnc = false ∨ 2 ≤ index + 1 := past.imp_right (by omega)
      have notLead : (isUnc && decide (index < 2)) = false := by
        rcases past with notUnc | beyond
        · simp [notUnc]
        · simp [Nat.not_lt.mpr beyond]
      simp only [collapseSeparators, notLead, Bool.false_eq_true, if_false]
      by_cases separator : byte = backslash
      · subst separator
        cases prevWasBackslash with
        | false =>
            simp only [if_true, Bool.not_false, List.cons.injEq, true_and,
              ih pastNext true, List.isChain_cons, NotDoubled]
            constructor
            · rintro ⟨first, chain⟩
              exact ⟨by simp, fun next next_mem both =>
                first trivial (by simpa [both] using next_mem), chain⟩
            · rintro ⟨-, first, chain⟩
              exact ⟨fun _ next => first backslash next (by simp), chain⟩
        | true =>
            simp only [if_true, Bool.not_true, Bool.false_eq_true, if_false,
              List.head?_cons, ne_eq, not_true_eq_false, imp_false, false_and,
              iff_false]
            intro unchanged
            have shorter := (collapseSeparators_sublist isUnc (index + 1) true rest).length_le
            have lengths := congrArg List.length unchanged
            simp only [List.length_cons] at lengths
            omega
      · simp only [separator, if_false, List.cons.injEq, true_and, ih pastNext false,
          Bool.false_eq_true, false_implies, List.isChain_cons, List.head?_cons,
          Option.some.injEq, not_false_eq_true, ne_eq, implies_true]
        constructor
        · intro chain
          exact ⟨fun _ _ both => separator both.1, chain⟩
        · exact And.right

/-- Collapsing a whole path changes nothing exactly when no separator past the
first byte follows another. -/
theorem collapseSeparators_start_eq_self_iff (path : Str) :
    collapseSeparators (path.startsWith [backslash, backslash]) 0 false path = path ↔
      path.tail.IsChain NotDoubled := by
  cases unc : path.startsWith [backslash, backslash] with
  | true =>
      obtain ⟨rest, rfl⟩ : [backslash, backslash] <+: path :=
        List.isPrefixOf_iff_prefix.mp unc
      simp only [List.cons_append, List.nil_append, List.tail_cons]
      simp only [collapseSeparators, if_true, Nat.reduceLT, decide_true, Bool.and_true,
        Nat.reduceAdd, List.cons.injEq, true_and,
        collapseSeparators_eq_self_iff (Or.inr (Nat.le_refl 2)),
        List.isChain_cons, NotDoubled]
      constructor
      · rintro ⟨first, chain⟩
        exact ⟨fun next next_mem both => first trivial (by simpa [both] using next_mem), chain⟩
      · rintro ⟨first, chain⟩
        exact ⟨fun _ next => first backslash next (by simp), chain⟩
  | false =>
      rw [collapseSeparators_eq_self_iff (.inl rfl)]
      cases path with
      | nil => simp
      | cons byte rest =>
          simp only [Bool.false_eq_true, false_implies, true_and, List.tail_cons,
            List.isChain_cons]
          constructor
          · exact And.right
          · intro chain
            refine ⟨fun next next_mem both => ?_, chain⟩
            rcases both with ⟨rfl, rfl⟩
            cases rest with
            | nil => simp at next_mem
            | cons second tail =>
                have equal : second = backslash := by simpa using next_mem
                subst equal
                simp [Str.startsWith] at unc

/-- Mapping a list by `change` leaves it as it is exactly when `change` fixes
every member. -/
private theorem map_eq_self_iff (change : UInt8 → UInt8) (path : Str) :
    path.map change = path ↔ ∀ byte ∈ path, change byte = byte := by
  rw [List.map_eq_iff]
  constructor
  · intro fixed byte byte_mem
    rcases List.getElem_of_mem byte_mem with ⟨index, bound, rfl⟩
    simpa [bound] using (fixed index).symm
  · intro fixed index
    cases found : path[index]? with
    | none => rfl
    | some byte =>
        simp [fixed byte (List.mem_of_getElem? found)]

private theorem replaceByte_eq_self_of_not_mem {path : Str} {old new : UInt8}
    (absent : old ∉ path) : path.replaceByte old new = path := by
  apply (map_eq_self_iff _ path).mpr
  intro byte byte_mem
  have other : byte ≠ old := fun equal => absent (equal ▸ byte_mem)
  simp [other]

/-- Steps 6 to 8 leave a path as it is exactly when it is spelled with single
backslashes in upper case. -/
theorem canonicalSpelling_eq_self_iff (path : Str) :
    canonicalSpelling path = path ↔
      slash ∉ path ∧ (∀ byte ∈ path, isAsciiLowercase byte = false) ∧
        path.tail.IsChain NotDoubled := by
  constructor
  · intro unchanged
    have collapsed := (collapseSeparators_sublist
      ((path.replaceByte slash backslash).startsWith [backslash, backslash]) 0 false
      (path.replaceByte slash backslash)).eq_of_length (by
        simpa [canonicalSpelling] using congrArg List.length unchanged)
    have pointwise : ∀ byte ∈ path,
        upperByte (if byte = slash then backslash else byte) = byte := by
      simp only [canonicalSpelling, collapsed] at unchanged
      simp only [toAsciiUppercase, replaceByte, List.map_map] at unchanged
      exact (map_eq_self_iff _ path).mp unchanged
    have noSlash : slash ∉ path := fun slash_mem =>
      absurd (pointwise slash slash_mem) (by decide)
    have separators : path.replaceByte slash backslash = path :=
      replaceByte_eq_self_of_not_mem noSlash
    refine ⟨noSlash, fun byte byte_mem => ?_, ?_⟩
    · have notSlash : byte ≠ slash := fun equal => noSlash (equal ▸ byte_mem)
      have fixed := pointwise byte byte_mem
      rw [if_neg notSlash] at fixed
      exact (upperByte_eq_self_iff byte).mp fixed
    · rw [separators] at collapsed
      exact (collapseSeparators_start_eq_self_iff path).mp collapsed
  · rintro ⟨noSlash, noLowercase, notDoubled⟩
    have separators : path.replaceByte slash backslash = path :=
      replaceByte_eq_self_of_not_mem noSlash
    have collapsed := (collapseSeparators_start_eq_self_iff path).mpr notDoubled
    simp only [canonicalSpelling, separators, collapsed]
    exact (map_eq_self_iff upperByte path).mpr fun byte byte_mem =>
      (upperByte_eq_self_iff byte).mpr (noLowercase byte byte_mem)

theorem length_canonicalSpelling_le (path : Str) :
    (canonicalSpelling path).length ≤ path.length := by
  simpa [canonicalSpelling] using (collapseSeparators_sublist
    ((path.replaceByte slash backslash).startsWith [backslash, backslash]) 0 false
    (path.replaceByte slash backslash)).length_le

theorem stripTrailingSeparator_eq_self_iff (path : Str) :
    stripTrailingSeparator path = path ↔
      path.length ≤ 3 ∨ path.endsWithByte backslash = false := by
  unfold stripTrailingSeparator
  split
  · rename_i trailing
    simp only [Bool.and_eq_true, decide_eq_true_eq, gt_iff_lt] at trailing
    constructor
    · intro unchanged
      have lengths := congrArg List.length unchanged
      simp only [List.length_dropLast] at lengths
      omega
    · rintro (short | plain)
      · omega
      · simp [plain] at trailing
  · rename_i keep
    simp only [Bool.and_eq_true, decide_eq_true_eq, not_and, Bool.not_eq_true] at keep
    simp only [true_iff]
    by_cases short : path.length ≤ 3
    · exact .inl short
    · exact .inr (keep (by omega))

/-- What `normalize_path` returns when it accepts a path. -/
theorem eq_of_normalizePath_eq_some {path normalized : Str}
    (accepted : normalizePath path = some normalized) :
    path.startsWith deviceLead = false ∧
      normalized = stripTrailingSeparator (canonicalSpelling
        (if path.startsWith ntLead then path.drop 4 else path)) := by
  unfold normalizePath at accepted
  cases device : path.startsWith deviceLead with
  | true => simp [device] at accepted
  | false =>
      simp only [device, Bool.or_false, Bool.false_eq_true, if_false] at accepted
      refine ⟨rfl, ?_⟩
      split_ifs at accepted <;> simp_all

/-- An accepted path is its own normal form exactly when it is spelled
canonically. -/
theorem normalizePath_eq_self_iff {path normalized : Str}
    (accepted : normalizePath path = some normalized) :
    normalized = path ↔ IsCanonical path := by
  rcases eq_of_normalizePath_eq_some accepted with ⟨-, normalEq⟩
  cases lead : path.startsWith ntLead with
  | true =>
      -- the stripped lead makes the normal form shorter than the path
      rw [lead, if_pos rfl] at normalEq
      have leadLength : 4 ≤ path.length :=
        (List.isPrefixOf_iff_prefix.mp lead).length_le
      have stripped := (stripTrailingSeparator_sublist (canonicalSpelling (path.drop 4))).length_le
      have spelled := length_canonicalSpelling_le (path.drop 4)
      rw [← normalEq] at stripped
      rw [List.length_drop] at spelled
      constructor
      · rintro rfl
        omega
      · intro canonical
        exact absurd (lead.symm.trans canonical.noNtLead) (by decide)
  | false =>
      rw [lead, if_neg Bool.false_ne_true] at normalEq
      subst normalEq
      constructor
      · intro unchanged
        have stripped := (stripTrailingSeparator_sublist (canonicalSpelling path)).length_le
        have spelled := length_canonicalSpelling_le path
        rw [unchanged] at stripped
        have kept : stripTrailingSeparator (canonicalSpelling path) = canonicalSpelling path :=
          (stripTrailingSeparator_sublist _).eq_of_length (by rw [unchanged]; omega)
        have self : canonicalSpelling path = path := kept.symm.trans unchanged
        obtain ⟨noSlash, noLowercase, notDoubled⟩ :=
          (canonicalSpelling_eq_self_iff path).mp self
        rw [self] at kept
        exact ⟨lead, noSlash, noLowercase, notDoubled,
          (stripTrailingSeparator_eq_self_iff path).mp kept⟩
      · intro canonical
        have spelled := (canonicalSpelling_eq_self_iff path).mpr
          ⟨canonical.noSlash, canonical.noLowercase, canonical.notDoubled⟩
        rw [spelled]
        exact (stripTrailingSeparator_eq_self_iff path).mpr canonical.noTrailing

end DlpSystem.Common
