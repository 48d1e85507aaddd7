import DlpSystem.Lib.Lines
import Mathlib.Tactic.Linarith

/-!
# UTF-8 and UTF-16 with replacement characters

Decoders that never fail: what is not well formed becomes the replacement character, one for
each maximal part that could have begun a sequence.  The last section weighs bytes against
characters: a text is never what a UTF-8 decoder makes of its UTF-16 bytes.
-/

namespace DlpSystem.Lib

/-- The replacement character. -/
def replacement : Char := Char.ofNat 0xFFFD

theorem toNat_ofNat_of_isValidChar {code : Nat} (valid : code.isValidChar) :
    (Char.ofNat code).toNat = code := by
  rw [Char.ofNat, dif_pos valid]
  rfl

theorem isValidChar_toNat (char : Char) : char.toNat.isValidChar :=
  char.valid

theorem ofNat_eq_of_toNat {code : Nat} {char : Char} (same : code = char.toNat) :
    Char.ofNat code = char := by
  rw [same, Char.ofNat_toNat]

/-! ## UTF-16 -/

/-- The units of a character. -/
def utf16Units (char : Char) : List UInt16 :=
  if char.toNat < 0x10000 then [UInt16.ofNat char.toNat]
  else
    [UInt16.ofNat (0xD800 + (char.toNat - 0x10000) / 0x400),
      UInt16.ofNat (0xDC00 + (char.toNat - 0x10000) % 0x400)]

/-- The units of a text. -/
def utf16 (chars : List Char) : List UInt16 :=
  chars.flatMap utf16Units

/-- A unit that begins a pair. -/
def isHighSurrogate (unit : UInt16) : Bool :=
  0xD800 ≤ unit.toNat && unit.toNat < 0xDC00

/-- A unit that ends a pair. -/
def isLowSurrogate (unit : UInt16) : Bool :=
  0xDC00 ≤ unit.toNat && unit.toNat < 0xE000

/-- The character of a unit that is not in a pair. -/
def singleUnit (unit : UInt16) : Char :=
  if isHighSurrogate unit || isLowSurrogate unit then replacement else Char.ofNat unit.toNat

/-- The text of units. -/
def utf16DecodeLossy : List UInt16 → List Char
  | [] => []
  | [unit] => [singleUnit unit]
  | unit :: second :: rest =>
      if isHighSurrogate unit && isLowSurrogate second then
        Char.ofNat (0x10000 + (unit.toNat - 0xD800) * 0x400 + (second.toNat - 0xDC00)) ::
          utf16DecodeLossy rest
      else singleUnit unit :: utf16DecodeLossy (second :: rest)

/-- A character that is no pair is its unit. -/
theorem toNat_unit {char : Char} (small : char.toNat < 0x10000) :
    (UInt16.ofNat char.toNat).toNat = char.toNat := by
  rw [UInt16.toNat_ofNat']
  omega

/-- The units of a pair hold what they are made of. -/
theorem toNat_surrogates (char : Char) :
    (UInt16.ofNat (0xD800 + (char.toNat - 0x10000) / 0x400)).toNat =
        0xD800 + (char.toNat - 0x10000) / 0x400 ∧
      (UInt16.ofNat (0xDC00 + (char.toNat - 0x10000) % 0x400)).toNat =
        0xDC00 + (char.toNat - 0x10000) % 0x400 := by
  have valid := isValidChar_toNat char
  unfold Nat.isValidChar at valid
  rw [UInt16.toNat_ofNat', UInt16.toNat_ofNat']
  constructor
  · omega
  · omega

theorem utf16DecodeLossy_units_append (char : Char) (rest : List UInt16) :
    utf16DecodeLossy (utf16Units char ++ rest) = char :: utf16DecodeLossy rest := by
  have valid := isValidChar_toNat char
  unfold Nat.isValidChar at valid
  unfold utf16Units
  split
  · rename_i small
    have code := toNat_unit small
    have high : isHighSurrogate (UInt16.ofNat char.toNat) = false := by
      simp only [isHighSurrogate, code, Bool.and_eq_false_iff, decide_eq_false_iff_not]
      omega
    have low : isLowSurrogate (UInt16.ofNat char.toNat) = false := by
      simp only [isLowSurrogate, code, Bool.and_eq_false_iff, decide_eq_false_iff_not]
      omega
    have single : singleUnit (UInt16.ofNat char.toNat) = char := by
      rw [singleUnit, high, low, code]
      exact ofNat_eq_of_toNat rfl
    cases rest with
    | nil => simp [utf16DecodeLossy, single]
    | cons second rest => simp [utf16DecodeLossy, single, high]
  · rename_i large
    obtain ⟨first, second⟩ := toNat_surrogates char
    have pair : (isHighSurrogate (UInt16.ofNat (0xD800 + (char.toNat - 0x10000) / 0x400)) &&
        isLowSurrogate (UInt16.ofNat (0xDC00 + (char.toNat - 0x10000) % 0x400))) = true := by
      simp only [isHighSurrogate, isLowSurrogate, first, second, Bool.and_eq_true,
        decide_eq_true_eq]
      omega
    simp only [List.cons_append, List.nil_append, utf16DecodeLossy, pair, if_true, first, second]
    rw [List.cons_eq_cons]
    constructor
    · apply ofNat_eq_of_toNat
      omega
    · rfl

/-- A text survives its units. -/
theorem utf16DecodeLossy_utf16 (chars : List Char) : utf16DecodeLossy (utf16 chars) = chars := by
  induction chars with
  | nil => rfl
  | cons char chars ih =>
      rw [utf16, List.flatMap_cons, utf16DecodeLossy_units_append]
      exact congrArg (char :: ·) ih

/-! ## UTF-8 -/

/-- A byte that continues a sequence. -/
def isContinuation (byte : UInt8) : Bool :=
  0x80 ≤ byte.toNat && byte.toNat < 0xC0

/-- The second byte of a sequence of three, after its first one: no shorter sequence would
do, and no surrogate is encoded. -/
def isSecondOfThree (first second : UInt8) : Bool :=
  isContinuation second && (first.toNat ≠ 0xE0 || 0xA0 ≤ second.toNat) &&
    (first.toNat ≠ 0xED || second.toNat < 0xA0)

/-- The second byte of a sequence of four, after its first one: no shorter sequence would do,
and the code is in range. -/
def isSecondOfFour (first second : UInt8) : Bool :=
  isContinuation second && (first.toNat ≠ 0xF0 || 0x90 ≤ second.toNat) &&
    (first.toNat ≠ 0xF4 || second.toNat < 0x90)

/-- A sequence of two bytes: its character, and how many bytes after the first one it
takes. -/
def utf8Two (first : UInt8) : List UInt8 → Char × Nat
  | second :: _ =>
      if isContinuation second then
        (Char.ofNat ((first.toNat - 0xC0) * 0x40 + (second.toNat - 0x80)), 1)
      else (replacement, 0)
  | [] => (replacement, 0)

/-- A sequence of three bytes. -/
def utf8Three (first : UInt8) : List UInt8 → Char × Nat
  | second :: third :: _ =>
      if isSecondOfThree first second then
        if isContinuation third then
          (Char.ofNat ((first.toNat - 0xE0) * 0x1000 + (second.toNat - 0x80) * 0x40 +
            (third.toNat - 0x80)), 2)
        else (replacement, 1)
      else (replacement, 0)
  | [second] => (replacement, if isSecondOfThree first second then 1 else 0)
  | [] => (replacement, 0)

/-- A sequence of four bytes. -/
def utf8Four (first : UInt8) : List UInt8 → Char × Nat
  | second :: third :: fourth :: _ =>
      if isSecondOfFour first second then
        if isContinuation third then
          if isContinuation fourth then
            (Char.ofNat ((first.toNat - 0xF0) * 0x40000 + (second.toNat - 0x80) * 0x1000 +
              (third.toNat - 0x80) * 0x40 + (fourth.toNat - 0x80)), 3)
          else (replacement, 2)
        else (replacement, 1)
      else (replacement, 0)
  | [second, third] =>
      (replacement,
        if isSecondOfFour first second then if isContinuation third then 2 else 1 else 0)
  | [second] => (replacement, if isSecondOfFour first second then 1 else 0)
  | [] => (replacement, 0)

/-- The first character of bytes, and how many bytes after the first one it takes. -/
def utf8Next (first : UInt8) (rest : List UInt8) : Char × Nat :=
  if first.toNat < 0x80 then (Char.ofNat first.toNat, 0)
  else if first.toNat < 0xC2 then (replacement, 0)
  else if first.toNat < 0xE0 then utf8Two first rest
  else if first.toNat < 0xF0 then utf8Three first rest
  else if first.toNat < 0xF5 then utf8Four first rest
  else (replacement, 0)

/-- The characters of bytes after the first `skip` of them. -/
def utf8DecodeAfter : Nat → List UInt8 → List Char
  | _, [] => []
  | skip + 1, _ :: rest => utf8DecodeAfter skip rest
  | 0, first :: rest => (utf8Next first rest).1 :: utf8DecodeAfter (utf8Next first rest).2 rest

/-- The text of bytes. -/
def utf8DecodeLossy (bytes : List UInt8) : List Char :=
  utf8DecodeAfter 0 bytes

theorem utf8DecodeAfter_eq_drop (skip : Nat) (bytes : List UInt8) :
    utf8DecodeAfter skip bytes = utf8DecodeLossy (bytes.drop skip) := by
  induction bytes generalizing skip with
  | nil => cases skip <;> rfl
  | cons first rest ih =>
      cases skip with
      | zero => rfl
      | succ skip => exact ih skip

theorem utf8DecodeLossy_cons (first : UInt8) (rest : List UInt8) :
    utf8DecodeLossy (first :: rest) =
      (utf8Next first rest).1 :: utf8DecodeLossy (rest.drop (utf8Next first rest).2) := by
  rw [← utf8DecodeAfter_eq_drop]
  rfl

theorem isContinuation_iff (byte : UInt8) :
    isContinuation byte = true ↔ 0x80 ≤ byte.toNat ∧ byte.toNat < 0xC0 := by
  simp [isContinuation]

theorem isSecondOfThree_iff (first second : UInt8) :
    isSecondOfThree first second = true ↔
      (0x80 ≤ second.toNat ∧ second.toNat < 0xC0) ∧
        (first.toNat ≠ 0xE0 ∨ 0xA0 ≤ second.toNat) ∧
        (first.toNat ≠ 0xED ∨ second.toNat < 0xA0) := by
  simp only [isSecondOfThree, Bool.and_eq_true, isContinuation_iff, Bool.or_eq_true,
    decide_eq_true_eq, and_assoc]

theorem isSecondOfFour_iff (first second : UInt8) :
    isSecondOfFour first second = true ↔
      (0x80 ≤ second.toNat ∧ second.toNat < 0xC0) ∧
        (first.toNat ≠ 0xF0 ∨ 0x90 ≤ second.toNat) ∧
        (first.toNat ≠ 0xF4 ∨ second.toNat < 0x90) := by
  simp only [isSecondOfFour, Bool.and_eq_true, isContinuation_iff, Bool.or_eq_true,
    decide_eq_true_eq, and_assoc]

/-! The first byte says how long a sequence is. -/

theorem utf8Next_one {first : UInt8} (lead : first.toNat < 0x80) (rest : List UInt8) :
    utf8Next first rest = (Char.ofNat first.toNat, 0) := by
  unfold utf8Next
  rw [if_pos lead]

theorem utf8Next_two {first second : UInt8} (lead : 0xC2 ≤ first.toNat ∧ first.toNat < 0xE0)
    (continues : isContinuation second = true) (rest : List UInt8) :
    utf8Next first (second :: rest) =
      (Char.ofNat ((first.toNat - 0xC0) * 0x40 + (second.toNat - 0x80)), 1) := by
  unfold utf8Next
  rw [if_neg (by omega), if_neg (by omega), if_pos lead.2]
  exact if_pos continues

theorem utf8Next_three {first second third : UInt8}
    (lead : 0xE0 ≤ first.toNat ∧ first.toNat < 0xF0)
    (allowed : isSecondOfThree first second = true) (continues : isContinuation third = true)
    (rest : List UInt8) :
    utf8Next first (second :: third :: rest) =
      (Char.ofNat ((first.toNat - 0xE0) * 0x1000 + (second.toNat - 0x80) * 0x40 +
        (third.toNat - 0x80)), 2) := by
  unfold utf8Next
  rw [if_neg (by omega), if_neg (by omega), if_neg (by omega), if_pos lead.2]
  exact (if_pos allowed).trans (if_pos continues)

theorem utf8Next_four {first second third fourth : UInt8}
    (lead : 0xF0 ≤ first.toNat ∧ first.toNat < 0xF5)
    (allowed : isSecondOfFour first second = true) (continues : isContinuation third = true)
    (ends : isContinuation fourth = true) (rest : List UInt8) :
    utf8Next first (second :: third :: fourth :: rest) =
      (Char.ofNat ((first.toNat - 0xF0) * 0x40000 + (second.toNat - 0x80) * 0x1000 +
        (third.toNat - 0x80) * 0x40 + (fourth.toNat - 0x80)), 3) := by
  unfold utf8Next
  rw [if_neg (by omega), if_neg (by omega), if_neg (by omega), if_neg (by omega),
    if_pos lead.2]
  exact ((if_pos allowed).trans (if_pos continues)).trans (if_pos ends)

theorem toNat_ofNat_byte {code : Nat} (small : code < 256) : (UInt8.ofNat code).toNat = code := by
  rw [UInt8.toNat_ofNat', Nat.mod_eq_of_lt small]

/-- The bytes of a character, by its code. -/
theorem utf8EncodeChar_eq (char : Char) :
    String.utf8EncodeChar char =
      if char.toNat ≤ 0x7F then [UInt8.ofNat char.toNat]
      else if char.toNat ≤ 0x7FF then
        [UInt8.ofNat (char.toNat / 0x40 % 0x20 + 0xC0), UInt8.ofNat (char.toNat % 0x40 + 0x80)]
      else if char.toNat ≤ 0xFFFF then
        [UInt8.ofNat (char.toNat / 0x1000 % 0x10 + 0xE0),
          UInt8.ofNat (char.toNat / 0x40 % 0x40 + 0x80), UInt8.ofNat (char.toNat % 0x40 + 0x80)]
      else
        [UInt8.ofNat (char.toNat / 0x40000 % 0x8 + 0xF0),
          UInt8.ofNat (char.toNat / 0x1000 % 0x40 + 0x80),
          UInt8.ofNat (char.toNat / 0x40 % 0x40 + 0x80), UInt8.ofNat (char.toNat % 0x40 + 0x80)] :=
  rfl

/-- The bytes of a character begin with it. -/
theorem utf8DecodeLossy_encode_append (char : Char) (rest : List UInt8) :
    utf8DecodeLossy (String.utf8EncodeChar char ++ rest) = char :: utf8DecodeLossy rest := by
  have valid := isValidChar_toNat char
  unfold Nat.isValidChar at valid
  have last := toNat_ofNat_byte (show char.toNat % 0x40 + 0x80 < 256 by omega)
  have middle := toNat_ofNat_byte (show char.toNat / 0x40 % 0x40 + 0x80 < 256 by omega)
  have continues : isContinuation (UInt8.ofNat (char.toNat % 0x40 + 0x80)) = true := by
    rw [isContinuation_iff, last]
    omega
  rw [utf8EncodeChar_eq]
  split
  · rename_i one
    have first := toNat_ofNat_byte (show char.toNat < 256 by omega)
    rw [List.singleton_append, utf8DecodeLossy_cons, utf8Next_one (by omega), first,
      Char.ofNat_toNat]
    rfl
  split
  · rename_i two
    have first := toNat_ofNat_byte (show char.toNat / 0x40 % 0x20 + 0xC0 < 256 by omega)
    rw [List.cons_append, List.singleton_append, utf8DecodeLossy_cons,
      utf8Next_two (by omega) continues, first, last,
      ofNat_eq_of_toNat (show _ = char.toNat by omega)]
    rfl
  split
  · rename_i three
    have first := toNat_ofNat_byte (show char.toNat / 0x1000 % 0x10 + 0xE0 < 256 by omega)
    have allowed : isSecondOfThree (UInt8.ofNat (char.toNat / 0x1000 % 0x10 + 0xE0))
        (UInt8.ofNat (char.toNat / 0x40 % 0x40 + 0x80)) = true := by
      rw [isSecondOfThree_iff, first, middle]
      omega
    rw [List.cons_append, List.cons_append, List.singleton_append, utf8DecodeLossy_cons,
      utf8Next_three (by omega) allowed continues, first, middle, last,
      ofNat_eq_of_toNat (show _ = char.toNat by omega)]
    rfl
  · have first := toNat_ofNat_byte (show char.toNat / 0x40000 % 0x8 + 0xF0 < 256 by omega)
    have second := toNat_ofNat_byte (show char.toNat / 0x1000 % 0x40 + 0x80 < 256 by omega)
    have allowed : isSecondOfFour (UInt8.ofNat (char.toNat / 0x40000 % 0x8 + 0xF0))
        (UInt8.ofNat (char.toNat / 0x1000 % 0x40 + 0x80)) = true := by
      rw [isSecondOfFour_iff, first, second]
      omega
    have ends : isContinuation (UInt8.ofNat (char.toNat / 0x40 % 0x40 + 0x80)) = true := by
      rw [isContinuation_iff, middle]
      omega
    rw [List.cons_append, List.cons_append, List.cons_append, List.singleton_append,
      utf8DecodeLossy_cons, utf8Next_four (by omega) allowed ends continues, first, second, middle,
      last, ofNat_eq_of_toNat (show _ = char.toNat by omega)]
    rfl

/-- A text survives its bytes. -/
theorem utf8DecodeLossy_encode (chars : List Char) :
    utf8DecodeLossy (chars.flatMap String.utf8EncodeChar) = chars := by
  induction chars with
  | nil => rfl
  | cons char chars ih =>
      rw [List.flatMap_cons, utf8DecodeLossy_encode_append, ih]

theorem utf8_eq_flatMap (content : String) :
    utf8 content = content.toList.flatMap String.utf8EncodeChar := by
  rw [utf8, ← String.utf8Encode_toList, List.utf8Encode, List.toList_data_toByteArray]

theorem utf8DecodeLossy_utf8 (content : String) :
    utf8DecodeLossy (utf8 content) = content.toList := by
  rw [utf8_eq_flatMap, utf8DecodeLossy_encode]

/-! ## UTF-16 bytes read as UTF-8 -/

/-- The bytes of units, the low one first. -/
def utf16Bytes (units : List UInt16) : List UInt8 :=
  units.flatMap fun unit => [UInt8.ofNat (unit.toNat % 256), UInt8.ofNat (unit.toNat / 256)]

/-- What a byte weighs. -/
def byteWeight (byte : UInt8) : Int :=
  if byte.toNat < 0x80 then 1
  else if byte.toNat < 0xC0 then -1
  else if byte.toNat < 0xE0 then 0
  else if byte.toNat < 0xF5 then -1
  else 1

/-- What a character weighs: no more than its UTF-16 bytes together, and at least as much as
any bytes that a UTF-8 decoder reads it from. -/
def charWeight (char : Char) : Int :=
  if char.toNat < 0x80 then 1
  else if char.toNat < 0x800 then -1
  else if char.toNat = 0xFFFD then 1
  else if char.toNat < 0x10000 then -3
  else -4

def bytesWeight (bytes : List UInt8) : Int :=
  (bytes.map byteWeight).sum

def charsWeight (chars : List Char) : Int :=
  (chars.map charWeight).sum

theorem byteWeight_le_one (byte : UInt8) : byteWeight byte ≤ 1 := by
  unfold byteWeight
  omega

theorem neg_one_le_byteWeight (byte : UInt8) : -1 ≤ byteWeight byte := by
  unfold byteWeight
  omega

theorem byteWeight_of_isContinuation {byte : UInt8} (continues : isContinuation byte = true) :
    byteWeight byte = -1 := by
  have range := (isContinuation_iff byte).mp continues
  unfold byteWeight
  omega

@[simp]
theorem charWeight_replacement : charWeight replacement = 1 := by
  decide

theorem bytesWeight_append (first second : List UInt8) :
    bytesWeight (first ++ second) = bytesWeight first + bytesWeight second := by
  simp [bytesWeight]

theorem bytesWeight_cons (first : UInt8) (rest : List UInt8) :
    bytesWeight (first :: rest) = byteWeight first + bytesWeight rest := by
  simp [bytesWeight]

theorem charsWeight_cons (first : Char) (rest : List Char) :
    charsWeight (first :: rest) = charWeight first + charsWeight rest := by
  simp [charsWeight]

theorem charWeight_ofNat {code : Nat} (valid : code.isValidChar) :
    charWeight (Char.ofNat code) =
      if code < 0x80 then 1
      else if code < 0x800 then -1
      else if code = 0xFFFD then 1
      else if code < 0x10000 then -3
      else -4 := by
  rw [charWeight, toNat_ofNat_of_isValidChar valid]

/-- Bytes that are replaced: a first one, and others that continue it. -/
theorem bytesWeight_le_replacement (first : UInt8) {taken : List UInt8}
    (tail : ∀ byte ∈ taken, isContinuation byte = true) :
    bytesWeight (first :: taken) ≤ charWeight replacement := by
  have light : bytesWeight taken ≤ 0 := by
    induction taken with
    | nil => exact le_refl _
    | cons byte taken ih =>
        rw [bytesWeight_cons, byteWeight_of_isContinuation (tail byte List.mem_cons_self)]
        have later := ih fun other member => tail other (List.mem_cons_of_mem byte member)
        omega
  rw [bytesWeight_cons, charWeight_replacement]
  have most := byteWeight_le_one first
  omega

theorem isContinuation_of_isSecondOfThree {first second : UInt8}
    (allowed : isSecondOfThree first second = true) : isContinuation second = true :=
  (isContinuation_iff second).mpr ((isSecondOfThree_iff first second).mp allowed).1

theorem isContinuation_of_isSecondOfFour {first second : UInt8}
    (allowed : isSecondOfFour first second = true) : isContinuation second = true :=
  (isContinuation_iff second).mpr ((isSecondOfFour_iff first second).mp allowed).1

theorem utf8Two_weight {first : UInt8} (lead : 0xC2 ≤ first.toNat ∧ first.toNat < 0xE0)
    (rest : List UInt8) :
    bytesWeight (first :: rest.take (utf8Two first rest).2) ≤
      charWeight (utf8Two first rest).1 := by
  unfold utf8Two
  split
  · rename_i second rest
    split
    · rename_i continues
      have range := (isContinuation_iff second).mp continues
      have heavy : byteWeight first = 0 := by
        unfold byteWeight
        omega
      rw [charWeight_ofNat (by unfold Nat.isValidChar; omega)]
      simp only [List.take_succ_cons, List.take_zero, bytesWeight, List.map_cons, List.map_nil,
        List.sum_cons, List.sum_nil, heavy, byteWeight_of_isContinuation continues]
      omega
    · exact bytesWeight_le_replacement first (by simp)
  · exact bytesWeight_le_replacement first (by simp)

theorem utf8Three_weight {first : UInt8} (lead : 0xE0 ≤ first.toNat ∧ first.toNat < 0xF0)
    (rest : List UInt8) :
    bytesWeight (first :: rest.take (utf8Three first rest).2) ≤
      charWeight (utf8Three first rest).1 := by
  unfold utf8Three
  split
  · rename_i second third rest
    split
    · rename_i allowed
      have second' := isContinuation_of_isSecondOfThree allowed
      have range := (isSecondOfThree_iff first second).mp allowed
      split
      · rename_i continues
        have last := (isContinuation_iff third).mp continues
        have heavy : byteWeight first = -1 := by
          unfold byteWeight
          omega
        rw [charWeight_ofNat (by unfold Nat.isValidChar; omega)]
        simp only [List.take_succ_cons, List.take_zero, bytesWeight, List.map_cons, List.map_nil,
          List.sum_cons, List.sum_nil, heavy, byteWeight_of_isContinuation second',
          byteWeight_of_isContinuation continues]
        omega
      · exact bytesWeight_le_replacement first (by simp [second'])
    · exact bytesWeight_le_replacement first (by simp)
  · rename_i second
    by_cases allowed : isSecondOfThree first second = true
    · have second' := isContinuation_of_isSecondOfThree allowed
      exact bytesWeight_le_replacement first (by simp [allowed, second'])
    · exact bytesWeight_le_replacement first (by simp [allowed])
  · exact bytesWeight_le_replacement first (by simp)

/-- Four bytes are a character that needs four. -/
theorem utf8Four_code {first second third fourth : UInt8}
    (lead : 0xF0 ≤ first.toNat ∧ first.toNat < 0xF5)
    (allowed : isSecondOfFour first second = true) (continues : isContinuation third = true)
    (ends : isContinuation fourth = true) :
    0x10000 ≤ (first.toNat - 0xF0) * 0x40000 + (second.toNat - 0x80) * 0x1000 +
        (third.toNat - 0x80) * 0x40 + (fourth.toNat - 0x80) ∧
      (first.toNat - 0xF0) * 0x40000 + (second.toNat - 0x80) * 0x1000 +
        (third.toNat - 0x80) * 0x40 + (fourth.toNat - 0x80) < 0x110000 := by
  have range := (isSecondOfFour_iff first second).mp allowed
  have middle := (isContinuation_iff third).mp continues
  have last := (isContinuation_iff fourth).mp ends
  constructor
  · omega
  · omega

theorem utf8Four_weight {first : UInt8} (lead : 0xF0 ≤ first.toNat ∧ first.toNat < 0xF5)
    (rest : List UInt8) :
    bytesWeight (first :: rest.take (utf8Four first rest).2) ≤
      charWeight (utf8Four first rest).1 := by
  unfold utf8Four
  split
  · rename_i second third fourth rest
    split
    · rename_i allowed
      have second' := isContinuation_of_isSecondOfFour allowed
      split
      · rename_i third'
        split
        · rename_i continues
          obtain ⟨least, most⟩ := utf8Four_code lead allowed third' continues
          have heavy : byteWeight first = -1 := by
            unfold byteWeight
            omega
          rw [charWeight_ofNat (Or.inr ⟨by omega, most⟩)]
          simp only [List.take_succ_cons, List.take_zero, bytesWeight, List.map_cons,
            List.map_nil, List.sum_cons, List.sum_nil, heavy,
            byteWeight_of_isContinuation second', byteWeight_of_isContinuation third',
            byteWeight_of_isContinuation continues]
          omega
        · exact bytesWeight_le_replacement first (by simp [second', third'])
      · exact bytesWeight_le_replacement first (by simp [second'])
    · exact bytesWeight_le_replacement first (by simp)
  · rename_i second third
    by_cases allowed : isSecondOfFour first second = true
    · have second' := isContinuation_of_isSecondOfFour allowed
      by_cases third' : isContinuation third = true
      · exact bytesWeight_le_replacement first (by simp [allowed, second', third'])
      · exact bytesWeight_le_replacement first (by simp [allowed, second', third'])
    · exact bytesWeight_le_replacement first (by simp [allowed])
  · rename_i second
    by_cases allowed : isSecondOfFour first second = true
    · have second' := isContinuation_of_isSecondOfFour allowed
      exact bytesWeight_le_replacement first (by simp [allowed, second'])
    · exact bytesWeight_le_replacement first (by simp [allowed])
  · exact bytesWeight_le_replacement first (by simp)

/-- The bytes that the decoder takes for a character. -/
theorem utf8Next_weight (first : UInt8) (rest : List UInt8) :
    bytesWeight (first :: rest.take (utf8Next first rest).2) ≤
      charWeight (utf8Next first rest).1 := by
  unfold utf8Next
  split
  · rename_i one
    have code : first.toNat.isValidChar := Or.inl (by omega)
    simp [bytesWeight, charWeight_ofNat code, one, byteWeight_le_one first]
  split
  · exact bytesWeight_le_replacement first (by simp)
  split
  · exact utf8Two_weight (by omega) rest
  split
  · exact utf8Three_weight (by omega) rest
  split
  · exact utf8Four_weight (by omega) rest
  · exact bytesWeight_le_replacement first (by simp)

/-- What the decoder makes of bytes weighs at least as much as they do. -/
theorem bytesWeight_le_charsWeight (bytes : List UInt8) :
    bytesWeight bytes ≤ charsWeight (utf8DecodeLossy bytes) := by
  induction length : bytes.length using Nat.strong_induction_on generalizing bytes with
  | _ size ih =>
      cases bytes with
      | nil => decide
      | cons first rest =>
          have shorter : (rest.drop (utf8Next first rest).2).length < size := by
            rw [← length, List.length_drop, List.length_cons]
            omega
          have later := ih _ shorter (rest.drop (utf8Next first rest).2) rfl
          have taken := utf8Next_weight first rest
          rw [utf8DecodeLossy_cons, charsWeight_cons]
          have split : bytesWeight (first :: rest) =
              bytesWeight (first :: rest.take (utf8Next first rest).2) +
                bytesWeight (rest.drop (utf8Next first rest).2) := by
            rw [← bytesWeight_append, List.cons_append, List.take_append_drop]
          rw [split]
          exact add_le_add taken later

theorem bytesWeight_utf16Bytes_cons (unit : UInt16) (units : List UInt16) :
    bytesWeight (utf16Bytes (unit :: units)) =
      byteWeight (UInt8.ofNat (unit.toNat % 256)) + byteWeight (UInt8.ofNat (unit.toNat / 256)) +
        bytesWeight (utf16Bytes units) := by
  rw [utf16Bytes, List.flatMap_cons, bytesWeight_append, utf16Bytes]
  simp [bytesWeight]

theorem byteWeight_ofNat_ascii {code : Nat} (ascii : code < 0x80) :
    byteWeight (UInt8.ofNat code) = 1 := by
  rw [byteWeight, toNat_ofNat_byte (by omega), if_pos ascii]

/-- A character of one unit. -/
theorem charWeight_lt_unit {char : Char} (small : char.toNat < 0x10000) :
    charWeight char < byteWeight (UInt8.ofNat (char.toNat % 256)) +
      byteWeight (UInt8.ofNat (char.toNat / 256)) := by
  have low := neg_one_le_byteWeight (UInt8.ofNat (char.toNat % 256))
  have high := neg_one_le_byteWeight (UInt8.ofNat (char.toNat / 256))
  unfold charWeight
  split
  · rw [byteWeight_ofNat_ascii (show char.toNat % 256 < 0x80 by omega),
      byteWeight_ofNat_ascii (show char.toNat / 256 < 0x80 by omega)]
    decide
  split
  · rw [byteWeight_ofNat_ascii (show char.toNat / 256 < 0x80 by omega)]
    omega
  split
  · rename_i code
    rw [code]
    decide
  · omega

theorem byteWeight_ofNat_surrogate {code : Nat} (surrogate : 0xD8 ≤ code ∧ code < 0xE0) :
    byteWeight (UInt8.ofNat code) = 0 := by
  rw [byteWeight, toNat_ofNat_byte (by omega)]
  omega

/-- The UTF-16 bytes of a character weigh more than it. -/
theorem charWeight_lt_utf16Bytes (char : Char) :
    charWeight char < bytesWeight (utf16Bytes (utf16Units char)) := by
  have valid := isValidChar_toNat char
  unfold Nat.isValidChar at valid
  unfold utf16Units
  split
  · rename_i small
    rw [bytesWeight_utf16Bytes_cons, toNat_unit small]
    exact (charWeight_lt_unit small).trans_le (add_zero _).ge
  · rename_i large
    obtain ⟨first, second⟩ := toNat_surrogates char
    have surrogate : 0xD8 ≤ (0xD800 + (char.toNat - 0x10000) / 0x400) / 256 ∧
        (0xD800 + (char.toNat - 0x10000) / 0x400) / 256 < 0xE0 := by
      omega
    have low := neg_one_le_byteWeight
      (UInt8.ofNat ((0xD800 + (char.toNat - 0x10000) / 0x400) % 256))
    have low' := neg_one_le_byteWeight
      (UInt8.ofNat ((0xDC00 + (char.toNat - 0x10000) % 0x400) % 256))
    have high' := neg_one_le_byteWeight
      (UInt8.ofNat ((0xDC00 + (char.toNat - 0x10000) % 0x400) / 256))
    have none : bytesWeight (utf16Bytes []) = 0 := rfl
    have least : charWeight char = -4 := by
      unfold charWeight
      omega
    rw [bytesWeight_utf16Bytes_cons, bytesWeight_utf16Bytes_cons, first, second, none, least,
      byteWeight_ofNat_surrogate surrogate]
    linarith only [low, low', high']

theorem charsWeight_le_utf16Bytes (chars : List Char) :
    charsWeight chars ≤ bytesWeight (utf16Bytes (utf16 chars)) := by
  induction chars with
  | nil => exact le_refl _
  | cons char chars ih =>
      rw [charsWeight_cons, utf16, List.flatMap_cons, utf16Bytes, List.flatMap_append,
        bytesWeight_append]
      exact add_le_add (charWeight_lt_utf16Bytes char).le ih

/-- No text is what a UTF-8 decoder makes of its UTF-16 bytes. -/
theorem utf8DecodeLossy_utf16Bytes_ne {chars : List Char} (some : chars ≠ []) :
    utf8DecodeLossy (utf16Bytes (utf16 chars)) ≠ chars := by
  intro same
  have read := bytesWeight_le_charsWeight (utf16Bytes (utf16 chars))
  rw [same] at read
  cases chars with
  | nil => exact some rfl
  | cons char chars =>
      have heavier := charWeight_lt_utf16Bytes char
      have others := charsWeight_le_utf16Bytes chars
      rw [charsWeight_cons, utf16, List.flatMap_cons, utf16Bytes, List.flatMap_append,
        bytesWeight_append] at read
      exact absurd (add_lt_add_of_lt_of_le heavier others) (not_lt.mpr read)

end DlpSystem.Lib
