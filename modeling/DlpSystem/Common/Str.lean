import Mathlib.Data.List.Basic

/-!
# Strings as UTF-8 bytes

A `&str` of the source is modelled by its UTF-8 bytes.  Every operation that
the modelled code applies to a path looks for ASCII characters only, and an
ASCII byte never occurs inside a multi-byte sequence, so the byte-wise
operations below agree with the character-wise ones of the standard library.
Lengths and offsets are byte counts on both sides.
-/

namespace DlpSystem.Common

/-- A string slice, by its UTF-8 bytes. -/
abbrev Str := List UInt8

/-- The bytes of an ASCII literal. -/
def ascii (text : String) : Str :=
  text.toList.map fun character => UInt8.ofNat character.toNat

namespace Str

/-- The byte `\`. -/
abbrev backslash : UInt8 := 92

/-- The byte `/`. -/
abbrev slash : UInt8 := 47

/-- The byte `:`. -/
abbrev colon : UInt8 := 58

/-- `u8::is_ascii_lowercase`. -/
def isAsciiLowercase (byte : UInt8) : Bool :=
  97 ≤ byte && byte ≤ 122

/-- `u8::is_ascii_uppercase`. -/
def isAsciiUppercase (byte : UInt8) : Bool :=
  65 ≤ byte && byte ≤ 90

/-- `u8::is_ascii_digit`. -/
def isAsciiDigit (byte : UInt8) : Bool :=
  48 ≤ byte && byte ≤ 57

/-- `u8::to_ascii_uppercase`. -/
def upperByte (byte : UInt8) : UInt8 :=
  if isAsciiLowercase byte then byte - 32 else byte

/-- `u8::to_ascii_lowercase`. -/
def lowerByte (byte : UInt8) : UInt8 :=
  if isAsciiUppercase byte then byte + 32 else byte

/-- `str::to_ascii_uppercase`. -/
def toAsciiUppercase (text : Str) : Str :=
  text.map upperByte

/-- `<[u8]>::eq_ignore_ascii_case`. -/
def eqIgnoreAsciiCase (left right : Str) : Bool :=
  left.map lowerByte == right.map lowerByte

/-- `str::starts_with`. -/
def startsWith (text lead : Str) : Bool :=
  lead.isPrefixOf text

/-- `str::ends_with` for a single character. -/
def endsWithByte (text : Str) (byte : UInt8) : Bool :=
  text.getLast? == some byte

/-- `str::contains` for a string pattern. -/
def containsStr (text pattern : Str) : Bool :=
  text.tails.any fun rest => pattern.isPrefixOf rest

/-- `str::replace` of one character by another. -/
def replaceByte (text : Str) (old new : UInt8) : Str :=
  text.map fun byte => if byte = old then new else byte

@[simp]
theorem length_toAsciiUppercase (text : Str) :
    text.toAsciiUppercase.length = text.length := by
  simp [toAsciiUppercase]

@[simp]
theorem length_replaceByte (text : Str) (old new : UInt8) :
    (text.replaceByte old new).length = text.length := by
  simp [replaceByte]

/-- Upper-casing changes exactly the lower-case letters. -/
theorem upperByte_eq_self_iff (byte : UInt8) :
    upperByte byte = byte ↔ isAsciiLowercase byte = false := by
  unfold upperByte
  split
  · rename_i lower
    simp only [lower, Bool.true_eq_false, iff_false]
    intro unchanged
    have values := congrArg UInt8.toNat unchanged
    rw [UInt8.toNat_sub] at values
    have bound := byte.toNat_lt
    have thirtyTwo : (32 : UInt8).toNat = 32 := rfl
    omega
  · rename_i notLower
    simpa using notLower

end Str

end DlpSystem.Common
