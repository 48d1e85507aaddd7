import Mathlib.Data.Char
import Mathlib.Data.String.Basic

/-!
# Approvals

The types that server and agent share: the claims of an approval token, the status of
an approval, and the key under which the agent caches an approval.
-/

namespace DlpSystem.Common

/-- `ApprovalStatus`, as the `status` column has it. -/
inductive ApprovalStatus
  | pending
  | approved
  | rejected
  | revoked
  | expired
  deriving DecidableEq

/-- `ApprovalClaims`; the times are Unix seconds. -/
structure ApprovalClaims where
  iss : String
  sub : String
  obj : String
  act : String
  dst : Option String
  dev : Option String
  iat : Int
  exp : Int
  jti : String
  deriving DecidableEq

/-- The issuer that both sides expect. -/
def expectedIssuer : String := "dlp-server"

/-- `ApprovalCacheKey`. -/
structure ApprovalCacheKey where
  sid : String
  objId : String
  action : String
  dst : Option String
  deriving DecidableEq

/-- A hexadecimal digit. -/
def hexDigit (value : Nat) : Char :=
  if value < 10 then Char.ofNat (48 + value) else Char.ofNat (87 + value)

/-- How a character stands in a JSON string. -/
def jsonChar (char : Char) : List Char :=
  if char = '"' then ['\\', '"']
  else if char = '\\' then ['\\', '\\']
  else if char = '\n' then ['\\', 'n']
  else if char = '\r' then ['\\', 'r']
  else if char = '\t' then ['\\', 't']
  else if char = Char.ofNat 8 then ['\\', 'b']
  else if char = Char.ofNat 12 then ['\\', 'f']
  else if char.toNat < 32 then
    ['\\', 'u', '0', '0', hexDigit (char.toNat / 16), hexDigit (char.toNat % 16)]
  else [char]

/-- A JSON string. -/
def jsonString (text : String) : String :=
  "\"" ++ String.ofList (text.toList.flatMap jsonChar) ++ "\""

/-- A JSON string or `null`. -/
def jsonOption : Option String → String
  | none => "null"
  | some text => jsonString text

/-- `ApprovalCacheKey::encode`. -/
def ApprovalCacheKey.encode (key : ApprovalCacheKey) : String :=
  "\x7b\"sid\":" ++ jsonString key.sid ++ ",\"obj_id\":" ++ jsonString key.objId ++
    ",\"action\":" ++ jsonString key.action ++ ",\"dst\":" ++ jsonOption key.dst ++ "\x7d"

/-! ## Keys do not collide -/

/-- The value of a hexadecimal digit. -/
def hexValue (digit : Char) : Nat :=
  if digit.toNat < 58 then digit.toNat - 48 else digit.toNat - 87

/-- The character that an escape stands for, and what follows it. -/
def readEscape : List Char → Option (Char × List Char)
  | 'n' :: rest => some ('\n', rest)
  | 'r' :: rest => some ('\r', rest)
  | 't' :: rest => some ('\t', rest)
  | 'b' :: rest => some (Char.ofNat 8, rest)
  | 'f' :: rest => some (Char.ofNat 12, rest)
  | 'u' :: _ :: _ :: high :: low :: rest =>
      some (Char.ofNat (hexValue high * 16 + hexValue low), rest)
  | char :: rest => some (char, rest)
  | [] => none

/-- The character at the start of the inside of a JSON string, and what follows it. -/
def readJsonChar : List Char → Option (Char × List Char)
  | [] => none
  | char :: rest => if char = '\\' then readEscape rest else some (char, rest)

theorem hexValue_hexDigit {value : Nat} (small : value < 16) :
    hexValue (hexDigit value) = value := by
  revert small
  revert value
  decide

/-- What `jsonChar` writes can be read back. -/
theorem readJsonChar_jsonChar (char : Char) (rest : List Char) :
    readJsonChar (jsonChar char ++ rest) = some (char, rest) := by
  rw [jsonChar]
  by_cases quote : char = '"'
  · rw [if_pos quote, quote]
    rfl
  rw [if_neg quote]
  by_cases backslash : char = '\\'
  · rw [if_pos backslash, backslash]
    rfl
  rw [if_neg backslash]
  by_cases newline : char = '\n'
  · rw [if_pos newline, newline]
    rfl
  rw [if_neg newline]
  by_cases carriage : char = '\r'
  · rw [if_pos carriage, carriage]
    rfl
  rw [if_neg carriage]
  by_cases tab : char = '\t'
  · rw [if_pos tab, tab]
    rfl
  rw [if_neg tab]
  by_cases backspace : char = Char.ofNat 8
  · rw [if_pos backspace, backspace]
    rfl
  rw [if_neg backspace]
  by_cases feed : char = Char.ofNat 12
  · rw [if_pos feed, feed]
    rfl
  rw [if_neg feed]
  by_cases control : char.toNat < 32
  · have high : char.toNat / 16 < 16 := by omega
    have low : char.toNat % 16 < 16 := by omega
    have value : char.toNat / 16 * 16 + char.toNat % 16 = char.toNat := by omega
    rw [if_pos control]
    change some (Char.ofNat (hexValue (hexDigit (char.toNat / 16)) * 16 +
      hexValue (hexDigit (char.toNat % 16))), rest) = _
    rw [hexValue_hexDigit high, hexValue_hexDigit low, value, Char.ofNat_toNat]
  · rw [if_neg control]
    exact if_neg backslash

/-- No character starts like the end of a string. -/
theorem jsonChar_ne_quote (char : Char) (rest tail : List Char) :
    jsonChar char ++ rest ≠ '"' :: tail := by
  intro same
  have read : some (char, rest) = some ('"', tail) :=
    (readJsonChar_jsonChar char rest).symm.trans (congrArg readJsonChar same)
  cases read
  -- a quote itself is escaped
  exact absurd (List.cons.inj same).1 (by decide)

/-- The inside of a JSON string and what follows it can be told apart. -/
theorem flatMap_jsonChar_injective (left right : List Char) (tail tail' : List Char)
    (same : left.flatMap jsonChar ++ '"' :: tail = right.flatMap jsonChar ++ '"' :: tail') :
    left = right ∧ tail = tail' := by
  induction left generalizing right with
  | nil =>
      cases right with
      | nil => exact ⟨rfl, by simpa using same⟩
      | cons char right =>
          rw [List.flatMap_cons, List.append_assoc] at same
          exact absurd same.symm (jsonChar_ne_quote char _ tail)
  | cons char left ih =>
      rw [List.flatMap_cons, List.append_assoc] at same
      cases right with
      | nil => exact absurd same (jsonChar_ne_quote char _ tail')
      | cons char' right =>
          rw [List.flatMap_cons, List.append_assoc] at same
          have read := congrArg readJsonChar same
          rw [readJsonChar_jsonChar, readJsonChar_jsonChar] at read
          injection read with read
          injection read with sameChar sameRest
          rcases ih right sameRest with ⟨sameText, sameTail⟩
          exact ⟨by rw [sameChar, sameText], sameTail⟩

theorem jsonString_append_injective {left right tail tail' : String}
    (same : jsonString left ++ tail = jsonString right ++ tail') :
    left = right ∧ tail = tail' := by
  have chars := congrArg String.toList same
  simp only [jsonString, String.toList_append, String.toList_ofList, List.append_assoc] at chars
  have inside := flatMap_jsonChar_injective left.toList right.toList tail.toList tail'.toList
    (List.append_cancel_left chars)
  exact ⟨String.toList_injective inside.1, String.toList_injective inside.2⟩

theorem jsonString_ne_null (text tail tail' : String) :
    jsonString text ++ tail ≠ jsonOption none ++ tail' := by
  intro same
  have stringHead : (jsonString text ++ tail).toList.head? = some '"' := by
    rw [jsonString, String.append_assoc, String.append_assoc, String.toList_append]
    rfl
  have nullHead : (jsonOption none ++ tail').toList.head? = some 'n' := by
    rw [jsonOption, String.toList_append]
    rfl
  rw [same, nullHead] at stringHead
  exact absurd stringHead (by decide)

theorem jsonOption_append_injective {left right : Option String} {tail tail' : String}
    (same : jsonOption left ++ tail = jsonOption right ++ tail') : left = right := by
  cases left with
  | none =>
      cases right with
      | none => rfl
      | some text => exact absurd same.symm (jsonString_ne_null text tail' tail)
  | some text =>
      cases right with
      | none => exact absurd same (jsonString_ne_null text tail tail')
      | some text' => rw [(jsonString_append_injective same).1]

/-- Whatever stands between the fields, keys that are written alike are the same. -/
theorem key_eq_of_fields_eq (opening first second third closing : String)
    {left right : ApprovalCacheKey}
    (same : opening ++ jsonString left.sid ++ first ++ jsonString left.objId ++ second ++
        jsonString left.action ++ third ++ jsonOption left.dst ++ closing =
      opening ++ jsonString right.sid ++ first ++ jsonString right.objId ++ second ++
        jsonString right.action ++ third ++ jsonOption right.dst ++ closing) :
    left = right := by
  simp only [String.append_assoc] at same
  rcases jsonString_append_injective (String.append_right_inj _ |>.mp same) with ⟨sid, same⟩
  rcases jsonString_append_injective (String.append_right_inj _ |>.mp same) with ⟨objId, same⟩
  rcases jsonString_append_injective (String.append_right_inj _ |>.mp same) with ⟨action, same⟩
  have dst := jsonOption_append_injective (String.append_right_inj _ |>.mp same)
  cases left
  cases right
  cases sid
  cases objId
  cases action
  cases dst
  rfl

/-- Two keys are encoded alike only if they are the same. -/
theorem ApprovalCacheKey.encode_injective : Function.Injective ApprovalCacheKey.encode := by
  intro left right same
  exact key_eq_of_fields_eq _ _ _ _ _ same

end DlpSystem.Common
