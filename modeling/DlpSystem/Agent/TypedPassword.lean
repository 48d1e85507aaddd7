import DlpSystem.Agent.StopCredentials

/-!
# The stop password that was typed

The encoder of the user interface and the decoder of the agent agree on every byte list.  On
the file route bcrypt gets the text of the dialog; on the pipe route it gets the UTF-16 bytes
of the text read as UTF-8, which is never the text.
-/

namespace DlpSystem.Agent

open Lib UserUi

/-! ## Base64 -/

theorem base64DecodeAlphabet_eq :
    base64DecodeAlphabet = base64Alphabet.flatMap String.utf8EncodeChar := by
  rw [base64DecodeAlphabet, utf8_eq_flatMap]
  rfl

/-- The byte of a character of the alphabet. -/
def base64Digit (index : Nat) : UInt8 :=
  UInt8.ofNat (base64Char index).toNat

/-- The characters of the alphabet are bytes that are no white space and no padding, and the
decoder finds their places. -/
theorem base64Digit_spec : ∀ index < 64,
    String.utf8EncodeChar (base64Char index) = [base64Digit index] ∧
      isAsciiWhitespace (base64Digit index) = false ∧ base64Digit index ≠ base64Padding ∧
      (base64Alphabet.flatMap String.utf8EncodeChar).idxOf? (base64Digit index) = some index := by
  decide +kernel

theorem decodeBase64Byte_digit {index : Nat} (small : index < 64) :
    decodeBase64Byte (base64Digit index) = .ok (UInt8.ofNat index) := by
  obtain ⟨-, -, noPadding, place⟩ := base64Digit_spec index small
  rw [decodeBase64Byte, if_neg noPadding, base64Value, base64DecodeAlphabet_eq, place]
  rfl

theorem decodeBase64Byte_padding : decodeBase64Byte base64Padding = .ok 0 :=
  if_pos rfl

/-- The three bytes as one number. -/
theorem triple_eq (first : Nat) {second third : Nat} (small : second < 256) (small' : third < 256) :
    (first <<< 16) ||| (second <<< 8) ||| third = first * 0x10000 + second * 0x100 + third := by
  have low : second <<< 8 ||| third = second * 0x100 + third := by
    rw [← Nat.shiftLeft_add_eq_or_of_lt (by omega), Nat.shiftLeft_eq]
  rw [Nat.or_assoc, low, ← Nat.shiftLeft_add_eq_or_of_lt (by omega), Nat.shiftLeft_eq]
  omega

theorem shiftRight_toNat {value shift : Nat} (small : value < 256) (short : shift < 8) :
    (UInt8.ofNat value >>> UInt8.ofNat shift).toNat = value / 2 ^ shift := by
  rw [UInt8.toNat_shiftRight, toNat_ofNat_byte small, toNat_ofNat_byte (by omega),
    Nat.mod_eq_of_lt short, Nat.shiftRight_eq_div_pow]

/-- Two parts of a byte put together; what a shift moves out of the byte is lost. -/
theorem shiftLeft_or_toNat {value shift : Nat} (small : value < 256) (short : shift < 8)
    {low : UInt8} (fits : low.toNat < 2 ^ shift) :
    ((UInt8.ofNat value <<< UInt8.ofNat shift) ||| low).toNat =
      value % 2 ^ (8 - shift) * 2 ^ shift + low.toNat := by
  have size : 2 ^ 8 = 2 ^ (8 - shift) * 2 ^ shift := by
    rw [← Nat.pow_add, Nat.sub_add_cancel short.le]
  rw [UInt8.toNat_or, UInt8.toNat_shiftLeft, toNat_ofNat_byte small, toNat_ofNat_byte (by omega),
    Nat.mod_eq_of_lt short, Nat.shiftLeft_eq, size, Nat.mul_mod_mul_right, ← Nat.shiftLeft_eq,
    ← Nat.shiftLeft_add_eq_or_of_lt fits, Nat.shiftLeft_eq]

/-- The bytes of a full chunk. -/
theorem emit_three (first second third : UInt8) {i0 i1 i2 i3 : Nat}
    (h0 : i0 = first.toNat / 4) (h1 : i1 = first.toNat % 4 * 16 + second.toNat / 16)
    (h2 : i2 = second.toNat % 16 * 4 + third.toNat / 64) (h3 : i3 = third.toNat % 64) :
    (UInt8.ofNat i0 <<< 2) ||| (UInt8.ofNat i1 >>> 4) = first ∧
      (UInt8.ofNat i1 <<< 4) ||| (UInt8.ofNat i2 >>> 2) = second ∧
      (UInt8.ofNat i2 <<< 6) ||| UInt8.ofNat i3 = third := by
  have b0 := first.toNat_lt
  have b1 := second.toNat_lt
  have b2 := third.toNat_lt
  have low1 : (UInt8.ofNat i1 >>> 4).toNat = i1 / 2 ^ 4 := shiftRight_toNat (by omega) (by decide)
  have low2 : (UInt8.ofNat i2 >>> 2).toNat = i2 / 2 ^ 2 := shiftRight_toNat (by omega) (by decide)
  have low3 : (UInt8.ofNat i3).toNat = i3 := toNat_ofNat_byte (by omega)
  refine ⟨?_, ?_, ?_⟩
  · apply UInt8.toNat_inj.mp
    exact (@shiftLeft_or_toNat i0 2 (by omega) (by decide) _ (by omega)).trans (by omega)
  · apply UInt8.toNat_inj.mp
    exact (@shiftLeft_or_toNat i1 4 (by omega) (by decide) _ (by omega)).trans (by omega)
  · apply UInt8.toNat_inj.mp
    exact (@shiftLeft_or_toNat i2 6 (by omega) (by decide) _ (by omega)).trans (by omega)

/-- What `base64_decode` reads of a text. -/
def base64Bytes (chars : List Char) : List UInt8 :=
  (chars.flatMap String.utf8EncodeChar).filter fun byte => !isAsciiWhitespace byte

theorem base64Bytes_append (first second : List Char) :
    base64Bytes (first ++ second) = base64Bytes first ++ base64Bytes second := by
  rw [base64Bytes, List.flatMap_append, List.filter_append]
  rfl

theorem base64Bytes_digit {index : Nat} (small : index < 64) :
    base64Bytes [base64Char index] = [base64Digit index] := by
  obtain ⟨bytes, visible, -, -⟩ := base64Digit_spec index small
  simp [base64Bytes, bytes, visible]

theorem base64Bytes_padding : base64Bytes ['='] = [base64Padding] := by
  decide +kernel

theorem base64Decode_ofList (chars : List Char) :
    base64Decode (String.ofList chars) = decodeChunks (base64Bytes chars) := by
  rw [base64Decode, utf8_eq_flatMap, String.toList_ofList]
  rfl

theorem and_sixtyThree (value : Nat) : value &&& 0x3F = value % 64 :=
  Nat.and_two_pow_sub_one_eq_mod value 6

/-- The places of the four characters of a chunk in the alphabet. -/
theorem encodeBase64Chunk_eq (first : UInt8) (second third : Option UInt8) :
    encodeBase64Chunk first second third =
      [base64Char (first.toNat / 4),
        base64Char (first.toNat % 4 * 16 + (second.getD 0).toNat / 16),
        if second.isSome then
          base64Char ((second.getD 0).toNat % 16 * 4 + (third.getD 0).toNat / 64) else '=',
        if third.isSome then base64Char ((third.getD 0).toNat % 64) else '='] := by
  have b0 := first.toNat_lt
  have b1 := (second.getD 0).toNat_lt
  have b2 := (third.getD 0).toNat_lt
  rw [encodeBase64Chunk]
  simp only [triple_eq first.toNat b1 b2, and_sixtyThree, Nat.shiftRight_eq_div_pow]
  have p0 : (first.toNat * 0x10000 + (second.getD 0).toNat * 0x100 + (third.getD 0).toNat) /
      2 ^ 18 % 64 = first.toNat / 4 := by
    omega
  have p1 : (first.toNat * 0x10000 + (second.getD 0).toNat * 0x100 + (third.getD 0).toNat) /
      2 ^ 12 % 64 = first.toNat % 4 * 16 + (second.getD 0).toNat / 16 := by
    omega
  have p2 : (first.toNat * 0x10000 + (second.getD 0).toNat * 0x100 + (third.getD 0).toNat) /
      2 ^ 6 % 64 = (second.getD 0).toNat % 16 * 4 + (third.getD 0).toNat / 64 := by
    omega
  have p3 : (first.toNat * 0x10000 + (second.getD 0).toNat * 0x100 + (third.getD 0).toNat) %
      64 = (third.getD 0).toNat % 64 := by
    omega
  rw [p0, p1, p2, p3]

/-- A chunk of four bytes whose values are known. -/
theorem decodeChunk_of_values {b0 b1 b2 b3 v0 v1 v2 v3 : UInt8}
    (h0 : decodeBase64Byte b0 = .ok v0) (h1 : decodeBase64Byte b1 = .ok v1)
    (h2 : decodeBase64Byte b2 = .ok v2) (h3 : decodeBase64Byte b3 = .ok v3) :
    decodeChunk [b0, b1, b2, b3] =
      .ok (emitDecodedBytes [b0, b1, b2, b3] [v0, v1, v2, v3]) := by
  simp only [decodeChunk, decodeBase64Chunk, List.mapM_cons, List.mapM_nil, h0, h1, h2, h3]
  rfl

/-- A chunk of the encoder, as the decoder reads it. -/
theorem base64Bytes_chunk (first : UInt8) (second third : Option UInt8) :
    base64Bytes (encodeBase64Chunk first second third) =
      [base64Digit (first.toNat / 4),
        base64Digit (first.toNat % 4 * 16 + (second.getD 0).toNat / 16),
        if second.isSome then
          base64Digit ((second.getD 0).toNat % 16 * 4 + (third.getD 0).toNat / 64)
        else base64Padding,
        if third.isSome then base64Digit ((third.getD 0).toNat % 64) else base64Padding] := by
  have b0 := first.toNat_lt
  have b1 := (second.getD 0).toNat_lt
  have b2 := (third.getD 0).toNat_lt
  have ite : ∀ (present : Bool) (index : Nat), index < 64 →
      base64Bytes [if present then base64Char index else '='] =
        [if present then base64Digit index else base64Padding] := by
    intro present index small
    cases present with
    | true => exact base64Bytes_digit small
    | false => exact base64Bytes_padding
  have four : ∀ a b c d, base64Bytes [a, b, c, d] =
      base64Bytes [a] ++ (base64Bytes [b] ++ (base64Bytes [c] ++ base64Bytes [d])) := by
    intro a b c d
    rw [← base64Bytes_append, ← base64Bytes_append, ← base64Bytes_append]
    rfl
  rw [encodeBase64Chunk_eq, four, base64Bytes_digit (by omega), base64Bytes_digit (by omega),
    ite _ _ (by omega), ite _ _ (by omega)]
  rfl

theorem base64Digit_ne_padding {index : Nat} (small : index < 64) :
    base64Digit index ≠ base64Padding :=
  (base64Digit_spec index small).2.2.1

/-- The places of a chunk are in the alphabet. -/
theorem places_lt (first second third : UInt8) :
    first.toNat / 4 < 64 ∧ first.toNat % 4 * 16 + second.toNat / 16 < 64 ∧
      second.toNat % 16 * 4 + third.toNat / 64 < 64 ∧ third.toNat % 64 < 64 := by
  have b0 := first.toNat_lt
  have b1 := second.toNat_lt
  have b2 := third.toNat_lt
  omega

theorem decodeChunk_one (first : UInt8) :
    decodeChunk (base64Bytes (encodeBase64Chunk first none none)) = .ok [first] := by
  obtain ⟨p0, p1, -, -⟩ := places_lt first 0 0
  obtain ⟨e0, -, -⟩ := @emit_three first 0 0 _ _ _ _ rfl rfl rfl rfl
  rw [base64Bytes_chunk]
  apply (decodeChunk_of_values (decodeBase64Byte_digit p0) (decodeBase64Byte_digit p1)
    decodeBase64Byte_padding decodeBase64Byte_padding).trans
  exact congrArg (fun byte => Except.ok [byte]) e0

theorem decodeChunk_two (first second : UInt8) :
    decodeChunk (base64Bytes (encodeBase64Chunk first (some second) none)) =
      .ok [first, second] := by
  obtain ⟨p0, p1, p2, -⟩ := places_lt first second 0
  obtain ⟨e0, e1, -⟩ := @emit_three first second 0 _ _ _ _ rfl rfl rfl rfl
  rw [base64Bytes_chunk]
  apply (decodeChunk_of_values (decodeBase64Byte_digit p0) (decodeBase64Byte_digit p1)
    (decodeBase64Byte_digit p2) decodeBase64Byte_padding).trans
  rw [emitDecodedBytes, if_pos ⟨by simp, base64Digit_ne_padding p2⟩, if_neg (by simp)]
  exact congrArg₂ (fun byte byte' => Except.ok [byte, byte']) e0 e1

theorem decodeChunk_three (first second third : UInt8) :
    decodeChunk (base64Bytes (encodeBase64Chunk first (some second) (some third))) =
      .ok [first, second, third] := by
  obtain ⟨p0, p1, p2, p3⟩ := places_lt first second third
  obtain ⟨e0, e1, e2⟩ := @emit_three first second third _ _ _ _ rfl rfl rfl rfl
  rw [base64Bytes_chunk]
  apply (decodeChunk_of_values (decodeBase64Byte_digit p0) (decodeBase64Byte_digit p1)
    (decodeBase64Byte_digit p2) (decodeBase64Byte_digit p3)).trans
  rw [emitDecodedBytes, if_pos ⟨by simp, base64Digit_ne_padding p2⟩,
    if_pos ⟨by simp, base64Digit_ne_padding p3⟩]
  exact congrArg Except.ok (congrArg₂ List.cons e0
    (congrArg₂ List.cons e1 (congrArg (fun byte => [byte]) e2)))

/-- A chunk of the encoder is a chunk of the decoder. -/
theorem decodeChunks_chunk (first : UInt8) (second third : Option UInt8) (rest : List UInt8) :
    decodeChunks (base64Bytes (encodeBase64Chunk first second third) ++ rest) =
      do
        let out ← decodeChunk (base64Bytes (encodeBase64Chunk first second third))
        let later ← decodeChunks rest
        return out ++ later := by
  rw [base64Bytes_chunk]
  rfl

theorem decodeChunks_base64Bytes (bytes : List UInt8) :
    decodeChunks (base64Bytes (base64Chars bytes)) = .ok bytes := by
  induction bytes using base64Chars.induct with
  | case1 => rfl
  | case2 first =>
      rw [base64Chars, ← List.append_nil (base64Bytes _), decodeChunks_chunk, decodeChunk_one]
      rfl
  | case3 first second =>
      rw [base64Chars, ← List.append_nil (base64Bytes _), decodeChunks_chunk, decodeChunk_two]
      rfl
  | case4 first second third rest ih =>
      rw [base64Chars, base64Bytes_append, decodeChunks_chunk, decodeChunk_three, ih]
      rfl

/-- Every byte list survives the encoder of the user interface and the decoder of the agent. -/
theorem base64Decode_base64Encode (bytes : List UInt8) :
    base64Decode (base64Encode bytes) = .ok bytes := by
  rw [base64Encode, base64Decode_ofList, decodeChunks_base64Bytes]

/-! ## The two routes -/

/-- The password that bcrypt gets by the file. -/
def fileRoute (agent : StopAgent) (dpapi : Dpapi) (parse : String → Option StopResponse)
    (requestId : String) (result : DialogResult) : Option String :=
  agent.handleFileResponseForVerify dpapi parse requestId (runStopPassword result)

/-- The password that bcrypt gets by the pipe. -/
def pipeRoute (agent : StopAgent) (dpapi : Dpapi) (requestId : String)
    (result : DialogResult) : Option String :=
  (showPasswordDialog dpapi requestId result).bind (agent.dispatchPassword dpapi)

/-- The password that is checked is the one that was typed, on both routes. -/
structure CheckedAsTyped (agent : StopAgent) (dpapi : Dpapi)
    (parse : String → Option StopResponse) (requestId : String) (text : DialogText)
    (password : String) : Prop where
  base64 : ∀ bytes, base64Decode (base64Encode bytes) = .ok bytes
  file : fileRoute agent dpapi parse requestId (.ok text) = some password
  pipe : pipeRoute agent dpapi requestId (.ok text) = some password

section Routes

variable {agent : StopAgent} {dpapi : Dpapi} {requestId : String} {text : DialogText}

theorem length_utf16Bytes (units : List UInt16) : (utf16Bytes units).length = units.length * 2 := by
  simp [utf16Bytes, List.length_flatMap]

/-- The units of the dialog reach DPAPI in full. -/
theorem protectPassword_eq (dpapi : Dpapi) (text : DialogText) :
    dpapi.protectPassword text.units = dpapi.protect (utf16Bytes text.units) := by
  have counted := text.counted
  rw [Dpapi.protectPassword, List.take_of_length_le]
  rw [length_utf16Bytes]
  omega

/-- The file route hands over the text of the dialog. -/
theorem fileRoute_eq {parse : String → Option StopResponse}
    (parses : ∀ bytes, parse (submitJson (base64Encode bytes)) =
      some ⟨"submit", some (base64Encode bytes), some "base64-utf8"⟩)
    (pending : agent.pendingRequest = some requestId) (entered : text.units ≠ []) :
    fileRoute agent dpapi parse requestId (.ok text) =
      some (String.ofList (utf16DecodeLossy text.units)) := by
  have shown : showPasswordDialogPlaintext (.ok text) =
      some (String.ofList (utf16DecodeLossy text.units)) := by
    rw [showPasswordDialogPlaintext, DialogResult.captured, if_neg entered]
    rfl
  have matching : agent.matchesPendingRequest requestId = true := decide_eq_true pending
  rw [fileRoute, runStopPassword, shown, StopAgent.handleFileResponseForVerify, parses]
  simp only [if_true, decide_true, StopAgent.handlePasswordSubmit, matching, plaintextPassword,
    base64Decode_base64Encode]
  change some (String.ofList (utf8DecodeLossy _)) = _
  rw [utf8DecodeLossy_utf8, String.ofList_toList]

/-- The pipe route hands over the UTF-16 bytes of the dialog, read as UTF-8. -/
theorem pipeRoute_eq {blob : List UInt8}
    (wrapped : dpapi.protect (utf16Bytes text.units) = some blob)
    (unwrapped : dpapi.unprotect blob = some (utf16Bytes text.units))
    (pending : agent.pendingRequest = some requestId) (entered : text.units ≠ []) :
    pipeRoute agent dpapi requestId (.ok text) =
      some (String.ofList (utf8DecodeLossy (utf16Bytes text.units))) := by
  have size := dpapi.protect_length _ _ wrapped
  have shown : showPasswordDialog dpapi requestId (.ok text) =
      some (.passwordSubmit requestId (base64Encode blob)) := by
    rw [showPasswordDialog, DialogResult.captured, if_neg entered]
    simp [protectPassword_eq, wrapped]
  have matching : agent.matchesPendingRequest requestId = true := decide_eq_true pending
  have unprotected : dpapiUnprotect dpapi blob = .ok (utf16Bytes text.units) := by
    rw [dpapiUnprotect, List.take_of_length_le (by rw [Nat.mod_eq_of_lt size]), unwrapped]
  rw [pipeRoute, shown, Option.bind_some, StopAgent.dispatchPassword,
    StopAgent.handlePasswordSubmit, if_pos matching, if_neg Bool.false_ne_true, dpapiPassword,
    base64Decode_base64Encode]
  change (dpapiUnprotect dpapi blob >>= _).toOption = _
  rw [unprotected]
  rfl

theorem utf16_ne_nil {chars : List Char} (some : chars ≠ []) : utf16 chars ≠ [] := by
  intro none
  have text := utf16DecodeLossy_utf16 chars
  rw [none] at text
  exact some text.symm

/-- Whatever is typed, the encoders agree and the file route hands it to bcrypt; the pipe
route hands over another text, so it is never checked as typed on both routes. -/
theorem typed_password_not_checked (parse : String → Option StopResponse)
    (parses : ∀ bytes, parse (submitJson (base64Encode bytes)) =
      some ⟨"submit", some (base64Encode bytes), some "base64-utf8"⟩)
    {blob : List UInt8} (wrapped : dpapi.protect (utf16Bytes text.units) = some blob)
    (roundTrip : ∀ bytes blob, dpapi.protect bytes = some blob →
      dpapi.unprotect blob = some bytes)
    (pending : agent.pendingRequest = some requestId) (password : String)
    (typed : password ≠ "") (encodes : text.units = utf16 password.toList) :
    (∀ bytes, base64Decode (base64Encode bytes) = .ok bytes) ∧
      fileRoute agent dpapi parse requestId (.ok text) = some password ∧
      (∃ other, pipeRoute agent dpapi requestId (.ok text) = some other ∧ other ≠ password) ∧
      ¬ CheckedAsTyped agent dpapi parse requestId text password := by
  have chars : password.toList ≠ [] := by
    intro none
    exact typed (String.toList_eq_nil_iff.mp none)
  have entered : text.units ≠ [] := encodes ▸ utf16_ne_nil chars
  have unwrapped := roundTrip _ _ wrapped
  have file := @fileRoute_eq agent dpapi requestId text parse parses pending entered
  rw [encodes, utf16DecodeLossy_utf16, String.ofList_toList] at file
  have pipe := pipeRoute_eq wrapped unwrapped pending entered
  have differs : String.ofList (utf8DecodeLossy (utf16Bytes text.units)) ≠ password := by
    intro same
    apply utf8DecodeLossy_utf16Bytes_ne chars
    rw [← encodes, ← same, String.toList_ofList]
  refine ⟨base64Decode_base64Encode, file, ⟨_, pipe, differs⟩, ?_⟩
  intro checked
  exact differs (Option.some.inj (pipe.symm.trans checked.pipe))

end Routes

/-! ## One password -/

/-- An agent that waits for the password of a request. -/
def waitingAgent : StopAgent :=
  { StopAgent.start with pending := true, pendingRequest := some "stop-1" }

/-- A data protection that puts its mark before the bytes. -/
def markingDpapi : Dpapi where
  protect bytes := if bytes.length + 1 < 2 ^ 32 then some (1 :: bytes) else none
  unprotect
    | 1 :: bytes => some bytes
    | _ => none
  protect_length := by
    intro bytes blob wrapped
    split at wrapped
    · rename_i small
      cases wrapped
      exact small
    · cases wrapped

/-- A parser of the one kind of response that the file route writes for a password. -/
def parseSubmit (data : String) : Option StopResponse :=
  let password := String.ofList ((data.toList.drop 31).take (data.toList.length - 58))
  if submitJson password = data then some ⟨"submit", some password, some "base64-utf8"⟩ else none

theorem parseSubmit_submitJson (password : String) :
    parseSubmit (submitJson password) =
      some ⟨"submit", some password, some "base64-utf8"⟩ := by
  have chars : (submitJson password).toList =
      submitHead.toList ++ (password.toList ++ submitTail.toList) := by
    rw [submitJson, String.toList_append, String.toList_append, List.append_assoc]
  have head : submitHead.toList.length = 31 := by
    decide
  have tail : submitTail.toList.length = 27 := by
    decide
  have inside : String.ofList (((submitJson password).toList.drop 31).take
      ((submitJson password).toList.length - 58)) = password := by
    rw [chars, List.drop_left' head, List.take_left', String.ofList_toList]
    rw [List.length_append, List.length_append, head, tail]
    omega
  rw [parseSubmit]
  simp only [inside, if_true]

/-- The dialog with `admin` in it. -/
def adminText : DialogText where
  units := [97, 100, 109, 105, 110]
  counted := by decide

theorem adminText_units : adminText.units = utf16 "admin".toList := by
  decide

theorem markingDpapi_unprotect (bytes blob : List UInt8)
    (wrapped : markingDpapi.protect bytes = some blob) :
    markingDpapi.unprotect blob = some bytes := by
  unfold markingDpapi at wrapped
  dsimp only at wrapped
  split at wrapped
  · cases wrapped
    rfl
  · cases wrapped

theorem markingDpapi_adminText :
    markingDpapi.protect (utf16Bytes adminText.units) =
      some (1 :: utf16Bytes adminText.units) := by
  have small : (utf16Bytes adminText.units).length + 1 < 2 ^ 32 := by
    decide
  simp only [markingDpapi, small, if_true]

theorem waitingAgent_pendingRequest : waitingAgent.pendingRequest = some "stop-1" :=
  rfl

theorem admin_not_checked :
    fileRoute waitingAgent markingDpapi parseSubmit "stop-1" (.ok adminText) = some "admin" ∧
      ∃ other, pipeRoute waitingAgent markingDpapi "stop-1" (.ok adminText) = some other ∧
        other ≠ "admin" := by
  obtain ⟨-, file, pipe, -⟩ := typed_password_not_checked parseSubmit
    (fun bytes => parseSubmit_submitJson (base64Encode bytes)) markingDpapi_adminText
    markingDpapi_unprotect waitingAgent_pendingRequest "admin" (by decide) adminText_units
  exact ⟨file, pipe⟩

/-- The text that bcrypt gets by the pipe for `admin`. -/
theorem admin_by_pipe :
    pipeRoute waitingAgent markingDpapi "stop-1" (.ok adminText) =
        some "a\x00d\x00m\x00i\x00n\x00" ∧
      ¬ CheckedAsTyped waitingAgent markingDpapi parseSubmit "stop-1" adminText "admin" := by
  have pipe := pipeRoute_eq markingDpapi_adminText
    (markingDpapi_unprotect _ _ markingDpapi_adminText) waitingAgent_pendingRequest (by decide)
  have text : String.ofList (utf8DecodeLossy (utf16Bytes adminText.units)) =
      "a\x00d\x00m\x00i\x00n\x00" := by
    decide
  rw [text] at pipe
  refine ⟨pipe, ?_⟩
  intro checked
  exact absurd (Option.some.inj (pipe.symm.trans checked.pipe)) (by decide)

end DlpSystem.Agent
