import DlpSystem.Agent.PasswordStop
import DlpSystem.UserUi.StopPassword

/-!
# The stop password on its way to bcrypt

What `password_stop` makes of a submitted password: `base64_decode`, the two ways to recover
the text, and `handle_password_submit` up to the call of `bcrypt_verify_against_server`.
-/

namespace DlpSystem.Agent

open Lib
open UserUi (Dpapi PasswordMessage)

/-! ## Base64 -/

/-- The bytes of the alphabet. -/
def base64DecodeAlphabet : List UInt8 :=
  utf8 "ABCDEFGHIJKLMNOPQRSTUVWXYZabcdefghijklmnopqrstuvwxyz0123456789+/"

/-- `BASE64_DECODE_TABLE`; what is negative there is `none`. -/
def base64Value (byte : UInt8) : Option UInt8 :=
  (base64DecodeAlphabet.idxOf? byte).map UInt8.ofNat

/-- Why a password cannot be recovered. -/
inductive CredentialError
  | invalidBase64Character (byte : UInt8)
  | cryptUnprotectData
  deriving DecidableEq

/-- The padding byte. -/
def base64Padding : UInt8 := 61

/-- One byte of `decode_base64_chunk`. -/
def decodeBase64Byte (byte : UInt8) : Except CredentialError UInt8 :=
  if byte = base64Padding then .ok 0
  else
    match base64Value byte with
    | some value => .ok value
    | none => .error (.invalidBase64Character byte)

/-- `decode_base64_chunk`; the rest of the buffer is zero. -/
def decodeBase64Chunk (chunk : List UInt8) : Except CredentialError (List UInt8) :=
  chunk.mapM decodeBase64Byte

/-- `emit_decoded_bytes`. -/
def emitDecodedBytes (chunk buf : List UInt8) : List UInt8 :=
  [(buf.getD 0 0 <<< 2) ||| (buf.getD 1 0 >>> 4)] ++
    (if chunk.length > 2 ∧ chunk.getD 2 0 ≠ base64Padding then
      [(buf.getD 1 0 <<< 4) ||| (buf.getD 2 0 >>> 2)] else []) ++
    (if chunk.length > 3 ∧ chunk.getD 3 0 ≠ base64Padding then
      [(buf.getD 2 0 <<< 6) ||| buf.getD 3 0] else [])

/-- One turn of the loop of `base64_decode`. -/
def decodeChunk (chunk : List UInt8) : Except CredentialError (List UInt8) := do
  let buf ← decodeBase64Chunk chunk
  return emitDecodedBytes chunk buf

/-- The loop of `base64_decode` over chunks of four. -/
def decodeChunks : List UInt8 → Except CredentialError (List UInt8)
  | [] => .ok []
  | [first] => decodeChunk [first]
  | [first, second] => decodeChunk [first, second]
  | [first, second, third] => decodeChunk [first, second, third]
  | first :: second :: third :: fourth :: rest => do
      let out ← decodeChunk [first, second, third, fourth]
      let later ← decodeChunks rest
      return out ++ later

/-- `u8::is_ascii_whitespace`. -/
def isAsciiWhitespace (byte : UInt8) : Bool :=
  byte = 32 || byte = 9 || byte = 10 || byte = 12 || byte = 13

/-- `base64_decode`. -/
def base64Decode (input : String) : Except CredentialError (List UInt8) :=
  decodeChunks ((utf8 input).filter fun byte => !isAsciiWhitespace byte)

/-! ## The password -/

/-- The password that `verify_credentials_plaintext` hands to bcrypt. -/
def plaintextPassword (passwordB64 : String) : Except CredentialError String := do
  let passwordBytes ← base64Decode passwordB64
  return String.ofList (utf8DecodeLossy passwordBytes)

/-- `dpapi_unprotect`. -/
def dpapiUnprotect (dpapi : Dpapi) (blob : List UInt8) : Except CredentialError (List UInt8) :=
  match dpapi.unprotect (blob.take (blob.length % 2 ^ 32)) with
  | some plaintext => .ok plaintext
  | none => .error .cryptUnprotectData

/-- The password that `verify_credentials_dpapi` hands to bcrypt. -/
def dpapiPassword (dpapi : Dpapi) (passwordB64 : String) : Except CredentialError String := do
  let protectedBytes ← base64Decode passwordB64
  let passwordBytes ← dpapiUnprotect dpapi protectedBytes
  return String.ofList (utf8DecodeLossy passwordBytes)

/-- `handle_password_submit`: the password that it hands to `bcrypt_verify_against_server`. -/
def StopAgent.handlePasswordSubmit (agent : StopAgent) (dpapi : Dpapi)
    (requestId password : String) (isPlaintext : Bool) : Option String :=
  if agent.matchesPendingRequest requestId then
    (if isPlaintext then plaintextPassword password else dpapiPassword dpapi password).toOption
  else none

/-- `handle_file_response_for_verify`, for a parser of the response: the password that it
hands to bcrypt. -/
def StopAgent.handleFileResponseForVerify (agent : StopAgent) (dpapi : Dpapi)
    (parse : String → Option StopResponse) (requestId data : String) : Option String :=
  match parse data with
  | some response =>
      if response.result = "submit" then
        match response.password with
        | some password =>
            agent.handlePasswordSubmit dpapi requestId password
              (decide (response.encoding = some "base64-utf8"))
        | none => none
      else none
  | none => none

/-- `dispatch` of the messages of the dialog: the password that it hands to bcrypt. -/
def StopAgent.dispatchPassword (agent : StopAgent) (dpapi : Dpapi) :
    PasswordMessage → Option String
  | .passwordSubmit requestId password =>
      agent.handlePasswordSubmit dpapi requestId password false
  | .passwordCancel _ => none

end DlpSystem.Agent
