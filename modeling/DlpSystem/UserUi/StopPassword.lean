import DlpSystem.Lib.Unicode

/-!
# The stop-password dialog

`stop_password` and `run_stop_password` of the user interface: the text of the dialog goes to
the agent over the pipe, wrapped by DPAPI, or through a file as plain text, both times in
Base64.
-/

namespace DlpSystem.UserUi

open Lib

/-! ## Base64 -/

/-- `B64`. -/
def base64Alphabet : List Char :=
  "ABCDEFGHIJKLMNOPQRSTUVWXYZabcdefghijklmnopqrstuvwxyz0123456789+/".toList

/-- One character of the alphabet. -/
def base64Char (index : Nat) : Char :=
  base64Alphabet.getD index '='

/-- The four characters of a chunk of one to three bytes. -/
def encodeBase64Chunk (first : UInt8) (second third : Option UInt8) : List Char :=
  let triple := (first.toNat <<< 16) ||| ((second.getD 0).toNat <<< 8) ||| (third.getD 0).toNat
  [base64Char ((triple >>> 18) &&& 0x3F),
    base64Char ((triple >>> 12) &&& 0x3F),
    if second.isSome then base64Char ((triple >>> 6) &&& 0x3F) else '=',
    if third.isSome then base64Char (triple &&& 0x3F) else '=']

/-- The loop of `base64_encode` over chunks of three. -/
def base64Chars : List UInt8 → List Char
  | [] => []
  | [first] => encodeBase64Chunk first none none
  | [first, second] => encodeBase64Chunk first (some second) none
  | first :: second :: third :: rest =>
      encodeBase64Chunk first (some second) (some third) ++ base64Chars rest

/-- `base64_encode`. -/
def base64Encode (input : List UInt8) : String :=
  String.ofList (base64Chars input)

/-! ## The dialog -/

/-- The text of the edit control; `GetWindowTextLengthW` and `GetWindowTextW` count its units
in an `i32`. -/
structure DialogText where
  units : List UInt16
  counted : units.length < 2 ^ 31

/-- How the dialog ends. -/
inductive DialogResult
  | ok (text : DialogText)
  | cancel

/-- `capture_password_text`, and the check for an empty password. -/
def DialogResult.captured : DialogResult → Option (List UInt16)
  | .ok text => if text.units = [] then none else some text.units
  | .cancel => none

/-- `CryptProtectData` of the user interface and `CryptUnprotectData` of the agent, where they
succeed; the size of a blob is a `u32`. -/
structure Dpapi where
  protect : List UInt8 → Option (List UInt8)
  unprotect : List UInt8 → Option (List UInt8)
  protect_length : ∀ bytes blob, protect bytes = some blob → blob.length < 2 ^ 32

/-- `dpapi_protect`: the units lie in memory with their low byte first. -/
def Dpapi.protectPassword (dpapi : Dpapi) (password : List UInt16) : Option (List UInt8) :=
  dpapi.protect ((utf16Bytes password).take (password.length * 2 % 2 ^ 32))

/-- The messages of the dialog on the pipe. -/
inductive PasswordMessage
  | passwordSubmit (requestId password : String)
  | passwordCancel (requestId : String)
  deriving DecidableEq

/-- `show_password_dialog`. -/
def showPasswordDialog (dpapi : Dpapi) (requestId : String) (result : DialogResult) :
    Option PasswordMessage :=
  match result.captured with
  | some password => do
      let blob ← dpapi.protectPassword password
      return .passwordSubmit requestId (base64Encode blob)
  | none => some (.passwordCancel requestId)

/-- `show_password_dialog_plaintext`. -/
def showPasswordDialogPlaintext (result : DialogResult) : Option String :=
  result.captured.map fun password => String.ofList (utf16DecodeLossy password)

/-- The JSON of a submitted password, up to the password. -/
def submitHead : String := "\x7b\"result\":\"submit\",\"password\":\""

/-- The JSON of a submitted password, after the password. -/
def submitTail : String := "\",\"encoding\":\"base64-utf8\"\x7d"

/-- The JSON of a submitted password. -/
def submitJson (password : String) : String :=
  submitHead ++ password ++ submitTail

/-- `run_stop_password`: what it writes to the file. -/
def runStopPassword (result : DialogResult) : String :=
  match showPasswordDialogPlaintext result with
  | some password => submitJson (base64Encode (utf8 password))
  | none => "\x7b\"result\":\"cancel\"\x7d"

end DlpSystem.UserUi
