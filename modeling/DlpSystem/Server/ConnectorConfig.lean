import DlpSystem.Lib.ReadModifyWrite
import DlpSystem.Server.SecretStore
import Mathlib.Data.Fin.VecNotation

/-!
# Editing the SIEM and the alert configuration

`update_siem_config_handler` and `update_alert_config_handler`.  A secret field of a payload
is empty, or the mask that stands for the stored secret, or a new secret.  The handler for
alerts reads the stored secrets in the transaction that writes; the one for SIEM reads them
before, and goes on without them if it cannot.
-/

namespace DlpSystem.Server

open Lib

/-! ## Secret columns -/

/-- `ALERT_SECRET_MASK`. -/
def alertSecretMask : String := "***MASKED***"

/-- The `AppError` variants of the handlers. -/
inductive ConnectorError
  | database
  | internal (message : String)
  | badRequest (message : String)
  deriving DecidableEq

/-- The encrypted trio of a secret; `none` is NULL. -/
structure EncryptedTriple where
  encrypted : Option (List UInt8)
  nonce : Option (List UInt8)
  version : Option Int
  deriving DecidableEq

/-- What an update meets: the steps that fail, and the nonces that are drawn. -/
structure UpdateCircumstances where
  readFails : Bool
  poolFails : Bool
  beginFails : Bool
  encryptFails : SecretColumn → Bool
  updateFails : Bool
  commitFails : Bool
  nonce : SecretColumn → Nonce

section Columns

variable (gcm : Aes256Gcm) (crypto : SecretCrypto)

/-- `decrypt_optional`. -/
def decryptOptional (column : SecretColumn) (stored : EncryptedTriple) :
    Except ConnectorError (Option String) :=
  let failure (reason : String) : ConnectorError :=
    .internal ("decrypt failed for " ++ column.table ++ "." ++ column.column ++ ": " ++ reason)
  match stored.encrypted, stored.nonce with
  | some ciphertext, some nonce =>
      match openTrio gcm crypto (aadFor column.table column.column) ciphertext nonce with
      | .ok plaintext => .ok (some plaintext)
      | .error (.nonceLength _) => .error (failure "nonce length")
      | .error (.envelope _) => .error (failure "malformed envelope")
      | .error (.decrypt _) => .error (failure "auth/version error")
  | _, _ => .ok none

/-- `encrypt_optional`. -/
def encryptOptional (circumstances : UpdateCircumstances) (column : SecretColumn)
    (plaintext : Option String) : Except ConnectorError EncryptedTriple :=
  let failure : ConnectorError :=
    .internal ("encrypt failed for " ++ column.table ++ "." ++ column.column)
  match plaintext with
  | none => .ok ⟨none, none, none⟩
  | some secret =>
      if circumstances.encryptFails column then .error failure
      else
        match crypto.encrypt gcm (circumstances.nonce column) (utf8 secret)
            (aadFor column.table column.column) with
        | .error _ => .error failure
        | .ok envelope =>
            .ok ⟨some envelope.ciphertext, some envelope.nonce.bytes,
              some crypto.version.toNat⟩

end Columns

/-- `resolve_secret_field`. -/
def resolveSecretField (incoming : String) (existing : Option String) : Option String :=
  if incoming = "" then none
  else if incoming = alertSecretMask then existing
  else some incoming

/-- `resolve_secret_field_with_stored`. -/
def resolveSecretFieldWithStored (incoming stored : String) : Option String :=
  if incoming = "" then none
  else if incoming = alertSecretMask then if stored = "" then none else some stored
  else some incoming

/-- A secret in a response. -/
def maskSecret (incoming : String) : String :=
  if incoming = "" then incoming else alertSecretMask

/-! ## SIEM -/

/-- `SiemConfigPayload`. -/
structure SiemConfigPayload where
  splunkUrl : String
  splunkToken : String
  splunkEnabled : Bool
  elkUrl : String
  elkIndex : String
  elkApiKey : String
  elkEnabled : Bool
  deriving DecidableEq

/-- `SiemConfigRow`, with secrets as they are stored or as they are read. -/
structure SiemConfigRow (Secret : Type) where
  splunkUrl : String
  splunkToken : Secret
  splunkEnabled : Int
  elkUrl : String
  elkIndex : String
  elkApiKey : Secret
  elkEnabled : Int
  updatedAt : String
  deriving DecidableEq

section Siem

variable (gcm : Aes256Gcm) (crypto : SecretCrypto)

/-- `SiemConfigRepository::get`, once the row is selected. -/
def SiemConfigRow.get (row : SiemConfigRow EncryptedTriple) :
    Except ConnectorError (SiemConfigRow (Option String)) := do
  let splunkToken ← decryptOptional gcm crypto .splunkToken row.splunkToken
  let elkApiKey ← decryptOptional gcm crypto .elkApiKey row.elkApiKey
  return { row with splunkToken := splunkToken, elkApiKey := elkApiKey }

/-- `SiemConfigRepository::update`: the row that it writes. -/
def SiemConfigRow.encrypt (circumstances : UpdateCircumstances)
    (record : SiemConfigRow (Option String)) :
    Except ConnectorError (SiemConfigRow EncryptedTriple) := do
  let splunk ← encryptOptional gcm crypto circumstances .splunkToken record.splunkToken
  let elk ← encryptOptional gcm crypto circumstances .elkApiKey record.elkApiKey
  if circumstances.updateFails then throw .database
  return { record with splunkToken := splunk, elkApiKey := elk }

/-- A call of the handler. -/
structure SiemUpdate where
  payload : SiemConfigPayload
  now : String
  circumstances : UpdateCircumstances

/-- The secrets that a call reads.  An error is discarded. -/
def SiemUpdate.existing (call : SiemUpdate) (row : SiemConfigRow EncryptedTriple) :
    Option (SiemConfigRow (Option String)) :=
  if call.circumstances.readFails then none else (row.get gcm crypto).toOption

/-- The record that a call writes. -/
def SiemUpdate.record (call : SiemUpdate) (existing : Option (SiemConfigRow (Option String))) :
    SiemConfigRow (Option String) where
  splunkUrl := call.payload.splunkUrl
  splunkToken := resolveSecretField call.payload.splunkToken
    (existing.bind fun row => row.splunkToken)
  splunkEnabled := if call.payload.splunkEnabled then 1 else 0
  elkUrl := call.payload.elkUrl
  elkIndex := call.payload.elkIndex
  elkApiKey := resolveSecretField call.payload.elkApiKey (existing.bind fun row => row.elkApiKey)
  elkEnabled := if call.payload.elkEnabled then 1 else 0
  updatedAt := call.now

/-- The row that a call writes after it has read a row. -/
def SiemUpdate.prepare (call : SiemUpdate) (row : SiemConfigRow EncryptedTriple) :
    Except ConnectorError (SiemConfigRow EncryptedTriple) := do
  let existing := call.existing gcm crypto row
  if call.circumstances.poolFails || call.circumstances.beginFails then throw .database
  SiemConfigRow.encrypt gcm crypto call.circumstances (call.record existing)

/-- `update_siem_config_handler`, alone: the row afterwards, and the response. -/
def SiemUpdate.run (call : SiemUpdate) (row : SiemConfigRow EncryptedTriple) :
    SiemConfigRow EncryptedTriple × Except ConnectorError SiemConfigPayload :=
  match call.prepare gcm crypto row with
  | .error error => (row, .error error)
  | .ok written =>
      if call.circumstances.commitFails then (row, .error .database)
      else
        (written, .ok { call.payload with
          splunkToken := maskSecret call.payload.splunkToken
          elkApiKey := maskSecret call.payload.elkApiKey })

/-- A call among others, which reads before its transaction begins. -/
def SiemUpdate.rewrite (call : SiemUpdate) :
    RewriteCall (SiemConfigRow EncryptedTriple) ConnectorError :=
  ⟨call.prepare gcm crypto, false⟩

end Siem

/-! ## Alerts -/

/-- `AlertRouterConfigPayload`. -/
structure AlertRouterConfigPayload where
  smtpHost : String
  smtpPort : UInt16
  smtpUsername : String
  smtpPassword : String
  smtpFrom : String
  smtpTo : String
  smtpEnabled : Bool
  webhookUrl : String
  webhookSecret : String
  webhookEnabled : Bool
  deriving DecidableEq

/-- `AlertRouterConfigRow`, with secrets as they are stored or as they are read. -/
structure AlertRouterConfigRow (Secret : Type) where
  smtpHost : String
  smtpPort : UInt16
  smtpUsername : String
  smtpPassword : Secret
  smtpFrom : String
  smtpTo : String
  smtpEnabled : Int
  webhookUrl : String
  webhookSecret : Secret
  webhookEnabled : Int
  updatedAt : String
  deriving DecidableEq

/-- The host of a URL. -/
inductive UrlHost
  | ipv4 (octets : Fin 4 → UInt8)
  | ipv6 (segments : Fin 8 → UInt16)
  | domain (name : String)

/-- `url::Url`, as far as it is checked. -/
structure ParsedUrl where
  scheme : String
  host : Option UrlHost

/-- `Ipv4Addr::is_loopback`. -/
def isLoopbackV4 (octets : Fin 4 → UInt8) : Bool :=
  octets 0 = 127

/-- `Ipv4Addr::is_link_local`. -/
def isLinkLocalV4 (octets : Fin 4 → UInt8) : Bool :=
  octets 0 = 169 && octets 1 = 254

/-- `Ipv6Addr::to_ipv4_mapped`. -/
def toIpv4Mapped (segments : Fin 8 → UInt16) : Option (Fin 4 → UInt8) :=
  if (segments 0, segments 1, segments 2, segments 3, segments 4, segments 5) =
      (0, 0, 0, 0, 0, 0xffff) then
    some ![(segments 6 >>> 8).toUInt8, (segments 6).toUInt8, (segments 7 >>> 8).toUInt8,
      (segments 7).toUInt8]
  else none

/-- `validate_ipv4_host`. -/
def validateIpv4Host (octets : Fin 4 → UInt8) : Except String Unit :=
  if isLoopbackV4 octets then .error "loopback addresses not allowed"
  else if isLinkLocalV4 octets then .error "link-local addresses not allowed"
  else .ok ()

/-- `validate_ipv6_host`. -/
def validateIpv6Host (segments : Fin 8 → UInt16) : Except String Unit :=
  if ∀ index, segments index = ![0, 0, 0, 0, 0, 0, 0, 1] index then
    .error "loopback addresses not allowed"
  else if segments 0 &&& 0xffc0 = 0xfe80 then .error "link-local addresses not allowed"
  else
    match toIpv4Mapped segments with
    | none => .ok ()
    | some octets =>
        if isLoopbackV4 octets then .error "loopback addresses not allowed (IPv4-mapped)"
        else if isLinkLocalV4 octets then .error "link-local addresses not allowed (IPv4-mapped)"
        else .ok ()

/-- `validate_webhook_url`, with the parser of URLs. -/
def validateWebhookUrl (parseUrl : String → Except String ParsedUrl) (url : String) :
    Except String Unit :=
  match parseUrl url with
  | .error error => .error ("invalid URL: " ++ error)
  | .ok parsed =>
      if parsed.scheme ≠ "https" then .error "scheme must be https"
      else
        match parsed.host with
        | some (.ipv4 octets) => validateIpv4Host octets
        | some (.ipv6 segments) => validateIpv6Host segments
        | some (.domain _) => .ok ()
        | none => .error "URL has no host"

section Alert

variable (gcm : Aes256Gcm) (crypto : SecretCrypto)
  (parseUrl : String → Except String ParsedUrl)

/-- `AlertRouterConfigRepository::get_secrets`, once the row is selected. -/
def AlertRouterConfigRow.getSecrets (row : AlertRouterConfigRow EncryptedTriple) :
    Except ConnectorError (String × String) := do
  let smtpPassword ← decryptOptional gcm crypto .smtpPassword row.smtpPassword
  let webhookSecret ← decryptOptional gcm crypto .webhookSecret row.webhookSecret
  return (smtpPassword.getD "", webhookSecret.getD "")

/-- `AlertRouterConfigRepository::update`: the row that it writes. -/
def AlertRouterConfigRow.encrypt (circumstances : UpdateCircumstances)
    (record : AlertRouterConfigRow (Option String)) :
    Except ConnectorError (AlertRouterConfigRow EncryptedTriple) := do
  let smtp ← encryptOptional gcm crypto circumstances .smtpPassword record.smtpPassword
  let webhook ← encryptOptional gcm crypto circumstances .webhookSecret record.webhookSecret
  if circumstances.updateFails then throw .database
  return { record with smtpPassword := smtp, webhookSecret := webhook }

/-- A call of the handler. -/
structure AlertUpdate where
  payload : AlertRouterConfigPayload
  now : String
  circumstances : UpdateCircumstances

/-- The check of the webhook before anything is read. -/
def AlertUpdate.checkWebhook (call : AlertUpdate) : Except ConnectorError Unit :=
  if call.payload.webhookUrl = "" then .ok ()
  else
    match validateWebhookUrl parseUrl call.payload.webhookUrl with
    | .ok () => .ok ()
    | .error reason => .error (.badRequest ("webhook_url rejected: " ++ reason))

/-- The record that a call writes. -/
def AlertUpdate.record (call : AlertUpdate) (stored : String × String) :
    AlertRouterConfigRow (Option String) where
  smtpHost := call.payload.smtpHost
  smtpPort := call.payload.smtpPort
  smtpUsername := call.payload.smtpUsername
  smtpPassword := resolveSecretFieldWithStored call.payload.smtpPassword stored.1
  smtpFrom := call.payload.smtpFrom
  smtpTo := call.payload.smtpTo
  smtpEnabled := if call.payload.smtpEnabled then 1 else 0
  webhookUrl := call.payload.webhookUrl
  webhookSecret := resolveSecretFieldWithStored call.payload.webhookSecret stored.2
  webhookEnabled := if call.payload.webhookEnabled then 1 else 0
  updatedAt := call.now

/-- The row that a call writes after it has read a row. -/
def AlertUpdate.prepare (call : AlertUpdate) (row : AlertRouterConfigRow EncryptedTriple) :
    Except ConnectorError (AlertRouterConfigRow EncryptedTriple) := do
  call.checkWebhook parseUrl
  if call.circumstances.poolFails || call.circumstances.beginFails ||
      call.circumstances.readFails then throw .database
  let stored ← row.getSecrets gcm crypto
  AlertRouterConfigRow.encrypt gcm crypto call.circumstances (call.record stored)

/-- `update_alert_config_handler`, alone: the row afterwards, and the response. -/
def AlertUpdate.run (call : AlertUpdate) (row : AlertRouterConfigRow EncryptedTriple) :
    AlertRouterConfigRow EncryptedTriple × Except ConnectorError AlertRouterConfigPayload :=
  match call.prepare gcm crypto parseUrl row with
  | .error error => (row, .error error)
  | .ok written =>
      if call.circumstances.commitFails then (row, .error .database)
      else
        (written, .ok { call.payload with
          smtpPassword := maskSecret call.payload.smtpPassword
          webhookSecret := maskSecret call.payload.webhookSecret })

/-- A call among others, which reads in its transaction. -/
def AlertUpdate.rewrite (call : AlertUpdate) :
    RewriteCall (AlertRouterConfigRow EncryptedTriple) ConnectorError :=
  ⟨call.prepare gcm crypto parseUrl, true⟩

end Alert

end DlpSystem.Server
