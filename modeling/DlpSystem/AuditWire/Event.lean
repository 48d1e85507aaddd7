import DlpSystem.Agent.DiskEnumerator
import DlpSystem.Lib.JsonCodec

/-!
# Audit events in JSON

`AuditEvent` with all its fields, and the identities inside it, as tables of their JSON
fields in the order of the source.  The codec of a record is its table.
-/

namespace DlpSystem.AuditWire

open Lib Abac
open Agent (Action BusType EncryptionStatus EncryptionMethod)

/-! ## Enumerations -/

/-- `EventType`. -/
inductive EventType
  | access
  | block
  | alert
  | configChange
  | sessionLogoff
  | adminAction
  | serviceStopFailed
  | diskDiscovery
  | diskMountBlocked
  | diskQuarantineStarted
  | diskQuarantineExpired
  | approvalRequest
  | approvalGrant
  | approvalRevoke
  | approvalUse
  | approvalExpiry
  | approvalBoardKeyUpdate
  | approvalOverride
  | ntdllPatchingEnabled
  | ntdllPatchingEdrDetected
  | hookOverwritten
  | daclTripwireTooLarge
  | daclTamperDetected
  | etwConsumerStarted
  | etwConsumerStopped
  | etwConsumerGatedOff
  | etwConsumerLostEvents
  | bypassAlertDetected
  | volumeArrival
  | chainBreakDetected
  | deviceHealthChange
  | agentShutdownUnhook
  | watchdogSelfUnload
  | unhookFailure
  deriving DecidableEq

namespace EventType

def variants : List EventType :=
  [access, block, alert, configChange, sessionLogoff, adminAction, serviceStopFailed,
    diskDiscovery, diskMountBlocked, diskQuarantineStarted, diskQuarantineExpired,
    approvalRequest, approvalGrant, approvalRevoke, approvalUse, approvalExpiry,
    approvalBoardKeyUpdate, approvalOverride, ntdllPatchingEnabled, ntdllPatchingEdrDetected,
    hookOverwritten, daclTripwireTooLarge, daclTamperDetected, etwConsumerStarted,
    etwConsumerStopped, etwConsumerGatedOff, etwConsumerLostEvents, bypassAlertDetected,
    volumeArrival, chainBreakDetected, deviceHealthChange, agentShutdownUnhook,
    watchdogSelfUnload, unhookFailure]

/-- `SCREAMING_SNAKE_CASE`. -/
def name : EventType → String
  | access => "ACCESS"
  | block => "BLOCK"
  | alert => "ALERT"
  | configChange => "CONFIG_CHANGE"
  | sessionLogoff => "SESSION_LOGOFF"
  | adminAction => "ADMIN_ACTION"
  | serviceStopFailed => "SERVICE_STOP_FAILED"
  | diskDiscovery => "DISK_DISCOVERY"
  | diskMountBlocked => "DISK_MOUNT_BLOCKED"
  | diskQuarantineStarted => "DISK_QUARANTINE_STARTED"
  | diskQuarantineExpired => "DISK_QUARANTINE_EXPIRED"
  | approvalRequest => "APPROVAL_REQUEST"
  | approvalGrant => "APPROVAL_GRANT"
  | approvalRevoke => "APPROVAL_REVOKE"
  | approvalUse => "APPROVAL_USE"
  | approvalExpiry => "APPROVAL_EXPIRY"
  | approvalBoardKeyUpdate => "APPROVAL_BOARD_KEY_UPDATE"
  | approvalOverride => "APPROVAL_OVERRIDE"
  | ntdllPatchingEnabled => "NTDLL_PATCHING_ENABLED"
  | ntdllPatchingEdrDetected => "NTDLL_PATCHING_EDR_DETECTED"
  | hookOverwritten => "HOOK_OVERWRITTEN"
  | daclTripwireTooLarge => "DACL_TRIPWIRE_TOO_LARGE"
  | daclTamperDetected => "DACL_TAMPER_DETECTED"
  | etwConsumerStarted => "ETW_CONSUMER_STARTED"
  | etwConsumerStopped => "ETW_CONSUMER_STOPPED"
  | etwConsumerGatedOff => "ETW_CONSUMER_GATED_OFF"
  | etwConsumerLostEvents => "ETW_CONSUMER_LOST_EVENTS"
  | bypassAlertDetected => "BYPASS_ALERT_DETECTED"
  | volumeArrival => "VOLUME_ARRIVAL"
  | chainBreakDetected => "CHAIN_BREAK_DETECTED"
  | deviceHealthChange => "DEVICE_HEALTH_CHANGE"
  | agentShutdownUnhook => "AGENT_SHUTDOWN_UNHOOK"
  | watchdogSelfUnload => "WATCHDOG_SELF_UNLOAD"
  | unhookFailure => "UNHOOK_FAILURE"

def codec : JsonCodec EventType :=
  .ofVariants variants name
    (by intro variant; cases variant <;> decide) (by decide +kernel)

end EventType

/-- `AuditAccessContext`. -/
inductive AuditAccessContext
  | localAccess
  | smb
  deriving DecidableEq

/-- `lowercase`. -/
def AuditAccessContext.name : AuditAccessContext → String
  | .localAccess => "local"
  | .smb => "smb"

def AuditAccessContext.codec : JsonCodec AuditAccessContext :=
  .ofVariants [.localAccess, .smb] name
    (by intro variant; cases variant <;> decide) (by decide +kernel)

/-- The variants of `Classification`. -/
def classificationName : Classification → String
  | .T1 => "T1"
  | .T2 => "T2"
  | .T3 => "T3"
  | .T4 => "T4"

def classificationCodec : JsonCodec Classification :=
  .ofVariants [.T1, .T2, .T3, .T4] classificationName
    (by intro variant; cases variant <;> decide) (by decide +kernel)

/-- The variants of `Action`, which are not renamed. -/
def actionName : Action → String
  | .read => "READ"
  | .write => "WRITE"
  | .copy => "COPY"
  | .delete => "DELETE"
  | .move => "MOVE"
  | .paste => "PASTE"
  | .policyCreate => "PolicyCreate"
  | .policyUpdate => "PolicyUpdate"
  | .policyDelete => "PolicyDelete"
  | .passwordChange => "PasswordChange"
  | .diskRegistryAdd => "DiskRegistryAdd"
  | .diskRegistryRemove => "DiskRegistryRemove"
  | .dragDrop => "DRAG_DROP"
  | .cloudUpload => "CLOUD_UPLOAD"
  | .print => "PRINT"
  | .shareLink => "SHARE_LINK"
  | .labelCreate => "LabelCreate"
  | .labelUpdate => "LabelUpdate"
  | .labelConfirm => "LabelConfirm"
  | .labelReject => "LabelReject"
  | .labelDelete => "LabelDelete"
  | .labelExpire => "LabelExpire"
  | .allowlistCreate => "AllowlistCreate"
  | .allowlistUpdate => "AllowlistUpdate"
  | .allowlistDelete => "AllowlistDelete"

def actionCodec : JsonCodec Action :=
  .ofVariants
    [.read, .write, .copy, .delete, .move, .paste, .policyCreate, .policyUpdate, .policyDelete,
      .passwordChange, .diskRegistryAdd, .diskRegistryRemove, .dragDrop, .cloudUpload, .print,
      .shareLink, .labelCreate, .labelUpdate, .labelConfirm, .labelReject, .labelDelete,
      .labelExpire, .allowlistCreate, .allowlistUpdate, .allowlistDelete]
    actionName
    (by intro variant; cases variant <;> decide) (by decide +kernel)

/-- The variants of `Decision`, two of them renamed. -/
def decisionName : Decision → String
  | .allow => "ALLOW"
  | .deny => "DENY"
  | .allowWithLog => "ALLOW_WITH_LOG"
  | .denyWithAlert => "DENY_WITH_ALERT"

def decisionCodec : JsonCodec Decision :=
  .ofVariants [.allow, .deny, .allowWithLog, .denyWithAlert] decisionName
    (by intro variant; cases variant <;> decide) (by decide +kernel)

/-- The variants of `VolumeClass`. -/
def volumeClassName : VolumeClass → String
  | .localNtfs => "LocalNTFS"
  | .usbRemovable => "USBRemovable"
  | .sdCard => "SDCard"
  | .optical => "Optical"
  | .virtual => "Virtual"
  | .networkShare => "NetworkShare"

def volumeClassCodec : JsonCodec VolumeClass :=
  .ofVariants [.localNtfs, .usbRemovable, .sdCard, .optical, .virtual, .networkShare]
    volumeClassName
    (by intro variant; cases variant <;> decide) (by decide +kernel)

/-- The variants of `BusType`, in `snake_case`. -/
def busTypeName : BusType → String
  | .unknown => "unknown"
  | .sata => "sata"
  | .nvme => "nvme"
  | .usb => "usb"
  | .scsi => "scsi"

/-- The hand-written reader of `BusType`: any other text is the unknown bus. -/
def readBusType (text : String) : Option BusType :=
  some (if text = "sata" then .sata
    else if text = "nvme" then .nvme
    else if text = "usb" then .usb
    else if text = "scsi" then .scsi
    else .unknown)

def busTypeCodec : JsonCodec BusType :=
  .ofText busTypeName readBusType (by intro bus; cases bus <;> rfl)

/-- The variants of `EncryptionStatus`. -/
def encryptionStatusName : EncryptionStatus → String
  | .encrypted => "encrypted"
  | .suspended => "suspended"
  | .unencrypted => "unencrypted"
  | .unknown => "unknown"

def encryptionStatusCodec : JsonCodec EncryptionStatus :=
  .ofVariants [.encrypted, .suspended, .unencrypted, .unknown] encryptionStatusName
    (by intro variant; cases variant <;> decide) (by decide +kernel)

/-- The variants of `EncryptionMethod`. -/
def encryptionMethodName : EncryptionMethod → String
  | .none => "none"
  | .aes128Diffuser => "aes128_diffuser"
  | .aes256Diffuser => "aes256_diffuser"
  | .aes128 => "aes128"
  | .aes256 => "aes256"
  | .hardware => "hardware"
  | .xtsAes128 => "xts_aes128"
  | .xtsAes256 => "xts_aes256"
  | .unknown => "unknown"

def encryptionMethodCodec : JsonCodec EncryptionMethod :=
  .ofVariants
    [.none, .aes128Diffuser, .aes256Diffuser, .aes128, .aes256, .hardware, .xtsAes128, .xtsAes256,
      .unknown]
    encryptionMethodName
    (by intro variant; cases variant <;> decide) (by decide +kernel)

def appTrustTierCodec : JsonCodec AppTrustTier :=
  .ofVariants [.trusted, .untrusted, .unknown] AppTrustTier.text
    (by intro variant; cases variant <;> decide) (by decide +kernel)

/-- `SignatureState`. -/
inductive SignatureState
  | valid
  | invalid
  | notSigned
  | unknown
  deriving DecidableEq

def SignatureState.name : SignatureState → String
  | .valid => "valid"
  | .invalid => "invalid"
  | .notSigned => "not_signed"
  | .unknown => "unknown"

def SignatureState.codec : JsonCodec SignatureState :=
  .ofVariants [.valid, .invalid, .notSigned, .unknown] name
    (by intro variant; cases variant <;> decide) (by decide +kernel)

/-! ## Identities -/

/-- Times and their RFC 3339 texts, as `chrono` writes and reads them. -/
structure TimeText (Time : Type) where
  write : Time → String
  read : String → Option Time
  read_write : ∀ time, read (write time) = some time

/-- `DateTime<Utc>`. -/
def TimeText.codec {Time : Type} (times : TimeText Time) : JsonCodec Time :=
  .ofText times.write times.read times.read_write

/-- `AppIdentity`. -/
structure AppIdentity where
  imagePath : String
  publisher : String
  trustTier : AppTrustTier
  signatureState : SignatureState
  aumid : Option String
  packageFamilyName : Option String
  isUwp : Bool
  deriving DecidableEq

/-- The fields of `AppIdentity`.  Each of them may be missing. -/
def AppIdentity.fields : RecordFields AppIdentity AppIdentity :=
  RecordFields.start AppIdentity.mk
    |>.field "image_path" (.defaulted .ofString "") AppIdentity.imagePath
    |>.field "publisher" (.defaulted .ofString "") AppIdentity.publisher
    |>.field "trust_tier" (.defaulted appTrustTierCodec .unknown) AppIdentity.trustTier
    |>.field "signature_state" (.defaulted SignatureState.codec .unknown)
      AppIdentity.signatureState
    |>.field "aumid" (.nullable .ofString) AppIdentity.aumid
    |>.field "package_family_name" (.nullable .ofString) AppIdentity.packageFamilyName
    |>.field "is_uwp" (.defaulted .ofBool false) AppIdentity.isUwp

def AppIdentity.codec : JsonCodec AppIdentity :=
  AppIdentity.fields.codec (by decide) fun _ => rfl

/-- `DeviceIdentity`. -/
structure DeviceIdentity where
  vid : String
  pid : String
  serial : String
  description : String
  deriving DecidableEq

/-- The fields of `DeviceIdentity`.  Each of them may be missing. -/
def DeviceIdentity.fields : RecordFields DeviceIdentity DeviceIdentity :=
  RecordFields.start DeviceIdentity.mk
    |>.field "vid" (.defaulted .ofString "") DeviceIdentity.vid
    |>.field "pid" (.defaulted .ofString "") DeviceIdentity.pid
    |>.field "serial" (.defaulted .ofString "") DeviceIdentity.serial
    |>.field "description" (.defaulted .ofString "") DeviceIdentity.description

def DeviceIdentity.codec : JsonCodec DeviceIdentity :=
  DeviceIdentity.fields.codec (by decide) fun _ => rfl

/-- `DiskIdentity`. -/
structure DiskIdentity (Time : Type) where
  instanceId : String
  busType : BusType
  model : String
  driveLetter : Option Char
  serial : Option String
  sizeBytes : Option UInt64
  isBootDisk : Bool
  encryptionStatus : Option EncryptionStatus
  encryptionMethod : Option EncryptionMethod
  encryptionCheckedAt : Option Time
  deriving DecidableEq

/-- The fields of `DiskIdentity`.  Each of them may be missing. -/
def DiskIdentity.fields {Time : Type} (times : TimeText Time) :
    RecordFields (DiskIdentity Time) (DiskIdentity Time) :=
  RecordFields.start DiskIdentity.mk
    |>.field "instance_id" (.defaulted .ofString "") DiskIdentity.instanceId
    |>.field "bus_type" (.defaulted busTypeCodec .unknown) DiskIdentity.busType
    |>.field "model" (.defaulted .ofString "") DiskIdentity.model
    |>.field "drive_letter" (.skipped .ofChar) DiskIdentity.driveLetter
    |>.field "serial" (.skipped .ofString) DiskIdentity.serial
    |>.field "size_bytes" (.skipped .ofUInt64) DiskIdentity.sizeBytes
    |>.field "is_boot_disk" (.defaulted .ofBool false) DiskIdentity.isBootDisk
    |>.field "encryption_status" (.skipped encryptionStatusCodec) DiskIdentity.encryptionStatus
    |>.field "encryption_method" (.skipped encryptionMethodCodec) DiskIdentity.encryptionMethod
    |>.field "encryption_checked_at" (.skipped times.codec) DiskIdentity.encryptionCheckedAt

theorem DiskIdentity.nodup_names {Time : Type} (times : TimeText Time) :
    (DiskIdentity.fields times).names.Nodup := by
  simp only [fields, RecordFields.names_field, RecordFields.names_start]
  decide +kernel

def DiskIdentity.codec {Time : Type} (times : TimeText Time) : JsonCodec (DiskIdentity Time) :=
  (DiskIdentity.fields times).codec (nodup_names times) fun _ => rfl

/-! ## Events -/

/-- `AuditEvent`. -/
structure AuditEvent (Time : Type) where
  timestamp : Time
  eventType : EventType
  userSid : String
  userName : String
  resourcePath : String
  classification : Classification
  actionAttempted : Action
  decision : Decision
  policyId : Option String
  policyName : Option String
  agentId : String
  sessionId : UInt32
  deviceTrust : Option String
  networkLocation : Option String
  justification : Option String
  overrideGranted : Bool
  accessContext : AuditAccessContext
  correlationId : Option String
  applicationPath : Option String
  applicationHash : Option String
  resourceOwner : Option String
  sourceApplication : Option AppIdentity
  destinationApplication : Option AppIdentity
  deviceIdentity : Option DeviceIdentity
  sourceOrigin : Option String
  destinationOrigin : Option String
  discoveredDisks : Option (List (DiskIdentity Time))
  blockedDisk : Option (DiskIdentity Time)
  ownerSid : Option String
  ownerUser : Option String
  policyMode : Option String
  wouldHaveDenied : Bool
  volumeClass : Option VolumeClass
  contentSha256 : Option String
  hashTruncated : Option Bool
  hashSkipped : Option Bool
  prevHash : Option String
  chainHash : Option String
  deriving DecidableEq

namespace AuditEvent

variable {Time : Type} (times : TimeText Time)

/-- The fields that the chain hash covers, before the two hash fields. -/
def hashedFields :
    RecordFields (AuditEvent Time) (Option String → Option String → AuditEvent Time) :=
  RecordFields.start AuditEvent.mk
    |>.field "timestamp" (.required times.codec) timestamp
    |>.field "event_type" (.required EventType.codec) eventType
    |>.field "user_sid" (.required .ofString) userSid
    |>.field "user_name" (.required .ofString) userName
    |>.field "resource_path" (.required .ofString) resourcePath
    |>.field "classification" (.required classificationCodec) classification
    |>.field "action_attempted" (.required actionCodec) actionAttempted
    |>.field "decision" (.required decisionCodec) decision
    |>.field "policy_id" (.skipped .ofString) policyId
    |>.field "policy_name" (.skipped .ofString) policyName
    |>.field "agent_id" (.required .ofString) agentId
    |>.field "session_id" (.required .ofUInt32) sessionId
    |>.field "device_trust" (.skipped .ofString) deviceTrust
    |>.field "network_location" (.skipped .ofString) networkLocation
    |>.field "justification" (.skipped .ofString) justification
    |>.field "override_granted" (.defaulted .ofBool false) overrideGranted
    |>.field "access_context" (.defaulted AuditAccessContext.codec .localAccess) accessContext
    |>.field "correlation_id" (.skipped .ofString) correlationId
    |>.field "application_path" (.skipped .ofString) applicationPath
    |>.field "application_hash" (.skipped .ofString) applicationHash
    |>.field "resource_owner" (.skipped .ofString) resourceOwner
    |>.field "source_application" (.nullable AppIdentity.codec) sourceApplication
    |>.field "destination_application" (.nullable AppIdentity.codec) destinationApplication
    |>.field "device_identity" (.skipped DeviceIdentity.codec) deviceIdentity
    |>.field "source_origin" (.skipped .ofString) sourceOrigin
    |>.field "destination_origin" (.skipped .ofString) destinationOrigin
    |>.field "discovered_disks" (.skipped (.ofList (DiskIdentity.codec times))) discoveredDisks
    |>.field "blocked_disk" (.skipped (DiskIdentity.codec times)) blockedDisk
    |>.field "owner_sid" (.skipped .ofString) ownerSid
    |>.field "owner_user" (.skipped .ofString) ownerUser
    |>.field "policy_mode" (.skipped .ofString) policyMode
    |>.field "would_have_denied" (.defaulted .ofBool false) wouldHaveDenied
    |>.field "volume_class" (.skipped volumeClassCodec) volumeClass
    |>.field "content_sha256" (.skipped .ofString) contentSha256
    |>.field "hash_truncated" (.skipped .ofBool) hashTruncated
    |>.field "hash_skipped" (.skipped .ofBool) hashSkipped

/-- The fields of `AuditEvent`. -/
def fields : RecordFields (AuditEvent Time) (AuditEvent Time) :=
  (hashedFields times)
    |>.field "prev_hash" (.skipped .ofString) prevHash
    |>.field "chain_hash" (.skipped .ofString) chainHash

theorem nodup_names : (fields times).names.Nodup := by
  simp only [fields, hashedFields, RecordFields.names_field, RecordFields.names_start]
  decide +kernel

def codec : JsonCodec (AuditEvent Time) :=
  (fields times).codec (nodup_names times) fun _ => rfl

end AuditEvent

end DlpSystem.AuditWire
