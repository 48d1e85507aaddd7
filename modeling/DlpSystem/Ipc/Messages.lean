import DlpSystem.Agent.BypassCorrelator
import DlpSystem.Lib.Codec

/-!
# The wire format

What `bincode::serialize` and `bincode::deserialize` do in their default
configuration: fixed-width little-endian integers, `u32` variant numbers, `u64`
lengths, one byte for a `bool` and for the tag of an `Option`, trailing bytes
ignored.  A `usize` travels as a `u64`, an `f64` as its bit pattern.
-/

namespace DlpSystem.Ipc

open Lib

namespace Bincode

def u8 : Codec UInt8 := Codec.byte

def u32 : Codec UInt32 :=
  Codec.number 4 UInt32.toNat UInt32.ofNat (by
    intro value
    have bound := value.toNat_lt
    rw [Nat.mod_eq_of_lt (by omega), UInt32.ofNat_toNat])

def u64 : Codec UInt64 :=
  Codec.number 8 UInt64.toNat UInt64.ofNat (by
    intro value
    have bound := value.toNat_lt
    rw [Nat.mod_eq_of_lt (by omega), UInt64.ofNat_toNat])

/-- An enumeration without fields, by its variant numbers. -/
def enumeration {α : Type} (ofTag : UInt32 → Option α) (toTag : α → UInt32)
    (round : ∀ a, ofTag (toTag a) = some a) : Codec α :=
  u32.convert ofTag (fun value => some (toTag value)) (by
    intro value tag picked
    cases Option.some.inj picked
    exact round value)

def bool : Codec Bool :=
  u8.convert (fun tag => if tag = 0 then some false else if tag = 1 then some true else none)
    (fun value => some (if value then 1 else 0)) (by
    intro value tag picked
    cases Option.some.inj picked
    cases value <;> rfl)

/-- `Option<T>`. -/
def option {α : Type} (codec : Codec α) : Codec (Option α) :=
  Codec.choose u8 (fun value => if value.isSome then 1 else 0) fun tag =>
    if tag = 0 then Codec.constant none Option.isNone (by simp)
    else if tag = 1 then
      codec.convert (fun value => some (some value)) id (by
        intro value inner picked
        rw [← picked]
        rfl)
    else Codec.never

/-- `Vec<T>`: a length, then the elements. -/
def vec {α : Type} (codec : Codec α) : Codec (List α) :=
  Codec.choose u64 (fun values => UInt64.ofNat values.length) fun count =>
    codec.times count.toNat

/-- `String`: the bytes must be UTF-8. -/
def text : Codec String :=
  (vec u8).convert (fun bytes => String.fromUTF8? ⟨bytes.toArray⟩)
    (fun content => some content.toByteArray.data.toList) (by
    intro content bytes picked
    cases Option.some.inj picked
    rw [Array.toArray_toList]
    exact dif_pos content.isValidUTF8)

/-- `char`: its UTF-8 bytes, without a length. -/
def char : Codec Char where
  write value := some (String.utf8EncodeChar value)
  read input :=
    (input.toByteArray.utf8DecodeChar? 0).map fun value => (value, input.drop value.utf8Size)
  least := 0
  read_write := by
    intro value bytes rest written
    cases Option.some.inj written
    rw [List.toByteArray_append, ByteArray.utf8DecodeChar?_utf8EncodeChar_append, Option.map_some,
      List.drop_left' (String.length_utf8EncodeChar value)]
  least_le := by
    intro input value rest result
    rcases Option.map_eq_some_iff.mp result with ⟨decoded, _, same⟩
    cases same
    rw [List.length_drop]
    omega

end Bincode

/-! ## Messages between hook DLL and agent

The types of `dlp-common::hook_ipc` with their wire format, field by field in
declaration order.  A codec is its own round-trip proof.
-/

open Common Hook Agent

/-! ### Enumerations -/

def hookOpCodec : Codec HookOp :=
  Bincode.enumeration
    (fun tag => if tag = 0 then some .read else if tag = 1 then some .write else none)
    (fun
      | .read => 0
      | .write => 1)
    (by rintro (_ | _) <;> rfl)

def classificationCodec : Codec Classification :=
  Bincode.enumeration
    (fun tag =>
      if tag = 0 then some .T1
      else if tag = 1 then some .T2
      else if tag = 2 then some .T3
      else if tag = 3 then some .T4
      else none)
    (fun
      | .T1 => 0
      | .T2 => 1
      | .T3 => 2
      | .T4 => 3)
    (by rintro (_ | _ | _ | _) <;> rfl)

/-- The variant number of a volume class. -/
def volumeClassTag : VolumeClass → UInt32
  | .localNtfs => 0
  | .usbRemovable => 1
  | .sdCard => 2
  | .optical => 3
  | .virtual => 4
  | .networkShare => 5

def volumeClassCodec : Codec VolumeClass :=
  Bincode.enumeration
    (fun tag =>
      if tag = 0 then some .localNtfs
      else if tag = 1 then some .usbRemovable
      else if tag = 2 then some .sdCard
      else if tag = 3 then some .optical
      else if tag = 4 then some .virtual
      else if tag = 5 then some .networkShare
      else none)
    volumeClassTag
    (by rintro (_ | _ | _ | _ | _ | _) <;> rfl)

def decisionCodec : Codec Decision :=
  Bincode.enumeration
    (fun tag =>
      if tag = 0 then some .allow
      else if tag = 1 then some .deny
      else if tag = 2 then some .allowWithLog
      else if tag = 3 then some .denyWithAlert
      else none)
    (fun
      | .allow => 0
      | .deny => 1
      | .allowWithLog => 2
      | .denyWithAlert => 3)
    (by rintro (_ | _ | _ | _) <;> rfl)

def bypassReasonCodec : Codec BypassReason :=
  Bincode.enumeration
    (fun tag =>
      if tag = 0 then some .hookOverwritten
      else if tag = 1 then some .patchRaced
      else if tag = 2 then some .edrDetected
      else if tag = 3 then some .noHookJournal
      else if tag = 4 then some .opMismatch
      else none)
    (fun
      | .hookOverwritten => 0
      | .patchRaced => 1
      | .edrDetected => 2
      | .noHookJournal => 3
      | .opMismatch => 4)
    (by rintro (_ | _ | _ | _ | _) <;> rfl)

/-- `ClassificationSource`. -/
inductive ClassificationSource
  | cacheHit
  | cacheMiss
  | pipe
  deriving DecidableEq, Repr

def classificationSourceCodec : Codec ClassificationSource :=
  Bincode.enumeration
    (fun tag =>
      if tag = 0 then some .cacheHit
      else if tag = 1 then some .cacheMiss
      else if tag = 2 then some .pipe
      else none)
    (fun
      | .cacheHit => 0
      | .cacheMiss => 1
      | .pipe => 2)
    (by rintro (_ | _ | _) <;> rfl)

/-- `UnhookReason`. -/
inductive UnhookReason
  | agentShutdown
  | watchdogTimeout
  deriving DecidableEq, Repr

def unhookReasonCodec : Codec UnhookReason :=
  Bincode.enumeration
    (fun tag => if tag = 0 then some .agentShutdown else if tag = 1 then some .watchdogTimeout else none)
    (fun
      | .agentShutdown => 0
      | .watchdogTimeout => 1)
    (by rintro (_ | _) <;> rfl)

/-! ### Requests and responses -/

/-- `HookRequest`. -/
structure HookRequest where
  path : String
  action : String
  cacheVersion : UInt64
  protocolVersion : UInt8
  op : HookOp
  sourceVolumeClass : Option VolumeClass
  destinationVolumeClass : Option VolumeClass
  pid : UInt32
  handleValue : UInt64
  deriving DecidableEq

/-- The fields of a `HookRequest` after the two strings. -/
def requestTailCodec :
    Codec (UInt64 × UInt8 × HookOp × Option VolumeClass × Option VolumeClass × UInt32 × UInt64) :=
  Bincode.u64.seq <| Bincode.u8.seq <| hookOpCodec.seq <|
    (Bincode.option volumeClassCodec).seq <| (Bincode.option volumeClassCodec).seq <|
    Bincode.u32.seq Bincode.u64

def hookRequestCodec : Codec HookRequest :=
  (Bincode.text.seq <| Bincode.text.seq requestTailCodec).imap
    (fun (path, action, cacheVersion, protocolVersion, op, source, destination, pid, handle) =>
      ⟨path, action, cacheVersion, protocolVersion, op, source, destination, pid, handle⟩)
    (fun request =>
      (request.path, request.action, request.cacheVersion, request.protocolVersion, request.op,
        request.sourceVolumeClass, request.destinationVolumeClass, request.pid,
        request.handleValue))
    (fun _ => rfl)

/-- `PathBuf`, by the bytes of its `OsString`. -/
structure PathBuf where
  bytes : List UInt8
  deriving DecidableEq

/-- A path is written as text and refused when it is not Unicode. -/
def pathBufCodec : Codec PathBuf :=
  Bincode.text.convert (fun content => some ⟨content.toByteArray.data.toList⟩)
    (fun path => String.fromUTF8? ⟨path.bytes.toArray⟩) (by
    rintro ⟨bytes⟩ content picked
    unfold String.fromUTF8? at picked
    split at picked
    · cases Option.some.inj picked
      rfl
    · exact absurd picked (by simp))

/-- `CacheHint`. -/
structure CacheHint where
  path : PathBuf
  tier : Classification
  ttlSecs : UInt32
  deriving DecidableEq

def cacheHintCodec : Codec CacheHint :=
  (pathBufCodec.seq <| classificationCodec.seq Bincode.u32).imap
    (fun (path, tier, ttlSecs) => ⟨path, tier, ttlSecs⟩)
    (fun hint => (hint.path, hint.tier, hint.ttlSecs)) (fun _ => rfl)

/-- `HookResponse` as it travels. -/
structure HookResponseFrame where
  decision : Decision
  reason : String
  cacheHint : Option CacheHint
  cacheVersion : UInt64
  approvalOverride : Option Bool
  deriving DecidableEq

def hookResponseCodec : Codec HookResponseFrame :=
  (decisionCodec.seq <| Bincode.text.seq <| (Bincode.option cacheHintCodec).seq <|
    Bincode.u64.seq (Bincode.option Bincode.bool)).imap
    (fun (decision, reason, cacheHint, cacheVersion, approvalOverride) =>
      ⟨decision, reason, cacheHint, cacheVersion, approvalOverride⟩)
    (fun response =>
      (response.decision, response.reason, response.cacheHint, response.cacheVersion,
        response.approvalOverride))
    (fun _ => rfl)

/-- `VolumeClassQuery`. -/
structure VolumeClassQuery where
  driveLetter : Char
  deriving DecidableEq

def volumeClassQueryCodec : Codec VolumeClassQuery :=
  Bincode.char.imap (fun letter => ⟨letter⟩) (fun query => query.driveLetter) (fun _ => rfl)

/-- `VolumeClassResponse`. -/
structure VolumeClassResponse where
  volumeClass : Option VolumeClass
  deriving DecidableEq

def volumeClassResponseCodec : Codec VolumeClassResponse :=
  (Bincode.option volumeClassCodec).imap (fun volumeClass => ⟨volumeClass⟩)
    (fun response => response.volumeClass) (fun _ => rfl)

/-- `OverrideRequest`. -/
structure OverrideRequest where
  requesterSid : String
  pid : UInt32
  dataObjectId : String
  action : String
  classification : String
  destinationScope : Option String
  justification : String
  resourcePath : String
  deriving DecidableEq

def overrideRequestCodec : Codec OverrideRequest :=
  (Bincode.text.seq <| Bincode.u32.seq <| Bincode.text.seq <| Bincode.text.seq <|
    Bincode.text.seq <| (Bincode.option Bincode.text).seq <| Bincode.text.seq Bincode.text).imap
    (fun (requesterSid, pid, dataObjectId, action, classification, destinationScope,
        justification, resourcePath) =>
      ⟨requesterSid, pid, dataObjectId, action, classification, destinationScope, justification,
        resourcePath⟩)
    (fun request =>
      (request.requesterSid, request.pid, request.dataObjectId, request.action,
        request.classification, request.destinationScope, request.justification,
        request.resourcePath))
    (fun _ => rfl)

/-! ### Diagnostics and health -/

/-- `PullDiagnosticsRequest`. -/
structure PullDiagnosticsRequest where
  maxEntries : UInt64
  deriving DecidableEq

def pullDiagnosticsCodec : Codec PullDiagnosticsRequest :=
  Bincode.u64.imap (fun maxEntries => ⟨maxEntries⟩) (fun request => request.maxEntries)
    (fun _ => rfl)

/-- `DiagnosticSnapshot`. -/
structure DiagnosticSnapshot where
  hookFunction : String
  classificationSource : ClassificationSource
  classificationAgeMs : UInt64
  abacResource : String
  abacAction : String
  abacEnvironment : String
  matchedPolicyId : Option String
  enforcementMode : Option String
  decisionLatencyUs : UInt64
  timestampQpc : UInt64
  timestampSecs : UInt64
  userSid : String
  deriving DecidableEq

def diagnosticSnapshotCodec : Codec DiagnosticSnapshot :=
  (Bincode.text.seq <| classificationSourceCodec.seq <| Bincode.u64.seq <| Bincode.text.seq <|
    Bincode.text.seq <| Bincode.text.seq <| (Bincode.option Bincode.text).seq <|
    (Bincode.option Bincode.text).seq <| Bincode.u64.seq <| Bincode.u64.seq <|
    Bincode.u64.seq Bincode.text).imap
    (fun (hookFunction, source, age, resource, action, environment, policy, mode, latency, qpc,
        secs, userSid) =>
      ⟨hookFunction, source, age, resource, action, environment, policy, mode, latency, qpc, secs,
        userSid⟩)
    (fun snapshot =>
      (snapshot.hookFunction, snapshot.classificationSource, snapshot.classificationAgeMs,
        snapshot.abacResource, snapshot.abacAction, snapshot.abacEnvironment,
        snapshot.matchedPolicyId, snapshot.enforcementMode, snapshot.decisionLatencyUs,
        snapshot.timestampQpc, snapshot.timestampSecs, snapshot.userSid))
    (fun _ => rfl)

/-- `HookHealthSnapshot`; the hit rate is the bit pattern of the `f64`. -/
structure HookHealthSnapshot where
  injectedPids : UInt64
  patchedModules : UInt64
  pipeRoundTrips60s : UInt64
  cacheHitRate60s : UInt64
  currentFailState : UInt8
  timestampSecs : UInt64
  deriving DecidableEq

def hookHealthCodec : Codec HookHealthSnapshot :=
  (Bincode.u64.seq <| Bincode.u64.seq <| Bincode.u64.seq <| Bincode.u64.seq <|
    Bincode.u8.seq Bincode.u64).imap
    (fun (injected, patched, roundTrips, hitRate, failState, secs) =>
      ⟨injected, patched, roundTrips, hitRate, failState, secs⟩)
    (fun snapshot =>
      (snapshot.injectedPids, snapshot.patchedModules, snapshot.pipeRoundTrips60s,
        snapshot.cacheHitRate60s, snapshot.currentFailState, snapshot.timestampSecs))
    (fun _ => rfl)

/-! ### Alerts and evidence -/

/-- `BypassAlert` as it travels. -/
structure BypassAlertFrame where
  reason : BypassReason
  stubName : String
  pid : UInt32
  timestampSecs : UInt64
  version : UInt32
  agentId : String
  imagePath : String
  imageSha256 : Option String
  filePath : String
  operation : String
  fileObject : UInt64
  qpcTimestamp : UInt64
  severity : String
  correlationReason : String
  deriving DecidableEq

def bypassAlertCodec : Codec BypassAlertFrame :=
  (bypassReasonCodec.seq <| Bincode.text.seq <| Bincode.u32.seq <| Bincode.u64.seq <|
    Bincode.u32.seq <| Bincode.text.seq <| Bincode.text.seq <| (Bincode.option Bincode.text).seq <|
    Bincode.text.seq <| Bincode.text.seq <| Bincode.u64.seq <| Bincode.u64.seq <|
    Bincode.text.seq Bincode.text).imap
    (fun (reason, stubName, pid, secs, version, agentId, imagePath, imageSha256, filePath,
        operation, fileObject, qpc, severity, correlationReason) =>
      ⟨reason, stubName, pid, secs, version, agentId, imagePath, imageSha256, filePath, operation,
        fileObject, qpc, severity, correlationReason⟩)
    (fun alert =>
      (alert.reason, alert.stubName, alert.pid, alert.timestampSecs, alert.version, alert.agentId,
        alert.imagePath, alert.imageSha256, alert.filePath, alert.operation, alert.fileObject,
        alert.qpcTimestamp, alert.severity, alert.correlationReason))
    (fun _ => rfl)

/-- `JournalDegradedAlert`. -/
structure JournalDegradedAlert where
  fileObject : UInt64
  op : UInt8
  error : String
  deriving DecidableEq

def journalDegradedCodec : Codec JournalDegradedAlert :=
  (Bincode.u64.seq <| Bincode.u8.seq Bincode.text).imap
    (fun (fileObject, op, error) => ⟨fileObject, op, error⟩)
    (fun alert => (alert.fileObject, alert.op, alert.error)) (fun _ => rfl)

/-- `HashEvidenceFrame`. -/
structure HashEvidenceFrame where
  pid : UInt32
  handleValue : UInt64
  contentSha256 : Option String
  hashTruncated : Bool
  hashSkipped : Bool
  timestampSecs : UInt64
  deriving DecidableEq

def hashEvidenceCodec : Codec HashEvidenceFrame :=
  (Bincode.u32.seq <| Bincode.u64.seq <| (Bincode.option Bincode.text).seq <| Bincode.bool.seq <|
    Bincode.bool.seq Bincode.u64).imap
    (fun (pid, handle, hash, truncated, skipped, secs) =>
      ⟨pid, handle, hash, truncated, skipped, secs⟩)
    (fun frame =>
      (frame.pid, frame.handleValue, frame.contentSha256, frame.hashTruncated, frame.hashSkipped,
        frame.timestampSecs))
    (fun _ => rfl)

/-! ### Control -/

/-- `UnhookCommand`. -/
structure UnhookCommand where
  reason : UnhookReason
  timestampSecs : UInt64
  deriving DecidableEq

def unhookCommandCodec : Codec UnhookCommand :=
  (unhookReasonCodec.seq Bincode.u64).imap (fun (reason, secs) => ⟨reason, secs⟩)
    (fun command => (command.reason, command.timestampSecs)) (fun _ => rfl)

/-- `UnhookAck`. -/
structure UnhookAck where
  pid : UInt32
  creationTime : UInt64
  success : Bool
  error : Option String
  deriving DecidableEq

def unhookAckCodec : Codec UnhookAck :=
  (Bincode.u32.seq <| Bincode.u64.seq <| Bincode.bool.seq (Bincode.option Bincode.text)).imap
    (fun (pid, creationTime, success, error) => ⟨pid, creationTime, success, error⟩)
    (fun ack => (ack.pid, ack.creationTime, ack.success, ack.error)) (fun _ => rfl)

/-- `PollControl`. -/
structure PollControl where
  pid : UInt32
  creationTime : UInt64
  deriving DecidableEq

def pollControlCodec : Codec PollControl :=
  (Bincode.u32.seq Bincode.u64).imap (fun (pid, creationTime) => ⟨pid, creationTime⟩)
    (fun poll => (poll.pid, poll.creationTime)) (fun _ => rfl)

/-! ### Envelope -/

/-- `IpcPayloadV1`. -/
inductive IpcPayloadV1
  | request (request : HookRequest)
  | response (response : HookResponseFrame)
  | volumeClassQuery (query : VolumeClassQuery)
  | volumeClassResponse (response : VolumeClassResponse)
  | requestOverride (request : OverrideRequest)
  | pullDiagnostics (request : PullDiagnosticsRequest)
  | diagnosticsResponse (snapshots : List DiagnosticSnapshot)
  | pullHealth
  | healthResponse (snapshot : HookHealthSnapshot)
  | bypassAlert (alert : BypassAlertFrame)
  | journalDegraded (alert : JournalDegradedAlert)
  | hashEvidence (frame : HashEvidenceFrame)
  | unhookCommand (command : UnhookCommand)
  | unhookAck (ack : UnhookAck)
  | pollControl (poll : PollControl)
  | controlResponse (command : Option UnhookCommand)
  deriving DecidableEq

/-- `IpcEnvelope`: `V1` of a message with this payload. -/
inductive IpcEnvelope
  | v1 (payload : IpcPayloadV1)
  deriving DecidableEq

/-- The variant number of a payload. -/
def payloadTag : IpcPayloadV1 → UInt32
  | .request _ => 0
  | .response _ => 1
  | .volumeClassQuery _ => 2
  | .volumeClassResponse _ => 3
  | .requestOverride _ => 4
  | .pullDiagnostics _ => 5
  | .diagnosticsResponse _ => 6
  | .pullHealth => 7
  | .healthResponse _ => 8
  | .bypassAlert _ => 9
  | .journalDegraded _ => 10
  | .hashEvidence _ => 11
  | .unhookCommand _ => 12
  | .unhookAck _ => 13
  | .pollControl _ => 14
  | .controlResponse _ => 15

/-- One variant of the payload: the content, and the match that takes it out. -/
def payloadVariant {β : Type} (codec : Codec β) (build : β → IpcPayloadV1)
    (content : IpcPayloadV1 → Option β)
    (round : ∀ {payload part}, content payload = some part → payload = build part) :
    Codec IpcPayloadV1 :=
  codec.convert (fun part => some (build part)) content (by
    intro payload part picked
    rw [round picked])

/-- The content behind a variant number. -/
def payloadBody (tag : UInt32) : Codec IpcPayloadV1 :=
  if tag = 0 then
    payloadVariant hookRequestCodec .request
      (fun
        | .request part => some part
        | _ => none)
      (by
        rintro payload part picked
        cases payload <;> simp_all)
  else if tag = 1 then
    payloadVariant hookResponseCodec .response
      (fun
        | .response part => some part
        | _ => none)
      (by
        rintro payload part picked
        cases payload <;> simp_all)
  else if tag = 2 then
    payloadVariant volumeClassQueryCodec .volumeClassQuery
      (fun
        | .volumeClassQuery part => some part
        | _ => none)
      (by
        rintro payload part picked
        cases payload <;> simp_all)
  else if tag = 3 then
    payloadVariant volumeClassResponseCodec .volumeClassResponse
      (fun
        | .volumeClassResponse part => some part
        | _ => none)
      (by
        rintro payload part picked
        cases payload <;> simp_all)
  else if tag = 4 then
    payloadVariant overrideRequestCodec .requestOverride
      (fun
        | .requestOverride part => some part
        | _ => none)
      (by
        rintro payload part picked
        cases payload <;> simp_all)
  else if tag = 5 then
    payloadVariant pullDiagnosticsCodec .pullDiagnostics
      (fun
        | .pullDiagnostics part => some part
        | _ => none)
      (by
        rintro payload part picked
        cases payload <;> simp_all)
  else if tag = 6 then
    payloadVariant (Bincode.vec diagnosticSnapshotCodec) .diagnosticsResponse
      (fun
        | .diagnosticsResponse part => some part
        | _ => none)
      (by
        rintro payload part picked
        cases payload <;> simp_all)
  else if tag = 7 then
    Codec.constant .pullHealth (fun payload => payload == .pullHealth) (by simp)
  else if tag = 8 then
    payloadVariant hookHealthCodec .healthResponse
      (fun
        | .healthResponse part => some part
        | _ => none)
      (by
        rintro payload part picked
        cases payload <;> simp_all)
  else if tag = 9 then
    payloadVariant bypassAlertCodec .bypassAlert
      (fun
        | .bypassAlert part => some part
        | _ => none)
      (by
        rintro payload part picked
        cases payload <;> simp_all)
  else if tag = 10 then
    payloadVariant journalDegradedCodec .journalDegraded
      (fun
        | .journalDegraded part => some part
        | _ => none)
      (by
        rintro payload part picked
        cases payload <;> simp_all)
  else if tag = 11 then
    payloadVariant hashEvidenceCodec .hashEvidence
      (fun
        | .hashEvidence part => some part
        | _ => none)
      (by
        rintro payload part picked
        cases payload <;> simp_all)
  else if tag = 12 then
    payloadVariant unhookCommandCodec .unhookCommand
      (fun
        | .unhookCommand part => some part
        | _ => none)
      (by
        rintro payload part picked
        cases payload <;> simp_all)
  else if tag = 13 then
    payloadVariant unhookAckCodec .unhookAck
      (fun
        | .unhookAck part => some part
        | _ => none)
      (by
        rintro payload part picked
        cases payload <;> simp_all)
  else if tag = 14 then
    payloadVariant pollControlCodec .pollControl
      (fun
        | .pollControl part => some part
        | _ => none)
      (by
        rintro payload part picked
        cases payload <;> simp_all)
  else if tag = 15 then
    payloadVariant (Bincode.option unhookCommandCodec) .controlResponse
      (fun
        | .controlResponse part => some part
        | _ => none)
      (by
        rintro payload part picked
        cases payload <;> simp_all)
  else Codec.never

def payloadCodec : Codec IpcPayloadV1 :=
  Codec.choose Bincode.u32 payloadTag payloadBody

def envelopeCodec : Codec IpcEnvelope :=
  Codec.choose Bincode.u32 (fun _ => 0) fun tag =>
    if tag = 0 then
      payloadCodec.imap (fun payload => .v1 payload) (fun | .v1 payload => payload) (fun _ => rfl)
    else Codec.never

end DlpSystem.Ipc
