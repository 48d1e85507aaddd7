import DlpSystem.AuditWire.Event
import DlpSystem.Common.Approval
import DlpSystem.Lib.Lines
import DlpSystem.Lib.JsonTree

/-!
# The chain hash of an event that was sent

`compute_chain_hash` over the canonical JSON of an event, which leaves the two hash fields
out.  An event is read back from its JSON as it was, so that the server computes the hash
that the agent has computed.  SHA-256 and the text of a JSON tree are parameters.
-/

namespace DlpSystem.AuditWire

open Lib

/-- `serde_json`: the text of a tree, and the tree of a text. -/
structure SerdeJson where
  toString : Json → String
  fromStr : String → Option Json

/-- `hex::encode`. -/
def hexEncode (bytes : List UInt8) : String :=
  String.ofList (bytes.flatMap fun byte =>
    [Common.hexDigit (byte.toNat / 16), Common.hexDigit (byte.toNat % 16)])

/-- `genesis_hash`. -/
def genesisHash (sha256 : List UInt8 → List UInt8) : String :=
  hexEncode (sha256 (utf8 "DLP-AUDIT-CHAIN-v1-GENESIS"))

section ChainHash

variable {Time : Type} (times : TimeText Time) (serde : SerdeJson)
  (sha256 : List UInt8 → List UInt8)

/-- `canonical_json_for_hash`.  An event is always written as an object. -/
def canonicalJsonForHash (event : AuditEvent Time) : String :=
  let value := sortAscending Prod.fst (Json.sortedFields ((AuditEvent.fields times).write event))
  let map := Json.without ["prev_hash", "chain_hash"] value
  serde.toString (.object (sortAscending Prod.fst map))

/-- `compute_chain_hash`. -/
def computeChainHash (prevHash : String) (event : AuditEvent Time) : String :=
  hexEncode (sha256 (utf8 prevHash ++ utf8 (canonicalJsonForHash times serde event)))

/-- The event with its hashes, after a previous hash. -/
def AuditEvent.chained (event : AuditEvent Time) (prevHash : String) : AuditEvent Time :=
  { event with
    prevHash := some prevHash
    chainHash := some (computeChainHash times serde sha256 prevHash event) }

/-- The event as it arrives: its text, read as a tree and then as an event. -/
def AuditEvent.transported (event : AuditEvent Time) : Option (AuditEvent Time) :=
  (serde.fromStr (serde.toString ((codec times).encode event))).bind (codec times).decode

/-- Step A of the verification: the claimed hash is the one that the server computes. -/
def IntegrityVerified (event : AuditEvent Time) : Prop :=
  ∀ chainHash, event.chainHash = some chainHash →
    computeChainHash times serde sha256 (event.prevHash.getD (genesisHash sha256)) event =
      chainHash

variable {times serde sha256} {event : AuditEvent Time} {prevHash : String}

theorem without_slotFields {names : List String} {name : String} (dropped : name ∈ names)
    (written : Option Json) : Json.without names (RecordFields.slotFields name written) = [] := by
  cases written with
  | none => rfl
  | some tree => simp [Json.without, RecordFields.slotFields, dropped]

/-- The hash fields are written last, and the canonical form drops them. -/
theorem without_write (event : AuditEvent Time) :
    Json.without ["prev_hash", "chain_hash"] ((AuditEvent.fields times).write event) =
      Json.without ["prev_hash", "chain_hash"] ((AuditEvent.hashedFields times).write event) := by
  simp only [AuditEvent.fields, RecordFields.write_field, Json.without_append,
    without_slotFields List.mem_cons_self,
    without_slotFields (List.mem_cons_of_mem _ List.mem_cons_self), List.append_nil]

/-- The other fields do not look at the hashes. -/
theorem hashedFields_write (event : AuditEvent Time) (prevHash chainHash : Option String) :
    (AuditEvent.hashedFields times).write
        { event with
          prevHash := prevHash
          chainHash := chainHash } =
      (AuditEvent.hashedFields times).write event :=
  rfl

/-- The canonical form does not depend on the hash fields. -/
theorem canonicalJsonForHash_hashes (event : AuditEvent Time)
    (prevHash chainHash : Option String) :
    canonicalJsonForHash times serde
        { event with
          prevHash := prevHash
          chainHash := chainHash } =
      canonicalJsonForHash times serde event := by
  simp only [canonicalJsonForHash, Json.without_sortAscending, Json.without_sortedFields,
    without_write, hashedFields_write]

/-- A chained event has the hash of the event. -/
theorem computeChainHash_chained (event : AuditEvent Time) (prevHash : String) :
    computeChainHash times serde sha256 prevHash (event.chained times serde sha256 prevHash) =
      computeChainHash times serde sha256 prevHash event := by
  rw [computeChainHash, AuditEvent.chained, canonicalJsonForHash_hashes]
  rfl

/-- An event whose text is read back as its tree arrives as it was. -/
theorem transported_eq
    (readBack : serde.fromStr (serde.toString ((AuditEvent.codec times).encode event)) =
      some ((AuditEvent.codec times).encode event)) :
    event.transported times serde = some event := by
  rw [AuditEvent.transported, readBack]
  exact (AuditEvent.codec times).decode_encode event

/-- The chain hash survives transport: the event that arrives has the hash that the sender has
computed, and passes step A. -/
theorem chainHash_survives_transport
    (readBack : serde.fromStr (serde.toString
        ((AuditEvent.codec times).encode (event.chained times serde sha256 prevHash))) =
      some ((AuditEvent.codec times).encode (event.chained times serde sha256 prevHash))) :
    ∃ received, (event.chained times serde sha256 prevHash).transported times serde =
        some received ∧
      some (computeChainHash times serde sha256 prevHash received) =
        (event.chained times serde sha256 prevHash).chainHash ∧
      IntegrityVerified times serde sha256 received := by
  refine ⟨event.chained times serde sha256 prevHash, transported_eq readBack, ?_, ?_⟩
  · rw [computeChainHash_chained]
    rfl
  · rintro chainHash ⟨⟩
    exact computeChainHash_chained event prevHash

end ChainHash

/-! ## A discovered disk -/

mutual

/-- The compact text of a tree. -/
def compactText : Json → String
  | .null => "null"
  | .bool value => if value then "true" else "false"
  | .number value => toString value
  | .string text => Common.jsonString text
  | .array items => "[" ++ ",".intercalate (compactItems items) ++ "]"
  | .object fields => "\x7b" ++ ",".intercalate (compactFields fields) ++ "\x7d"

def compactItems : List Json → List String
  | [] => []
  | item :: rest => compactText item :: compactItems rest

def compactFields : List (String × Json) → List String
  | [] => []
  | (name, value) :: rest =>
      (Common.jsonString name ++ ":" ++ compactText value) :: compactFields rest

end

/-- Times that are given by their texts. -/
def textTimes : TimeText String := ⟨id, some, fun _ => rfl⟩

/-- The sentinel of an unresolved application. -/
def agentUnknownApp : AppIdentity where
  imagePath := "AGENT-UNKNOWN"
  publisher := "AGENT-UNKNOWN"
  trustTier := .unknown
  signatureState := .unknown
  aumid := none
  packageFamilyName := none
  isUwp := false

def usbDisk : DiskIdentity String where
  instanceId := "USBSTOR\\DISK&VEN_ACME"
  busType := .usb
  model := "ACME"
  driveLetter := some 'E'
  serial := none
  sizeBytes := some 64000000000
  isBootDisk := false
  encryptionStatus := some .unencrypted
  encryptionMethod := some .none
  encryptionCheckedAt := some "2027-01-01T00:00:00Z"

def discoveryEvent : AuditEvent String where
  timestamp := "2027-01-01T00:00:01Z"
  eventType := .diskDiscovery
  userSid := "S-1-5-18"
  userName := "SYSTEM"
  resourcePath := "\\\\.\\PhysicalDrive1"
  classification := .T1
  actionAttempted := .read
  decision := .allow
  policyId := none
  policyName := none
  agentId := "AGENT-01"
  sessionId := 0
  deviceTrust := none
  networkLocation := none
  justification := none
  overrideGranted := false
  accessContext := .localAccess
  correlationId := none
  applicationPath := none
  applicationHash := none
  resourceOwner := none
  sourceApplication := some agentUnknownApp
  destinationApplication := some agentUnknownApp
  deviceIdentity := none
  sourceOrigin := none
  destinationOrigin := none
  discoveredDisks := some [usbDisk]
  blockedDisk := none
  ownerSid := none
  ownerUser := none
  policyMode := none
  wouldHaveDenied := false
  volumeClass := none
  contentSha256 := none
  hashTruncated := none
  hashSkipped := none
  prevHash := none
  chainHash := none

/-- SHA-256 of the two texts that are hashed here. -/
def discoverySha256 (bytes : List UInt8) : List UInt8 :=
  if bytes = utf8 "DLP-AUDIT-CHAIN-v1-GENESIS" then
    [0xd7, 0x36, 0x18, 0x21, 0xba, 0x2b, 0xd8, 0xc3, 0xa5, 0xc6, 0x29, 0x04,
      0xd1, 0xf2, 0x17, 0x5f, 0x28, 0x3e, 0xc0, 0x37, 0x8c, 0x23, 0x8a, 0xd1,
      0x8c, 0x10, 0x4a, 0x7b, 0xd1, 0x5f, 0x72, 0xd5]
  else
    [0xf6, 0xd1, 0x92, 0xc8, 0xa8, 0x70, 0xe0, 0x9d, 0x4d, 0x2a, 0xaf, 0xc2,
      0x4c, 0xd0, 0xb4, 0x5e, 0xf0, 0x1f, 0xb5, 0x68, 0x02, 0xc5, 0xe3, 0x8d,
      0x16, 0x97, 0xfb, 0x2f, 0xab, 0x90, 0xea, 0x39]

/-- The tree of the event after the genesis hash. -/
def discoveryTree : Json :=
  (AuditEvent.codec textTimes).encode
    { discoveryEvent with
      prevHash := some "d7361821ba2bd8c3a5c62904d1f2175f283ec0378c238ad18c104a7bd15f72d5"
      chainHash := some "f6d192c8a870e09d4d2aafc24cd0b45ef01fb56802c5e38d1697fb2fab90ea39" }

/-- The compact writer, and a reader of the one text that is read here. -/
def discoverySerde : SerdeJson where
  toString := compactText
  fromStr text := if text = compactText discoveryTree then some discoveryTree else none

theorem discoveryEvent_survives_transport :
    ∃ received, (discoveryEvent.chained textTimes discoverySerde discoverySha256
        (genesisHash discoverySha256)).transported textTimes discoverySerde = some received ∧
      some (computeChainHash textTimes discoverySerde discoverySha256
          (genesisHash discoverySha256) received) =
        (discoveryEvent.chained textTimes discoverySerde discoverySha256
          (genesisHash discoverySha256)).chainHash ∧
      IntegrityVerified textTimes discoverySerde discoverySha256 received := by
  have genesis : genesisHash discoverySha256 =
      "d7361821ba2bd8c3a5c62904d1f2175f283ec0378c238ad18c104a7bd15f72d5" := by decide +kernel
  have hash : computeChainHash textTimes discoverySerde discoverySha256
      (genesisHash discoverySha256) discoveryEvent =
        "f6d192c8a870e09d4d2aafc24cd0b45ef01fb56802c5e38d1697fb2fab90ea39" := by
    decide +kernel
  have tree : (AuditEvent.codec textTimes).encode (discoveryEvent.chained textTimes discoverySerde
      discoverySha256 (genesisHash discoverySha256)) = discoveryTree := by
    rw [AuditEvent.chained, hash, genesis]
    rfl
  apply chainHash_survives_transport
  rw [tree]
  simp only [discoverySerde, if_true]

end DlpSystem.AuditWire
