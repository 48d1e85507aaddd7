import DlpSystem.Common.CacheLayout

/-!
# ABAC types

The attribute model of policy evaluation: what a request carries, what a policy may
ask about it, and the answer.  Fields that no evaluation reads are left out.
-/

namespace DlpSystem.Abac

export Common (Classification EnforcementMode)

/-- `Decision`. -/
inductive Decision
  | allow
  | deny
  | allowWithLog
  | denyWithAlert
  deriving DecidableEq

/-- `Decision::is_denied`. -/
def Decision.isDenied : Decision → Bool
  | .deny => true
  | .denyWithAlert => true
  | _ => false

/-- `VolumeClass`. -/
inductive VolumeClass
  | localNtfs
  | usbRemovable
  | sdCard
  | optical
  | virtual
  | networkShare
  deriving DecidableEq

/-- `DeviceTrust`. -/
inductive DeviceTrust
  | managed
  | unmanaged
  | compliant
  | unknown
  deriving DecidableEq

/-- `NetworkLocation`. -/
inductive NetworkLocation
  | corporate
  | corporateVpn
  | guest
  | unknown
  deriving DecidableEq

/-- `AccessContext`. -/
inductive AccessContext
  | localAccess
  | smb
  deriving DecidableEq

/-- `DeviceHealthStatus`, in the order of its severity. -/
inductive DeviceHealthStatus
  | healthy
  | degraded
  | offline
  | tampered
  deriving DecidableEq

def DeviceHealthStatus.severity : DeviceHealthStatus → Nat
  | .healthy => 0
  | .degraded => 1
  | .offline => 2
  | .tampered => 3

/-- `AppTrustTier`. -/
inductive AppTrustTier
  | trusted
  | untrusted
  | unknown
  deriving DecidableEq

/-- The text of an `AppTrustTier` in JSON. -/
def AppTrustTier.text : AppTrustTier → String
  | .trusted => "trusted"
  | .untrusted => "untrusted"
  | .unknown => "unknown"

/-- The fields of `AppIdentity` that conditions ask about. -/
structure AppIdentity where
  imagePath : String
  publisher : String
  trustTier : AppTrustTier
  aumid : Option String
  packageFamilyName : Option String
  deriving DecidableEq

/-- `Subject`. -/
structure Subject where
  groups : List String
  deviceTrust : DeviceTrust
  networkLocation : NetworkLocation
  deviceHealth : DeviceHealthStatus
  deriving DecidableEq

/-- `Resource`. -/
structure Resource where
  path : String
  classification : Classification
  deriving DecidableEq

/-- `AbacContext`. -/
structure AbacContext where
  subject : Subject
  resource : Resource
  accessContext : AccessContext
  sourceApplication : Option AppIdentity
  destinationApplication : Option AppIdentity
  sourceOrigin : Option String
  destinationOrigin : Option String
  resourcePath : Option String
  sourceVolumeClass : Option VolumeClass
  destinationVolumeClass : Option VolumeClass
  deriving DecidableEq

/-- `AppField`. -/
inductive AppField
  | publisher
  | imagePath
  | trustTier
  | aumid
  | packageFamilyName
  deriving DecidableEq

/-- `PolicyCondition`; the operator is the text that the policy was written with. -/
inductive PolicyCondition
  | classification (op : String) (value : Classification)
  | memberOf (op : String) (groupSid : String)
  | deviceTrust (op : String) (value : DeviceTrust)
  | networkLocation (op : String) (value : NetworkLocation)
  | deviceHealth (op : String) (value : DeviceHealthStatus)
  | accessContext (op : String) (value : AccessContext)
  | sourceApplication (field : AppField) (op : String) (value : String)
  | destinationApplication (field : AppField) (op : String) (value : String)
  | sourceOrigin (op : String) (value : String)
  | destinationOrigin (op : String) (value : String)
  | sourceVolumeClass (op : String) (value : VolumeClass)
  | destinationVolumeClass (op : String) (value : VolumeClass)
  deriving DecidableEq

/-- `PolicyMode`. -/
inductive PolicyMode
  | all
  | any
  | none
  deriving DecidableEq

/-- `Policy`. -/
structure Policy where
  id : String
  name : String
  conditions : List PolicyCondition
  action : Decision
  enabled : Bool
  mode : PolicyMode
  enforcementMode : EnforcementMode
  deriving DecidableEq

/-- `EvaluateResponse`. -/
structure EvaluateResponse where
  decision : Decision
  matchedPolicyId : Option String
  reason : String
  enforcementMode : Option EnforcementMode
  wouldHaveDenied : Bool
  matchedLabelId : Option String
  deriving DecidableEq

/-- `compute_effective_mode`. -/
def computeEffectiveMode (globalMode policyMode : EnforcementMode) : EnforcementMode :=
  if globalMode ≠ .perPolicy then globalMode else policyMode

/-- `Tier`. -/
inductive Tier
  | T1
  | T2
  | T3
  | T4
  | unclassifiedBlocked
  deriving DecidableEq

/-- `Tier::to_classification`. -/
def Tier.toClassification : Tier → Option Classification
  | .T1 => some .T1
  | .T2 => some .T2
  | .T3 => some .T3
  | .T4 => some .T4
  | .unclassifiedBlocked => none

/-- `Tier::strictness_rank`. -/
def Tier.strictnessRank : Tier → Nat
  | .T1 => 1
  | .T2 => 2
  | .T3 => 3
  | .T4 => 4
  | .unclassifiedBlocked => 5

/-- `Tier::is_stricter_than`. -/
def Tier.isStricterThan (tier other : Tier) : Bool :=
  tier.strictnessRank > other.strictnessRank

/-! ## The volume class of a path -/

/-- `resolve_volume_class_from_path`.  A debug build also asserts that the lookup does not
answer with the default class. -/
def resolveVolumeClassFromPath (path : String) (lookup : Char → Option VolumeClass) :
    Option VolumeClass :=
  if "\\\\?\\Volume\x7b".toList.isPrefixOf path.toList then none
  else if "\\\\".toList.isPrefixOf path.toList then some .networkShare
  else
    match path.toList with
    | letter :: ':' :: _ => if letter.isAlpha then lookup letter.toUpper else none
    | _ => none

end DlpSystem.Abac
