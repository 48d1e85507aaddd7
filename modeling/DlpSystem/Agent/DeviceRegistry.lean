import DlpSystem.Lib.JsonTree
import Mathlib.Logic.Function.Basic

/-!
# The device registry of the agent

`DeviceRegistryCache` maps a device and its owner to a trust tier.  A refresh fetches the
registry from the server and replaces the map, and keeps it if the answer cannot be read.
-/

namespace DlpSystem.Agent

open Lib (Json)

/-- `UsbTrustTier`. -/
inductive UsbTrustTier
  | blocked
  | readOnly
  | fullAccess
  deriving DecidableEq

/-- The tiers from the most to the least restrictive. -/
def UsbTrustTier.rank : UsbTrustTier → Nat
  | .blocked => 0
  | .readOnly => 1
  | .fullAccess => 2

/-- The tier of a text, if it is known. -/
def UsbTrustTier.ofText (text : String) : Option UsbTrustTier :=
  match text with
  | "blocked" => some .blocked
  | "read_only" => some .readOnly
  | "full_access" => some .fullAccess
  | _ => none

/-- `DeviceRegistryEntry`. -/
structure DeviceRegistryEntry where
  vid : String
  pid : String
  serial : String
  trustTier : String
  ownerSid : Option String
  ownerUser : Option String
  deriving DecidableEq

/-- Reads an object as an entry.  The owner may be missing. -/
def DeviceRegistryEntry.ofJson : Json → Option DeviceRegistryEntry
  | .object fields => do
      return {
        vid := ← Json.stringField "vid" fields
        pid := ← Json.stringField "pid" fields
        serial := ← Json.stringField "serial" fields
        trustTier := ← Json.stringField "trust_tier" fields
        ownerSid := ← Json.optionalStringField "owner_sid" fields
        ownerUser := ← Json.optionalStringField "owner_user" fields }
  | _ => none

/-- Reads the answer to `GET /admin/device-registry`. -/
def readDeviceRegistry : Json → Option (List DeviceRegistryEntry)
  | .array items => items.mapM DeviceRegistryEntry.ofJson
  | _ => none

/-- `str::to_ascii_lowercase`. -/
def toAsciiLowercase (text : String) : String :=
  String.ofList (text.toList.map Char.toLower)

/-- `DeviceCacheKey`. -/
abbrev DeviceCacheKey := String × String × String × Option String

/-- The key of a device and its owner, where an empty owner is none. -/
def deviceCacheKey (vid pid serial : String) (ownerSid : Option String) : DeviceCacheKey :=
  (toAsciiLowercase vid, toAsciiLowercase pid, toAsciiLowercase serial,
    ownerSid.filter fun sid => sid ≠ "")

/-- The entry of the new map; an unknown tier is skipped. -/
def DeviceRegistryEntry.cacheEntry (entry : DeviceRegistryEntry) :
    Option (DeviceCacheKey × UsbTrustTier) :=
  (UsbTrustTier.ofText entry.trustTier).map fun tier =>
    (deviceCacheKey entry.vid entry.pid entry.serial entry.ownerSid, tier)

/-- `DeviceRegistryCache`. -/
abbrev DeviceRegistryCache := DeviceCacheKey → Option UsbTrustTier

namespace DeviceRegistryCache

/-- The map of a list of entries, of which the last one under a key counts. -/
def ofEntries (entries : List DeviceRegistryEntry) : DeviceRegistryCache :=
  (entries.filterMap DeviceRegistryEntry.cacheEntry).foldl
    (fun cache entry => Function.update cache entry.1 (some entry.2)) fun _ => none

/-- `refresh_with_sid`, on the body of a successful answer.  The SID is in the query of
the request, which the server does not read. -/
def refreshWithSid (cache : DeviceRegistryCache) (body : Option Json) : DeviceRegistryCache :=
  match body.bind readDeviceRegistry with
  | some entries => ofEntries entries
  | none => cache

/-- `TrustTierResult`, without the user name, which is never filled in. -/
structure TrustTierResult where
  tier : UsbTrustTier
  ownerSid : Option String
  deriving DecidableEq

/-- `trust_tier_for_with_sid`. -/
def trustTierForWithSid (cache : DeviceRegistryCache) (vid pid serial : String)
    (ownerSid : Option String) : TrustTierResult :=
  let key := fun owner =>
    (toAsciiLowercase vid, toAsciiLowercase pid, toAsciiLowercase serial, owner)
  let perUser := ownerSid.bind fun sid => cache (key (some sid))
  match perUser, cache (key none) with
  | some userTier, some machineTier =>
      if userTier.rank ≤ machineTier.rank then ⟨userTier, ownerSid⟩ else ⟨machineTier, none⟩
  | some userTier, none => ⟨userTier, ownerSid⟩
  | none, some machineTier => ⟨machineTier, none⟩
  | none, none => ⟨.blocked, none⟩

/-- `has_device_with_sid`. -/
def hasDeviceWithSid (cache : DeviceRegistryCache) (vid pid serial : String)
    (ownerSid : Option String) : Bool :=
  (cache (toAsciiLowercase vid, toAsciiLowercase pid, toAsciiLowercase serial, ownerSid)).isSome

/-- `has_device`. -/
def hasDevice (cache : DeviceRegistryCache) (vid pid serial : String) : Bool :=
  cache.hasDeviceWithSid vid pid serial none

end DeviceRegistryCache

end DlpSystem.Agent
