import DlpSystem.Agent.DriveEnforcers
import DlpSystem.Lib.FilledMap

/-!
# Registrations of a device for one user

The tier of a device is looked up under the user and machine-wide, and the block decision of
`UsbEnforcer` machine-wide only.  A device that is registered for its user alone has a tier
and is denied all the same.
-/

namespace DlpSystem.Devices

open Agent

/-- The key of a device and an owner, as the lookups write it. -/
def deviceKey (device : DeviceIdentity) (owner : Option String) : DeviceCacheKey :=
  (toAsciiLowercase device.vid, toAsciiLowercase device.pid, toAsciiLowercase device.serial,
    owner)

/-- An entry of the list, of a known tier, registers a device for an owner. -/
def Registers (entries : List DeviceRegistryEntry) (device : DeviceIdentity)
    (owner : Option String) : Prop :=
  ∃ entry ∈ entries, ∃ tier, entry.cacheEntry = some (deviceKey device owner, tier)

/-! ## What the registry holds after a refresh -/

theorem ofEntries_isSome_iff (entries : List DeviceRegistryEntry) (device : DeviceIdentity)
    (owner : Option String) :
    (DeviceRegistryCache.ofEntries entries (deviceKey device owner)).isSome = true ↔
      Registers entries device owner := by
  rw [DeviceRegistryCache.ofEntries, Lib.foldl_update_isSome_iff]
  constructor
  · rintro ⟨tier, member⟩
    obtain ⟨entry, listed, filed⟩ := List.mem_filterMap.mp member
    exact ⟨entry, listed, tier, filed⟩
  · rintro ⟨entry, listed, tier, filed⟩
    exact ⟨tier, List.mem_filterMap.mpr ⟨entry, listed, filed⟩⟩

theorem hasDevice_eq_false_iff (cache : DeviceRegistryCache) (device : DeviceIdentity) :
    cache.hasDevice device.vid device.pid device.serial = false ↔
      cache (deviceKey device none) = none := by
  simp [DeviceRegistryCache.hasDevice, DeviceRegistryCache.hasDeviceWithSid, deviceKey]

theorem hasDevice_ofEntries_iff (entries : List DeviceRegistryEntry) (device : DeviceIdentity) :
    (DeviceRegistryCache.ofEntries entries).hasDevice device.vid device.pid device.serial =
        true ↔
      Registers entries device none :=
  ofEntries_isSome_iff entries device none

/-- Without a machine-wide entry, the tier is that of the user's entry. -/
theorem tier_of_no_machine_entry (cache : DeviceRegistryCache) (device : DeviceIdentity)
    (user : Option String) (missing : cache (deviceKey device none) = none) :
    (cache.trustTierForWithSid device.vid device.pid device.serial user).tier =
      (user.bind fun sid => cache (deviceKey device (some sid))).getD .blocked := by
  rw [deviceKey] at missing
  unfold DeviceRegistryCache.trustTierForWithSid
  simp only [deviceKey, missing]
  cases user.bind fun sid =>
      cache (toAsciiLowercase device.vid, toAsciiLowercase device.pid,
        toAsciiLowercase device.serial, some sid) with
  | none => rfl
  | some tier => rfl

theorem fullAccess_iff_of_no_machine_entry (cache : DeviceRegistryCache)
    (device : DeviceIdentity) (user : Option String)
    (missing : cache (deviceKey device none) = none) :
    (cache.trustTierForWithSid device.vid device.pid device.serial user).tier = .fullAccess ↔
      ∃ sid ∈ user, cache (deviceKey device (some sid)) = some .fullAccess := by
  rw [tier_of_no_machine_entry cache device user missing]
  cases user with
  | none => simp
  | some sid =>
      rw [Option.bind_some]
      cases found : cache (deviceKey device (some sid)) with
      | none => simp [found]
      | some tier => simp [found]

/-! ## The claim of a registration -/

/-- What a check at the drive of a device owes to the entries: no denial where the tier for
the user is full access, and a denial where no entry is machine-wide or the user's. -/
structure Honoured (enforcer : UsbEnforcer) (entries : List DeviceRegistryEntry)
    (device : DeviceIdentity) (user : Option String) (now : Nat) (path : String)
    (action : FileAction) : Prop where
  permits :
    (enforcer.registry.trustTierForWithSid device.vid device.pid device.serial user).tier =
        .fullAccess →
      (enforcer.check user now path action).1 = none
  denies : ¬ Registers entries device none → (∀ sid ∈ user, ¬ Registers entries device (some sid)) →
    ∃ result, (enforcer.check user now path action).1 = some result ∧ result.decision = .deny

section AtADevice

variable (enforcer : UsbEnforcer) (user : Option String) (now : Nat) {path : String}
  (action : FileAction)

/-- A check at the drive of a device denies exactly without a machine-wide entry. -/
theorem check_eq_none_iff {drive : Char} {device : DeviceIdentity}
    (isLetter : extractDriveLetter path = some drive)
    (plugged : enforcer.detector.deviceIdentities drive = some device) :
    (enforcer.check user now path action).1 = none ↔
      enforcer.registry.hasDevice device.vid device.pid device.serial = true := by
  rw [enforcer.check_of_device user now action isLetter plugged]
  split
  · rename_i registered
    exact ⟨fun _ => registered, fun _ => rfl⟩
  · rename_i unregistered
    constructor
    · intro allowed
      cases allowed
    · intro registered
      exact absurd registered unregistered

theorem check_denies {drive : Char} {device : DeviceIdentity}
    (isLetter : extractDriveLetter path = some drive)
    (plugged : enforcer.detector.deviceIdentities drive = some device)
    (unregistered : enforcer.registry.hasDevice device.vid device.pid device.serial = false) :
    ∃ result, (enforcer.check user now path action).1 = some result ∧
      result.decision = .deny := by
  rw [enforcer.check_of_device user now action isLetter plugged, unregistered]
  exact ⟨_, rfl, rfl⟩

/-- After a refresh, the entries are honoured at the drive of a device exactly where it has a
machine-wide entry, or the user's entry in the registry is not one of full access. -/
theorem honoured_iff {entries : List DeviceRegistryEntry}
    (loaded : enforcer.registry = .ofEntries entries) {drive : Char} {device : DeviceIdentity}
    (isLetter : extractDriveLetter path = some drive)
    (plugged : enforcer.detector.deviceIdentities drive = some device) :
    Honoured enforcer entries device user now path action ↔
      Registers entries device none ∨
        ∀ sid ∈ user, enforcer.registry (deviceKey device (some sid)) ≠ some .fullAccess := by
  have machineWide : enforcer.registry.hasDevice device.vid device.pid device.serial = true ↔
      Registers entries device none := by
    rw [loaded]
    exact hasDevice_ofEntries_iff entries device
  have allowed := check_eq_none_iff enforcer user now action isLetter plugged
  rw [← machineWide]
  cases registered : enforcer.registry.hasDevice device.vid device.pid device.serial with
  | true =>
      rw [registered] at allowed machineWide
      constructor
      · intro _
        exact Or.inl rfl
      · intro _
        exact ⟨fun _ => allowed.mpr rfl, fun missing => absurd (machineWide.mp rfl) missing⟩
  | false =>
      have userDecides := fullAccess_iff_of_no_machine_entry enforcer.registry device user
        ((hasDevice_eq_false_iff _ device).mp registered)
      rw [registered] at allowed
      constructor
      · intro honoured
        right
        intro sid isUser full
        cases allowed.mp (honoured.permits (userDecides.mpr ⟨sid, isUser, full⟩))
      · intro condition
        rcases condition with impossible | notFull
        · cases impossible
        · constructor
          · intro full
            obtain ⟨sid, isUser, userFull⟩ := userDecides.mp full
            exact absurd userFull (notFull sid isUser)
          · intro _ _
            exact check_denies enforcer user now action isLetter plugged registered

end AtADevice

/-- A device, and an entry of full access for it. -/
def stick : DeviceIdentity :=
  ⟨"0951", "1666", "SN001", "stick"⟩

def stickEntry (owner : Option String) : DeviceRegistryEntry :=
  ⟨"0951", "1666", "SN001", "full_access", owner, none⟩

/-- The device is at drive E, and the registry holds one entry for it. -/
def stickAtE (owner : Option String) : UsbEnforcer :=
  .new ⟨fun drive => drive = 'E', fun drive => if drive = 'E' then some stick else none⟩
    (.ofEntries [stickEntry owner])

theorem honoured_machine_entry :
    Honoured (stickAtE none) [stickEntry none] stick (some "S-1-5-21-7") 0 "E:\\plan.txt"
      (.readFile "E:\\plan.txt") := by
  have isLetter : extractDriveLetter "E:\\plan.txt" = some 'E' := by decide
  apply (honoured_iff (stickAtE none) _ 0 _ rfl isLetter rfl).mpr
  left
  exact ⟨stickEntry none, List.mem_cons_self, .fullAccess, by decide⟩

/-- A device that is registered for its user only is denied, at full access. -/
theorem not_honoured_user_entry :
    ¬ Honoured (stickAtE (some "S-1-5-21-7")) [stickEntry (some "S-1-5-21-7")] stick
      (some "S-1-5-21-7") 0 "E:\\plan.txt" (.readFile "E:\\plan.txt") := by
  intro honoured
  have isLetter : extractDriveLetter "E:\\plan.txt" = some 'E' := by decide
  have allowed := honoured.permits (by decide)
  rw [check_eq_none_iff _ _ 0 _ isLetter rfl] at allowed
  revert allowed
  decide

end DlpSystem.Devices
