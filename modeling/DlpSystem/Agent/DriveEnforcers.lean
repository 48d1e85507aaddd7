import DlpSystem.Agent.DeviceRegistry
import DlpSystem.Agent.DiskEnumerator
import DlpSystem.Agent.EnforcementPaths
import DlpSystem.Lib.Casing

/-!
# The enforcers of disks and USB devices

The checks of file actions at drives: `DiskEnforcer` asks the maps of the enumerator, and
`UsbEnforcer` the USB detector and the device registry.
-/

namespace DlpSystem.Agent

open Abac

/-- `DiskBlockResult`. -/
structure DiskBlockResult where
  decision : Decision
  disk : DiskIdentity
  notify : Bool
  deriving DecidableEq

/-- `DiskEnforcer`, with its instants in milliseconds. -/
structure DiskEnforcer where
  lastToast : Char → Option Nat

/-- `drive_letter_from_path`. -/
def driveLetterFromPath (path : String) : Option Char :=
  match path.toList with
  | '\\' :: '\\' :: _ => none
  | [] => none
  | first :: _ => if first.isAlpha then some first.toUpper else none

/-- The actions that the enforcer looks at. -/
def isDiskWrite : FileAction → Bool
  | .created _ => true
  | .written _ => true
  | .moved _ _ => true
  | .deleted _ => false
  | .readFile _ => false

/-- A registered and a live serial that are both known and differ. -/
def serialMismatch (registered : Option DiskIdentity) (liveDisk : DiskIdentity) : Bool :=
  match registered.bind DiskIdentity.serial, liveDisk.serial with
  | some stored, some live => decide (stored ≠ live)
  | _, _ => false

namespace DiskEnforcer

/-- `DiskEnforcer::new`. -/
def new : DiskEnforcer :=
  ⟨fun _ => none⟩

/-- `should_notify`, with the enforcer it leaves: a toast every thirty seconds for each
drive. -/
def shouldNotify (enforcer : DiskEnforcer) (now : Nat) (drive : Char) : Bool × DiskEnforcer :=
  let expired := (enforcer.lastToast drive).all fun last => decide (30 * 1000 ≤ now - last)
  (expired,
    if expired then ⟨Function.update enforcer.lastToast drive (some now)⟩ else enforcer)

/-- A denial about a disk, with the toast for its letter if there is one. -/
def deny (enforcer : DiskEnforcer) (now : Nat) (disk : DiskIdentity) (letter : Option Char) :
    Option DiskBlockResult × DiskEnforcer :=
  match letter with
  | none => (some ⟨.deny, disk, false⟩, enforcer)
  | some drive =>
      let (notify, left) := enforcer.shouldNotify now drive
      (some ⟨.deny, disk, notify⟩, left)

/-- `DiskEnforcer::check`, with the enforcer it leaves.  The enumerator may not be set yet. -/
def check (enforcer : DiskEnforcer) (installed : Option DiskEnumerator) (now : Nat)
    (path : String) (action : FileAction) : Option DiskBlockResult × DiskEnforcer :=
  if isDiskWrite action = false then (none, enforcer)
  else
    match installed with
    | none =>
        let letter := driveLetterFromPath path
        enforcer.deny now (.placeholder letter) letter
    | some enumerator =>
        if enumerator.enumerationComplete = false then
          let letter := driveLetterFromPath path
          enforcer.deny now (.placeholder letter) letter
        else
          match driveLetterFromPath path with
          | none => (none, enforcer)
          | some letter =>
              match enumerator.diskForDriveLetter letter with
              | none => (none, enforcer)
              | some liveDisk =>
                  let registered := enumerator.instanceIdMap liveDisk.instanceId
                  if registered.isNone || serialMismatch registered liveDisk then
                    -- Both branches on the grace period deny.
                    if enumerator.isInGracePeriod now liveDisk.instanceId then
                      enforcer.deny now liveDisk (some letter)
                    else enforcer.deny now liveDisk (some letter)
                  else (none, enforcer)

end DiskEnforcer

theorem DiskEnforcer.deny_decision (enforcer : DiskEnforcer) (now : Nat) (disk : DiskIdentity)
    (letter : Option Char) :
    ∃ result, (enforcer.deny now disk letter).1 = some result ∧ result.decision = .deny := by
  cases letter with
  | none => exact ⟨_, rfl, rfl⟩
  | some drive => exact ⟨_, rfl, rfl⟩

/-- Letters of paths are in upper case. -/
theorem toUpper_driveLetterFromPath {path : String} {letter : Char}
    (isLetter : driveLetterFromPath path = some letter) : letter.toUpper = letter := by
  unfold driveLetterFromPath at isLetter
  split at isLetter
  · cases isLetter
  · cases isLetter
  · split at isLetter
    · cases isLetter
      exact Lib.toUpper_toUpper _
    · cases isLetter

/-- A write to a letter whose entry is not registered is denied. -/
theorem DiskEnforcer.check_denies (enforcer : DiskEnforcer) {enumerator : DiskEnumerator}
    (now : Nat) {path : String} {action : FileAction} {letter : Char} {liveDisk : DiskIdentity}
    (writes : isDiskWrite action = true) (isLetter : driveLetterFromPath path = some letter)
    (entry : enumerator.driveLetterMap.lookup letter = some liveDisk)
    (unregistered : enumerator.instanceIdMap liveDisk.instanceId = none) :
    ∃ result, (enforcer.check (some enumerator) now path action).1 = some result ∧
      result.decision = .deny := by
  have live : enumerator.diskForDriveLetter letter = some liveDisk := by
    rw [DiskEnumerator.diskForDriveLetter, toUpper_driveLetterFromPath isLetter, entry]
  unfold DiskEnforcer.check
  rw [if_neg (by simp [writes])]
  dsimp only
  by_cases complete : enumerator.enumerationComplete = false
  · rw [if_pos complete]
    exact deny_decision enforcer now _ _
  · rw [if_neg complete]
    simp only [isLetter, live, unregistered, Option.isNone_none, Bool.true_or, if_true, ite_self]
    exact deny_decision enforcer now liveDisk (some letter)

/-! ## USB devices at I/O time

`UsbEnforcer`: the check of file actions against the drives of the USB detector and the
device registry.  Only devices that are not registered are denied here.
-/

/-- `DeviceIdentity`. -/
structure DeviceIdentity where
  vid : String
  pid : String
  serial : String
  description : String
  deriving DecidableEq

/-- The identity that stands for a USB drive whose own one was not captured. -/
def DeviceIdentity.notCaptured (drive : Char) : DeviceIdentity :=
  ⟨"unknown", "unknown", "unknown",
    "USB drive " ++ String.singleton drive ++ " (identity not captured)"⟩

/-- `VolumeDetector`, with the two maps that the enforcer reads. -/
structure VolumeDetector where
  blockedDrives : Char → Bool
  deviceIdentities : Char → Option DeviceIdentity

/-- `UsbBlockResult`, without the user name, which is never filled in. -/
structure UsbBlockResult where
  decision : Decision
  identity : DeviceIdentity
  tier : UsbTrustTier
  notify : Bool
  ownerSid : Option String
  deriving DecidableEq

/-- `UsbEnforcer`, with its instants in milliseconds. -/
structure UsbEnforcer where
  detector : VolumeDetector
  registry : DeviceRegistryCache
  lastToast : Char → Option Nat

/-- `extract_drive_letter`, of an identical contract to `drive_letter_from_path`. -/
def extractDriveLetter (path : String) : Option Char :=
  driveLetterFromPath path

namespace UsbEnforcer

/-- `UsbEnforcer::new`. -/
def new (detector : VolumeDetector) (registry : DeviceRegistryCache) : UsbEnforcer :=
  ⟨detector, registry, fun _ => none⟩

/-- `should_notify`, with the enforcer it leaves; the toasts of drives are kept as
`DiskEnforcer` keeps them. -/
def shouldNotify (enforcer : UsbEnforcer) (now : Nat) (drive : Char) : Bool × UsbEnforcer :=
  let (expired, toasts) := (DiskEnforcer.mk enforcer.lastToast).shouldNotify now drive
  (expired, { enforcer with lastToast := toasts.lastToast })

/-- `resolve_tier_for_identity`. -/
def resolveTierForIdentity (enforcer : UsbEnforcer) (identity : DeviceIdentity)
    (sid : Option String) : DeviceRegistryCache.TrustTierResult :=
  enforcer.registry.trustTierForWithSid identity.vid identity.pid identity.serial sid

/-- A denial about a device at a drive, with the toast for the drive. -/
def deny (enforcer : UsbEnforcer) (now : Nat) (drive : Char) (identity : DeviceIdentity)
    (ownerSid : Option String) : Option UsbBlockResult × UsbEnforcer :=
  let (notify, left) := enforcer.shouldNotify now drive
  (some ⟨.deny, identity, .blocked, notify, ownerSid⟩, left)

/-- `UsbEnforcer::check`, with the enforcer it leaves.  The SID of the process is read at
each check; the action is only logged. -/
def check (enforcer : UsbEnforcer) (currentSid : Option String) (now : Nat) (path : String)
    (_action : FileAction) : Option UsbBlockResult × UsbEnforcer :=
  match extractDriveLetter path with
  | none => (none, enforcer)
  | some drive =>
      match enforcer.detector.deviceIdentities drive with
      | none =>
          if enforcer.detector.blockedDrives drive then
            enforcer.deny now drive (.notCaptured drive) none
          else (none, enforcer)
      | some identity =>
          let isRegistered :=
            enforcer.registry.hasDevice identity.vid identity.pid identity.serial
          let tierResult := enforcer.resolveTierForIdentity identity currentSid
          if isRegistered then (none, enforcer)
          else enforcer.deny now drive identity tierResult.ownerSid

end UsbEnforcer

section Check

variable (enforcer : UsbEnforcer) (currentSid : Option String) (now : Nat) {path : String}
  (action : FileAction)

theorem UsbEnforcer.check_of_no_letter (noLetter : extractDriveLetter path = none) :
    enforcer.check currentSid now path action = (none, enforcer) := by
  simp only [UsbEnforcer.check, noLetter]

/-- At the drive of a device, the registry decides. -/
theorem UsbEnforcer.check_of_device {drive : Char} {identity : DeviceIdentity}
    (isLetter : extractDriveLetter path = some drive)
    (plugged : enforcer.detector.deviceIdentities drive = some identity) :
    enforcer.check currentSid now path action =
      if enforcer.registry.hasDevice identity.vid identity.pid identity.serial then
        (none, enforcer)
      else
        enforcer.deny now drive identity
          (enforcer.resolveTierForIdentity identity currentSid).ownerSid := by
  simp only [UsbEnforcer.check, isLetter, plugged]

/-- At a drive without a captured device, the blocked drives decide. -/
theorem UsbEnforcer.check_of_no_device {drive : Char}
    (isLetter : extractDriveLetter path = some drive)
    (missing : enforcer.detector.deviceIdentities drive = none) :
    enforcer.check currentSid now path action =
      if enforcer.detector.blockedDrives drive then
        enforcer.deny now drive (.notCaptured drive) none
      else (none, enforcer) := by
  simp only [UsbEnforcer.check, isLetter, missing]

@[simp]
theorem UsbEnforcer.deny_decision (drive : Char) (identity : DeviceIdentity)
    (ownerSid : Option String) :
    (enforcer.deny now drive identity ownerSid).1.map UsbBlockResult.decision = some .deny :=
  rfl

end Check

end DlpSystem.Agent
