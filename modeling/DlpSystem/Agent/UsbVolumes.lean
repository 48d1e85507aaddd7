import DlpSystem.Agent.DriveEnforcers

/-!
# USB volumes

Windows announces a USB drive twice: as a volume, of which the notification does not tell the
letter, and as a device, of which it does not tell the volume.  `VolumeDetector` joins the two, and
`DeviceController` restricts the volume as the tier of the device demands.
-/

namespace DlpSystem.Agent

open Abac

/-- The letters of `scan_removable_drives`. -/
def driveLetters : List Char :=
  ['A', 'B', 'C', 'D', 'E', 'F', 'G', 'H', 'I', 'J', 'K', 'L', 'M', 'N', 'O', 'P', 'Q', 'R', 'S',
    'T', 'U', 'V', 'W', 'X', 'Y', 'Z']

/-- `parse_usb_device_path`. -/
def parseUsbDevicePath (dbccName : String) : DeviceIdentity :=
  let parts := dbccName.toList.splitOn '#'
  let (vid, pid) := ((parts[1]?.getD []).splitOn '&').foldl
    (fun (vid, pid) token =>
      let lower := token.map Char.toLower
      match lower.dropPrefix? "vid_".toList with
      | some rest => (String.ofList rest, pid)
      | none =>
          match lower.dropPrefix? "pid_".toList with
          | some rest => (vid, String.ofList rest)
          | none => (vid, pid))
    ("", "")
  let rawSerial := parts[2]?.getD []
  let serial :=
    if rawSerial = [] ∨ rawSerial.head? = some '&' then "(none)" else String.ofList rawSerial
  ⟨vid, pid, serial, ""⟩

/-- The comparison by vendor, product and serial number. -/
def DeviceIdentity.same (first second : DeviceIdentity) : Bool :=
  first.vid = second.vid && first.pid = second.pid && first.serial = second.serial

/-! ## Windows -/

/-- A security descriptor: the owner with the group, and the access list. -/
structure VolumeDescriptor where
  ownership : String
  dacl : String
  deriving DecidableEq

/-- What the controller changes: the descriptors at the roots of the mounted volumes, and which
instances of devices are disabled. -/
structure WindowsDevices where
  roots : Char → Option VolumeDescriptor
  disabled : String → Bool

/-- `DeviceControllerError`, with the variants that are made here. -/
inductive DeviceControllerError
  | configManager (code : Nat)
  | win32 (message : String)
  | securityDescriptor (message : String)

/-- The text of an error. -/
def DeviceControllerError.text : DeviceControllerError → String
  | .configManager code =>
      "Configuration Manager error: 0x" ++ String.ofList ((Nat.toDigits 16 code).leftpad 8 '0')
  | .win32 message => "Win32 error: " ++ message
  | .securityDescriptor message => "security descriptor error: " ++ message

/-- What Windows answers while one notification is handled.  The calls about a device may be
made again, each under the number of the attempt; `0` is the code of success. -/
structure WindowsCalls where
  getFileSecurity : Char → Except DeviceControllerError Unit
  setFileSecurity : Char → Except String Unit
  resolveInstanceIdFromDbccName : Nat → String → Except DeviceControllerError String
  findInstanceIdByVidPidSerial : Nat → DeviceIdentity → Except DeviceControllerError String
  locateDevNode : Nat → String → Nat
  changeDevNode : Nat → String → Nat

/-! ## The controller -/

/-- What `disable_usb_device` and `enable_usb_device` do alike: the instance that is changed, or
none if the device has gone. -/
def changeUsbDevice (calls : WindowsCalls) (attempt : Nat) (dbccName : String)
    (identity : DeviceIdentity) : Except DeviceControllerError (Option String) :=
  let resolved : Except DeviceControllerError String :=
    match calls.resolveInstanceIdFromDbccName attempt dbccName with
    | .ok instanceId => .ok instanceId
    | .error _ => calls.findInstanceIdByVidPidSerial attempt identity
  match resolved with
  | .error error => .error error
  | .ok instanceId =>
      let located := calls.locateDevNode attempt instanceId
      if located = 0x0D then .ok none
      else if located ≠ 0 then .error (.configManager located)
      else
        let changed := calls.changeDevNode attempt instanceId
        if changed ≠ 0 then .error (.configManager changed) else .ok (some instanceId)

/-- The result of a change of a device, with the devices that it leaves. -/
def WindowsDevices.settled (windows : WindowsDevices) (disable : Bool) :
    Except DeviceControllerError (Option String) →
      Except DeviceControllerError Unit × WindowsDevices
  | .error error => (.error error, windows)
  | .ok none => (.ok (), windows)
  | .ok (some instanceId) =>
      (.ok (), { windows with disabled := Function.update windows.disabled instanceId disable })

/-- `disable_usb_device`. -/
def disableUsbDevice (calls : WindowsCalls) (attempt : Nat) (dbccName : String)
    (identity : DeviceIdentity) (windows : WindowsDevices) :
    Except DeviceControllerError Unit × WindowsDevices :=
  windows.settled true (changeUsbDevice calls attempt dbccName identity)

/-- `enable_usb_device`. -/
def enableUsbDevice (calls : WindowsCalls) (dbccName : String) (identity : DeviceIdentity)
    (windows : WindowsDevices) : Except DeviceControllerError Unit × WindowsDevices :=
  windows.settled false (changeUsbDevice calls 0 dbccName identity)

/-- `disable_usb_device_with_retry_blocking`, from an attempt on, with the retries that remain. -/
def disableUsbDeviceWithRetryBlocking (calls : WindowsCalls) (dbccName : String)
    (identity : DeviceIdentity) (windows : WindowsDevices) :
    Nat → Nat → Except DeviceControllerError Unit × WindowsDevices
  | attempt, 0 => disableUsbDevice calls attempt dbccName identity windows
  | attempt, retries + 1 =>
      match disableUsbDevice calls attempt dbccName identity windows with
      | (.ok (), left) => (.ok (), left)
      | (.error _, left) =>
          disableUsbDeviceWithRetryBlocking calls dbccName identity left (attempt + 1) retries

/-- `DeviceController`: the descriptors from before a change. -/
structure DeviceController where
  originalDacls : Char → Option VolumeDescriptor

namespace DeviceController

/-- `DeviceController::new`. -/
def new : DeviceController :=
  ⟨fun _ => none⟩

/-- What `set_volume_readonly` and `set_volume_deny_all` do alike. -/
def setVolumeDacl (dacl : String) (controller : DeviceController) (calls : WindowsCalls)
    (letter : Char) (windows : WindowsDevices) :
    Except DeviceControllerError Unit × DeviceController × WindowsDevices :=
  match windows.roots letter with
  | none =>
      (.error (.securityDescriptor "GetFileSecurityW returned zero size"), controller, windows)
  | some descriptor =>
      match calls.getFileSecurity letter with
      | .error error => (.error error, controller, windows)
      | .ok () =>
          let cached : DeviceController :=
            ⟨Function.update controller.originalDacls letter (some descriptor)⟩
          match calls.setFileSecurity letter with
          | .error error => (.error (.win32 error), cached, windows)
          | .ok () =>
              (.ok (), cached,
                { windows with
                  roots := Function.update windows.roots letter
                    (some { descriptor with dacl := dacl }) })

/-- The access list of `set_volume_readonly`. -/
def readonlyDacl : String :=
  "D:(D;;WDWO;;;S-1-1-0)(D;;WDWO;;;S-1-5-11)(A;;0x1200A9;;;S-1-1-0)(A;;FA;;;S-1-5-18)" ++
    "(A;;FA;;;S-1-5-32-544)"

/-- The access list of `set_volume_deny_all`. -/
def denyAllDacl : String :=
  "D:(D;;FA;;;S-1-1-0)(D;;FA;;;S-1-5-11)(A;;FA;;;S-1-5-18)"

/-- `set_volume_readonly`. -/
def setVolumeReadonly : DeviceController → WindowsCalls → Char → WindowsDevices →
    Except DeviceControllerError Unit × DeviceController × WindowsDevices :=
  setVolumeDacl readonlyDacl

/-- `set_volume_deny_all`. -/
def setVolumeDenyAll : DeviceController → WindowsCalls → Char → WindowsDevices →
    Except DeviceControllerError Unit × DeviceController × WindowsDevices :=
  setVolumeDacl denyAllDacl

/-- `restore_volume_acl`.  The cached descriptor is taken out first, and lost if the call fails. -/
def restoreVolumeAcl (controller : DeviceController) (calls : WindowsCalls) (letter : Char)
    (windows : WindowsDevices) :
    Except DeviceControllerError Unit × DeviceController × WindowsDevices :=
  let taken : DeviceController := ⟨Function.update controller.originalDacls letter none⟩
  match controller.originalDacls letter with
  | none => (.ok (), taken, windows)
  | some descriptor =>
      match windows.roots letter, calls.setFileSecurity letter with
      | some _, .ok () =>
          (.ok (), taken,
            { windows with roots := Function.update windows.roots letter (some descriptor) })
      | some _, .error error => (.error (.win32 error), taken, windows)
      | none, _ =>
          (.error (.win32 "The system cannot find the path specified."), taken, windows)

end DeviceController

/-! ## The detector -/

/-- The whole of `VolumeDetector`, with its instants in milliseconds. -/
structure UsbVolumes extends VolumeDetector where
  pendingIdentity : Option DeviceIdentity
  volumeClassMap : Char → Option (VolumeClass × Nat)

/-- `VolumeDetector::new`. -/
def UsbVolumes.new : UsbVolumes :=
  ⟨⟨fun _ => false, fun _ => none⟩, none, fun _ => none⟩

/-- The detector, the controller once it is set, what the two change of Windows, and the letters
of the `VolumeArrival` events. -/
structure UsbAgent where
  detector : UsbVolumes
  controller : Option DeviceController
  windows : WindowsDevices
  arrivals : List Char

/-- What the enforcement reads of the configuration, the registry and the process. -/
structure UsbSettings where
  usbBlockedFailureMode : Option String
  usbNoneSerialPolicy : Option String
  registry : Option DeviceRegistryCache
  currentSid : Option String

/-- What is asked for while one notification is handled: the letters of removable drives at the
scan and once more for the letters that are new, the volume classes, the order of the letters in
the hash tables, and the time. -/
structure Notification where
  calls : WindowsCalls
  settings : UsbSettings
  present : Char → Bool
  still : Char → Bool
  classifyDrive : Char → Option VolumeClass
  auditReady : Bool
  order : List Char
  ordered : order.Perm driveLetters
  now : Nat

/-- `resolve_tier_from_registry`. -/
def resolveTierFromRegistry (settings : UsbSettings) (identity : DeviceIdentity)
    (noneSerialPolicy : String) : DeviceRegistryCache.TrustTierResult :=
  if identity.serial = "(none)" ∧ noneSerialPolicy = "Always Blocked" then ⟨.blocked, none⟩
  else
    match settings.registry with
    | none => ⟨.blocked, none⟩
    | some cache =>
        cache.trustTierForWithSid identity.vid identity.pid identity.serial settings.currentSid

/-- `decide_enforcement_outcome`. -/
def decideEnforcementOutcome (failureMode : String) (pnpOk daclOk : Bool) (retryCount : Nat) :
    Except String Unit :=
  match failureMode with
  | "Hard error" =>
      if !pnpOk || !daclOk then
        .error ("Blocked enforcement failed (mode: Hard error) — PnP: " ++
          (if pnpOk then "ok" else "err") ++ ", DACL: " ++ (if daclOk then "ok" else "err"))
      else .ok ()
  | "Retry then error" =>
      if !pnpOk then
        .error ("Blocked enforcement failed (mode: Retry then error) — PnP failed after " ++
          toString retryCount ++ " retries")
      else .ok ()
  | _ => .ok ()

namespace UsbAgent

/-- `apply_blocked_enforcement`. -/
def applyBlockedEnforcement (agent : UsbAgent) (calls : WindowsCalls)
    (controller : DeviceController) (letter : Char) (identity : DeviceIdentity)
    (dbccName failureMode : String) : Except String Unit × UsbAgent :=
  let retryCount := if failureMode = "Retry then error" then 2 else 0
  let (pnp, windows) :=
    disableUsbDeviceWithRetryBlocking calls dbccName identity agent.windows 0 retryCount
  let (dacl, controller, windows) := controller.setVolumeDenyAll calls letter windows
  (decideEnforcementOutcome failureMode pnp.isOk dacl.isOk retryCount,
    { agent with controller := some controller, windows := windows })

/-- `apply_readonly_enforcement`. -/
def applyReadonlyEnforcement (agent : UsbAgent) (calls : WindowsCalls)
    (controller : DeviceController) (letter : Char) : Except String Unit × UsbAgent :=
  let (dacl, controller, windows) := controller.setVolumeReadonly calls letter agent.windows
  (dacl.mapError fun error => "ReadOnly DACL failed: " ++ error.text,
    { agent with controller := some controller, windows := windows })

/-- `apply_tier_enforcement`. -/
def applyTierEnforcement (agent : UsbAgent) (notification : Notification) (letter : Char)
    (identity : DeviceIdentity) (dbccName : String) : Except String Unit × UsbAgent :=
  match agent.controller with
  | none => (.error "DeviceController not initialized", agent)
  | some controller =>
      let failureMode := notification.settings.usbBlockedFailureMode.getD "Warning only"
      let noneSerialPolicy := notification.settings.usbNoneSerialPolicy.getD "Always Blocked"
      match (resolveTierFromRegistry notification.settings identity noneSerialPolicy).tier with
      | .blocked =>
          agent.applyBlockedEnforcement notification.calls controller letter identity dbccName
            failureMode
      | .readOnly => agent.applyReadonlyEnforcement notification.calls controller letter
      | .fullAccess => (.ok (), agent)

/-- The insertion into `device_identities` and the enforcement after it, which reports its errors
to the log only. -/
def assign (agent : UsbAgent) (notification : Notification) (letter : Char)
    (identity : DeviceIdentity) (dbccName : String) : UsbAgent :=
  let mapped : UsbAgent := { agent with
    detector.deviceIdentities :=
      Function.update agent.detector.deviceIdentities letter (some identity) }
  (mapped.applyTierEnforcement notification letter identity dbccName).2

/-- `on_drive_arrival`. -/
def onDriveArrival (agent : UsbAgent) (notification : Notification) (driveLetter : Char) :
    UsbAgent :=
  let letter := driveLetter.toUpper
  if notification.still letter then
    { agent with
      detector.blockedDrives := Function.update agent.detector.blockedDrives letter true }
  else agent

/-- `on_drive_removal`. -/
def onDriveRemoval (agent : UsbAgent) (driveLetter : Char) : UsbAgent :=
  { agent with
    detector.blockedDrives :=
      Function.update agent.detector.blockedDrives driveLetter.toUpper false }

/-- `reconcile_pending_identity`. -/
def reconcilePendingIdentity (agent : UsbAgent) (notification : Notification) (letter : Char) :
    UsbAgent :=
  match agent.detector.pendingIdentity with
  | none => agent
  | some identity =>
      ({ agent with detector.pendingIdentity := none } : UsbAgent).assign notification letter
        identity ""

/-- An answer of `classify_drive` goes into the class map. -/
def cacheClass (agent : UsbAgent) (letter : Char) (now : Nat) : Option VolumeClass → UsbAgent
  | none => agent
  | some volumeClass =>
      { agent with
        detector.volumeClassMap :=
          Function.update agent.detector.volumeClassMap letter (some (volumeClass, now)) }

/-- `emit_volume_arrival`. -/
def emitVolumeArrival (agent : UsbAgent) (notification : Notification) (letter : Char) :
    UsbAgent :=
  if notification.auditReady then { agent with arrivals := agent.arrivals ++ [letter] } else agent

/-- The body of the loop of `handle_volume_arrival`. -/
def arrive (notification : Notification) (agent : UsbAgent) (letter : Char) : UsbAgent :=
  (((agent.onDriveArrival notification letter).reconcilePendingIdentity notification
    letter).cacheClass letter notification.now (notification.classifyDrive
      letter)).emitVolumeArrival notification letter

/-- `handle_volume_arrival`, over the letters in the order of the hash set. -/
def handleVolumeArrival (agent : UsbAgent) (notification : Notification) : UsbAgent :=
  (notification.order.filter fun letter =>
    notification.present letter && !agent.detector.blockedDrives letter).foldl
    (arrive notification) agent

/-- The body of the loop of `handle_volume_removal`. -/
def depart (agent : UsbAgent) (letter : Char) : UsbAgent :=
  let removed := agent.onDriveRemoval letter
  { removed with
    detector.volumeClassMap := Function.update removed.detector.volumeClassMap letter none }

/-- `handle_volume_removal`. -/
def handleVolumeRemoval (agent : UsbAgent) (notification : Notification) : UsbAgent :=
  (notification.order.filter fun letter =>
    agent.detector.blockedDrives letter && !notification.present letter).foldl depart agent

/-- `handle_volume_event`, for an arrival or for another event. -/
def handleVolumeEvent (agent : UsbAgent) (isArrival : Bool) (notification : Notification) :
    UsbAgent :=
  if isArrival then agent.handleVolumeArrival notification
  else agent.handleVolumeRemoval notification

/-- The letters that are blocked and have no identity. -/
def unmapped (agent : UsbAgent) (notification : Notification) : List Char :=
  notification.order.filter fun letter =>
    agent.detector.blockedDrives letter && (agent.detector.deviceIdentities letter).isNone

/-- `reconcile_identity_with_unmapped_drive`. -/
def reconcileIdentityWithUnmappedDrive (agent : UsbAgent) (notification : Notification)
    (identity : DeviceIdentity) (dbccName : String) : Option Char × UsbAgent :=
  match agent.unmapped notification with
  | [letter] => (some letter, agent.assign notification letter identity dbccName)
  | _ => (none, agent)

/-- `on_usb_device_arrival`, with the description that Windows has for the device. -/
def onUsbDeviceArrival (agent : UsbAgent) (notification : Notification)
    (devicePath description : String) : UsbAgent :=
  let identity := { parseUsbDevicePath devicePath with description := description }
  match agent.reconcileIdentityWithUnmappedDrive notification identity devicePath with
  | (some _, reconciled) => { reconciled with detector.pendingIdentity := none }
  | (none, parked) => { parked with detector.pendingIdentity := some identity }

/-- The calls to the controller in `on_usb_device_removal`. -/
def release (agent : UsbAgent) (calls : WindowsCalls) (letter : Char) (dbccName : String)
    (identity : DeviceIdentity) : UsbAgent :=
  match agent.controller with
  | none => agent
  | some controller =>
      let (_, controller, windows) := controller.restoreVolumeAcl calls letter agent.windows
      let (_, windows) := enableUsbDevice calls dbccName identity windows
      { agent with controller := some controller, windows := windows }

/-- `on_usb_device_removal`. -/
def onUsbDeviceRemoval (agent : UsbAgent) (notification : Notification) (devicePath : String) :
    UsbAgent :=
  let parsed := parseUsbDevicePath devicePath
  match notification.order.find? fun letter =>
      (agent.detector.deviceIdentities letter).any fun identity => identity.same parsed with
  | none => agent
  | some letter =>
      let released := agent.release notification.calls letter devicePath parsed
      { released with
        detector.deviceIdentities :=
          Function.update released.detector.deviceIdentities letter none }

/-- `get_volume_class_for_pipe_query`, with `CACHE_TTL` of five minutes. -/
def getVolumeClassForPipeQuery (agent : UsbAgent) (notification : Notification)
    (driveLetter : Char) : Option VolumeClass × UsbAgent :=
  let letter := driveLetter.toUpper
  let classify := (notification.classifyDrive letter,
    agent.cacheClass letter notification.now (notification.classifyDrive letter))
  match agent.detector.volumeClassMap letter with
  | some (volumeClass, timestamp) =>
      if notification.now - timestamp < 300000 then (some volumeClass, agent) else classify
  | none => classify

/-! ## Start and stop of the service -/

/-- `scan_existing_drives`. -/
def scanExistingDrives (agent : UsbAgent) (notification : Notification) : UsbAgent :=
  driveLetters.foldl
    (fun agent letter =>
      if notification.present letter then
        { agent with
          detector.blockedDrives := Function.update agent.detector.blockedDrives letter true }
      else agent)
    agent

/-- The body of the loop of `scan_existing_usb_identities`. -/
def scanIdentity (notification : Notification) (agent : UsbAgent) (identity : DeviceIdentity) :
    UsbAgent :=
  if notification.order.any fun letter =>
      (agent.detector.deviceIdentities letter).any fun mapped => mapped.same identity then
    agent
  else
    match agent.unmapped notification with
    | [letter] => agent.assign notification letter identity ""
    | [] => agent
    | _ =>
        match agent.detector.pendingIdentity with
        | none => { agent with detector.pendingIdentity := some identity }
        | some _ => agent

/-- `scan_existing_usb_identities`, on the devices that are connected. -/
def scanExistingUsbIdentities (agent : UsbAgent) (notification : Notification)
    (identities : List DeviceIdentity) : UsbAgent :=
  identities.foldl (scanIdentity notification) agent

/-- The start in `run_loop`: `init_usb_detector` runs before `set_device_controller`. -/
def start (windows : WindowsDevices) (notification : Notification)
    (connected : List DeviceIdentity) : UsbAgent :=
  let scanned := (UsbAgent.mk .new none windows []).scanExistingDrives notification
  { scanned.scanExistingUsbIdentities notification connected with controller := some .new }

/-- The letters that have an identity. -/
def mappedLetters (agent : UsbAgent) (notification : Notification) : List Char :=
  notification.order.filter fun letter => (agent.detector.deviceIdentities letter).isSome

/-- `restore_usb_volume_acls`. -/
def restoreUsbVolumeAcls (agent : UsbAgent) (notification : Notification) : UsbAgent :=
  match agent.controller with
  | none => agent
  | some controller =>
      let (controller, windows) := (agent.mappedLetters notification).foldl
        (fun (controller, windows) letter =>
          (controller.restoreVolumeAcl notification.calls letter windows).2)
        (controller, agent.windows)
      { agent with controller := some controller, windows := windows }

/-- `reenable_usb_devices`. -/
def reenableUsbDevices (agent : UsbAgent) (notification : Notification) : UsbAgent :=
  match agent.controller with
  | none => agent
  | some _ =>
      { agent with
        windows := ((agent.mappedLetters notification).filterMap
          agent.detector.deviceIdentities).foldl
          (fun windows identity => (enableUsbDevice notification.calls "" identity windows).2)
          agent.windows }

/-- The end of `run_loop`. -/
def stop (agent : UsbAgent) (notification : Notification) : UsbAgent :=
  (agent.restoreUsbVolumeAcls notification).reenableUsbDevices notification

end UsbAgent

/-! ## Runs -/

/-- What happens while the service runs.  A volume can come, go or get another descriptor without
the agent, and the notifications are handled one at a time. -/
inductive UsbEvent
  | root (letter : Char) (descriptor : Option VolumeDescriptor)
  | volume (isArrival : Bool) (notification : Notification)
  | deviceArrival (devicePath description : String) (notification : Notification)
  | deviceRemoval (devicePath : String) (notification : Notification)
  | classQuery (driveLetter : Char) (notification : Notification)

/-- One step of the service. -/
def UsbAgent.step (agent : UsbAgent) : UsbEvent → UsbAgent
  | .root letter descriptor =>
      { agent with windows.roots := Function.update agent.windows.roots letter descriptor }
  | .volume isArrival notification => agent.handleVolumeEvent isArrival notification
  | .deviceArrival devicePath description notification =>
      agent.onUsbDeviceArrival notification devicePath description
  | .deviceRemoval devicePath notification => agent.onUsbDeviceRemoval notification devicePath
  | .classQuery driveLetter notification =>
      (agent.getVolumeClassForPipeQuery notification driveLetter).2

/-- The service after a run. -/
def UsbAgent.run (agent : UsbAgent) (events : List UsbEvent) : UsbAgent :=
  events.foldl UsbAgent.step agent

/-! ## Letters in the order of a hash table -/

theorem toUpper_of_mem {letter : Char} (isLetter : letter ∈ driveLetters) :
    letter.toUpper = letter := by
  have all : ∀ letter ∈ driveLetters, letter.toUpper = letter := by
    simp [driveLetters]
  exact all letter isLetter

section Order

variable (notification : Notification) {letter : Char}

theorem Notification.mem_order : letter ∈ notification.order ↔ letter ∈ driveLetters :=
  notification.ordered.mem_iff

theorem Notification.nodup_order : notification.order.Nodup :=
  notification.ordered.nodup_iff.mpr (by decide)

/-- A test that one letter passes finds that letter, in whatever order. -/
theorem Notification.filter_eq_singleton (isLetter : letter ∈ driveLetters) {test : Char → Bool}
    (only : ∀ other ∈ driveLetters, test other = true ↔ other = letter) :
    notification.order.filter test = [letter] := by
  have found : (notification.order.filter test).Perm [letter] := by
    refine (List.perm_ext_iff_of_nodup (notification.nodup_order.filter test)
      (List.nodup_singleton letter)).mpr fun other => ?_
    rw [List.mem_filter, notification.mem_order, List.mem_singleton]
    constructor
    · rintro ⟨isOther, passes⟩
      exact (only other isOther).mp passes
    · rintro rfl
      exact ⟨isLetter, (only other isLetter).mpr rfl⟩
  exact List.perm_singleton.mp found

theorem Notification.filter_eq_nil {test : Char → Bool}
    (none : ∀ other ∈ driveLetters, test other = false) : notification.order.filter test = [] := by
  rw [List.filter_eq_nil_iff]
  intro other isOther
  simp [none other (notification.mem_order.mp isOther)]

end Order

/-! ## What the controller changes -/

/-- The cached descriptor of a letter. -/
def UsbAgent.backup (agent : UsbAgent) (letter : Char) : Option VolumeDescriptor :=
  agent.controller.bind fun controller => controller.originalDacls letter

/-- A restriction of a volume: other letters are left alone, and at the letter either nothing
changes, or the descriptor is cached before its access list is replaced. -/
structure RestrictsAt (letter : Char) (before after : UsbAgent) : Prop where
  others : ∀ other, other ≠ letter → after.backup other = before.backup other ∧
    after.windows.roots other = before.windows.roots other
  here : (after.backup letter = before.backup letter ∧
      after.windows.roots letter = before.windows.roots letter) ∨
    ∃ descriptor dacl, before.windows.roots letter = some descriptor ∧
      after.backup letter = some descriptor ∧
      after.windows.roots letter = some { descriptor with dacl := dacl }

theorem RestrictsAt.of_eq {letter : Char} {before after : UsbAgent}
    (backups : after.backup = before.backup) (roots : after.windows.roots = before.windows.roots) :
    RestrictsAt letter before after where
  others := by simp [backups, roots]
  here := Or.inl ⟨by rw [backups], by rw [roots]⟩

section Controller

variable (calls : WindowsCalls) (dbccName : String) (identity : DeviceIdentity)

@[simp]
theorem disableUsbDevice_roots (attempt : Nat) (windows : WindowsDevices) :
    (disableUsbDevice calls attempt dbccName identity windows).2.roots = windows.roots := by
  rw [disableUsbDevice]
  rcases changeUsbDevice calls attempt dbccName identity with _ | (_ | _) <;> rfl

@[simp]
theorem enableUsbDevice_roots (windows : WindowsDevices) :
    (enableUsbDevice calls dbccName identity windows).2.roots = windows.roots := by
  rw [enableUsbDevice]
  rcases changeUsbDevice calls 0 dbccName identity with _ | (_ | _) <;> rfl

@[simp]
theorem disableUsbDeviceWithRetryBlocking_roots (windows : WindowsDevices)
    (attempt retries : Nat) :
    (disableUsbDeviceWithRetryBlocking calls dbccName identity windows attempt retries).2.roots =
      windows.roots := by
  induction retries generalizing windows attempt with
  | zero => exact disableUsbDevice_roots calls dbccName identity attempt windows
  | succ retries ih =>
      have first := disableUsbDevice_roots calls dbccName identity attempt windows
      rw [disableUsbDeviceWithRetryBlocking]
      split
      · rename_i left found
        rw [found] at first
        exact first
      · rename_i error left found
        rw [found] at first
        exact (ih left (attempt + 1)).trans first

/-- What is left of a call that sets the access list of a volume. -/
theorem DeviceController.setVolumeDacl_cases (dacl : String) (controller : DeviceController)
    (letter : Char) (windows : WindowsDevices) :
    (controller.setVolumeDacl dacl calls letter windows).2 = (controller, windows) ∨
      ∃ descriptor, windows.roots letter = some descriptor ∧
        (controller.setVolumeDacl dacl calls letter windows).2.1 =
          ⟨Function.update controller.originalDacls letter (some descriptor)⟩ ∧
        ((controller.setVolumeDacl dacl calls letter windows).2.2 = windows ∨
          (controller.setVolumeDacl dacl calls letter windows).2.2 =
            { windows with
              roots := Function.update windows.roots letter
                (some { descriptor with dacl := dacl }) }) := by
  unfold setVolumeDacl
  split
  · exact Or.inl rfl
  · rename_i descriptor mounted
    split
    · exact Or.inl rfl
    · dsimp only
      split
      · exact Or.inr ⟨descriptor, mounted, rfl, Or.inl rfl⟩
      · exact Or.inr ⟨descriptor, mounted, rfl, Or.inr rfl⟩

/-- Setting the access list of a volume restricts it. -/
theorem restrictsAt_setVolumeDacl {agent after : UsbAgent} {controller : DeviceController}
    (isSet : agent.controller = some controller) {windows : WindowsDevices}
    (roots : windows.roots = agent.windows.roots) (dacl : String) (letter : Char)
    (controllerAfter : after.controller =
      some (controller.setVolumeDacl dacl calls letter windows).2.1)
    (windowsAfter : after.windows = (controller.setVolumeDacl dacl calls letter windows).2.2) :
    RestrictsAt letter agent after := by
  rcases controller.setVolumeDacl_cases calls dacl letter windows with
    unchanged | ⟨descriptor, mounted, cached, set⟩
  · rw [unchanged] at controllerAfter windowsAfter
    refine RestrictsAt.of_eq ?_ (by rw [windowsAfter, roots])
    funext other
    rw [UsbAgent.backup, UsbAgent.backup, controllerAfter, isSet]
  · rw [cached] at controllerAfter
    have rootsAfter : ∃ newDacl, after.windows.roots =
        Function.update agent.windows.roots letter (some { descriptor with dacl := newDacl }) := by
      rcases set with same | replaced
      · refine ⟨descriptor.dacl, ?_⟩
        rw [windowsAfter, same, roots, eq_comm, Function.update_eq_self_iff, ← roots, mounted]
      · exact ⟨dacl, by rw [windowsAfter, replaced, ← roots]⟩
    obtain ⟨newDacl, rootsAfter⟩ := rootsAfter
    constructor
    · intro other isOther
      constructor
      · simp [UsbAgent.backup, controllerAfter, isSet, Function.update_of_ne isOther]
      · rw [rootsAfter, Function.update_of_ne isOther]
    · refine Or.inr ⟨descriptor, newDacl, roots ▸ mounted, ?_, ?_⟩
      · simp [UsbAgent.backup, controllerAfter]
      · rw [rootsAfter, Function.update_self]

variable (notification : Notification) (agent : UsbAgent) (letter : Char)

@[simp]
theorem UsbAgent.applyTierEnforcement_detector :
    (agent.applyTierEnforcement notification letter identity dbccName).2.detector =
      agent.detector := by
  unfold applyTierEnforcement
  split
  · rfl
  · dsimp only
    split <;> rfl

@[simp]
theorem UsbAgent.applyTierEnforcement_arrivals :
    (agent.applyTierEnforcement notification letter identity dbccName).2.arrivals =
      agent.arrivals := by
  unfold applyTierEnforcement
  split
  · rfl
  · dsimp only
    split <;> rfl

theorem UsbAgent.applyTierEnforcement_of_no_controller (unset : agent.controller = none) :
    (agent.applyTierEnforcement notification letter identity dbccName).2 = agent := by
  simp only [applyTierEnforcement, unset]

/-- The enforcement of a tier restricts the volume, or leaves it as it is. -/
theorem restrictsAt_applyTierEnforcement :
    RestrictsAt letter agent
      (agent.applyTierEnforcement notification letter identity dbccName).2 := by
  unfold UsbAgent.applyTierEnforcement
  split
  · exact RestrictsAt.of_eq rfl rfl
  · rename_i controller isSet
    dsimp only
    split
    · exact restrictsAt_setVolumeDacl notification.calls isSet
        (disableUsbDeviceWithRetryBlocking_roots ..) DeviceController.denyAllDacl letter rfl rfl
    · exact restrictsAt_setVolumeDacl notification.calls isSet rfl
        DeviceController.readonlyDacl letter rfl rfl
    · exact RestrictsAt.of_eq rfl rfl

end Controller

/-! ## What the handlers change -/

namespace UsbAgent

section Handlers

variable (notification : Notification) (agent : UsbAgent)

@[simp]
theorem assign_detector (letter : Char) (identity : DeviceIdentity) (dbccName : String) :
    (agent.assign notification letter identity dbccName).detector =
      { agent.detector with
        deviceIdentities :=
          Function.update agent.detector.deviceIdentities letter (some identity) } := by
  simp only [assign, applyTierEnforcement_detector]

theorem assign_of_no_controller (letter : Char) (identity : DeviceIdentity) (dbccName : String)
    (unset : agent.controller = none) :
    (agent.assign notification letter identity dbccName).controller = none ∧
      (agent.assign notification letter identity dbccName).windows = agent.windows := by
  let mapped : UsbAgent := { agent with
    detector.deviceIdentities :=
      Function.update agent.detector.deviceIdentities letter (some identity) }
  have kept := applyTierEnforcement_of_no_controller dbccName identity notification mapped letter
    unset
  rw [assign]
  exact ⟨(congrArg controller kept).trans unset, (congrArg windows kept).trans rfl⟩

theorem restrictsAt_assign (letter : Char) (identity : DeviceIdentity) (dbccName : String) :
    RestrictsAt letter agent (agent.assign notification letter identity dbccName) := by
  let mapped : UsbAgent := { agent with
    detector.deviceIdentities :=
      Function.update agent.detector.deviceIdentities letter (some identity) }
  have enforced := restrictsAt_applyTierEnforcement dbccName identity notification mapped letter
  exact ⟨enforced.others, enforced.here⟩

/-- The detector after the loop body of an arrival.  Whatever was pending is used up. -/
theorem arrive_detector (letter : Char) :
    (arrive notification agent letter).detector =
      { blockedDrives :=
          if notification.still letter.toUpper then
            Function.update agent.detector.blockedDrives letter.toUpper true
          else agent.detector.blockedDrives
        deviceIdentities :=
          match agent.detector.pendingIdentity with
          | none => agent.detector.deviceIdentities
          | some identity =>
              Function.update agent.detector.deviceIdentities letter (some identity)
        pendingIdentity := none
        volumeClassMap :=
          match notification.classifyDrive letter with
          | none => agent.detector.volumeClassMap
          | some volumeClass =>
              Function.update agent.detector.volumeClassMap letter
                (some (volumeClass, notification.now)) } := by
  rcases agent with ⟨⟨⟨blocked, identities⟩, pending, classes⟩, controller, windows, arrivals⟩
  cases pending with
  | none =>
      simp only [arrive, emitVolumeArrival, onDriveArrival]
      cases notification.classifyDrive letter <;> cases notification.still letter.toUpper <;>
        cases notification.auditReady <;> rfl
  | some identity =>
      simp only [arrive, emitVolumeArrival, onDriveArrival]
      cases notification.classifyDrive letter <;> cases notification.still letter.toUpper <;>
        cases notification.auditReady <;>
        simp [cacheClass, reconcilePendingIdentity]

theorem restrictsAt_arrive (letter : Char) :
    RestrictsAt letter agent (arrive notification agent letter) := by
  have blocked : ∀ letter, (agent.onDriveArrival notification letter).backup = agent.backup ∧
      (agent.onDriveArrival notification letter).windows = agent.windows := by
    intro letter
    unfold onDriveArrival
    dsimp only
    split <;> exact ⟨rfl, rfl⟩
  have rest (left : UsbAgent) : ∀ answer,
      ((left.cacheClass letter notification.now answer).emitVolumeArrival notification
          letter).backup = left.backup ∧
        ((left.cacheClass letter notification.now answer).emitVolumeArrival notification
          letter).windows = left.windows := by
    intro answer
    unfold emitVolumeArrival
    cases answer <;> split <;> exact ⟨rfl, rfl⟩
  have reconciled : RestrictsAt letter (agent.onDriveArrival notification letter)
      ((agent.onDriveArrival notification letter).reconcilePendingIdentity notification
        letter) := by
    unfold reconcilePendingIdentity
    split
    · exact RestrictsAt.of_eq rfl rfl
    · rename_i identity pending
      have assigned := restrictsAt_assign notification
        { agent.onDriveArrival notification letter with detector.pendingIdentity := none } letter
        identity ""
      exact ⟨assigned.others, assigned.here⟩
  have last := rest ((agent.onDriveArrival notification letter).reconcilePendingIdentity
    notification letter) (notification.classifyDrive letter)
  constructor
  · intro other isOther
    rw [arrive, last.1, last.2, ← (blocked letter).1, ← (blocked letter).2]
    exact reconciled.others other isOther
  · rw [arrive, last.1, last.2, ← (blocked letter).1, ← (blocked letter).2]
    exact reconciled.here

/-- The letters that an arrival handles are among the scanned ones. -/
theorem mem_driveLetters_of_mem_filter {letter : Char} {test : Char → Bool}
    (member : letter ∈ notification.order.filter test) : letter ∈ driveLetters :=
  notification.mem_order.mp (List.mem_of_mem_filter member)

theorem foldl_arrive_blocked (letters : List Char)
    (known : ∀ letter ∈ letters, letter ∈ driveLetters) (letter : Char) :
    (letters.foldl (arrive notification) agent).detector.blockedDrives letter =
      (agent.detector.blockedDrives letter ||
        (decide (letter ∈ letters) && notification.still letter)) := by
  induction letters generalizing agent with
  | nil => simp
  | cons first rest ih =>
      rw [List.foldl_cons, ih _ fun letter member => known letter (List.mem_cons_of_mem _ member),
        arrive_detector]
      dsimp only
      rw [toUpper_of_mem (known first List.mem_cons_self)]
      by_cases isFirst : letter = first
      · subst isFirst
        cases notification.still letter <;> simp
      · cases notification.still first <;> simp [isFirst]

/-- Without a pending identity an arrival maps no letter. -/
theorem foldl_arrive_of_none (letters : List Char)
    (nothing : agent.detector.pendingIdentity = none) :
    (letters.foldl (arrive notification) agent).detector.deviceIdentities =
        agent.detector.deviceIdentities ∧
      (letters.foldl (arrive notification) agent).detector.pendingIdentity = none := by
  induction letters generalizing agent with
  | nil => exact ⟨rfl, nothing⟩
  | cons first rest ih =>
      have body := arrive_detector notification agent first
      rw [nothing] at body
      rw [List.foldl_cons]
      rcases ih (arrive notification agent first) (by rw [body]) with ⟨identities, pending⟩
      exact ⟨identities.trans (by rw [body]), pending⟩

/-- A pending identity goes to the first of the new letters. -/
theorem foldl_arrive_of_some (first : Char) (rest : List Char) {identity : DeviceIdentity}
    (parked : agent.detector.pendingIdentity = some identity) :
    ((first :: rest).foldl (arrive notification) agent).detector.deviceIdentities =
        Function.update agent.detector.deviceIdentities first (some identity) ∧
      ((first :: rest).foldl (arrive notification) agent).detector.pendingIdentity = none := by
  have body := arrive_detector notification agent first
  rw [parked] at body
  rw [List.foldl_cons]
  rcases foldl_arrive_of_none notification (arrive notification agent first) rest (by rw [body])
    with ⟨identities, pending⟩
  exact ⟨identities.trans (by rw [body]), pending⟩

theorem foldl_depart_blocked (letters : List Char)
    (known : ∀ letter ∈ letters, letter ∈ driveLetters) (letter : Char) :
    (letters.foldl depart agent).detector.blockedDrives letter =
      (agent.detector.blockedDrives letter && !decide (letter ∈ letters)) := by
  induction letters generalizing agent with
  | nil => simp
  | cons first rest ih =>
      rw [List.foldl_cons, ih _ fun letter member => known letter (List.mem_cons_of_mem _ member)]
      dsimp only [depart, onDriveRemoval]
      rw [toUpper_of_mem (known first List.mem_cons_self)]
      by_cases isFirst : letter = first
      · simp [isFirst]
      · simp [isFirst]

/-- A removal changes the blocked letters and the class map only. -/
theorem foldl_depart_others (letters : List Char) :
    (letters.foldl depart agent).detector.deviceIdentities = agent.detector.deviceIdentities ∧
      (letters.foldl depart agent).detector.pendingIdentity = agent.detector.pendingIdentity ∧
      (letters.foldl depart agent).controller = agent.controller ∧
      (letters.foldl depart agent).windows = agent.windows := by
  induction letters generalizing agent with
  | nil => exact ⟨rfl, rfl, rfl, rfl⟩
  | cons first rest ih => exact ih (agent.depart first)

theorem handleVolumeArrival_blocked {letter : Char} (isLetter : letter ∈ driveLetters) :
    (agent.handleVolumeArrival notification).detector.blockedDrives letter =
      (agent.detector.blockedDrives letter ||
        (notification.present letter && notification.still letter)) := by
  rw [handleVolumeArrival, foldl_arrive_blocked _ _ _ fun letter member =>
    mem_driveLetters_of_mem_filter notification member]
  have member := notification.mem_order.mpr isLetter
  cases blocked : agent.detector.blockedDrives letter <;>
    cases present : notification.present letter <;> simp [blocked, present, member]

theorem handleVolumeRemoval_blocked {letter : Char} (isLetter : letter ∈ driveLetters) :
    (agent.handleVolumeRemoval notification).detector.blockedDrives letter =
      (agent.detector.blockedDrives letter && notification.present letter) := by
  rw [handleVolumeRemoval, foldl_depart_blocked _ _ fun letter member =>
    mem_driveLetters_of_mem_filter notification member]
  have member := notification.mem_order.mpr isLetter
  cases blocked : agent.detector.blockedDrives letter <;>
    cases present : notification.present letter <;> simp [blocked, present, member]

/-- Without a pending identity an arrival restricts no volume. -/
theorem arrive_of_none (letter : Char) (nothing : agent.detector.pendingIdentity = none) :
    (arrive notification agent letter).backup = agent.backup ∧
      (arrive notification agent letter).windows = agent.windows := by
  have pending : (agent.onDriveArrival notification letter).detector.pendingIdentity = none := by
    unfold onDriveArrival
    dsimp only
    split <;> exact nothing
  have arrived : (agent.onDriveArrival notification letter).backup = agent.backup ∧
      (agent.onDriveArrival notification letter).windows = agent.windows := by
    unfold onDriveArrival
    dsimp only
    split <;> exact ⟨rfl, rfl⟩
  rw [← arrived.1, ← arrived.2, arrive, reconcilePendingIdentity, pending, emitVolumeArrival]
  cases notification.classifyDrive letter <;> split <;> exact ⟨rfl, rfl⟩

/-- The identity that a device gets. -/
def arrivedIdentity (devicePath description : String) : DeviceIdentity :=
  { parseUsbDevicePath devicePath with description := description }

/-- The only drive without an identity gets the one of an arriving device. -/
theorem onUsbDeviceArrival_of_singleton (devicePath description : String) {letter : Char}
    (only : agent.unmapped notification = [letter]) :
    (agent.onUsbDeviceArrival notification devicePath description).detector =
        { agent.detector with
          deviceIdentities := Function.update agent.detector.deviceIdentities letter
            (some (arrivedIdentity devicePath description))
          pendingIdentity := none } ∧
      RestrictsAt letter agent
        (agent.onUsbDeviceArrival notification devicePath description) := by
  simp only [onUsbDeviceArrival, reconcileIdentityWithUnmappedDrive, only]
  have assigned := restrictsAt_assign notification agent letter
    (arrivedIdentity devicePath description) devicePath
  constructor
  · rw [← arrivedIdentity, assign_detector]
  · exact ⟨assigned.others, assigned.here⟩

/-- The agent with a parked identity. -/
def park (agent : UsbAgent) (identity : DeviceIdentity) : UsbAgent :=
  { agent with detector.pendingIdentity := some identity }

/-- With no or several such drives the identity is parked. -/
theorem onUsbDeviceArrival_of_not_singleton (devicePath description : String)
    (notOne : ∀ letter, agent.unmapped notification ≠ [letter]) :
    agent.onUsbDeviceArrival notification devicePath description =
      agent.park (arrivedIdentity devicePath description) := by
  have parked : ∀ identity, agent.reconcileIdentityWithUnmappedDrive notification identity
      devicePath = (none, agent) := by
    intro identity
    unfold reconcileIdentityWithUnmappedDrive
    split
    · rename_i letter one
      exact absurd one (notOne letter)
    · rfl
  simp only [onUsbDeviceArrival, parked, park, arrivedIdentity]

/-! ### Restoring a descriptor -/

/-- The descriptor at a root after a call of `restore_volume_acl`. -/
def restored (calls : WindowsCalls) (letter : Char) :
    Option VolumeDescriptor → Option VolumeDescriptor → Option VolumeDescriptor
  | some descriptor, some root =>
      match calls.setFileSecurity letter with
      | .ok () => some descriptor
      | .error _ => some root
  | _, root => root

@[simp]
theorem restored_none (calls : WindowsCalls) (letter : Char) (root : Option VolumeDescriptor) :
    restored calls letter none root = root := by
  cases root <;> rfl

@[simp]
theorem restored_unmounted (calls : WindowsCalls) (letter : Char)
    (backup : Option VolumeDescriptor) : restored calls letter backup none = none := by
  cases backup <;> rfl

theorem restoreVolumeAcl_eq (controller : DeviceController) (calls : WindowsCalls) (letter : Char)
    (windows : WindowsDevices) :
    (controller.restoreVolumeAcl calls letter windows).2 =
      (⟨Function.update controller.originalDacls letter none⟩,
        { windows with
          roots := Function.update windows.roots letter
            (restored calls letter (controller.originalDacls letter)
              (windows.roots letter)) }) := by
  have kept : { windows with
      roots := Function.update windows.roots letter (windows.roots letter) } = windows := by
    rw [Function.update_eq_self]
  unfold DeviceController.restoreVolumeAcl
  dsimp only
  split
  · rename_i missing
    rw [missing, restored_none, kept]
  · rename_i descriptor cached
    split
    · rename_i root done mounted set
      rw [cached, mounted, restored, set]
    · rename_i root error mounted failed
      rw [cached, mounted, restored, failed, ← mounted, kept]
    · rename_i unmounted
      rw [unmounted, restored_unmounted, ← unmounted, kept]

/-- The changes of `on_usb_device_removal` at the letter of the device. -/
theorem release_spec (calls : WindowsCalls) (letter : Char) (dbccName : String)
    (identity : DeviceIdentity) :
    (agent.release calls letter dbccName identity).detector = agent.detector ∧
      (agent.release calls letter dbccName identity).arrivals = agent.arrivals ∧
      (agent.release calls letter dbccName identity).backup =
        Function.update agent.backup letter none ∧
      (agent.release calls letter dbccName identity).windows.roots =
        Function.update agent.windows.roots letter
          (restored calls letter (agent.backup letter) (agent.windows.roots letter)) := by
  unfold release
  cases isSet : agent.controller with
  | none =>
      have nothing : agent.backup = fun _ => none := by
        funext letter
        rw [backup, isSet, Option.bind_none]
      refine ⟨rfl, rfl, ?_, ?_⟩
      · rw [nothing, eq_comm, Function.update_eq_self_iff]
      · rw [nothing, restored_none, Function.update_eq_self]
  | some controller =>
      have left := restoreVolumeAcl_eq controller calls letter agent.windows
      have cached : agent.backup = controller.originalDacls := by
        funext letter
        rw [backup, isSet, Option.bind_some]
      dsimp only
      rw [cached]
      refine ⟨rfl, rfl, ?_, ?_⟩
      · funext other
        exact congrFun (congrArg (fun left => left.1.originalDacls) left) other
      · exact (enableUsbDevice_roots ..).trans (congrArg (fun left => left.2.roots) left)

/-- The letter of a removed device, if it has one, loses its identity and its cached
descriptor. -/
theorem onUsbDeviceRemoval_cases (devicePath : String) :
    (agent.onUsbDeviceRemoval notification devicePath = agent ∧
        ∀ letter ∈ driveLetters, ∀ identity,
          agent.detector.deviceIdentities letter = some identity →
            identity.same (parseUsbDevicePath devicePath) = false) ∨
      ∃ letter identity, letter ∈ driveLetters ∧
        agent.detector.deviceIdentities letter = some identity ∧
        identity.same (parseUsbDevicePath devicePath) = true ∧
        (agent.onUsbDeviceRemoval notification devicePath).detector =
          { agent.detector with
            deviceIdentities := Function.update agent.detector.deviceIdentities letter none } ∧
        (agent.onUsbDeviceRemoval notification devicePath).backup =
          Function.update agent.backup letter none ∧
        (agent.onUsbDeviceRemoval notification devicePath).windows.roots =
          Function.update agent.windows.roots letter
            (restored notification.calls letter (agent.backup letter)
              (agent.windows.roots letter)) := by
  unfold onUsbDeviceRemoval
  dsimp only
  split
  · rename_i notFound
    refine Or.inl ⟨rfl, fun letter isLetter identity mapped => ?_⟩
    have passed := List.find?_eq_none.mp notFound letter (notification.mem_order.mpr isLetter)
    simpa [mapped] using passed
  · rename_i letter found
    have passes := List.find?_some found
    cases mapped : agent.detector.deviceIdentities letter with
    | none => simp [mapped] at passes
    | some identity =>
        rcases agent.release_spec notification.calls letter devicePath
          (parseUsbDevicePath devicePath) with ⟨detector, _, backups, roots⟩
        refine Or.inr ⟨letter, identity,
          notification.mem_order.mp (List.mem_of_find?_eq_some found),
          mapped, by simpa [mapped] using passes, ?_, ?_, roots⟩
        · rw [detector]
        · exact backups

end Handlers

end UsbAgent

end DlpSystem.Agent
