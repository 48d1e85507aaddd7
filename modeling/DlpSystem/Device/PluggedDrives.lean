import DlpSystem.Agent.UsbVolumes
import DlpSystem.Lib.EventRun

/-!
# Drives that are plugged in and out

What the detector and the controller know over a whole run: which letters are blocked, which
device a letter belongs to, and which descriptors are put back.
-/

namespace DlpSystem.Devices

open Abac Agent Lib

/-! ## Blocked letters -/

section Steps

variable (agent : UsbAgent) (notification : Notification)

theorem onUsbDeviceArrival_blocked (devicePath description : String) :
    (agent.onUsbDeviceArrival notification devicePath description).detector.blockedDrives =
      agent.detector.blockedDrives := by
  by_cases one : ∃ letter, agent.unmapped notification = [letter]
  · obtain ⟨letter, only⟩ := one
    rw [(agent.onUsbDeviceArrival_of_singleton notification devicePath description only).1]
  · rw [agent.onUsbDeviceArrival_of_not_singleton notification devicePath description
      fun letter only => one ⟨letter, only⟩]
    rfl

theorem onUsbDeviceRemoval_blocked (devicePath : String) :
    (agent.onUsbDeviceRemoval notification devicePath).detector.blockedDrives =
      agent.detector.blockedDrives := by
  rcases agent.onUsbDeviceRemoval_cases notification devicePath with
    ⟨same, _⟩ | ⟨letter, identity, _, _, _, detector, _, _⟩
  · rw [same]
  · rw [detector]

/-- A query of a volume class changes the class map only. -/
theorem getVolumeClassForPipeQuery_others (driveLetter : Char) :
    (agent.getVolumeClassForPipeQuery notification driveLetter).2.detector.toVolumeDetector =
        agent.detector.toVolumeDetector ∧
      (agent.getVolumeClassForPipeQuery notification driveLetter).2.detector.pendingIdentity =
        agent.detector.pendingIdentity ∧
      (agent.getVolumeClassForPipeQuery notification driveLetter).2.controller =
        agent.controller ∧
      (agent.getVolumeClassForPipeQuery notification driveLetter).2.windows = agent.windows := by
  have classified (answer : Option VolumeClass) (letter : Char) :
      (agent.cacheClass letter notification.now answer).detector.toVolumeDetector =
          agent.detector.toVolumeDetector ∧
        (agent.cacheClass letter notification.now answer).detector.pendingIdentity =
          agent.detector.pendingIdentity ∧
        (agent.cacheClass letter notification.now answer).controller = agent.controller ∧
        (agent.cacheClass letter notification.now answer).windows = agent.windows := by
    cases answer <;> exact ⟨rfl, rfl, rfl, rfl⟩
  unfold UsbAgent.getVolumeClassForPipeQuery
  dsimp only
  split
  · split
    · exact ⟨rfl, rfl, rfl, rfl⟩
    · exact classified _ _
  · exact classified _ _

end Steps

/-- All removals of a run saw the drive at a letter. -/
def Stays (letter : Char) (events : List UsbEvent) : Prop :=
  ∀ notification, .volume false notification ∈ events → notification.present letter = true

/-- An arrival of a run saw the drive at a letter in both of its scans, and so did the removals
after it. -/
def Came (letter : Char) (events : List UsbEvent) : Prop :=
  ∃ before notification after, events = before ++ .volume true notification :: after ∧
    notification.present letter = true ∧ notification.still letter = true ∧ Stays letter after

/-- The arrival at a letter. -/
def Brings (letter : Char) : UsbEvent → Prop
  | .volume true notification =>
      notification.present letter = true ∧ notification.still letter = true
  | _ => False

theorem stays_append {letter : Char} {before after : List UsbEvent} :
    Stays letter (before ++ after) ↔ Stays letter before ∧ Stays letter after := by
  simp only [Stays, List.mem_append, or_imp, forall_and]

theorem came_concat {letter : Char} {events : List UsbEvent} {event : UsbEvent} :
    Came letter (events ++ [event]) ↔
      Came letter events ∧ Stays letter [event] ∨ Brings letter event := by
  constructor
  · rintro ⟨before, notification, after, run, present, still, stays⟩
    rcases List.eq_nil_or_concat after with rfl | ⟨after, last, rfl⟩
    · obtain ⟨rfl, same⟩ := List.append_inj' run rfl
      cases same
      exact Or.inr ⟨present, still⟩
    · rw [List.concat_eq_append] at run stays
      rw [← List.cons_append, ← List.append_assoc] at run
      obtain ⟨rfl, same⟩ := List.append_inj' run rfl
      cases same
      rw [stays_append] at stays
      exact Or.inl ⟨⟨before, notification, after, rfl, present, still, stays.1⟩, stays.2⟩
  · rintro (⟨⟨before, notification, after, rfl, present, still, stays⟩, last⟩ | brings)
    · exact ⟨before, notification, after ++ [event], by simp, present, still,
        stays_append.mpr ⟨stays, last⟩⟩
    · match event, brings with
      | .volume true notification, ⟨present, still⟩ =>
          exact ⟨events, notification, [], rfl, present, still, fun _ member => by cases member⟩

/-- One step blocks a letter if it brings the drive, and keeps it blocked unless it misses it. -/
theorem step_blocked_iff (agent : UsbAgent) (event : UsbEvent) {letter : Char}
    (isLetter : letter ∈ driveLetters) :
    (agent.step event).detector.blockedDrives letter = true ↔
      agent.detector.blockedDrives letter = true ∧ Stays letter [event] ∨ Brings letter event := by
  have stays : (∀ notification, event ≠ .volume false notification) → Stays letter [event] :=
    fun other notification member => absurd (List.mem_singleton.mp member).symm (other notification)
  match event with
  | .root root descriptor =>
      simp only [Brings, or_false]
      exact ⟨fun blocked => ⟨blocked, stays (by simp)⟩, And.left⟩
  | .volume true notification =>
      change (agent.handleVolumeArrival notification).detector.blockedDrives letter = true ↔ _
      rw [UsbAgent.handleVolumeArrival_blocked _ _ isLetter, Bool.or_eq_true, Bool.and_eq_true]
      exact or_congr ⟨fun blocked => ⟨blocked, stays (by simp)⟩, And.left⟩ Iff.rfl
  | .volume false notification =>
      change (agent.handleVolumeRemoval notification).detector.blockedDrives letter = true ↔ _
      rw [UsbAgent.handleVolumeRemoval_blocked _ _ isLetter, Bool.and_eq_true]
      simp [Stays, Brings]
  | .deviceArrival devicePath description notification =>
      simp only [UsbAgent.step, onUsbDeviceArrival_blocked, Brings, or_false]
      exact ⟨fun blocked => ⟨blocked, stays (by simp)⟩, And.left⟩
  | .deviceRemoval devicePath notification =>
      simp only [UsbAgent.step, onUsbDeviceRemoval_blocked, Brings, or_false]
      exact ⟨fun blocked => ⟨blocked, stays (by simp)⟩, And.left⟩
  | .classQuery driveLetter notification =>
      simp only [UsbAgent.step, Brings, or_false]
      rw [(getVolumeClassForPipeQuery_others agent notification driveLetter).1]
      exact ⟨fun blocked => ⟨blocked, stays (by simp)⟩, And.left⟩

theorem run_blocked_iff (agent : UsbAgent) (events : List UsbEvent) {letter : Char}
    (isLetter : letter ∈ driveLetters) :
    (agent.run events).detector.blockedDrives letter = true ↔
      agent.detector.blockedDrives letter = true ∧ Stays letter events ∨ Came letter events := by
  induction events using List.reverseRecOn with
  | nil =>
      constructor
      · exact fun blocked => Or.inl ⟨blocked, fun _ member => by cases member⟩
      · rintro (⟨blocked, -⟩ | ⟨before, notification, after, empty, -⟩)
        · exact blocked
        · exact absurd empty (by simp)
  | append_singleton events event ih =>
      rw [UsbAgent.run, List.foldl_concat, step_blocked_iff _ _ isLetter, came_concat,
        stays_append, ← UsbAgent.run, ih]
      tauto

/-! ## The start of the service -/

theorem foldl_scan (agent : UsbAgent) (notification : Notification) (letters : List Char) :
    letters.foldl
        (fun (agent : UsbAgent) letter =>
          if notification.present letter then
            { agent with
              detector.blockedDrives := Function.update agent.detector.blockedDrives letter true }
          else agent)
        agent =
      { agent with
        detector.blockedDrives := fun letter =>
          agent.detector.blockedDrives letter ||
            (decide (letter ∈ letters) && notification.present letter) } := by
  induction letters generalizing agent with
  | nil => simp
  | cons first rest ih =>
      rw [List.foldl_cons, ih]
      have pointwise : ∀ letter,
          ((if notification.present first then
              { agent with
                detector.blockedDrives :=
                  Function.update agent.detector.blockedDrives first true }
            else agent : UsbAgent).detector.blockedDrives letter ||
              (decide (letter ∈ rest) && notification.present letter)) =
            (agent.detector.blockedDrives letter ||
              (decide (letter ∈ first :: rest) && notification.present letter)) := by
        intro letter
        by_cases isFirst : letter = first
        · subst isFirst
          cases notification.present letter <;> simp
        · cases notification.present first <;> simp [isFirst]
      simp only [pointwise]
      split <;> rfl

/-- The scan of the devices neither blocks a letter nor reaches Windows. -/
theorem scanExistingUsbIdentities_spec (agent : UsbAgent) (notification : Notification)
    (identities : List DeviceIdentity) (unset : agent.controller = none) :
    (agent.scanExistingUsbIdentities notification identities).detector.blockedDrives =
        agent.detector.blockedDrives ∧
      (agent.scanExistingUsbIdentities notification identities).controller = none ∧
      (agent.scanExistingUsbIdentities notification identities).windows = agent.windows := by
  unfold UsbAgent.scanExistingUsbIdentities
  induction identities generalizing agent with
  | nil => exact ⟨rfl, unset, rfl⟩
  | cons identity rest ih =>
      have body : (agent.scanIdentity notification identity).detector.blockedDrives =
            agent.detector.blockedDrives ∧
          (agent.scanIdentity notification identity).controller = none ∧
          (agent.scanIdentity notification identity).windows = agent.windows := by
        unfold UsbAgent.scanIdentity
        split
        · exact ⟨rfl, unset, rfl⟩
        · rcases agent.unmapped notification with _ | ⟨letter, _ | ⟨second, rest⟩⟩
          · exact ⟨rfl, unset, rfl⟩
          · rcases agent.assign_of_no_controller notification letter identity "" unset with
              ⟨controller, windows⟩
            exact ⟨by rw [UsbAgent.assign_detector], controller, windows⟩
          · dsimp only
            cases agent.detector.pendingIdentity <;> exact ⟨rfl, unset, rfl⟩
      rcases ih (agent.scanIdentity notification identity) body.2.1 with
        ⟨blocked, controller, windows⟩
      exact ⟨blocked.trans body.1, controller, windows.trans body.2.2⟩

/-- Calls that succeed, for a device that is found by its serial number. -/
def workingCalls : WindowsCalls where
  getFileSecurity _ := .ok ()
  setFileSecurity _ := .ok ()
  resolveInstanceIdFromDbccName _ _ := .error (.configManager 0x13)
  findInstanceIdByVidPidSerial _ identity := .ok ("USB\\" ++ identity.serial)
  locateDevNode _ _ := 0
  changeDevNode _ _ := 0

/-- A notification without a registry, whose scans see some letters. -/
def noticeSeeing (letters : List Char) : Notification where
  calls := workingCalls
  settings := ⟨none, none, none, none⟩
  present letter := letter ∈ letters
  still letter := letter ∈ letters
  classifyDrive _ := some .usbRemovable
  auditReady := true
  order := driveLetters
  ordered := .refl driveLetters
  now := 0

/-- Volumes that nobody has restricted. -/
def openDescriptor : VolumeDescriptor :=
  ⟨"O:BAG:SY", "D:(A;;FA;;;WD)"⟩

/-- Windows before any drive is plugged in. -/
def noVolumes : WindowsDevices :=
  ⟨fun _ => none, fun _ => false⟩

section Start

variable (windows : WindowsDevices) (notification : Notification)
  (connected : List DeviceIdentity)

/-- The start blocks the drives that it sees, and changes nothing of Windows, because the
controller is set too late. -/
theorem start_spec :
    (UsbAgent.start windows notification connected).detector.blockedDrives =
        (fun letter => decide (letter ∈ driveLetters) && notification.present letter) ∧
      (UsbAgent.start windows notification connected).windows = windows ∧
      (UsbAgent.start windows notification connected).backup = fun _ => none := by
  have scanned := foldl_scan ⟨.new, none, windows, []⟩ notification driveLetters
  rw [← UsbAgent.scanExistingDrives] at scanned
  rcases scanExistingUsbIdentities_spec
    ((UsbAgent.mk .new none windows []).scanExistingDrives notification) notification connected
    (by rw [scanned]) with ⟨blocked, _, kept⟩
  refine ⟨?_, ?_, ?_⟩
  · refine blocked.trans ?_
    rw [scanned]
    funext letter
    exact Bool.false_or _
  · refine kept.trans ?_
    rw [scanned]
  · rfl

/-- After a run a letter is blocked if its drive was there at the start or came later, and no
removal since has missed it. -/
theorem blocked_after_iff (events : List UsbEvent) {letter : Char}
    (isLetter : letter ∈ driveLetters) :
    ((UsbAgent.start windows notification connected).run events).detector.blockedDrives letter =
        true ↔
      notification.present letter = true ∧ Stays letter events ∨ Came letter events := by
  rw [run_blocked_iff _ _ isLetter, (start_spec windows notification connected).1]
  simp [isLetter]

end Start

/-- A stick at `E`, a removal that misses it, and the stick again. -/
def comesAgain : List UsbEvent :=
  [.volume true (noticeSeeing ['E']), .volume false (noticeSeeing []),
    .volume true (noticeSeeing ['E', 'F']), .volume false (noticeSeeing ['E'])]

/-- Between the two arrivals the letter is free. -/
theorem blocked_after_iff_comesAgain :
    ((UsbAgent.start noVolumes (noticeSeeing []) []).run
        (comesAgain.take 2)).detector.blockedDrives 'E' = false ∧
      ((UsbAgent.start noVolumes (noticeSeeing []) []).run
        comesAgain).detector.blockedDrives 'E' = true := by
  refine ⟨by decide +kernel, ?_⟩
  apply (blocked_after_iff noVolumes (noticeSeeing []) [] _ (by decide)).mpr
  refine Or.inr ⟨comesAgain.take 2, noticeSeeing ['E', 'F'], comesAgain.drop 3, rfl, by decide,
    by decide, ?_⟩
  intro notification removal
  obtain ⟨⟩ := List.mem_singleton.mp removal
  decide

/-! ## One drive after the other -/

/-- A drive: its device, and the descriptor that its volume came with. -/
structure Drive where
  identity : DeviceIdentity
  descriptor : VolumeDescriptor
  deriving DecidableEq

/-- The drives by their letters. -/
abbrev Drives := Char → Option Drive

/-- A scan that sees the drives. -/
def Sees (notification : Notification) (drives : Drives) : Prop :=
  ∀ letter ∈ driveLetters, notification.present letter = (drives letter).isSome

instance (notification : Notification) (drives : Drives) : Decidable (Sees notification drives) :=
  decidable_of_iff
    ((driveLetters.all fun letter =>
      notification.present letter == (drives letter).isSome) = true)
    (by simp only [Sees, List.all_eq_true, beq_iff_eq])

/-- No drive has a device. -/
def LacksDevice (drives : Drives) (identity : DeviceIdentity) : Prop :=
  ∀ letter ∈ driveLetters, ∀ drive ∈ drives letter, drive.identity.same identity = false

instance (drives : Drives) (identity : DeviceIdentity) : Decidable (LacksDevice drives identity) :=
  decidable_of_iff
    ((driveLetters.all fun letter =>
      (drives letter).all fun drive => !drive.identity.same identity) = true)
    (by simp only [LacksDevice, List.all_eq_true, Option.all_eq_true, Bool.not_eq_true',
          Option.mem_def])

/-- A drive is plugged in or out, and Windows gives its two notifications in either order. -/
inductive Plugging
  | plug (letter : Char) (devicePath description : String) (descriptor : VolumeDescriptor)
    (volumeFirst : Bool) (onVolume onDevice : Notification)
  | unplug (letter : Char) (devicePath : String) (volumeFirst : Bool)
    (onVolume onDevice : Notification)

namespace Plugging

/-- What the agent meets. -/
def events : Plugging → List UsbEvent
  | .plug letter devicePath description descriptor volumeFirst onVolume onDevice =>
      .root letter (some descriptor) ::
        if volumeFirst then
          [.volume true onVolume, .deviceArrival devicePath description onDevice]
        else [.deviceArrival devicePath description onDevice, .volume true onVolume]
  | .unplug letter devicePath volumeFirst onVolume onDevice =>
      .root letter none ::
        if volumeFirst then [.volume false onVolume, .deviceRemoval devicePath onDevice]
        else [.deviceRemoval devicePath onDevice, .volume false onVolume]

/-- The drives that are left. -/
def drives (drives : Drives) : Plugging → Drives
  | .plug letter devicePath description descriptor _ _ _ =>
      Function.update drives letter
        (some ⟨UsbAgent.arrivedIdentity devicePath description, descriptor⟩)
  | .unplug letter _ _ _ _ => Function.update drives letter none

/-- A new drive gets a free letter and is no copy of another one, and scans see what is there. -/
def Fits (drives : Drives) : Plugging → Prop
  | .plug letter devicePath description descriptor volumeFirst onVolume onDevice =>
      letter ∈ driveLetters ∧ drives letter = none ∧
        LacksDevice drives (UsbAgent.arrivedIdentity devicePath description) ∧
        Sees onVolume ((Plugging.plug letter devicePath description descriptor volumeFirst onVolume
          onDevice).drives drives) ∧
        onVolume.still letter = true
  | .unplug letter devicePath volumeFirst onVolume onDevice =>
      (∃ drive ∈ drives letter, drive.identity.same (parseUsbDevicePath devicePath) = true) ∧
        Sees onVolume ((Plugging.unplug letter devicePath volumeFirst onVolume onDevice).drives
          drives)

instance (drives : Drives) : ∀ plugging : Plugging, Decidable (plugging.Fits drives)
  | .plug .. => inferInstanceAs (Decidable (_ ∧ _ ∧ _ ∧ _ ∧ _))
  | .unplug .. => inferInstanceAs (Decidable (_ ∧ _))

end Plugging

/-- The drives after some pluggings. -/
def drivesAfter (pluggings : List Plugging) : Drives :=
  pluggings.foldl Plugging.drives fun _ => none

/-- Every plugging fits the drives that it meets. -/
def AllFit (pluggings : List Plugging) : Prop :=
  Each Plugging.drives Plugging.Fits (fun _ => none) pluggings

/-- A stick at `E`, and one at `F` while it is there; then the first one goes. -/
def twoSticks : List Plugging :=
  [.plug 'E' "\\\\?\\USB#VID_0951&PID_1666#A1#{guid}" "stick" openDescriptor false
      (noticeSeeing ['E']) (noticeSeeing []),
    .plug 'F' "\\\\?\\USB#VID_0951&PID_1666#B2#{guid}" "stick" openDescriptor true
      (noticeSeeing ['E', 'F']) (noticeSeeing []),
    .unplug 'E' "\\\\?\\USB#VID_0951&PID_1666#A1#{guid}" true (noticeSeeing ['F'])
      (noticeSeeing [])]

theorem allFit_twoSticks : AllFit twoSticks := by
  unfold AllFit
  decide +kernel

/-- The volume at a letter can be put back: it has its descriptor, or this one is cached and only
the access list is another one. -/
def Restorable (agent : UsbAgent) (letter : Char) (descriptor : VolumeDescriptor) : Prop :=
  (agent.backup letter = none ∧ agent.windows.roots letter = some descriptor) ∨
    (agent.backup letter = some descriptor ∧
      ∃ dacl, agent.windows.roots letter = some { descriptor with dacl := dacl })

/-- The agent knows the drives. -/
structure Tracks (drives : Drives) (agent : UsbAgent) : Prop where
  letters : ∀ letter drive, drives letter = some drive → letter ∈ driveLetters
  distinct : ∀ letter other drive copy, drives letter = some drive → drives other = some copy →
    drive.identity.same copy.identity = true → letter = other
  blocked : ∀ letter, agent.detector.blockedDrives letter = (drives letter).isSome
  identities : ∀ letter,
    agent.detector.deviceIdentities letter = (drives letter).map Drive.identity
  nothingPending : agent.detector.pendingIdentity = none
  restorable : ∀ letter drive, drives letter = some drive →
    Restorable agent letter drive.descriptor
  noOtherBackup : ∀ letter, drives letter = none → agent.backup letter = none

theorem same_iff (first second : DeviceIdentity) :
    first.same second = true ↔
      first.vid = second.vid ∧ first.pid = second.pid ∧ first.serial = second.serial := by
  simp [DeviceIdentity.same, and_assoc]

/-- The only new letter is the only one that an arrival handles. -/
theorem handleVolumeArrival_of_only (agent : UsbAgent) (notification : Notification)
    {letter : Char} (isLetter : letter ∈ driveLetters)
    (free : agent.detector.blockedDrives letter = false)
    (sees : ∀ other ∈ driveLetters, notification.present other = true ↔
      agent.detector.blockedDrives other = true ∨ other = letter) :
    agent.handleVolumeArrival notification = UsbAgent.arrive notification agent letter := by
  have only : ∀ other ∈ driveLetters,
      (notification.present other && !agent.detector.blockedDrives other) = true ↔
        other = letter := by
    intro other isOther
    rw [Bool.and_eq_true, Bool.not_eq_true', sees other isOther]
    constructor
    · rintro ⟨blocked | new, unblocked⟩
      · rw [blocked] at unblocked
        cases unblocked
      · exact new
    · rintro rfl
      exact ⟨Or.inr rfl, free⟩
  rw [UsbAgent.handleVolumeArrival, notification.filter_eq_singleton isLetter only]
  rfl

/-- The agent when one drive is plugged in while every other drive has its identity. -/
theorem plug_spec (agent : UsbAgent) {letter : Char} (isLetter : letter ∈ driveLetters)
    (free : agent.detector.blockedDrives letter = false)
    (unknown : agent.detector.deviceIdentities letter = none)
    (mapped : ∀ other ∈ driveLetters, agent.detector.blockedDrives other = true →
      agent.detector.deviceIdentities other ≠ none)
    (nothingPending : agent.detector.pendingIdentity = none)
    (devicePath description : String) (volumeFirst : Bool) {onVolume : Notification}
    (onDevice : Notification)
    (sees : ∀ other ∈ driveLetters, onVolume.present other = true ↔
      agent.detector.blockedDrives other = true ∨ other = letter)
    (still : onVolume.still letter = true) :
    ∃ after, agent.run
        (if volumeFirst then
          [.volume true onVolume, .deviceArrival devicePath description onDevice]
        else [.deviceArrival devicePath description onDevice, .volume true onVolume]) = after ∧
      after.detector.blockedDrives =
        Function.update agent.detector.blockedDrives letter true ∧
      after.detector.deviceIdentities =
        Function.update agent.detector.deviceIdentities letter
          (some (UsbAgent.arrivedIdentity devicePath description)) ∧
      after.detector.pendingIdentity = none ∧ RestrictsAt letter agent after := by
  refine ⟨_, rfl, ?_⟩
  cases volumeFirst with
  | false =>
      have unmapped : agent.unmapped onDevice = [] := by
        refine onDevice.filter_eq_nil fun other isOther => ?_
        cases blocked : agent.detector.blockedDrives other with
        | false => rfl
        | true =>
            have known := mapped other isOther blocked
            cases identity : agent.detector.deviceIdentities other with
            | none => exact absurd identity known
            | some identity => rfl
      have parked := agent.onUsbDeviceArrival_of_not_singleton onDevice devicePath description
        (by simp [unmapped])
      simp only [Bool.false_eq_true, if_false, UsbAgent.run, List.foldl_cons, List.foldl_nil,
        UsbAgent.step, UsbAgent.handleVolumeEvent, if_true, parked]
      generalize UsbAgent.arrivedIdentity devicePath description = identity
      rw [handleVolumeArrival_of_only (agent.park identity) onVolume isLetter free sees]
      have body := UsbAgent.arrive_detector onVolume (agent.park identity) letter
      have restricts := UsbAgent.restrictsAt_arrive onVolume (agent.park identity) letter
      rw [toUpper_of_mem isLetter, still, if_pos rfl] at body
      refine ⟨?_, ?_, ?_, restricts.others, restricts.here⟩
      · rw [body]
        rfl
      · rw [body]
        rfl
      · rw [body]
  | true =>
      simp only [if_true, UsbAgent.run, List.foldl_cons, List.foldl_nil, UsbAgent.step,
        UsbAgent.handleVolumeEvent]
      rw [handleVolumeArrival_of_only _ onVolume isLetter free sees]
      have body := UsbAgent.arrive_detector onVolume agent letter
      rw [toUpper_of_mem isLetter, still, if_pos rfl, nothingPending] at body
      rcases UsbAgent.arrive_of_none onVolume agent letter nothingPending with ⟨backups, windows⟩
      have only : (UsbAgent.arrive onVolume agent letter).unmapped onDevice = [letter] := by
        refine onDevice.filter_eq_singleton isLetter fun other isOther => ?_
        rw [body]
        by_cases new : other = letter
        · subst new
          simp [unknown]
        · have known := mapped other isOther
          cases blocked : agent.detector.blockedDrives other with
          | false => simp [blocked, new]
          | true => simpa [blocked, new] using known blocked
      rcases (UsbAgent.arrive onVolume agent letter).onUsbDeviceArrival_of_singleton onDevice
        devicePath description only with ⟨detector, restricts⟩
      refine ⟨by rw [detector, body], by rw [detector, body], by rw [detector], ?_⟩
      have others := restricts.others
      have here := restricts.here
      rw [backups, windows] at others here
      exact ⟨others, here⟩

/-- The only drive of a removed device loses its identity, and with it what was cached. -/
theorem onUsbDeviceRemoval_of_only (agent : UsbAgent) (notification : Notification)
    {letter : Char} (isLetter : letter ∈ driveLetters) {identity : DeviceIdentity}
    {devicePath : String} (known : agent.detector.deviceIdentities letter = some identity)
    (same : identity.same (parseUsbDevicePath devicePath) = true)
    (only : ∀ other copy, agent.detector.deviceIdentities other = some copy →
      copy.same (parseUsbDevicePath devicePath) = true → other = letter)
    (unmounted : agent.windows.roots letter = none) :
    (agent.onUsbDeviceRemoval notification devicePath).detector =
        { agent.detector with
          deviceIdentities := Function.update agent.detector.deviceIdentities letter none } ∧
      (agent.onUsbDeviceRemoval notification devicePath).backup =
        Function.update agent.backup letter none ∧
      (agent.onUsbDeviceRemoval notification devicePath).windows.roots = agent.windows.roots := by
  rcases agent.onUsbDeviceRemoval_cases notification devicePath with
    ⟨_, missing⟩ | ⟨found, copy, _, isCopy, sameCopy, detector, backups, roots⟩
  · rw [missing letter isLetter identity known] at same
    cases same
  · obtain rfl := only found copy isCopy sameCopy
    refine ⟨detector, backups, ?_⟩
    rw [roots, unmounted, UsbAgent.restored_unmounted, ← unmounted, Function.update_eq_self]

theorem handleVolumeRemoval_of_only (agent : UsbAgent) (notification : Notification)
    {letter : Char} (isLetter : letter ∈ driveLetters)
    (blocked : agent.detector.blockedDrives letter = true)
    (sees : ∀ other ∈ driveLetters, notification.present other = true ↔
      agent.detector.blockedDrives other = true ∧ other ≠ letter) :
    agent.handleVolumeRemoval notification = agent.depart letter := by
  have only : ∀ other ∈ driveLetters,
      (agent.detector.blockedDrives other && !notification.present other) = true ↔
        other = letter := by
    intro other isOther
    have seen := sees other isOther
    rw [Bool.and_eq_true, Bool.not_eq_true', ← Bool.not_eq_true, seen, not_and_not_right]
    constructor
    · rintro ⟨here, gone⟩
      exact gone here
    · rintro rfl
      exact ⟨blocked, fun _ => rfl⟩
  rw [UsbAgent.handleVolumeRemoval, notification.filter_eq_singleton isLetter only]
  rfl

/-- The agent when a drive is plugged out. -/
theorem unplug_spec (agent : UsbAgent) {letter : Char} (isLetter : letter ∈ driveLetters)
    (blocked : agent.detector.blockedDrives letter = true) {identity : DeviceIdentity}
    {devicePath : String} (known : agent.detector.deviceIdentities letter = some identity)
    (same : identity.same (parseUsbDevicePath devicePath) = true)
    (only : ∀ other copy, agent.detector.deviceIdentities other = some copy →
      copy.same (parseUsbDevicePath devicePath) = true → other = letter)
    (unmounted : agent.windows.roots letter = none) (volumeFirst : Bool)
    {onVolume : Notification} (onDevice : Notification)
    (sees : ∀ other ∈ driveLetters, onVolume.present other = true ↔
      agent.detector.blockedDrives other = true ∧ other ≠ letter) :
    ∃ after, agent.run
        (if volumeFirst then [.volume false onVolume, .deviceRemoval devicePath onDevice]
        else [.deviceRemoval devicePath onDevice, .volume false onVolume]) = after ∧
      after.detector.blockedDrives =
        Function.update agent.detector.blockedDrives letter false ∧
      after.detector.deviceIdentities =
        Function.update agent.detector.deviceIdentities letter none ∧
      after.detector.pendingIdentity = agent.detector.pendingIdentity ∧
      after.backup = Function.update agent.backup letter none ∧
      after.windows.roots = agent.windows.roots := by
  refine ⟨_, rfl, ?_⟩
  have departed (agent : UsbAgent) : (agent.depart letter).detector.blockedDrives =
      Function.update agent.detector.blockedDrives letter false := by
    rw [UsbAgent.depart, UsbAgent.onDriveRemoval, toUpper_of_mem isLetter]
  cases volumeFirst with
  | true =>
      simp only [if_true, UsbAgent.run, List.foldl_cons, List.foldl_nil, UsbAgent.step,
        UsbAgent.handleVolumeEvent, Bool.false_eq_true, if_false]
      rw [handleVolumeRemoval_of_only agent onVolume isLetter blocked sees]
      rcases onUsbDeviceRemoval_of_only (agent.depart letter) onDevice isLetter known same only
        unmounted with ⟨detector, backups, roots⟩
      refine ⟨?_, ?_, ?_, backups, roots⟩
      · rw [detector]
        exact departed agent
      · rw [detector]
        rfl
      · rw [detector]
        rfl
  | false =>
      simp only [UsbAgent.run, List.foldl_cons, List.foldl_nil, UsbAgent.step,
        UsbAgent.handleVolumeEvent, Bool.false_eq_true, if_false]
      rcases onUsbDeviceRemoval_of_only agent onDevice isLetter known same only unmounted with
        ⟨detector, backups, roots⟩
      have blockedDrives : (agent.onUsbDeviceRemoval onDevice devicePath).detector.blockedDrives =
          agent.detector.blockedDrives := by
        rw [detector]
      rw [handleVolumeRemoval_of_only _ onVolume isLetter (by rw [blockedDrives, blocked])
        (by rw [blockedDrives]; exact sees)]
      refine ⟨?_, ?_, ?_, backups, roots⟩
      · rw [departed, blockedDrives]
      · exact congrArg (fun left => left.deviceIdentities) detector
      · exact congrArg (fun left => left.pendingIdentity) detector

section Plugged

variable {drives : Drives} {agent after : UsbAgent} {letter : Char} {new : Drive}

/-- A new drive is no copy of one that the agent knows. -/
theorem Tracks.distinct_update (tracks : Tracks drives agent)
    (fresh : LacksDevice drives new.identity) {first second : Char} {drive copy : Drive}
    (here : Function.update drives letter (some new) first = some drive)
    (there : Function.update drives letter (some new) second = some copy)
    (same : drive.identity.same copy.identity = true) : first = second := by
  by_cases isFirst : first = letter <;> by_cases isSecond : second = letter
  · exact isFirst.trans isSecond.symm
  · rw [isFirst, Function.update_self, Option.some_inj] at here
    rw [Function.update_of_ne isSecond] at there
    have different := fresh second (tracks.letters second copy there) copy there
    rw [← here, same_iff] at same
    rw [← Bool.not_eq_true, same_iff] at different
    exact absurd ⟨same.1.symm, same.2.1.symm, same.2.2.symm⟩ different
  · rw [isSecond, Function.update_self, Option.some_inj] at there
    rw [Function.update_of_ne isFirst] at here
    have different := fresh first (tracks.letters first drive here) drive here
    rw [← there] at same
    exact absurd same (by rw [different]; decide)
  · rw [Function.update_of_ne isFirst] at here
    rw [Function.update_of_ne isSecond] at there
    exact tracks.distinct first second drive copy here there same

/-- A volume that was just mounted can be put back after the agent has met it. -/
theorem Tracks.restorable_mounted (tracks : Tracks drives agent) (free : drives letter = none)
    (restricts : RestrictsAt letter (agent.step (.root letter (some new.descriptor))) after) :
    Restorable after letter new.descriptor := by
  have isMounted : (agent.step (.root letter (some new.descriptor))).windows.roots letter =
      some new.descriptor := Function.update_self ..
  rcases restricts.here with ⟨backups, roots⟩ | ⟨found, dacl, root, backups, roots⟩
  · exact Or.inl ⟨backups.trans (tracks.noOtherBackup letter free), roots.trans isMounted⟩
  · obtain rfl := Option.some_inj.mp (root.symm.trans isMounted)
    exact Or.inr ⟨backups, dacl, roots⟩

/-- The agent knows a new drive that it has blocked and mapped, and the others as before. -/
theorem Tracks.update (tracks : Tracks drives agent) (isLetter : letter ∈ driveLetters)
    (free : drives letter = none) (fresh : LacksDevice drives new.identity)
    (blocked : after.detector.blockedDrives =
      Function.update agent.detector.blockedDrives letter true)
    (identities : after.detector.deviceIdentities =
      Function.update agent.detector.deviceIdentities letter (some new.identity))
    (nothingPending : after.detector.pendingIdentity = none)
    (restricts : RestrictsAt letter (agent.step (.root letter (some new.descriptor))) after) :
    Tracks (Function.update drives letter (some new)) after := by
  have elsewhere : ∀ other, other ≠ letter → after.backup other = agent.backup other ∧
      after.windows.roots other = agent.windows.roots other := by
    intro other isOther
    rcases restricts.others other isOther with ⟨backups, roots⟩
    exact ⟨backups, roots.trans (Function.update_of_ne isOther _ _)⟩
  constructor
  case letters =>
    intro other drive here
    by_cases isNew : other = letter
    · exact isNew ▸ isLetter
    · rw [Function.update_of_ne isNew] at here
      exact tracks.letters other drive here
  case distinct =>
    intro first second drive copy here there same
    exact tracks.distinct_update fresh here there same
  case blocked =>
    intro other
    rw [blocked]
    by_cases isNew : other = letter
    · simp [isNew]
    · rw [Function.update_of_ne isNew, Function.update_of_ne isNew]
      exact tracks.blocked other
  case identities =>
    intro other
    rw [identities]
    by_cases isNew : other = letter
    · simp [isNew]
    · rw [Function.update_of_ne isNew, Function.update_of_ne isNew]
      exact tracks.identities other
  case nothingPending => exact nothingPending
  case restorable =>
    intro other drive here
    by_cases isNew : other = letter
    · rw [isNew, Function.update_self, Option.some_inj] at here
      rw [isNew, ← here]
      exact tracks.restorable_mounted free restricts
    · rw [Function.update_of_ne isNew] at here
      rw [Restorable, (elsewhere other isNew).1, (elsewhere other isNew).2]
      exact tracks.restorable other drive here
  case noOtherBackup =>
    intro other missing
    by_cases isNew : other = letter
    · rw [isNew, Function.update_self] at missing
      cases missing
    · rw [Function.update_of_ne isNew] at missing
      rw [(elsewhere other isNew).1]
      exact tracks.noOtherBackup other missing

/-- The agent has forgotten a drive, and knows the others as before. -/
theorem Tracks.remove (tracks : Tracks drives agent)
    (blocked : after.detector.blockedDrives =
      Function.update agent.detector.blockedDrives letter false)
    (identities : after.detector.deviceIdentities =
      Function.update agent.detector.deviceIdentities letter none)
    (nothingPending : after.detector.pendingIdentity = none)
    (backups : after.backup = Function.update agent.backup letter none)
    (roots : after.windows.roots = Function.update agent.windows.roots letter none) :
    Tracks (Function.update drives letter none) after := by
  have elsewhere : ∀ other, other ≠ letter → after.backup other = agent.backup other ∧
      after.windows.roots other = agent.windows.roots other := by
    intro other isOther
    rw [backups, roots]
    exact ⟨Function.update_of_ne isOther _ _, Function.update_of_ne isOther _ _⟩
  have left : ∀ other drive, Function.update drives letter none other = some drive →
      other ≠ letter ∧ drives other = some drive := by
    intro other drive there
    by_cases old : other = letter
    · rw [old, Function.update_self] at there
      cases there
    · exact ⟨old, by rwa [Function.update_of_ne old] at there⟩
  constructor
  case letters => exact fun other drive there => tracks.letters other drive (left _ _ there).2
  case distinct =>
    exact fun first second drive copy here there same =>
      tracks.distinct first second drive copy (left _ _ here).2 (left _ _ there).2 same
  case blocked =>
    intro other
    rw [blocked]
    by_cases old : other = letter
    · simp [old]
    · rw [Function.update_of_ne old, Function.update_of_ne old]
      exact tracks.blocked other
  case identities =>
    intro other
    rw [identities]
    by_cases old : other = letter
    · simp [old]
    · rw [Function.update_of_ne old, Function.update_of_ne old]
      exact tracks.identities other
  case nothingPending => exact nothingPending
  case restorable =>
    intro other drive there
    rcases left other drive there with ⟨old, there⟩
    rw [Restorable, (elsewhere other old).1, (elsewhere other old).2]
    exact tracks.restorable other drive there
  case noOtherBackup =>
    intro other missing
    rw [backups]
    by_cases old : other = letter
    · rw [old, Function.update_self]
    · rw [Function.update_of_ne old] at missing
      rw [Function.update_of_ne old]
      exact tracks.noOtherBackup other missing

end Plugged

/-- The agent knows the drives after one is plugged in. -/
theorem Tracks.plug {drives : Drives} {agent : UsbAgent} (tracks : Tracks drives agent)
    {letter : Char} {devicePath description : String} {descriptor : VolumeDescriptor}
    {volumeFirst : Bool} {onVolume onDevice : Notification}
    (fits : (Plugging.plug letter devicePath description descriptor volumeFirst onVolume
      onDevice).Fits drives) :
    Tracks ((Plugging.plug letter devicePath description descriptor volumeFirst onVolume
        onDevice).drives drives)
      (agent.run (Plugging.plug letter devicePath description descriptor volumeFirst onVolume
        onDevice).events) := by
  rcases fits with ⟨isLetter, free, fresh, sees, still⟩
  let mounted : UsbAgent := agent.step (.root letter (some descriptor))
  have seen : ∀ other ∈ driveLetters, onVolume.present other = true ↔
      mounted.detector.blockedDrives other = true ∨ other = letter := by
    intro other isOther
    rw [sees other isOther, Plugging.drives]
    change _ ↔ agent.detector.blockedDrives other = true ∨ _
    rw [tracks.blocked]
    by_cases new : other = letter
    · simp [new]
    · simp [new]
  have mapped : ∀ other ∈ driveLetters, mounted.detector.blockedDrives other = true →
      mounted.detector.deviceIdentities other ≠ none := by
    intro other _ here
    change agent.detector.blockedDrives other = true at here
    rw [tracks.blocked] at here
    change agent.detector.deviceIdentities other ≠ none
    rw [tracks.identities]
    simpa [Option.isSome_iff_ne_none] using here
  rcases plug_spec mounted isLetter ((tracks.blocked letter).trans (by rw [free]; rfl))
    ((tracks.identities letter).trans (by rw [free]; rfl)) mapped tracks.nothingPending devicePath
    description volumeFirst onDevice seen still with
    ⟨after, run, blocked, identities, nothingPending, restricts⟩
  change Tracks _ (mounted.run _)
  rw [run]
  exact tracks.update isLetter free fresh blocked identities nothingPending restricts

/-- The agent knows the drives after one is plugged out. -/
theorem Tracks.unplug {drives : Drives} {agent : UsbAgent} (tracks : Tracks drives agent)
    {letter : Char} {devicePath : String} {volumeFirst : Bool} {onVolume onDevice : Notification}
    (fits : (Plugging.unplug letter devicePath volumeFirst onVolume onDevice).Fits drives) :
    Tracks ((Plugging.unplug letter devicePath volumeFirst onVolume onDevice).drives drives)
      (agent.run (Plugging.unplug letter devicePath volumeFirst onVolume onDevice).events) := by
  obtain ⟨⟨drive, here, same⟩, sees⟩ := fits
  replace here : drives letter = some drive := here
  let unmounted : UsbAgent := agent.step (.root letter none)
  have isLetter := tracks.letters letter drive here
  have identity : agent.detector.deviceIdentities letter = some drive.identity := by
    rw [tracks.identities, here, Option.map_some]
  have only : ∀ other copy, agent.detector.deviceIdentities other = some copy →
      copy.same (parseUsbDevicePath devicePath) = true → other = letter := by
    intro other copy isCopy sameCopy
    rw [tracks.identities, Option.map_eq_some_iff] at isCopy
    obtain ⟨second, there, rfl⟩ := isCopy
    refine tracks.distinct other letter second drive there here ?_
    rw [same_iff] at same sameCopy ⊢
    exact ⟨sameCopy.1.trans same.1.symm, sameCopy.2.1.trans same.2.1.symm,
      sameCopy.2.2.trans same.2.2.symm⟩
  have seen : ∀ other ∈ driveLetters, onVolume.present other = true ↔
      agent.detector.blockedDrives other = true ∧ other ≠ letter := by
    intro other isOther
    rw [sees other isOther, Plugging.drives, tracks.blocked]
    by_cases old : other = letter
    · simp [old]
    · simp [old]
  rcases unplug_spec unmounted isLetter ((tracks.blocked letter).trans (by rw [here]; rfl))
    identity same only (Function.update_self ..) volumeFirst onDevice seen with
    ⟨after, run, blocked, identities, nothingPending, backups, roots⟩
  change Tracks _ (unmounted.run _)
  rw [run]
  exact tracks.remove blocked identities (nothingPending.trans tracks.nothingPending) backups roots

/-- The agent knows the drives after any number of pluggings. -/
theorem Tracks.run {drives : Drives} {agent : UsbAgent} (tracks : Tracks drives agent)
    {pluggings : List Plugging} (fit : Each Plugging.drives Plugging.Fits drives pluggings) :
    Tracks (pluggings.foldl Plugging.drives drives)
      (agent.run (pluggings.flatMap Plugging.events)) := by
  induction pluggings generalizing drives agent with
  | nil => exact tracks
  | cons plugging rest ih =>
      have next : Tracks (plugging.drives drives) (agent.run plugging.events) := by
        cases plugging with
        | plug => exact tracks.plug fit.1
        | unplug => exact tracks.unplug fit.1
      rw [List.flatMap_cons, UsbAgent.run, List.foldl_append]
      exact ih next fit.2

section Start

variable (windows : WindowsDevices) {notification : Notification}
  (connected : List DeviceIdentity)

/-- A start without drives maps nothing. -/
theorem tracks_start (noDrive : ∀ letter ∈ driveLetters, notification.present letter = false) :
    Tracks (fun _ => none) (UsbAgent.start windows notification connected) := by
  have scanned := foldl_scan ⟨.new, none, windows, []⟩ notification driveLetters
  rw [← UsbAgent.scanExistingDrives] at scanned
  have unblocked : ∀ letter,
      ((UsbAgent.mk .new none windows []).scanExistingDrives notification).detector.blockedDrives
        letter = false := by
    intro letter
    rw [scanned]
    by_cases isLetter : letter ∈ driveLetters
    · simp [noDrive letter isLetter, UsbVolumes.new]
    · simp [isLetter, UsbVolumes.new]
  have kept : ((UsbAgent.mk .new none windows []).scanExistingDrives
        notification).scanExistingUsbIdentities notification connected =
      (UsbAgent.mk .new none windows []).scanExistingDrives notification := by
    unfold UsbAgent.scanExistingUsbIdentities
    induction connected with
    | nil => rfl
    | cons identity rest ih =>
        have nothing : ((UsbAgent.mk .new none windows []).scanExistingDrives
            notification).unmapped notification = [] :=
          notification.filter_eq_nil fun letter _ => by simp [unblocked]
        have body : ((UsbAgent.mk .new none windows []).scanExistingDrives
              notification).scanIdentity notification identity =
            (UsbAgent.mk .new none windows []).scanExistingDrives notification := by
          rw [UsbAgent.scanIdentity, nothing, ite_self]
        rw [List.foldl_cons, body]
        exact ih
  constructor
  case letters => exact fun _ _ here => by cases here
  case distinct => exact fun _ _ _ _ here => by cases here
  case blocked =>
    intro letter
    change (((UsbAgent.mk .new none windows []).scanExistingDrives
      notification).scanExistingUsbIdentities notification connected).detector.blockedDrives
        letter = false
    rw [kept]
    exact unblocked letter
  case identities =>
    intro letter
    change (((UsbAgent.mk .new none windows []).scanExistingDrives
      notification).scanExistingUsbIdentities notification connected).detector.deviceIdentities
        letter = none
    rw [kept, scanned]
    rfl
  case nothingPending =>
    change (((UsbAgent.mk .new none windows []).scanExistingDrives
      notification).scanExistingUsbIdentities notification connected).detector.pendingIdentity =
        none
    rw [kept, scanned]
    rfl
  case restorable => exact fun _ _ here => by cases here
  case noOtherBackup => exact fun _ _ => rfl

/-- The service after some pluggings. -/
def serviceAfter (windows : WindowsDevices) (startup : Notification)
    (connected : List DeviceIdentity) (pluggings : List Plugging) : UsbAgent :=
  (UsbAgent.start windows startup connected).run (pluggings.flatMap Plugging.events)

theorem tracks_serviceAfter
    (noDrive : ∀ letter ∈ driveLetters, notification.present letter = false)
    {pluggings : List Plugging} (fit : AllFit pluggings) :
    Tracks (drivesAfter pluggings) (serviceAfter windows notification connected pluggings) :=
  (tracks_start windows connected noDrive).run fit

/-- Drives that come and go one after the other, in whatever order Windows tells of each: the
enforcer denies an action exactly on a drive whose device is not registered, and names it. -/
theorem check_serviceAfter
    (noDrive : ∀ letter ∈ driveLetters, notification.present letter = false)
    {pluggings : List Plugging} (fit : AllFit pluggings) (registry : DeviceRegistryCache)
    (lastToast : Char → Option Nat) (currentSid : Option String) (now : Nat) (path : String)
    (action : FileAction) :
    ((UsbEnforcer.mk
        (serviceAfter windows notification connected pluggings).detector.toVolumeDetector registry
        lastToast).check currentSid now path action).1.map
          (fun result => (result.decision, result.identity)) =
      (extractDriveLetter path).bind fun letter =>
        (drivesAfter pluggings letter).bind fun drive =>
          if registry.hasDevice drive.identity.vid drive.identity.pid drive.identity.serial then
            none
          else some (.deny, drive.identity) := by
  have tracks := tracks_serviceAfter windows connected noDrive fit
  generalize serviceAfter windows notification connected pluggings = agent at tracks
  cases isLetter : extractDriveLetter path with
  | none => rw [UsbEnforcer.check_of_no_letter _ _ _ _ isLetter, Option.map_none, Option.bind_none]
  | some letter =>
      have identity := tracks.identities letter
      rw [Option.bind_some]
      cases here : drivesAfter pluggings letter with
      | none =>
          rw [here, Option.map_none] at identity
          have blocked := tracks.blocked letter
          rw [here, Option.isSome_none] at blocked
          rw [UsbEnforcer.check_of_no_device _ _ _ _ isLetter identity, if_neg (by simp [blocked])]
          rfl
      | some drive =>
          rw [here, Option.map_some] at identity
          rw [UsbEnforcer.check_of_device _ _ _ _ isLetter identity, Option.bind_some]
          split
          · rfl
          · rfl

end Start

theorem check_serviceAfter_second :
    ((UsbEnforcer.mk
        (serviceAfter noVolumes (noticeSeeing []) [] twoSticks).detector.toVolumeDetector
        (fun _ => none) fun _ => none).check none 0 "F:\\notes.txt"
          (.written "F:\\notes.txt")).1.map (fun result => (result.decision, result.identity)) =
      some (.deny, ⟨"0951", "1666", "B2", "stick"⟩) :=
  (check_serviceAfter noVolumes [] (by simp [noticeSeeing]) allFit_twoSticks (fun _ => none)
    (fun _ => none) none 0 _ _).trans (by decide +kernel)

/-! ## The stop of the service -/

/-- The calls of `restore_usb_volume_acls` over some letters. -/
theorem foldl_restoreVolumeAcl (calls : WindowsCalls) (letters : List Char)
    (controller : DeviceController) (windows : WindowsDevices) (letter : Char) :
    (letters.foldl (fun (state : DeviceController × WindowsDevices) letter =>
        (state.1.restoreVolumeAcl calls letter state.2).2) (controller, windows)).1.originalDacls
          letter =
        (if letter ∈ letters then none else controller.originalDacls letter) ∧
      (letters.foldl (fun (state : DeviceController × WindowsDevices) letter =>
        (state.1.restoreVolumeAcl calls letter state.2).2) (controller, windows)).2.roots letter =
        (if letter ∈ letters then
          UsbAgent.restored calls letter (controller.originalDacls letter) (windows.roots letter)
        else windows.roots letter) := by
  induction letters generalizing controller windows with
  | nil => exact ⟨rfl, rfl⟩
  | cons first rest ih =>
      rw [List.foldl_cons, UsbAgent.restoreVolumeAcl_eq]
      rcases ih ⟨Function.update controller.originalDacls first none⟩
        { windows with
          roots := Function.update windows.roots first
            (UsbAgent.restored calls first (controller.originalDacls first)
              (windows.roots first)) } with ⟨dacls, roots⟩
      rw [dacls, roots]
      by_cases isFirst : letter = first
      · subst isFirst
        simp
      · simp [isFirst]

theorem foldl_enableUsbDevice_roots (calls : WindowsCalls) (identities : List DeviceIdentity)
    (windows : WindowsDevices) :
    (identities.foldl (fun windows identity => (enableUsbDevice calls "" identity windows).2)
      windows).roots = windows.roots := by
  induction identities generalizing windows with
  | nil => rfl
  | cons identity rest ih =>
      rw [List.foldl_cons, ih]
      exact enableUsbDevice_roots ..

theorem mem_mappedLetters (agent : UsbAgent) (notification : Notification) {letter : Char} :
    letter ∈ agent.mappedLetters notification ↔
      letter ∈ driveLetters ∧ agent.detector.deviceIdentities letter ≠ none := by
  rw [UsbAgent.mappedLetters, List.mem_filter, notification.mem_order, Option.isSome_iff_ne_none]

/-- The stop visits the letters that have an identity. -/
theorem stop_spec (agent : UsbAgent) (notification : Notification) (letter : Char) :
    (agent.stop notification).backup letter =
        (if letter ∈ agent.mappedLetters notification then none else agent.backup letter) ∧
      (agent.stop notification).windows.roots letter =
        (if letter ∈ agent.mappedLetters notification then
          UsbAgent.restored notification.calls letter (agent.backup letter)
            (agent.windows.roots letter)
        else agent.windows.roots letter) := by
  cases isSet : agent.controller with
  | none =>
      have nothing : agent.backup letter = none := by
        rw [UsbAgent.backup, isSet, Option.bind_none]
      have kept : agent.stop notification = agent := by
        simp only [UsbAgent.stop, UsbAgent.restoreUsbVolumeAcls, UsbAgent.reenableUsbDevices, isSet]
      rw [kept, nothing, UsbAgent.restored_none, ite_self, ite_self]
      exact ⟨rfl, rfl⟩
  | some controller =>
      have backups : agent.backup letter = controller.originalDacls letter := by
        rw [UsbAgent.backup, isSet, Option.bind_some]
      rcases foldl_restoreVolumeAcl notification.calls (agent.mappedLetters notification) controller
        agent.windows letter with ⟨dacls, roots⟩
      rw [backups, ← dacls, ← roots]
      simp only [UsbAgent.stop, UsbAgent.restoreUsbVolumeAcls, UsbAgent.reenableUsbDevices, isSet]
      exact ⟨rfl, congrFun (foldl_enableUsbDevice_roots ..) letter⟩

/-- What is cached belongs to a letter with an identity. -/
def Backed (agent : UsbAgent) : Prop :=
  ∀ letter, agent.backup letter ≠ none →
    letter ∈ driveLetters ∧ agent.detector.deviceIdentities letter ≠ none

/-- The identity, the backup and the volume at a letter are as before. -/
structure SameAt (letter : Char) (agent after : UsbAgent) : Prop where
  identity : after.detector.deviceIdentities letter = agent.detector.deviceIdentities letter
  backup : after.backup letter = agent.backup letter
  root : after.windows.roots letter = agent.windows.roots letter

/-- A removal of volumes only unblocks letters. -/
theorem sameAt_volumeRemoval (agent : UsbAgent) (letter : Char) (notification : Notification) :
    SameAt letter agent (agent.step (.volume false notification)) := by
  rcases agent.foldl_depart_others (notification.order.filter fun other =>
    agent.detector.blockedDrives other && !notification.present other) with
    ⟨identities, _, controller, windows⟩
  refine ⟨congrFun identities letter, ?_, congrFun (congrArg WindowsDevices.roots windows) letter⟩
  change UsbAgent.backup (List.foldl _ _ _) letter = _
  rw [UsbAgent.backup, controller]
  rfl

theorem sameAt_classQuery (agent : UsbAgent) (letter driveLetter : Char)
    (notification : Notification) :
    SameAt letter agent (agent.getVolumeClassForPipeQuery notification driveLetter).2 := by
  rcases getVolumeClassForPipeQuery_others agent notification driveLetter with
    ⟨detector, _, controller, windows⟩
  constructor
  · rw [detector]
  · rw [UsbAgent.backup, controller]
    rfl
  · rw [windows]

section Backed

variable {agent after : UsbAgent} {letter : Char}

theorem Backed.of_sameAt (backed : Backed agent) (same : ∀ letter, SameAt letter agent after) :
    Backed after := by
  intro letter cached
  rw [(same letter).backup] at cached
  rw [(same letter).identity]
  exact backed letter cached

/-- A letter that gets an identity may get a backup. -/
theorem Backed.assign (backed : Backed agent) (isLetter : letter ∈ driveLetters)
    {identity : DeviceIdentity}
    (identities : after.detector.deviceIdentities =
      Function.update agent.detector.deviceIdentities letter (some identity))
    (others : ∀ other, other ≠ letter → after.backup other = agent.backup other) :
    Backed after := by
  intro other cached
  rw [identities]
  by_cases new : other = letter
  · subst new
    exact ⟨isLetter, by rw [Function.update_self]; simp⟩
  · rw [others other new] at cached
    rw [Function.update_of_ne new]
    exact backed other cached

theorem Backed.arrive (backed : Backed agent) (notification : Notification)
    (isLetter : letter ∈ driveLetters) : Backed (UsbAgent.arrive notification agent letter) := by
  have body := UsbAgent.arrive_detector notification agent letter
  have restricts := UsbAgent.restrictsAt_arrive notification agent letter
  cases parked : agent.detector.pendingIdentity with
  | none =>
      intro other cached
      rw [(UsbAgent.arrive_of_none notification agent letter parked).1] at cached
      rw [body, parked]
      exact backed other cached
  | some identity =>
      exact backed.assign isLetter (by rw [body, parked])
        (fun other new => (restricts.others other new).1)

theorem Backed.volumeArrival (backed : Backed agent) (notification : Notification) :
    Backed (agent.step (.volume true notification)) := by
  have known : ∀ letter ∈ notification.order.filter fun letter =>
      notification.present letter && !agent.detector.blockedDrives letter,
      letter ∈ driveLetters :=
    fun letter member => UsbAgent.mem_driveLetters_of_mem_filter notification member
  change Backed (List.foldl _ _ _)
  generalize notification.order.filter _ = letters at known
  induction letters generalizing agent with
  | nil => exact backed
  | cons first rest ih =>
      exact ih (backed.arrive notification (known first List.mem_cons_self))
        fun letter member => known letter (List.mem_cons_of_mem first member)

theorem Backed.deviceArrival (backed : Backed agent) (devicePath description : String)
    (notification : Notification) :
    Backed (agent.onUsbDeviceArrival notification devicePath description) := by
  by_cases one : ∃ letter, agent.unmapped notification = [letter]
  · obtain ⟨letter, only⟩ := one
    have isLetter : letter ∈ driveLetters :=
      UsbAgent.mem_driveLetters_of_mem_filter notification
        (only ▸ List.mem_singleton_self letter : letter ∈ agent.unmapped notification)
    rcases agent.onUsbDeviceArrival_of_singleton notification devicePath description only with
      ⟨detector, restricts⟩
    exact backed.assign isLetter (by rw [detector])
      (fun other new => (restricts.others other new).1)
  · rw [agent.onUsbDeviceArrival_of_not_singleton notification devicePath description
      fun letter only => one ⟨letter, only⟩]
    exact backed

/-- A letter that loses its identity loses its backup. -/
theorem Backed.deviceRemoval (backed : Backed agent) (devicePath : String)
    (notification : Notification) : Backed (agent.onUsbDeviceRemoval notification devicePath) := by
  rcases agent.onUsbDeviceRemoval_cases notification devicePath with
    ⟨same, _⟩ | ⟨letter, identity, _, _, _, detector, backups, _⟩
  · rw [same]
    exact backed
  · intro other cached
    rw [backups] at cached
    rw [detector]
    dsimp only
    by_cases old : other = letter
    · rw [old, Function.update_self] at cached
      exact absurd rfl cached
    · rw [Function.update_of_ne old] at cached ⊢
      exact backed other cached

theorem Backed.step (backed : Backed agent) (event : UsbEvent) : Backed (agent.step event) := by
  cases event with
  | root root descriptor => exact backed
  | volume arrived notification =>
      cases arrived with
      | true => exact backed.volumeArrival notification
      | false =>
          exact backed.of_sameAt fun letter => sameAt_volumeRemoval agent letter notification
  | deviceArrival devicePath description notification =>
      exact backed.deviceArrival devicePath description notification
  | deviceRemoval devicePath notification => exact backed.deviceRemoval devicePath notification
  | classQuery driveLetter notification =>
      exact backed.of_sameAt fun letter =>
        sameAt_classQuery agent letter driveLetter notification

end Backed

/-- After every run the stop puts back all that is cached, and leaves nothing in the cache. -/
theorem stop_restores_all (windows : WindowsDevices) (startup : Notification)
    (connected : List DeviceIdentity) (events : List UsbEvent) (last : Notification)
    (letter : Char) :
    (((UsbAgent.start windows startup connected).run events).stop last).backup letter = none ∧
      (((UsbAgent.start windows startup connected).run events).stop last).windows.roots letter =
        UsbAgent.restored last.calls letter
          (((UsbAgent.start windows startup connected).run events).backup letter)
          (((UsbAgent.start windows startup connected).run events).windows.roots letter) := by
  have start : Backed (UsbAgent.start windows startup connected) := by
    intro letter cached
    rw [(start_spec windows startup connected).2.2] at cached
    exact absurd rfl cached
  have backed : Backed ((UsbAgent.start windows startup connected).run events) :=
    foldl_invariant (fun _ event backed => backed.step event) events start
  rcases stop_spec ((UsbAgent.start windows startup connected).run events) last letter with
    ⟨backups, roots⟩
  rw [backups, roots]
  by_cases cached : ((UsbAgent.start windows startup connected).run events).backup letter = none
  · rw [cached, UsbAgent.restored_none, ite_self, ite_self]
    exact ⟨rfl, rfl⟩
  · have visited := (mem_mappedLetters _ last).mpr (backed letter cached)
    rw [if_pos visited, if_pos visited]
    exact ⟨rfl, rfl⟩

section Restored

variable (windows : WindowsDevices) {notification : Notification}
  (connected : List DeviceIdentity)

/-- Drives that come and go one after the other: at the stop every volume that is plugged in gets
back the descriptor that it came with. -/
theorem plugged_volume_restored
    (noDrive : ∀ letter ∈ driveLetters, notification.present letter = false)
    {pluggings : List Plugging} (fit : AllFit pluggings) (last : Notification) {letter : Char}
    {drive : Drive} (here : drivesAfter pluggings letter = some drive)
    (works : last.calls.setFileSecurity letter = .ok ()) :
    ((serviceAfter windows notification connected pluggings).stop last).windows.roots letter =
      some drive.descriptor := by
  have tracks := tracks_serviceAfter windows connected noDrive fit
  generalize serviceAfter windows notification connected pluggings = agent at tracks
  have visited : letter ∈ agent.mappedLetters last := by
    rw [mem_mappedLetters, tracks.identities, here]
    exact ⟨tracks.letters letter drive here, by simp⟩
  rw [(stop_spec agent last letter).2, if_pos visited]
  rcases tracks.restorable letter drive here with ⟨backup, root⟩ | ⟨backup, dacl, root⟩
  · rw [backup, root, UsbAgent.restored_none]
  · rw [backup, root, UsbAgent.restored, works]

end Restored

theorem plugged_volume_restored_second :
    ((serviceAfter noVolumes (noticeSeeing []) [] twoSticks).stop
      (noticeSeeing ['F'])).windows.roots 'F' = some openDescriptor := by
  have here : drivesAfter twoSticks 'F' =
      some ⟨⟨"0951", "1666", "B2", "stick"⟩, openDescriptor⟩ := by
    decide +kernel
  exact plugged_volume_restored noVolumes [] (by simp [noticeSeeing]) allFit_twoSticks _ here rfl

/-! ## Drives of the start -/

/-- A drive that the agent has mapped. -/
structure Settled (letter : Char) (identity : DeviceIdentity) (agent : UsbAgent) : Prop where
  blocked : agent.detector.blockedDrives letter = true
  known : agent.detector.deviceIdentities letter = some identity

/-- An event leaves a drive plugged in: a removal of volumes sees it, and a removal of a device is
about another one. -/
def Spares (letter : Char) (identity : DeviceIdentity) : UsbEvent → Prop
  | .volume false notification => notification.present letter = true
  | .deviceRemoval devicePath _ => identity.same (parseUsbDevicePath devicePath) = false
  | _ => True

/-- The descriptor at a root if the agent does nothing. -/
def rootAfter (letter : Char) (root : Option VolumeDescriptor) :
    UsbEvent → Option VolumeDescriptor
  | .root other descriptor => if letter = other then descriptor else root
  | _ => root

theorem foldl_arrive_other (agent : UsbAgent) (notification : Notification)
    (letters : List Char) {letter : Char} (other : letter ∉ letters) :
    (letters.foldl (UsbAgent.arrive notification) agent).backup letter = agent.backup letter ∧
      (letters.foldl (UsbAgent.arrive notification) agent).windows.roots letter =
        agent.windows.roots letter ∧
      (letters.foldl (UsbAgent.arrive notification) agent).detector.deviceIdentities letter =
        agent.detector.deviceIdentities letter := by
  induction letters generalizing agent with
  | nil => exact ⟨rfl, rfl, rfl⟩
  | cons first rest ih =>
      rw [List.mem_cons, not_or] at other
      rcases ih (UsbAgent.arrive notification agent first) other.2 with ⟨backup, root, identity⟩
      rcases (UsbAgent.restrictsAt_arrive notification agent first).others letter other.1 with
        ⟨backupFirst, rootFirst⟩
      refine ⟨backup.trans backupFirst, root.trans rootFirst, identity.trans ?_⟩
      rw [UsbAgent.arrive_detector]
      cases agent.detector.pendingIdentity with
      | none => rfl
      | some pending => exact Function.update_of_ne other.1 _ _

section Settled

variable {letter : Char} {identity : DeviceIdentity} {agent : UsbAgent}

/-- An arrival of volumes handles letters that are not blocked yet. -/
theorem Settled.volumeArrival (settled : Settled letter identity agent)
    (notification : Notification) :
    SameAt letter agent (agent.step (.volume true notification)) := by
  have old : letter ∉ notification.order.filter fun other =>
      notification.present other && !agent.detector.blockedDrives other := by
    simp [settled.blocked]
  rcases foldl_arrive_other agent notification _ old with ⟨backup, root, known⟩
  exact ⟨known, backup, root⟩

/-- A device that arrives gets another letter, or none. -/
theorem Settled.deviceArrival (settled : Settled letter identity agent)
    (devicePath description : String) (notification : Notification) :
    SameAt letter agent (agent.onUsbDeviceArrival notification devicePath description) := by
  by_cases one : ∃ other, agent.unmapped notification = [other]
  · obtain ⟨other, only⟩ := one
    have different : letter ≠ other := by
      rintro rfl
      have member : letter ∈ agent.unmapped notification := by rw [only]; simp
      rw [UsbAgent.unmapped, List.mem_filter, settled.known] at member
      simp at member
    rcases agent.onUsbDeviceArrival_of_singleton notification devicePath description only with
      ⟨detector, restricts⟩
    rcases restricts.others letter different with ⟨backup, root⟩
    refine ⟨?_, backup, root⟩
    rw [detector]
    exact Function.update_of_ne different _ _
  · rw [agent.onUsbDeviceArrival_of_not_singleton notification devicePath description
      fun other only => one ⟨other, only⟩]
    exact ⟨rfl, rfl, rfl⟩

/-- A device that is removed leaves another letter, or none. -/
theorem Settled.deviceRemoval (settled : Settled letter identity agent) {devicePath : String}
    (another : identity.same (parseUsbDevicePath devicePath) = false)
    (notification : Notification) :
    SameAt letter agent (agent.onUsbDeviceRemoval notification devicePath) := by
  rcases agent.onUsbDeviceRemoval_cases notification devicePath with
    ⟨same, _⟩ | ⟨other, found, _, isFound, copy, detector, backups, roots⟩
  · rw [same]
    exact ⟨rfl, rfl, rfl⟩
  · have different : letter ≠ other := by
      rintro rfl
      obtain rfl := Option.some_inj.mp (isFound.symm.trans settled.known)
      rw [another] at copy
      cases copy
    constructor
    · rw [detector]
      exact Function.update_of_ne different _ _
    · rw [backups]
      exact Function.update_of_ne different _ _
    · rw [roots]
      exact Function.update_of_ne different _ _

/-- A mapped drive that stays plugged in is left alone. -/
theorem Settled.step (settled : Settled letter identity agent) (isLetter : letter ∈ driveLetters)
    {event : UsbEvent} (spares : Spares letter identity event) :
    Settled letter identity (agent.step event) ∧
      (agent.step event).backup letter = agent.backup letter ∧
      (agent.step event).windows.roots letter =
        rootAfter letter (agent.windows.roots letter) event := by
  have blocked : (agent.step event).detector.blockedDrives letter = true := by
    refine (step_blocked_iff agent event isLetter).mpr (Or.inl ⟨settled.blocked, ?_⟩)
    intro notification member
    obtain rfl := List.mem_singleton.mp member
    exact spares
  have leftAlone (same : SameAt letter agent (agent.step event)) :
      Settled letter identity (agent.step event) ∧
        (agent.step event).backup letter = agent.backup letter ∧
        (agent.step event).windows.roots letter = agent.windows.roots letter :=
    ⟨⟨blocked, same.identity.trans settled.known⟩, same.backup, same.root⟩
  cases event with
  | root root descriptor =>
      refine ⟨⟨blocked, settled.known⟩, rfl, ?_⟩
      change Function.update agent.windows.roots root descriptor letter = _
      rw [Function.update_apply]
      rfl
  | volume arrived notification =>
      cases arrived with
      | true => exact leftAlone (settled.volumeArrival notification)
      | false => exact leftAlone (sameAt_volumeRemoval agent letter notification)
  | deviceArrival devicePath description notification =>
      exact leftAlone (settled.deviceArrival devicePath description notification)
  | deviceRemoval devicePath notification =>
      exact leftAlone (settled.deviceRemoval spares notification)
  | classQuery driveLetter notification =>
      exact leftAlone (sameAt_classQuery agent letter driveLetter notification)

end Settled

/-- The start maps letters that it has blocked. -/
theorem settled_start (windows : WindowsDevices) (notification : Notification)
    (connected : List DeviceIdentity) {letter : Char} {identity : DeviceIdentity}
    (known : (UsbAgent.start windows notification connected).detector.deviceIdentities letter =
      some identity) :
    letter ∈ driveLetters ∧
      Settled letter identity (UsbAgent.start windows notification connected) := by
  suffices mapped : ∀ (connected : List DeviceIdentity) (agent : UsbAgent),
      (∀ other, agent.detector.deviceIdentities other ≠ none →
        other ∈ driveLetters ∧ agent.detector.blockedDrives other = true) →
      ∀ other, (agent.scanExistingUsbIdentities notification connected).detector.deviceIdentities
          other ≠ none →
        other ∈ driveLetters ∧
          (agent.scanExistingUsbIdentities notification connected).detector.blockedDrives other =
            true by
    have scanned := foldl_scan ⟨.new, none, windows, []⟩ notification driveLetters
    rw [← UsbAgent.scanExistingDrives] at scanned
    have atLetter := mapped connected
      ((UsbAgent.mk .new none windows []).scanExistingDrives notification)
      (fun other isMapped => absurd (by rw [scanned]; rfl) isMapped) letter
      (fun unknown => Option.some_ne_none identity (known.symm.trans unknown))
    exact ⟨atLetter.1, atLetter.2, known⟩
  intro connected
  induction connected with
  | nil => exact fun agent mapped other isMapped => mapped other isMapped
  | cons first rest ih =>
      intro agent mapped
      apply ih (agent.scanIdentity notification first)
      unfold UsbAgent.scanIdentity
      split
      · exact mapped
      · rcases only : agent.unmapped notification with _ | ⟨single, _ | ⟨second, more⟩⟩
        · exact mapped
        · have member : single ∈ agent.unmapped notification := by rw [only]; simp
          have isLetter := UsbAgent.mem_driveLetters_of_mem_filter notification member
          rw [UsbAgent.unmapped, List.mem_filter, Bool.and_eq_true] at member
          intro other isMapped
          rw [UsbAgent.assign_detector] at isMapped ⊢
          dsimp only at isMapped ⊢
          by_cases isSingle : other = single
          · rw [isSingle]
            exact ⟨isLetter, member.2.1⟩
          · rw [Function.update_of_ne isSingle] at isMapped
            exact mapped other isMapped
        · dsimp only
          cases agent.detector.pendingIdentity <;> exact mapped

/-- A drive that was plugged in before the service started is recognized, and yet its volume is
never restricted while it stays plugged in, whatever its tier. -/
theorem startup_drive_unrestricted (windows : WindowsDevices) (startup : Notification)
    (connected : List DeviceIdentity) {letter : Char} {identity : DeviceIdentity}
    (known : (UsbAgent.start windows startup connected).detector.deviceIdentities letter =
      some identity)
    {events : List UsbEvent} (spares : ∀ event ∈ events, Spares letter identity event) :
    ((UsbAgent.start windows startup connected).run events).detector.deviceIdentities letter =
        some identity ∧
      ((UsbAgent.start windows startup connected).run events).windows.roots letter =
        events.foldl (rootAfter letter) (windows.roots letter) := by
  rcases settled_start windows startup connected known with ⟨isLetter, settled⟩
  rw [← congrFun (congrArg WindowsDevices.roots (start_spec windows startup connected).2.1) letter]
  clear known
  generalize UsbAgent.start windows startup connected = agent at settled
  induction events generalizing agent with
  | nil => exact ⟨settled.known, rfl⟩
  | cons event rest ih =>
      rcases settled.step isLetter (spares event List.mem_cons_self) with ⟨next, _, root⟩
      rw [List.foldl_cons, ← root]
      exact ih (fun later member => spares later (List.mem_cons_of_mem event member))
        (agent.step event) next

theorem startup_drive_unrestricted_stick :
    ((UsbAgent.start ⟨Function.update (fun _ => none) 'E' (some openDescriptor), fun _ => false⟩
        (noticeSeeing ['E']) [⟨"0951", "1666", "A1", "stick"⟩]).run
      [.volume true (noticeSeeing ['E', 'F']), .volume false (noticeSeeing ['E'])]).windows.roots
        'E' = some openDescriptor := by
  have known : (UsbAgent.start
      ⟨Function.update (fun _ => none) 'E' (some openDescriptor), fun _ => false⟩
      (noticeSeeing ['E']) [⟨"0951", "1666", "A1", "stick"⟩]).detector.deviceIdentities 'E' =
        some ⟨"0951", "1666", "A1", "stick"⟩ := by
    decide +kernel
  exact (startup_drive_unrestricted _ _ _ known (by simp [Spares, noticeSeeing])).2

end DlpSystem.Devices
