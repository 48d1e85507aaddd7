import DlpSystem.Device.PluggedDrives

/-!
# The order of the notifications of several drives

Several drives are plugged in, and the notifications of their volumes and of their devices come in
some order.  The detector has room for one identity that waits for its volume, so that it gives
every drive its own device only if the two notifications of each drive follow each other.
-/

namespace DlpSystem.Devices

open Abac Agent Lib

/-- A notification about the drive at a letter: its volume or its device has come. -/
structure Notice where
  letter : Char
  isVolume : Bool
  notification : Notification

section Notices

-- the device path and the description of the drive at each letter
variable (paths : Char → String × String)

/-- The identity of the drive at a letter. -/
def identityAt (letter : Char) : DeviceIdentity :=
  UsbAgent.arrivedIdentity (paths letter).1 (paths letter).2

/-- What the agent meets. -/
def Notice.event (notice : Notice) : UsbEvent :=
  if notice.isVolume then .volume true notice.notification
  else .deviceArrival (paths notice.letter).1 (paths notice.letter).2 notice.notification

/-- One notice. -/
def noticeStep (agent : UsbAgent) (notice : Notice) : UsbAgent :=
  agent.step (notice.event paths)

/-- The agent after some notices. -/
def afterNotices (agent : UsbAgent) (notices : List Notice) : UsbAgent :=
  notices.foldl (noticeStep paths) agent

/-- The scans for a volume see it beside the drives that are blocked by then. -/
def SeesNew (agent : UsbAgent) (notice : Notice) : Prop :=
  notice.isVolume = true →
    (∀ other ∈ driveLetters, notice.notification.present other = true ↔
      agent.detector.blockedDrives other = true ∨ other = notice.letter) ∧
    notice.notification.still notice.letter = true

instance (agent : UsbAgent) (notice : Notice) : Decidable (SeesNew agent notice) :=
  decidable_of_iff
    ((!notice.isVolume ||
      (driveLetters.all fun other => notice.notification.present other ==
        (agent.detector.blockedDrives other || decide (other = notice.letter))) &&
        notice.notification.still notice.letter) = true) (by
    have agrees (other : Char) : (notice.notification.present other ==
          (agent.detector.blockedDrives other || decide (other = notice.letter))) = true ↔
        (notice.notification.present other = true ↔
          agent.detector.blockedDrives other = true ∨ other = notice.letter) := by
      rw [beq_iff_eq, Bool.eq_iff_iff, Bool.or_eq_true, decide_eq_true_iff]
    rw [Bool.or_eq_true, Bool.not_eq_true', Bool.and_eq_true, List.all_eq_true, SeesNew,
      ← Bool.not_eq_true, or_iff_not_imp_left, not_not]
    simp only [agrees])

/-- Two notices for every drive, of different devices. -/
structure Complete (notices : List Notice) : Prop where
  letters : ∀ notice ∈ notices, notice.letter ∈ driveLetters
  once : (notices.map fun notice => (notice.letter, notice.isVolume)).Nodup
  both : ∀ notice ∈ notices, ∃ other ∈ notices,
    other.letter = notice.letter ∧ other.isVolume = !notice.isVolume
  distinct : ∀ notice ∈ notices, ∀ other ∈ notices,
    identityAt paths notice.letter = identityAt paths other.letter → notice.letter = other.letter

/-- The drives are new to the detector, and it knows the device of every other one. -/
structure Ready (notices : List Notice) (agent : UsbAgent) : Prop where
  nothingPending : agent.detector.pendingIdentity = none
  mapped : ∀ other ∈ driveLetters, agent.detector.blockedDrives other = true →
    agent.detector.deviceIdentities other ≠ none
  unblocked : ∀ notice ∈ notices, agent.detector.blockedDrives notice.letter = false
  unknown : ∀ notice ∈ notices, agent.detector.deviceIdentities notice.letter = none

/-- Every drive of the notices has its own device. -/
def Attributed (agent : UsbAgent) (notices : List Notice) : Prop :=
  ∀ notice ∈ notices,
    agent.detector.deviceIdentities notice.letter = some (identityAt paths notice.letter)

end Notices

/-- The two notices of each drive follow each other. -/
def Paired : List Notice → Prop
  | [] => True
  | [_] => False
  | first :: second :: rest => first.letter = second.letter ∧ Paired rest

section Orders

variable {paths : Char → String × String} {agent : UsbAgent}

/-! ## What notices cannot undo -/

/-- A drive that has an identity keeps it. -/
theorem Settled.afterNotices {letter : Char} {identity : DeviceIdentity}
    (settled : Settled letter identity agent) (isLetter : letter ∈ driveLetters)
    (notices : List Notice) : Settled letter identity (afterNotices paths agent notices) := by
  refine foldl_invariant (fun agent notice settled => ?_) notices settled
  have spares : Spares letter identity (notice.event paths) := by
    unfold Notice.event
    split <;> trivial
  exact (Settled.step settled isLetter spares).1

/-- An identity that is neither pending nor at its drive. -/
structure Lost (letter : Char) (identity : DeviceIdentity) (agent : UsbAgent) : Prop where
  notPending : agent.detector.pendingIdentity ≠ some identity
  notMapped : agent.detector.deviceIdentities letter ≠ some identity

/-- A lost identity stays lost unless its device comes again. -/
theorem Lost.noticeStep {letter : Char} {identity : DeviceIdentity}
    (lost : Lost letter identity agent) {notice : Notice}
    (different : notice.isVolume = false → identityAt paths notice.letter ≠ identity) :
    Lost letter identity (noticeStep paths agent notice) := by
  unfold Devices.noticeStep Notice.event
  split
  · change Lost letter identity (List.foldl _ agent _)
    generalize notice.notification.order.filter _ = letters
    cases parked : agent.detector.pendingIdentity with
    | none =>
        rcases UsbAgent.foldl_arrive_of_none notice.notification agent letters parked with
          ⟨identities, pending⟩
        exact ⟨by rw [pending]; simp, by rw [identities]; exact lost.notMapped⟩
    | some other =>
        cases letters with
        | nil => exact lost
        | cons first rest =>
            rcases UsbAgent.foldl_arrive_of_some notice.notification agent first rest parked with
              ⟨identities, pending⟩
            refine ⟨by rw [pending]; simp, ?_⟩
            rw [identities, Function.update_apply]
            split
            · exact fun same => lost.notPending (parked.trans same)
            · exact lost.notMapped
  · rename_i isDevice
    have other := different (Bool.eq_false_iff.mpr isDevice)
    change Lost letter identity (agent.onUsbDeviceArrival notice.notification _ _)
    by_cases one : ∃ single, agent.unmapped notice.notification = [single]
    · obtain ⟨single, only⟩ := one
      have detector := (agent.onUsbDeviceArrival_of_singleton notice.notification
        (paths notice.letter).1 (paths notice.letter).2 only).1
      refine ⟨by rw [detector]; simp, ?_⟩
      rw [detector]
      dsimp only
      rw [Function.update_apply]
      split
      · exact fun same => other (Option.some_inj.mp same)
      · exact lost.notMapped
    · rw [agent.onUsbDeviceArrival_of_not_singleton _ _ _ fun single only => one ⟨single, only⟩]
      exact ⟨fun same => other (Option.some_inj.mp same), lost.notMapped⟩

/-- Two drives without an identity. -/
structure TwoUnmapped (letter other : Char) (agent : UsbAgent) : Prop where
  blocked : agent.detector.blockedDrives letter = true
  unknown : agent.detector.deviceIdentities letter = none
  otherBlocked : agent.detector.blockedDrives other = true
  otherUnknown : agent.detector.deviceIdentities other = none

/-- Two drives without an identity never get one. -/
theorem TwoUnmapped.noticeStep {letter other : Char} (two : TwoUnmapped letter other agent)
    (different : letter ≠ other) (isLetter : letter ∈ driveLetters)
    (isOther : other ∈ driveLetters) (notice : Notice) :
    TwoUnmapped letter other (noticeStep paths agent notice) := by
  unfold Devices.noticeStep Notice.event
  split
  · have stays (char : Char) : Stays char [.volume true notice.notification] := by
      intro notification member
      simp at member
    have old (char : Char) (blocked : agent.detector.blockedDrives char = true) :
        char ∉ notice.notification.order.filter fun char =>
          notice.notification.present char && !agent.detector.blockedDrives char := by
      simp [blocked]
    refine ⟨?_, ?_, ?_, ?_⟩
    · exact (step_blocked_iff agent _ isLetter).mpr (Or.inl ⟨two.blocked, stays letter⟩)
    · exact (foldl_arrive_other agent _ _ (old letter two.blocked)).2.2.trans two.unknown
    · exact (step_blocked_iff agent _ isOther).mpr (Or.inl ⟨two.otherBlocked, stays other⟩)
    · exact (foldl_arrive_other agent _ _ (old other two.otherBlocked)).2.2.trans
        two.otherUnknown
  · change TwoUnmapped letter other (agent.onUsbDeviceArrival notice.notification _ _)
    have several : ∀ single, agent.unmapped notice.notification ≠ [single] := by
      intro single only
      have member (char : Char) (isChar : char ∈ driveLetters)
          (blocked : agent.detector.blockedDrives char = true)
          (unknown : agent.detector.deviceIdentities char = none) : char = single := by
        have found : char ∈ agent.unmapped notice.notification := by
          rw [UsbAgent.unmapped, List.mem_filter, notice.notification.mem_order]
          exact ⟨isChar, by simp [blocked, unknown]⟩
        rwa [only, List.mem_singleton] at found
      exact different ((member letter isLetter two.blocked two.unknown).trans
        (member other isOther two.otherBlocked two.otherUnknown).symm)
    rw [agent.onUsbDeviceArrival_of_not_singleton _ _ _ several]
    exact ⟨two.blocked, two.unknown, two.otherBlocked, two.otherUnknown⟩

theorem Lost.afterNotices {letter : Char} {identity : DeviceIdentity}
    (lost : Lost letter identity agent) {notices : List Notice}
    (different : ∀ notice ∈ notices, notice.isVolume = false →
      identityAt paths notice.letter ≠ identity) :
    Lost letter identity (afterNotices paths agent notices) := by
  induction notices generalizing agent with
  | nil => exact lost
  | cons notice rest ih =>
      exact ih (lost.noticeStep (different notice List.mem_cons_self))
        fun later member => different later (List.mem_cons_of_mem notice member)

theorem TwoUnmapped.afterNotices {letter other : Char} (two : TwoUnmapped letter other agent)
    (different : letter ≠ other) (isLetter : letter ∈ driveLetters)
    (isOther : other ∈ driveLetters) (notices : List Notice) :
    TwoUnmapped letter other (afterNotices paths agent notices) := by
  refine foldl_invariant (fun agent notice two => ?_) notices two
  exact TwoUnmapped.noticeStep two different isLetter isOther notice

/-! ## The first two notices -/

section First

variable {notice : Notice}

theorem noticeStep_volume (isVolume : notice.isVolume = true)
    (isLetter : notice.letter ∈ driveLetters)
    (free : agent.detector.blockedDrives notice.letter = false) (sees : SeesNew agent notice) :
    noticeStep paths agent notice = UsbAgent.arrive notice.notification agent notice.letter := by
  rw [noticeStep, Notice.event, if_pos isVolume]
  exact handleVolumeArrival_of_only agent notice.notification isLetter free (sees isVolume).1

/-- A volume that no device waits for has no identity. -/
theorem noticeStep_volume_of_none (isVolume : notice.isVolume = true)
    (isLetter : notice.letter ∈ driveLetters)
    (free : agent.detector.blockedDrives notice.letter = false) (sees : SeesNew agent notice)
    (nothing : agent.detector.pendingIdentity = none) :
    (noticeStep paths agent notice).detector.blockedDrives =
        Function.update agent.detector.blockedDrives notice.letter true ∧
      (noticeStep paths agent notice).detector.deviceIdentities =
        agent.detector.deviceIdentities ∧
      (noticeStep paths agent notice).detector.pendingIdentity = none := by
  have body := UsbAgent.arrive_detector notice.notification agent notice.letter
  rw [toUpper_of_mem isLetter, (sees isVolume).2, if_pos rfl, nothing] at body
  rw [noticeStep_volume isVolume isLetter free sees, body]
  exact ⟨rfl, rfl, rfl⟩

/-- A volume that a device waits for gets its identity. -/
theorem noticeStep_volume_of_some (isVolume : notice.isVolume = true)
    (isLetter : notice.letter ∈ driveLetters)
    (free : agent.detector.blockedDrives notice.letter = false) (sees : SeesNew agent notice)
    {identity : DeviceIdentity} (parked : agent.detector.pendingIdentity = some identity) :
    Settled notice.letter identity (noticeStep paths agent notice) := by
  have body := UsbAgent.arrive_detector notice.notification agent notice.letter
  rw [toUpper_of_mem isLetter, (sees isVolume).2, if_pos rfl, parked] at body
  rw [noticeStep_volume isVolume isLetter free sees]
  refine ⟨?_, ?_⟩
  · rw [body]
    exact Function.update_self ..
  · rw [body]
    exact Function.update_self ..

/-- A device parks its identity if every drive has one. -/
theorem noticeStep_device (isDevice : notice.isVolume = false)
    (mapped : ∀ other ∈ driveLetters, agent.detector.blockedDrives other = true →
      agent.detector.deviceIdentities other ≠ none) :
    noticeStep paths agent notice = agent.park (identityAt paths notice.letter) := by
  rw [noticeStep, Notice.event, if_neg (by simp [isDevice])]
  refine agent.onUsbDeviceArrival_of_not_singleton _ _ _ fun single only => ?_
  have member : single ∈ agent.unmapped notice.notification := by
    rw [only]
    exact List.mem_singleton_self single
  have isLetter := UsbAgent.mem_driveLetters_of_mem_filter notice.notification member
  rw [UsbAgent.unmapped, List.mem_filter, Bool.and_eq_true, Option.isNone_iff_eq_none] at member
  exact mapped single isLetter member.2.1 member.2.2

/-- A device gives its identity to the only drive that has none. -/
theorem noticeStep_device_of_only (isDevice : notice.isVolume = false) {letter : Char}
    (isLetter : letter ∈ driveLetters)
    (blocked : agent.detector.blockedDrives letter = true)
    (unknown : agent.detector.deviceIdentities letter = none)
    (mapped : ∀ other ∈ driveLetters, agent.detector.blockedDrives other = true →
      other ≠ letter → agent.detector.deviceIdentities other ≠ none) :
    Settled letter (identityAt paths notice.letter) (noticeStep paths agent notice) := by
  rw [noticeStep, Notice.event, if_neg (by simp [isDevice])]
  have only : agent.unmapped notice.notification = [letter] := by
    refine notice.notification.filter_eq_singleton isLetter fun other isOther => ?_
    rw [Bool.and_eq_true, Option.isNone_iff_eq_none]
    constructor
    · rintro ⟨here, missing⟩
      by_contra different
      exact mapped other isOther here different missing
    · rintro rfl
      exact ⟨blocked, unknown⟩
  have detector := (agent.onUsbDeviceArrival_of_singleton notice.notification
    (paths notice.letter).1 (paths notice.letter).2 only).1
  refine ⟨?_, ?_⟩
  · exact (congrArg (fun left => left.blockedDrives letter) detector).trans blocked
  · refine (congrArg (fun left => left.deviceIdentities letter) detector).trans ?_
    exact Function.update_self ..

end First

variable {first second : Notice} {rest : List Notice}

/-- Of two devices at the front the second takes the place of the first one. -/
theorem not_attributed_of_devices (complete : Complete paths (first :: second :: rest))
    (ready : Ready (first :: second :: rest) agent)
    (firstKind : first.isVolume = false) (secondKind : second.isVolume = false)
    (others : identityAt paths first.letter ≠ identityAt paths second.letter) :
    ¬Attributed paths (afterNotices paths agent (first :: second :: rest))
      (first :: second :: rest) := by
  intro attributed
  have atFirst := attributed first (by simp)
  have run : afterNotices paths agent (first :: second :: rest) =
      afterNotices paths ((agent.park (identityAt paths first.letter)).park
        (identityAt paths second.letter)) rest := by
    have parked : noticeStep paths agent first = _ := noticeStep_device firstKind ready.mapped
    have replaced : noticeStep paths (agent.park (identityAt paths first.letter)) second = _ :=
      noticeStep_device secondKind ready.mapped
    rw [afterNotices, List.foldl_cons, List.foldl_cons, parked, replaced]
    rfl
  have lost : Lost first.letter (identityAt paths first.letter)
      ((agent.park (identityAt paths first.letter)).park (identityAt paths second.letter)) := by
    refine ⟨fun same => others (Option.some_inj.mp same).symm, ?_⟩
    change agent.detector.deviceIdentities first.letter ≠ _
    rw [ready.unknown first (by simp)]
    simp
  rw [run] at atFirst
  refine (lost.afterNotices fun later member isDevice same => ?_).notMapped atFirst
  have letters := complete.distinct later (by simp [member]) first (by simp) same
  have once := complete.once
  rw [List.map_cons, List.nodup_cons] at once
  refine once.1 (List.mem_map.mpr ⟨later, by simp [member], ?_⟩)
  rw [letters, isDevice, firstKind]

/-- A waiting identity goes to the other drive. -/
theorem not_attributed_of_device_volume (complete : Complete paths (first :: second :: rest))
    (ready : Ready (first :: second :: rest) agent)
    (sees : Each (noticeStep paths) SeesNew agent (first :: second :: rest))
    (firstKind : first.isVolume = false) (secondKind : second.isVolume = true)
    (others : identityAt paths first.letter ≠ identityAt paths second.letter) :
    ¬Attributed paths (afterNotices paths agent (first :: second :: rest))
      (first :: second :: rest) := by
  intro attributed
  have atSecond := attributed second (by simp)
  have secondLetter := complete.letters second (by simp)
  have settled : Settled second.letter (identityAt paths first.letter)
      (noticeStep paths (noticeStep paths agent first) second) := by
    have seesSecond := sees.2.1
    rw [noticeStep_device firstKind ready.mapped] at seesSecond ⊢
    refine noticeStep_volume_of_some secondKind secondLetter ?_ seesSecond rfl
    exact ready.unblocked second (by simp)
  have known : (afterNotices paths agent (first :: second :: rest)).detector.deviceIdentities
      second.letter = some (identityAt paths first.letter) :=
    (settled.afterNotices secondLetter rest).known
  exact others (Option.some_inj.mp (known.symm.trans atSecond))

section VolumeFirst

variable (complete : Complete paths (first :: second :: rest))
  (ready : Ready (first :: second :: rest) agent)
  (sees : Each (noticeStep paths) SeesNew agent (first :: second :: rest))
  (firstKind : first.isVolume = true)

include complete ready sees firstKind

/-- A volume at the front is the only drive without an identity. -/
theorem volume_first_spec :
    (noticeStep paths agent first).detector.blockedDrives =
        Function.update agent.detector.blockedDrives first.letter true ∧
      (noticeStep paths agent first).detector.deviceIdentities =
        agent.detector.deviceIdentities ∧
      (noticeStep paths agent first).detector.pendingIdentity = none :=
  noticeStep_volume_of_none firstKind (complete.letters first (by simp))
    (ready.unblocked first (by simp)) sees.1 ready.nothingPending

/-- It gets the identity of the next device. -/
theorem not_attributed_of_volume_device (secondKind : second.isVolume = false)
    (others : identityAt paths first.letter ≠ identityAt paths second.letter) :
    ¬Attributed paths (afterNotices paths agent (first :: second :: rest))
      (first :: second :: rest) := by
  intro attributed
  have atFirst := attributed first (by simp)
  have firstLetter := complete.letters first (by simp)
  obtain ⟨blocked, identities, -⟩ := volume_first_spec complete ready sees firstKind
  have settled : Settled first.letter (identityAt paths second.letter)
      (noticeStep paths (noticeStep paths agent first) second) := by
    refine noticeStep_device_of_only secondKind firstLetter ?_ ?_
      fun other isOther here different => ?_
    · rw [blocked]
      exact Function.update_self ..
    · rw [identities]
      exact ready.unknown first (by simp)
    · rw [blocked, Function.update_of_ne different] at here
      rw [identities]
      exact ready.mapped other isOther here
  have known : (afterNotices paths agent (first :: second :: rest)).detector.deviceIdentities
      first.letter = some (identityAt paths second.letter) :=
    (settled.afterNotices firstLetter rest).known
  exact others (Option.some_inj.mp (known.symm.trans atFirst)).symm

/-- Behind a second volume neither drive is the only one without an identity any more. -/
theorem not_attributed_of_volumes (secondKind : second.isVolume = true)
    (mixed : first.letter ≠ second.letter) :
    ¬Attributed paths (afterNotices paths agent (first :: second :: rest))
      (first :: second :: rest) := by
  intro attributed
  have atFirst := attributed first (by simp)
  have firstLetter := complete.letters first (by simp)
  have secondLetter := complete.letters second (by simp)
  obtain ⟨blocked, identities, pending⟩ := volume_first_spec complete ready sees firstKind
  have free : (noticeStep paths agent first).detector.blockedDrives second.letter = false := by
    rw [blocked, Function.update_of_ne (Ne.symm mixed)]
    exact ready.unblocked second (by simp)
  obtain ⟨blockedBoth, identitiesBoth, -⟩ :=
    noticeStep_volume_of_none secondKind secondLetter free sees.2.1 pending
  have two : TwoUnmapped first.letter second.letter
      (noticeStep paths (noticeStep paths agent first) second) := by
    refine ⟨?_, ?_, ?_, ?_⟩
    · rw [blockedBoth, Function.update_of_ne mixed, blocked]
      exact Function.update_self ..
    · rw [identitiesBoth, identities]
      exact ready.unknown first (by simp)
    · rw [blockedBoth]
      exact Function.update_self ..
    · rw [identitiesBoth, identities]
      exact ready.unknown second (by simp)
  have unknown : (afterNotices paths agent (first :: second :: rest)).detector.deviceIdentities
      first.letter = none :=
    (two.afterNotices mixed firstLetter secondLetter rest).unknown
  exact Option.some_ne_none _ (atFirst.symm.trans unknown)

end VolumeFirst

/-- Two notices of different drives at the front leave a drive without its device. -/
theorem not_attributed_of_mixed (complete : Complete paths (first :: second :: rest))
    (ready : Ready (first :: second :: rest) agent)
    (sees : Each (noticeStep paths) SeesNew agent (first :: second :: rest))
    (mixed : first.letter ≠ second.letter) :
    ¬Attributed paths (afterNotices paths agent (first :: second :: rest))
      (first :: second :: rest) := by
  have others : identityAt paths first.letter ≠ identityAt paths second.letter :=
    fun same => mixed (complete.distinct first (by simp) second (by simp) same)
  cases firstKind : first.isVolume with
  | false =>
      cases secondKind : second.isVolume with
      | false => exact not_attributed_of_devices complete ready firstKind secondKind others
      | true =>
          exact not_attributed_of_device_volume complete ready sees firstKind secondKind others
  | true =>
      cases secondKind : second.isVolume with
      | false =>
          exact not_attributed_of_volume_device complete ready sees firstKind secondKind others
      | true => exact not_attributed_of_volumes complete ready sees firstKind secondKind mixed

/-! ## All notices -/

/-- A drive has one notice of each kind. -/
theorem Complete.kinds (complete : Complete paths (first :: second :: rest))
    (paired : first.letter = second.letter) :
    first.isVolume ≠ second.isVolume ∧ ∀ notice ∈ rest, notice.letter ≠ first.letter := by
  have once := complete.once
  rw [List.map_cons, List.map_cons, List.nodup_cons, List.nodup_cons, List.mem_cons, not_or] at once
  have kinds : first.isVolume ≠ second.isVolume := fun same => once.1.1 (by rw [paired, same])
  refine ⟨kinds, fun notice member same => ?_⟩
  rcases Bool.eq_or_eq_not notice.isVolume first.isVolume with kind | kind
  · exact once.1.2 (List.mem_map.mpr ⟨notice, member, by rw [same, kind]⟩)
  · have isSecond : notice.isVolume = second.isVolume := by
      rw [kind]
      exact (Bool.eq_not.mpr (Ne.symm kinds)).symm
    exact once.2.1 (List.mem_map.mpr ⟨notice, member, by rw [same, isSecond, paired]⟩)

theorem Complete.ofRest (complete : Complete paths (first :: second :: rest))
    (paired : first.letter = second.letter) : Complete paths rest where
  letters notice member := complete.letters notice (by simp [member])
  once := by
    have once := complete.once
    rw [List.map_cons, List.map_cons, List.nodup_cons, List.nodup_cons] at once
    exact once.2.2
  both := by
    intro notice member
    have apart := (complete.kinds paired).2 notice member
    rcases complete.both notice (by simp [member]) with ⟨other, isOther, letter, kind⟩
    rcases List.mem_cons.mp isOther with rfl | isOther
    · exact absurd letter.symm apart
    · rcases List.mem_cons.mp isOther with rfl | isOther
      · exact absurd (letter.symm.trans paired.symm) apart
      · exact ⟨other, isOther, letter, kind⟩
  distinct notice member other isOther :=
    complete.distinct notice (by simp [member]) other (by simp [isOther])

/-- The two notices of a drive, in either order, give it its device. -/
theorem pair_spec (complete : Complete paths (first :: second :: rest))
    (ready : Ready (first :: second :: rest) agent)
    (sees : Each (noticeStep paths) SeesNew agent (first :: second :: rest))
    (paired : first.letter = second.letter) :
    Settled first.letter (identityAt paths first.letter)
        (noticeStep paths (noticeStep paths agent first) second) ∧
      Ready rest (noticeStep paths (noticeStep paths agent first) second) := by
  have isFirst : first ∈ first :: second :: rest := by simp
  have isLetter := complete.letters first isFirst
  rcases complete.kinds paired with ⟨kinds, apart⟩
  have seesFirst := sees.1
  have seesSecond := sees.2.1
  suffices spec : (noticeStep paths (noticeStep paths agent first) second).detector.blockedDrives =
        Function.update agent.detector.blockedDrives first.letter true ∧
      (noticeStep paths (noticeStep paths agent first) second).detector.deviceIdentities =
        Function.update agent.detector.deviceIdentities first.letter
          (some (identityAt paths first.letter)) ∧
      (noticeStep paths (noticeStep paths agent first) second).detector.pendingIdentity = none by
    rcases spec with ⟨blocked, identities, pending⟩
    refine ⟨⟨by rw [blocked]; simp, by rw [identities]; simp⟩, pending, ?_, ?_, ?_⟩
    · intro other isOther here
      rw [blocked, Function.update_apply] at here
      rw [identities, Function.update_apply]
      split
      · simp
      · rename_i different
        rw [if_neg different] at here
        exact ready.mapped other isOther here
    · intro notice member
      rw [blocked, Function.update_of_ne (apart notice member)]
      exact ready.unblocked notice (by simp [member])
    · intro notice member
      rw [identities, Function.update_of_ne (apart notice member)]
      exact ready.unknown notice (by simp [member])
  have both (volumeFirst : Bool) {onVolume : Notification} (onDevice : Notification)
      (present : ∀ other ∈ driveLetters, onVolume.present other = true ↔
        agent.detector.blockedDrives other = true ∨ other = first.letter)
      (still : onVolume.still first.letter = true) :=
    plug_spec agent isLetter (ready.unblocked first isFirst) (ready.unknown first isFirst)
      ready.mapped ready.nothingPending (paths first.letter).1 (paths first.letter).2 volumeFirst
      onDevice present still
  cases firstKind : first.isVolume with
  | true =>
      have secondKind : second.isVolume = false :=
        Bool.eq_false_iff.mpr fun same => kinds (firstKind.trans same.symm)
      rcases both true second.notification (seesFirst firstKind).1 (seesFirst firstKind).2 with
        ⟨after, run, blocked, identities, pending, _⟩
      have same : noticeStep paths (noticeStep paths agent first) second = after := by
        rw [← run]
        simp only [noticeStep, Notice.event, firstKind, secondKind, if_true, Bool.false_eq_true,
          if_false, UsbAgent.run, List.foldl_cons, List.foldl_nil, paired]
      rw [same]
      exact ⟨blocked, identities, pending⟩
  | false =>
      have secondKind : second.isVolume = true :=
        (Bool.not_eq_false _).mp fun same => kinds (firstKind.trans same.symm)
      rw [noticeStep_device firstKind ready.mapped] at seesSecond
      have scans := seesSecond secondKind
      rw [← paired] at scans
      rcases both false first.notification scans.1 scans.2 with
        ⟨after, run, blocked, identities, pending, _⟩
      have same : noticeStep paths (noticeStep paths agent first) second = after := by
        rw [← run]
        simp only [noticeStep, Notice.event, firstKind, secondKind, if_true, Bool.false_eq_true,
          if_false, UsbAgent.run, List.foldl_cons, List.foldl_nil]
      rw [same]
      exact ⟨blocked, identities, pending⟩

/-- Every drive of the notices gets its own device exactly if the two notices of each drive follow
each other. -/
theorem attributed_iff_paired {notices : List Notice} (complete : Complete paths notices)
    (ready : Ready notices agent) (sees : Each (noticeStep paths) SeesNew agent notices) :
    Attributed paths (afterNotices paths agent notices) notices ↔ Paired notices := by
  induction notices using Paired.induct generalizing agent with
  | case1 => exact ⟨fun _ => trivial, fun _ _ member => by cases member⟩
  | case2 single =>
      rcases complete.both single (List.mem_singleton_self single) with ⟨other, isOther, _, kind⟩
      obtain rfl := List.mem_singleton.mp isOther
      exact absurd kind (by simp)
  | case3 first second rest ih =>
      by_cases paired : first.letter = second.letter
      · rcases pair_spec complete ready sees paired with ⟨settled, readyRest⟩
        have known : (afterNotices paths agent (first :: second :: rest)).detector.deviceIdentities
            first.letter = some (identityAt paths first.letter) :=
          (settled.afterNotices (complete.letters first (by simp)) rest).known
        have restPaired := ih (complete.ofRest paired) readyRest sees.2.2
        rw [Paired, ← restPaired]
        constructor
        · exact fun attributed =>
            ⟨paired, fun notice member => attributed notice (by simp [member])⟩
        · rintro ⟨-, attributed⟩ notice member
          rcases List.mem_cons.mp member with rfl | member
          · exact known
          · rcases List.mem_cons.mp member with rfl | member
            · rw [← paired]
              exact known
            · exact attributed notice member
      · constructor
        · exact fun attributed =>
            absurd attributed (not_attributed_of_mixed complete ready sees paired)
        · exact fun isPaired => absurd isPaired.1 paired

end Orders

/-- The device paths of two sticks. -/
def stickPaths (letter : Char) : String × String :=
  (if letter = 'E' then "\\\\?\\USB#VID_0951&PID_1666#A1#{guid}"
    else "\\\\?\\USB#VID_0951&PID_1666#B2#{guid}", "stick")

/-- Both devices come before both volumes. -/
def devicesFirst : List Notice :=
  [⟨'E', false, noticeSeeing []⟩, ⟨'F', false, noticeSeeing []⟩, ⟨'E', true, noticeSeeing ['E']⟩,
    ⟨'F', true, noticeSeeing ['E', 'F']⟩]

/-- The device of one stick comes before its volume, that of the other one behind it. -/
def onePairEach : List Notice :=
  [⟨'E', false, noticeSeeing []⟩, ⟨'E', true, noticeSeeing ['E']⟩,
    ⟨'F', true, noticeSeeing ['E', 'F']⟩, ⟨'F', false, noticeSeeing ['E', 'F']⟩]

theorem attributed_iff_paired_twoSticks :
    ¬Attributed stickPaths
        (afterNotices stickPaths (UsbAgent.start noVolumes (noticeSeeing []) []) devicesFirst)
        devicesFirst ∧
      Attributed stickPaths
        (afterNotices stickPaths (UsbAgent.start noVolumes (noticeSeeing []) []) onePairEach)
        onePairEach := by
  have start := tracks_start noVolumes [] (show ∀ letter ∈ driveLetters,
    (noticeSeeing []).present letter = false by simp [noticeSeeing])
  have ready (notices : List Notice) :
      Ready notices (UsbAgent.start noVolumes (noticeSeeing []) []) := by
    constructor
    case nothingPending => exact start.nothingPending
    case mapped => simp [start.blocked]
    case unblocked => simp [start.blocked]
    case unknown => simp [start.identities]
  constructor
  · have complete : Complete stickPaths devicesFirst := by
      constructor <;> decide +kernel
    have sees : Each (noticeStep stickPaths) SeesNew
        (UsbAgent.start noVolumes (noticeSeeing []) []) devicesFirst := by
      decide +kernel
    rw [attributed_iff_paired complete (ready _) sees]
    exact fun paired => absurd paired.1 (by decide)
  · have complete : Complete stickPaths onePairEach := by
      constructor <;> decide +kernel
    have sees : Each (noticeStep stickPaths) SeesNew
        (UsbAgent.start noVolumes (noticeSeeing []) []) onePairEach := by
      decide +kernel
    exact (attributed_iff_paired complete (ready _) sees).mpr ⟨rfl, rfl, trivial⟩

end DlpSystem.Devices
