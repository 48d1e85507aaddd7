import DlpSystem.Agent.DriveEnforcers

/-!
# Spellings of one path on a drive

Three functions find the drive of a path, each for itself.  They agree on the letter in
either case and on the slash behind the colon; a path in extended-length form begins with two
backslashes, and each of them takes it for a path on the network.
-/

namespace DlpSystem.Devices

open Abac Agent

/-- The ways to spell the path of a file on a drive. -/
inductive PathSpelling
  | plain
  | lowerCase
  | forwardSlash
  | extended
  deriving DecidableEq

theorem PathSpelling.plain_ne_extended : PathSpelling.plain ≠ .extended := by
  decide

/-- The path of the file `rest` on a drive. -/
def PathSpelling.spell (spelling : PathSpelling) (letter : Char) (rest : String) : String :=
  match spelling with
  | .plain => String.singleton letter ++ ":\\" ++ rest
  | .lowerCase => String.singleton letter.toLower ++ ":\\" ++ rest
  | .forwardSlash => String.singleton letter ++ ":/" ++ rest
  | .extended => "\\\\?\\" ++ String.singleton letter ++ ":\\" ++ rest

/-! ## What the agent makes of a path -/

/-- What the answers on a path depend on. -/
structure AgentState where
  usb : UsbEnforcer
  disk : DiskEnforcer
  installed : Option DiskEnumerator
  currentSid : Option String
  now : Nat
  lookup : Char → Option VolumeClass

/-- The decisions of the two enforcers, where they make one, and the volume class. -/
structure PathAnswers where
  usb : Option Decision
  disk : Option Decision
  volumeClass : Option VolumeClass

/-- The answers on an action at a path. -/
def AgentState.answers (state : AgentState) (action : FileAction) (path : String) :
    PathAnswers where
  usb := (state.usb.check state.currentSid state.now path action).1.map UsbBlockResult.decision
  disk := (state.disk.check state.installed state.now path action).1.map DiskBlockResult.decision
  volumeClass := resolveVolumeClassFromPath path state.lookup

/-- The answers do not depend on the spelling. -/
def SpelledAlike (state : AgentState) (action : FileAction) (letter : Char) (rest : String) :
    Prop :=
  ∀ spelling : PathSpelling, state.answers action (spelling.spell letter rest) =
    state.answers action (PathSpelling.plain.spell letter rest)

/-! ## The drive of a spelling -/

section Letters

variable {spelling : PathSpelling} {letter : Char} (rest : String)

/-- But for the extended form, a spelling begins with the letter and a colon. -/
theorem toList_spell (letter : Char) (rest : String) (short : spelling ≠ .extended) :
    ∃ first tail, (spelling.spell letter rest).toList = first :: ':' :: tail ∧
      first.isAlpha = letter.isAlpha ∧ first.toUpper = letter.toUpper := by
  cases spelling with
  | plain => exact ⟨letter, '\\' :: rest.toList, by simp [PathSpelling.spell], rfl, rfl⟩
  | lowerCase =>
      exact ⟨letter.toLower, '\\' :: rest.toList, by simp [PathSpelling.spell],
        Lib.isAlpha_toLower letter, Lib.toUpper_toLower letter⟩
  | forwardSlash => exact ⟨letter, '/' :: rest.toList, by simp [PathSpelling.spell], rfl, rfl⟩
  | extended => exact absurd rfl short

theorem toList_extended (letter : Char) :
    (PathSpelling.extended.spell letter rest).toList =
      '\\' :: '\\' :: '?' :: '\\' :: letter :: ':' :: '\\' :: rest.toList := by
  simp [PathSpelling.spell]

theorem driveLetterFromPath_spell (isLetter : letter.isAlpha = true)
    (short : spelling ≠ .extended) :
    driveLetterFromPath (spelling.spell letter rest) = some letter.toUpper := by
  obtain ⟨first, tail, text, alpha, upper⟩ := toList_spell letter rest short
  have firstAlpha : first.isAlpha = true := alpha.trans isLetter
  rw [driveLetterFromPath, text, ← upper]
  split
  · rename_i separators
    cases separators
  · rename_i empty
    cases empty
  · rename_i same
    cases same
    rw [if_pos firstAlpha]

theorem driveLetterFromPath_extended (letter : Char) :
    driveLetterFromPath (PathSpelling.extended.spell letter rest) = none := by
  simp only [driveLetterFromPath, toList_extended]

theorem resolveVolumeClassFromPath_spell (lookup : Char → Option VolumeClass)
    (isLetter : letter.isAlpha = true) (short : spelling ≠ .extended) :
    resolveVolumeClassFromPath (spelling.spell letter rest) lookup = lookup letter.toUpper := by
  obtain ⟨first, tail, text, alpha, upper⟩ := toList_spell letter rest short
  have firstAlpha : first.isAlpha = true := alpha.trans isLetter
  have notSeparator : '\\' ≠ first := by
    rintro rfl
    cases firstAlpha
  rw [resolveVolumeClassFromPath, text, ← upper, if_neg (by simp [notSeparator]),
    if_neg (by simp [notSeparator])]
  exact if_pos firstAlpha

/-- A colon follows the letter, so the form is not that of a volume GUID. -/
theorem resolveVolumeClassFromPath_extended (lookup : Char → Option VolumeClass)
    (letter : Char) :
    resolveVolumeClassFromPath (PathSpelling.extended.spell letter rest) lookup =
      some .networkShare := by
  rw [resolveVolumeClassFromPath, toList_extended, if_neg (by simp), if_pos (by simp)]

end Letters

/-! ## The decisions at a drive -/

/-- What `UsbEnforcer::check` decides at a drive. -/
def usbDecision (enforcer : UsbEnforcer) (letter : Option Char) : Option Decision :=
  letter.bind fun drive =>
    match enforcer.detector.deviceIdentities drive with
    | some identity =>
        if enforcer.registry.hasDevice identity.vid identity.pid identity.serial then none
        else some .deny
    | none => if enforcer.detector.blockedDrives drive then some .deny else none

/-- What `DiskEnforcer::check` decides at a drive. -/
def diskDecision (installed : Option DiskEnumerator) (action : FileAction)
    (letter : Option Char) : Option Decision :=
  if isDiskWrite action = false then none
  else
    match installed with
    | none => some .deny
    | some enumerator =>
        if enumerator.enumerationComplete = false then some .deny
        else
          (letter.bind enumerator.diskForDriveLetter).bind fun liveDisk =>
            let registered := enumerator.instanceIdMap liveDisk.instanceId
            if registered.isNone || serialMismatch registered liveDisk then some .deny else none

theorem check_usbDecision (enforcer : UsbEnforcer) (currentSid : Option String) (now : Nat)
    (path : String) (action : FileAction) :
    (enforcer.check currentSid now path action).1.map UsbBlockResult.decision =
      usbDecision enforcer (driveLetterFromPath path) := by
  cases isLetter : driveLetterFromPath path with
  | none =>
      rw [enforcer.check_of_no_letter currentSid now action isLetter]
      rfl
  | some drive =>
      cases plugged : enforcer.detector.deviceIdentities drive with
      | some identity =>
          rw [enforcer.check_of_device currentSid now action isLetter plugged, usbDecision,
            Option.bind_some, plugged]
          dsimp only
          split
          · rfl
          · exact enforcer.deny_decision now drive identity _
      | none =>
          rw [enforcer.check_of_no_device currentSid now action isLetter plugged, usbDecision,
            Option.bind_some, plugged]
          dsimp only
          split
          · exact enforcer.deny_decision now drive _ _
          · rfl

theorem check_diskDecision (enforcer : DiskEnforcer) (installed : Option DiskEnumerator)
    (now : Nat) (path : String) (action : FileAction) :
    (enforcer.check installed now path action).1.map DiskBlockResult.decision =
      diskDecision installed action (driveLetterFromPath path) := by
  have denied (disk : DiskIdentity) (letter : Option Char) :
      (enforcer.deny now disk letter).1.map DiskBlockResult.decision = some .deny := by
    cases letter <;> rfl
  unfold DiskEnforcer.check diskDecision
  split
  · rfl
  · cases installed with
    | none => exact denied _ _
    | some enumerator =>
        dsimp only
        split
        · exact denied _ _
        · cases driveLetterFromPath path with
          | none => rfl
          | some letter =>
              rw [Option.bind_some]
              dsimp only
              cases enumerator.diskForDriveLetter letter with
              | none => rfl
              | some liveDisk =>
                  rw [Option.bind_some]
                  dsimp only
                  split
                  · rw [ite_self]
                    exact denied _ _
                  · rfl

/-! ## Where the extended form is answered alike -/

/-- No check of USB devices denies at a drive. -/
def UsbClear (enforcer : UsbEnforcer) (drive : Char) : Prop :=
  match enforcer.detector.deviceIdentities drive with
  | some identity => enforcer.registry.hasDevice identity.vid identity.pid identity.serial = true
  | none => enforcer.detector.blockedDrives drive = false

/-- Once the disks are enumerated, the one at a drive is registered, and under no other
serial. -/
def DiskClear (installed : Option DiskEnumerator) (drive : Char) : Prop :=
  ∀ enumerator ∈ installed, enumerator.enumerationComplete = true →
    ∀ liveDisk ∈ enumerator.diskForDriveLetter drive,
      let registered := enumerator.instanceIdMap liveDisk.instanceId
      registered ≠ none ∧ serialMismatch registered liveDisk = false

theorem usbDecision_eq_none_iff (enforcer : UsbEnforcer) (drive : Char) :
    usbDecision enforcer none = usbDecision enforcer (some drive) ↔ UsbClear enforcer drive := by
  rw [usbDecision, usbDecision, UsbClear, Option.bind_none, Option.bind_some]
  cases enforcer.detector.deviceIdentities drive with
  | some identity => simp
  | none => simp

theorem diskDecision_eq_iff (installed : Option DiskEnumerator) (action : FileAction)
    (drive : Char) :
    diskDecision installed action none = diskDecision installed action (some drive) ↔
      (isDiskWrite action = true → DiskClear installed drive) := by
  cases writes : isDiskWrite action with
  | false => simp [diskDecision, writes]
  | true =>
      cases installed with
      | none => simp [diskDecision, DiskClear]
      | some enumerator =>
          cases complete : enumerator.enumerationComplete with
          | false => simp [diskDecision, DiskClear, complete]
          | true =>
              cases live : enumerator.diskForDriveLetter drive with
              | none => simp [diskDecision, DiskClear, writes, complete, live]
              | some liveDisk => simp [diskDecision, DiskClear, writes, complete, live]

/-- The state answers the extended form of a path on a drive as the others. -/
structure AnswersExtended (state : AgentState) (action : FileAction) (drive : Char) : Prop where
  usb : UsbClear state.usb drive
  disk : isDiskWrite action = true → DiskClear state.installed drive
  volumeClass : state.lookup drive = some .networkShare

theorem answers_spell (state : AgentState) (action : FileAction) {letter : Char} (rest : String)
    (isLetter : letter.isAlpha = true) {spelling : PathSpelling} (short : spelling ≠ .extended) :
    state.answers action (spelling.spell letter rest) =
      ⟨usbDecision state.usb (some letter.toUpper),
        diskDecision state.installed action (some letter.toUpper), state.lookup letter.toUpper⟩ := by
  rw [AgentState.answers, check_usbDecision, check_diskDecision,
    driveLetterFromPath_spell rest isLetter short,
    resolveVolumeClassFromPath_spell rest state.lookup isLetter short]

theorem answers_extended (state : AgentState) (action : FileAction) (letter : Char)
    (rest : String) :
    state.answers action (PathSpelling.extended.spell letter rest) =
      ⟨usbDecision state.usb none, diskDecision state.installed action none,
        some .networkShare⟩ := by
  rw [AgentState.answers, check_usbDecision, check_diskDecision, driveLetterFromPath_extended,
    resolveVolumeClassFromPath_extended]

/-- The spelling does not matter exactly where the extended form, which is always let through
as a path on the network, gets the answers of the drive. -/
theorem spelledAlike_iff (state : AgentState) (action : FileAction) {letter : Char}
    (isLetter : letter.isAlpha = true) (rest : String) :
    SpelledAlike state action letter rest ↔ AnswersExtended state action letter.toUpper := by
  have plain := answers_spell state action rest isLetter PathSpelling.plain_ne_extended
  constructor
  · intro alike
    have same := alike .extended
    rw [plain, answers_extended] at same
    injection same with usb disk volumeClass
    exact ⟨(usbDecision_eq_none_iff _ _).mp usb, (diskDecision_eq_iff _ _ _).mp disk,
      volumeClass.symm⟩
  · intro clear spelling
    by_cases extended : spelling = .extended
    · rw [extended, plain, answers_extended, (usbDecision_eq_none_iff _ _).mpr clear.usb,
        (diskDecision_eq_iff _ _ _).mpr clear.disk, clear.volumeClass]
    · rw [plain, answers_spell state action rest isLetter extended]

/-- An agent with a share at a drive and nothing plugged in. -/
def mappedShare : AgentState where
  usb := .new ⟨fun _ => false, fun _ => none⟩ fun _ => none
  disk := .new
  installed := none
  currentSid := none
  now := 0
  lookup drive := if drive = 'Z' then some .networkShare else none

theorem spelledAlike_mappedShare :
    SpelledAlike mappedShare (.written "Z:\\plan.txt") 'Z' "plan.txt" := by
  rw [spelledAlike_iff mappedShare _ (by decide)]
  constructor
  · rfl
  · intro _ enumerator installed
    cases installed
  · rfl

/-- An agent with a USB drive whose device was not captured. -/
def unknownStick : AgentState :=
  { mappedShare with
    usb := .new ⟨fun drive => drive = 'E', fun _ => none⟩ fun _ => none
    lookup := fun drive => if drive = 'E' then some .usbRemovable else none }

/-- The drive is denied under its letter, and not in extended-length form. -/
theorem not_spelledAlike_unknownStick :
    ¬ SpelledAlike unknownStick (.written "E:\\plan.txt") 'E' "plan.txt" := by
  intro alike
  have isLetter : 'E'.isAlpha = true := by decide
  have same := congrArg PathAnswers.usb (alike .extended)
  rw [answers_spell unknownStick _ "plan.txt" isLetter PathSpelling.plain_ne_extended,
    answers_extended] at same
  cases same

end DlpSystem.Devices
