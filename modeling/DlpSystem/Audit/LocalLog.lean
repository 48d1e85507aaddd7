import DlpSystem.Audit.Chain
import DlpSystem.Lib.EventRun
import DlpSystem.Lib.Lines
import DlpSystem.Lib.RotatedFiles

/-!
# The local audit log

`AuditEmitter` over its directory: the current file and its rotations, the
`BufWriter` in front of the open file and the chain head in memory.  A run is a
sequence of critical sections under the writer lock and of starts and ends of the
process; each carries what the file system did with its calls.
-/

namespace DlpSystem.Audit

open Lib

/-- `serde_json` on audit events.  A text is one line since control characters
are escaped. -/
structure EventJson where
  toJson : AuditEvent → Option String
  fromJson : String → Option AuditEvent
  fromJson_toJson : ∀ {event text}, toJson event = some text → fromJson text = some event
  escaped : ∀ {event text}, toJson event = some text → ∀ byte ∈ utf8 text, 32 ≤ byte

/-- `MAX_ROTATED_FILES`. -/
def maxRotatedFiles : Nat := 9

/-- `MAX_RECOVERY_LINES`. -/
def maxRecoveryLines : Nat := 10

/-- The current file has number 0, `<stem>.i.<ext>` has number `i`. -/
def logFileCount : Nat := maxRotatedFiles + 1

/-- The fields of `AuditEmitter` that a chain depends on; the file of its writer is
the open one of the disk. -/
structure AuditEmitter where
  buffer : List UInt8
  lastChainHash : String
  deriving DecidableEq

/-- The directory, every byte that was ever appended to a log file, and the emitter
of the running process. -/
structure LogState where
  disk : Disk (List UInt8)
  written : List UInt8
  emitter : Option AuditEmitter

/-- No file yet. -/
def LogState.initial : LogState :=
  ⟨⟨fun _ => none, none⟩, [], none⟩

/-! ## Reading a log file -/

/-- A terminated line without its carriage return. -/
def stripReturn (line : List UInt8) : List UInt8 :=
  if line.getLast? = some 13 then line.dropLast else line

/-- The text of some bytes. -/
def textOf (bytes : List UInt8) : Option String :=
  String.fromUTF8? ⟨bytes.toArray⟩

/-- `BufRead::lines`, with a last line that may lack its line feed. -/
def bufLines (bytes : List UInt8) : List (Option String) :=
  (splitLines bytes).1.map (fun line => textOf (stripReturn line)) ++
    if (splitLines bytes).2 = [] then [] else [textOf (splitLines bytes).2]

/-- `recover_last_hash_from_log`. -/
def recoverLastHashFromLog (json : EventJson) (bytes : List UInt8) : Option String :=
  let candidates := ((bufLines bytes).takeWhile Option.isSome).filterMap id
  (((candidates.reverse.take maxRecoveryLines).filterMap json.fromJson).filterMap
    AuditEvent.chainHash).head?

/-- The events of the complete JSON lines of a file. -/
def jsonLines (json : EventJson) (bytes : List UInt8) : List AuditEvent :=
  (splitLines bytes).1.filterMap fun line => (textOf (stripReturn line)).bind json.fromJson

/-- The events of all log files, from the oldest rotation to the current file. -/
def retainedEvents (json : EventJson) (disk : Disk (List UInt8)) : List AuditEvent :=
  collect (jsonLines json) disk.files logFileCount

/-! ## Operations -/

/-- `open_append` on the current file, which is created if it is missing. -/
def openAppend (disk : Disk (List UInt8)) : Disk (List UInt8) where
  files := Function.update disk.files 0 (some ((disk.files 0).getD []))
  handle := some 0

/-- Bytes that reach the open file. -/
def LogState.append (state : LogState) (bytes : List UInt8) : LogState :=
  { state with disk := state.disk.append bytes, written := state.written ++ bytes }

/-- The end of the process. -/
def LogState.stop (state : LogState) : LogState :=
  { state with disk := { state.disk with handle := none }, emitter := none }

section Operations

variable (hasher : ChainHasher) (json : EventJson)

/-- `AuditEmitter::open`. -/
def LogState.openLog (state : LogState) : LogState :=
  let disk := openAppend state.disk
  let recovered := recoverLastHashFromLog json ((disk.files 0).getD [])
  { state with disk, emitter := some ⟨[], recovered.getD hasher.genesisHash⟩ }

/-- How many bytes of a line the writer took, and how many of the pending bytes
reached the file. -/
structure WriteOutcome where
  accepted : Nat
  flushed : Nat

/-- The line that `emit` writes for an event, and the head behind it. -/
def stampedLine (head : String) (content : EventContent) : Option (List UInt8 × String) := do
  let (event, chainHash) ← hasher.stamp head content
  let text ← json.toJson event
  pure (utf8 text ++ [lineFeed], chainHash)

/-- `AuditEmitter::emit`, without the rotation it may end with.  What a failed flush
leaves in the buffer stays there. -/
def LogState.emit (state : LogState) (emitter : AuditEmitter) (content : EventContent)
    (outcome : WriteOutcome) : LogState :=
  match stampedLine hasher json emitter.lastChainHash content with
  | none => state
  | some (line, chainHash) =>
      let pending := emitter.buffer ++ line.take outcome.accepted
      let succeeded := line.length ≤ outcome.accepted ∧ pending.length ≤ outcome.flushed
      { state.append (pending.take outcome.flushed) with
        emitter := some
          { buffer := pending.drop outcome.flushed
            lastChainHash := if succeeded then chainHash else emitter.lastChainHash } }

end Operations

/-- What goes wrong in a rotation: the move or removal of some files, whose errors
are ignored, and opening the new file. -/
structure RotateFaults where
  fails : Nat → Bool
  reopenFails : Bool

/-- One round of the loop of `rotate`. -/
def shiftFile (fails : Nat → Bool) (disk : Disk (List UInt8)) (slot : Nat) : Disk (List UInt8) :=
  if fails slot then disk
  else if slot = maxRotatedFiles then disk.remove slot
  else disk.rename slot (slot + 1)

/-- The loop of `rotate`, from the highest number down to 1. -/
def shiftFiles (fails : Nat → Bool) : Nat → Disk (List UInt8) → Disk (List UInt8)
  | 0, disk => disk
  | slot + 1, disk => shiftFiles fails slot (shiftFile fails disk (slot + 1))

/-- The loop of `rotate` and the move of the current file. -/
def rotateFiles (fails : Nat → Bool) (disk : Disk (List UInt8)) : Disk (List UInt8) :=
  let shifted := shiftFiles fails maxRotatedFiles disk
  if fails 0 then shifted else shifted.rename 0 1

/-- `AuditEmitter::rotate`.  When the new file does not open, the writer keeps the
old one under its new name. -/
def LogState.rotate (state : LogState) (emitter : AuditEmitter) (flushed : Nat)
    (faults : RotateFaults) : LogState :=
  let left := emitter.buffer.drop flushed
  let state := { state.append (emitter.buffer.take flushed) with
    emitter := some { emitter with buffer := left } }
  if left = [] then
    let rotated := rotateFiles faults.fails state.disk
    { state with disk := if faults.reopenFails then rotated else openAppend rotated }
  else state

/-! ## Runs -/

/-- What happens to a log.  A process ends inside `emit` or elsewhere, where its
writer may still be dropped and flushed. -/
inductive LogEvent
  | openLog
  | emit (content : EventContent) (outcome : WriteOutcome)
  | endInEmit (content : EventContent) (outcome : WriteOutcome)
  | rotate (flushed : Nat) (faults : RotateFaults)
  | endProcess (flushed : Nat)

/-- One event; it needs a running emitter, or none to open the log. -/
def LogState.next (hasher : ChainHasher) (json : EventJson) (state : LogState) :
    LogEvent → LogState
  | .openLog =>
      match state.emitter with
      | none => state.openLog hasher json
      | some _ => state
  | .emit content outcome =>
      match state.emitter with
      | none => state
      | some emitter => state.emit hasher json emitter content outcome
  | .endInEmit content outcome =>
      match state.emitter with
      | none => state
      | some emitter => (state.emit hasher json emitter content outcome).stop
  | .rotate flushed faults =>
      match state.emitter with
      | none => state
      | some emitter => state.rotate emitter flushed faults
  | .endProcess flushed =>
      match state.emitter with
      | none => state
      | some emitter => (state.append (emitter.buffer.take flushed)).stop

/-! ## Sample texts -/

/-- The parts of an event's text that change. -/
def sampleText (others previous chainHash : String) : String :=
  "\x7b\"correlation_id\":\"" ++ others ++ "\",\"prev_hash\":\"" ++ previous ++
    "\",\"chain_hash\":\"" ++ chainHash ++ "\"\x7d"

def firstEvent : AuditEvent :=
  ⟨sampleContent 1 "1", some "0", some "01"⟩

def secondEvent (previous chainHash : String) : AuditEvent :=
  ⟨sampleContent 2 "2", some previous, some chainHash⟩

/-- The texts of the first event and of the second one behind either head. -/
def sampleJson : EventJson where
  toJson event :=
    if event = firstEvent then some (sampleText "1" "0" "01")
    else if event = secondEvent "01" "012" then some (sampleText "2" "01" "012")
    else if event = secondEvent "0" "02" then some (sampleText "2" "0" "02")
    else none
  fromJson text :=
    if text = sampleText "1" "0" "01" then some firstEvent
    else if text = sampleText "2" "01" "012" then some (secondEvent "01" "012")
    else if text = sampleText "2" "0" "02" then some (secondEvent "0" "02")
    else none
  fromJson_toJson := by
    intro event text printed
    split at printed
    · subst event
      cases printed
      decide +kernel
    · split at printed
      · subst event
        cases printed
        decide +kernel
      · split at printed
        · subst event
          cases printed
          decide +kernel
        · exact absurd printed (by simp)
  escaped := by
    intro event text printed
    split at printed
    · cases printed
      decide +kernel
    · split at printed
      · cases printed
        decide +kernel
      · split at printed
        · cases printed
          decide +kernel
        · exact absurd printed (by simp)

end DlpSystem.Audit
