import DlpSystem.Hook.Trampoline

/-!
# The bypass correlator

`JournalReader`, the per-PID maps, `is_allowlisted`, `remove_pid`,
`handle_process_event`, `handle_etw_event` and the two ways into the alert
batch.  Time is a number of nanoseconds.  What the operating system answers
during a call (creation time, image path and hash, wall clock, the named
mapping of a PID) comes with the call.
-/

namespace DlpSystem.Agent

open Common Hook

/-! ## Journal reader -/

/-- `JournalReader`: the mapping it has open, how far it has read, and the
creation time of the process it was opened for. -/
structure JournalReader where
  mapping : Nat
  lastReadIndex : UInt32
  creationTime : UInt64
  deriving DecidableEq, Repr

/-- `read_entries`, with the new `last_read_index`. -/
def readEntries (journal : Journal) (lastReadIndex : UInt32) : List JournalEntry × UInt32 :=
  if journal.writeIndex ≤ lastReadIndex then ([], lastReadIndex)
  else
    let count := (journal.writeIndex - lastReadIndex).toNat
    ((List.range count).map fun i => journal.slots ((lastReadIndex.toNat + i) % entryCapacity),
      journal.writeIndex)

/-! ## Events and alerts -/

/-- `FileOp`. -/
inductive FileOp
  | create
  | write
  | delete
  | setInfo
  deriving DecidableEq, Repr

/-- `file_op_to_u8`. -/
def fileOpToU8 : FileOp → UInt8
  | .create => 1
  | .write => 2
  | .delete => 3
  | .setInfo => 4

/-- `EtwFileEvent`. -/
structure EtwFileEvent where
  pid : UInt32
  fileName : Str
  fileObject : UInt64
  timestamp : UInt64
  op : FileOp
  ntPathConverted : Bool
  deriving DecidableEq

/-- `EventSource`. -/
inductive EventSource
  | etw
  | wmi
  | startupSweep
  | periodicSweep
  deriving DecidableEq, Repr

/-- What the correlator reads of a `ProcessEvent`. -/
structure ProcessEvent where
  pid : UInt32
  imagePath : Str
  source : EventSource
  deriving DecidableEq

/-- `BypassReason`. -/
inductive BypassReason
  | hookOverwritten
  | patchRaced
  | edrDetected
  | noHookJournal
  | opMismatch
  deriving DecidableEq, Repr

/-- `BypassAlert`. -/
structure BypassAlert where
  reason : BypassReason
  stubName : Str
  pid : UInt32
  timestampSecs : UInt64
  version : UInt32
  agentId : Str
  imagePath : Str
  imageSha256 : Option Str
  filePath : Str
  operation : Str
  fileObject : UInt64
  qpcTimestamp : UInt64
  severity : Str
  correlationReason : Str
  deriving DecidableEq

/-- `PendingAlert`.  The batch identifiers are fresh UUIDs. -/
structure PendingAlert where
  alert : BypassAlert
  retryCount : UInt32
  batchId : Nat
  deriving DecidableEq

/-- What the modelled code reads of `CorrelatorConfig`. -/
structure CorrelatorConfig where
  qpcToleranceMs : UInt64
  pidTtlSecs : UInt64
  maxAlertRetry : UInt32
  reducedMode : Bool
  enforcementMode : EnforcementMode

/-- `CorrelatorConfig::default`. -/
def CorrelatorConfig.default : CorrelatorConfig := ⟨5, 60, 3, false, .block⟩

/-- What is fixed when the correlator is created. -/
structure CorrelatorSetup where
  config : CorrelatorConfig
  qpcFreq : Int64
  qpcDelta : Int64
  agentId : Str
  protectedPaths : List Str

/-- The maps and the batch of `BypassCorrelator`. -/
structure Correlator where
  journals : UInt32 → Option JournalReader
  pendingJournals : UInt32 → Option (Nat × UInt32)
  allowlistedPids : UInt32 → Option Nat
  alertBatch : List PendingAlert

/-- A correlator before its first event. -/
def Correlator.new : Correlator := ⟨fun _ => none, fun _ => none, fun _ => none, []⟩

/-- What the operating system answers while one event is handled. -/
structure CallEnv where
  now : Nat
  wallSecs : UInt64
  creationTime : UInt32 → Option UInt64
  imagePath : UInt32 → Str
  imageSha256 : Str → Option Str
  /-- The journal mapping that carries the name of a PID, when its header has version 1. -/
  namedMapping : UInt32 → Option Nat
  /-- The content of the mappings. -/
  journalAt : Nat → Journal
  /-- The UUID of an alert that is created during the call. -/
  freshBatchId : Nat

/-- `Duration::from_secs`, in nanoseconds. -/
def secs (seconds : UInt64) : Nat :=
  seconds.toNat * 1000000000

/-- A correlator that enforces, with a 10 MHz counter and no offset. -/
def sampleSetup : CorrelatorSetup := ⟨.default, 10000000, 0, ascii "AGENT", []⟩

/-- What the system answers about process 7, created at 1. -/
def sampleEnv : CallEnv where
  now := 0
  wallSecs := 0
  creationTime := fun _ => some 1
  imagePath := fun _ => []
  imageSha256 := fun _ => none
  namedMapping := fun _ => some 0
  journalAt := fun _ => Journal.new
  freshBatchId := 0

/-! ## Time and severity -/

/-- `etw_to_qpc`: the product is formed in 128 bits and cut to 64, division
rounds toward zero, the sum wraps. -/
def etwToQpc (setup : CorrelatorSetup) (etwTimestamp : UInt64) : UInt64 :=
  let inQpc := Int64.ofInt ((etwTimestamp.toNat * setup.qpcFreq.toInt).tdiv 10000000)
  (inQpc + setup.qpcDelta).toUInt64

/-- `tolerance_qpc`. -/
def toleranceQpc (setup : CorrelatorSetup) : UInt64 :=
  (setup.config.qpcToleranceMs.toInt64 * setup.qpcFreq / 1000).toUInt64

/-- `u64::abs_diff`. -/
def absDiff (left right : UInt64) : UInt64 :=
  if left ≤ right then right - left else left - right

/-- `is_protected_path`. -/
def isProtectedPath (setup : CorrelatorSetup) (filePath : Str) : Bool :=
  setup.protectedPaths.any fun protectedPath : Str =>
    Str.startsWith (Str.toAsciiUppercase filePath) (Str.toAsciiUppercase protectedPath)

/-- `severity_for_alert`. -/
def severityForAlert (setup : CorrelatorSetup) (reason : BypassReason) (filePath : Str) : Str :=
  match reason, isProtectedPath setup filePath, setup.config.reducedMode with
  | .noHookJournal, true, false => ascii "crit"
  | .noHookJournal, false, false => ascii "warn"
  | .opMismatch, _, false => ascii "warn"
  | .hookOverwritten, _, false => ascii "crit"
  | .patchRaced, _, false => ascii "info"
  | .edrDetected, _, false => ascii "warn"
  | .noHookJournal, _, true => ascii "warn"
  | .opMismatch, _, true => ascii "warn"
  | .hookOverwritten, _, true => ascii "warn"
  | .patchRaced, _, true => ascii "info"
  | .edrDetected, _, true => ascii "warn"

/-! ## Alerts -/

/-- `PendingAlert::new`. -/
def PendingAlert.new (alert : BypassAlert) (freshBatchId : Nat) : PendingAlert :=
  ⟨alert, 0, freshBatchId⟩

/-- Push a new alert to the batch. -/
def Correlator.push (correlator : Correlator) (alert : BypassAlert) (freshBatchId : Nat) :
    Correlator :=
  { correlator with
    alertBatch := correlator.alertBatch ++ [PendingAlert.new alert freshBatchId] }

/-- The operation name in an alert. -/
def operationName : FileOp → Str
  | .create => ascii "Create"
  | .write => ascii "Write"
  | .delete => ascii "Delete"
  | .setInfo => ascii "SetInfo"

/-- The correlation reason in an alert. -/
def correlationReason (setup : CorrelatorSetup) (reason : BypassReason) (fileName : Str) : Str :=
  match reason with
  | .noHookJournal =>
      if isProtectedPath setup fileName then ascii "NoHookJournal on protected path"
      else ascii "NoHookJournal on non-protected path"
  | .opMismatch => ascii "Operation mismatch between ETW and journal"
  | _ => ascii "ETW correlation"

/-- The alert that `emit_alert` builds. -/
def etwAlert (setup : CorrelatorSetup) (env : CallEnv) (event : EtwFileEvent)
    (reason : BypassReason) : BypassAlert where
  reason := reason
  stubName := ascii "etw_correlation"
  pid := event.pid
  timestampSecs := env.wallSecs
  version := 2
  agentId := setup.agentId
  imagePath := env.imagePath event.pid
  imageSha256 :=
    if env.imagePath event.pid = [] then none else env.imageSha256 (env.imagePath event.pid)
  filePath := event.fileName
  operation := operationName event.op
  fileObject := event.fileObject
  qpcTimestamp := etwToQpc setup event.timestamp
  severity := severityForAlert setup reason event.fileName
  correlationReason := correlationReason setup reason event.fileName

/-- `emit_alert`. -/
def emitAlert (setup : CorrelatorSetup) (env : CallEnv) (event : EtwFileEvent)
    (reason : BypassReason) (correlator : Correlator) : Correlator :=
  if setup.config.enforcementMode = .audit then correlator
  else correlator.push (etwAlert setup env event reason) env.freshBatchId

/-- The `Debug` text of a reason. -/
def reasonName : BypassReason → Str
  | .hookOverwritten => ascii "HookOverwritten"
  | .patchRaced => ascii "PatchRaced"
  | .edrDetected => ascii "EdrDetected"
  | .noHookJournal => ascii "NoHookJournal"
  | .opMismatch => ascii "OpMismatch"

/-- The alert of the hook DLL with the fields the agent fills in. -/
def hookAlert (setup : CorrelatorSetup) (env : CallEnv) (alert : BypassAlert) : BypassAlert :=
  { alert with
    agentId := setup.agentId
    severity := severityForAlert setup alert.reason alert.filePath
    correlationReason := ascii "Hook self-reported: " ++ reasonName alert.reason
    imagePath := env.imagePath alert.pid }

/-- `submit_bypass_alert`. -/
def submitBypassAlert (setup : CorrelatorSetup) (env : CallEnv) (alert : BypassAlert)
    (correlator : Correlator) : Correlator :=
  if setup.config.enforcementMode = .audit then correlator
  else correlator.push (hookAlert setup env alert) env.freshBatchId

/-! ## Processes -/

/-- `EMERGENCY_ALLOWLIST`. -/
def emergencyAllowlist : List Str :=
  [ascii "System", ascii "Registry", ascii "smss.exe", ascii "csrss.exe", ascii "lsass.exe"]

/-- The two separators of a Windows path. -/
def isSeparator (byte : UInt8) : Bool :=
  byte == Str.backslash || byte == Str.slash

/-- What follows the next component of a path and its separator. -/
def afterComponent (separates : UInt8 → Bool) (path : Str) : Str :=
  (path.dropWhile fun byte => !separates byte).drop 1

/-- The path without its Windows prefix (drive, share, device or verbatim), and
whether the prefix is a verbatim one. -/
def splitPathPrefix (path : Str) : Str × Bool :=
  let onlyBackslash := fun byte => byte == Str.backslash
  if Str.startsWith path (ascii "\\\\?\\UNC\\") then
    (afterComponent onlyBackslash (afterComponent onlyBackslash (path.drop 8)), true)
  else if Str.startsWith path (ascii "\\\\?\\") then
    (afterComponent onlyBackslash (path.drop 4), true)
  else
    let leading := path.takeWhile isSeparator
    if 2 ≤ leading.length then
      let rest := path.drop 2
      let share := afterComponent isSeparator rest
      if rest.head? = some 46 ∧ (rest.drop 1).head?.any isSeparator then
        (afterComponent isSeparator (rest.drop 2), false)
      else if (rest.takeWhile fun byte => !isSeparator byte) = [] ∨
          (share.takeWhile fun byte => !isSeparator byte) = [] then (path, false)
      else (afterComponent isSeparator share, false)
    else
      match path with
      | letter :: 58 :: rest =>
          if Str.isAsciiUppercase (Str.upperByte letter) then (rest, false) else (path, false)
      | _ => (path, false)

/-- `Path::new(..).file_name()`: the last component when it is a name.  Trailing
separators and, but for verbatim paths, `.` components are skipped. -/
def fileNameOf (path : Str) : Option Str :=
  let (rest, verbatim) := splitPathPrefix path
  let separates := if verbatim then fun byte => byte == Str.backslash else isSeparator
  let parts := (rest.splitOnP separates).reverse.dropWhile fun part =>
    part == [] || (!verbatim && part == ascii ".")
  match parts with
  | [] => none
  | last :: _ => if last = ascii ".." ∨ last = ascii "." then none else some last

/-- Whether an image path names one of the emergency processes. -/
def isEmergencyImage (imagePath : Str) : Bool :=
  match fileNameOf imagePath with
  | none => false
  | some name =>
      emergencyAllowlist.any fun allowed : Str =>
        Str.toAsciiUppercase name == Str.toAsciiUppercase allowed

/-- `is_allowlisted`. -/
def Correlator.isAllowlisted (setup : CorrelatorSetup) (now : Nat) (pid : UInt32)
    (imagePath : Str) (correlator : Correlator) : Bool × Correlator :=
  match correlator.allowlistedPids pid with
  | some added =>
      if now - added < secs setup.config.pidTtlSecs then (true, correlator)
      else if isEmergencyImage imagePath then
        (true,
          { correlator with
            allowlistedPids := Function.update correlator.allowlistedPids pid (some now) })
      else
        (false,
          { correlator with
            allowlistedPids := Function.update correlator.allowlistedPids pid none })
  | none =>
      if isEmergencyImage imagePath then
        (true,
          { correlator with
            allowlistedPids := Function.update correlator.allowlistedPids pid (some now) })
      else (false, correlator)

/-- `remove_pid`. -/
def Correlator.removePid (correlator : Correlator) (pid : UInt32) : Correlator :=
  { correlator with
    journals := Function.update correlator.journals pid none
    pendingJournals := Function.update correlator.pendingJournals pid none }

/-- `handle_process_event`. -/
def handleProcessEvent (setup : CorrelatorSetup) (now : Nat) (event : ProcessEvent)
    (correlator : Correlator) : Correlator :=
  match event.source with
  | .periodicSweep => correlator
  | _ =>
      let discovering :=
        if (correlator.pendingJournals event.pid).isSome then correlator
        else
          { correlator with
            pendingJournals :=
              Function.update correlator.pendingJournals event.pid (some (now, 0)) }
      (discovering.isAllowlisted setup now event.pid event.imagePath).2

/-! ## ETW events -/

/-- The search of `handle_etw_event` through the new entries: whether a match
was found, and whether an entry with another operation was met before. -/
def searchEntries (pathHash eventQpc tolerance : UInt64) (expectedOp : UInt8) :
    List JournalEntry → Bool → Bool × Bool
  | [], opMismatch => (false, opMismatch)
  | entry :: rest, opMismatch =>
      if absDiff entry.tsQpc eventQpc ≤ tolerance ∧ entry.pathHash = pathHash then
        if entry.op = expectedOp then (true, opMismatch)
        else searchEntries pathHash eventQpc tolerance expectedOp rest true
      else searchEntries pathHash eventQpc tolerance expectedOp rest opMismatch

/-- The path hash the correlator computes for an event. -/
def eventPathHash (event : EtwFileEvent) : Option UInt64 :=
  (normalizePath event.fileName).map fnv1a64

/-- `handle_etw_event` from the normalisation on, with the journal open. -/
def correlate (setup : CorrelatorSetup) (env : CallEnv) (event : EtwFileEvent)
    (reader : JournalReader) (correlator : Correlator) : Correlator :=
  match eventPathHash event with
  | none => correlator
  | some pathHash =>
      let (entries, lastReadIndex) :=
        readEntries (env.journalAt reader.mapping) reader.lastReadIndex
      let consumed :=
        { correlator with
          journals := Function.update correlator.journals event.pid
            (some { reader with lastReadIndex := lastReadIndex }) }
      let (matchFound, opMismatch) := searchEntries pathHash (etwToQpc setup event.timestamp)
        (toleranceQpc setup) (fileOpToU8 event.op) entries false
      if matchFound then consumed
      else if opMismatch then emitAlert setup env event .opMismatch consumed
      else emitAlert setup env event .noHookJournal consumed

/-- `MAX_BACKOFF_SECS`. -/
def maxBackoffSecs : Nat := 30

/-- `backoff_secs`, in nanoseconds. -/
def backoff (retryCount : UInt32) : Nat :=
  min (min (2 ^ retryCount.toNat) (2 ^ 64 - 1)) maxBackoffSecs * 1000000000

/-- `u32::saturating_add(1)`. -/
def saturatingSucc (count : UInt32) : UInt32 :=
  if count = 4294967295 then count else count + 1

/-- The result of looking for the journal of a process. -/
inductive Discovery
  | opened (reader : JournalReader) (correlator : Correlator)
  | returned (correlator : Correlator)

/-- The correlator after the discovery. -/
def Discovery.correlator : Discovery → Correlator
  | .opened _ correlator => correlator
  | .returned correlator => correlator

/-- The on-demand journal discovery of `handle_etw_event`. -/
def discoverJournal (setup : CorrelatorSetup) (env : CallEnv) (event : EtwFileEvent)
    (correlator : Correlator) : Discovery :=
  match correlator.journals event.pid with
  | some reader => .opened reader correlator
  | none =>
      let pending := correlator.pendingJournals event.pid
      if pending.any fun waiting => env.now - waiting.1 < backoff waiting.2 then
        .returned correlator
      else
        let creationTime := (env.creationTime event.pid).getD 0
        if creationTime = 0 then
          .returned
            { correlator with
              pendingJournals :=
                Function.update correlator.pendingJournals event.pid (some (env.now, 0)) }
        else
          match env.namedMapping event.pid with
          | some mapping =>
              let reader : JournalReader := ⟨mapping, 0, creationTime⟩
              .opened reader
                { correlator with
                  pendingJournals := Function.update correlator.pendingJournals event.pid none
                  journals := Function.update correlator.journals event.pid (some reader) }
          | none =>
              let newRetry := (pending.map fun waiting => saturatingSucc waiting.2).getD 1
              .returned
                (emitAlert setup env event .noHookJournal
                  { correlator with
                    pendingJournals :=
                      Function.update correlator.pendingJournals event.pid
                        (some (env.now, newRetry)) })

/-- The event reaches the allowlist check of `handle_etw_event` and is skipped
there. -/
def SkippedAsAllowlisted (setup : CorrelatorSetup) (event : EtwFileEvent)
    (correlator : Correlator) : Prop :=
  setup.config.enforcementMode ≠ .audit ∧ event.ntPathConverted = true ∧
    (correlator.allowlistedPids event.pid).isSome = true

instance (setup : CorrelatorSetup) (event : EtwFileEvent) (correlator : Correlator) :
    Decidable (SkippedAsAllowlisted setup event correlator) :=
  inferInstanceAs (Decidable (_ ∧ _ ∧ _))

/-- Whether the journal that is open belongs to an earlier process of the PID. -/
def pidWasReused (env : CallEnv) (event : EtwFileEvent) (reader : JournalReader) : Bool :=
  let expectedCreation := (env.creationTime event.pid).getD 0
  expectedCreation != 0 && reader.creationTime != expectedCreation

/-- `handle_etw_event`.  `none` is a call that never returns: on PID reuse the
source removes the journal from its map while it still holds a guard on it. -/
def handleEtwEvent (setup : CorrelatorSetup) (env : CallEnv) (event : EtwFileEvent)
    (correlator : Correlator) : Option Correlator :=
  if setup.config.enforcementMode = .audit then some correlator
  else if event.ntPathConverted = false then some correlator
  else if (correlator.allowlistedPids event.pid).isSome then some correlator
  else
    match discoverJournal setup env event correlator with
    | .returned next => some next
    | .opened reader next =>
        if pidWasReused env event reader then none
        else some (correlate setup env event reader next)

/-! ## Flushing the batch -/

/-- The first critical section of `flush_batch`: the alerts taken, none when the
batch is empty. -/
def takeBatch (correlator : Correlator) : List PendingAlert × Correlator :=
  (correlator.alertBatch, { correlator with alertBatch := [] })

/-- One alert in the loop of `requeue_with_retry`; `none` is dropped. -/
def retried (maxAlertRetry : UInt32) (freshBatchId : Nat) (pending : PendingAlert) :
    Option PendingAlert :=
  if pending.retryCount + 1 > maxAlertRetry then none
  else some { pending with retryCount := pending.retryCount + 1, batchId := freshBatchId }

/-- The loop of `requeue_with_retry` from position `index` on. -/
def retryAll (maxAlertRetry : UInt32) (freshBatchIds : Nat → Nat) :
    Nat → List PendingAlert → List PendingAlert
  | _, [] => []
  | index, pending :: rest =>
      (retried maxAlertRetry (freshBatchIds index) pending).toList ++
        retryAll maxAlertRetry freshBatchIds (index + 1) rest

/-- `requeue_with_retry`. -/
def requeueWithRetry (setup : CorrelatorSetup) (freshBatchIds : Nat → Nat)
    (alerts : List PendingAlert) (correlator : Correlator) : Correlator :=
  { correlator with
    alertBatch := correlator.alertBatch ++
      retryAll setup.config.maxAlertRetry freshBatchIds 0 alerts }

/-! ## Specification lemmas -/

/-- What `handle_etw_event` looks for in an entry. -/
def EntryMatches (setup : CorrelatorSetup) (event : EtwFileEvent) (entry : JournalEntry) : Prop :=
  eventPathHash event = some entry.pathHash ∧ entry.op = fileOpToU8 event.op ∧
    absDiff entry.tsQpc (etwToQpc setup event.timestamp) ≤ toleranceQpc setup

/-- The search succeeds exactly on lists with a matching entry. -/
theorem searchEntries_fst (pathHash eventQpc tolerance : UInt64) (expectedOp : UInt8)
    (entries : List JournalEntry) (opMismatch : Bool) :
    (searchEntries pathHash eventQpc tolerance expectedOp entries opMismatch).1 = true ↔
      ∃ entry ∈ entries, entry.pathHash = pathHash ∧ entry.op = expectedOp ∧
        absDiff entry.tsQpc eventQpc ≤ tolerance := by
  induction entries generalizing opMismatch with
  | nil => simp [searchEntries]
  | cons entry rest ih =>
      unfold searchEntries
      split
      · rename_i near
        split
        · rename_i sameOp
          simp [near.1, near.2, sameOp]
        · rename_i otherOp
          simp [ih, otherOp]
      · rename_i far
        rw [ih]
        constructor
        · rintro ⟨found, member, matched⟩
          exact ⟨found, List.mem_cons_of_mem entry member, matched⟩
        · rintro ⟨found, member, hash, op, time⟩
          rcases List.mem_cons.mp member with rfl | later
          · exact absurd ⟨time, hash⟩ far
          · exact ⟨found, later, hash, op, time⟩

/-- Nothing an alert does reaches the maps. -/
@[simp]
theorem emitAlert_journals (setup : CorrelatorSetup) (env : CallEnv) (event : EtwFileEvent)
    (reason : BypassReason) (correlator : Correlator) :
    (emitAlert setup env event reason correlator).journals = correlator.journals := by
  unfold emitAlert
  split <;> rfl

@[simp]
theorem emitAlert_allowlistedPids (setup : CorrelatorSetup) (env : CallEnv)
    (event : EtwFileEvent) (reason : BypassReason) (correlator : Correlator) :
    (emitAlert setup env event reason correlator).allowlistedPids =
      correlator.allowlistedPids := by
  unfold emitAlert
  split <;> rfl

theorem correlate_allowlistedPids (setup : CorrelatorSetup) (env : CallEnv)
    (event : EtwFileEvent) (reader : JournalReader) (correlator : Correlator) :
    (correlate setup env event reader correlator).allowlistedPids =
      correlator.allowlistedPids := by
  unfold correlate
  cases eventPathHash event with
  | none => rfl
  | some pathHash =>
      dsimp only
      split
      · rfl
      · split
        · exact emitAlert_allowlistedPids _ _ _ _ _
        · exact emitAlert_allowlistedPids _ _ _ _ _

theorem discoverJournal_allowlistedPids (setup : CorrelatorSetup) (env : CallEnv)
    (event : EtwFileEvent) (correlator : Correlator) :
    (discoverJournal setup env event correlator).correlator.allowlistedPids =
      correlator.allowlistedPids := by
  unfold discoverJournal
  cases correlator.journals event.pid with
  | some reader => rfl
  | none =>
      dsimp only
      split
      · rfl
      · split
        · rfl
        · cases env.namedMapping event.pid with
          | some mapping => rfl
          | none => exact emitAlert_allowlistedPids _ _ _ _ _

/-- An ETW event leaves the allowlist alone. -/
theorem handleEtwEvent_allowlistedPids {setup : CorrelatorSetup} {env : CallEnv}
    {event : EtwFileEvent} {correlator next : Correlator}
    (handled : handleEtwEvent setup env event correlator = some next) :
    next.allowlistedPids = correlator.allowlistedPids := by
  have discovered := discoverJournal_allowlistedPids setup env event correlator
  unfold handleEtwEvent at handled
  split at handled
  · rw [← Option.some.inj handled]
  · split at handled
    · rw [← Option.some.inj handled]
    · split at handled
      · rw [← Option.some.inj handled]
      · cases found : discoverJournal setup env event correlator with
        | returned after =>
            rw [found] at handled discovered
            rw [← Option.some.inj handled]
            exact discovered
        | opened reader after =>
            rw [found] at handled discovered
            dsimp only at handled
            split at handled
            · exact absurd handled (by simp)
            · rw [← Option.some.inj handled, correlate_allowlistedPids]
              exact discovered

/-- Outside of Audit mode an alert is one more entry of the batch. -/
theorem emitAlert_alertBatch_ne {setup : CorrelatorSetup}
    (enforcing : setup.config.enforcementMode ≠ .audit) (env : CallEnv) (event : EtwFileEvent)
    (reason : BypassReason) (correlator : Correlator) :
    (emitAlert setup env event reason correlator).alertBatch ≠ correlator.alertBatch := by
  unfold emitAlert
  rw [if_neg enforcing]
  intro unchanged
  have lengths := congrArg List.length unchanged
  simp [Correlator.push] at lengths

end DlpSystem.Agent
