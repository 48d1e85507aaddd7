import DlpSystem.Hook.FailMode
import DlpSystem.Hook.FastPath

/-!
# The decision of a trampoline

`classify_and_log_path` and `classify_and_log_handle`: shutdown, allowlist,
cached classification, the arm of the current fail-mode state, the pipe round
trip, and the journal record.  The agent behind the pipe is a function from the
request to its answer, `none` when the round trip fails.

Log lines, telemetry, the diagnostic ring and the one-way override prompt are
left out: nothing here reads them back.
-/

namespace DlpSystem.Hook

open Common

/-- `Decision`. -/
inductive Decision
  | allow
  | deny
  | allowWithLog
  | denyWithAlert
  deriving DecidableEq, Repr

/-- `Decision::is_denied`. -/
def Decision.isDenied : Decision → Bool
  | .deny => true
  | .denyWithAlert => true
  | _ => false

/-- What a trampoline reads of a `HookResponse`. -/
structure HookResponse where
  decision : Decision
  approvalOverride : Option Bool
  deriving DecidableEq, Repr

/-- `VolumeClass`. -/
inductive VolumeClass
  | localNtfs
  | usbRemovable
  | sdCard
  | optical
  | virtual
  | networkShare
  deriving DecidableEq, Repr

/-- The two requests a trampoline sends through the pipe. -/
structure PipeClient where
  classifyPath : Str → Str → Option VolumeClass → Option VolumeClass → Option HookResponse
  classifyHandle : UInt64 → Str → Option HookResponse

/-- What a call finds around it. -/
structure HookEnv where
  target : Target
  shuttingDown : Bool
  cache : Option Mapping
  nowSecs : UInt64
  resolveVolumeClass : Str → Option VolumeClass
  pipe : PipeClient

/-- The arguments of `classify_and_log_path`. -/
structure PathCall where
  path : Str
  action : Str
  handleValue : UInt64
  journalOp : UInt8
  sourceVolumeClass : Option VolumeClass
  destinationVolumeClass : Option VolumeClass

/-- The arguments of `classify_and_log_handle`. -/
structure HandleCall where
  handleValue : UInt64
  action : Str
  journalOp : UInt8
  path : Str

/-- The arguments of `journal_write_from_trampoline`. -/
structure JournalRequest where
  handleValue : UInt64
  op : UInt8
  path : Str
  deriving DecidableEq

/-- The actions that count as writes, in capitals. -/
def writeActions : List Str :=
  [ascii "CREATE", ascii "WRITE", ascii "MOVE", ascii "COPY", ascii "DELETE", ascii "REPLACE",
    ascii "SET_INFO", ascii "NT_WRITE", ascii "NT_SET_INFO"]

/-- `is_write_action`: all capitals or all small letters, nothing in between. -/
def isWriteAction (action : Str) : Bool :=
  writeActions.contains action ||
    (writeActions.map fun name : Str => name.map Str.lowerByte).contains action

/-- The operation kind of an action. -/
def opOf (action : Str) : HookOp :=
  if isWriteAction action then .write else .read

/-- `should_skip_autonomous_deny`. -/
def shouldSkipAutonomousDeny (globalModeByte : UInt8) : Bool :=
  globalModeByte == 1

/-- Whether a global Audit override is in force. -/
def auditOverride (cache : Option Mapping) : Bool :=
  match cache with
  | some mapping => shouldSkipAutonomousDeny (globalMode.run mapping).1
  | none => false

/-! ## One decision -/

/-- A decision with the fail-mode state it leaves behind and the outcomes of the
pipe round trips it made. -/
structure Verdict where
  decision : Option DenyReturn
  mode : FailModeState
  roundTrips : List Bool

/-- How an answer is read. -/
def decisionOfAnswer (response : HookResponse) : Option DenyReturn :=
  if response.decision = .allow ∨ response.decision = .allowWithLog then none
  else if response.decision.isDenied ∧ response.approvalOverride = some true then none
  else some .boolFalse

/-- One pipe round trip, its bookkeeping and its result. -/
def attemptPipe (mode : FailModeState) (answer : Option HookResponse) (cacheVersion : UInt64)
    (onError : Option DenyReturn) : Verdict :=
  match answer with
  | some response =>
      ⟨decisionOfAnswer response, mode.recordPipeSuccess cacheVersion, [true]⟩
  | none => ⟨onError, mode.recordPipeFailure, [false]⟩

/-- The Healthy arm of `classify_and_log_path`, and its copy at the end of the
Resync arm. -/
def healthyArm (mode : FailModeState) (cached : Option Classification) (skip : Bool)
    (op : HookOp) (cacheVersion : UInt64) (answer : Option HookResponse) : Verdict :=
  match cached, skip with
  | some classification, false => ⟨decideCached classification op, mode, []⟩
  | _, _ => attemptPipe mode answer cacheVersion (some .boolFalse)

/-- The Degraded arm: a hit under a global Audit override forces the pipe, a
miss waits for the retry throttle. -/
def degradedArm (mode : FailModeState) (cached : Option Classification) (skip : Bool)
    (op : HookOp) (cacheVersion : UInt64) (answer : Option HookResponse) : Verdict :=
  match cached, skip with
  | some classification, false => ⟨decideCached classification op, mode, []⟩
  | some classification, true =>
      attemptPipe mode answer cacheVersion (decideDegraded (some classification) op)
  | none, _ =>
      let (retry, throttled) := mode.shouldRetryPipe
      if retry then attemptPipe throttled answer cacheVersion (decideDegraded none op)
      else ⟨decideDegraded none op, throttled, []⟩

/-- The four arms of `classify_and_log_path`. -/
def pathVerdict (mode : FailModeState) (cached : Option Classification) (skip : Bool)
    (op : HookOp) (cacheVersion : UInt64) (answer : Option HookResponse) : Verdict :=
  match mode.state with
  | .healthy => healthyArm mode cached skip op cacheVersion answer
  | .degraded => degradedArm mode cached skip op cacheVersion answer
  | .isolated => ⟨decideIsolated cached op, mode, []⟩
  | .resync =>
      healthyArm (mode.resetCounters.setState .healthy) cached skip op cacheVersion answer

/-- The four arms of `classify_and_log_handle`. -/
def handleVerdict (mode : FailModeState) (op : HookOp) (answer : Option HookResponse) : Verdict :=
  match mode.state with
  | .healthy => attemptPipe mode answer 0 (some .boolFalse)
  | .degraded =>
      let (retry, throttled) := mode.shouldRetryPipe
      if retry then attemptPipe throttled answer 0 (some .boolFalse)
      else ⟨decideDegraded none op, throttled, []⟩
  | .isolated => ⟨decideIsolated none op, mode, []⟩
  | .resync =>
      attemptPipe (mode.resetCounters.setState .healthy) answer 0 (some .boolFalse)

/-! ## Calls -/

/-- What a call returns and leaves behind. -/
structure CallResult where
  decision : Option DenyReturn
  mode : FailModeState
  locals : ThreadLocals
  roundTrips : List Bool
  journaled : Option JournalRequest

/-- A call that returns before any classification. -/
def passThrough (mode : FailModeState) (locals : ThreadLocals)
    (journaled : Option JournalRequest) : CallResult :=
  ⟨none, mode, locals, [], journaled⟩

/-- The LRU is flushed when a call meets the Resync state. -/
def flushIfResync (mode : FailModeState) (locals : ThreadLocals) : ThreadLocals :=
  if mode.state = .resync then { locals with lru := LruCache.new } else locals

/-- `cache_version`: the version of the mapping, 0 without one. -/
def cacheVersionOf (cache : Option Mapping) : UInt64 :=
  match cache with
  | some mapping => mapping.versionWord >>> 1
  | none => 0

/-- The answer the agent gives to the request of a path call. -/
def PathCall.answer (call : PathCall) (env : HookEnv) : Option HookResponse :=
  env.pipe.classifyPath call.path call.action
    (call.sourceVolumeClass.or (env.resolveVolumeClass call.path)) call.destinationVolumeClass

/-- `classify_and_log_path`. -/
def classifyAndLogPath (env : HookEnv) (mode : FailModeState) (locals : ThreadLocals)
    (call : PathCall) : CallResult :=
  if env.shuttingDown then passThrough mode locals none
  else
    let journaled : JournalRequest := ⟨call.handleValue, call.journalOp, call.path⟩
    if isAllowlisted env.target call.path env.cache then passThrough mode locals (some journaled)
    else
      let op := opOf call.action
      let (cached, warmed) :=
        cachedClassification env.target env.cache locals call.path op env.nowSecs
      let verdict := pathVerdict mode cached (auditOverride env.cache) op
        (cacheVersionOf env.cache) (call.answer env)
      ⟨verdict.decision, verdict.mode, flushIfResync mode warmed, verdict.roundTrips,
        some journaled⟩

/-- `classify_and_log_handle`.  The path is looked at only when there is one, and
an allowlisted path returns without a journal record. -/
def classifyAndLogHandle (env : HookEnv) (mode : FailModeState) (locals : ThreadLocals)
    (call : HandleCall) : CallResult :=
  if env.shuttingDown then passThrough mode locals none
  else if call.path ≠ [] ∧ isAllowlisted env.target call.path env.cache then
    passThrough mode locals none
  else
    let verdict := handleVerdict mode (opOf call.action)
      (env.pipe.classifyHandle call.handleValue call.action)
    ⟨verdict.decision, verdict.mode, flushIfResync mode locals, verdict.roundTrips,
      some ⟨call.handleValue, call.journalOp, call.path⟩⟩

/-- The classification a path call takes from the LRU or the shared cache. -/
def PathCall.cached (call : PathCall) (env : HookEnv) (locals : ThreadLocals) :
    Option Classification :=
  (cachedClassification env.target env.cache locals call.path (opOf call.action) env.nowSecs).1

/-- A path call that is classified at all. -/
def PathCall.IsClassified (call : PathCall) (env : HookEnv) : Prop :=
  env.shuttingDown = false ∧ isAllowlisted env.target call.path env.cache = false

/-- A handle call that is classified at all. -/
def HandleCall.IsClassified (call : HandleCall) (env : HookEnv) : Prop :=
  env.shuttingDown = false ∧
    (call.path ≠ [] → isAllowlisted env.target call.path env.cache = false)

instance (call : PathCall) (env : HookEnv) : Decidable (call.IsClassified env) :=
  inferInstanceAs (Decidable (_ ∧ _))

instance (call : HandleCall) (env : HookEnv) : Decidable (call.IsClassified env) :=
  inferInstanceAs (Decidable (_ ∧ (_ → _)))

/-- The verdict of a classified path call. -/
def PathCall.verdict (call : PathCall) (env : HookEnv) (mode : FailModeState)
    (locals : ThreadLocals) : Verdict :=
  pathVerdict mode (call.cached env locals) (auditOverride env.cache) (opOf call.action)
    (cacheVersionOf env.cache) (call.answer env)

/-- The verdict of a classified handle call. -/
def HandleCall.verdict (call : HandleCall) (env : HookEnv) (mode : FailModeState) : Verdict :=
  handleVerdict mode (opOf call.action) (env.pipe.classifyHandle call.handleValue call.action)

section Spec

variable {env : HookEnv} (mode : FailModeState) (locals : ThreadLocals)

theorem classifyAndLogPath_of_classified {call : PathCall} (classified : call.IsClassified env) :
    (classifyAndLogPath env mode locals call).decision = (call.verdict env mode locals).decision ∧
      (classifyAndLogPath env mode locals call).mode = (call.verdict env mode locals).mode ∧
      (classifyAndLogPath env mode locals call).roundTrips =
        (call.verdict env mode locals).roundTrips := by
  unfold classifyAndLogPath
  rw [if_neg (by rw [classified.1]; decide), if_neg (by rw [classified.2]; decide)]
  exact ⟨rfl, rfl, rfl⟩

theorem classifyAndLogPath_of_not_classified {call : PathCall}
    (passed : ¬ call.IsClassified env) :
    (classifyAndLogPath env mode locals call).mode = mode ∧
      (classifyAndLogPath env mode locals call).roundTrips = [] := by
  unfold classifyAndLogPath
  cases shutting : env.shuttingDown with
  | true => exact ⟨rfl, rfl⟩
  | false =>
      cases allowed : isAllowlisted env.target call.path env.cache with
      | true => exact ⟨rfl, rfl⟩
      | false => exact absurd ⟨shutting, allowed⟩ passed

/-- A path call journals its path as it came. -/
theorem classifyAndLogPath_journaled {call : PathCall} {request : JournalRequest}
    (journaled : (classifyAndLogPath env mode locals call).journaled = some request) :
    request = ⟨call.handleValue, call.journalOp, call.path⟩ := by
  unfold classifyAndLogPath at journaled
  split at journaled
  · exact absurd journaled (by simp [passThrough])
  · split at journaled
    · exact (Option.some.inj journaled).symm
    · exact (Option.some.inj journaled).symm

theorem classifyAndLogHandle_of_classified {call : HandleCall}
    (classified : call.IsClassified env) :
    (classifyAndLogHandle env mode locals call).decision = (call.verdict env mode).decision ∧
      (classifyAndLogHandle env mode locals call).mode = (call.verdict env mode).mode ∧
      (classifyAndLogHandle env mode locals call).roundTrips =
        (call.verdict env mode).roundTrips := by
  have notAllowed : ¬ (call.path ≠ [] ∧ isAllowlisted env.target call.path env.cache = true) := by
    rintro ⟨nonempty, allowed⟩
    rw [classified.2 nonempty] at allowed
    exact Bool.false_ne_true allowed
  unfold classifyAndLogHandle
  rw [if_neg (by rw [classified.1]; decide), if_neg notAllowed]
  exact ⟨rfl, rfl, rfl⟩

theorem classifyAndLogHandle_of_not_classified {call : HandleCall}
    (passed : ¬ call.IsClassified env) :
    (classifyAndLogHandle env mode locals call).mode = mode ∧
      (classifyAndLogHandle env mode locals call).roundTrips = [] := by
  unfold classifyAndLogHandle
  cases shutting : env.shuttingDown with
  | true => exact ⟨rfl, rfl⟩
  | false =>
      have allowed : call.path ≠ [] ∧ isAllowlisted env.target call.path env.cache = true := by
        by_contra notAllowed
        apply passed
        refine ⟨shutting, fun nonempty => ?_⟩
        rw [Bool.eq_false_iff]
        exact fun covered => notAllowed ⟨nonempty, covered⟩
      rw [if_neg (by decide), if_pos allowed]
      exact ⟨rfl, rfl⟩

end Spec

/-! ## The hook journal

The per-process ring buffer that a trampoline writes one entry into before it
returns.  The mapping is its write counter and its entries; the entry count of
the 64 KiB mapping is 1170.
-/

/-- `ENTRY_CAPACITY`: what fits behind the 8-byte header, at 56 bytes an entry. -/
def entryCapacity : Nat := (64 * 1024 - 8) / 56

theorem entryCapacity_eq : entryCapacity = 1170 := by
  decide

/-- `JournalEntry`. -/
structure JournalEntry where
  seq : UInt64
  handleValue : UInt64
  op : UInt8
  pathHash : UInt64
  tsQpc : UInt64
  etwTimestamp : UInt64
  deriving DecidableEq, Repr

/-- The bytes of an entry that was never written. -/
def JournalEntry.zero : JournalEntry := ⟨0, 0, 0, 0, 0, 0⟩

/-- A mapped journal. -/
structure Journal where
  writeIndex : UInt32
  slots : Nat → JournalEntry

/-- A journal right after `try_init`. -/
def Journal.new : Journal := ⟨0, fun _ => JournalEntry.zero⟩

/-- `JournalView::write` puts an entry into the slot of the write counter and advances the
counter. -/
def Journal.append (journal : Journal) (entry : JournalEntry) : Journal where
  writeIndex := journal.writeIndex + 1
  slots := Function.update journal.slots (journal.writeIndex.toNat % entryCapacity) entry

/-- The entry `JournalView::write` stores: the path is hashed as it comes. -/
def journalEntryOf (seq : UInt64) (request : JournalRequest) (tsQpc etwTimestamp : UInt64) :
    JournalEntry where
  seq := seq
  handleValue := request.handleValue
  op := request.op
  pathHash := fnv1a64 request.path
  tsQpc := tsQpc
  etwTimestamp := etwTimestamp

end DlpSystem.Hook
