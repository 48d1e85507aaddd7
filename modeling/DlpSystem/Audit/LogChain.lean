import Mathlib.Data.List.TakeWhile
import DlpSystem.Audit.LocalLog

/-!
# The chain in the log files

A log is linear while every file holds whole lines and every process starts from
the hash of the last of them.  What a step must not do for that is said by
`Harmless`; what it then keeps by `LogInvariant`.
-/

namespace DlpSystem.Audit

open Lib

/-! ## Whole lines -/

/-- The bytes are one line for each of the events. -/
structure WholeLines (json : EventJson) (bytes : List UInt8) (events : List AuditEvent) : Prop where
  eq : bytes = unlines (events.map fun event => utf8 ((json.toJson event).getD ""))
  serialised : ∀ event ∈ events, ∃ text, json.toJson event = some text

section WholeLines

variable {json : EventJson} {bytes : List UInt8} {events : List AuditEvent}

theorem wholeLines_nil : WholeLines json [] [] :=
  ⟨rfl, by simp⟩

theorem WholeLines.append_line (whole : WholeLines json bytes events) {event : AuditEvent}
    {text : String} (printed : json.toJson event = some text) :
    WholeLines json (bytes ++ (utf8 text ++ [lineFeed])) (events ++ [event]) := by
  constructor
  · rw [whole.eq, List.map_append, unlines_append]
    simp [unlines, printed]
  · intro other member
    rcases List.mem_append.mp member with old | new
    · exact whole.serialised other old
    · cases List.mem_singleton.mp new
      exact ⟨text, printed⟩

theorem WholeLines.eq_nil (whole : WholeLines json [] events) : events = [] := by
  cases events with
  | nil => rfl
  | cons event rest => exact absurd whole.eq (by simp [unlines])

theorem not_mem_of_escaped {event : AuditEvent} {text : String}
    (printed : json.toJson event = some text) {byte : UInt8} (control : byte < 32) :
    byte ∉ utf8 text := by
  intro member
  exact absurd (json.escaped printed byte member) (UInt8.not_le.mpr control)

theorem WholeLines.splitLines_eq (whole : WholeLines json bytes events) :
    splitLines bytes = (events.map fun event => utf8 ((json.toJson event).getD ""), []) := by
  rw [whole.eq]
  apply splitLines_unlines
  intro line member
  rcases List.mem_map.mp member with ⟨event, inside, rfl⟩
  rcases whole.serialised event inside with ⟨text, printed⟩
  rw [printed, Option.getD_some]
  exact not_mem_of_escaped printed (by decide)

/-- A line is read as the text that was printed. -/
theorem textOf_line {event : AuditEvent} {text : String} (printed : json.toJson event = some text) :
    textOf (stripReturn (utf8 ((json.toJson event).getD ""))) = some text := by
  have unstripped : stripReturn (utf8 text) = utf8 text := by
    apply if_neg
    intro last
    exact not_mem_of_escaped printed (by decide) (List.mem_of_getLast? last)
  rw [printed, Option.getD_some, unstripped]
  exact fromUTF8?_utf8 text

theorem WholeLines.jsonLines_eq (whole : WholeLines json bytes events) :
    jsonLines json bytes = events := by
  rw [jsonLines, whole.splitLines_eq, List.filterMap_map]
  calc
    _ = events.filterMap some := by
        apply List.filterMap_congr
        intro event member
        rcases whole.serialised event member with ⟨text, printed⟩
        rw [Function.comp_apply, textOf_line printed, Option.bind_some,
          json.fromJson_toJson printed]
    _ = events := List.filterMap_some

/-- Recovery finds the hash of the last line. -/
theorem WholeLines.recover_eq (whole : WholeLines json bytes events) {front : List AuditEvent}
    {last : AuditEvent} {chainHash : String} (ends : events = front ++ [last])
    (own : last.chainHash = some chainHash) :
    recoverLastHashFromLog json bytes = some chainHash := by
  have lines : bufLines bytes = events.map fun event => some ((json.toJson event).getD "") := by
    rw [bufLines, whole.splitLines_eq, if_pos rfl, List.append_nil, List.map_map]
    apply List.map_congr_left
    intro event member
    rcases whole.serialised event member with ⟨text, printed⟩
    rw [Function.comp_apply, textOf_line printed, printed, Option.getD_some]
  have candidates : ((bufLines bytes).takeWhile Option.isSome).filterMap id =
      events.map fun event => (json.toJson event).getD "" := by
    rw [lines, List.takeWhile_eq_self_iff.mpr (by simp), List.filterMap_map]
    exact congrFun List.filterMap_eq_map events
  obtain ⟨text, printed⟩ := whole.serialised last (by simp [ends])
  rw [recoverLastHashFromLog, candidates, ends]
  simp [maxRecoveryLines, printed, json.fromJson_toJson printed, own]

end WholeLines

/-! ## The property and the condition -/

/-- The log files hold one chain, which was begun at the genesis hash. -/
structure LinearLog (hasher : ChainHasher) (json : EventJson) (state : LogState) : Prop where
  linked : (retainedEvents json state.disk).IsChain fun before after =>
    after.prevHash = before.chainHash
  rooted : ∀ first ∈ (jsonLines json state.written).head?,
    first.prevHash = some hasher.genesisHash

/-- No file is moved onto one that did not move away. -/
def MovesApart (fails : Nat → Bool) (files : Nat → Option (List UInt8)) : Prop :=
  ∀ slot, slot + 1 < maxRotatedFiles → files slot ≠ none → fails slot = false →
    files (slot + 1) ≠ none → fails (slot + 1) = false

/-- The whole line reaches the file. -/
def WriteOutcome.Whole (outcome : WriteOutcome) (line : List UInt8) : Prop :=
  line.length ≤ outcome.accepted ∧ line.length ≤ outcome.flushed

instance (outcome : WriteOutcome) (line : List UInt8) : Decidable (outcome.Whole line) :=
  inferInstanceAs (Decidable (_ ∧ _))

/-- The steps that keep a log linear: the current file is not empty at a restart
unless all files are; a line is written as a whole or not taken at all, or lost with
its process before a byte of it is in the file; and a rotation overwrites no file but
the oldest. -/
def Harmless (hasher : ChainHasher) (json : EventJson) (state : LogState) : LogEvent → Prop
  | .openLog => (state.disk.files 0).getD [] ≠ [] ∨
      ∀ slot < logFileCount, (state.disk.files slot).getD [] = []
  | .emit content outcome => ∀ emitter ∈ state.emitter,
      ∀ written ∈ stampedLine hasher json emitter.lastChainHash content,
        outcome.accepted = 0 ∨ outcome.Whole written.1
  | .endInEmit content outcome => ∀ emitter ∈ state.emitter,
      ∀ written ∈ stampedLine hasher json emitter.lastChainHash content,
        outcome.accepted = 0 ∨ outcome.flushed = 0 ∨ outcome.Whole written.1
  | .rotate _ faults => MovesApart faults.fails state.disk.files
  | .endProcess _ => True

/-! ## The invariant -/

/-- The files and the bytes written so far: whole lines, the retained ones chained
from `start`. -/
structure SoundFiles (hasher : ChainHasher) (json : EventJson) (disk : Disk (List UInt8))
    (written : List UInt8) (start : String) (everything : List AuditEvent) : Prop where
  whole : ∀ slot content, disk.files slot = some content → ∃ events, WholeLines json content events
  all : WholeLines json written everything
  retained : retainedEvents json disk <:+ everything
  rooted : ∀ first ∈ everything.head?, first.prevHash = some hasher.genesisHash
  unstarted : everything = [] → start = hasher.genesisHash
  chained : Chained hasher start (retainedEvents json disk)

/-- A running emitter has nothing buffered, continues the chain and appends behind all
that is retained. -/
structure Continues (json : EventJson) (disk : Disk (List UInt8)) (start : String)
    (emitter : AuditEmitter) : Prop where
  buffer : emitter.buffer = []
  head : emitter.lastChainHash = headAfter start (retainedEvents json disk)
  atTail : disk.AtTail logFileCount

/-- The invariant of a linear log. -/
def LogInvariant (hasher : ChainHasher) (json : EventJson) (state : LogState) : Prop :=
  ∃ start everything, SoundFiles hasher json state.disk state.written start everything ∧
    ∀ emitter ∈ state.emitter, Continues json state.disk start emitter

section Invariant

variable {hasher : ChainHasher} {json : EventJson} {state : LogState} {disk : Disk (List UInt8)}
  {written : List UInt8} {start : String} {everything : List AuditEvent}

/-- With an emitter the invariant speaks of that emitter. -/
theorem SoundFiles.logInvariant_running {emitter : AuditEmitter}
    (sound : SoundFiles hasher json disk written start everything)
    (continues : Continues json disk start emitter) :
    LogInvariant hasher json ⟨disk, written, some emitter⟩ := by
  use start, everything, sound
  intro other isOther
  cases isOther
  exact continues

/-- Without an emitter it speaks of the files only. -/
theorem SoundFiles.logInvariant_stopped
    (sound : SoundFiles hasher json disk written start everything) :
    LogInvariant hasher json ⟨disk, written, none⟩ := by
  use start, everything, sound
  intro other isOther
  cases isOther

theorem logInvariant_initial : LogInvariant hasher json LogState.initial := by
  have sound : SoundFiles hasher json LogState.initial.disk LogState.initial.written
      hasher.genesisHash [] :=
    { whole := by
        intro slot content found
        cases found
      all := wholeLines_nil
      retained := List.nil_suffix
      rooted := by
        intro first isFirst
        cases isFirst
      unstarted := fun _ => rfl
      chained := trivial }
  exact sound.logInvariant_stopped

theorem LogInvariant.linearLog (invariant : LogInvariant hasher json state) :
    LinearLog hasher json state := by
  rcases invariant with ⟨start, everything, sound, _⟩
  constructor
  · exact sound.chained.isChain
  · rw [sound.all.jsonLines_eq]
    exact sound.rooted

/-- The end of a process leaves the files. -/
theorem LogInvariant.stop (invariant : LogInvariant hasher json state) :
    LogInvariant hasher json state.stop := by
  rcases invariant with ⟨start, everything, sound, _⟩
  have closed : SoundFiles hasher json state.stop.disk state.written start everything :=
    ⟨sound.whole, sound.all, sound.retained, sound.rooted, sound.unstarted, sound.chained⟩
  exact closed.logInvariant_stopped

/-! ## Opening -/

@[simp]
theorem openAppend_files_zero (disk : Disk (List UInt8)) :
    (openAppend disk).files 0 = some ((disk.files 0).getD []) := by
  simp [openAppend]

theorem openAppend_files_of_ne {disk : Disk (List UInt8)} {slot : Nat} (rotated : slot ≠ 0) :
    (openAppend disk).files slot = disk.files slot :=
  Function.update_of_ne rotated ..

theorem retainedEvents_openAppend (disk : Disk (List UInt8)) :
    retainedEvents json (openAppend disk) = retainedEvents json disk := by
  have unchanged : jsonLines json ((disk.files 0).getD []) =
      (disk.files 0).elim [] (jsonLines json) ++ [] := by
    cases disk.files 0 <;> simp [jsonLines, splitLines]
  have collected : retainedEvents json (openAppend disk) = retainedEvents json disk ++ [] :=
    collect_update_lowest (by decide) (by simp) unchanged
  rw [collected, List.append_nil]

theorem atTail_openAppend (disk : Disk (List UInt8)) : (openAppend disk).AtTail logFileCount := by
  constructor
  · intro slot _ _
    exact ⟨0, rfl, Nat.zero_le slot⟩
  · intro slot isOpen
    cases isOpen
    exact ⟨by decide, by simp⟩

theorem SoundFiles.openAppend
    (sound : SoundFiles hasher json disk written start everything) :
    SoundFiles hasher json (openAppend disk) written start everything := by
  have whole : ∀ slot content, (Audit.openAppend disk).files slot = some content →
      ∃ events, WholeLines json content events := by
    intro slot content found
    by_cases current : slot = 0
    · subst current
      rw [openAppend_files_zero, Option.some.injEq] at found
      cases old : disk.files 0 with
      | none => exact ⟨[], by rw [← found, old]; exact wholeLines_nil⟩
      | some previous =>
          rw [old, Option.getD_some] at found
          exact found ▸ sound.whole 0 previous old
    · rw [openAppend_files_of_ne current] at found
      exact sound.whole slot content found
  have sameEvents : retainedEvents json (Audit.openAppend disk) = retainedEvents json disk :=
    retainedEvents_openAppend disk
  exact
    { whole
      all := sound.all
      retained := by rw [sameEvents]; exact sound.retained
      rooted := sound.rooted
      unstarted := sound.unstarted
      chained := by rw [sameEvents]; exact sound.chained }

/-- The last event of a chain carries its head. -/
theorem Chained.chainHash_last {front : List AuditEvent} {last : AuditEvent}
    (chained : Chained hasher start (front ++ [last])) :
    last.chainHash = some (headAfter start (front ++ [last])) := by
  rcases chained_append.mp chained with ⟨_, _, chainHash, _, own, _⟩
  rw [headAfter_append, headAfter_cons, own]
  rfl

/-- A start from a current file with lines recovers the head of the chain. -/
theorem SoundFiles.recover_of_filled {content : List UInt8}
    (sound : SoundFiles hasher json disk written start everything)
    (current : disk.files 0 = some content) (filled : content ≠ []) :
    recoverLastHashFromLog json content = some (headAfter start (retainedEvents json disk)) := by
  rcases sound.whole 0 content current with ⟨events, whole⟩
  obtain ⟨front, last, rfl⟩ : ∃ front last, events = front ++ [last] := by
    apply (List.eq_nil_or_concat' events).resolve_left
    rintro rfl
    exact filled whole.eq
  obtain ⟨older, split⟩ : front ++ [last] <:+ retainedEvents json disk := by
    have found := @suffix_collect _ _ (jsonLines json) disk.files logFileCount (by decide)
    rwa [current, Option.elim_some, whole.jsonLines_eq] at found
  have chained := sound.chained
  rw [← split, ← List.append_assoc] at chained
  rw [← split, ← List.append_assoc]
  exact whole.recover_eq rfl chained.chainHash_last

theorem retainedEvents_of_empty
    (empty : ∀ slot < logFileCount, (disk.files slot).getD [] = []) :
    retainedEvents json disk = [] := by
  apply collect_eq_nil
  intro slot below
  have noBytes := empty slot below
  cases found : disk.files slot with
  | none => rfl
  | some content =>
      rw [found, Option.getD_some] at noBytes
      rw [noBytes]
      rfl

/-- A start from a current file with lines, or from empty files. -/
theorem LogInvariant.openLog (invariant : LogInvariant hasher json state)
    (harmless : Harmless hasher json state .openLog) :
    LogInvariant hasher json (state.openLog hasher json) := by
  rcases invariant with ⟨start, everything, sound, _⟩
  have opened := sound.openAppend
  rcases harmless with filled | empty
  · cases current : state.disk.files 0 with
    | none => exact absurd (by rw [current]; rfl) filled
    | some content =>
        rw [current, Option.getD_some] at filled
        have isCurrent : (openAppend state.disk).files 0 = some content := by
          rw [openAppend_files_zero, current, Option.getD_some]
        apply opened.logInvariant_running
        constructor
        · rfl
        · dsimp only
          rw [isCurrent, Option.getD_some, opened.recover_of_filled isCurrent filled,
            Option.getD_some]
        · exact atTail_openAppend state.disk
  · have nothing : retainedEvents json (openAppend state.disk) = [] := by
      rw [retainedEvents_openAppend, retainedEvents_of_empty empty]
    have begun : SoundFiles hasher json (openAppend state.disk) state.written hasher.genesisHash
        everything :=
      { opened with
        unstarted := fun _ => rfl
        chained := by rw [nothing]; trivial }
    apply begun.logInvariant_running
    constructor
    · rfl
    · dsimp only
      rw [openAppend_files_zero, empty 0 (by decide), nothing]
      rfl
    · exact atTail_openAppend state.disk

/-! ## Emitting -/

theorem stampedLine_eq_some {head chainHash : String} {content : EventContent}
    {line : List UInt8} (stamped : stampedLine hasher json head content = some (line, chainHash)) :
    ∃ event text, hasher.stamp head content = some (event, chainHash) ∧
      json.toJson event = some text ∧ line = utf8 text ++ [lineFeed] := by
  simp only [stampedLine, Option.bind_eq_bind, Option.bind_eq_some_iff, Option.pure_def,
    Option.some.injEq, Prod.mk.injEq] at stamped
  rcases stamped with ⟨⟨event, next⟩, isStamp, text, printed, rfl, rfl⟩
  exact ⟨event, text, isStamp, printed, rfl⟩

section Append

variable {event : AuditEvent} {text : String}

/-- The first event ever follows the genesis hash. -/
theorem SoundFiles.rooted_append (sound : SoundFiles hasher json disk written start everything)
    (follows : event.prevHash = some (headAfter start (retainedEvents json disk))) :
    ∀ first ∈ (everything ++ [event]).head?, first.prevHash = some hasher.genesisHash := by
  cases everything with
  | cons first rest => exact sound.rooted
  | nil =>
      rintro first isFirst
      cases isFirst
      rw [follows, List.suffix_nil.mp sound.retained, headAfter_nil, sound.unstarted rfl]

/-- A line for a file that has been deleted: no other file is left before it. -/
theorem SoundFiles.append_unnamed (sound : SoundFiles hasher json disk written start everything)
    (atTail : disk.AtTail logFileCount) (unnamed : disk.handle = none)
    (printed : json.toJson event = some text)
    (follows : event.prevHash = some (headAfter start (retainedEvents json disk)))
    (next : String) :
    SoundFiles hasher json (disk.append (utf8 text ++ [lineFeed]))
      (written ++ (utf8 text ++ [lineFeed])) next (everything ++ [event]) := by
  rw [Disk.append_of_none unnamed]
  have nothing : retainedEvents json disk = [] := atTail.collect_eq_nil unnamed
  exact
    { whole := sound.whole
      all := sound.all.append_line printed
      retained := by rw [nothing]; exact List.nil_suffix
      rooted := sound.rooted_append follows
      unstarted := by simp
      chained := by rw [nothing]; trivial }

theorem SoundFiles.retainedEvents_append
    (sound : SoundFiles hasher json disk written start everything)
    (atTail : disk.AtTail logFileCount) {slot : Nat} (isOpen : disk.handle = some slot)
    (printed : json.toJson event = some text) :
    retainedEvents json (disk.append (utf8 text ++ [lineFeed])) =
      retainedEvents json disk ++ [event] := by
  rcases Option.ne_none_iff_exists'.mp (atTail.present slot isOpen).2 with ⟨content, present⟩
  rcases sound.whole slot content present with ⟨events, whole⟩
  apply atTail.collect_append isOpen present
  rw [(whole.append_line printed).jsonLines_eq, whole.jsonLines_eq]

/-- A line for the open file. -/
theorem SoundFiles.append_open (sound : SoundFiles hasher json disk written start everything)
    (atTail : disk.AtTail logFileCount) {slot : Nat} (isOpen : disk.handle = some slot)
    (printed : json.toJson event = some text)
    (follows : Chained hasher (headAfter start (retainedEvents json disk)) [event]) :
    SoundFiles hasher json (disk.append (utf8 text ++ [lineFeed]))
      (written ++ (utf8 text ++ [lineFeed])) start (everything ++ [event]) := by
  have retained := sound.retainedEvents_append atTail isOpen printed
  constructor
  · rcases Option.ne_none_iff_exists'.mp (atTail.present slot isOpen).2 with ⟨old, present⟩
    rcases sound.whole slot old present with ⟨events, whole⟩
    rw [Disk.append_files_of_some isOpen, present, Option.getD_some]
    intro other content found
    by_cases same : other = slot
    · subst same
      rw [Function.update_self, Option.some.injEq] at found
      exact ⟨_, found ▸ whole.append_line printed⟩
    · rw [Function.update_of_ne same] at found
      exact sound.whole other content found
  · exact sound.all.append_line printed
  · rw [retained]
    exact List.suffix_append_self_iff.mpr sound.retained
  · exact sound.rooted_append follows.1
  · simp
  · rw [retained]
    exact chained_append.mpr ⟨sound.chained, follows⟩

end Append

/-- A line that is written as a whole continues the chain. -/
theorem logInvariant_append {chainHash : String} {emitter : AuditEmitter} {content : EventContent}
    {line : List UInt8}
    (sound : SoundFiles hasher json state.disk state.written start everything)
    (continues : Continues json state.disk start emitter)
    (stamped : stampedLine hasher json emitter.lastChainHash content = some (line, chainHash)) :
    LogInvariant hasher json { state.append line with emitter := some ⟨[], chainHash⟩ } := by
  rcases stampedLine_eq_some stamped with ⟨event, text, isStamp, printed, rfl⟩
  rw [continues.head] at isStamp
  rcases chained_stamp isStamp with ⟨follows, next⟩
  have atTail : (state.disk.append (utf8 text ++ [lineFeed])).AtTail logFileCount :=
    continues.atTail.append
  cases isOpen : state.disk.handle with
  | none =>
      have nothing : retainedEvents json (state.disk.append (utf8 text ++ [lineFeed])) = [] :=
        atTail.collect_eq_nil isOpen
      have written := sound.append_unnamed continues.atTail isOpen printed follows.1 chainHash
      apply written.logInvariant_running
      exact ⟨rfl, by rw [nothing, headAfter_nil], atTail⟩
  | some slot =>
      have retained := sound.retainedEvents_append continues.atTail isOpen printed
      have written := sound.append_open continues.atTail isOpen printed follows
      apply written.logInvariant_running
      exact ⟨rfl, by rw [retained, headAfter_append, next], atTail⟩

theorem append_nil_of_continues {emitter : AuditEmitter}
    (continues : Continues json state.disk start emitter) : state.append [] = state := by
  rw [LogState.append, Disk.append_nil continues.atTail, List.append_nil]

/-- What `emit` does when it takes a whole line or none of it. -/
theorem LogInvariant.emit {emitter : AuditEmitter} {content : EventContent}
    {outcome : WriteOutcome} (invariant : LogInvariant hasher json state)
    (running : state.emitter = some emitter)
    (harmless : ∀ written ∈ stampedLine hasher json emitter.lastChainHash content,
      outcome.accepted = 0 ∨ outcome.Whole written.1) :
    LogInvariant hasher json (state.emit hasher json emitter content outcome) := by
  rcases invariant with ⟨start, everything, sound, runs⟩
  have continues := runs emitter running
  cases stamped : stampedLine hasher json emitter.lastChainHash content with
  | none =>
      simp only [LogState.emit, stamped]
      exact ⟨start, everything, sound, runs⟩
  | some stampedLine =>
      rcases stampedLine with ⟨line, chainHash⟩
      rcases harmless _ stamped with untaken | ⟨taken, flushed⟩
      · rcases stampedLine_eq_some stamped with ⟨_, text, _, _, rfl⟩
        have unchanged : state.emit hasher json emitter content outcome = state := by
          have sameEmitter : (⟨[], emitter.lastChainHash⟩ : AuditEmitter) = emitter := by
            rw [← continues.buffer]
          simp [LogState.emit, stamped, continues.buffer, untaken,
            append_nil_of_continues continues, sameEmitter, ← running]
        rw [unchanged]
        exact ⟨start, everything, sound, runs⟩
      · have wrote : state.emit hasher json emitter content outcome =
            { state.append line with emitter := some ⟨[], chainHash⟩ } := by
          simp only [LogState.emit, stamped, continues.buffer, List.nil_append,
            List.take_of_length_le taken, List.take_of_length_le flushed,
            List.drop_of_length_le flushed, taken, flushed, and_self, if_true]
        rw [wrote]
        exact logInvariant_append sound continues stamped

/-- A process that ends before a byte of its line is in the file. -/
theorem emit_stop_of_unflushed {emitter : AuditEmitter} {content : EventContent}
    {outcome : WriteOutcome} (continues : Continues json state.disk start emitter)
    (unflushed : outcome.flushed = 0) :
    (state.emit hasher json emitter content outcome).stop = state.stop := by
  cases stamped : stampedLine hasher json emitter.lastChainHash content with
  | none => simp only [LogState.emit, stamped]
  | some stampedLine =>
      simp only [LogState.emit, stamped, unflushed, List.take_zero,
        append_nil_of_continues continues, LogState.stop]

/-! ## Rotating -/

/-- The files before the round for `slot`. -/
structure ShiftedTo (json : EventJson) (fails : Nat → Bool) (before disk : Disk (List UInt8))
    (slot : Nat) : Prop where
  untouched : ∀ lower ≤ slot, disk.files lower = before.files lower
  above : slot < maxRotatedFiles → disk.files (slot + 1) = none ∨
    fails (slot + 1) = true ∧ disk.files (slot + 1) = before.files (slot + 1)
  keeps : Disk.Keeps (jsonLines json) logFileCount before disk

section Rotate

variable {fails : Nat → Bool} {before : Disk (List UInt8)}

/-- A round loses no file but the oldest. -/
theorem ShiftedTo.keeps_shiftFile {slot : Nat} (shifted : ShiftedTo json fails before disk slot)
    (apart : MovesApart fails before.files) (inRange : slot ≤ maxRotatedFiles) :
    Disk.Keeps (jsonLines json) logFileCount before (shiftFile fails disk slot) := by
  apply shifted.keeps.trans
  unfold shiftFile
  split
  · exact Disk.Keeps.refl disk
  · rename_i moves
    rw [Bool.not_eq_true] at moves
    split
    · rename_i oldest
      subst oldest
      exact Disk.keeps_remove_top
    · have below : slot < maxRotatedFiles := by omega
      rcases shifted.above below with free | ⟨stuck, same⟩
      · exact Disk.keeps_rename (Nat.succ_lt_succ below) free
      · by_cases ontoOldest : slot + 1 = maxRotatedFiles
        · have top : logFileCount = slot + 2 := congrArg Nat.succ ontoOldest.symm
          rw [top]
          exact Disk.keeps_rename_top
        · cases target : before.files (slot + 1) with
          | none => exact Disk.keeps_rename (Nat.succ_lt_succ below) (same.trans target)
          | some content =>
              cases source : before.files slot with
              | none =>
                  rw [Disk.rename_of_none ((shifted.untouched slot (Nat.le_refl _)).trans source)]
                  exact Disk.Keeps.refl disk
              | some moved =>
                  have freed := apart slot (by omega) (by simp [source]) moves (by simp [target])
                  exact absurd (stuck.symm.trans freed) (by simp)

theorem ShiftedTo.next {slot : Nat} (shifted : ShiftedTo json fails before disk (slot + 1))
    (apart : MovesApart fails before.files) (inRange : slot + 1 ≤ maxRotatedFiles) :
    ShiftedTo json fails before (shiftFile fails disk (slot + 1)) slot := by
  constructor
  · intro lower atMost
    rw [← shifted.untouched lower (by omega)]
    unfold shiftFile
    split
    · rfl
    · split
      · exact Disk.remove_files_of_ne (by omega)
      · exact Disk.rename_files_of_ne (by omega) (by omega)
  · intro _
    unfold shiftFile
    split
    · rename_i stuck
      exact Or.inr ⟨stuck, shifted.untouched (slot + 1) (Nat.le_refl _)⟩
    · left
      split
      · exact Disk.remove_files_self ..
      · exact Disk.rename_files_source ..
  · exact shifted.keeps_shiftFile apart inRange

theorem ShiftedTo.shiftFiles {slot : Nat} (shifted : ShiftedTo json fails before disk slot)
    (apart : MovesApart fails before.files) (inRange : slot ≤ maxRotatedFiles) :
    ShiftedTo json fails before (shiftFiles fails slot disk) 0 := by
  induction slot generalizing disk with
  | zero => exact shifted
  | succ slot ih => exact ih (shifted.next apart inRange) (by omega)

/-- The files after a rotation. -/
theorem keeps_rotateFiles (apart : MovesApart fails disk.files) :
    Disk.Keeps (jsonLines json) logFileCount disk (rotateFiles fails disk) := by
  have atStart : ShiftedTo json fails disk disk maxRotatedFiles :=
    ⟨fun _ _ => rfl, fun below => absurd below (Nat.lt_irrefl _), Disk.Keeps.refl disk⟩
  have atEnd := atStart.shiftFiles apart (Nat.le_refl _)
  exact atEnd.keeps_shiftFile apart (Nat.zero_le _)

end Rotate

/-- Files that are lost from the front leave a chain. -/
theorem SoundFiles.keeps {after : Disk (List UInt8)}
    (sound : SoundFiles hasher json disk written start everything)
    (keeps : Disk.Keeps (jsonLines json) logFileCount disk after) :
    ∃ later, SoundFiles hasher json after written later everything ∧
      headAfter later (retainedEvents json after) =
        headAfter start (retainedEvents json disk) := by
  rcases keeps.suffix with ⟨dropped, split⟩
  change dropped ++ retainedEvents json after = retainedEvents json disk at split
  have chained := sound.chained
  rw [← split, chained_append] at chained
  have whole : ∀ slot content, after.files slot = some content →
      ∃ events, WholeLines json content events := by
    intro slot content found
    rcases keeps.origin slot content found with ⟨source, original⟩
    exact sound.whole source content original
  have unstarted : everything = [] → headAfter start dropped = hasher.genesisHash := by
    intro nothing
    have noRetained := sound.retained
    rw [nothing, List.suffix_nil, ← split] at noRetained
    rw [(List.append_eq_nil_iff.mp noRetained).1, headAfter_nil, sound.unstarted nothing]
  use headAfter start dropped
  constructor
  · exact
      { whole
        all := sound.all
        retained := keeps.suffix.trans sound.retained
        rooted := sound.rooted
        unstarted
        chained := chained.2 }
  · rw [← split, headAfter_append]

theorem LogInvariant.rotate {emitter : AuditEmitter} {flushed : Nat} {faults : RotateFaults}
    (invariant : LogInvariant hasher json state) (running : state.emitter = some emitter)
    (apart : MovesApart faults.fails state.disk.files) :
    LogInvariant hasher json (state.rotate emitter flushed faults) := by
  rcases invariant with ⟨start, everything, sound, runs⟩
  have continues := runs emitter running
  have moved : state.rotate emitter flushed faults =
      { state with disk :=
          if faults.reopenFails then rotateFiles faults.fails state.disk
          else openAppend (rotateFiles faults.fails state.disk) } := by
    have sameEmitter : (⟨[], emitter.lastChainHash⟩ : AuditEmitter) = emitter := by
      rw [← continues.buffer]
    simp only [LogState.rotate, continues.buffer, List.take_nil, List.drop_nil,
      append_nil_of_continues continues, if_true, sameEmitter, ← running]
  have keeps : Disk.Keeps (jsonLines json) logFileCount state.disk
      (rotateFiles faults.fails state.disk) := keeps_rotateFiles apart
  rcases sound.keeps keeps with ⟨later, soundAfter, sameHead⟩
  have head : emitter.lastChainHash =
      headAfter later (retainedEvents json (rotateFiles faults.fails state.disk)) :=
    continues.head.trans sameHead.symm
  rw [moved, running]
  cases faults.reopenFails with
  | true =>
      apply soundAfter.logInvariant_running
      exact ⟨continues.buffer, head, keeps.atTail continues.atTail⟩
  | false =>
      rw [← retainedEvents_openAppend] at head
      apply soundAfter.openAppend.logInvariant_running
      exact ⟨continues.buffer, head, atTail_openAppend _⟩

/-! ## Runs -/

theorem LogInvariant.next (event : LogEvent) (invariant : LogInvariant hasher json state)
    (harmless : Harmless hasher json state event) :
    LogInvariant hasher json (state.next hasher json event) := by
  cases running : state.emitter with
  | none =>
      cases event with
      | openLog =>
          simp only [LogState.next, running]
          exact invariant.openLog harmless
      | _ =>
          simp only [LogState.next, running]
          exact invariant
  | some emitter =>
      cases event with
      | openLog =>
          simp only [LogState.next, running]
          exact invariant
      | emit content outcome =>
          simp only [LogState.next, running]
          exact invariant.emit running (harmless emitter running)
      | endInEmit content outcome =>
          simp only [LogState.next, running]
          by_cases unflushed : outcome.flushed = 0
          · rcases invariant with ⟨start, everything, sound, runs⟩
            rw [emit_stop_of_unflushed (runs emitter running) unflushed]
            exact LogInvariant.stop ⟨start, everything, sound, runs⟩
          · apply LogInvariant.stop
            apply invariant.emit running
            intro written stamped
            rcases harmless emitter running written stamped with untaken | lost | whole
            · exact Or.inl untaken
            · exact absurd lost unflushed
            · exact Or.inr whole
      | rotate flushed faults =>
          simp only [LogState.next, running]
          exact invariant.rotate running harmless
      | endProcess flushed =>
          simp only [LogState.next, running]
          rcases invariant with ⟨start, everything, sound, runs⟩
          have continues := runs emitter running
          rw [continues.buffer, List.take_nil, append_nil_of_continues continues]
          exact LogInvariant.stop ⟨start, everything, sound, runs⟩

end Invariant

/-- In every run of harmless steps the log is linear in every state. -/
theorem linearLog_of_harmless (hasher : ChainHasher) (json : EventJson) (events : List LogEvent)
    (harmless : Each (LogState.next hasher json) (Harmless hasher json) LogState.initial events)
    (before after : List LogEvent) (split : events = before ++ after) :
    LinearLog hasher json (before.foldl (LogState.next hasher json) LogState.initial) := by
  subst split
  have harmlessBefore := ((each_append _ before after).mp harmless).1
  have preserved : ∀ state event, LogInvariant hasher json state →
      Harmless hasher json state event →
        LogInvariant hasher json (state.next hasher json event) :=
    fun _ event invariant allowed => invariant.next event allowed
  exact (harmlessBefore.invariant preserved logInvariant_initial).linearLog

/-! ## Two events around a rotation -/

/-- A write that succeeds. -/
def wholeWrite : WriteOutcome := ⟨1024, 1024⟩

/-- A rotation in which every call succeeds. -/
def cleanRotation : LogEvent := .rotate 0 ⟨fun _ => false, false⟩

/-- Two events with a restart between them, and a rotation behind. -/
def restartedLog : List LogEvent :=
  [.openLog, .emit (sampleContent 1 "1") wholeWrite, .endProcess 0, .openLog,
    .emit (sampleContent 2 "2") wholeWrite, cleanRotation]

theorem restartedLog_linear :
    LinearLog readableHasher sampleJson
      (restartedLog.foldl (LogState.next readableHasher sampleJson) LogState.initial) := by
  refine linearLog_of_harmless readableHasher sampleJson restartedLog ?_ restartedLog [] rfl
  refine ⟨?_, ?_, ?_, ?_, ?_, ?_, trivial⟩
  · exact Or.inr (fun _ _ => rfl)
  · change ∀ emitter ∈ _, ∀ written ∈ _, _ ∨ _
    decide +kernel
  · trivial
  · left
    decide +kernel
  · change ∀ emitter ∈ _, ∀ written ∈ _, _ ∨ _
    decide +kernel
  · exact fun _ _ _ _ _ => rfl

/-- The restart follows a rotation, which left an empty current file. -/
theorem restart_after_rotation_not_linear :
    ¬LinearLog readableHasher sampleJson
      ([.openLog, .emit (sampleContent 1 "1") wholeWrite, cleanRotation, .endProcess 0, .openLog,
        .emit (sampleContent 2 "2") wholeWrite].foldl (LogState.next readableHasher sampleJson)
          LogState.initial) := by
  intro linear
  have retained : retainedEvents sampleJson
      ([.openLog, .emit (sampleContent 1 "1") wholeWrite, cleanRotation, .endProcess 0, .openLog,
        .emit (sampleContent 2 "2") wholeWrite].foldl (LogState.next readableHasher sampleJson)
          LogState.initial).disk = [firstEvent, secondEvent "0" "02"] := by
    decide +kernel
  have linked := linear.linked
  rw [retained, List.isChain_cons_cons] at linked
  exact absurd linked.1 (by decide)

end DlpSystem.Audit
