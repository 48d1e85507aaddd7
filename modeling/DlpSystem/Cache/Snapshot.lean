import DlpSystem.Cache.FailedRebuild
import DlpSystem.Lib.StepProgram

/-!
# A lookup during a rebuild

One rebuild and one lookup, interleaved step by step.  The protocol is meant to
give the reader the cache before the rebuild, the cache after it, or nothing.
The reader, though, looks at the version word only when it starts, and the
prefix table exists once; the file states which steps of the writer a lookup in
progress survives, and shows a schedule that mixes two tables.
-/

namespace DlpSystem.Cache

open Common Lib StepProgram Agent Hook

/-- A rebuild and a lookup that share the mapping. -/
abbrev CacheSession :=
  Session Mapping (Except CacheError UInt64) (Option Classification × UInt64)

/-- The answer that the content of a mapping determines: what a lookup that got
its version word past step 1 finds there. -/
def answerOf (target : Target) (path : Str) (nowSecs lastValidated : UInt64)
    (mapping : Mapping) : Option Classification :=
  ((lookupAt target path nowSecs lastValidated mapping.versionWord).run mapping).1.1

/-- Once the lookup has returned, it has returned nothing, the answer of the old
content, or the answer of the new content. -/
def SnapshotConsistent (target : Target) (path : Str) (nowSecs lastValidated : UInt64)
    (old new : Mapping) (session : CacheSession) : Prop :=
  ∀ result validated, session.second = .done (result, validated) →
    result = none ∨ result = answerOf target path nowSecs lastValidated old ∨
      result = answerOf target path nowSecs lastValidated new

/-- The lookup has returned. -/
def ReaderDone (session : CacheSession) : Prop :=
  ∃ result, session.second = .done result

instance (session : CacheSession) : Decidable (ReaderDone session) :=
  match isSecond : session.second with
  | .done result => isTrue ⟨result, isSecond⟩
  | .step _ _ => isFalse (by
      rintro ⟨result, isDone⟩
      rw [isSecond] at isDone
      cases isDone)

/-- The turns that a lookup in progress survives.  Writer turns are free before
the lookup starts and after it has returned.  In between, a lookup that started
on an even version word needs its view of the mapping left alone, and one that
started on an odd word needs the word kept from becoming even. -/
def Undisturbing (session : CacheSession) (turn : Turn) : Prop :=
  turn = .first → ¬ ReaderDone session →
    ∀ entered, session.entered = some entered →
      if entered.versionWord &&& 1 = 0 then
        SameView (bufferOf entered.versionWord) session.shared (session.take turn).shared
      else
        session.shared.versionWord &&& 1 = 1 → (session.take turn).shared.versionWord &&& 1 = 1

/-! ## The writer -/

theorem keeps_clearHashTable (hashOffset remaining index : Nat) :
    Keeps Mapping.versionWord (clearHashTable hashOffset remaining index) := by
  induction remaining generalizing index with
  | zero => trivial
  | succ remaining ih => exact keeps_store_bind (fun _ => rfl) (ih (index + 1))

theorem keeps_writePrefixEntries (tableOffset index : Nat) (keys : List CacheKey) :
    Keeps Mapping.versionWord (writePrefixEntries tableOffset index keys) := by
  induction keys generalizing index with
  | nil => trivial
  | cons key rest ih =>
      rw [writePrefixEntries]
      split
      · trivial
      · exact keeps_store_bind (fun _ => rfl) (ih (index + 1))

theorem keeps_insertHashEntry (hashOffset hashSlots : Nat) (key : CacheKey) (fuel idx : Nat) :
    Keeps Mapping.versionWord (insertHashEntry hashOffset hashSlots key fuel idx) := by
  induction fuel generalizing idx with
  | zero => trivial
  | succ fuel ih =>
      rw [insertHashEntry]
      split
      · trivial
      · apply keeps_load_bind _
        intro hash
        split
        · exact keeps_store_bind (fun _ => rfl) trivial
        · exact ih ((idx + 1) % hashSlots)

theorem keeps_insertHashEntries (hashOffset hashSlots hashCount : Nat) (keys : List CacheKey) :
    Keeps Mapping.versionWord (insertHashEntries hashOffset hashSlots hashCount keys) := by
  induction keys generalizing hashCount with
  | nil => trivial
  | cons key rest ih =>
      apply keeps_bind (keeps_insertHashEntry ..)
      intro inserted
      split
      · trivial
      · trivial
      · exact ih (hashCount + 1)

/-- The version word is not written while a buffer is built. -/
theorem keeps_buildInBuffer (mode : EnforcementMode) (buffer : UInt8) (entries : List CacheKey) :
    Keeps Mapping.versionWord (buildInBuffer mode buffer entries) := by
  refine keeps_load_bind _ fun hashOffset => keeps_load_bind _ fun hashSlots => ?_
  dsimp only
  split
  · trivial
  · refine keeps_bind (keeps_clearHashTable ..) fun _ => keeps_load_bind _ fun tableOffset => ?_
    apply keeps_bind (keeps_writePrefixEntries ..)
    intro written
    split
    · trivial
    · refine keeps_store_bind (fun _ => rfl) (keeps_bind (keeps_insertHashEntries ..) ?_)
      intro inserted
      split
      · trivial
      · exact keeps_store_bind (fun _ => rfl) trivial

theorem keeps_computeChecksum : Keeps Mapping.versionWord Agent.computeChecksum := by
  unfold Agent.computeChecksum
  repeat refine keeps_load_bind _ fun _ => ?_
  trivial

private theorem or_one_and_one (word : UInt64) : (word ||| 1) &&& 1 = 1 := by
  apply UInt64.toNat_inj.mp
  rw [UInt64.toNat_and, UInt64.toNat_or, Nat.and_or_distrib_right]
  change (word.toNat &&& 1) ||| 1 = 1
  rw [Nat.and_one_is_mod]
  rcases Nat.mod_two_eq_zero_or_one word.toNat with zero | one
  · rw [zero]
    rfl
  · rw [one]
    rfl

private theorem Keeps.throughout_odd {α : Type} {program : StepProgram Mapping α}
    (keeps : Keeps Mapping.versionWord program) {start current : Mapping}
    (odd : current.versionWord &&& 1 = 1) :
    Throughout (fun mapping => mapping = start ∨ mapping.versionWord &&& 1 = 1) program current :=
  Throughout.mono (fun mapping same => .inr (by rw [same, odd])) (keeps.throughout current)

/-- As long as a rebuild has a step to take, the mapping is the one it started
from or its version word is odd. -/
theorem rebuild_throughout (mode : EnforcementMode) (nowSecs : UInt64) (entries : List CacheKey)
    (mapping : Mapping) :
    Throughout (fun current => current = mapping ∨ current.versionWord &&& 1 = 1)
      (rebuild mode nowSecs entries) mapping := by
  have odd : (announced mapping).versionWord &&& 1 = 1 := or_one_and_one _
  have build := keeps_buildInBuffer mode (1 - bufferOf mapping.versionWord) entries
  rw [rebuild, throughout_load_bind]
  refine ⟨.inl rfl, ?_⟩
  dsimp only
  rw [throughout_store_bind]
  refine ⟨.inl rfl, ?_⟩
  rw [← announced, throughout_bind]
  refine ⟨Keeps.throughout_odd build odd, ?_⟩
  have oddBuilt : ((buildInBuffer mode (1 - bufferOf mapping.versionWord) entries).run
      (announced mapping)).2.versionWord &&& 1 = 1 := by
    rw [build.run_snd, odd]
  generalize (buildInBuffer mode (1 - bufferOf mapping.versionWord) entries).run
    (announced mapping) = built at oddBuilt ⊢
  rcases built with ⟨result, current⟩
  cases result with
  | error error => exact ⟨.inr oddBuilt, trivial⟩
  | ok value =>
      dsimp only
      rw [throughout_store_bind]
      refine ⟨.inr oddBuilt, ?_⟩
      rw [throughout_bind]
      exact ⟨Keeps.throughout_odd keeps_computeChecksum oddBuilt, .inr oddBuilt, .inr oddBuilt,
        trivial⟩

/-! ## The invariant of a session -/

/-- What a lookup does next after it has read an odd word: read it once more. -/
def retry (target : Target) (path : Str) (nowSecs lastValidated versionWord : UInt64) :
    StepProgram Mapping (Option Classification × UInt64) := do
  let retryWord ← load fun mapping => mapping.versionWord
  if retryWord &&& 1 ≠ 0 then pure (none, lastValidated)
  else lookupAt target path nowSecs lastValidated versionWord

theorem lookup_eq (target : Target) (path : Str) (op : HookOp) (nowSecs lastValidated : UInt64) :
    lookup target path op nowSecs lastValidated =
      (load fun mapping : Mapping => mapping.versionWord) >>= fun versionWord =>
        if versionWord &&& 1 ≠ 0 then retry target path nowSecs lastValidated versionWord
        else lookupAt target path nowSecs lastValidated versionWord := by
  simp only [lookup, acquireVersion, retry, bind_assoc]
  congr
  funext versionWord
  split
  · simp only [bind_assoc]
    congr
    funext retryWord
    split <;> rfl
  · rfl

section Invariant

variable (target : Target) (path : Str) (nowSecs lastValidated : UInt64) (old new : Mapping)

/-- A lookup that started on an even word is reading one of the two contents,
or has its answer. -/
structure Reading (entered : Mapping) (session : CacheSession) : Prop where
  content : entered = old ∨ entered = new
  layout : HasLayout entered.header
  sees : Sees (SameView (bufferOf entered.versionWord)) session.second entered
  answer : (session.second.run entered).1.1 =
    answerOf target path nowSecs lastValidated entered
  view : ¬ ReaderDone session →
    SameView (bufferOf entered.versionWord) entered session.shared

/-- A lookup that started on an odd word is about to retry, or has given up. -/
def Retrying (entered : Mapping) (session : CacheSession) : Prop :=
  (session.second = retry target path nowSecs lastValidated entered.versionWord ∧
    session.shared.versionWord &&& 1 = 1) ∨
  ∃ validated, session.second = .done (none, validated)

/-- The invariant of all sessions whose turns are undisturbing. -/
structure SessionInvariant (op : HookOp) (session : CacheSession) : Prop where
  writing : Throughout (fun current => current = old ∨ current.versionWord &&& 1 = 1)
    session.first session.shared
  ending : (session.first.run session.shared).2 = new
  waiting : session.entered = none →
    session.second = lookup target path op nowSecs lastValidated
  reading : ∀ entered, session.entered = some entered →
    if entered.versionWord &&& 1 = 0 then
      Reading target path nowSecs lastValidated old new entered session
    else Retrying target path nowSecs lastValidated entered session

variable {target path nowSecs lastValidated old new} {op : HookOp} {session : CacheSession}

/-- When the version word is even, the writer has not begun or is done. -/
theorem SessionInvariant.content_of_even
    (invariant : SessionInvariant target path nowSecs lastValidated old new op session)
    (even : session.shared.versionWord &&& 1 = 0) :
    session.shared = old ∨ session.shared = new := by
  have writing := invariant.writing
  have ending := invariant.ending
  cases first : session.first with
  | done result =>
      rw [first] at ending
      exact .inr ending
  | step act next =>
      rw [first] at writing
      rcases writing.1 with same | odd
      · exact .inl same
      · rw [even] at odd
        cases odd

theorem not_readerDone_retry {entered : Mapping}
    (retrying : session.second = retry target path nowSecs lastValidated entered.versionWord) :
    ¬ ReaderDone session := by
  rintro ⟨result, done⟩
  rw [retrying] at done
  cases done

/-- A turn of the writer. -/
theorem SessionInvariant.take_first
    (invariant : SessionInvariant target path nowSecs lastValidated old new op session)
    (allowed : Undisturbing session .first) :
    SessionInvariant target path nowSecs lastValidated old new op (session.take .first) := by
  refine ⟨invariant.writing.advance, ?_, invariant.waiting, fun entered isEntered => ?_⟩
  · exact (congrArg Prod.snd (run_advance session.first session.shared)).trans invariant.ending
  · have before := invariant.reading entered isEntered
    have permitted := fun notDone => allowed rfl notDone entered isEntered
    split
    · rename_i even
      rw [if_pos even] at before
      refine ⟨before.content, before.layout, before.sees, before.answer, fun notDone => ?_⟩
      have kept := permitted notDone
      rw [if_pos even] at kept
      exact (before.view notDone).trans kept
    · rename_i odd
      rw [if_neg odd] at before
      rcases before with ⟨retrying, oddWord⟩ | gaveUp
      · have kept := permitted (not_readerDone_retry retrying)
        rw [if_neg odd] at kept
        exact .inl ⟨retrying, kept oddWord⟩
      · exact .inr gaveUp

/-- A turn of the reader that leaves the mapping alone keeps the writer's part. -/
private theorem writer_part_of_shared
    (invariant : SessionInvariant target path nowSecs lastValidated old new op session)
    (unchanged : (session.take .second).shared = session.shared) :
    Throughout (fun current => current = old ∨ current.versionWord &&& 1 = 1)
        (session.take .second).first (session.take .second).shared ∧
      ((session.take .second).first.run (session.take .second).shared).2 = new := by
  rw [unchanged]
  exact ⟨invariant.writing, invariant.ending⟩

/-- The first turn of the reader. -/
private theorem SessionInvariant.take_second_enter
    (oldLayout : HasLayout old.header) (newLayout : HasLayout new.header)
    (invariant : SessionInvariant target path nowSecs lastValidated old new op session)
    (waiting : session.entered = none) :
    SessionInvariant target path nowSecs lastValidated old new op (session.take .second) := by
  have advanced : session.second.advance session.shared =
      (if session.shared.versionWord &&& 1 ≠ 0 then
        retry target path nowSecs lastValidated session.shared.versionWord
      else lookupAt target path nowSecs lastValidated session.shared.versionWord,
        session.shared) := by
    rw [invariant.waiting waiting, lookup_eq]
    rfl
  have unchanged : (session.take .second).shared = session.shared :=
    congrArg Prod.snd advanced
  have second : (session.take .second).second =
      if session.shared.versionWord &&& 1 ≠ 0 then
        retry target path nowSecs lastValidated session.shared.versionWord
      else lookupAt target path nowSecs lastValidated session.shared.versionWord :=
    congrArg Prod.fst advanced
  have isEntered : (session.take .second).entered = some session.shared := by
    simp [Session.take, waiting]
  rcases writer_part_of_shared invariant unchanged with ⟨writing, ending⟩
  have notWaiting : (session.take .second).entered ≠ none := by simp [isEntered]
  refine ⟨writing, ending, fun none => absurd none notWaiting, fun entered same => ?_⟩
  obtain rfl : session.shared = entered := Option.some.inj (isEntered.symm.trans same)
  split
  · rename_i even
    rw [if_neg (not_not.mpr even)] at second
    have content := invariant.content_of_even even
    have layout : HasLayout session.shared.header := by
      rcases content with isOld | isNew
      · rwa [isOld]
      · rwa [isNew]
    refine ⟨content, layout, ?_, ?_, fun _ => ?_⟩
    · rw [second]
      exact sees_lookupAt layout ..
    · rw [second]
      rfl
    · rw [unchanged]
      exact SameView.refl _ _
  · rename_i notEven
    rw [if_pos notEven] at second
    refine .inl ⟨second, ?_⟩
    rw [unchanged]
    exact (bufferOf_cases _).elim (fun zero => absurd zero.1 notEven) And.left

/-- A later turn of the reader. -/
private theorem SessionInvariant.take_second_later
    (invariant : SessionInvariant target path nowSecs lastValidated old new op session)
    {entered : Mapping} (isEntered : session.entered = some entered) :
    SessionInvariant target path nowSecs lastValidated old new op (session.take .second) := by
  have stillEntered : (session.take .second).entered = some entered := by
    simp [Session.take, isEntered]
  have before := invariant.reading entered isEntered
  -- It is enough to look at the reader's part; the mapping does not change.
  suffices part : (session.take .second).shared = session.shared ∧
      if entered.versionWord &&& 1 = 0 then
        Reading target path nowSecs lastValidated old new entered (session.take .second)
      else Retrying target path nowSecs lastValidated entered (session.take .second) by
    rcases writer_part_of_shared invariant part.1 with ⟨writing, ending⟩
    have notWaiting : (session.take .second).entered ≠ none := by simp [stillEntered]
    refine ⟨writing, ending, fun none => absurd none notWaiting, fun other same => ?_⟩
    obtain rfl : entered = other := Option.some.inj (stillEntered.symm.trans same)
    exact part.2
  by_cases done : ReaderDone session
  · rcases done with ⟨result, isDone⟩
    have unchanged : session.take .second = session := by
      cases session
      simp only at isDone isEntered
      subst isDone isEntered
      rfl
    rw [unchanged]
    exact ⟨rfl, before⟩
  · split
    · rename_i even
      rw [if_pos even] at before
      obtain ⟨sameShared, sees, sameAnswer⟩ :=
        before.sees.advance (SameView.refl _ entered) (before.view done)
      refine ⟨sameShared, before.content, before.layout, sees, ?_, fun _ => ?_⟩
      · exact (congrArg Prod.fst sameAnswer).trans before.answer
      · have view := before.view done
        change SameView _ entered (session.second.advance session.shared).2
        rwa [sameShared]
    · rename_i odd
      rw [if_neg odd] at before
      rcases before with ⟨retrying, oddWord⟩ | ⟨validated, gaveUp⟩
      · have advanced : session.second.advance session.shared =
            (.done (none, lastValidated), session.shared) := by
          rw [retrying]
          change ((if session.shared.versionWord &&& 1 ≠ 0 then
            (.done (none, lastValidated) : StepProgram Mapping (Option Classification × UInt64))
            else lookupAt target path nowSecs lastValidated entered.versionWord),
            session.shared) = _
          rw [if_pos (by rw [oddWord]; decide)]
        exact ⟨congrArg Prod.snd advanced, .inr ⟨lastValidated, congrArg Prod.fst advanced⟩⟩
      · exact absurd ⟨_, gaveUp⟩ done

theorem SessionInvariant.take (oldLayout : HasLayout old.header) (newLayout : HasLayout new.header)
    {turn : Turn} (allowed : Undisturbing session turn)
    (invariant : SessionInvariant target path nowSecs lastValidated old new op session) :
    SessionInvariant target path nowSecs lastValidated old new op (session.take turn) := by
  cases turn with
  | first => exact invariant.take_first allowed
  | second =>
      cases isEntered : session.entered with
      | none => exact invariant.take_second_enter oldLayout newLayout isEntered
      | some entered => exact invariant.take_second_later isEntered

theorem SessionInvariant.consistent
    (invariant : SessionInvariant target path nowSecs lastValidated old new op session) :
    SnapshotConsistent target path nowSecs lastValidated old new session := by
  intro result validated done
  cases isEntered : session.entered with
  | none =>
      have waiting := invariant.waiting isEntered
      rw [done, lookup_eq] at waiting
      cases waiting
  | some entered =>
      have reading := invariant.reading entered isEntered
      split at reading
      · have answer := reading.answer
        rw [done] at answer
        rcases reading.content with rfl | rfl
        · exact .inr (.inl answer)
        · exact .inr (.inr answer)
      · rcases reading with ⟨retrying, -⟩ | ⟨other, gaveUp⟩
        · exact absurd ⟨_, done⟩ (not_readerDone_retry retrying)
        · rw [done] at gaveUp
          cases gaveUp
          exact .inl rfl

end Invariant

/-- In every schedule all of whose turns are undisturbing, a lookup that runs
beside a rebuild of a reachable mapping is snapshot consistent. -/
theorem snapshotConsistent_of_undisturbed (target : Target) (mode : EnforcementMode)
    (raw : Mapping) (earlier : List RebuildCall) (call : RebuildCall) (path : Str) (op : HookOp)
    (nowSecs lastValidated : UInt64) (turns : List Turn)
    (undisturbed : Session.Along Undisturbing
      (Session.start call.program (lookup target path op nowSecs lastValidated)
        (afterCalls (initHeader mode raw) earlier)) turns) :
    SnapshotConsistent target path nowSecs lastValidated
      (afterCalls (initHeader mode raw) earlier)
      (call.after (afterCalls (initHeader mode raw) earlier))
      ((Session.start call.program (lookup target path op nowSecs lastValidated)
        (afterCalls (initHeader mode raw) earlier)).runTurns turns) := by
  have oldLayout := layout_afterCalls (layout_initHeader mode raw) earlier
  have newLayout := layout_after oldLayout call
  have start : SessionInvariant target path nowSecs lastValidated
      (afterCalls (initHeader mode raw) earlier)
      (call.after (afterCalls (initHeader mode raw) earlier)) op
      (Session.start call.program (lookup target path op nowSecs lastValidated)
        (afterCalls (initHeader mode raw) earlier)) := by
    refine ⟨rebuild_throughout _ _ _ _, rfl, fun _ => rfl, fun entered isEntered => ?_⟩
    cases isEntered
  have invariant := undisturbed.invariant
    (fun session turn invariant allowed => invariant.take oldLayout newLayout allowed) start
  exact invariant.consistent

/-- Turns of the reader disturb nothing. -/
theorem along_replicate_second (count : Nat) (session : CacheSession) :
    Session.Along Undisturbing session (List.replicate count .second) := by
  induction count generalizing session with
  | zero => trivial
  | succ count ih => exact ⟨(fun wrongTurn => by cases wrongTurn), ih _⟩

/-- The lookup has read the version word when a rebuild reads it too and announces itself, and
then goes on to its end. -/
def announcedMeanwhile : List Turn :=
  [.second, .first, .first] ++ List.replicate 21 .second

theorem snapshotConsistent_announced :
    ReaderDone ((Session.start dataCall.program
        (lookup .x64 (ascii "C:\\DATA\\PLAN.TXT") .write 1001 0)
        (afterCalls (initHeader .block Mapping.zero) [])).runTurns announcedMeanwhile) ∧
      SnapshotConsistent .x64 (ascii "C:\\DATA\\PLAN.TXT") 1001 0
        (afterCalls (initHeader .block Mapping.zero) [])
        (dataCall.after (afterCalls (initHeader .block Mapping.zero) []))
        ((Session.start dataCall.program
          (lookup .x64 (ascii "C:\\DATA\\PLAN.TXT") .write 1001 0)
          (afterCalls (initHeader .block Mapping.zero) [])).runTurns announcedMeanwhile) := by
  refine ⟨by decide +kernel, snapshotConsistent_of_undisturbed .x64 .block Mapping.zero [] dataCall
    _ .write 1001 0 announcedMeanwhile ⟨?_, ?_, ?_, along_replicate_second 21 _⟩⟩
  · intro wrongTurn
    cases wrongTurn
  · intro _ _ entered isEntered
    cases isEntered
    rw [if_pos (by decide)]
    exact SameView.refl _ _
  · -- the announcement changes the version word alone
    intro _ _ entered isEntered
    cases isEntered
    rw [if_pos (by decide)]
    exact ⟨rfl, rfl, fun _ _ => rfl⟩

/-! ## A mixed prefix table -/

/-- Two nested directories, the outer one public. -/
def nestedCall : RebuildCall where
  mode := .block
  nowSecs := 1000
  entries := [⟨ascii "C:\\X\\Y\\", .T4, 3600⟩, ⟨ascii "C:\\X\\", .T1, 3600⟩]

/-- The inner directory again, behind a longer one. -/
def shiftedCall : RebuildCall where
  mode := .block
  nowSecs := 1001
  entries := [⟨ascii "C:\\QQQQ\\", .T2, 3600⟩, ⟨ascii "C:\\X\\Y\\", .T4, 3600⟩]

/-- What the lookup does with the result of the prefix scan. -/
private def afterPrefixes (good : Mapping) :
    Option Classification → StepProgram Mapping (Option Classification)
  | some classification => pure (some classification)
  | none => hashLookup .x64 (bufferOf good.versionWord) (ascii "C:\\X\\Y\\F") 1001

/-- The reader can stop right before its scan of the prefix table. -/
private theorem reaches_scan {good : Mapping} (published : Published nestedCall good)
    (even : good.versionWord &&& 1 = 0) (first : StepProgram Mapping (Except CacheError UInt64)) :
    ∃ rest : Option Classification → StepProgram Mapping (Option Classification × UInt64),
      (∀ tier, rest (some tier) = .done (some tier, good.versionWord >>> 1)) ∧
      Session.Reaches
        (Session.start first
          (lookup .x64 (ascii "C:\\X\\Y\\F") .write 1001 (good.versionWord >>> 1)) good)
        ⟨first, scanPrefixes (ascii "C:\\X\\Y\\F") (ageAt 1001 1000) prefixTableStart.toNat 2 0 >>=
          rest, good, some good⟩ := by
  have accepted : normalizePath (ascii "C:\\X\\Y\\F") = some (ascii "C:\\X\\Y\\F") := by decide
  have validated := run_validateVersion published.layout published.checksum
    (good.versionWord >>> 1) (good.versionWord >>> 1)
  have count : Target.x64.asUsize good.header.prefixCount.toNat = 2 := by
    rw [published.prefixCount]
    decide
  have offset : Target.x64.asUsize good.header.prefixTableOffset.toNat =
      prefixTableStart.toNat := by
    rw [published.layout.prefixTableOffset]
    decide
  have fits : ¬ prefixTableStart.toNat + Target.x64.asUsize (2 * prefixEntrySize) >
      cacheTotalSize.toNat := by decide
  refine ⟨fun fromPrefix => afterPrefixes good fromPrefix >>=
    fun found => pure (found, good.versionWord >>> 1), fun _ => rfl, ?_⟩
  rw [lookup_eq]
  apply (Session.reaches_enter ..).trans
  rw [if_neg (not_not.mpr even), lookupAt]
  apply (Session.reaches_second_bind ..).trans
  rw [validated]
  simp only [Bool.true_eq_false, if_false, accepted, searchTables, prefixLookup, bind_assoc]
  apply (Session.reaches_second_load ..).trans
  simp only [count, OfNat.ofNat_ne_zero, if_false, bind_assoc]
  apply (Session.reaches_second_load ..).trans
  simp only [offset, if_neg fits, bind_assoc]
  apply (Session.reaches_second_load ..).trans
  rw [published.createdAt]
  exact ⟨[], rfl⟩

/-- The writer can stop right after it has replaced the first prefix entry. -/
private theorem reaches_firstEntry {good : Mapping} (published : Published nestedCall good)
    (second : StepProgram Mapping (Option Classification × UInt64)) (entered : Option Mapping) :
    ∃ (rest : StepProgram Mapping (Except CacheError UInt64)) (mixed : Mapping),
      mixed.prefixTable prefixTableStart.toNat 0 =
          encodePrefix ⟨ascii "C:\\QQQQ\\", .T2, 3600⟩ ∧
        mixed.prefixTable prefixTableStart.toNat 1 =
          encodePrefix ⟨ascii "C:\\X\\", .T1, 3600⟩ ∧
        Session.Reaches ⟨shiftedCall.program, second, good, entered⟩
          ⟨rest, second, mixed, entered⟩ := by
  have kept : keptPrefixes shiftedCall.entries =
      [⟨ascii "C:\\QQQQ\\", .T2, 3600⟩, ⟨ascii "C:\\X\\Y\\", .T4, 3600⟩] := by decide
  have fits : ¬ prefixTableStart.toNat + 0 * prefixEntrySize + prefixEntrySize >
      cacheTotalSize.toNat := by decide
  have tableFits : ¬ ((announced good).header.hashTableOffset
        (1 - bufferOf good.versionWord)).toNat +
      ((announced good).header.hashSlots * UInt64.ofNat hashEntrySize).toNat >
        cacheTotalSize.toNat := by
    have layout : HasLayout (announced good).header := published.layout
    rw [layout.hashTableOffset, layout.hashSlots, hashSlotCount_mul_size]
    exact Nat.not_lt.mpr (hashTable_inside _)
  obtain ⟨hashAt, cleared⟩ : ∃ hashAt,
      (clearHashTable ((announced good).header.hashTableOffset
          (1 - bufferOf good.versionWord)).toNat (announced good).header.hashSlots.toNat 0).run
        (announced good) = ((), { announced good with hashAt := hashAt }) :=
    ⟨_, run_clearHashTable ..⟩
  refine ⟨?_, ({ announced good with hashAt := hashAt } : Mapping).setPrefix
    (prefixTableStart.toNat + 0 * prefixEntrySize)
    (encodePrefix ⟨ascii "C:\\QQQQ\\", .T2, 3600⟩), ?_, ?_, ?_⟩
  rotate_left 3
  · rw [RebuildCall.program, rebuild]
    apply (Session.reaches_first_load ..).trans
    apply (Session.reaches_first_store ..).trans
    rw [← announced, buildInBuffer, bind_assoc]
    apply (Session.reaches_first_load ..).trans
    rw [bind_assoc]
    apply (Session.reaches_first_load ..).trans
    dsimp only
    rw [if_neg tableFits, bind_assoc]
    apply (Session.reaches_first_bind ..).trans
    rw [cleared, bind_assoc]
    apply (Session.reaches_first_load ..).trans
    have offset : (announced good).header.prefixTableOffset = prefixTableStart :=
      published.layout.prefixTableOffset
    dsimp only
    rw [offset, kept, writePrefixEntries]
    rw [if_neg fits, bind_assoc, bind_assoc]
    exact Session.reaches_first_store ..
  · rw [prefixTable_setPrefix, Function.update_self]
  · have other : (1 : Nat) ≠ 0 := by decide
    rw [prefixTable_setPrefix, Function.update_of_ne other]
    exact published.prefixes 1 (by decide)

/-- Both contents give the inner directory T4, and yet there is a schedule in
which the lookup returns the T1 of the outer one. -/
theorem not_snapshotConsistent_mixed :
    answerOf .x64 (ascii "C:\\X\\Y\\F") 1001 3
        (afterCalls (initHeader .block Mapping.zero) [nestedCall, nestedCall]) = some .T4 ∧
      answerOf .x64 (ascii "C:\\X\\Y\\F") 1001 3
        (shiftedCall.after
          (afterCalls (initHeader .block Mapping.zero) [nestedCall, nestedCall])) = some .T4 ∧
      ∃ turns, ((Session.start shiftedCall.program
          (lookup .x64 (ascii "C:\\X\\Y\\F") .write 1001 3)
          (afterCalls (initHeader .block Mapping.zero) [nestedCall, nestedCall])).runTurns
            turns).second = .done (some .T1, 3) := by
  have start := layout_initHeader .block Mapping.zero
  have nested : ∀ {mapping : Mapping}, HasLayout mapping.header → nestedCall.Succeeds mapping :=
    fun layout => (succeeds_iff_fits layout (by decide)).mpr (by decide)
  have shifted : ∀ {mapping : Mapping}, HasLayout mapping.header → shiftedCall.Succeeds mapping :=
    fun layout => (succeeds_iff_fits layout (by decide)).mpr (by decide)
  have once := published_after start (nested start)
  have twice := published_after once.1.layout (nested once.1.layout)
  have word : (afterCalls (initHeader .block Mapping.zero) [nestedCall, nestedCall]).versionWord =
      6 := by
    rw [afterCalls_cons, afterCalls_cons, afterCalls_nil, twice.2, once.2]
    exact (by decide : nextWord (nextWord ((1 : UInt64) <<< 1 ||| 0)) = 6)
  have published : Published nestedCall
      (afterCalls (initHeader .block Mapping.zero) [nestedCall, nestedCall]) := by
    rw [afterCalls_cons, afterCalls_cons, afterCalls_nil]
    exact twice.1
  generalize afterCalls (initHeader .block Mapping.zero) [nestedCall, nestedCall] = good
    at published word ⊢
  have accepted : normalizePath (ascii "C:\\X\\Y\\F") = some (ascii "C:\\X\\Y\\F") := by decide
  have rebuilt := (published_after published.layout (shifted published.layout)).1
  refine ⟨?_, ?_, ?_⟩
  · rw [answerOf, published.run_lookupAt accepted]
    exact published.searchTables_eq_some (by decide) .x64 _
  · rw [answerOf, rebuilt.run_lookupAt accepted]
    exact rebuilt.searchTables_eq_some (by decide) .x64 _
  · have even : good.versionWord &&& 1 = 0 := by
      rw [word]
      decide
    have version : good.versionWord >>> 1 = 3 := by
      rw [word]
      decide
    rcases reaches_scan published even shiftedCall.program with ⟨afterScan, returns, toScan⟩
    rw [version] at toScan returns
    obtain ⟨rest, mixed, slot0, slot1, toMixed⟩ := reaches_firstEntry published
      (scanPrefixes (ascii "C:\\X\\Y\\F") (ageAt 1001 1000) prefixTableStart.toNat 2 0 >>= afterScan)
      (some good)
    have toEnd := Session.reaches_second_bind
      (scanPrefixes (ascii "C:\\X\\Y\\F") (ageAt 1001 1000) prefixTableStart.toNat 2 0)
      afterScan rest mixed good
    have outer : scanEntries (ascii "C:\\X\\Y\\F") (ageAt 1001 1000)
        [encodePrefix ⟨ascii "C:\\QQQQ\\", .T2, 3600⟩,
          encodePrefix ⟨ascii "C:\\X\\", .T1, 3600⟩] = some .T1 := by decide
    have table : entriesFrom (mixed.prefixTable prefixTableStart.toNat) 2 0 =
        [encodePrefix ⟨ascii "C:\\QQQQ\\", .T2, 3600⟩,
          encodePrefix ⟨ascii "C:\\X\\", .T1, 3600⟩] := by
      rw [← slot0, ← slot1]
      rfl
    rw [run_scanPrefixes, table, outer] at toEnd
    rcases (toScan.trans toMixed).trans toEnd with ⟨turns, reached⟩
    refine ⟨turns, ?_⟩
    rw [reached]
    exact returns .T1

end DlpSystem.Cache
