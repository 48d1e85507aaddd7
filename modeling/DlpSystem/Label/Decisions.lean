import DlpSystem.Lib.EventRun
import DlpSystem.Lib.Fallible
import DlpSystem.Server.LabelApi

/-!
# Decisions on a label

Requests to confirm, reject, expire, update or delete one label overlap in any way.  Each
reads the label and checks its state, and changes it later in a transaction that does not
look at the state again.
-/

namespace DlpSystem.Labels

open Abac Lib Server

/-! ## The state of a label -/

/-- The state of a label, if it is in the table. -/
def stateOf (records : List LabelRecord) (id : String) : Option LabelState :=
  (getLabel records id).map LabelRecord.labelState

/-- The state in which a mutation leaves a label. -/
def stateAfter : LabelMutation → Option LabelState
  | .setState state => some state
  | .write row => some row.labelState
  | .remove => none

/-- A change of each row that keeps the ids. -/
theorem getLabel_map {change : LabelRecord → LabelRecord}
    (sameId : ∀ record, (change record).id = record.id) (records : List LabelRecord)
    (id : String) : getLabel (records.map change) id = (getLabel records id).map change := by
  rw [getLabel, List.find?_map, getLabel]
  congr 2
  funext record
  simp [sameId]

theorem getLabel_eq_some {records : List LabelRecord} {id : String} {record : LabelRecord}
    (found : getLabel records id = some record) : record.id = id := by
  unfold getLabel at found
  simpa using List.find?_some found

theorem stateOf_updateState {records : List LabelRecord} {id : String}
    (present : (getLabel records id).isSome) (state : LabelState) (now : String) :
    stateOf (updateState records id state now) id = some state := by
  obtain ⟨record, found⟩ := Option.isSome_iff_exists.mp present
  have sameId := getLabel_eq_some found
  rw [stateOf, updateState, getLabel_map (fun record => by split <;> rfl), found]
  simp [sameId]

theorem stateOf_updateLabel {records : List LabelRecord} {id : String}
    (present : (getLabel records id).isSome) (row : LabelRecord) :
    stateOf (updateLabel records id row) id = some row.labelState := by
  obtain ⟨record, found⟩ := Option.isSome_iff_exists.mp present
  have sameId := getLabel_eq_some found
  rw [stateOf, updateLabel, getLabel_map (fun record => by split <;> rfl), found]
  simp [sameId]

theorem stateOf_deleteLabel (records : List LabelRecord) (id : String) :
    stateOf (deleteLabel records id) id = none := by
  have gone : getLabel (records.filter fun record => record.id ≠ id) id = none := by
    rw [getLabel, List.find?_eq_none]
    intro record member
    simpa using (List.mem_filter.mp member).2
  rw [stateOf, deleteLabel, getLabel_map (fun record => by split <;> rfl), gone]
  rfl

/-! ## What the two steps of a handler do -/

/-- A transaction that goes through records its context and leaves the state of its
mutation. -/
theorem commitChange_eq_ok {records changed : List LabelRecord} {now : String}
    {prepared : PreparedChange} {context : MutationContext}
    (committed : commitChange records now prepared = .ok (changed, context)) :
    context = prepared.context ∧
      stateOf changed prepared.context.labelId = stateAfter prepared.mutation := by
  unfold commitChange at committed
  simp only at committed
  split at committed
  · cases committed
  · rename_i found
    have present : (getLabel records prepared.context.labelId).isSome :=
      Option.isSome_iff_ne_none.mpr (by simpa using found)
    cases mutation : prepared.mutation with
    | setState state =>
        rw [mutation] at committed
        cases committed
        exact ⟨rfl, stateOf_updateState present state now⟩
    | write row =>
        rw [mutation] at committed
        simp only at committed
        split at committed
        · cases committed
          exact ⟨rfl, stateOf_updateLabel present row⟩
        · cases committed
    | remove =>
        rw [mutation] at committed
        cases committed
        exact ⟨rfl, stateOf_deleteLabel _ _⟩

theorem readOriginal_eq_ok {records : List LabelRecord} {id : String} {original : LabelRecord}
    (read : readOriginal records id = .ok original) :
    stateOf records id = some original.labelState := by
  unfold readOriginal at read
  split at read
  · rename_i found
    cases read
    rw [stateOf, found]
    rfl
  · cases read

theorem checkDecision_eq_ok {caller : LabelCaller} {original : LabelRecord} {verb : String}
    (checked : checkDecision caller original verb = .ok ()) :
    original.labelState = .temporary := by
  unfold checkDecision at checked
  split at checked
  · cases checked
  · split at checked
    · rename_i temporary
      exact temporary
    · cases checked

/-- What a handler knows when it starts its transaction. -/
structure PreparedFor (id : String) (read : Option LabelState) (change : LabelChange)
    (prepared : PreparedChange) : Prop where
  labelId : prepared.context.labelId = id
  oldState : prepared.context.oldState = read
  newState : prepared.context.newState = stateAfter prepared.mutation
  decision : change.isDecision = true →
    read = some .temporary ∧ stateAfter prepared.mutation ≠ some .temporary

theorem prepareChange_eq_ok {records : List LabelRecord} {id now : String} {caller : LabelCaller}
    {change : LabelChange} {prepared : PreparedChange}
    (ready : prepareChange records id now caller change = .ok prepared) :
    PreparedFor id (stateOf records id) change prepared := by
  cases change with
  | confirm =>
      obtain ⟨original, read, afterRead⟩ := bind_eq_ok_iff.mp ready
      obtain ⟨checked, check, answer⟩ := bind_eq_ok_iff.mp afterRead
      cases answer
      rw [readOriginal_eq_ok read, checkDecision_eq_ok check]
      exact ⟨rfl, by rw [contextOf, checkDecision_eq_ok check], rfl, fun _ => ⟨rfl, nofun⟩⟩
  | reject =>
      obtain ⟨original, read, afterRead⟩ := bind_eq_ok_iff.mp ready
      obtain ⟨checked, check, answer⟩ := bind_eq_ok_iff.mp afterRead
      cases answer
      rw [readOriginal_eq_ok read, checkDecision_eq_ok check]
      exact ⟨rfl, by rw [contextOf, checkDecision_eq_ok check], rfl, fun _ => ⟨rfl, nofun⟩⟩
  | expire =>
      obtain ⟨original, read, answer⟩ := bind_eq_ok_iff.mp ready
      cases answer
      rw [readOriginal_eq_ok read]
      exact ⟨rfl, rfl, rfl, fun decision => by cases decision⟩
  | update request =>
      obtain ⟨canonical, -, afterCheck⟩ := bind_eq_ok_iff.mp ready
      obtain ⟨original, read, answer⟩ := bind_eq_ok_iff.mp afterCheck
      cases answer
      rw [readOriginal_eq_ok read]
      exact ⟨rfl, rfl, rfl, fun decision => by cases decision⟩
  | delete =>
      obtain ⟨original, read, answer⟩ := bind_eq_ok_iff.mp ready
      cases answer
      rw [readOriginal_eq_ok read]
      exact ⟨rfl, rfl, rfl, fun decision => by cases decision⟩

/-- The transaction of a prepared change finds what it changes. -/
def goesThrough (records : List LabelRecord) (prepared : PreparedChange) : Bool :=
  (getLabel records prepared.context.labelId).isSome &&
    match prepared.mutation with
    | .write row => parentExists records row
    | _ => true

/-- `commitChange` succeeds exactly if the transaction goes through. -/
theorem commitChange_isOk_iff (records : List LabelRecord) (now : String)
    (prepared : PreparedChange) :
    (∃ result, commitChange records now prepared = .ok result) ↔
      goesThrough records prepared = true := by
  unfold commitChange goesThrough
  cases found : getLabel records prepared.context.labelId with
  | none => simp [found]
  | some record =>
      cases mutation : prepared.mutation with
      | setState state => simp [found]
      | write row => by_cases parent : parentExists records row = true <;> simp [found, parent]
      | remove => simp [found]

/-! ## Runs -/

/-- One request to a handler of the label. -/
inductive LabelStage
  /-- Before the row is read. -/
  | reading (change : LabelChange) (caller : LabelCaller)
  /-- Between the read and `with_mutation`. -/
  | committing (change : LabelChange) (prepared : PreparedChange)
  /-- The handler has answered. -/
  | answered (error : Option AdminError)

/-- An audit event, with the states of the label around its transaction. -/
structure LabelEntry where
  change : LabelChange
  context : MutationContext
  before : Option LabelState
  after : Option LabelState

/-- The table of labels, the requests on one label, and their audit events. -/
structure LabelRun where
  records : List LabelRecord
  requests : List LabelStage
  audit : List LabelEntry

/-- What happens next; the connection or the disk may fail in either step. -/
inductive LabelEvent
  | arrive (change : LabelChange) (caller : LabelCaller)
  | read (index : Nat) (now : String) (fails : Bool)
  | commit (index : Nat) (now : String) (fails : Bool)

/-- The read step of a request. -/
def LabelRun.read (id : String) (run : LabelRun) (index : Nat) (now : String) (fails : Bool)
    (change : LabelChange) (caller : LabelCaller) : LabelRun :=
  match if fails then .error .database else prepareChange run.records id now caller change with
  | .ok prepared => { run with requests := run.requests.set index (.committing change prepared) }
  | .error error => { run with requests := run.requests.set index (.answered (some error)) }

/-- The transaction of a request. -/
def LabelRun.commit (id : String) (run : LabelRun) (index : Nat) (now : String) (fails : Bool)
    (change : LabelChange) (prepared : PreparedChange) : LabelRun :=
  match if fails then .error .database else commitChange run.records now prepared with
  | .ok (changed, context) =>
      { records := changed
        requests := run.requests.set index (.answered none)
        audit := run.audit ++ [⟨change, context, stateOf run.records id, stateOf changed id⟩] }
  | .error error => { run with requests := run.requests.set index (.answered (some error)) }

/-- One step of the requests on the label `id`. -/
def LabelRun.step (id : String) (run : LabelRun) : LabelEvent → LabelRun
  | .arrive change caller => { run with requests := run.requests ++ [.reading change caller] }
  | .read index now fails =>
      match run.requests[index]? with
      | some (.reading change caller) => run.read id index now fails change caller
      | _ => run
  | .commit index now fails =>
      match run.requests[index]? with
      | some (.committing change prepared) => run.commit id index now fails change prepared
      | _ => run

/-- The server before any request on the label. -/
def LabelRun.start (records : List LabelRecord) : LabelRun :=
  ⟨records, [], []⟩

/-! ## Truthful decisions -/

/-- The successful decisions since the label last became temporary, after one more audit
event. -/
def countDecision (count : Nat) (entry : LabelEntry) : Nat :=
  if entry.before ≠ some .temporary ∧ entry.after = some .temporary then 0
  else if entry.change.isDecision then count + 1
  else count

/-- The successful decisions since the label last became temporary. -/
def decisionsInPeriod (audit : List LabelEntry) : Nat :=
  audit.foldl countDecision 0

/-- Decisions are made once, on a temporary label, and the audit events tell what
happened. -/
structure Truthful (run : LabelRun) : Prop where
  once : decisionsInPeriod run.audit ≤ 1
  temporary : ∀ entry ∈ run.audit, entry.change.isDecision = true →
    entry.before = some .temporary
  recorded : ∀ entry ∈ run.audit,
    entry.context.oldState = entry.before ∧ entry.context.newState = entry.after

/-- A transaction that goes through finds the label in the state that its handler has
read. -/
def Undisturbed (id : String) (run : LabelRun) : LabelEvent → Prop
  | .commit index _ fails =>
      ∀ change prepared, run.requests[index]? = some (.committing change prepared) →
        fails = false → goesThrough run.records prepared = true →
          stateOf run.records id = prepared.context.oldState
  | _ => True

/-- What holds of every run, whatever overlaps. -/
structure Prepared (id : String) (run : LabelRun) : Prop where
  requests : ∀ change prepared, .committing change prepared ∈ run.requests →
    ∃ read, PreparedFor id read change prepared
  undecided : stateOf run.records id = some .temporary → decisionsInPeriod run.audit = 0

/-! ## What a step does -/

/-- The transaction of a request that goes through. -/
theorem commit_of_goesThrough {run : LabelRun} {prepared : PreparedChange} (id : String)
    (index : Nat) (now : String) (change : LabelChange)
    (through : goesThrough run.records prepared = true) :
    ∃ changed, stateOf changed prepared.context.labelId = stateAfter prepared.mutation ∧
      run.commit id index now false change prepared =
        { records := changed
          requests := run.requests.set index (.answered none)
          audit := run.audit ++
            [⟨change, prepared.context, stateOf run.records id, stateOf changed id⟩] } := by
  obtain ⟨⟨changed, context⟩, committed⟩ :=
    (commitChange_isOk_iff run.records now prepared).mpr through
  obtain ⟨rfl, left⟩ := commitChange_eq_ok committed
  exists changed
  simp [LabelRun.commit, committed, left]

/-- The transaction of a request that does not go through. -/
theorem commit_of_not_goesThrough {run : LabelRun} {prepared : PreparedChange} {fails : Bool}
    (id : String) (index : Nat) (now : String) (change : LabelChange)
    (stuck : fails = false → ¬ goesThrough run.records prepared = true) :
    ∃ error, run.commit id index now fails change prepared =
      { run with requests := run.requests.set index (.answered (some error)) } := by
  cases fails with
  | true => exact ⟨.database, rfl⟩
  | false =>
      have failed := mt (commitChange_isOk_iff run.records now prepared).mp (stuck rfl)
      cases committed : commitChange run.records now prepared with
      | ok result => exact absurd ⟨result, committed⟩ failed
      | error error =>
          exists error
          simp [LabelRun.commit, committed]

/-- A step that changes no label: new requests, reads, and transactions that fail. -/
structure Quiet (id : String) (run next : LabelRun) : Prop where
  records : next.records = run.records
  audit : next.audit = run.audit
  requests : ∀ change prepared, .committing change prepared ∈ next.requests →
    .committing change prepared ∈ run.requests ∨
      PreparedFor id (stateOf run.records id) change prepared

/-- A step in which the transaction of a prepared change goes through. -/
structure Commits (id : String) (run next : LabelRun) (change : LabelChange)
    (prepared : PreparedChange) : Prop where
  waiting : .committing change prepared ∈ run.requests
  left : stateOf next.records prepared.context.labelId = stateAfter prepared.mutation
  audit : next.audit = run.audit ++
    [⟨change, prepared.context, stateOf run.records id, stateOf next.records id⟩]
  requests : ∀ change prepared, .committing change prepared ∈ next.requests →
    .committing change prepared ∈ run.requests

theorem Quiet.refl (id : String) (run : LabelRun) : Quiet id run run :=
  ⟨rfl, rfl, fun _ _ => Or.inl⟩

/-- A request moves to another stage. -/
theorem Quiet.set {id : String} {run : LabelRun} {stage : LabelStage} (index : Nat)
    (ready : ∀ change prepared, stage = .committing change prepared →
      PreparedFor id (stateOf run.records id) change prepared) :
    Quiet id run { run with requests := run.requests.set index stage } where
  records := rfl
  audit := rfl
  requests := by
    intro change prepared member
    cases List.mem_or_eq_of_mem_set member with
    | inl earlier => exact Or.inl earlier
    | inr same => exact Or.inr (ready change prepared same.symm)

theorem read_quiet (id : String) (run : LabelRun) (index : Nat) (now : String) (fails : Bool)
    (change : LabelChange) (caller : LabelCaller) :
    Quiet id run (run.read id index now fails change caller) := by
  unfold LabelRun.read
  split
  · rename_i prepared ready
    apply Quiet.set
    intro other taken same
    cases same
    cases fails with
    | true => cases ready
    | false => exact prepareChange_eq_ok ready
  · apply Quiet.set
    intro other taken same
    cases same

/-- Every step of the server. -/
theorem step_cases (id : String) (run : LabelRun) (event : LabelEvent) :
    (Quiet id run (run.step id event) ∧ Undisturbed id run event) ∨
      ∃ change prepared, Commits id run (run.step id event) change prepared ∧
        (Undisturbed id run event ↔ stateOf run.records id = prepared.context.oldState) := by
  cases event with
  | arrive change caller =>
      apply Or.inl
      refine ⟨⟨rfl, rfl, ?_⟩, trivial⟩
      intro other prepared member
      cases List.mem_append.mp member with
      | inl earlier => exact Or.inl earlier
      | inr new => cases List.mem_singleton.mp new
  | read index now fails =>
      apply Or.inl
      refine ⟨?_, trivial⟩
      simp only [LabelRun.step]
      split
      · exact read_quiet id run index now fails _ _
      · exact Quiet.refl id run
  | commit index now fails =>
      simp only [LabelRun.step]
      split
      · rename_i change prepared found
        by_cases through : fails = false ∧ goesThrough run.records prepared = true
        · -- The transaction goes through.
          obtain ⟨rfl, through⟩ := through
          obtain ⟨changed, left, result⟩ := commit_of_goesThrough id index now change through
          refine Or.inr ⟨change, prepared, ?_, ?_⟩
          · rw [result]
            refine ⟨List.mem_of_getElem? found, left, rfl, ?_⟩
            intro other taken member
            cases List.mem_or_eq_of_mem_set member with
            | inl earlier => exact earlier
            | inr same => cases same
          · constructor
            · intro undisturbed
              exact undisturbed change prepared found rfl through
            · intro same other taken again _ _
              cases found.symm.trans again
              exact same
        · -- It fails, and with it the request.
          have stuck : fails = false → ¬ goesThrough run.records prepared = true :=
            fun working through' => through ⟨working, through'⟩
          obtain ⟨error, result⟩ := commit_of_not_goesThrough id index now change stuck
          apply Or.inl
          constructor
          · rw [result]
            apply Quiet.set
            intro other taken same
            cases same
          · intro other taken again working through'
            cases found.symm.trans again
            exact absurd through' (stuck working)
      · rename_i none
        refine Or.inl ⟨Quiet.refl id run, ?_⟩
        intro change prepared found
        exact absurd found (none change prepared)

/-! ## Runs keep what they prepared -/

theorem decisionsInPeriod_concat (audit : List LabelEntry) (entry : LabelEntry) :
    decisionsInPeriod (audit ++ [entry]) = countDecision (decisionsInPeriod audit) entry := by
  simp [decisionsInPeriod]

/-- The entry of a transaction: its label is temporary afterwards only if it was no
decision. -/
theorem Commits.entry {id : String} {run next : LabelRun} {change : LabelChange}
    {prepared : PreparedChange} (commits : Commits id run next change prepared)
    {read : Option LabelState} (ready : PreparedFor id read change prepared) :
    stateOf next.records id = prepared.context.newState := by
  rw [ready.newState, ← commits.left, ready.labelId]

theorem step_prepared {id : String} {run : LabelRun} (event : LabelEvent)
    (kept : Prepared id run) : Prepared id (run.step id event) := by
  obtain ⟨quiet, -⟩ | ⟨change, prepared, commits, -⟩ := step_cases id run event
  · constructor
    · intro change prepared member
      cases quiet.requests change prepared member with
      | inl earlier => exact kept.requests change prepared earlier
      | inr ready => exact ⟨_, ready⟩
    · rw [quiet.records, quiet.audit]
      exact kept.undecided
  · constructor
    · intro other taken member
      exact kept.requests other taken (commits.requests other taken member)
    · intro temporary
      obtain ⟨read, ready⟩ := kept.requests change prepared commits.waiting
      rw [commits.audit, decisionsInPeriod_concat, countDecision]
      by_cases before : stateOf run.records id = some .temporary
      · -- A decision would have ended the period.
        have undecided : change.isDecision = false := by
          by_contra decision
          apply (ready.decision (by simpa using decision)).2
          rw [← ready.newState, ← commits.entry ready, temporary]
        simp [before, undecided, kept.undecided before]
      · simp [before, temporary]

theorem start_prepared (id : String) (records : List LabelRecord) :
    Prepared id (LabelRun.start records) where
  requests := fun _ _ member => nomatch member
  undecided := fun _ => rfl

theorem start_truthful (records : List LabelRecord) : Truthful (LabelRun.start records) where
  once := Nat.zero_le 1
  temporary := fun _ member => nomatch member
  recorded := fun _ member => nomatch member

/-! ## Truthful steps -/

/-- A transaction on the state that was read makes a truthful entry. -/
theorem Commits.truthful {id : String} {run next : LabelRun} {change : LabelChange}
    {prepared : PreparedChange} (commits : Commits id run next change prepared)
    (kept : Prepared id run) (truthful : Truthful run)
    (same : stateOf run.records id = prepared.context.oldState) : Truthful next := by
  obtain ⟨read, ready⟩ := kept.requests change prepared commits.waiting
  have decided : change.isDecision = true → stateOf run.records id = some .temporary := by
    intro decision
    rw [same, ready.oldState]
    exact (ready.decision decision).1
  constructor
  · rw [commits.audit, decisionsInPeriod_concat, countDecision]
    by_cases decision : change.isDecision = true
    · simp only [kept.undecided (decided decision), decision, if_true]
      split <;> simp
    · have once := truthful.once
      simp only [decision, Bool.false_eq_true, if_false]
      split
      · exact Nat.zero_le 1
      · exact once
  · rw [commits.audit]
    intro entry member decision
    cases List.mem_append.mp member with
    | inl earlier => exact truthful.temporary entry earlier decision
    | inr new =>
        cases List.mem_singleton.mp new
        exact decided decision
  · rw [commits.audit]
    intro entry member
    cases List.mem_append.mp member with
    | inl earlier => exact truthful.recorded entry earlier
    | inr new =>
        cases List.mem_singleton.mp new
        exact ⟨same.symm, (commits.entry ready).symm⟩

/-- A step keeps the audit events truthful exactly if it is undisturbed. -/
theorem step_truthful_iff {id : String} {run : LabelRun} (event : LabelEvent)
    (kept : Prepared id run) (truthful : Truthful run) :
    Truthful (run.step id event) ↔ Undisturbed id run event := by
  obtain ⟨quiet, undisturbed⟩ | ⟨change, prepared, commits, condition⟩ :=
    step_cases id run event
  · have still : Truthful (run.step id event) := by
      constructor
      · rw [quiet.audit]
        exact truthful.once
      · rw [quiet.audit]
        exact truthful.temporary
      · rw [quiet.audit]
        exact truthful.recorded
    exact iff_of_true still undisturbed
  · rw [condition]
    constructor
    · intro after
      have new := after.recorded ⟨change, prepared.context, stateOf run.records id,
        stateOf (run.step id event).records id⟩
      rw [commits.audit] at new
      exact (new (by simp)).1.symm
    · exact commits.truthful kept truthful

/-- In every run, decisions are made once and recorded truthfully at every point exactly if
every transaction that goes through finds the label in the state that its handler has
read. -/
theorem decisions_truthful_iff (id : String) (records : List LabelRecord)
    (events : List LabelEvent) :
    (∀ before after, events = before ++ after →
      Truthful (before.foldl (LabelRun.step id) (LabelRun.start records))) ↔
      Each (LabelRun.step id) (Undisturbed id) (LabelRun.start records) events := by
  have start := start_prepared id records
  have kept : ∀ run event, Prepared id run ∧ Truthful run →
      ((Prepared id (run.step id event) ∧ Truthful (run.step id event)) ↔
        Undisturbed id run event) := by
    rintro run event ⟨prepared, truthful⟩
    rw [← step_truthful_iff event prepared truthful]
    simp [step_prepared event prepared]
  rw [← at_cuts_iff_each kept ⟨start, start_truthful records⟩]
  apply forall_congr'
  intro before
  have prepared : Prepared id (before.foldl (LabelRun.step id) (LabelRun.start records)) :=
    foldl_invariant (fun _ event => step_prepared event) before start
  simp [prepared]

/-- A label that the scanner has proposed. -/
def proposedLabel : LabelRecord where
  id := "label-1"
  path := "C:\\Finance\\plan.docx"
  objectType := .file
  tier := .T3
  labelState := .temporary
  ownerSid := some "S-1-5-21-7"
  parentLabelId := none
  aclSnapshotId := none
  hash := none
  department := none
  createdAt := "2026-01-05T09:00:00Z"
  updatedAt := "2026-01-05T09:00:00Z"

/-- A confirmation and a rejection that both read the label before either commits. -/
def confirmAndReject : List LabelEvent :=
  [.arrive .confirm ⟨"dlp-admin", none⟩,
    .arrive .reject ⟨"owner", some "S-1-5-21-7"⟩,
    .read 0 "2026-01-05T10:00:00Z" false,
    .read 1 "2026-01-05T10:00:00Z" false,
    .commit 0 "2026-01-05T10:00:00Z" false,
    .commit 1 "2026-01-05T10:00:00Z" false]

/-- Both succeed; the rejection is recorded as a change of a temporary label, and the label
was confirmed. -/
theorem confirmAndReject_not_truthful :
    let run := confirmAndReject.foldl (LabelRun.step "label-1") (LabelRun.start [proposedLabel])
    decisionsInPeriod run.audit = 2 ∧
      run.audit.map (fun entry => (entry.context.oldState, entry.before)) =
        [(some .temporary, some .temporary), (some .temporary, some .confirmed)] ∧
      ¬ Truthful run := by
  have decisions : decisionsInPeriod (confirmAndReject.foldl (LabelRun.step "label-1")
      (LabelRun.start [proposedLabel])).audit = 2 := by
    decide
  refine ⟨decisions, by decide, ?_⟩
  intro truthful
  have once := truthful.once
  rw [decisions] at once
  exact absurd once (by decide)

end DlpSystem.Labels
