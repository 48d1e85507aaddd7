import DlpSystem.Admin.ConditionsBuilder
import DlpSystem.Lib.EventRun
import Mathlib.Data.List.DropRight
import Mathlib.Data.List.TakeWhile

/-!
# Sessions in the conditions builder

Whatever keys are pressed, a condition in the list was there before or was built from an
operator that the picker offers.  The values that the edit key stores for such a condition build
the same condition, and the policy engine can match it, with three exceptions.  An edit goes by
the row that was opened, so it hits another condition once a row above is gone.
-/

namespace DlpSystem.Admin

open Abac Lib

namespace ConditionsBuilder

/-! ## What one key can do -/

/-- At the last step the operator is one of those that the picker showed. -/
def OffersOperator (builder : ConditionsBuilder) : Prop :=
  builder.step = 3 → ∀ attr ∈ builder.selectedAttribute, ∀ op ∈ builder.selectedOperator,
    op ∈ (operatorsFor attr builder.selectedField).map Prod.fst

/-- The row that a key deletes. -/
def deletion (builder : ConditionsBuilder) (key : KeyCode) : Option Nat :=
  if builder.pendingFocused ∧ key ∈ [.char 'd', .char 'D', .delete] then builder.deletedRow
  else none

/-- The row that a key opens for an edit. -/
def opening (builder : ConditionsBuilder) (key : KeyCode) : Option Nat :=
  if builder.pendingFocused ∧ key ∈ [.char 'e', .char 'E'] then builder.editedRow.map Prod.fst
  else none

/-- The condition of the picks. -/
def picked (builder : ConditionsBuilder) : Option PolicyCondition :=
  match builder.selectedAttribute, builder.selectedOperator with
  | some attr, some op =>
      if usesTextInput attr builder.selectedField then
        buildCondition attr op 0 builder.buffer builder.selectedField
      else buildCondition attr op (builder.pickerState.getD 0) "" builder.selectedField
  | _, _ => none

/-- The condition that a key commits. -/
def commit (builder : ConditionsBuilder) (key : KeyCode) : Option PolicyCondition :=
  if ¬builder.pendingFocused ∧ builder.step = 3 ∧ key = .enter then builder.picked else none

/-- What a key can do to an open builder. -/
inductive Outcome (builder : ConditionsBuilder) (key : KeyCode) : Screen → Prop
  | quiet {next : ConditionsBuilder} (kept : builder.deletion key = none)
      (unopened : builder.opening key = none) (uncommitted : builder.commit key = none)
      (pending : next.pending = builder.pending) (editIndex : next.editIndex = builder.editIndex)
      (offers : builder.OffersOperator → next.OffersOperator) :
      Outcome builder key (.conditionsBuilder next)
  | deleted {row : Nat} (deletes : builder.deletion key = some row)
      (unopened : builder.opening key = none) (uncommitted : builder.commit key = none) :
      Outcome builder key (.conditionsBuilder builder.pendingDelete)
  | opened {row : Nat} (kept : builder.deletion key = none) (opens : builder.opening key = some row)
      (uncommitted : builder.commit key = none) :
      Outcome builder key (.conditionsBuilder builder.pendingEdit)
  | committed {cond : PolicyCondition} (kept : builder.deletion key = none)
      (unopened : builder.opening key = none) (commits : builder.commit key = some cond) :
      Outcome builder key (.conditionsBuilder (builder.step3CommitCondition cond))
  | closed (kept : builder.deletion key = none) (unopened : builder.opening key = none)
      (uncommitted : builder.commit key = none) :
      Outcome builder key (pendingCloseModal builder)

/-- Away from the last step nothing is owed about the operator. -/
theorem offersOperator_of_step {builder : ConditionsBuilder} (step : builder.step ≠ 3) :
    builder.OffersOperator :=
  fun last => absurd last step

/-- The operator that `Enter` takes over is offered. -/
theorem offersOperator_step2Advance {builder : ConditionsBuilder} (second : builder.step = 2) :
    builder.step2Advance.OffersOperator := by
  unfold step2Advance
  split
  · exact offersOperator_of_step (by rw [second]; decide)
  · rename_i op found
    intro _ attr isAttr chosen isChosen
    cases isChosen
    have isAttr : builder.selectedAttribute = some attr := isAttr
    rw [selectedAttributeAndOps, isAttr, Option.bind_some, Option.map_eq_some_iff] at found
    rcases found with ⟨offered, atRow, rfl⟩
    exact List.mem_map_of_mem (List.mem_of_getElem? atRow)

/-- Outside the list a key neither deletes nor opens a row. -/
theorem not_listKey {builder : ConditionsBuilder} (unfocused : builder.pendingFocused = false)
    (key : KeyCode) : builder.deletion key = none ∧ builder.opening key = none := by
  simp [deletion, opening, unfocused]

/-- With the list in focus no key commits. -/
theorem commit_of_focused {builder : ConditionsBuilder} (focused : builder.pendingFocused = true)
    (key : KeyCode) : builder.commit key = none := by
  simp [commit, focused]

theorem commit_of_step {builder : ConditionsBuilder} (step : builder.step ≠ 3) (key : KeyCode) :
    builder.commit key = none := by
  simp [commit, step]

end ConditionsBuilder

namespace App

open ConditionsBuilder

variable {app : App} {builder : ConditionsBuilder}

/-- A key in the list. -/
theorem outcome_pending (screen : app.screen = .conditionsBuilder builder) {key : KeyCode}
    (focused : builder.pendingFocused = true) :
    Outcome builder key (app.handleConditionsPending builder key).screen := by
  have uncommitted := commit_of_focused focused key
  have stays (kept : builder.deletion key = none) (unopened : builder.opening key = none) :
      Outcome builder key (.conditionsBuilder builder) :=
    .quiet kept unopened uncommitted rfl rfl id
  have moves (arrow : KeyCode) (kept : builder.deletion key = none)
      (unopened : builder.opening key = none) :
      Outcome builder key (.conditionsBuilder (builder.pendingNav arrow)) := by
    refine .quiet kept unopened uncommitted ?_ ?_ ?_ <;> unfold pendingNav <;> split <;>
      first | rfl | exact id
  have deletes (isKey : key ∈ [.char 'd', .char 'D', .delete])
      (other : key ∉ [.char 'e', .char 'E']) :
      Outcome builder key (.conditionsBuilder builder.pendingDelete) := by
    have unopened : builder.opening key = none := if_neg fun both => other both.2
    have row : builder.deletion key = builder.deletedRow := if_pos ⟨focused, isKey⟩
    cases found : builder.deletedRow with
    | none =>
        rw [pendingDelete, found]
        exact stays (row.trans found) unopened
    | some row' => exact .deleted (row.trans found) unopened uncommitted
  have opens (isKey : key ∈ [.char 'e', .char 'E'])
      (other : key ∉ [.char 'd', .char 'D', .delete]) :
      Outcome builder key (.conditionsBuilder builder.pendingEdit) := by
    have kept : builder.deletion key = none := if_neg fun both => other both.2
    have row : builder.opening key = builder.editedRow.map Prod.fst := if_pos ⟨focused, isKey⟩
    cases found : builder.editedRow with
    | none =>
        rw [pendingEdit, found]
        exact stays kept (by rw [row, found]; rfl)
    | some entry => exact .opened kept (by rw [row, found]; rfl) uncommitted
  unfold handleConditionsPending
  split
  · exact moves .up (if_neg (by simp)) (if_neg (by simp))
  · exact moves .down (if_neg (by simp)) (if_neg (by simp))
  · exact deletes (by simp) (by simp)
  · exact deletes (by simp) (by simp)
  · exact deletes (by simp) (by simp)
  · exact opens (by simp) (by simp)
  · exact opens (by simp) (by simp)
  · exact .closed (if_neg (by simp)) (if_neg (by simp)) uncommitted
  · rw [screen]
    exact stays (if_neg (by simp_all)) (if_neg (by simp_all))

/-- A key at the first step. -/
theorem outcome_step1 (screen : app.screen = .conditionsBuilder builder) {key : KeyCode}
    (unfocused : builder.pendingFocused = false) (first : builder.step = 1) :
    Outcome builder key (app.handleConditionsStep1 builder key).screen := by
  have early : builder.step ≠ 3 := by rw [first]; decide
  have uncommitted := commit_of_step early key
  rcases not_listKey unfocused key with ⟨kept, unopened⟩
  have stays : Outcome builder key app.screen := by
    rw [screen]
    exact .quiet kept unopened uncommitted rfl rfl id
  have moves (next : ConditionsBuilder) (pending : next.pending = builder.pending)
      (editIndex : next.editIndex = builder.editIndex) (step : next.step ≠ 3) :
      Outcome builder key (.conditionsBuilder next) :=
    .quiet kept unopened uncommitted pending editIndex fun _ => offersOperator_of_step step
  unfold handleConditionsStep1
  split
  · split
    · exact moves _ rfl rfl early
    · exact moves _ rfl rfl early
    · exact moves _ rfl rfl (by simp [appFieldConfirm])
    · exact moves _ rfl rfl early
    · exact stays
  · split
    · exact moves _ rfl rfl early
    · exact moves _ rfl rfl early
    · refine moves _ ?_ ?_ ?_ <;> unfold attributePickerAdvance <;> dsimp only <;> split
      · rfl
      · split <;> rfl
      · rfl
      · split <;> rfl
      · simp
      · split
        · exact early
        · simp
    · exact .closed kept unopened uncommitted
    · exact stays

/-- A key at the second step. -/
theorem outcome_step2 (screen : app.screen = .conditionsBuilder builder) {key : KeyCode}
    (unfocused : builder.pendingFocused = false) (second : builder.step = 2) :
    Outcome builder key (app.handleConditionsStep2 builder key).screen := by
  have early : builder.step ≠ 3 := by rw [second]; decide
  have uncommitted := commit_of_step early key
  rcases not_listKey unfocused key with ⟨kept, unopened⟩
  have stays : Outcome builder key app.screen := by
    rw [screen]
    exact .quiet kept unopened uncommitted rfl rfl id
  unfold handleConditionsStep2
  split
  · exact stays
  · split
    · exact .quiet kept unopened uncommitted rfl rfl fun _ => offersOperator_of_step early
    · exact .quiet kept unopened uncommitted rfl rfl fun _ => offersOperator_of_step early
    · refine .quiet kept unopened uncommitted ?_ ?_ fun _ => offersOperator_step2Advance second
      · unfold step2Advance
        split <;> rfl
      · unfold step2Advance
        split <;> rfl
    · refine .quiet kept unopened uncommitted ?_ ?_ fun _ => offersOperator_of_step ?_ <;>
        unfold step2GoBack <;> split <;> first | rfl | simp
    · exact stays

/-- A key at the last step. -/
theorem outcome_step3 (screen : app.screen = .conditionsBuilder builder) {key : KeyCode}
    (unfocused : builder.pendingFocused = false) (last : builder.step = 3) :
    Outcome builder key (app.handleConditionsStep3 builder key).screen := by
  rcases not_listKey unfocused key with ⟨kept, unopened⟩
  have quiet {next : ConditionsBuilder} (uncommitted : builder.commit key = none)
      (pending : next.pending = builder.pending) (editIndex : next.editIndex = builder.editIndex)
      (offers : builder.OffersOperator → next.OffersOperator) :
      Outcome builder key (.conditionsBuilder next) :=
    .quiet kept unopened uncommitted pending editIndex offers
  have other (different : key ≠ .enter) : builder.commit key = none :=
    if_neg fun all => different all.2.2
  have atEnter (isEnter : key = .enter) : builder.commit key = builder.picked :=
    if_pos ⟨by simp [unfocused], last, isEnter⟩
  have back : builder.OffersOperator → builder.step3GoBack.OffersOperator :=
    fun _ => offersOperator_of_step (by simp [step3GoBack])
  unfold handleConditionsStep3
  split
  · rename_i attr op isAttr isOp
    rcases Bool.eq_false_or_eq_true
      (ConditionsBuilder.usesTextInput attr builder.selectedField) with text | list
    · rw [if_pos text]
      have picked : builder.picked =
          buildCondition attr op 0 builder.buffer builder.selectedField := by
        rw [ConditionsBuilder.picked, isAttr, isOp]
        exact if_pos text
      cases key with
      | char char => exact quiet (other (by simp)) rfl rfl id
      | backspace => exact quiet (other (by simp)) rfl rfl id
      | enter =>
          delta handleConditionsStep3Text
          dsimp only
          cases built : buildCondition attr op 0 builder.buffer builder.selectedField with
          | some cond =>
              exact .committed kept unopened ((atEnter rfl).trans (picked.trans built))
          | none =>
              rw [show ({ app with status := _ } : App).screen = app.screen from rfl, screen]
              exact quiet ((atEnter rfl).trans (picked.trans built)) rfl rfl id
      | esc => exact quiet (other (by simp)) rfl rfl back
      | _ =>
          show Outcome builder _ app.screen
          rw [screen]
          exact quiet (other (by simp)) rfl rfl id
    · rw [if_neg (by rw [list]; decide)]
      have picked : builder.picked =
          buildCondition attr op (builder.pickerState.getD 0) "" builder.selectedField := by
        rw [ConditionsBuilder.picked, isAttr, isOp]
        exact if_neg (by rw [list]; decide)
      unfold handleConditionsStep3Select
      split
      · split
        · rw [screen]
          exact quiet (other (by simp)) rfl rfl id
        · exact quiet (other (by simp)) rfl rfl id
      · split
        · rw [screen]
          exact quiet (other (by simp)) rfl rfl id
        · exact quiet (other (by simp)) rfl rfl id
      · split
        · rename_i cond built
          exact .committed kept unopened ((atEnter rfl).trans (picked.trans built))
        · rename_i built
          rw [screen]
          exact quiet ((atEnter rfl).trans (picked.trans built)) rfl rfl id
      · exact quiet (other (by simp)) rfl rfl back
      · rename_i isEnter _
        rw [screen]
        exact quiet (other (by simpa using isEnter)) rfl rfl id
  · rename_i missing
    have nothing : builder.picked = none := by
      unfold ConditionsBuilder.picked
      split
      · rename_i attr op isAttr isOp
        exact absurd isOp (missing attr op isAttr)
      · rfl
    rw [screen]
    refine quiet ?_ rfl rfl id
    by_cases isEnter : key = .enter
    · exact (atEnter isEnter).trans nothing
    · exact other isEnter

/-- Every key does one of five things. -/
theorem outcome_handle (screen : app.screen = .conditionsBuilder builder) (key : KeyCode) :
    Outcome builder key (app.handleConditionsBuilder key).screen := by
  rw [handleConditionsBuilder, screen]
  dsimp only
  by_cases tab : key = .tab
  · rw [if_pos tab]
    refine .quiet (if_neg (by simp [tab])) (if_neg (by simp [tab])) (if_neg (by simp [tab]))
      rfl rfl id
  rw [if_neg tab]
  cases focused : builder.pendingFocused with
  | true => exact outcome_pending screen focused
  | false =>
      rw [if_neg (by decide)]
      split
      · rename_i first
        exact outcome_step1 screen focused first
      · rename_i second
        exact outcome_step2 screen focused second
      · rename_i last
        exact outcome_step3 screen focused last
      · rename_i unknown
        rcases not_listKey focused key with ⟨kept, unopened⟩
        rw [screen]
        exact .quiet kept unopened (commit_of_step unknown key) rfl rfl id

end App

/-! ## Conditions from the picker -/

/-- A condition that is built with an operator that the picker offers. -/
def Offered (cond : PolicyCondition) : Prop :=
  ∃ attr op pickerSelected buffer field, op ∈ (operatorsFor attr field).map Prod.fst ∧
    buildCondition attr op pickerSelected buffer field = some cond

theorem offered_of_commit {builder : ConditionsBuilder} (offers : builder.OffersOperator)
    {key : KeyCode} {cond : PolicyCondition} (commits : builder.commit key = some cond) :
    Offered cond := by
  unfold ConditionsBuilder.commit at commits
  split at commits
  · rename_i last
    unfold ConditionsBuilder.picked at commits
    split at commits
    · rename_i attr op isAttr isOp
      have offered := offers last.2.1 attr isAttr op isOp
      split at commits
      · exact ⟨attr, op, _, _, _, offered, commits⟩
      · exact ⟨attr, op, _, _, _, offered, commits⟩
    · cases commits
  · cases commits

/-- What an invariant of a session says of a screen. -/
def Sound (initial : List PolicyCondition) (screen : Screen) : Prop :=
  (∀ cond ∈ screen.conditions, cond ∈ initial ∨ Offered cond) ∧
    ∀ builder, screen = .conditionsBuilder builder → builder.OffersOperator

theorem conditions_pendingCloseModal (builder : ConditionsBuilder) :
    (pendingCloseModal builder).conditions = builder.pending := by
  unfold pendingCloseModal
  split <;> rfl

theorem pendingDelete_eq {builder : ConditionsBuilder} {row : Nat}
    (found : builder.deletedRow = some row) :
    builder.pendingDelete.pending = builder.pending.eraseIdx row ∧
      builder.pendingDelete.editIndex = builder.editIndex ∧
      (builder.OffersOperator → builder.pendingDelete.OffersOperator) := by
  rw [ConditionsBuilder.pendingDelete, found]
  exact ⟨rfl, rfl, id⟩

theorem deletedRow_of_deletion {builder : ConditionsBuilder} {key : KeyCode} {row : Nat}
    (deletes : builder.deletion key = some row) : builder.deletedRow = some row := by
  unfold ConditionsBuilder.deletion at deletes
  split at deletes
  · exact deletes
  · cases deletes

/-- The row that a key opens, with the condition there. -/
theorem editedRow_of_opening {builder : ConditionsBuilder} {key : KeyCode} {row : Nat}
    (opens : builder.opening key = some row) :
    ∃ cond, builder.editedRow = some (row, cond) ∧ builder.pending[row]? = some cond := by
  unfold ConditionsBuilder.opening at opens
  split at opens
  · rw [Option.map_eq_some_iff] at opens
    rcases opens with ⟨⟨found, cond⟩, isEdited, rfl⟩
    refine ⟨cond, isEdited, ?_⟩
    rw [ConditionsBuilder.editedRow, Option.bind_eq_some_iff] at isEdited
    rcases isEdited with ⟨selected, _, entry⟩
    rw [Option.map_eq_some_iff] at entry
    rcases entry with ⟨there, atRow, same⟩
    cases same
    exact atRow
  · cases opens

/-- An opened row starts over at the first step. -/
theorem pendingEdit_eq {builder : ConditionsBuilder} {row : Nat} {cond : PolicyCondition}
    (found : builder.editedRow = some (row, cond)) :
    builder.pendingEdit.pending = builder.pending ∧
      builder.pendingEdit.editIndex = some row ∧ builder.pendingEdit.step = 1 := by
  rw [ConditionsBuilder.pendingEdit, found]
  exact ⟨rfl, rfl, rfl⟩

theorem mem_committedPending {builder : ConditionsBuilder} {cond other : PolicyCondition}
    (member : other ∈ (builder.committedPending cond).1) :
    other ∈ builder.pending ∨ other = cond := by
  have appended : other ∈ builder.pending ++ [cond] → other ∈ builder.pending ∨ other = cond := by
    simp
  unfold ConditionsBuilder.committedPending at member
  split at member
  · split at member
    · exact List.mem_or_eq_of_mem_set member
    · exact appended member
  · exact appended member

/-- One key keeps a session sound. -/
theorem sound_handle {initial : List PolicyCondition} {app : App} (sound : Sound initial app.screen)
    (key : KeyCode) : Sound initial (app.handleConditionsBuilder key).screen := by
  cases screen : app.screen with
  | policyCreate form =>
      rw [App.handleConditionsBuilder, screen]
      exact sound
  | policyEdit form id =>
      rw [App.handleConditionsBuilder, screen]
      exact sound
  | conditionsBuilder builder =>
      rw [screen] at sound
      rcases sound with ⟨listed, offering⟩
      have offers := offering builder rfl
      have outcome := App.outcome_handle screen key
      generalize (app.handleConditionsBuilder key).screen = next at outcome
      cases outcome with
      | quiet _ _ _ pending _ keeps =>
          refine ⟨?_, ?_⟩
          · rw [Screen.conditions, pending]
            exact listed
          · rintro _ ⟨⟩
            exact keeps offers
      | deleted deletes =>
          rcases pendingDelete_eq (deletedRow_of_deletion deletes) with ⟨pending, _, keeps⟩
          refine ⟨?_, ?_⟩
          · intro cond member
            rw [Screen.conditions, pending] at member
            exact listed cond (List.mem_of_mem_eraseIdx member)
          · rintro _ ⟨⟩
            exact keeps offers
      | opened _ opens =>
          rcases editedRow_of_opening opens with ⟨cond, edited, _⟩
          rcases pendingEdit_eq edited with ⟨pending, _, step⟩
          refine ⟨?_, ?_⟩
          · rw [Screen.conditions, pending]
            exact listed
          · rintro _ ⟨⟩
            exact ConditionsBuilder.offersOperator_of_step (by simp [step])
      | committed _ _ commits =>
          refine ⟨?_, ?_⟩
          · intro other member
            rcases mem_committedPending member with old | rfl
            · exact listed other old
            · exact Or.inr (offered_of_commit offers commits)
          · rintro _ ⟨⟩
            exact ConditionsBuilder.offersOperator_of_step
              (by simp [ConditionsBuilder.step3CommitCondition])
      | closed =>
          refine ⟨?_, ?_⟩
          · rw [conditions_pendingCloseModal]
            exact listed
          · intro other closes
            unfold pendingCloseModal at closes
            split at closes <;> cases closes

/-- A whole session. -/
theorem sound_pressKeys {initial : List PolicyCondition} {app : App}
    (sound : Sound initial app.screen) (keys : List KeyCode) :
    Sound initial (app.pressKeys keys).screen := by
  induction keys generalizing app with
  | nil => exact sound
  | cons key rest ih => exact ih (sound_handle sound key)

theorem sound_openConditions (caller : CallerScreen) (form : PolicyFormState) :
    Sound form.conditions (.conditionsBuilder (openConditions caller form)) := by
  refine ⟨fun cond member => Or.inl member, ?_⟩
  rintro _ ⟨⟩
  exact ConditionsBuilder.offersOperator_of_step (by simp [openConditions])

/-- The app with the modal open over a form. -/
def App.opened (caller : CallerScreen) (form : PolicyFormState) : App where
  screen := .conditionsBuilder (openConditions caller form)
  status := none

/-- A condition of a session was in the form or is offered. -/
theorem mem_or_offered (caller : CallerScreen) (form : PolicyFormState) (keys : List KeyCode)
    {cond : PolicyCondition}
    (member : cond ∈ ((App.opened caller form).pressKeys keys).screen.conditions) :
    cond ∈ form.conditions ∨ Offered cond :=
  have opened : Sound form.conditions (App.opened caller form).screen :=
    sound_openConditions caller form
  (sound_pressKeys opened keys).1 cond member

/-! ## Opening a condition again -/

/-- A text that trimming leaves alone, and that is not empty. -/
def Typed (value : String) : Prop :=
  value ≠ "" ∧ trimmed value = value

theorem dropWhile_rdropWhile {p : Char → Bool} {chars : List Char}
    (trimmedFront : chars.dropWhile p = chars) :
    (chars.rdropWhile p).dropWhile p = chars.rdropWhile p := by
  rw [List.dropWhile_eq_self_iff] at trimmedFront ⊢
  intro nonempty
  have isPrefix : chars.rdropWhile p <+: chars := List.rdropWhile_prefix p chars
  have longer := isPrefix.length_le
  have sameHead := isPrefix.getElem nonempty
  rw [sameHead]
  exact trimmedFront (by omega)

theorem trimmed_trimmed (buffer : String) : trimmed (trimmed buffer) = trimmed buffer := by
  have idem (chars : List Char) : Server.trim (Server.trim chars) = Server.trim chars := by
    have front : (chars.dropWhile Server.isTrimmed).dropWhile Server.isTrimmed =
        chars.dropWhile Server.isTrimmed := List.dropWhile_idempotent _ _
    have inner := dropWhile_rdropWhile front
    have outer := List.rdropWhile_idempotent Server.isTrimmed (chars.dropWhile Server.isTrimmed)
    calc Server.trim (Server.trim chars)
        = (((chars.dropWhile Server.isTrimmed).rdropWhile Server.isTrimmed).dropWhile
            Server.isTrimmed).rdropWhile Server.isTrimmed := rfl
      _ = ((chars.dropWhile Server.isTrimmed).rdropWhile Server.isTrimmed).rdropWhile
            Server.isTrimmed := by rw [inner]
      _ = Server.trim chars := outer
  rw [trimmed, trimmed, String.toList_ofList, idem]

/-- The condition that the values build which the edit key stores for a condition. -/
def rebuilt (cond : PolicyCondition) : Option PolicyCondition :=
  buildCondition (conditionToPrefill cond).attr (conditionToPrefill cond).op
    (conditionToPrefill cond).pickerIdx (conditionToPrefill cond).buffer
    (appFieldFromCondition cond)

/-- A value that the picker can hold for a field of an application. -/
def HoldsAppValue (field : AppField) (value : String) : Prop :=
  if field = .trustTier then value ∈ ["trusted", "untrusted", "unknown"] else Typed value

/-- The conditions that the picker can hold. -/
def Reopens : PolicyCondition → Prop
  | .memberOf _ value | .sourceOrigin _ value | .destinationOrigin _ value => Typed value
  | .sourceApplication field _ value | .destinationApplication field _ value =>
      HoldsAppValue field value
  | .deviceHealth _ _ => False
  | _ => True

/-- The text that an input yields. -/
def typedText (buffer : String) : Option String :=
  if trimmed buffer = "" then none else some (trimmed buffer)

theorem typed_of_typedText {buffer value : String} (typed : typedText buffer = some value) :
    Typed value := by
  unfold typedText at typed
  split at typed
  · cases typed
  · rename_i nonempty
    cases typed
    exact ⟨nonempty, trimmed_trimmed buffer⟩

theorem typedText_eq_self_iff (value : String) : typedText value = some value ↔ Typed value := by
  constructor
  · exact typed_of_typedText
  · rintro ⟨nonempty, isTrimmed⟩
    rw [typedText, isTrimmed, if_neg nonempty]

/-! The conditions with a text, as what the input yields. -/

section Texts

variable (op buffer : String) (pickerSelected : Nat) (field : AppField)

theorem buildCondition_memberOf (field : Option AppField) :
    buildCondition .memberOf op pickerSelected buffer field =
      (typedText buffer).map (.memberOf op) := by
  change (if trimmed buffer = "" then none
    else some (PolicyCondition.memberOf op (trimmed buffer))) = _
  unfold typedText
  split <;> rfl

theorem buildCondition_sourceOrigin (field : Option AppField) :
    buildCondition .sourceOrigin op pickerSelected buffer field =
      (typedText buffer).map (.sourceOrigin op) := by
  change buildOriginCondition .sourceOrigin op buffer = _
  unfold buildOriginCondition typedText
  split <;> rfl

theorem buildCondition_destinationOrigin (field : Option AppField) :
    buildCondition .destinationOrigin op pickerSelected buffer field =
      (typedText buffer).map (.destinationOrigin op) := by
  change buildOriginCondition .destinationOrigin op buffer = _
  unfold buildOriginCondition typedText
  split <;> rfl

theorem buildCondition_sourceApplication :
    buildCondition .sourceApplication op pickerSelected buffer (some field) =
      (buildAppValue field pickerSelected buffer).map (.sourceApplication field op) := by
  change buildAppCondition .sourceApplication op pickerSelected buffer (some field) = _
  unfold buildAppCondition
  dsimp only
  cases buildAppValue field pickerSelected buffer <;> rfl

theorem buildCondition_destinationApplication :
    buildCondition .destinationApplication op pickerSelected buffer (some field) =
      (buildAppValue field pickerSelected buffer).map (.destinationApplication field op) := by
  change buildAppCondition .destinationApplication op pickerSelected buffer (some field) = _
  unfold buildAppCondition
  dsimp only
  cases buildAppValue field pickerSelected buffer <;> rfl

end Texts

theorem trustTier_value {pickerSelected : Nat} {buffer value : String}
    (built : buildAppValue .trustTier pickerSelected buffer = some value) :
    value ∈ ["trusted", "untrusted", "unknown"] := by
  unfold buildAppValue at built
  dsimp only at built
  split at built <;> cases built <;> simp

/-- What the picker builds for a field is a value that it can hold. -/
theorem holdsAppValue_of_buildAppValue {field : AppField} {pickerSelected : Nat}
    {buffer value : String} (built : buildAppValue field pickerSelected buffer = some value) :
    HoldsAppValue field value := by
  cases field with
  | trustTier => exact trustTier_value built
  | publisher => exact typed_of_typedText built
  | imagePath => exact typed_of_typedText built
  | aumid => exact typed_of_typedText built
  | packageFamilyName => exact typed_of_typedText built

theorem buildAppValue_prefill_iff (field : AppField) (value : String) :
    buildAppValue field (appFieldToPrefill field value).1 (appFieldToPrefill field value).2 =
      some value ↔ HoldsAppValue field value := by
  refine ⟨holdsAppValue_of_buildAppValue, fun holds => ?_⟩
  cases field with
  | trustTier =>
      have member : value ∈ ["trusted", "untrusted", "unknown"] := holds
      simp only [List.mem_cons, List.not_mem_nil, or_false] at member
      rcases member with rfl | rfl | rfl <;> rfl
  | publisher => exact (typedText_eq_self_iff value).mpr holds
  | imagePath => exact (typedText_eq_self_iff value).mpr holds
  | aumid => exact (typedText_eq_self_iff value).mpr holds
  | packageFamilyName => exact (typedText_eq_self_iff value).mpr holds

/-- An injective builder yields the condition exactly when it gets its value. -/
theorem map_eq_some_iff_of_injective {build : String → PolicyCondition}
    (injective : ∀ left right, build left = build right → left = right) {text : Option String}
    {value : String} : text.map build = some (build value) ↔ text = some value := by
  cases text with
  | none => simp
  | some other =>
      rw [Option.map_some, Option.some.injEq, Option.some.injEq]
      exact ⟨injective other value, congrArg build⟩

/-- Opening a condition and confirming it is the identity exactly where the picker can hold it. -/
theorem rebuilt_eq_some_iff (cond : PolicyCondition) : rebuilt cond = some cond ↔ Reopens cond := by
  cases cond with
  | classification op value => exact ⟨fun _ => trivial, fun _ => by cases value <;> rfl⟩
  | deviceTrust op value => exact ⟨fun _ => trivial, fun _ => by cases value <;> rfl⟩
  | networkLocation op value => exact ⟨fun _ => trivial, fun _ => by cases value <;> rfl⟩
  | accessContext op value => exact ⟨fun _ => trivial, fun _ => by cases value <;> rfl⟩
  | sourceVolumeClass op value => exact ⟨fun _ => trivial, fun _ => by cases value <;> rfl⟩
  | destinationVolumeClass op value => exact ⟨fun _ => trivial, fun _ => by cases value <;> rfl⟩
  | memberOf op value =>
      rw [rebuilt, conditionToPrefill, buildCondition_memberOf,
        map_eq_some_iff_of_injective fun _ _ same => by injection same]
      exact typedText_eq_self_iff value
  | sourceOrigin op value =>
      rw [rebuilt, conditionToPrefill, buildCondition_sourceOrigin,
        map_eq_some_iff_of_injective fun _ _ same => by injection same]
      exact typedText_eq_self_iff value
  | destinationOrigin op value =>
      rw [rebuilt, conditionToPrefill, buildCondition_destinationOrigin,
        map_eq_some_iff_of_injective fun _ _ same => by injection same]
      exact typedText_eq_self_iff value
  | sourceApplication field op value =>
      rw [rebuilt, conditionToPrefill, appFieldFromCondition, buildCondition_sourceApplication,
        map_eq_some_iff_of_injective fun _ _ same => by injection same]
      exact buildAppValue_prefill_iff field value
  | destinationApplication field op value =>
      rw [rebuilt, conditionToPrefill, appFieldFromCondition,
        buildCondition_destinationApplication,
        map_eq_some_iff_of_injective fun _ _ same => by injection same]
      exact buildAppValue_prefill_iff field value
  | deviceHealth op value =>
      -- the prefill says device trust, so another kind of condition comes back
      refine ⟨fun same => ?_, False.elim⟩
      have built : buildDeviceTrustCondition op 0 = some (.deviceHealth op value) := same
      cases built

/-- The shapes of what the picker builds, by attribute. -/
inductive Built (op : String) : ConditionAttribute → Option AppField → PolicyCondition → Prop
  | classification {field value} : Built op .classification field (.classification op value)
  | memberOf {field value} (typed : Typed value) : Built op .memberOf field (.memberOf op value)
  | deviceTrust {field value} : Built op .deviceTrust field (.deviceTrust op value)
  | networkLocation {field value} : Built op .networkLocation field (.networkLocation op value)
  | accessContext {field value} : Built op .accessContext field (.accessContext op value)
  | sourceApplication {field value} (holds : HoldsAppValue field value) :
      Built op .sourceApplication (some field) (.sourceApplication field op value)
  | destinationApplication {field value} (holds : HoldsAppValue field value) :
      Built op .destinationApplication (some field) (.destinationApplication field op value)
  | sourceOrigin {field value} (typed : Typed value) :
      Built op .sourceOrigin field (.sourceOrigin op value)
  | destinationOrigin {field value} (typed : Typed value) :
      Built op .destinationOrigin field (.destinationOrigin op value)
  | sourceVolumeClass {field value} :
      Built op .sourceVolumeClass field (.sourceVolumeClass op value)
  | destinationVolumeClass {field value} :
      Built op .destinationVolumeClass field (.destinationVolumeClass op value)

theorem built_of_buildCondition {attr : ConditionAttribute} {op buffer : String}
    {pickerSelected : Nat} {field : Option AppField} {cond : PolicyCondition}
    (built : buildCondition attr op pickerSelected buffer field = some cond) :
    Built op attr field cond := by
  cases attr with
  | classification =>
      have built : buildClassificationCondition op pickerSelected = some cond := built
      unfold buildClassificationCondition at built
      split at built <;> cases built <;> exact .classification
  | deviceTrust =>
      have built : buildDeviceTrustCondition op pickerSelected = some cond := built
      unfold buildDeviceTrustCondition at built
      split at built <;> cases built <;> exact .deviceTrust
  | networkLocation =>
      have built : buildNetworkLocationCondition op pickerSelected = some cond := built
      unfold buildNetworkLocationCondition at built
      split at built <;> cases built <;> exact .networkLocation
  | accessContext =>
      have built : buildAccessContextCondition op pickerSelected = some cond := built
      unfold buildAccessContextCondition at built
      split at built <;> cases built <;> exact .accessContext
  | sourceVolumeClass =>
      have built : buildVolumeClassCondition op pickerSelected true = some cond := built
      rw [buildVolumeClassCondition, Option.map_eq_some_iff] at built
      rcases built with ⟨value, _, rfl⟩
      exact .sourceVolumeClass
  | destinationVolumeClass =>
      have built : buildVolumeClassCondition op pickerSelected false = some cond := built
      rw [buildVolumeClassCondition, Option.map_eq_some_iff] at built
      rcases built with ⟨value, _, rfl⟩
      exact .destinationVolumeClass
  | memberOf =>
      rw [buildCondition_memberOf, Option.map_eq_some_iff] at built
      rcases built with ⟨value, typed, rfl⟩
      exact .memberOf (typed_of_typedText typed)
  | sourceOrigin =>
      rw [buildCondition_sourceOrigin, Option.map_eq_some_iff] at built
      rcases built with ⟨value, typed, rfl⟩
      exact .sourceOrigin (typed_of_typedText typed)
  | destinationOrigin =>
      rw [buildCondition_destinationOrigin, Option.map_eq_some_iff] at built
      rcases built with ⟨value, typed, rfl⟩
      exact .destinationOrigin (typed_of_typedText typed)
  | sourceApplication =>
      cases field with
      | none => cases built
      | some field =>
          rw [buildCondition_sourceApplication, Option.map_eq_some_iff] at built
          rcases built with ⟨value, isValue, rfl⟩
          exact .sourceApplication (holdsAppValue_of_buildAppValue isValue)
  | destinationApplication =>
      cases field with
      | none => cases built
      | some field =>
          rw [buildCondition_destinationApplication, Option.map_eq_some_iff] at built
          rcases built with ⟨value, isValue, rfl⟩
          exact .destinationApplication (holdsAppValue_of_buildAppValue isValue)

theorem reopens_of_offered {cond : PolicyCondition} (offered : Offered cond) : Reopens cond := by
  rcases offered with ⟨attr, op, pickerSelected, buffer, field, _, built⟩
  cases built_of_buildCondition built with
  | memberOf typed => exact typed
  | sourceOrigin typed => exact typed
  | destinationOrigin typed => exact typed
  | sourceApplication holds => exact holds
  | destinationApplication holds => exact holds
  | classification => trivial
  | deviceTrust => trivial
  | networkLocation => trivial
  | accessContext => trivial
  | sourceVolumeClass => trivial
  | destinationVolumeClass => trivial

/-- The values that the edit key stores for a condition of a session build the condition. -/
theorem session_condition_reopens (caller : CallerScreen) (form : PolicyFormState)
    (keys : List KeyCode) {cond : PolicyCondition}
    (member : cond ∈ ((App.opened caller form).pressKeys keys).screen.conditions) :
    cond ∈ form.conditions ∨ rebuilt cond = some cond :=
  (mem_or_offered caller form keys member).imp_right fun offered =>
    (rebuilt_eq_some_iff cond).mpr (reopens_of_offered offered)

/-! ## What the policy engine makes of it -/

/-- The conditions of the picker that no request can meet. -/
def Dead : PolicyCondition → Prop
  | .classification op value => (op = "gt" ∧ value = .T4) ∨ (op = "lt" ∧ value = .T1)
  | .sourceApplication field op _ | .destinationApplication field op _ =>
      field = .publisher ∧ op = "contains"
  | _ => False

/-- Some request meets a condition. -/
def CanMatch (cond : PolicyCondition) : Prop :=
  ∃ ctx resource, Server.conditionMatches ctx resource cond = true

/-- A request about which nothing is known. -/
def blankContext : AbacContext where
  subject := ⟨[], .unknown, .unknown, .healthy⟩
  resource := ⟨"", .T1⟩
  accessContext := .localAccess
  sourceApplication := none
  destinationApplication := none
  sourceOrigin := none
  destinationOrigin := none
  resourcePath := none
  sourceVolumeClass := none
  destinationVolumeClass := none

theorem canMatch_classification_iff {op : String}
    (offered : op ∈ (operatorsFor .classification none).map Prod.fst) (value : Classification) :
    CanMatch (.classification op value) ↔ ¬Dead (.classification op value) := by
  have reduces : CanMatch (.classification op value) ↔
      ∃ actual, Server.compareOpClassification op actual value = true :=
    ⟨fun ⟨_, resource, matched⟩ => ⟨resource.classification, matched⟩,
      fun ⟨actual, matched⟩ => ⟨blankContext, ⟨"", actual⟩, matched⟩⟩
  rw [reduces]
  simp only [operatorsFor, List.map_cons, List.map_nil, List.mem_cons, List.not_mem_nil,
    or_false] at offered
  rcases offered with rfl | rfl | rfl | rfl
  · exact ⟨fun _ => by simp [Dead], fun _ => ⟨value, by simp [Server.compareOpClassification]⟩⟩
  · refine ⟨fun _ => by simp [Dead], fun _ => ?_⟩
    by_cases top : value = .T1
    · exact ⟨.T2, by subst top; rfl⟩
    · exact ⟨.T1, by simpa [Server.compareOpClassification] using Ne.symm top⟩
  · cases value with
    | T4 =>
        refine ⟨fun ⟨actual, matched⟩ => ?_, fun alive => absurd (Or.inl ⟨rfl, rfl⟩) alive⟩
        cases actual <;> cases matched
    | T1 => exact ⟨fun _ => by simp [Dead], fun _ => ⟨.T4, rfl⟩⟩
    | T2 => exact ⟨fun _ => by simp [Dead], fun _ => ⟨.T4, rfl⟩⟩
    | T3 => exact ⟨fun _ => by simp [Dead], fun _ => ⟨.T4, rfl⟩⟩
  · cases value with
    | T1 =>
        refine ⟨fun ⟨actual, matched⟩ => ?_, fun alive => absurd (Or.inr ⟨rfl, rfl⟩) alive⟩
        cases actual <;> cases matched
    | T2 => exact ⟨fun _ => by simp [Dead], fun _ => ⟨.T1, rfl⟩⟩
    | T3 => exact ⟨fun _ => by simp [Dead], fun _ => ⟨.T1, rfl⟩⟩
    | T4 => exact ⟨fun _ => by simp [Dead], fun _ => ⟨.T1, rfl⟩⟩

theorem contains_self (text : String) : Server.contains text text = true := by
  simp [Server.contains]

/-- Some text stands in each offered relation to a value that is not empty. -/
theorem exists_textMatches {op value : String} (nonempty : value ≠ "")
    (offered : op ∈ ["eq", "ne", "contains"]) :
    ∃ actual, Server.textMatches op actual value = true := by
  simp only [List.mem_cons, List.not_mem_nil, or_false] at offered
  rcases offered with rfl | rfl | rfl
  · exact ⟨value, by simp [Server.textMatches]⟩
  · exact ⟨"", by simpa [Server.textMatches] using Ne.symm nonempty⟩
  · exact ⟨value, contains_self value⟩

/-- Some identity meets a condition on a field, unless it looks for a part of the publisher. -/
theorem exists_appIdentityMatches_iff {field : AppField} {op value : String}
    (holds : HoldsAppValue field value)
    (offered : op ∈ (operatorsFor .sourceApplication (some field)).map Prod.fst) :
    (∃ app, Server.appIdentityMatches field op value (some app) = true) ↔
      ¬(field = .publisher ∧ op = "contains") := by
  let blank : AppIdentity := ⟨"", "", .unknown, none, none⟩
  cases field with
  | publisher =>
      have nonempty : value ≠ "" := holds.1
      simp only [operatorsFor, List.map_cons, List.map_nil, List.mem_cons, List.not_mem_nil,
        or_false] at offered
      rcases offered with rfl | rfl | rfl
      · exact ⟨fun _ => by simp, fun _ => ⟨{ blank with publisher := value },
          by simp [Server.appIdentityMatches, Server.exactTextMatches]⟩⟩
      · exact ⟨fun _ => by simp, fun _ => ⟨{ blank with publisher := "" },
          by simpa [Server.appIdentityMatches, Server.exactTextMatches] using Ne.symm nonempty⟩⟩
      · refine ⟨fun found => ?_, fun alive => absurd ⟨rfl, rfl⟩ alive⟩
        rcases found with ⟨app, matched⟩
        cases matched
  | trustTier =>
      refine ⟨fun _ => by simp, fun _ => ?_⟩
      have member : value ∈ ["trusted", "untrusted", "unknown"] := holds
      simp only [operatorsFor, List.map_cons, List.map_nil, List.mem_cons, List.not_mem_nil,
        or_false] at offered member
      rcases offered with rfl | rfl <;> rcases member with rfl | rfl | rfl
      · exact ⟨{ blank with trustTier := .trusted }, by decide⟩
      · exact ⟨{ blank with trustTier := .untrusted }, by decide⟩
      · exact ⟨{ blank with trustTier := .unknown }, by decide⟩
      · exact ⟨{ blank with trustTier := .unknown }, by decide⟩
      · exact ⟨{ blank with trustTier := .unknown }, by decide⟩
      · exact ⟨{ blank with trustTier := .trusted }, by decide⟩
  | imagePath =>
      refine ⟨fun _ => by simp, fun _ => ?_⟩
      rcases exists_textMatches holds.1 offered with ⟨actual, matched⟩
      exact ⟨{ blank with imagePath := actual }, matched⟩
  | aumid =>
      refine ⟨fun _ => by simp, fun _ => ?_⟩
      rcases exists_textMatches holds.1 offered with ⟨actual, matched⟩
      exact ⟨{ blank with aumid := some actual }, matched⟩
  | packageFamilyName =>
      refine ⟨fun _ => by simp, fun _ => ?_⟩
      rcases exists_textMatches holds.1 offered with ⟨actual, matched⟩
      exact ⟨{ blank with packageFamilyName := some actual }, matched⟩

/-- Some value stands in each offered relation to a value of a type with two or more. -/
theorem exists_compareOp {α : Type} [DecidableEq α] {op : String} {value other : α}
    (different : other ≠ value) (offered : op ∈ ["eq", "neq"]) :
    ∃ actual, Server.compareOp op actual value = true := by
  simp only [List.mem_cons, List.not_mem_nil, or_false] at offered
  rcases offered with rfl | rfl
  · exact ⟨value, by simp [Server.compareOp]⟩
  · exact ⟨other, by simpa [Server.compareOp] using different⟩

theorem exists_volumeClassMatches {op : String} (value : VolumeClass)
    (offered : op ∈ ["eq", "ne", "in"]) :
    ∃ actual, Server.volumeClassMatches op value (some actual) = true := by
  simp only [List.mem_cons, List.not_mem_nil, or_false] at offered
  rcases offered with rfl | rfl | rfl
  · exact ⟨value, by simp [Server.volumeClassMatches]⟩
  · by_cases usb : value = .usbRemovable
    · exact ⟨.sdCard, by subst usb; rfl⟩
    · exact ⟨.usbRemovable, by simpa [Server.volumeClassMatches] using Ne.symm usb⟩
  · exact ⟨value, by simp [Server.volumeClassMatches]⟩

theorem exists_memberofMatches {op value : String} (offered : op ∈ ["eq", "neq", "contains"]) :
    ∃ groups, Server.memberofMatches op value groups = true := by
  simp only [List.mem_cons, List.not_mem_nil, or_false] at offered
  rcases offered with rfl | rfl | rfl
  · exact ⟨[value], by simp [Server.memberofMatches]⟩
  · exact ⟨[], rfl⟩
  · exact ⟨[value], by simp [Server.memberofMatches, contains_self]⟩

/-- An offered condition can be met, with the exceptions that `Dead` lists. -/
theorem canMatch_iff {cond : PolicyCondition} (offered : Offered cond) :
    CanMatch cond ↔ ¬Dead cond := by
  rcases offered with ⟨attr, op, pickerSelected, buffer, field, isOp, built⟩
  have alive {cond : PolicyCondition} (exact : CanMatch cond) (notDead : ¬Dead cond) :
      CanMatch cond ↔ ¬Dead cond := iff_of_true exact notDead
  cases built_of_buildCondition built with
  | classification => exact canMatch_classification_iff isOp _
  | memberOf =>
      rcases exists_memberofMatches isOp with ⟨groups, matched⟩
      exact alive ⟨{ blankContext with subject := ⟨groups, .unknown, .unknown, .healthy⟩ },
        ⟨"", .T1⟩, matched⟩ id
  | @deviceTrust field value =>
      have other : ∃ other, other ≠ value := by
        cases value
        · exact ⟨.unknown, by simp⟩
        · exact ⟨.unknown, by simp⟩
        · exact ⟨.unknown, by simp⟩
        · exact ⟨.managed, by simp⟩
      rcases other with ⟨other, different⟩
      rcases exists_compareOp different isOp with ⟨trust, matched⟩
      exact alive ⟨{ blankContext with subject := ⟨[], trust, .unknown, .healthy⟩ },
        ⟨"", .T1⟩, matched⟩ id
  | @networkLocation field value =>
      have other : ∃ other, other ≠ value := by
        cases value
        · exact ⟨.unknown, by simp⟩
        · exact ⟨.unknown, by simp⟩
        · exact ⟨.unknown, by simp⟩
        · exact ⟨.corporate, by simp⟩
      rcases other with ⟨other, different⟩
      rcases exists_compareOp different isOp with ⟨location, matched⟩
      exact alive ⟨{ blankContext with subject := ⟨[], .unknown, location, .healthy⟩ },
        ⟨"", .T1⟩, matched⟩ id
  | @accessContext field value =>
      have other : ∃ other, other ≠ value := by
        cases value
        · exact ⟨.smb, by simp⟩
        · exact ⟨.localAccess, by simp⟩
      rcases other with ⟨other, different⟩
      rcases exists_compareOp different isOp with ⟨access, matched⟩
      exact alive ⟨{ blankContext with accessContext := access }, ⟨"", .T1⟩, matched⟩ id
  | @sourceApplication field value holds =>
      refine Iff.trans ?_ (exists_appIdentityMatches_iff holds isOp)
      constructor
      · rintro ⟨ctx, _, matched⟩
        have matched : Server.appIdentityMatches field op value ctx.sourceApplication = true :=
          matched
        cases known : ctx.sourceApplication with
        | none =>
            rw [known] at matched
            cases matched
        | some app => exact ⟨app, known ▸ matched⟩
      · rintro ⟨app, matched⟩
        exact ⟨{ blankContext with sourceApplication := some app }, ⟨"", .T1⟩, matched⟩
  | @destinationApplication field value holds =>
      refine Iff.trans ?_ (exists_appIdentityMatches_iff holds isOp)
      constructor
      · rintro ⟨ctx, _, matched⟩
        have matched : Server.appIdentityMatches field op value ctx.destinationApplication = true :=
          matched
        cases known : ctx.destinationApplication with
        | none =>
            rw [known] at matched
            cases matched
        | some app => exact ⟨app, known ▸ matched⟩
      · rintro ⟨app, matched⟩
        exact ⟨{ blankContext with destinationApplication := some app }, ⟨"", .T1⟩, matched⟩
  | sourceOrigin typed =>
      rcases exists_textMatches typed.1 isOp with ⟨origin, matched⟩
      exact alive ⟨{ blankContext with sourceOrigin := some origin }, ⟨"", .T1⟩, matched⟩ id
  | destinationOrigin typed =>
      rcases exists_textMatches typed.1 isOp with ⟨origin, matched⟩
      exact alive ⟨{ blankContext with destinationOrigin := some origin }, ⟨"", .T1⟩, matched⟩ id
  | @sourceVolumeClass field value =>
      rcases exists_volumeClassMatches value isOp with ⟨actual, matched⟩
      exact alive ⟨{ blankContext with sourceVolumeClass := some actual }, ⟨"", .T1⟩, matched⟩ id
  | @destinationVolumeClass field value =>
      rcases exists_volumeClassMatches value isOp with ⟨actual, matched⟩
      exact alive ⟨{ blankContext with destinationVolumeClass := some actual }, ⟨"", .T1⟩, matched⟩
        id

/-- Of the conditions that a session adds, the engine can match all but the dead ones. -/
theorem session_condition_canMatch_iff (caller : CallerScreen) (form : PolicyFormState)
    (keys : List KeyCode) {cond : PolicyCondition}
    (member : cond ∈ ((App.opened caller form).pressKeys keys).screen.conditions) :
    cond ∈ form.conditions ∨ (CanMatch cond ↔ ¬Dead cond) :=
  (mem_or_offered caller form keys member).imp_right canMatch_iff

/-- A form without conditions. -/
def emptyForm : PolicyFormState where
  name := "Exports"
  description := ""
  priority := "1"
  action := 1
  enabled := true
  conditions := []
  id := ""
  mode := .all
  enforcementMode := 1

/-- The keys for a source application whose publisher contains `A`. -/
def publisherKeys : List KeyCode :=
  [.down, .down, .down, .down, .down, .enter, .enter, .up, .enter, .char 'A', .enter]

theorem session_condition_canMatch_iff_publisher :
    ¬CanMatch (.sourceApplication .publisher "contains" "A") := by
  have built : PolicyCondition.sourceApplication .publisher "contains" "A" ∈
      ((App.opened .policyCreate emptyForm).pressKeys publisherKeys).screen.conditions := by
    decide +kernel
  rcases session_condition_canMatch_iff .policyCreate emptyForm publisherKeys built with old | iff
  · cases old
  · exact fun canMatch => iff.mp canMatch ⟨rfl, rfl⟩

theorem session_condition_reopens_publisher :
    rebuilt (.sourceApplication .publisher "contains" "A") =
      some (.sourceApplication .publisher "contains" "A") := by
  have built : PolicyCondition.sourceApplication .publisher "contains" "A" ∈
      ((App.opened .policyCreate emptyForm).pressKeys publisherKeys).screen.conditions := by
    decide +kernel
  rcases session_condition_reopens .policyCreate emptyForm publisherKeys built with old | same
  · cases old
  · exact same

/-! ## Edits by row -/

/-- Where a row is after the deletion of another one. -/
def rowAfter (row : Option Nat) (deleted : Nat) : Option Nat :=
  row.bind fun row =>
    if row = deleted then none else if deleted < row then some (row - 1) else some row

/-- An open builder takes a key, and a closed one none. -/
def App.builder? (app : App) : Option ConditionsBuilder :=
  match app.screen with
  | .conditionsBuilder builder => some builder
  | _ => none

/-- A key that neither opens another row nor commits a condition. -/
def Holds (app : App) (key : KeyCode) : Prop :=
  ∀ builder ∈ app.builder?, builder.opening key = none ∧ builder.commit key = none

instance (app : App) (key : KeyCode) : Decidable (Holds app key) :=
  inferInstanceAs (Decidable (∀ builder ∈ app.builder?,
    builder.opening key = none ∧ builder.commit key = none))

/-- The rows that the keys of a session delete. -/
def deletions (app : App) : List KeyCode → List Nat
  | [] => []
  | key :: rest =>
      (app.builder?.bind fun builder => builder.deletion key).toList ++
        deletions (app.handleConditionsBuilder key) rest

theorem rowAfter_none (rows : List Nat) : rows.foldl rowAfter none = none := by
  induction rows with
  | nil => rfl
  | cons row rest ih => exact ih

/-- A row only ever moves up. -/
theorem rowAfter_foldl_le {row : Nat} {rows : List Nat} {last : Nat}
    (stays : rows.foldl rowAfter (some row) = some last) : last ≤ row := by
  induction rows generalizing row with
  | nil =>
      cases stays
      exact Nat.le_refl _
  | cons deleted rest ih =>
      have step : rest.foldl rowAfter (rowAfter (some row) deleted) = some last := stays
      rw [rowAfter, Option.bind_some] at step
      split at step
      · rw [rowAfter_none] at step
        cases step
      · split at step
        · exact (ih step).trans (Nat.sub_le row 1)
        · exact ih step

/-- A row stays where it is exactly when only rows below it are deleted. -/
theorem rowAfter_foldl_eq_some_iff (row : Nat) (rows : List Nat) :
    rows.foldl rowAfter (some row) = some row ↔ ∀ deleted ∈ rows, row < deleted := by
  induction rows with
  | nil => simp
  | cons deleted rest ih =>
      rw [List.foldl_cons, List.forall_mem_cons]
      constructor
      · intro stays
        have step := stays
        rw [rowAfter, Option.bind_some] at step
        split at step
        · rw [rowAfter_none] at step
          cases step
        · split at step
          · have moved := rowAfter_foldl_le step
            omega
          · exact ⟨by omega, ih.mp step⟩
      · rintro ⟨below, rest⟩
        have step : rowAfter (some row) deleted = some row := by
          rw [rowAfter, Option.bind_some, if_neg (by omega), if_neg (by omega)]
        rw [step]
        exact ih.mpr rest

/-- What is at a row is where the row went. -/
theorem getElem?_rowAfter {α : Type} {items : List α} {row deleted : Nat} {item : α}
    (there : items[row]? = some item) {next : Nat}
    (moves : rowAfter (some row) deleted = some next) :
    (items.eraseIdx deleted)[next]? = some item := by
  rw [rowAfter, Option.bind_some] at moves
  split at moves
  · cases moves
  · split at moves
    · cases moves
      rw [List.getElem?_eraseIdx_of_ge (by omega), Nat.sub_add_cancel (by omega)]
      exact there
    · cases moves
      rw [List.getElem?_eraseIdx_of_lt (by omega)]
      exact there

/-- An edit of a row is open, and a condition is at a row of the list. -/
def Editing (app : App) (row : Nat) (place : Option Nat) (cond : PolicyCondition) : Prop :=
  ∀ builder ∈ app.builder?, builder.editIndex = some row ∧
    ∀ at_ ∈ place, builder.pending[at_]? = some cond

theorem builder?_of_screen {app : App} {builder : ConditionsBuilder}
    (screen : app.screen = .conditionsBuilder builder) : app.builder? = some builder := by
  rw [App.builder?, screen]

theorem builder?_pendingCloseModal {app : App} {builder : ConditionsBuilder}
    (screen : app.screen = pendingCloseModal builder) : app.builder? = none := by
  rw [App.builder?, screen]
  unfold pendingCloseModal
  cases builder.caller <;> rfl

/-- One key while an edit is open. -/
theorem editing_handle {app : App} {row : Nat} {place : Option Nat} {cond : PolicyCondition}
    (editing : Editing app row place cond) {key : KeyCode} (holds : Holds app key) :
    Editing (app.handleConditionsBuilder key) row
      ((app.builder?.bind fun builder => builder.deletion key).toList.foldl rowAfter place)
      cond := by
  cases screen : app.screen with
  | policyCreate form =>
      have same : app.handleConditionsBuilder key = app := by
        rw [App.handleConditionsBuilder, screen]
      have closed : app.builder? = none := by rw [App.builder?, screen]
      rw [same, closed]
      exact editing
  | policyEdit form id =>
      have same : app.handleConditionsBuilder key = app := by
        rw [App.handleConditionsBuilder, screen]
      have closed : app.builder? = none := by rw [App.builder?, screen]
      rw [same, closed]
      exact editing
  | conditionsBuilder builder =>
      have isOpen := builder?_of_screen screen
      rcases editing builder isOpen with ⟨editIndex, there⟩
      rcases holds builder isOpen with ⟨unopened, uncommitted⟩
      have outcome := App.outcome_handle screen key
      rw [isOpen, Option.bind_some]
      generalize next : (app.handleConditionsBuilder key).screen = after at outcome
      cases outcome with
      | quiet kept _ _ pending sameIndex _ =>
          rw [kept]
          intro other isOther
          rw [builder?_of_screen next] at isOther
          cases isOther
          rw [pending, sameIndex]
          exact ⟨editIndex, there⟩
      | @deleted deletedRow deletes =>
          rcases pendingDelete_eq (deletedRow_of_deletion deletes) with ⟨pending, sameIndex, _⟩
          rw [deletes]
          intro other isOther
          rw [builder?_of_screen next] at isOther
          cases isOther
          rw [pending, sameIndex]
          refine ⟨editIndex, fun at_ isAt => ?_⟩
          cases place with
          | none => cases isAt
          | some old => exact getElem?_rowAfter (there old rfl) isAt
      | opened _ opens => exact absurd (unopened.symm.trans opens) (by simp)
      | committed _ _ commits => exact absurd (uncommitted.symm.trans commits) (by simp)
      | closed =>
          intro other isOther
          rw [builder?_pendingCloseModal next] at isOther
          cases isOther

/-- Any number of keys while an edit is open. -/
theorem editing_pressKeys {app : App} {row : Nat} {place : Option Nat} {cond : PolicyCondition}
    (editing : Editing app row place cond) {keys : List KeyCode}
    (holds : Each App.handleConditionsBuilder Holds app keys) :
    Editing (app.pressKeys keys) row ((deletions app keys).foldl rowAfter place) cond := by
  induction keys generalizing app place with
  | nil => exact editing
  | cons key rest ih =>
      rw [each_cons] at holds
      rw [deletions, List.foldl_append]
      exact ih (editing_handle editing holds.1) holds.2

/-- The key that opens a row starts an edit of it. -/
theorem editing_opening {app : App} {builder : ConditionsBuilder}
    (screen : app.screen = .conditionsBuilder builder) {key : KeyCode} {row : Nat}
    {cond : PolicyCondition} (opens : builder.opening key = some row)
    (there : builder.pending[row]? = some cond) :
    Editing (app.handleConditionsBuilder key) row (some row) cond := by
  have outcome := App.outcome_handle screen key
  generalize next : (app.handleConditionsBuilder key).screen = after at outcome
  cases outcome with
  | quiet _ unopened => exact absurd (unopened.symm.trans opens) (by simp)
  | deleted _ unopened => exact absurd (unopened.symm.trans opens) (by simp)
  | committed _ unopened => exact absurd (unopened.symm.trans opens) (by simp)
  | closed _ unopened => exact absurd (unopened.symm.trans opens) (by simp)
  | opened =>
      rcases editedRow_of_opening opens with ⟨_, edited, _⟩
      rcases pendingEdit_eq edited with ⟨pending, editIndex, _⟩
      intro other isOther
      rw [builder?_of_screen next] at isOther
      cases isOther
      rw [pending, editIndex]
      refine ⟨rfl, fun at_ isAt => ?_⟩
      cases isAt
      exact there

/-- The list that a commit leaves while an edit is open. -/
theorem conditions_commit {app : App} {builder : ConditionsBuilder}
    (screen : app.screen = .conditionsBuilder builder) {key : KeyCode} {cond : PolicyCondition}
    (commits : builder.commit key = some cond) {row : Nat}
    (editIndex : builder.editIndex = some row) :
    (app.handleConditionsBuilder key).screen.conditions =
      if row < builder.pending.length then builder.pending.set row cond
      else builder.pending ++ [cond] := by
  have outcome := App.outcome_handle screen key
  generalize (app.handleConditionsBuilder key).screen = after at outcome
  cases outcome with
  | quiet _ _ uncommitted => exact absurd (uncommitted.symm.trans commits) (by simp)
  | deleted _ _ uncommitted => exact absurd (uncommitted.symm.trans commits) (by simp)
  | opened _ _ uncommitted => exact absurd (uncommitted.symm.trans commits) (by simp)
  | closed _ _ uncommitted => exact absurd (uncommitted.symm.trans commits) (by simp)
  | committed _ _ other =>
      cases commits.symm.trans other
      change (builder.committedPending cond).1 = _
      rw [ConditionsBuilder.committedPending, editIndex]
      dsimp only
      split <;> rfl

/-- Where the condition is that was opened at a row, after some more keys. -/
def openedPlace (app : App) (row : Nat) (keys : List KeyCode) : Option Nat :=
  (deletions app keys).foldl rowAfter (some row)

/-- A condition that is opened, edited through any keys and committed: the new condition goes to
the row that was opened, and the old one is still there exactly when only rows below it were
deleted in between. -/
theorem commit_replaces_opened_iff {app : App} {builder last : ConditionsBuilder}
    (screen : app.screen = .conditionsBuilder builder) {first : KeyCode} {row : Nat}
    (opens : builder.opening first = some row) {keys : List KeyCode}
    (holds : Each App.handleConditionsBuilder Holds (app.handleConditionsBuilder first) keys)
    (lastScreen : ((app.handleConditionsBuilder first).pressKeys keys).screen =
      .conditionsBuilder last)
    {confirm : KeyCode} {new : PolicyCondition} (commits : last.commit confirm = some new) :
    (∃ old, builder.pending[row]? = some old ∧
      ∀ place ∈ openedPlace (app.handleConditionsBuilder first) row keys,
        last.pending[place]? = some old) ∧
    (app.pressKeys (first :: keys ++ [confirm])).screen.conditions =
      (if row < last.pending.length then last.pending.set row new else last.pending ++ [new]) ∧
    (openedPlace (app.handleConditionsBuilder first) row keys = some row ↔
      ∀ deleted ∈ deletions (app.handleConditionsBuilder first) keys, row < deleted) := by
  rcases editedRow_of_opening opens with ⟨old, _, there⟩
  have editing := editing_pressKeys (editing_opening screen opens there) holds
  rcases editing last (builder?_of_screen lastScreen) with ⟨editIndex, atPlace⟩
  have run : app.pressKeys (first :: keys ++ [confirm]) =
      ((app.handleConditionsBuilder first).pressKeys keys).handleConditionsBuilder confirm := by
    rw [App.pressKeys, App.pressKeys, List.cons_append, List.foldl_cons, List.foldl_append]
    rfl
  refine ⟨⟨old, there, atPlace⟩, ?_, rowAfter_foldl_eq_some_iff row _⟩
  rw [run]
  exact conditions_commit lastScreen commits editIndex

/-- A builder over three conditions, the second one selected. -/
def threeRows : ConditionsBuilder :=
  { openConditions .policyCreate
      { emptyForm with conditions :=
          [.classification "eq" .T1, .classification "eq" .T2, .classification "eq" .T3] } with
    pendingFocused := true
    pendingState := some 1 }

/-- The row above the opened one is deleted, and the picks are confirmed as they are. -/
def shiftingKeys : List KeyCode :=
  [.tab, .up, .char 'd', .tab, .enter, .enter]

/-- The builder in front of the last key. -/
def shifted : ConditionsBuilder :=
  { threeRows with
    step := 3
    selectedAttribute := some .classification
    selectedOperator := some "eq"
    pending := [.classification "eq" .T2, .classification "eq" .T3]
    pendingFocused := false
    pendingState := some 0
    pickerState := some 1
    editIndex := some 1 }

theorem commit_replaces_opened_iff_shifted :
    ((⟨.conditionsBuilder threeRows, none⟩ : App).pressKeys
        (.char 'e' :: shiftingKeys ++ [.enter])).screen.conditions =
      [.classification "eq" .T2, .classification "eq" .T2] := by
  have opens : threeRows.opening (.char 'e') = some 1 := by decide +kernel
  have screen : ((⟨.conditionsBuilder threeRows, none⟩ : App).handleConditionsBuilder
      (.char 'e')).screen = .conditionsBuilder threeRows.pendingEdit := by
    decide +kernel
  have holds : Each App.handleConditionsBuilder Holds
      ((⟨.conditionsBuilder threeRows, none⟩ : App).handleConditionsBuilder (.char 'e'))
      shiftingKeys := by
    simp only [shiftingKeys, each_cons, each_nil, and_true]
    decide +kernel
  have last : ((((⟨.conditionsBuilder threeRows, none⟩ : App).handleConditionsBuilder
      (.char 'e'))).pressKeys shiftingKeys).screen = .conditionsBuilder shifted := by
    decide +kernel
  have commits : shifted.commit .enter = some (.classification "eq" .T2) := by
    decide +kernel
  exact (commit_replaces_opened_iff rfl opens holds last commits).2.1

end DlpSystem.Admin
