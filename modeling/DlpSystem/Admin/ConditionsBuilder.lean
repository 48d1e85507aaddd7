import DlpSystem.Server.LabelApi
import DlpSystem.Server.PolicyStore

/-!
# The conditions builder of the admin console

`Screen::ConditionsBuilder`: a list of pending conditions beside a picker that goes from an
attr over an operator to a value.  The handlers take the screen and one key to the next
screen; the modal closes into the form that it was opened from.
-/

namespace DlpSystem.Admin

open Abac

/-! ## Attributes, operators and values -/

/-- `ConditionAttribute`. -/
inductive ConditionAttribute
  | classification
  | memberOf
  | deviceTrust
  | networkLocation
  | accessContext
  | sourceApplication
  | destinationApplication
  | sourceOrigin
  | destinationOrigin
  | sourceVolumeClass
  | destinationVolumeClass
  deriving DecidableEq

/-- `ATTRIBUTES`. -/
def attributes : List ConditionAttribute :=
  [.classification, .memberOf, .deviceTrust, .networkLocation, .accessContext,
    .sourceApplication, .destinationApplication, .sourceOrigin, .destinationOrigin,
    .sourceVolumeClass, .destinationVolumeClass]

/-- The attributes that ask for a field of an application first. -/
def ConditionAttribute.isAppIdentity : ConditionAttribute → Bool
  | .sourceApplication => true
  | .destinationApplication => true
  | _ => false

/-- `operators_for`: the operators on the wire, each with its enforcement flag. -/
def operatorsFor (attr : ConditionAttribute) (field : Option AppField) :
    List (String × Bool) :=
  match attr with
  | .classification => [("eq", true), ("neq", true), ("gt", true), ("lt", true)]
  | .memberOf => [("eq", true), ("neq", true), ("contains", true)]
  | .deviceTrust => [("eq", true), ("neq", true)]
  | .networkLocation => [("eq", true), ("neq", true)]
  | .accessContext => [("eq", true), ("neq", true)]
  | .sourceApplication | .destinationApplication =>
      match field with
      | some .publisher | some .imagePath | some .aumid | some .packageFamilyName =>
          [("eq", true), ("ne", true), ("contains", true)]
      | some .trustTier | none => [("eq", true), ("ne", true)]
  | .sourceOrigin | .destinationOrigin => [("eq", true), ("ne", true), ("contains", true)]
  | .sourceVolumeClass | .destinationVolumeClass => [("eq", true), ("ne", true), ("in", true)]

/-- `value_count_for`. -/
def valueCountFor (attr : ConditionAttribute) (field : Option AppField) : Nat :=
  match attr with
  | .classification => 4
  | .memberOf => 0
  | .deviceTrust => 4
  | .networkLocation => 4
  | .accessContext => 2
  | .sourceApplication | .destinationApplication =>
      match field with
      | some .trustTier => 3
      | _ => 0
  | .sourceOrigin | .destinationOrigin => 0
  | .sourceVolumeClass | .destinationVolumeClass => 6

/-! ## From picks to a condition -/

/-- `str::trim`, on a whole text. -/
def trimmed (buffer : String) : String :=
  String.ofList (Server.trim buffer.toList)

/-- `build_classification_condition`. -/
def buildClassificationCondition (op : String) (pickerSelected : Nat) : Option PolicyCondition :=
  match pickerSelected with
  | 0 => some (.classification op .T1)
  | 1 => some (.classification op .T2)
  | 2 => some (.classification op .T3)
  | 3 => some (.classification op .T4)
  | _ => none

/-- `build_device_trust_condition`. -/
def buildDeviceTrustCondition (op : String) (pickerSelected : Nat) : Option PolicyCondition :=
  match pickerSelected with
  | 0 => some (.deviceTrust op .managed)
  | 1 => some (.deviceTrust op .unmanaged)
  | 2 => some (.deviceTrust op .compliant)
  | 3 => some (.deviceTrust op .unknown)
  | _ => none

/-- `build_network_location_condition`. -/
def buildNetworkLocationCondition (op : String) (pickerSelected : Nat) : Option PolicyCondition :=
  match pickerSelected with
  | 0 => some (.networkLocation op .corporate)
  | 1 => some (.networkLocation op .corporateVpn)
  | 2 => some (.networkLocation op .guest)
  | 3 => some (.networkLocation op .unknown)
  | _ => none

/-- `build_access_context_condition`. -/
def buildAccessContextCondition (op : String) (pickerSelected : Nat) : Option PolicyCondition :=
  match pickerSelected with
  | 0 => some (.accessContext op .localAccess)
  | 1 => some (.accessContext op .smb)
  | _ => none

/-- `build_app_value`. -/
def buildAppValue (field : AppField) (pickerSelected : Nat) (buffer : String) : Option String :=
  match field with
  | .trustTier =>
      match pickerSelected with
      | 0 => some "trusted"
      | 1 => some "untrusted"
      | _ => some "unknown"
  | .publisher | .imagePath | .aumid | .packageFamilyName =>
      if trimmed buffer = "" then none else some (trimmed buffer)

/-- `build_app_condition`. -/
def buildAppCondition (attr : ConditionAttribute) (op : String) (pickerSelected : Nat)
    (buffer : String) (field : Option AppField) : Option PolicyCondition :=
  match field with
  | none => none
  | some field =>
      match buildAppValue field pickerSelected buffer with
      | none => none
      | some value =>
          match attr with
          | .sourceApplication => some (.sourceApplication field op value)
          | .destinationApplication => some (.destinationApplication field op value)
          | _ => none

/-- `build_origin_condition`. -/
def buildOriginCondition (attr : ConditionAttribute) (op buffer : String) :
    Option PolicyCondition :=
  if trimmed buffer = "" then none
  else
    match attr with
    | .sourceOrigin => some (.sourceOrigin op (trimmed buffer))
    | .destinationOrigin => some (.destinationOrigin op (trimmed buffer))
    | _ => none

/-- The volume class at a row of the picker. -/
def volumeClassAt : Nat → Option VolumeClass
  | 0 => some .localNtfs
  | 1 => some .usbRemovable
  | 2 => some .sdCard
  | 3 => some .optical
  | 4 => some .virtual
  | 5 => some .networkShare
  | _ => none

/-- `build_volume_class_condition`. -/
def buildVolumeClassCondition (op : String) (pickerSelected : Nat) (isSource : Bool) :
    Option PolicyCondition :=
  (volumeClassAt pickerSelected).map fun value =>
    if isSource then .sourceVolumeClass op value else .destinationVolumeClass op value

/-- `build_condition`. -/
def buildCondition (attr : ConditionAttribute) (op : String) (pickerSelected : Nat)
    (buffer : String) (field : Option AppField) : Option PolicyCondition :=
  match attr with
  | .classification => buildClassificationCondition op pickerSelected
  | .memberOf => if trimmed buffer = "" then none else some (.memberOf op (trimmed buffer))
  | .deviceTrust => buildDeviceTrustCondition op pickerSelected
  | .networkLocation => buildNetworkLocationCondition op pickerSelected
  | .accessContext => buildAccessContextCondition op pickerSelected
  | .sourceApplication | .destinationApplication =>
      buildAppCondition attr op pickerSelected buffer field
  | .sourceOrigin | .destinationOrigin => buildOriginCondition attr op buffer
  | .sourceVolumeClass => buildVolumeClassCondition op pickerSelected true
  | .destinationVolumeClass => buildVolumeClassCondition op pickerSelected false

/-! ## From a condition back to picks -/

/-- `classification_to_idx`. -/
def classificationToIdx : Classification → Nat
  | .T1 => 0
  | .T2 => 1
  | .T3 => 2
  | .T4 => 3

/-- `device_trust_to_idx`. -/
def deviceTrustToIdx : DeviceTrust → Nat
  | .managed => 0
  | .unmanaged => 1
  | .compliant => 2
  | .unknown => 3

/-- `network_location_to_idx`. -/
def networkLocationToIdx : NetworkLocation → Nat
  | .corporate => 0
  | .corporateVpn => 1
  | .guest => 2
  | .unknown => 3

/-- `access_context_to_idx`. -/
def accessContextToIdx : AccessContext → Nat
  | .localAccess => 0
  | .smb => 1

/-- `volume_class_to_idx`. -/
def volumeClassToIdx : VolumeClass → Nat
  | .localNtfs => 0
  | .usbRemovable => 1
  | .sdCard => 2
  | .optical => 3
  | .virtual => 4
  | .networkShare => 5

/-- `trust_tier_to_idx`. -/
def trustTierToIdx : String → Nat
  | "trusted" => 0
  | "untrusted" => 1
  | _ => 2

/-- `app_field_to_prefill`. -/
def appFieldToPrefill (field : AppField) (value : String) : Nat × String :=
  match field with
  | .publisher | .imagePath | .aumid | .packageFamilyName => (0, value)
  | .trustTier => (trustTierToIdx value, "")

/-- A health status as `Debug` writes it. -/
def healthDebug : DeviceHealthStatus → String
  | .healthy => "Healthy"
  | .degraded => "Degraded"
  | .offline => "Offline"
  | .tampered => "Tampered"

/-- What the picker is filled with for an edit. -/
structure Prefill where
  attr : ConditionAttribute
  op : String
  pickerIdx : Nat
  buffer : String
  deriving DecidableEq

/-- `condition_to_prefill`. -/
def conditionToPrefill : PolicyCondition → Prefill
  | .classification op value => ⟨.classification, op, classificationToIdx value, ""⟩
  | .memberOf op groupSid => ⟨.memberOf, op, 0, groupSid⟩
  | .deviceTrust op value => ⟨.deviceTrust, op, deviceTrustToIdx value, ""⟩
  | .networkLocation op value => ⟨.networkLocation, op, networkLocationToIdx value, ""⟩
  | .accessContext op value => ⟨.accessContext, op, accessContextToIdx value, ""⟩
  | .sourceApplication field op value =>
      ⟨.sourceApplication, op, (appFieldToPrefill field value).1, (appFieldToPrefill field value).2⟩
  | .destinationApplication field op value =>
      ⟨.destinationApplication, op, (appFieldToPrefill field value).1,
        (appFieldToPrefill field value).2⟩
  | .sourceOrigin op value => ⟨.sourceOrigin, op, 0, value⟩
  | .destinationOrigin op value => ⟨.destinationOrigin, op, 0, value⟩
  | .sourceVolumeClass op value => ⟨.sourceVolumeClass, op, volumeClassToIdx value, ""⟩
  | .destinationVolumeClass op value => ⟨.destinationVolumeClass, op, volumeClassToIdx value, ""⟩
  | .deviceHealth op value => ⟨.deviceTrust, op, 0, healthDebug value⟩

/-- `app_field_from_condition`. -/
def appFieldFromCondition : PolicyCondition → Option AppField
  | .sourceApplication field _ _ => some field
  | .destinationApplication field _ _ => some field
  | _ => none

/-- `app_field_from_idx`. -/
def appFieldFromIdx : Nat → AppField
  | 0 => .publisher
  | 1 => .imagePath
  | 2 => .trustTier
  | 3 => .aumid
  | _ => .packageFamilyName

/-- The number of `APP_FIELD_LABELS`. -/
def appFieldCount : Nat := 5

/-! ## Screens -/

/-- The keys that the handlers tell apart. -/
inductive KeyCode
  | up
  | down
  | enter
  | esc
  | tab
  | backspace
  | delete
  | char (char : Char)
  | other
  deriving DecidableEq

/-- `CallerScreen`. -/
inductive CallerScreen
  | policyCreate
  | policyEdit
  deriving DecidableEq

/-- `PolicyFormState`. -/
structure PolicyFormState where
  name : String
  description : String
  priority : String
  action : Nat
  enabled : Bool
  conditions : List PolicyCondition
  id : String
  mode : PolicyMode
  enforcementMode : Nat
  deriving DecidableEq

/-- `Screen::ConditionsBuilder`; of a `ListState` the selected row is kept. -/
structure ConditionsBuilder where
  step : Nat
  selectedAttribute : Option ConditionAttribute
  selectedField : Option AppField
  selectedOperator : Option String
  pending : List PolicyCondition
  buffer : String
  pendingFocused : Bool
  pendingState : Option Nat
  pickerState : Option Nat
  caller : CallerScreen
  formSnapshot : PolicyFormState
  editIndex : Option Nat
  editPickerPrefill : Option Nat
  deriving DecidableEq

/-- The screens between which the builder moves. -/
inductive Screen
  | conditionsBuilder (builder : ConditionsBuilder)
  | policyCreate (form : PolicyFormState)
  | policyEdit (form : PolicyFormState) (id : String)
  deriving DecidableEq

/-- The conditions that a screen holds. -/
def Screen.conditions : Screen → List PolicyCondition
  | .conditionsBuilder builder => builder.pending
  | .policyCreate form => form.conditions
  | .policyEdit form _ => form.conditions

/-- `StatusKind`. -/
inductive StatusKind
  | info
  | success
  | error
  deriving DecidableEq

/-- What the handlers change of `App`. -/
structure App where
  screen : Screen
  status : Option (String × StatusKind)
  deriving DecidableEq

/-- The modal as `policy_create_open_conditions` and `policy_edit_open_conditions` open it. -/
def openConditions (caller : CallerScreen) (form : PolicyFormState) : ConditionsBuilder where
  step := 1
  selectedAttribute := none
  selectedField := none
  selectedOperator := none
  pending := form.conditions
  buffer := ""
  pendingFocused := false
  pendingState := none
  pickerState := some 0
  caller := caller
  formSnapshot := { form with conditions := [] }
  editIndex := none
  editPickerPrefill := none

/-- `pending_close_modal`. -/
def pendingCloseModal (builder : ConditionsBuilder) : Screen :=
  match builder.caller with
  | .policyCreate => .policyCreate { builder.formSnapshot with conditions := builder.pending }
  | .policyEdit =>
      .policyEdit { builder.formSnapshot with conditions := builder.pending }
        builder.formSnapshot.id

/-- The row that an arrow key selects among `count` rows. -/
def arrowRow (current count : Nat) : KeyCode → Nat
  | .up => if current = 0 then count - 1 else current - 1
  | .down => (current + 1) % count
  | _ => current

namespace ConditionsBuilder

/-- An arrow key in the picker. -/
def pickerNav (builder : ConditionsBuilder) (count : Nat) (key : KeyCode) : ConditionsBuilder :=
  { builder with pickerState := some (arrowRow (builder.pickerState.getD 0) count key) }

/-! ### The pending list -/

/-- `pending_nav`. -/
def pendingNav (builder : ConditionsBuilder) (key : KeyCode) : ConditionsBuilder :=
  if builder.pending.length = 0 then builder
  else
    { builder with
      pendingState :=
        some (arrowRow (builder.pendingState.getD 0) builder.pending.length key) }

/-- The row that `pending_delete` takes out. -/
def deletedRow (builder : ConditionsBuilder) : Option Nat :=
  builder.pendingState.filter fun row => row < builder.pending.length

/-- `pending_delete`. -/
def pendingDelete (builder : ConditionsBuilder) : ConditionsBuilder :=
  match builder.deletedRow with
  | none => builder
  | some row =>
      let pending := builder.pending.eraseIdx row
      { builder with
        pending := pending
        pendingState :=
          if pending = [] then none
          else if row ≥ pending.length then some (pending.length - 1)
          else some row }

/-- The row that `pending_edit` opens, with its condition. -/
def editedRow (builder : ConditionsBuilder) : Option (Nat × PolicyCondition) :=
  builder.pendingState.bind fun row => (builder.pending[row]?).map fun cond => (row, cond)

/-- `pending_edit`. -/
def pendingEdit (builder : ConditionsBuilder) : ConditionsBuilder :=
  match builder.editedRow with
  | none => builder
  | some (row, cond) =>
      let prefill := conditionToPrefill cond
      { builder with
        step := 1
        selectedAttribute := some prefill.attr
        selectedField := appFieldFromCondition cond
        selectedOperator := some prefill.op
        buffer := prefill.buffer
        editIndex := some row
        editPickerPrefill := some prefill.pickerIdx
        pendingFocused := false
        pickerState :=
          some (min (attributes.idxOf prefill.attr) (attributes.length - 1)) }

/-! ### Step 1: the attribute, and the field of an application -/

/-- The sub-step for a field is open. -/
def inSubStep (builder : ConditionsBuilder) : Bool :=
  (builder.selectedAttribute.any ConditionAttribute.isAppIdentity) && builder.selectedField.isNone

/-- `clear_stale_operator`. -/
def clearStaleOperator (selectedOperator : Option String) (attr : ConditionAttribute)
    (field : Option AppField) : Option String :=
  selectedOperator.filter fun op => (operatorsFor attr field).any fun offered => offered.1 = op

/-- `attribute_picker_advance`. -/
def attributePickerAdvance (builder : ConditionsBuilder) : ConditionsBuilder :=
  let attr := (attributes[builder.pickerState.getD 0]?).getD .classification
  if attr.isAppIdentity && builder.selectedField.isSome then
    { builder with
      selectedAttribute := some attr
      selectedOperator :=
        clearStaleOperator builder.selectedOperator attr builder.selectedField
      step := 2
      pickerState := some 0 }
  else if attr.isAppIdentity then
    { builder with
      selectedAttribute := some attr
      selectedOperator := none
      pickerState := some 0 }
  else
    { builder with
      selectedAttribute := some attr
      selectedOperator := clearStaleOperator builder.selectedOperator attr none
      step := 2
      pickerState := some 0 }

/-- `Enter` in the sub-step for a field. -/
def appFieldConfirm (builder : ConditionsBuilder) : ConditionsBuilder :=
  { builder with
    selectedField := some (appFieldFromIdx (builder.pickerState.getD 0))
    selectedOperator := none
    step := 2
    pickerState := some 0 }

/-- `Esc` in the sub-step for a field. -/
def appFieldBack (builder : ConditionsBuilder) : ConditionsBuilder :=
  { builder with
    selectedAttribute := none
    pickerState := some 0 }

/-! ### Step 2: the operator -/

/-- `selected_attribute_and_ops`. -/
def selectedAttributeAndOps (builder : ConditionsBuilder) (idx : Nat) : Option String :=
  builder.selectedAttribute.bind fun attr =>
    ((operatorsFor attr builder.selectedField)[idx]?).map Prod.fst

/-- `step2_advance`. -/
def step2Advance (builder : ConditionsBuilder) : ConditionsBuilder :=
  match builder.selectedAttributeAndOps (builder.pickerState.getD 0) with
  | none => builder
  | some op =>
      { builder with
        selectedOperator := some op
        step := 3
        buffer := ""
        editPickerPrefill := none
        pickerState := some (builder.editPickerPrefill.getD 0) }

/-- `step2_go_back`. -/
def step2GoBack (builder : ConditionsBuilder) : ConditionsBuilder :=
  if builder.selectedAttribute.any ConditionAttribute.isAppIdentity then
    { builder with
      step := 1
      selectedField := none
      selectedOperator := none
      pickerState := some 0 }
  else
    { builder with
      step := 1
      selectedAttribute := none
      selectedOperator := none
      pickerState := some 0 }

/-! ### Step 3: the value -/

/-- The values of an attribute that are typed. -/
def usesTextInput (attr : ConditionAttribute) (field : Option AppField) : Bool :=
  match attr, field with
  | .memberOf, _ => true
  | .sourceOrigin, _ => true
  | .destinationOrigin, _ => true
  | .sourceApplication, some .publisher | .destinationApplication, some .publisher => true
  | .sourceApplication, some .imagePath | .destinationApplication, some .imagePath => true
  | .sourceApplication, some .aumid | .destinationApplication, some .aumid => true
  | .sourceApplication, some .packageFamilyName
  | .destinationApplication, some .packageFamilyName => true
  | _, _ => false

/-- The pending list after a commit, and the row that it lands in. -/
def committedPending (builder : ConditionsBuilder) (cond : PolicyCondition) :
    List PolicyCondition × Nat :=
  match builder.editIndex with
  | some row =>
      if row < builder.pending.length then (builder.pending.set row cond, row)
      else (builder.pending ++ [cond], builder.pending.length)
  | none => (builder.pending ++ [cond], builder.pending.length)

/-- `step3_commit_condition`.  An edit index that is past the end stays. -/
def step3CommitCondition (builder : ConditionsBuilder) (cond : PolicyCondition) :
    ConditionsBuilder :=
  { builder with
    pending := (builder.committedPending cond).1
    pendingState := some (builder.committedPending cond).2
    editIndex := builder.editIndex.filter fun row => ¬row < builder.pending.length
    step := 1
    selectedAttribute := none
    selectedField := none
    selectedOperator := none
    buffer := ""
    pickerState := some 0 }

/-- `step3_go_back`. -/
def step3GoBack (builder : ConditionsBuilder) : ConditionsBuilder :=
  { builder with
    step := 2
    selectedOperator := none
    buffer := ""
    pickerState := some 0 }

end ConditionsBuilder

/-! ## Keys -/

namespace App

/-- The screen with another state of the builder. -/
def withBuilder (app : App) (builder : ConditionsBuilder) : App :=
  { app with screen := .conditionsBuilder builder }

/-- `handle_conditions_pending`. -/
def handleConditionsPending (app : App) (builder : ConditionsBuilder) : KeyCode → App
  | .up => app.withBuilder (builder.pendingNav .up)
  | .down => app.withBuilder (builder.pendingNav .down)
  | .char 'd' | .char 'D' | .delete => app.withBuilder builder.pendingDelete
  | .char 'e' | .char 'E' => app.withBuilder builder.pendingEdit
  | .esc => { app with screen := pendingCloseModal builder }
  | _ => app

/-- `handle_conditions_step1`: the sub-step for a field, or the attribute picker. -/
def handleConditionsStep1 (app : App) (builder : ConditionsBuilder) (key : KeyCode) : App :=
  if builder.inSubStep then
    match key with
    | .up | .down => app.withBuilder (builder.pickerNav appFieldCount key)
    | .enter => app.withBuilder builder.appFieldConfirm
    | .esc => app.withBuilder builder.appFieldBack
    | _ => app
  else
    match key with
    | .up | .down => app.withBuilder (builder.pickerNav attributes.length key)
    | .enter => app.withBuilder builder.attributePickerAdvance
    | .esc => { app with screen := pendingCloseModal builder }
    | _ => app

/-- `handle_conditions_step2`.  No attribute is without operators. -/
def handleConditionsStep2 (app : App) (builder : ConditionsBuilder) (key : KeyCode) : App :=
  match builder.selectedAttribute with
  | none => app
  | some attr =>
      match key with
      | .up | .down =>
          app.withBuilder
            (builder.pickerNav (operatorsFor attr builder.selectedField).length key)
      | .enter => app.withBuilder builder.step2Advance
      | .esc => app.withBuilder builder.step2GoBack
      | _ => app

/-- `handle_conditions_step3_text`. -/
def handleConditionsStep3Text (app : App) (builder : ConditionsBuilder)
    (attr : ConditionAttribute) (op : String) : KeyCode → App
  | .char char => app.withBuilder { builder with buffer := builder.buffer.push char }
  | .backspace =>
      app.withBuilder
        { builder with buffer := String.ofList builder.buffer.toList.dropLast }
  | .enter =>
      match buildCondition attr op 0 builder.buffer builder.selectedField with
      | some cond => app.withBuilder (builder.step3CommitCondition cond)
      | none => { app with status := some ("Value cannot be empty", .error) }
  | .esc => app.withBuilder builder.step3GoBack
  | _ => app

/-- `handle_conditions_step3_select`. -/
def handleConditionsStep3Select (app : App) (builder : ConditionsBuilder)
    (attr : ConditionAttribute) (op : String) (key : KeyCode) : App :=
  match key with
  | .up | .down =>
      if valueCountFor attr builder.selectedField = 0 then app
      else
        app.withBuilder (builder.pickerNav (valueCountFor attr builder.selectedField) key)
  | .enter =>
      match buildCondition attr op (builder.pickerState.getD 0) "" builder.selectedField with
      | some cond => app.withBuilder (builder.step3CommitCondition cond)
      | none => app
  | .esc => app.withBuilder builder.step3GoBack
  | _ => app

/-- `handle_conditions_step3`. -/
def handleConditionsStep3 (app : App) (builder : ConditionsBuilder) (key : KeyCode) : App :=
  match builder.selectedAttribute, builder.selectedOperator with
  | some attr, some op =>
      if ConditionsBuilder.usesTextInput attr builder.selectedField then
        app.handleConditionsStep3Text builder attr op key
      else app.handleConditionsStep3Select builder attr op key
  | _, _ => app

/-- `handle_conditions_builder`, which leaves other screens alone. -/
def handleConditionsBuilder (app : App) (key : KeyCode) : App :=
  match app.screen with
  | .conditionsBuilder builder =>
      if key = .tab then
        app.withBuilder { builder with pendingFocused := !builder.pendingFocused }
      else if builder.pendingFocused then app.handleConditionsPending builder key
      else
        match builder.step with
        | 1 => app.handleConditionsStep1 builder key
        | 2 => app.handleConditionsStep2 builder key
        | 3 => app.handleConditionsStep3 builder key
        | _ => app
  | _ => app

/-- The keys of a session, one after the other. -/
def pressKeys (app : App) (keys : List KeyCode) : App :=
  keys.foldl handleConditionsBuilder app

end App

end DlpSystem.Admin
