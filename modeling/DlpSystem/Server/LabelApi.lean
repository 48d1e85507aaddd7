import DlpSystem.Server.AdminApi

/-!
# Labels in the admin API

`create_label`, and the two steps of the handlers that change a label: the row is read
and checked on one connection, and `with_mutation` then changes it in a transaction of
its own together with its audit event.  The score of the scanner, a number that no
handler reads, is left out.
-/

namespace DlpSystem.Server

open Abac

/-! ## Labels -/

/-- The states of a label. -/
inductive LabelState
  | temporary
  | confirmed
  | rejected
  | expired
  deriving DecidableEq

/-- `LabelRow` of the repository, with the columns that resolution does not read. -/
structure LabelRecord extends LabelRow where
  labelState : LabelState
  ownerSid : Option String
  parentLabelId : Option String
  aclSnapshotId : Option String
  hash : Option String
  department : Option String
  createdAt : String
  updatedAt : String
  deriving DecidableEq

/-- `LabelRequest`. -/
structure LabelRequest where
  path : String
  objectType : String
  tier : String
  labelState : String
  ownerSid : Option String
  parentLabelId : Option String
  aclSnapshotId : Option String
  hash : Option String
  department : Option String
  deriving DecidableEq

/-- `LabelRepository::get_by_id`. -/
def getLabel (records : List LabelRecord) (id : String) : Option LabelRecord :=
  records.find? fun record => record.id = id

/-! ## Validation -/

/-- The characters that `str::trim` removes. -/
def isTrimmed (char : Char) : Bool :=
  let code := char.toNat
  (9 ≤ code && code ≤ 13) || code = 32 || code = 0x85 || code = 0xA0 || code = 0x1680 ||
    (0x2000 ≤ code && code ≤ 0x200A) || code = 0x2028 || code = 0x2029 || code = 0x202F ||
    code = 0x205F || code = 0x3000

/-- `str::trim`. -/
def trim (chars : List Char) : List Char :=
  ((chars.dropWhile isTrimmed).reverse.dropWhile isTrimmed).reverse

/-- A path separator. -/
def isPathSeparator (char : Char) : Bool :=
  char = '\\' || char = '/'

/-- The check that a path is absolute. -/
def isAbsolute (path : String) : Bool :=
  match trim path.toList with
  | '\\' :: '\\' :: _ => true
  | letter :: ':' :: separator :: _ => letter.isAlpha && isPathSeparator separator
  | _ => false

/-- The object type that a text stands for, in any case. -/
def objectTypeOfText (text : String) : Option ObjectType :=
  match asciiLowercase text with
  | "file" => some .file
  | "folder" => some .folder
  | "archive" => some .archive
  | _ => none

/-- The tier that a text stands for, in any case. -/
def tierOfText (text : String) : Option Tier :=
  match asciiLowercase text with
  | "t1" => some .T1
  | "t2" => some .T2
  | "t3" => some .T3
  | "t4" => some .T4
  | "unclassified-blocked" => some .unclassifiedBlocked
  | _ => none

/-- The label state that a text stands for, in any case. -/
def labelStateOfText (text : String) : Option LabelState :=
  match asciiLowercase text with
  | "temporary" => some .temporary
  | "confirmed" => some .confirmed
  | "rejected" => some .rejected
  | "expired" => some .expired
  | _ => none

/-- What `canonical_object_type`, `canonical_tier` and `canonical_label_state` make of a
request that is valid. -/
structure CanonicalLabel where
  objectType : ObjectType
  tier : Tier
  labelState : LabelState
  deriving DecidableEq

/-- The check of `parent_label_id`. -/
def validateParent (records : List LabelRecord) : Option String → Except AdminError Unit
  | none => .ok ()
  | some parentId =>
      match getLabel records parentId with
      | none => .error (.unprocessableEntity "parent_label_id must reference a folder label")
      | some parent =>
          if parent.objectType = .folder then .ok ()
          else .error (.unprocessableEntity "parent_label_id must reference a folder label")

/-- `validate_label_request`, with the canonical values of what it has checked. -/
def validateLabelRequest (records : List LabelRecord) (request : LabelRequest) :
    Except AdminError CanonicalLabel :=
  if isAbsolute request.path = false then
    .error (.unprocessableEntity "path must be absolute")
  else
    match objectTypeOfText request.objectType, tierOfText request.tier,
      labelStateOfText request.labelState with
    | none, _, _ =>
        .error (.unprocessableEntity ("invalid object_type '" ++ request.objectType ++
          "'; must be one of: file, folder, archive"))
    | some _, none, _ =>
        .error (.unprocessableEntity ("invalid tier '" ++ request.tier ++
          "'; must be one of: T1, T2, T3, T4, Unclassified-Blocked"))
    | some _, some _, none =>
        .error (.unprocessableEntity ("invalid label_state '" ++ request.labelState ++
          "'; must be one of: temporary, confirmed, rejected, expired"))
    | some objectType, some tier, some labelState => do
        validateParent records request.parentLabelId
        return ⟨objectType, tier, labelState⟩

/-! ## Paths -/

/-- A drive root such as `C:\`. -/
def isDriveRoot : List Char → Bool
  | [letter, ':', separator] => decide (letter.toNat < 128) && isPathSeparator separator
  | _ => false

/-- What `normalize_path` takes for a UNC root. -/
def isUncRoot (chars : List Char) : Bool :=
  ['\\', '\\'].isPrefixOf chars && chars.count '\\' == 3

/-- `normalize_path`. -/
def normalizePath (path : String) : String :=
  if isDriveRoot path.toList || isUncRoot path.toList then path
  else String.ofList (path.toList.reverse.dropWhile isPathSeparator).reverse

/-! ## Creation -/

/-- The row of a request. -/
def LabelRequest.record (request : LabelRequest) (canonical : CanonicalLabel) (id : String)
    (department : Option String) (createdAt updatedAt : String) : LabelRecord where
  id := id
  path := normalizePath request.path
  objectType := canonical.objectType
  tier := canonical.tier
  labelState := canonical.labelState
  ownerSid := request.ownerSid
  parentLabelId := request.parentLabelId
  aclSnapshotId := request.aclSnapshotId
  hash := request.hash
  department := department
  createdAt := createdAt
  updatedAt := updatedAt

/-- `create_label`: the table and the answer.  The department is in the answer and not in
the row. -/
def createLabel (id now : String) (records : List LabelRecord) (request : LabelRequest) :
    Except AdminError (List LabelRecord × LabelRecord) := do
  let canonical ← validateLabelRequest records request
  if (getLabel records id).isSome then .error .database
  else
    return (records ++ [request.record canonical id none now now],
      request.record canonical id request.department now now)

/-! ## Changes -/

/-- A handler that changes a label. -/
inductive LabelChange
  | confirm
  | reject
  | expire
  | update (request : LabelRequest)
  | delete

/-- `confirm_label` and `reject_label`. -/
def LabelChange.isDecision : LabelChange → Bool
  | .confirm => true
  | .reject => true
  | _ => false

/-- Who calls a handler: the name and the SID of the token. -/
structure LabelCaller where
  username : String
  sid : Option String
  deriving DecidableEq

/-- `MutationContext`. -/
structure MutationContext where
  labelId : String
  action : String
  oldState : Option LabelState
  newState : Option LabelState
  path : String
  tier : Tier
  userName : String
  deriving DecidableEq

/-- Only the data owner or the administrator decides on a label. -/
def mayDecide (caller : LabelCaller) (original : LabelRecord) : Bool :=
  match caller.sid with
  | none => true
  | some sid => caller.username = "dlp-admin" || original.ownerSid = some sid

/-- The checks of `confirm_label` and `reject_label` on the row that was read. -/
def checkDecision (caller : LabelCaller) (original : LabelRecord) (verb : String) :
    Except AdminError Unit :=
  if mayDecide caller original = false then .error (.forbidden "not the data owner of this label")
  else if original.labelState = .temporary then .ok ()
  else .error (.unprocessableEntity ("only temporary labels can be " ++ verb))

/-- What a transaction does to a label. -/
inductive LabelMutation
  /-- `update_state`. -/
  | setState (state : LabelState)
  /-- `update`. -/
  | write (row : LabelRecord)
  /-- `delete`. -/
  | remove
  deriving DecidableEq

/-- What a handler takes into its transaction. -/
structure PreparedChange where
  context : MutationContext
  mutation : LabelMutation
  deriving DecidableEq

/-- The row that a handler reads. -/
def readOriginal (records : List LabelRecord) (id : String) : Except AdminError LabelRecord :=
  match getLabel records id with
  | some original => .ok original
  | none => .error (.notFound ("label " ++ id ++ " not found"))

/-- The audit context of a change to the row that was read. -/
def contextOf (original : LabelRecord) (id : String) (caller : LabelCaller) (action : String)
    (newState : Option LabelState) : MutationContext :=
  ⟨id, action, some original.labelState, newState, original.path, original.tier, caller.username⟩

/-- The steps of a handler before its transaction. -/
def prepareChange (records : List LabelRecord) (id now : String) (caller : LabelCaller) :
    LabelChange → Except AdminError PreparedChange
  | .confirm => do
      let original ← readOriginal records id
      checkDecision caller original "confirmed"
      return ⟨contextOf original id caller "label_confirm" (some .confirmed),
        .setState .confirmed⟩
  | .reject => do
      let original ← readOriginal records id
      checkDecision caller original "rejected"
      return ⟨contextOf original id caller "label_reject" (some .rejected), .setState .rejected⟩
  | .expire => do
      let original ← readOriginal records id
      return ⟨contextOf original id caller "label_expire" (some .expired), .setState .expired⟩
  | .update request => do
      let canonical ← validateLabelRequest records request
      let original ← readOriginal records id
      let row := request.record canonical id request.department original.createdAt now
      return ⟨⟨id, "label_update", some original.labelState, some row.labelState, row.path,
        row.tier, caller.username⟩, .write row⟩
  | .delete => do
      let original ← readOriginal records id
      return ⟨contextOf original id caller "label_delete" none, .remove⟩

/-- `LabelRepository::update_state`. -/
def updateState (records : List LabelRecord) (id : String) (state : LabelState) (now : String) :
    List LabelRecord :=
  records.map fun record =>
    if record.id = id then { record with labelState := state, updatedAt := now } else record

/-- `LabelRepository::update`; `created_at` is not written. -/
def updateLabel (records : List LabelRecord) (id : String) (row : LabelRecord) :
    List LabelRecord :=
  records.map fun record =>
    if record.id = id then { row with id := record.id, createdAt := record.createdAt }
    else record

/-- `LabelRepository::delete`; labels that name it as their parent lose it. -/
def deleteLabel (records : List LabelRecord) (id : String) : List LabelRecord :=
  (records.filter fun record => record.id ≠ id).map fun record =>
    if record.parentLabelId = some id then { record with parentLabelId := none } else record

/-- The parent of a row is a label of the table, or it has none. -/
def parentExists (records : List LabelRecord) (row : LabelRecord) : Bool :=
  row.parentLabelId.all fun parentId => (getLabel records parentId).isSome

/-- The transaction of a handler: the table after it, and the context of its audit
event. -/
def commitChange (records : List LabelRecord) (now : String) (prepared : PreparedChange) :
    Except AdminError (List LabelRecord × MutationContext) :=
  let id := prepared.context.labelId
  if (getLabel records id).isNone then .error (.notFound ("label " ++ id ++ " not found"))
  else
    match prepared.mutation with
    | .setState state => .ok (updateState records id state now, prepared.context)
    | .write row =>
        if parentExists records row then .ok (updateLabel records id row, prepared.context)
        else .error .database
    | .remove => .ok (deleteLabel records id, prepared.context)

end DlpSystem.Server
