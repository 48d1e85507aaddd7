import DlpSystem.Lib.JsonTree
import Mathlib.Data.List.Nodup

/-!
# Codecs between values and JSON trees

A codec writes a value as a tree and reads it back.  A record codec is a table of fields,
each with a name, a slot that says how the field is written, read, and filled in when it is
missing, and the projection of the record.  If the names are distinct, a record is read back
as it was written.
-/

namespace DlpSystem.Lib

variable {α β ρ κ : Type}

/-! ## Values -/

/-- A type whose values are read back from the trees they are written as. -/
structure JsonCodec (α : Type) where
  encode : α → Json
  decode : Json → Option α
  decode_encode : ∀ value, decode (encode value) = some value
  encode_ne_null : ∀ value, encode value ≠ .null

namespace JsonCodec

def ofString : JsonCodec String where
  encode := .string
  decode := Json.asString
  decode_encode _ := rfl
  encode_ne_null _ := Json.noConfusion

def ofBool : JsonCodec Bool where
  encode := .bool
  decode
    | .bool value => some value
    | _ => none
  decode_encode _ := rfl
  encode_ne_null _ := Json.noConfusion

/-- A machine integer, which is read from a number below the size of its type. -/
def ofUInt (size : Nat) (toNat : α → Nat) (ofNat : Nat → α)
    (toNat_lt : ∀ value, toNat value < size) (ofNat_toNat : ∀ value, ofNat (toNat value) = value) :
    JsonCodec α where
  encode value := .number (toNat value)
  decode
    | .number number =>
        if 0 ≤ number ∧ number.toNat < size then some (ofNat number.toNat) else none
    | _ => none
  decode_encode value := by
    have inside : (0 : Int) ≤ toNat value ∧ toNat value < size :=
      ⟨Int.natCast_nonneg _, toNat_lt value⟩
    simp only [Int.toNat_natCast, if_pos inside, ofNat_toNat]
  encode_ne_null _ := Json.noConfusion

def ofUInt32 : JsonCodec UInt32 :=
  ofUInt UInt32.size UInt32.toNat UInt32.ofNat UInt32.toNat_lt_size fun _ => UInt32.ofNat_toNat

def ofUInt64 : JsonCodec UInt64 :=
  ofUInt UInt64.size UInt64.toNat UInt64.ofNat UInt64.toNat_lt_size fun _ => UInt64.ofNat_toNat

/-- Values that are read from a text they are written as. -/
def ofText (write : α → String) (read : String → Option α)
    (read_write : ∀ value, read (write value) = some value) : JsonCodec α where
  encode value := .string (write value)
  decode
    | .string text => read text
    | _ => none
  decode_encode := read_write
  encode_ne_null _ := Json.noConfusion

/-- The variant with a name. -/
def variantOf (variants : List α) (name : α → String) (text : String) : Option α :=
  variants.find? fun variant => name variant = text

/-- Variants with different names are told by them. -/
theorem variantOf_name {variants : List α} {name : α → String}
    (distinct : (variants.map name).Nodup) {variant : α} (listed : variant ∈ variants) :
    variantOf variants name (name variant) = some variant := by
  rw [variantOf]
  cases found : variants.find? fun other => name other = name variant with
  | none =>
      have different := List.find?_eq_none.mp found variant listed
      exact absurd (decide_eq_true rfl) different
  | some other =>
      have same : name other = name variant := by simpa using List.find?_some found
      rw [List.inj_on_of_nodup_map distinct (List.mem_of_find?_eq_some found) listed same]

/-- An enumeration, by the names of its variants. -/
def ofVariants (variants : List α) (name : α → String) (all : ∀ variant, variant ∈ variants)
    (distinct : (variants.map name).Nodup) : JsonCodec α :=
  ofText name (variantOf variants name) fun variant => variantOf_name distinct (all variant)

/-- A character, as a text of length one. -/
def ofChar : JsonCodec Char :=
  ofText (fun char => String.ofList [char])
    (fun text =>
      match text.toList with
      | [char] => some char
      | _ => none)
    (by simp)

/-- A list. -/
def ofList (codec : JsonCodec α) : JsonCodec (List α) where
  encode values := .array (values.map codec.encode)
  decode
    | .array items => items.mapM codec.decode
    | _ => none
  decode_encode values := by
    dsimp only
    induction values with
    | nil => rfl
    | cons value rest ih =>
        rw [List.map_cons, List.mapM_cons, codec.decode_encode, ih]
        rfl
  encode_ne_null _ := Json.noConfusion

/-- A value that may be `null`. -/
def decodeOption (codec : JsonCodec α) : Json → Option (Option α)
  | .null => some none
  | tree => (codec.decode tree).map some

theorem decodeOption_encode (codec : JsonCodec α) (value : α) :
    codec.decodeOption (codec.encode value) = some (some value) := by
  have decoded := codec.decode_encode value
  cases tree : codec.encode value with
  | null => exact absurd tree (codec.encode_ne_null value)
  | _ =>
      rw [tree] at decoded
      simp [decodeOption, decoded]

end JsonCodec

/-! ## Fields -/

/-- How a field is written, read, and filled in when it is missing.  `write` gives `none` for
a field that is left out. -/
structure FieldSlot (α : Type) where
  write : α → Option Json
  read : Json → Option α
  missing : Option α
  read_of_write : ∀ value tree, write value = some tree → read tree = some value
  missing_of_write : ∀ value, write value = none → missing = some value

namespace FieldSlot

/-- A field that has to be there. -/
def required (codec : JsonCodec α) : FieldSlot α where
  write value := some (codec.encode value)
  read := codec.decode
  missing := none
  read_of_write := by
    rintro value _ ⟨⟩
    exact codec.decode_encode value
  missing_of_write := nofun

/-- `#[serde(default)]`. -/
def defaulted (codec : JsonCodec α) (default : α) : FieldSlot α where
  write value := some (codec.encode value)
  read := codec.decode
  missing := some default
  read_of_write := by
    rintro value _ ⟨⟩
    exact codec.decode_encode value
  missing_of_write := nofun

/-- An `Option` that is written as `null` without a value. -/
def nullable (codec : JsonCodec α) : FieldSlot (Option α) where
  write
    | none => some .null
    | some value => some (codec.encode value)
  read := codec.decodeOption
  missing := some none
  read_of_write := by
    rintro (_ | value) _ ⟨⟩
    · rfl
    · exact codec.decodeOption_encode value
  missing_of_write := by
    rintro (_ | value) absent
    · rfl
    · cases absent

/-- `#[serde(skip_serializing_if = "Option::is_none")]`. -/
def skipped (codec : JsonCodec α) : FieldSlot (Option α) where
  write
    | none => none
    | some value => some (codec.encode value)
  read := codec.decodeOption
  missing := some none
  read_of_write := by
    rintro (_ | value) _ ⟨⟩
    exact codec.decodeOption_encode value
  missing_of_write := by
    rintro (_ | value) absent
    · rfl
    · cases absent

/-- The value of a field, from the trees under its name.  A field that is there twice is an
error. -/
def readFrom (slot : FieldSlot α) : List Json → Option α
  | [] => slot.missing
  | [tree] => slot.read tree
  | _ => none

theorem readFrom_write (slot : FieldSlot α) (value : α) :
    slot.readFrom (slot.write value).toList = some value := by
  cases written : slot.write value with
  | none => exact slot.missing_of_write value written
  | some tree => exact slot.read_of_write value tree written

end FieldSlot

/-! ## Records -/

/-- A table of fields of the record `ρ`, applied to a constructor: `κ` is the type that is
left of the constructor after these fields. -/
structure RecordFields (ρ κ : Type) where
  names : List String
  write : ρ → List (String × Json)
  read : List (String × Json) → Option κ
  /-- The constructor applied to the fields of a record. -/
  build : ρ → κ
  named : ∀ record, ∀ field ∈ write record, field.1 ∈ names
  read_of_values : names.Nodup → ∀ record fields,
    (∀ name ∈ names, Json.valuesOf name fields = Json.valuesOf name (write record)) →
      read fields = some (build record)

namespace RecordFields

/-- A constructor, before its fields. -/
def start (make : κ) : RecordFields ρ κ where
  names := []
  write _ := []
  read _ := some make
  build _ := make
  named _ _ := nofun
  read_of_values _ _ _ _ := rfl

/-- What a slot writes under its name. -/
def slotFields (name : String) (written : Option Json) : List (String × Json) :=
  written.toList.map fun tree => (name, tree)

theorem valuesOf_slotFields (name : String) (written : Option Json) :
    Json.valuesOf name (slotFields name written) = written.toList := by
  cases written <;> simp [slotFields, Json.valuesOf]

theorem valuesOf_slotFields_of_ne {name other : String} (different : name ≠ other)
    (written : Option Json) : Json.valuesOf other (slotFields name written) = [] := by
  cases written <;> simp [slotFields, Json.valuesOf, different]

/-- The table with one more field. -/
def field (table : RecordFields ρ (α → κ)) (name : String) (slot : FieldSlot α)
    (project : ρ → α) : RecordFields ρ κ where
  names := table.names ++ [name]
  write record := table.write record ++ slotFields name (slot.write (project record))
  read fields := do
    let build ← table.read fields
    let value ← slot.readFrom (Json.valuesOf name fields)
    return build value
  build record := table.build record (project record)
  named record field member := by
    rcases List.mem_append.mp member with front | own
    · exact List.mem_append_left _ (table.named record field front)
    · obtain ⟨tree, -, rfl⟩ := List.mem_map.mp own
      exact List.mem_append_right _ (List.mem_singleton_self name)
  read_of_values distinct record fields same := by
    obtain ⟨distinctFront, -, apart⟩ := List.nodup_append.mp distinct
    have fresh : name ∉ table.names := fun member =>
      apart name member name (List.mem_singleton_self name) rfl
    -- The other fields are read from the trees that the table before has written.
    have front : table.read fields = some (table.build record) := by
      apply table.read_of_values distinctFront
      intro other member
      have different : name ≠ other := by
        rintro rfl
        exact fresh member
      rw [same other (List.mem_append_left _ member), Json.valuesOf_append,
        valuesOf_slotFields_of_ne different, List.append_nil]
    have absent : Json.valuesOf name (table.write record) = [] := by
      apply Json.valuesOf_eq_nil
      rintro field member rfl
      exact fresh (table.named record field member)
    have own : slot.readFrom (Json.valuesOf name fields) = some (project record) := by
      rw [same name (List.mem_append_right _ (List.mem_singleton_self name)),
        Json.valuesOf_append, absent, valuesOf_slotFields, List.nil_append]
      exact slot.readFrom_write (project record)
    rw [front, own]
    rfl

@[simp]
theorem names_start (make : κ) : (start make : RecordFields ρ κ).names = [] :=
  rfl

@[simp]
theorem names_field (table : RecordFields ρ (α → κ)) (name : String) (slot : FieldSlot α)
    (project : ρ → α) : (table.field name slot project).names = table.names ++ [name] :=
  rfl

theorem write_field (table : RecordFields ρ (α → κ)) (name : String) (slot : FieldSlot α)
    (project : ρ → α) (record : ρ) :
    (table.field name slot project).write record =
      table.write record ++ slotFields name (slot.write (project record)) :=
  rfl

/-- A record is read back as it was written. -/
theorem read_write (table : RecordFields ρ ρ) (distinct : table.names.Nodup)
    (builds : ∀ record, table.build record = record) (record : ρ) :
    table.read (table.write record) = some record := by
  rw [table.read_of_values distinct record _ fun _ _ => rfl, builds]

/-- The codec of a record. -/
def codec (table : RecordFields ρ ρ) (distinct : table.names.Nodup)
    (builds : ∀ record, table.build record = record) : JsonCodec ρ where
  encode record := .object (table.write record)
  decode
    | .object fields => table.read fields
    | _ => none
  decode_encode := table.read_write distinct builds
  encode_ne_null _ := Json.noConfusion

end RecordFields

end DlpSystem.Lib
