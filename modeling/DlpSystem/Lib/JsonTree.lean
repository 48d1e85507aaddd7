import DlpSystem.Lib.StableSort
import Mathlib.Data.List.Basic
import Mathlib.Data.String.Basic

/-!
# JSON trees and the records read from them

A reader of a record takes an object and asks for fields by name.  A field that is
there twice is an error, and so is a required field that is missing; fields it does not
ask for are ignored.
-/

namespace DlpSystem.Lib

/-- A JSON value. -/
inductive Json
  | null
  | bool (value : Bool)
  | number (value : Int)
  | string (text : String)
  | array (items : List Json)
  | object (fields : List (String × Json))

namespace Json

/-- The values under a name. -/
def valuesOf (name : String) (fields : List (String × Json)) : List Json :=
  (fields.filter fun field => field.1 = name).map Prod.snd

/-- A value as a string. -/
def asString : Json → Option String
  | .string text => some text
  | _ => none

/-- A value as a string that may be `null`. -/
def asOptionalString : Json → Option (Option String)
  | .null => some none
  | .string text => some (some text)
  | _ => none

/-- A field of type `String`. -/
def stringField (name : String) (fields : List (String × Json)) : Option String :=
  match valuesOf name fields with
  | [value] => value.asString
  | _ => none

/-- A field of type `Option<String>`, which may be missing. -/
def optionalStringField (name : String) (fields : List (String × Json)) :
    Option (Option String) :=
  match valuesOf name fields with
  | [] => some none
  | [value] => value.asOptionalString
  | _ => none

/-- A string or `null`. -/
def ofOptionalString : Option String → Json
  | none => .null
  | some text => .string text

/-- Fields that were written one after the other. -/
theorem valuesOf_append (name : String) (front back : List (String × Json)) :
    valuesOf name (front ++ back) = valuesOf name front ++ valuesOf name back := by
  simp [valuesOf]

/-- A name that no field has. -/
theorem valuesOf_eq_nil {name : String} {fields : List (String × Json)}
    (missing : ∀ field ∈ fields, field.1 ≠ name) : valuesOf name fields = [] := by
  rw [valuesOf, List.map_eq_nil_iff, List.filter_eq_nil_iff]
  intro field member
  simpa using missing field member

/-- A required field that is missing is an error. -/
theorem stringField_eq_none {name : String} {fields : List (String × Json)}
    (missing : ∀ field ∈ fields, field.1 ≠ name) : stringField name fields = none := by
  rw [stringField, valuesOf_eq_nil missing]

end Json

end DlpSystem.Lib

/-! ## JSON trees with sorted objects

A map that keeps its keys in order writes every object sorted by name.  Taking fields out
before or after the sort is the same.
-/

namespace DlpSystem.Lib.Json

mutual

/-- The tree with all its objects sorted by name. -/
def sorted : Json → Json
  | .array items => .array (sortedItems items)
  | .object fields => .object (sortAscending Prod.fst (sortedFields fields))
  | .null => .null
  | .bool value => .bool value
  | .number value => .number value
  | .string text => .string text

def sortedItems : List Json → List Json
  | [] => []
  | item :: rest => item.sorted :: sortedItems rest

/-- The fields in the order they have, with sorted values. -/
def sortedFields : List (String × Json) → List (String × Json)
  | [] => []
  | (name, value) :: rest => (name, value.sorted) :: sortedFields rest

end

/-- The fields of other names. -/
def without (names : List String) (fields : List (String × Json)) : List (String × Json) :=
  fields.filter fun field => field.1 ∉ names

variable {names : List String} {fields : List (String × Json)}

theorem without_append (front back : List (String × Json)) :
    without names (front ++ back) = without names front ++ without names back :=
  List.filter_append ..

theorem without_sortAscending :
    without names (sortAscending Prod.fst fields) =
      sortAscending Prod.fst (without names fields) := by
  rw [without, without, ← List.filterMap_eq_filter]
  apply filterMap_sortAscending
  intro field kept keeps
  rw [(Option.guard_eq_some_iff.mp keeps).1]

theorem without_sortedFields :
    without names (sortedFields fields) = sortedFields (without names fields) := by
  induction fields with
  | nil => rfl
  | cons field rest ih =>
      obtain ⟨name, value⟩ := field
      rw [without] at ih ⊢
      rw [without] at ih ⊢
      by_cases dropped : name ∈ names
      · rw [sortedFields, List.filter_cons_of_neg (by simpa using dropped),
          List.filter_cons_of_neg (by simpa using dropped), ih]
      · rw [sortedFields, List.filter_cons_of_pos (by simpa using dropped),
          List.filter_cons_of_pos (by simpa using dropped), ih, sortedFields]

end DlpSystem.Lib.Json
