import DlpSystem.AuditWire.ChainHash

/-!
# JSON texts can be read back

A reader of compact JSON texts.  It gives back the tree of every text that was written, together
with what follows the text, so that texts may stand next to each other.  No such text has a
control character in it.
-/

namespace DlpSystem.AuditWire

open Lib Common

/-! ## The reader -/

/-- The digits at the start. -/
def readDigits (chars : List Char) : Option (Nat × List Char) :=
  if chars.takeWhile Char.isDigit = [] then none
  else some (Nat.ofDigitChars 10 (chars.takeWhile Char.isDigit) 0, chars.dropWhile Char.isDigit)

/-- The number at the start. -/
def readNumber : List Char → Option (Int × List Char)
  | '-' :: rest => (readDigits rest).map fun read => (-(read.1 : Int), read.2)
  | chars => (readDigits chars).map fun read => ((read.1 : Int), read.2)

/-- The inside of a string, up to the quote after it. -/
def readText : Nat → List Char → Option (List Char × List Char)
  | 0, _ => none
  | _ + 1, '"' :: rest => some ([], rest)
  | fuel + 1, chars =>
      (readJsonChar chars).bind fun first =>
        (readText fuel first.2).map fun read => (first.1 :: read.1, read.2)

/-- The name at the start of a field, up to the colon after it. -/
def readName (fuel : Nat) (chars : List Char) : Option (String × List Char) :=
  if chars.head? = some '"' then
    (readText fuel chars.tail).bind fun read =>
      if read.2.head? = some ':' then some (String.ofList read.1, read.2.tail) else none
  else none

mutual

/-- The value at the start.  The fuel bounds the length of its text. -/
def readValue : Nat → List Char → Option (Json × List Char)
  | 0, _ => none
  | _ + 1, 'n' :: 'u' :: 'l' :: 'l' :: rest => some (.null, rest)
  | _ + 1, 't' :: 'r' :: 'u' :: 'e' :: rest => some (.bool true, rest)
  | _ + 1, 'f' :: 'a' :: 'l' :: 's' :: 'e' :: rest => some (.bool false, rest)
  | fuel + 1, '"' :: rest =>
      (readText fuel rest).map fun read => (.string (String.ofList read.1), read.2)
  | _ + 1, '[' :: ']' :: rest => some (.array [], rest)
  | fuel + 1, '[' :: rest => (readItems fuel rest).map fun read => (.array read.1, read.2)
  | _ + 1, '\x7b' :: '\x7d' :: rest => some (.object [], rest)
  | fuel + 1, '\x7b' :: rest => (readFields fuel rest).map fun read => (.object read.1, read.2)
  | _ + 1, chars => (readNumber chars).map fun read => (.number read.1, read.2)

/-- The items up to the end of an array. -/
def readItems : Nat → List Char → Option (List Json × List Char)
  | 0, _ => none
  | fuel + 1, chars =>
      (readValue fuel chars).bind fun item =>
        if item.2.head? = some ']' then some ([item.1], item.2.tail)
        else if item.2.head? = some ',' then
          (readItems fuel item.2.tail).map fun read => (item.1 :: read.1, read.2)
        else none

/-- The fields up to the end of an object. -/
def readFields : Nat → List Char → Option (List (String × Json) × List Char)
  | 0, _ => none
  | fuel + 1, chars =>
      (readName fuel chars).bind fun name =>
        (readValue fuel name.2).bind fun value =>
          if value.2.head? = some '\x7d' then some ([(name.1, value.1)], value.2.tail)
          else if value.2.head? = some ',' then
            (readFields fuel value.2.tail).map fun read => ((name.1, value.1) :: read.1, read.2)
          else none

end

/-! ## Numbers -/

/-- A number ends where no digit follows. -/
def EndsNumber (rest : List Char) : Prop :=
  ∀ char ∈ rest.head?, char.isDigit = false

theorem takeWhile_digits {digits rest : List Char} (all : ∀ char ∈ digits, char.isDigit = true)
    (ends : EndsNumber rest) :
    (digits ++ rest).takeWhile Char.isDigit = digits ∧
      (digits ++ rest).dropWhile Char.isDigit = rest := by
  have stop : rest.takeWhile Char.isDigit = [] ∧ rest.dropWhile Char.isDigit = rest := by
    cases rest with
    | nil => exact ⟨rfl, rfl⟩
    | cons char rest =>
        have noDigit : char.isDigit = false := ends char rfl
        rw [List.takeWhile_cons, List.dropWhile_cons, noDigit]
        exact ⟨rfl, rfl⟩
  rw [List.takeWhile_append_of_pos all, List.dropWhile_append_of_pos all, stop.1, stop.2,
    List.append_nil]
  exact ⟨rfl, rfl⟩

theorem isDigit_toDigits (value : Nat) : ∀ char ∈ Nat.toDigits 10 value, char.isDigit = true :=
  fun _ member => Nat.isDigit_of_mem_toDigits (by decide) (by decide) member

theorem readDigits_toDigits (value : Nat) {rest : List Char} (ends : EndsNumber rest) :
    readDigits (Nat.toDigits 10 value ++ rest) = some (value, rest) := by
  have split := takeWhile_digits (isDigit_toDigits value) ends
  rw [readDigits, split.1, split.2, if_neg Nat.toDigits_ne_nil, Nat.ofDigitChars_ten_toDigits]

/-- The text of a number. -/
def numberChars (value : Int) : List Char :=
  (toString value).toList

theorem numberChars_of_nonneg (value : Nat) : numberChars value = Nat.toDigits 10 value := by
  rw [numberChars, Int.toString_eq_repr, Int.repr_eq_if, if_pos (Int.natCast_nonneg value),
    Int.toNat_natCast, Nat.toList_repr]

theorem numberChars_of_neg {value : Int} (negative : value < 0) :
    numberChars value = '-' :: Nat.toDigits 10 (-value).toNat := by
  rw [numberChars, Int.toString_eq_repr, Int.repr_eq_if, if_neg (by omega), String.toList_append,
    Nat.toList_repr]
  rfl

/-- A number starts with a sign or a digit. -/
theorem numberChars_eq_cons (value : Int) :
    ∃ head tail, numberChars value = head :: tail ∧ (head = '-' ∨ head.isDigit = true) := by
  rcases Int.lt_or_le value 0 with negative | nonneg
  · exact ⟨_, _, numberChars_of_neg negative, Or.inl rfl⟩
  · obtain ⟨nat, rfl⟩ := Int.eq_ofNat_of_zero_le nonneg
    rw [numberChars_of_nonneg]
    cases digits : Nat.toDigits 10 nat with
    | nil => exact absurd digits Nat.toDigits_ne_nil
    | cons head tail =>
        exact ⟨head, tail, rfl, Or.inr (isDigit_toDigits nat head (by simp [digits]))⟩

/-- What is written for a number is read as the number. -/
theorem readNumber_numberChars (value : Int) {rest : List Char} (ends : EndsNumber rest) :
    readNumber (numberChars value ++ rest) = some (value, rest) := by
  rcases Int.lt_or_le value 0 with negative | nonneg
  · have magnitude : -((-value).toNat : Int) = value := by omega
    rw [numberChars_of_neg negative, List.cons_append, readNumber, readDigits_toDigits _ ends,
      Option.map_some, magnitude]
  · obtain ⟨nat, rfl⟩ := Int.eq_ofNat_of_zero_le nonneg
    rw [numberChars_of_nonneg, readNumber, readDigits_toDigits nat ends, Option.map_some]
    -- the digits do not start with a sign
    intro tail same
    cases digits : Nat.toDigits 10 nat with
    | nil => exact absurd digits Nat.toDigits_ne_nil
    | cons head rest =>
        have isDigit := isDigit_toDigits nat head (by simp [digits])
        rw [digits, List.cons_append] at same
        rw [(List.cons.inj same).1] at isDigit
        exact absurd isDigit (by decide)

/-! ## Strings -/

theorem readText_flatMap (text : List Char) (rest : List Char) {fuel : Nat}
    (enough : text.length < fuel) :
    readText fuel (text.flatMap jsonChar ++ '"' :: rest) = some (text, rest) := by
  induction text generalizing fuel with
  | nil =>
      obtain ⟨fuel, rfl⟩ := Nat.exists_eq_add_one_of_ne_zero (Nat.ne_of_gt enough)
      rfl
  | cons char text ih =>
      obtain ⟨fuel, rfl⟩ := Nat.exists_eq_add_one_of_ne_zero (Nat.ne_zero_of_lt enough)
      rw [List.flatMap_cons, List.append_assoc, readText, readJsonChar_jsonChar, Option.bind_some,
        ih (by simpa using enough), Option.map_some]
      exact fun tail same => jsonChar_ne_quote char _ tail same

theorem le_length_flatMap_jsonChar (text : List Char) :
    text.length ≤ (text.flatMap jsonChar).length := by
  induction text with
  | nil => exact Nat.le_refl _
  | cons char text ih =>
      have some_ : 0 < (jsonChar char).length := by
        rw [List.length_pos_iff]
        intro empty
        exact absurd (readJsonChar_jsonChar char []) (by simp [empty, readJsonChar])
      rw [List.flatMap_cons, List.length_append, List.length_cons]
      omega

/-- The name of a field, and what is between it and the value. -/
def nameChars (name : String) : List Char :=
  '"' :: (name.toList.flatMap jsonChar ++ ['"', ':'])

theorem readName_nameChars (name : String) (rest : List Char) {fuel : Nat}
    (enough : (nameChars name).length ≤ fuel) :
    readName fuel (nameChars name ++ rest) = some (name, rest) := by
  have bound := le_length_flatMap_jsonChar name.toList
  have length : (nameChars name).length = (name.toList.flatMap jsonChar).length + 3 := by
    simp [nameChars]
  have inside : (nameChars name ++ rest).tail =
      name.toList.flatMap jsonChar ++ '"' :: ':' :: rest := by
    simp [nameChars]
  have quote : (nameChars name ++ rest).head? = some '"' := rfl
  rw [readName, if_pos quote, inside, readText_flatMap _ _ (by omega), Option.bind_some]
  simp only [List.head?_cons, List.tail_cons, if_true, String.ofList_toList]

/-! ## The texts as characters -/

/-- The text of a tree. -/
@[irreducible]
def compactChars (tree : Json) : List Char :=
  (compactText tree).toList

/-- The items of an array, with commas between them. -/
@[irreducible]
def itemsChars (items : List Json) : List Char :=
  (",".intercalate (compactItems items)).toList

/-- The fields of an object, with commas between them. -/
@[irreducible]
def fieldsChars (fields : List (String × Json)) : List Char :=
  (",".intercalate (compactFields fields)).toList

example : compactChars (.array [.null, .object [("a", .bool true)]]) =
    "[null,\x7b\"a\":true\x7d]".toList := by
  simp [compactChars, compactText, compactItems, compactFields, jsonString, jsonChar]

theorem toList_jsonString (text : String) :
    (jsonString text).toList = '"' :: (text.toList.flatMap jsonChar ++ ['"']) := by
  simp [jsonString]

theorem compactChars_null : compactChars .null = ['n', 'u', 'l', 'l'] := by
  rw [compactChars, compactText]
  rfl

theorem compactChars_bool (value : Bool) :
    compactChars (.bool value) =
      if value then ['t', 'r', 'u', 'e'] else ['f', 'a', 'l', 's', 'e'] := by
  rw [compactChars, compactText]
  cases value <;> rfl

theorem compactChars_number (value : Int) : compactChars (.number value) = numberChars value := by
  rw [compactChars, compactText, numberChars]

theorem compactChars_string (text : String) :
    compactChars (.string text) = '"' :: (text.toList.flatMap jsonChar ++ ['"']) := by
  rw [compactChars, compactText, toList_jsonString]

theorem compactChars_array (items : List Json) :
    compactChars (.array items) = '[' :: (itemsChars items ++ [']']) := by
  simp [compactChars, compactText, itemsChars]

theorem compactChars_object (fields : List (String × Json)) :
    compactChars (.object fields) = '\x7b' :: (fieldsChars fields ++ ['\x7d']) := by
  simp [compactChars, compactText, fieldsChars]

theorem itemsChars_nil : itemsChars [] = [] := by
  simp [itemsChars, compactItems]

theorem itemsChars_singleton (item : Json) : itemsChars [item] = compactChars item := by
  simp [itemsChars, compactItems, compactChars]

theorem itemsChars_cons (item next : Json) (rest : List Json) :
    itemsChars (item :: next :: rest) = compactChars item ++ ',' :: itemsChars (next :: rest) := by
  simp [itemsChars, compactItems, compactChars]

theorem fieldsChars_nil : fieldsChars [] = [] := by
  simp [fieldsChars, compactFields]

theorem fieldsChars_singleton (name : String) (value : Json) :
    fieldsChars [(name, value)] = nameChars name ++ compactChars value := by
  simp [fieldsChars, compactFields, compactChars, nameChars, toList_jsonString]

theorem fieldsChars_cons (name : String) (value : Json) (next : String × Json)
    (rest : List (String × Json)) :
    fieldsChars ((name, value) :: next :: rest) =
      nameChars name ++ (compactChars value ++ ',' :: fieldsChars (next :: rest)) := by
  simp [fieldsChars, compactFields, compactChars, nameChars, toList_jsonString]

/-! ## Reading back -/

/-- The reader of a number is the last that is tried. -/
theorem readValue_number {head : Char} (starts : head = '-' ∨ head.isDigit = true)
    (tail : List Char) (fuel : Nat) :
    readValue (fuel + 1) (head :: tail) =
      (readNumber (head :: tail)).map fun read => (.number read.1, read.2) := by
  have other (char : Char) (different : char ≠ '-' ∧ char.isDigit = false) : head ≠ char := by
    rintro rfl
    rcases starts with dash | digit
    · exact different.1 dash
    · exact absurd (digit.symm.trans different.2) (by decide)
  have n := other 'n' (by decide)
  have t := other 't' (by decide)
  have f := other 'f' (by decide)
  have quote := other '"' (by decide)
  have bracket := other '[' (by decide)
  have brace := other '\x7b' (by decide)
  rw [readValue]
  all_goals simp_all

/-- A value that is followed by something that cannot be part of a number. -/
theorem endsNumber_cons {char : Char} (noDigit : char.isDigit = false) (rest : List Char) :
    EndsNumber (char :: rest) := by
  rintro _ ⟨⟩
  exact noDigit

/-- No value starts like the end of an array. -/
theorem compactChars_eq_cons (tree : Json) :
    ∃ head tail, compactChars tree = head :: tail ∧ head ≠ ']' := by
  cases tree with
  | null => exact ⟨'n', _, compactChars_null, by decide⟩
  | bool value => cases value <;> exact ⟨_, _, compactChars_bool _, by decide⟩
  | number value =>
      rcases numberChars_eq_cons value with ⟨head, tail, text, starts⟩
      refine ⟨head, tail, by rw [compactChars_number, text], ?_⟩
      rintro rfl
      exact absurd starts (by decide)
  | string text => exact ⟨'"', _, compactChars_string text, by decide⟩
  | array items => exact ⟨'[', _, compactChars_array items, by decide⟩
  | object fields => exact ⟨'\x7b', _, compactChars_object fields, by decide⟩

theorem itemsChars_eq_cons {items : List Json} (nonempty : items ≠ []) :
    ∃ head tail, itemsChars items = head :: tail ∧ head ≠ ']' := by
  match items with
  | [item] =>
      rw [itemsChars_singleton]
      exact compactChars_eq_cons item
  | item :: next :: rest =>
      rcases compactChars_eq_cons item with ⟨head, tail, text, notEnd⟩
      refine ⟨head, tail ++ ',' :: itemsChars (next :: rest), ?_, notEnd⟩
      rw [itemsChars_cons, text, List.cons_append]

theorem fieldsChars_eq_cons {fields : List (String × Json)} (nonempty : fields ≠ []) :
    ∃ tail, fieldsChars fields = '"' :: tail := by
  match fields with
  | [(name, value)] => exact ⟨_, fieldsChars_singleton name value⟩
  | (name, value) :: next :: rest => exact ⟨_, fieldsChars_cons name value next rest⟩

mutual

/-- Every tree is read from its text. -/
theorem readValue_compactChars (tree : Json) {rest : List Char} (ends : EndsNumber rest)
    {fuel : Nat} (enough : (compactChars tree).length ≤ fuel) :
    readValue fuel (compactChars tree ++ rest) = some (tree, rest) := by
  obtain ⟨head, tail, text, -⟩ := compactChars_eq_cons tree
  obtain ⟨fuel, rfl⟩ : ∃ before, fuel = before + 1 := by
    rw [text, List.length_cons] at enough
    exact Nat.exists_eq_add_one.mpr (by omega)
  match tree with
  | .null =>
      rw [compactChars_null]
      rfl
  | .bool value =>
      rw [compactChars_bool]
      cases value <;> rfl
  | .number value =>
      obtain ⟨head, tail, text, starts⟩ := numberChars_eq_cons value
      have read := readNumber_numberChars value ends
      rw [text, List.cons_append] at read
      rw [compactChars_number, text, List.cons_append, readValue_number starts, read,
        Option.map_some]
  | .string text =>
      have bound := le_length_flatMap_jsonChar text.toList
      rw [compactChars_string, List.length_cons, List.length_append, List.length_singleton]
        at enough
      rw [compactChars_string, List.cons_append, List.append_assoc, List.singleton_append,
        readValue, readText_flatMap _ _ (by omega), Option.map_some, String.ofList_toList]
  | .array [] =>
      rw [compactChars_array, itemsChars_nil]
      rfl
  | .array (item :: items) =>
      have nonempty : item :: items ≠ [] := List.cons_ne_nil item items
      obtain ⟨head, tail, text, notEnd⟩ := itemsChars_eq_cons nonempty
      rw [compactChars_array, List.length_cons, List.length_append, List.length_singleton] at enough
      rw [compactChars_array, List.cons_append, List.append_assoc, List.singleton_append, readValue,
        readItems_itemsChars (item :: items) nonempty rest (by omega), Option.map_some]
      intro chars same
      rw [text, List.cons_append] at same
      exact notEnd (List.cons.inj same).1
  | .object [] =>
      rw [compactChars_object, fieldsChars_nil]
      rfl
  | .object (field :: fields) =>
      have nonempty : field :: fields ≠ [] := List.cons_ne_nil field fields
      obtain ⟨tail, text⟩ := fieldsChars_eq_cons nonempty
      rw [compactChars_object, List.length_cons, List.length_append, List.length_singleton]
        at enough
      rw [compactChars_object, List.cons_append, List.append_assoc, List.singleton_append,
        readValue, readFields_fieldsChars (field :: fields) nonempty rest (by omega),
        Option.map_some]
      intro chars same
      rw [text, List.cons_append] at same
      exact absurd (List.cons.inj same).1 (by decide)

theorem readItems_itemsChars (items : List Json) (nonempty : items ≠ []) (rest : List Char)
    {fuel : Nat} (enough : (itemsChars items).length < fuel) :
    readItems fuel (itemsChars items ++ ']' :: rest) = some (items, rest) := by
  obtain ⟨fuel, rfl⟩ := Nat.exists_eq_add_one_of_ne_zero (Nat.ne_zero_of_lt enough)
  match items with
  | [] => exact absurd rfl nonempty
  | [item] =>
      rw [itemsChars_singleton] at enough ⊢
      rw [readItems, readValue_compactChars item (endsNumber_cons (by decide) rest) (by omega)]
      rfl
  | item :: next :: items =>
      rw [itemsChars_cons, List.length_append, List.length_cons] at enough
      have later := readItems_itemsChars (next :: items) (List.cons_ne_nil next items) rest
        (show (itemsChars (next :: items)).length < fuel by omega)
      rw [itemsChars_cons, List.append_assoc, List.cons_append, readItems,
        readValue_compactChars item (endsNumber_cons (by decide) _) (by omega), Option.bind_some]
      simp [later]

theorem readFields_fieldsChars (fields : List (String × Json)) (nonempty : fields ≠ [])
    (rest : List Char) {fuel : Nat} (enough : (fieldsChars fields).length < fuel) :
    readFields fuel (fieldsChars fields ++ '\x7d' :: rest) = some (fields, rest) := by
  obtain ⟨fuel, rfl⟩ := Nat.exists_eq_add_one_of_ne_zero (Nat.ne_zero_of_lt enough)
  match fields with
  | [] => exact absurd rfl nonempty
  | [(name, value)] =>
      rw [fieldsChars_singleton, List.length_append] at enough
      rw [fieldsChars_singleton, List.append_assoc, readFields,
        readName_nameChars name _ (by omega), Option.bind_some,
        readValue_compactChars value (endsNumber_cons (by decide) rest) (by omega),
        Option.bind_some]
      simp
  | (name, value) :: next :: fields =>
      rw [fieldsChars_cons, List.length_append, List.length_append, List.length_cons] at enough
      have later := readFields_fieldsChars (next :: fields) (List.cons_ne_nil next fields) rest
        (show (fieldsChars (next :: fields)).length < fuel by omega)
      rw [fieldsChars_cons, List.append_assoc, List.append_assoc, List.cons_append, readFields,
        readName_nameChars name _ (by omega), Option.bind_some,
        readValue_compactChars value (endsNumber_cons (by decide) _) (by omega), Option.bind_some]
      simp [later]

end

/-- The tree at the start of a text, and what follows it. -/
def readPrefix (chars : List Char) : Option (Json × List Char) :=
  readValue chars.length chars

/-- The tree of a text. -/
def readJson (text : String) : Option Json :=
  (readPrefix text.toList).bind fun read => if read.2 = [] then some read.1 else none

/-- Texts may stand next to each other if they do not end in a number. -/
theorem readPrefix_compactChars (tree : Json) {rest : List Char} (ends : EndsNumber rest) :
    readPrefix (compactChars tree ++ rest) = some (tree, rest) :=
  readValue_compactChars tree ends (by rw [List.length_append]; omega)

theorem readJson_compactText (tree : Json) : readJson (compactText tree) = some tree := by
  have chars : (compactText tree).toList = compactChars tree ++ [] := by
    rw [compactChars, List.append_nil]
  have ends : EndsNumber [] := by
    rintro _ ⟨⟩
  rw [readJson, chars, readPrefix_compactChars tree ends, Option.bind_some, if_pos rfl]

/-! ## No control characters -/

/-- A text of visible characters and blanks. -/
def NoControls (chars : List Char) : Prop :=
  ∀ char ∈ chars, 32 ≤ char.toNat

instance (chars : List Char) : Decidable (NoControls chars) :=
  List.decidableBAll (fun char : Char => 32 ≤ char.toNat) chars

theorem noControls_append {front back : List Char} :
    NoControls (front ++ back) ↔ NoControls front ∧ NoControls back :=
  List.forall_mem_append

theorem noControls_cons {char : Char} {chars : List Char} :
    NoControls (char :: chars) ↔ 32 ≤ char.toNat ∧ NoControls chars :=
  List.forall_mem_cons

theorem noControls_nil : NoControls [] :=
  fun _ member => absurd member (by simp)

/-- An escape consists of visible characters. -/
theorem noControls_jsonChar (char : Char) : NoControls (jsonChar char) := by
  have digits : ∀ value < 16, 32 ≤ (hexDigit value).toNat := by decide
  have high (control : char.toNat < 32) := digits (char.toNat / 16) (by omega)
  have low := digits (char.toNat % 16) (by omega)
  unfold jsonChar
  simp only [apply_ite NoControls, noControls_cons]
  split_ifs with _ _ _ _ _ _ _ control
  all_goals simp_all [noControls_nil]

theorem noControls_flatMap_jsonChar (text : List Char) : NoControls (text.flatMap jsonChar) := by
  intro char member
  rcases List.mem_flatMap.mp member with ⟨source, -, written⟩
  exact noControls_jsonChar source char written

theorem noControls_numberChars (value : Int) : NoControls (numberChars value) := by
  have digits (nat : Nat) : NoControls (Nat.toDigits 10 nat) := by
    intro char member
    have isDigit := isDigit_toDigits nat char member
    rw [Char.isDigit_iff_toNat] at isDigit
    exact Nat.le_trans (by decide) isDigit.1
  rcases Int.lt_or_le value 0 with negative | nonneg
  · rw [numberChars_of_neg negative, noControls_cons]
    exact ⟨by decide, digits _⟩
  · obtain ⟨nat, rfl⟩ := Int.eq_ofNat_of_zero_le nonneg
    rw [numberChars_of_nonneg]
    exact digits nat

theorem noControls_nameChars (name : String) : NoControls (nameChars name) := by
  rw [nameChars, noControls_cons, noControls_append]
  exact ⟨by decide, noControls_flatMap_jsonChar _, by decide⟩

mutual

theorem noControls_compactChars (tree : Json) : NoControls (compactChars tree) := by
  match tree with
  | .null =>
      rw [compactChars_null]
      decide
  | .bool value =>
      rw [compactChars_bool]
      cases value <;> decide
  | .number value =>
      rw [compactChars_number]
      exact noControls_numberChars value
  | .string text =>
      rw [compactChars_string, noControls_cons, noControls_append]
      exact ⟨by decide, noControls_flatMap_jsonChar _, by decide⟩
  | .array items =>
      rw [compactChars_array, noControls_cons, noControls_append]
      exact ⟨by decide, noControls_itemsChars items, by decide⟩
  | .object fields =>
      rw [compactChars_object, noControls_cons, noControls_append]
      exact ⟨by decide, noControls_fieldsChars fields, by decide⟩

theorem noControls_itemsChars (items : List Json) : NoControls (itemsChars items) := by
  match items with
  | [] =>
      rw [itemsChars_nil]
      exact noControls_nil
  | [item] =>
      rw [itemsChars_singleton]
      exact noControls_compactChars item
  | item :: next :: items =>
      rw [itemsChars_cons, noControls_append, noControls_cons]
      exact ⟨noControls_compactChars item, by decide, noControls_itemsChars (next :: items)⟩

theorem noControls_fieldsChars (fields : List (String × Json)) :
    NoControls (fieldsChars fields) := by
  match fields with
  | [] =>
      rw [fieldsChars_nil]
      exact noControls_nil
  | [(name, value)] =>
      rw [fieldsChars_singleton, noControls_append]
      exact ⟨noControls_nameChars name, noControls_compactChars value⟩
  | (name, value) :: next :: fields =>
      rw [fieldsChars_cons, noControls_append, noControls_append, noControls_cons]
      exact ⟨noControls_nameChars name, noControls_compactChars value, by decide,
        noControls_fieldsChars (next :: fields)⟩

end

end DlpSystem.AuditWire
