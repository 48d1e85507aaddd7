import Mathlib.Algebra.Group.Nat.Defs
import Mathlib.Data.List.Basic

/-!
# Lawful byte codecs

A codec writes values to bytes and reads them back from the front of an input,
whatever follows.  The law is a field, so that every codec built from the
combinators below round-trips; `least` bounds from below how many bytes a
successful read takes, which is what arguments about truncated or shifted input
need.
-/

namespace DlpSystem.Lib

/-- A writer, which may refuse a value, and a reader that undoes it. -/
structure Codec (α : Type) where
  write : α → Option (List UInt8)
  read : List UInt8 → Option (α × List UInt8)
  least : Nat
  read_write : ∀ {value bytes} (rest : List UInt8), write value = some bytes →
    read (bytes ++ rest) = some (value, rest)
  least_le : ∀ {input value rest}, read input = some (value, rest) →
    rest.length + least ≤ input.length

namespace Codec

variable {α β : Type}

/-- Input that is too short is not read. -/
theorem read_eq_none (codec : Codec α) {input : List UInt8} (short : input.length < codec.least) :
    codec.read input = none := by
  cases result : codec.read input with
  | none => rfl
  | some pair =>
      have enough := codec.least_le result
      omega

/-- A value made of the parts that another codec handles.  Either direction may
refuse: the writer a value without such parts, the reader parts without a value. -/
def convert (codec : Codec β) (build : β → Option α) (parts : α → Option β)
    (round : ∀ {a b}, parts a = some b → build b = some a) : Codec α where
  write value := (parts value).bind codec.write
  read input := do
    let (inner, rest) ← codec.read input
    let value ← build inner
    pure (value, rest)
  least := codec.least
  read_write := by
    intro value bytes rest written
    rcases Option.bind_eq_some_iff.mp written with ⟨inner, picked, writtenInner⟩
    rw [codec.read_write rest writtenInner]
    simp [round picked]
  least_le := by
    intro input value rest result
    rcases Option.bind_eq_some_iff.mp result with ⟨⟨inner, after⟩, read, result⟩
    rcases Option.bind_eq_some_iff.mp result with ⟨built, _, result⟩
    cases Option.some.inj result
    exact codec.least_le read

/-- A record, through the tuple of its fields. -/
def imap (codec : Codec β) (build : β → α) (parts : α → β) (round : ∀ a, build (parts a) = a) :
    Codec α :=
  codec.convert (fun inner => some (build inner)) (fun value => some (parts value)) (by
    intro value inner picked
    cases Option.some.inj picked
    rw [round])

/-- One value after the other. -/
def seq (first : Codec α) (second : Codec β) : Codec (α × β) where
  write value := do
    let left ← first.write value.1
    let right ← second.write value.2
    pure (left ++ right)
  read input := do
    let (left, afterFirst) ← first.read input
    let (right, rest) ← second.read afterFirst
    pure ((left, right), rest)
  least := first.least + second.least
  read_write := by
    rintro ⟨left, right⟩ bytes rest written
    rcases Option.bind_eq_some_iff.mp written with ⟨leftBytes, writtenLeft, written⟩
    rcases Option.bind_eq_some_iff.mp written with ⟨rightBytes, writtenRight, written⟩
    cases Option.some.inj written
    rw [List.append_assoc, first.read_write _ writtenLeft]
    simp [second.read_write rest writtenRight]
  least_le := by
    rintro input ⟨left, right⟩ rest result
    rcases Option.bind_eq_some_iff.mp result with ⟨⟨_, afterFirst⟩, readFirst, result⟩
    rcases Option.bind_eq_some_iff.mp result with ⟨⟨_, _⟩, readSecond, result⟩
    cases Option.some.inj result
    have leftLeast := first.least_le readFirst
    have rightLeast := second.least_le readSecond
    omega

/-- Nothing at all. -/
def unit : Codec Unit where
  write _ := some []
  read input := some ((), input)
  least := 0
  read_write := by
    intro value bytes rest written
    cases Option.some.inj written
    rfl
  least_le := by
    intro input value rest result
    cases Option.some.inj result
    exact Nat.le_refl _

/-- One byte. -/
def byte : Codec UInt8 where
  write value := some [value]
  read
    | [] => none
    | head :: rest => some (head, rest)
  least := 1
  read_write := by
    intro value bytes rest written
    cases Option.some.inj written
    rfl
  least_le := by
    intro input value rest result
    cases input with
    | nil => exact absurd result (by simp)
    | cons head tail =>
        cases Option.some.inj result
        exact Nat.le_refl _

/-- A value chosen by what comes before it: write the choice, then the value. -/
def choose (choice : Codec β) (choiceOf : α → β) (body : β → Codec α) : Codec α where
  write value := do
    let left ← choice.write (choiceOf value)
    let right ← (body (choiceOf value)).write value
    pure (left ++ right)
  read input := do
    let (chosen, after) ← choice.read input
    (body chosen).read after
  least := choice.least
  read_write := by
    intro value bytes rest written
    rcases Option.bind_eq_some_iff.mp written with ⟨left, writtenLeft, written⟩
    rcases Option.bind_eq_some_iff.mp written with ⟨right, writtenRight, written⟩
    cases Option.some.inj written
    rw [List.append_assoc, choice.read_write _ writtenLeft]
    exact (body (choiceOf value)).read_write rest writtenRight
  least_le := by
    intro input value rest result
    rcases Option.bind_eq_some_iff.mp result with ⟨⟨chosen, after⟩, readChoice, readBody⟩
    have choiceLeast := choice.least_le readChoice
    have bodyLeast := (body chosen).least_le readBody
    omega

/-- The codec of no value: nothing is written, every input is refused. -/
def never : Codec α where
  write _ := none
  read _ := none
  least := 0
  read_write := by simp
  least_le := by simp

/-! ### Writing and reading, piece by piece -/

theorem write_seq {first : Codec α} {second : Codec β} {value : α × β} {bytes : List UInt8}
    (written : (first.seq second).write value = some bytes) :
    ∃ left right, first.write value.1 = some left ∧ second.write value.2 = some right ∧
      bytes = left ++ right := by
  rcases Option.bind_eq_some_iff.mp written with ⟨left, writtenLeft, written⟩
  rcases Option.bind_eq_some_iff.mp written with ⟨right, writtenRight, written⟩
  exact ⟨left, right, writtenLeft, writtenRight, (Option.some.inj written).symm⟩

theorem write_choose {choice : Codec β} {choiceOf : α → β} {body : β → Codec α} {value : α}
    {bytes : List UInt8} (written : (choose choice choiceOf body).write value = some bytes) :
    ∃ left right, choice.write (choiceOf value) = some left ∧
      (body (choiceOf value)).write value = some right ∧ bytes = left ++ right := by
  rcases Option.bind_eq_some_iff.mp written with ⟨left, writtenLeft, written⟩
  rcases Option.bind_eq_some_iff.mp written with ⟨right, writtenRight, written⟩
  exact ⟨left, right, writtenLeft, writtenRight, (Option.some.inj written).symm⟩

theorem read_seq {first : Codec α} {second : Codec β} {input rest : List UInt8} {value : α}
    (read : first.read input = some (value, rest)) :
    (first.seq second).read input =
      (second.read rest).map fun result => ((value, result.1), result.2) := by
  simp only [seq, read, Option.bind_eq_bind, Option.bind_some]
  cases second.read rest with
  | none => rfl
  | some result => rfl

theorem read_choose {choice : Codec β} {choiceOf : α → β} {body : β → Codec α}
    {input rest : List UInt8} {chosen : β} (read : choice.read input = some (chosen, rest)) :
    (choose choice choiceOf body).read input = (body chosen).read rest := by
  simp only [choose, read, Option.bind_eq_bind, Option.bind_some]

end Codec

/-! ## Little-endian numbers -/

/-- The `width` low bytes of a number, least significant first. -/
def leBytes : Nat → Nat → List UInt8
  | 0, _ => []
  | width + 1, value => UInt8.ofNat (value % 256) :: leBytes width (value / 256)

/-- The number that some bytes stand for, least significant first. -/
def leNat : List UInt8 → Nat
  | [] => 0
  | head :: rest => head.toNat + 256 * leNat rest

@[simp]
theorem length_leBytes (width value : Nat) : (leBytes width value).length = width := by
  induction width generalizing value with
  | zero => rfl
  | succ width ih => simp [leBytes, ih]

theorem leNat_leBytes (width value : Nat) : leNat (leBytes width value) = value % 256 ^ width := by
  induction width generalizing value with
  | zero => simp [leBytes, leNat, Nat.mod_one]
  | succ width ih =>
      have low : (UInt8.ofNat (value % 256)).toNat = value % 256 :=
        UInt8.toNat_ofNat_of_lt (Nat.mod_lt _ (by decide))
      rw [leBytes, leNat, ih, low, Nat.pow_succ', Nat.mod_mul]

namespace Codec

/-- A number of `width` bytes, through a type that holds exactly those. -/
def number {α : Type} (width : Nat) (toNat : α → Nat) (ofNat : Nat → α)
    (round : ∀ a, ofNat (toNat a % 256 ^ width) = a) : Codec α where
  write value := some (leBytes width (toNat value))
  read input :=
    if width ≤ input.length then some (ofNat (leNat (input.take width)), input.drop width)
    else none
  least := width
  read_write := by
    intro value bytes rest written
    cases Option.some.inj written
    have long : width ≤ (leBytes width (toNat value) ++ rest).length := by simp
    rw [if_pos long, List.take_left' (length_leBytes _ _), List.drop_left' (length_leBytes _ _),
      leNat_leBytes, round]
  least_le := by
    intro input value rest result
    split at result
    · rename_i long
      cases Option.some.inj result
      rw [List.length_drop]
      omega
    · exact absurd result (by simp)

/-- The constant that stands for a value without content. -/
def constant {α : Type} (value : α) (is : α → Bool) (unique : ∀ {a}, is a = true → a = value) :
    Codec α :=
  unit.convert (fun _ => some value) (fun a => if is a then some () else none) (by
    intro a inner picked
    split at picked
    · rename_i holds
      rw [unique holds]
    · exact absurd picked (by simp))

/-! ### What is written -/

/-- The codec writes the value. -/
def Writes {α : Type} (codec : Codec α) (value : α) : Prop :=
  ∃ bytes, codec.write value = some bytes

section Writes

variable {α β : Type}

@[simp]
theorem writes_seq_iff {first : Codec α} {second : Codec β} {value : α × β} :
    (first.seq second).Writes value ↔ first.Writes value.1 ∧ second.Writes value.2 := by
  constructor
  · rintro ⟨bytes, written⟩
    obtain ⟨left, right, writtenLeft, writtenRight, -⟩ := write_seq written
    exact ⟨⟨left, writtenLeft⟩, ⟨right, writtenRight⟩⟩
  · rintro ⟨⟨left, writtenLeft⟩, ⟨right, writtenRight⟩⟩
    exact ⟨left ++ right, by simp [seq, writtenLeft, writtenRight]⟩

theorem writes_choose_iff {choice : Codec β} {choiceOf : α → β} {body : β → Codec α} {value : α} :
    (choose choice choiceOf body).Writes value ↔
      choice.Writes (choiceOf value) ∧ (body (choiceOf value)).Writes value := by
  constructor
  · rintro ⟨bytes, written⟩
    obtain ⟨left, right, writtenLeft, writtenRight, -⟩ := write_choose written
    exact ⟨⟨left, writtenLeft⟩, ⟨right, writtenRight⟩⟩
  · rintro ⟨⟨left, writtenLeft⟩, ⟨right, writtenRight⟩⟩
    exact ⟨left ++ right, by simp [choose, writtenLeft, writtenRight]⟩

@[simp]
theorem writes_imap_iff {codec : Codec β} {build : β → α} {parts : α → β}
    {round : ∀ a, build (parts a) = a} {value : α} :
    (codec.imap build parts round).Writes value ↔ codec.Writes (parts value) :=
  Iff.rfl

theorem writes_byte (value : UInt8) : byte.Writes value :=
  ⟨[value], rfl⟩

theorem writes_number {width : Nat} {toNat : α → Nat} {ofNat : Nat → α}
    {round : ∀ a, ofNat (toNat a % 256 ^ width) = a} (value : α) :
    (number width toNat ofNat round).Writes value :=
  ⟨_, rfl⟩

end Writes

/-- Exactly `count` values in a row. -/
def times {α : Type} (codec : Codec α) : Nat → Codec (List α)
  | 0 => constant [] List.isEmpty (by simp)
  | count + 1 =>
      (codec.seq (times codec count)).convert (fun parts => some (parts.1 :: parts.2))
        (fun
          | [] => none
          | head :: rest => some (head, rest))
        (by
          intro values parts picked
          cases values with
          | nil => exact absurd picked (by simp)
          | cons head rest =>
              cases Option.some.inj picked
              rfl)

theorem times_least {α : Type} (codec : Codec α) (count : Nat) :
    (codec.times count).least = count * codec.least := by
  induction count with
  | zero => simp [times, constant, convert, unit]
  | succ count ih =>
      change codec.least + (codec.times count).least = _
      rw [ih, Nat.succ_mul, Nat.add_comm]

/-- Only lists of the right length are written. -/
theorem length_of_times_write {α : Type} {codec : Codec α} {count : Nat} {values : List α}
    {bytes : List UInt8} (written : (codec.times count).write values = some bytes) :
    values.length = count := by
  induction count generalizing values bytes with
  | zero =>
      cases values with
      | nil => rfl
      | cons head rest => exact absurd written (by simp [times, constant, convert])
  | succ count ih =>
      cases values with
      | nil => exact absurd written (by simp [times, convert])
      | cons head rest =>
          rcases write_seq written with ⟨left, right, _, writtenRest, _⟩
          rw [List.length_cons, ih writtenRest]

/-- A list is written when its elements are. -/
theorem writes_times {α : Type} {codec : Codec α} {values : List α}
    (writes : ∀ value ∈ values, codec.Writes value) :
    (codec.times values.length).Writes values := by
  induction values with
  | nil => exact ⟨[], rfl⟩
  | cons head rest ih =>
      rcases writes head (List.mem_cons_self ..) with ⟨left, writtenHead⟩
      obtain ⟨right, writtenRest⟩ :=
        ih (fun value member => writes value (List.mem_cons_of_mem head member))
      refine ⟨left ++ right, ?_⟩
      simp [times, convert, seq, writtenHead, writtenRest]

end Codec

end DlpSystem.Lib
