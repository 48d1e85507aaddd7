import DlpSystem.Lib.Casing
import Mathlib.Algebra.Ring.Nat
import Mathlib.Data.List.DropRight
import Mathlib.Data.List.Induction
import Mathlib.Data.Nat.Find

/-!
# Slices of texts by bytes

Texts are sliced at byte offsets of their UTF-8 form.  A slice at an offset inside a
character, or behind the end, does not exist.
-/

namespace DlpSystem.Lib

/-- `str::len`. -/
def byteLength (text : Text) : Nat :=
  (text.map Char.utf8Size).sum

/-- `str::split_at`. -/
def splitBytes : Nat → Text → Option (Text × Text)
  | 0, text => some ([], text)
  | _ + 1, [] => none
  | offset + 1, char :: rest =>
      if char.utf8Size ≤ offset + 1 then
        (splitBytes (offset + 1 - char.utf8Size) rest).map fun parts =>
          (char :: parts.1, parts.2)
      else none

/-- `&text[offset..]`. -/
def dropBytes (offset : Nat) (text : Text) : Option Text :=
  (splitBytes offset text).map Prod.snd

@[simp]
theorem byteLength_nil : byteLength [] = 0 :=
  rfl

@[simp]
theorem byteLength_cons (char : Char) (rest : Text) :
    byteLength (char :: rest) = char.utf8Size + byteLength rest := by
  simp [byteLength]

theorem byteLength_eq_zero_iff (text : Text) : byteLength text = 0 ↔ text = [] := by
  cases text with
  | nil => simp
  | cons char rest =>
      have size := Char.utf8Size_pos char
      simp
      omega

theorem byteLength_ascii {text : Text} (ascii : ∀ char ∈ text, char.toNat < 128) :
    byteLength text = text.length := by
  induction text with
  | nil => rfl
  | cons char rest ih =>
      have single : char.utf8Size = 1 := by
        rw [Char.utf8Size_eq_one_iff]
        have small := ascii char List.mem_cons_self
        exact Nat.le_of_lt_succ small
      rw [byteLength_cons, single, List.length_cons, Nat.add_comm,
        ih fun other member => ascii other (List.mem_cons_of_mem _ member)]

/-- A text is split exactly at the byte lengths of its fronts. -/
theorem splitBytes_eq_some_iff {offset : Nat} {text front back : Text} :
    splitBytes offset text = some (front, back) ↔
      text = front ++ back ∧ byteLength front = offset := by
  induction text generalizing offset front back with
  | nil =>
      cases offset with
      | zero =>
          rw [splitBytes, byteLength_eq_zero_iff]
          simp only [Option.some_inj, Prod.mk.injEq, List.nil_eq, List.append_eq_nil_iff]
          tauto
      | succ offset =>
          rw [splitBytes]
          constructor
          · intro impossible
            cases impossible
          · rintro ⟨split, length⟩
            rw [(List.append_eq_nil_iff.mp split.symm).1] at length
            cases length
  | cons char rest ih =>
      have size := Char.utf8Size_pos char
      cases offset with
      | zero =>
          rw [splitBytes, byteLength_eq_zero_iff]
          constructor
          · intro same
            injection same with same
            injection same with isFront isBack
            rw [← isFront, ← isBack]
            exact ⟨rfl, rfl⟩
          · rintro ⟨split, rfl⟩
            rw [split]
            rfl
      | succ offset =>
          rw [splitBytes]
          constructor
          · intro found
            split at found
            · obtain ⟨parts, inner, same⟩ := Option.map_eq_some_iff.mp found
              injection same with isFront isBack
              obtain ⟨split, length⟩ := ih.mp inner
              rw [← isFront, ← isBack, byteLength_cons, length, split]
              exact ⟨rfl, by omega⟩
            · cases found
          · rintro ⟨split, length⟩
            cases front with
            | nil => cases length
            | cons first front =>
                injection split with same split
                rw [byteLength_cons, ← same] at length
                have inner : splitBytes (offset + 1 - char.utf8Size) rest = some (front, back) :=
                  ih.mpr ⟨split, by omega⟩
                rw [if_pos (by omega), inner, ← same]
                rfl

theorem dropBytes_eq_some_iff {offset : Nat} {text back : Text} :
    dropBytes offset text = some back ↔
      ∃ front, text = front ++ back ∧ byteLength front = offset := by
  rw [dropBytes, Option.map_eq_some_iff]
  constructor
  · rintro ⟨⟨front, _⟩, split, rfl⟩
    exact ⟨front, splitBytes_eq_some_iff.mp split⟩
  · rintro ⟨front, split⟩
    exact ⟨(front, back), splitBytes_eq_some_iff.mpr split, rfl⟩

theorem dropBytes_append (front back : Text) :
    dropBytes (byteLength front) (front ++ back) = some back := by
  rw [dropBytes, splitBytes_eq_some_iff.mpr ⟨rfl, rfl⟩]
  rfl

/-! ## Searching texts

A pattern is searched for with `List.dropInfix?`, which gives the text in front of its first
occurrence and the text behind it.  Runs of characters are taken and dropped at either end.
-/

/-! ### First occurrences -/

/-- A separator is found where its first character first occurs. -/
theorem dropInfix?_of_not_mem {first : Char} {more front : Text} (absent : first ∉ front)
    (rest : Text) :
    (front ++ (first :: more) ++ rest).dropInfix? (first :: more) = some (front, rest) := by
  rw [List.dropInfix?_eq_some_iff]
  constructor
  · exact ⟨first :: more, rfl, beq_self_eq_true _⟩
  · intro earlier found others split same
    rw [eq_of_beq same] at split
    by_contra shorter
    have inFront : front[earlier.length]? = some first := by
      have here := congrArg (·[earlier.length]?) split
      simpa [List.getElem?_append_left (Nat.not_le.mp shorter)] using here
    exact absent (List.mem_of_getElem? inFront)

/-- A pattern that occurs is found. -/
theorem isSome_dropInfix?_iff {pattern text : Text} :
    (text.dropInfix? pattern).isSome ↔ pattern <:+: text := by
  rw [Option.isSome_iff_exists]
  constructor
  · rintro ⟨⟨front, back⟩, found⟩
    obtain ⟨⟨part, split, same⟩, _⟩ := List.dropInfix?_eq_some_iff.mp found
    rw [eq_of_beq same] at split
    exact ⟨front, back, split.symm⟩
  · rintro ⟨front, back, split⟩
    classical
    have occurs : ∃ length, ∃ front back : Text,
        front ++ pattern ++ back = text ∧ front.length = length :=
      ⟨_, front, back, split, rfl⟩
    obtain ⟨first, rest, splitFirst, length⟩ := Nat.find_spec occurs
    have shortest : ∀ other part others, text = other ++ part ++ others →
        (part == pattern) = true → other.length ≥ first.length := by
      intro other part others splitOther same
      rw [eq_of_beq same] at splitOther
      rw [length]
      exact Nat.find_min' occurs ⟨other, others, splitOther.symm, rfl⟩
    exact ⟨(first, rest), List.dropInfix?_eq_some_iff.mpr
      ⟨⟨pattern, splitFirst.symm, beq_self_eq_true _⟩, shortest⟩⟩

theorem isPrefix_of_dropInfix? {text pattern front back : Text}
    (found : text.dropInfix? pattern = some (front, back)) : front <+: text := by
  obtain ⟨⟨part, rfl, _⟩, _⟩ := List.dropInfix?_eq_some_iff.mp found
  rw [List.append_assoc]
  exact List.prefix_append ..

/-! ### Runs of characters -/

theorem takeWhile_flatMap {taken : Char → Bool} {image : Char → Text}
    (same : ∀ char, ∀ part ∈ image char, taken part = taken char)
    (notEmpty : ∀ char, image char ≠ []) (text : Text) :
    (text.flatMap image).takeWhile taken = (text.takeWhile taken).flatMap image := by
  induction text with
  | nil => rfl
  | cons char rest ih =>
      rw [List.flatMap_cons]
      cases goesOn : taken char with
      | true =>
          rw [List.takeWhile_cons_of_pos goesOn, List.flatMap_cons, ← ih,
            List.takeWhile_append_of_pos]
          intro part member
          rw [same char part member, goesOn]
      | false =>
          rw [List.takeWhile_cons_of_neg (by simp [goesOn])]
          obtain ⟨first, others, image⟩ := List.exists_cons_of_ne_nil (notEmpty char)
          have stops := same char first (by simp [image])
          rw [image, List.cons_append, List.takeWhile_cons_of_neg (by simp [stops, goesOn])]
          rfl

theorem rdropWhile_append {dropped : Char → Bool} {front : Text}
    (ends : front.rdropWhile dropped = front) (back : Text) :
    (front ++ back).rdropWhile dropped = front ++ back.rdropWhile dropped := by
  induction back using List.reverseRecOn with
  | nil => rw [List.append_nil, ends, List.rdropWhile_nil, List.append_nil]
  | append_singleton back last ih =>
      rw [← List.append_assoc, List.rdropWhile_concat, List.rdropWhile_concat]
      split
      · exact ih
      · exact List.append_assoc ..

end DlpSystem.Lib
