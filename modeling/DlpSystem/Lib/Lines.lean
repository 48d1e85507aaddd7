import Mathlib.Data.List.Basic

/-!
# Text and lines as bytes

The UTF-8 bytes of a text, and files of lines that end in a line feed.
-/

namespace DlpSystem.Lib

/-- The bytes of a text. -/
def utf8 (content : String) : List UInt8 :=
  content.toByteArray.data.toList

@[simp]
theorem fromUTF8?_utf8 (content : String) :
    String.fromUTF8? ⟨(utf8 content).toArray⟩ = some content := by
  rw [utf8, Array.toArray_toList]
  exact dif_pos content.isValidUTF8

theorem utf8_of_fromUTF8? {bytes : List UInt8} {content : String}
    (read : String.fromUTF8? ⟨bytes.toArray⟩ = some content) : utf8 content = bytes := by
  unfold String.fromUTF8? at read
  split at read
  · cases Option.some.inj read
    rfl
  · exact absurd read (by simp)

/-- The line feed. -/
def lineFeed : UInt8 := 10

/-- The lines that end in a line feed, and what follows the last one. -/
def splitLines : List UInt8 → List (List UInt8) × List UInt8
  | [] => ([], [])
  | byte :: rest =>
      if byte = lineFeed then ([] :: (splitLines rest).1, (splitLines rest).2)
      else
        match (splitLines rest).1 with
        | [] => ([], byte :: (splitLines rest).2)
        | line :: lines => ((byte :: line) :: lines, (splitLines rest).2)

/-- Every line with its line feed. -/
def unlines (lines : List (List UInt8)) : List UInt8 :=
  lines.flatMap fun line => line ++ [lineFeed]

theorem unlines_append (first second : List (List UInt8)) :
    unlines (first ++ second) = unlines first ++ unlines second :=
  List.flatMap_append

theorem splitLines_line {line : List UInt8} (free : lineFeed ∉ line) (rest : List UInt8) :
    splitLines (line ++ lineFeed :: rest) =
      (line :: (splitLines rest).1, (splitLines rest).2) := by
  induction line with
  | nil => simp [splitLines]
  | cons byte line ih =>
      rw [List.mem_cons, not_or] at free
      simp [splitLines, ih free.2, Ne.symm free.1]

/-- Lines are read as they were written. -/
theorem splitLines_unlines {lines : List (List UInt8)} (free : ∀ line ∈ lines, lineFeed ∉ line) :
    splitLines (unlines lines) = (lines, []) := by
  induction lines with
  | nil => rfl
  | cons line rest ih =>
      have split : unlines (line :: rest) = line ++ lineFeed :: unlines rest := by
        simp [unlines]
      rw [split, splitLines_line (free line (List.mem_cons_self ..)),
        ih (fun later member => free later (List.mem_cons_of_mem _ member))]

/-- What has no line feed is not a line yet. -/
theorem splitLines_of_free {bytes : List UInt8} (free : lineFeed ∉ bytes) :
    splitLines bytes = ([], bytes) := by
  induction bytes with
  | nil => rfl
  | cons byte bytes ih =>
      rw [List.mem_cons, not_or] at free
      simp [splitLines, ih free.2, Ne.symm free.1]

/-- A file that is cut inside its second line has the first one. -/
theorem splitLines_take_next {line next : List UInt8} {byte : UInt8} {rest : List (List UInt8)}
    (free : lineFeed ∉ line) (nextFree : lineFeed ∉ byte :: next) :
    (splitLines ((unlines (line :: (byte :: next) :: rest)).take (line.length + 2))).1 =
      [line] := by
  have split : unlines (line :: (byte :: next) :: rest) =
      line ++ lineFeed :: byte :: (next ++ lineFeed :: unlines rest) := by
    simp [unlines]
  have byteFree : lineFeed ∉ [byte] := fun member =>
    nextFree (List.mem_cons.mpr (.inl (List.mem_singleton.mp member)))
  rw [split, List.take_length_add_append]
  simp only [List.take_succ_cons, List.take_zero]
  rw [splitLines_line free, splitLines_of_free byteFree]

/-- A file that is cut anywhere has some of its lines, from the first on. -/
theorem splitLines_take_unlines {lines : List (List UInt8)}
    (free : ∀ line ∈ lines, lineFeed ∉ line) (size : Nat) :
    ∃ count, (splitLines ((unlines lines).take size)).1 = lines.take count ∧
      ((unlines lines).length ≤ size → lines.length ≤ count) := by
  induction lines generalizing size with
  | nil => exact ⟨0, by simp [unlines, splitLines], by simp⟩
  | cons line rest ih =>
      have split : unlines (line :: rest) = line ++ lineFeed :: unlines rest := by
        simp [unlines]
      have lineFree := free line (List.mem_cons_self ..)
      rw [split]
      rcases Nat.lt_or_ge line.length size with longer | cut
      · obtain ⟨after, rfl⟩ : ∃ after, size = line.length + (after + 1) :=
          ⟨size - line.length - 1, by omega⟩
        obtain ⟨count, lines, all⟩ := ih
          (fun later member => free later (List.mem_cons_of_mem _ member)) after
        refine ⟨count + 1, ?_, ?_⟩
        · rw [List.take_length_add_append, List.take_succ_cons, splitLines_line lineFree, lines,
            List.take_succ_cons]
        · intro whole
          rw [List.length_append, List.length_cons] at whole
          rw [List.length_cons]
          exact Nat.succ_le_succ (all (by omega))
      · refine ⟨0, ?_, ?_⟩
        · rw [List.take_append_of_le_length cut,
            splitLines_of_free fun member => lineFree (List.mem_of_mem_take member), List.take_zero]
        · intro whole
          rw [List.length_append, List.length_cons] at whole
          omega

end DlpSystem.Lib
