import Mathlib.Data.List.Basic
import Mathlib.Data.List.TakeDrop

/-!
# Transfers in pieces

A buffer is filled from a stream, or written to one, by calls that move as many items as they
like of what is asked for.  How much each call moves is up to the system behind the stream: its
answers are a function of the number of the call and of the size of the request.
-/

namespace DlpSystem.Lib

/-- How much a call moves of what is asked for, or that it fails. -/
abbrev TransferAnswers :=
  Nat → Nat → Option Nat

namespace TransferAnswers

/-- No call moves more than it was asked to. -/
def Bounded (answers : TransferAnswers) : Prop :=
  ∀ call requested count, answers call requested = some count → count ≤ requested

/-- Each call moves a part, which is not empty, of what it was asked to move. -/
def Splits (answers : TransferAnswers) : Prop :=
  ∀ call requested, 0 < requested → ∃ count, answers call requested = some count ∧
    0 < count ∧ count ≤ requested

end TransferAnswers

/-- The items of a stream, and the number of the calls so far. -/
structure CountedStream (α : Type) where
  items : List α
  calls : Nat

variable {α ε : Type}

/-- Items are put into a buffer from an offset on. -/
def overwriteAt (buf : List α) (offset : Nat) (items : List α) : List α :=
  buf.take offset ++ items ++ buf.drop (offset + items.length)

/-- A buffer is filled from the front of a stream: `remaining` places of it are free, at its
end.  A call that moves nothing has found the stream closed. -/
def readPieces (answers : TransferAnswers) (request : Nat → Nat) (failed closed : Nat → ε)
    (remaining : Nat) (buf : List α) (stream : CountedStream α) :
    Except ε (List α) × CountedStream α :=
  if remaining = 0 then (.ok buf, stream)
  else
    let offset := buf.length - remaining
    match answers stream.calls (request remaining) with
    | none => (.error (failed offset), { stream with calls := stream.calls + 1 })
    | some count =>
        let piece := stream.items.take count
        let moved := ⟨stream.items.drop piece.length, stream.calls + 1⟩
        if piece.length = 0 then (.error (closed offset), moved)
        else
          readPieces answers request failed closed (remaining - piece.length)
            (overwriteAt buf offset piece) moved
termination_by remaining
decreasing_by
  show remaining - piece.length < remaining
  omega

/-- A buffer is written behind a stream: `remaining` items of it are to be written, at its
end. -/
def writePieces (answers : TransferAnswers) (request : Nat → Nat) (failed closed : Nat → ε)
    (remaining : Nat) (buf : List α) (stream : CountedStream α) :
    Except ε Unit × CountedStream α :=
  if remaining = 0 then (.ok (), stream)
  else
    let offset := buf.length - remaining
    let slice := (buf.drop offset).take (request remaining)
    match answers stream.calls slice.length with
    | none => (.error (failed offset), { stream with calls := stream.calls + 1 })
    | some count =>
        let moved := ⟨stream.items ++ slice.take count, stream.calls + 1⟩
        if count = 0 then (.error (closed offset), moved)
        else writePieces answers request failed closed (remaining - count) buf moved
termination_by remaining
decreasing_by omega

/-- What is asked for at once is a part, which is not empty, of what remains. -/
def IsRequest (request : Nat → Nat) : Prop :=
  ∀ remaining, 0 < remaining → 0 < request remaining ∧ request remaining ≤ remaining

variable {answers : TransferAnswers} {request : Nat → Nat} {failed closed : Nat → ε}

theorem length_overwriteAt {buf items : List α} {offset : Nat}
    (fits : offset + items.length ≤ buf.length) :
    (overwriteAt buf offset items).length = buf.length := by
  rw [overwriteAt, List.length_append, List.length_append, List.length_take, List.length_drop]
  omega

/-- In front of the free places, the items follow what was there. -/
theorem take_overwriteAt {buf items : List α} {offset : Nat} (inside : offset ≤ buf.length) :
    (overwriteAt buf offset items).take (offset + items.length) = buf.take offset ++ items := by
  have length : (buf.take offset ++ items).length = offset + items.length := by
    rw [List.length_append, List.length_take, Nat.min_eq_left inside]
  rw [overwriteAt, ← length]
  exact List.take_left

/-- A piece goes into the buffer, and the rest of the stream behind it. -/
theorem take_overwriteAt_append {remaining : Nat} {buf piece rest : List α}
    (fits : piece.length ≤ remaining) (free : remaining ≤ buf.length) :
    (overwriteAt buf (buf.length - remaining) piece).take
        (buf.length - (remaining - piece.length)) ++ rest.take (remaining - piece.length) =
      buf.take (buf.length - remaining) ++ (piece ++ rest).take remaining := by
  have filled : buf.length - (remaining - piece.length) =
      buf.length - remaining + piece.length := by omega
  rw [filled, take_overwriteAt (Nat.sub_le ..), List.append_assoc, List.take_append,
    List.take_of_length_le fits]

/-- The first items of a stream, and those behind them. -/
theorem exists_front (items : List α) (count : Nat) :
    ∃ piece rest, items = piece ++ rest ∧ (piece ++ rest).take count = piece := by
  have split := List.prefix_iff_eq_append.mp (List.take_prefix count items)
  refine ⟨items.take count, items.drop (items.take count).length, split.symm, ?_⟩
  rw [split]

/-- A call that moves a piece. -/
theorem readPieces_step {remaining count calls : Nat} {buf piece rest : List α}
    (more : 0 < remaining) (answer : answers calls (request remaining) = some count)
    (front : (piece ++ rest).take count = piece) (moves : piece.length ≠ 0) :
    readPieces answers request failed closed remaining buf ⟨piece ++ rest, calls⟩ =
      readPieces answers request failed closed (remaining - piece.length)
        (overwriteAt buf (buf.length - remaining) piece) ⟨rest, calls + 1⟩ := by
  rw [readPieces, if_neg (Nat.pos_iff_ne_zero.mp more)]
  simp only [answer, front, if_neg moves, List.drop_left]

/-- A buffer is filled from a stream that has enough, however the calls split the transfer. -/
theorem readPieces_splits (splits : answers.Splits) (isRequest : IsRequest request)
    {remaining calls : Nat} {buf items : List α} (free : remaining ≤ buf.length)
    (enough : remaining ≤ items.length) :
    ∃ later, readPieces answers request failed closed remaining buf ⟨items, calls⟩ =
      (.ok (buf.take (buf.length - remaining) ++ items.take remaining),
        ⟨items.drop remaining, later⟩) := by
  induction remaining using Nat.strongRecOn generalizing buf items calls with
  | ind remaining ih =>
      rcases Nat.eq_zero_or_pos remaining with rfl | more
      · refine ⟨calls, ?_⟩
        rw [readPieces, if_pos rfl, Nat.sub_zero, List.take_length, List.take_zero,
          List.append_nil, List.drop_zero]
      · obtain ⟨asks, inside⟩ := isRequest remaining more
        obtain ⟨count, answer, moves, part⟩ := splits calls (request remaining) asks
        obtain ⟨piece, rest, rfl, front⟩ := exists_front items count
        rw [List.length_append] at enough
        have length : piece.length = min count (piece.length + rest.length) := by
          rw [← List.length_append, ← List.length_take, front]
        rw [readPieces_step more answer front (by omega)]
        obtain ⟨later, read⟩ := @ih (remaining - piece.length) (by omega) (calls + 1)
          (overwriteAt buf (buf.length - remaining) piece) rest
          (by rw [length_overwriteAt] <;> omega) (by omega)
        rw [length_overwriteAt (by omega),
          take_overwriteAt_append (by omega) free] at read
        have fits : piece.length ≤ remaining := by omega
        rw [List.drop_append, List.drop_of_length_le fits, List.nil_append]
        exact ⟨later, read⟩

/-- A buffer that has been filled holds what the stream had in front, whatever the calls
answer. -/
theorem readPieces_ok (bounded : answers.Bounded) (isRequest : IsRequest request)
    {remaining calls : Nat} {buf items filled : List α} {moved : CountedStream α}
    (free : remaining ≤ buf.length)
    (read : readPieces answers request failed closed remaining buf ⟨items, calls⟩ =
      (.ok filled, moved)) :
    remaining ≤ items.length ∧
      filled = buf.take (buf.length - remaining) ++ items.take remaining ∧
      moved.items = items.drop remaining := by
  induction remaining using Nat.strongRecOn generalizing buf items calls with
  | ind remaining ih =>
      rcases Nat.eq_zero_or_pos remaining with rfl | more
      · rw [readPieces, if_pos rfl] at read
        cases read
        rw [Nat.sub_zero, List.take_length, List.take_zero, List.append_nil, List.drop_zero]
        exact ⟨Nat.zero_le _, rfl, rfl⟩
      · cases answer : answers calls (request remaining) with
        | none =>
            rw [readPieces, if_neg (Nat.pos_iff_ne_zero.mp more)] at read
            simp only [answer] at read
            cases read
        | some count =>
            obtain ⟨piece, rest, rfl, front⟩ := exists_front items count
            by_cases nothing : piece.length = 0
            · rw [readPieces, if_neg (Nat.pos_iff_ne_zero.mp more)] at read
              simp only [answer, front, if_pos nothing] at read
              cases read
            · have part := bounded _ _ _ answer
              have inside := (isRequest remaining more).2
              have length : piece.length = min count (piece.length + rest.length) := by
                rw [← List.length_append, ← List.length_take, front]
              have fits : piece.length ≤ remaining := by omega
              have kept : (overwriteAt buf (buf.length - remaining) piece).length = buf.length :=
                length_overwriteAt (by omega)
              rw [readPieces_step more answer front nothing] at read
              obtain ⟨enough, isFilled, behind⟩ := ih _ (by omega) (by omega) read
              rw [kept, take_overwriteAt_append fits free] at isFilled
              rw [List.length_append, List.drop_append, List.drop_of_length_le fits,
                List.nil_append]
              exact ⟨by omega, isFilled, behind⟩

/-- A buffer is written, however the calls split the transfer. -/
theorem writePieces_splits (splits : answers.Splits) (isRequest : IsRequest request)
    {remaining : Nat} {buf : List α} {stream : CountedStream α}
    (inside : remaining ≤ buf.length) :
    ∃ calls, writePieces answers request failed closed remaining buf stream =
      (.ok (), ⟨stream.items ++ buf.drop (buf.length - remaining), calls⟩) := by
  induction remaining using Nat.strongRecOn generalizing stream with
  | ind remaining ih =>
      rcases Nat.eq_zero_or_pos remaining with rfl | more
      · refine ⟨stream.calls, ?_⟩
        rw [writePieces, if_pos rfl, Nat.sub_zero, List.drop_length, List.append_nil]
      · obtain ⟨asks, below⟩ := isRequest remaining more
        have length : ((buf.drop (buf.length - remaining)).take (request remaining)).length =
            request remaining := by
          rw [List.length_take, List.length_drop]
          omega
        obtain ⟨count, answer, moves, part⟩ := splits stream.calls (request remaining) asks
        obtain ⟨calls, written⟩ := @ih (remaining - count) (by omega)
          ⟨stream.items ++ ((buf.drop (buf.length - remaining)).take
            (request remaining)).take count, stream.calls + 1⟩ (by omega)
        have offset : buf.length - (remaining - count) = buf.length - remaining + count := by omega
        rw [List.take_take, Nat.min_eq_left part, List.append_assoc, offset, ← List.drop_drop,
          List.take_append_drop] at written
        refine ⟨calls, ?_⟩
        rw [writePieces, if_neg (Nat.pos_iff_ne_zero.mp more)]
        simp only [length, answer, if_neg (Nat.pos_iff_ne_zero.mp moves)]
        rw [List.take_take, Nat.min_eq_left part]
        exact written

end DlpSystem.Lib
