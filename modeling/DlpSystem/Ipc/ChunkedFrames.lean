import DlpSystem.Agent.PipeFrames

/-!
# Frames that arrive in pieces

Whatever pieces the writing and the reading calls move, the frames that are written are read
back, one by one and whole.  A frame that is cut off is an error.
-/

namespace DlpSystem.Ipc

open Lib Agent

/-- The bytes of a frame. -/
def frameBytes (payload : List UInt8) : List UInt8 :=
  leBytes 4 payload.length ++ payload

/-- Calls of `write_frame`, up to the first that fails. -/
def writeFrames (frames : FrameModule) (system : PipeSystem) :
    List (List UInt8) → Pipe → Except ErrorChain Unit × Pipe
  | [], pipe => (.ok (), pipe)
  | payload :: rest, pipe =>
      match writeFrame frames system payload pipe with
      | (.error chain, pipe) => (.error chain, pipe)
      | (.ok (), pipe) => writeFrames frames system rest pipe

/-- Calls of `read_frame`, up to the first that fails. -/
def readFrames (frames : FrameModule) (system : PipeSystem) :
    Nat → Pipe → Except ErrorChain (List (List UInt8)) × Pipe
  | 0, pipe => (.ok [], pipe)
  | count + 1, pipe =>
      match readFrame frames system pipe with
      | (.error chain, pipe) => (.error chain, pipe)
      | (.ok payload, pipe) =>
          match readFrames frames system count pipe with
          | (.error chain, pipe) => (.error chain, pipe)
          | (.ok payloads, pipe) => (.ok (payload :: payloads), pipe)

/-- All calls move a part of what they were asked to move, and no flush fails. -/
structure CallsWork (system : PipeSystem) : Prop where
  splits : system.transfer.Splits
  flushes : ∀ call, system.flushError call = none

/-! ## One frame -/

section Frame

variable {frames : FrameModule} {system : PipeSystem} {payload : List UInt8}

theorem writeFrame_works (works : CallsWork system) (payload : List UInt8) (pipe : Pipe) :
    ∃ calls, writeFrame frames system payload pipe =
      (.ok (), ⟨pipe.items ++ frameBytes payload, calls⟩) := by
  obtain ⟨calls, header⟩ :=
    FrameModule.writeAll_splits works.splits frames (leBytes 4 payload.length) pipe
  obtain ⟨later, body⟩ := FrameModule.writeAll_splits works.splits frames payload
    ⟨pipe.items ++ leBytes 4 payload.length, calls⟩
  refine ⟨later + 1, ?_⟩
  simp only [writeFrame, header, body, flush, works.flushes, withContext]
  rw [List.append_assoc, frameBytes]

/-- The length of a payload that is not too large is read back. -/
theorem leNat_length (small : payload.length ≤ frames.maxPayload) :
    leNat (leBytes 4 payload.length) = payload.length := by
  have bound : frames.maxPayload < 256 ^ 4 := by cases frames <;> decide
  rw [leNat_leBytes]
  exact Nat.mod_eq_of_lt (Nat.lt_of_le_of_lt small bound)

/-- A frame in front is read, and nothing behind it. -/
theorem readFrame_splits (splits : system.transfer.Splits)
    (small : payload.length ≤ frames.maxPayload) (rest : List UInt8) (start : Nat) :
    ∃ calls, readFrame frames system ⟨frameBytes payload ++ rest, start⟩ =
      (.ok payload, ⟨rest, calls⟩) := by
  have header : (frameBytes payload ++ rest).take 4 = leBytes 4 payload.length := by
    rw [frameBytes, List.append_assoc]
    exact List.take_left' (length_leBytes ..)
  have body : (frameBytes payload ++ rest).drop 4 = payload ++ rest := by
    rw [frameBytes, List.append_assoc]
    exact List.drop_left' (length_leBytes ..)
  have enough : (List.replicate 4 (0 : UInt8)).length ≤ (frameBytes payload ++ rest).length := by
    rw [List.length_replicate, frameBytes, List.length_append, List.length_append,
      length_leBytes]
    omega
  obtain ⟨calls, lengthRead⟩ :=
    @readExact_splits system splits _ ⟨frameBytes payload ++ rest, start⟩ enough
  rw [List.length_replicate, header, body] at lengthRead
  obtain ⟨later, payloadRead⟩ := @readExact_splits system splits
    (List.replicate payload.length 0) ⟨payload ++ rest, calls⟩ (by simp)
  rw [List.length_replicate, List.take_left, List.drop_left] at payloadRead
  refine ⟨later, ?_⟩
  simp only [readFrame, lengthRead, leNat_length small, if_neg (Nat.not_lt.mpr small),
    payloadRead, withContext]

/-- A frame that has been read was whole. -/
theorem frameBytes_of_readFrame (bounded : system.transfer.Bounded) {pipe moved : Pipe}
    {payload : List UInt8} (read : readFrame frames system pipe = (.ok payload, moved)) :
    ∃ header, header.length = 4 ∧ leNat header = payload.length ∧
      pipe.items = header ++ payload ++ moved.items := by
  unfold readFrame at read
  split at read
  · cases read
  · rename_i header between headerRead
    obtain ⟨four, rfl, behind⟩ := readExact_ok bounded headerRead
    rw [List.length_replicate] at four behind headerRead read
    dsimp only at read
    split at read
    · cases read
    · cases bodyRead : readExact system (List.replicate (leNat (pipe.items.take 4)) 0) between with
      | mk result later =>
          rw [bodyRead] at read
          cases result with
          | error chain => cases read
          | ok body =>
              obtain ⟨enough, isBody, rest⟩ := readExact_ok bounded bodyRead
              cases read
              rw [List.length_replicate, behind] at enough isBody rest
              refine ⟨pipe.items.take 4, List.length_take_of_le four, ?_, ?_⟩
              · rw [isBody, List.length_take_of_le enough]
              · rw [isBody, rest, List.append_assoc, List.take_append_drop,
                  List.take_append_drop]

/-- A frame that is cut off is not read, whatever the calls answer. -/
theorem readFrame_cut (bounded : system.transfer.Bounded)
    (small : payload.length ≤ frames.maxPayload) {part : List UInt8}
    (inside : part <+: frameBytes payload) (cut : part ≠ frameBytes payload) (start : Nat) :
    ∃ chain, (readFrame frames system ⟨part, start⟩).1 = .error chain := by
  cases read : readFrame frames system ⟨part, start⟩ with
  | mk result moved =>
      cases result with
      | error chain => exact ⟨chain, rfl⟩
      | ok other =>
          obtain ⟨header, four, length, split⟩ := frameBytes_of_readFrame bounded read
          change part = _ at split
          -- The four bytes in front give the length of the payload, and so the part is whole.
          have sameHeader : header = leBytes 4 payload.length := by
            have front : header <+: frameBytes payload := by
              apply List.IsPrefix.trans _ inside
              rw [split, List.append_assoc]
              exact List.prefix_append ..
            rw [List.prefix_iff_eq_take, four, frameBytes] at front
            exact front.trans (List.take_left' (length_leBytes ..))
          rw [sameHeader, leNat_length small] at length
          have whole : (frameBytes payload).length ≤ part.length := by
            rw [frameBytes, split, List.length_append, List.length_append, List.length_append,
              length_leBytes, four, length]
            omega
          exact absurd (inside.eq_of_length_le whole) cut

end Frame

/-! ## Runs -/

section Runs

variable {frames : FrameModule} {payloads : List (List UInt8)}

theorem writeFrames_works {system : PipeSystem} (works : CallsWork system)
    (payloads : List (List UInt8)) (pipe : Pipe) :
    ∃ calls, writeFrames frames system payloads pipe =
      (.ok (), ⟨pipe.items ++ payloads.flatMap frameBytes, calls⟩) := by
  induction payloads generalizing pipe with
  | nil =>
      rw [List.flatMap_nil, List.append_nil]
      exact ⟨pipe.calls, rfl⟩
  | cons payload rest ih =>
      obtain ⟨between, first⟩ := @writeFrame_works frames system works payload pipe
      obtain ⟨calls, others⟩ := ih ⟨pipe.items ++ frameBytes payload, between⟩
      refine ⟨calls, ?_⟩
      rw [writeFrames, first]
      refine others.trans ?_
      rw [List.flatMap_cons, List.append_assoc]

theorem readFrames_splits {system : PipeSystem} (splits : system.transfer.Splits)
    (small : ∀ payload ∈ payloads, payload.length ≤ frames.maxPayload) (rest : List UInt8)
    (start : Nat) :
    ∃ calls, readFrames frames system payloads.length
      ⟨payloads.flatMap frameBytes ++ rest, start⟩ = (.ok payloads, ⟨rest, calls⟩) := by
  induction payloads generalizing start with
  | nil => exact ⟨start, rfl⟩
  | cons payload others ih =>
      obtain ⟨between, first⟩ := readFrame_splits splits (small payload List.mem_cons_self)
        (others.flatMap frameBytes ++ rest) start
      obtain ⟨calls, later⟩ :=
        ih (fun other member => small other (List.mem_cons_of_mem _ member)) between
      refine ⟨calls, ?_⟩
      rw [List.flatMap_cons, List.append_assoc, List.length_cons, readFrames, first]
      simp only [later]

/-- Frames that are written are read back in their order, however the calls split the bytes, and
a frame that is cut off behind them is an error. -/
theorem frames_delivered (frames : FrameModule) {writer reader : PipeSystem}
    (writes : CallsWork writer) (reads : reader.transfer.Splits)
    {payloads : List (List UInt8)}
    (small : ∀ payload ∈ payloads, payload.length ≤ frames.maxPayload) :
    ∃ bytes, (∃ calls, writeFrames frames writer payloads ⟨[], 0⟩ = (.ok (), ⟨bytes, calls⟩)) ∧
      ∀ rest, ∃ calls,
        readFrames frames reader payloads.length ⟨bytes ++ rest, 0⟩ =
          (.ok payloads, ⟨rest, calls⟩) ∧
        ∀ last : List UInt8, last.length ≤ frames.maxPayload →
          rest <+: frameBytes last → rest ≠ frameBytes last →
          ∀ system : PipeSystem, system.transfer.Bounded →
            ∃ chain, (readFrame frames system ⟨rest, calls⟩).1 = .error chain := by
  refine ⟨payloads.flatMap frameBytes, writeFrames_works writes payloads ⟨[], 0⟩, ?_⟩
  intro rest
  obtain ⟨calls, read⟩ := readFrames_splits reads small rest 0
  refine ⟨calls, read, ?_⟩
  intro last fits inside cut system bounded
  exact readFrame_cut bounded fits inside cut calls

end Runs

/-- A system that moves one byte at a time. -/
def byteByByte : PipeSystem :=
  ⟨fun _ _ => some 1, fun _ => none⟩

theorem callsWork_byteByByte : CallsWork byteByByte :=
  ⟨fun _ _ asked => ⟨1, rfl, Nat.one_pos, asked⟩, fun _ => rfl⟩

/-- Two frames on the pipe of Chrome, byte by byte, and the first byte of a third. -/
theorem frames_delivered_byteByByte :
    ∃ bytes calls later,
      writeFrames .chrome byteByByte [[1, 2], []] ⟨[], 0⟩ = (.ok (), ⟨bytes, calls⟩) ∧
      readFrames .chrome byteByByte 2 ⟨bytes ++ [1], 0⟩ = (.ok [[1, 2], []], ⟨[1], later⟩) ∧
      ∃ chain, (readFrame .chrome ⟨fun _ asked => some asked, fun _ => none⟩ ⟨[1], later⟩).1 =
        .error chain := by
  obtain ⟨bytes, ⟨calls, written⟩, delivers⟩ := @frames_delivered .chrome byteByByte byteByByte
    callsWork_byteByByte callsWork_byteByByte.splits [[1, 2], []] (by decide)
  obtain ⟨later, read, cut⟩ := delivers [1]
  refine ⟨bytes, calls, later, written, read, cut [5] (by decide) (by decide) (by decide) _ ?_⟩
  rintro _ requested _ ⟨⟩
  exact Nat.le_refl requested

end DlpSystem.Ipc
