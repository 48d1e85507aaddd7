import DlpSystem.Lib.ChunkedTransfer
import DlpSystem.Lib.Codec

/-!
# Frames on pipes

A frame is the length of its payload, as a little-endian `u32`, and the payload.  The pipes of
the user interface and of Chrome have a module each with its own copy of the loops: the copies
differ in the largest payload and in how much one call of `WriteFile` is asked to write.
-/

namespace DlpSystem.Agent

open Lib

/-- The texts of an error of `anyhow`, the outermost context first. -/
abbrev ErrorChain :=
  List String

/-- `Context::context`. -/
def withContext {α : Type} (context : String) : Except ErrorChain α → Except ErrorChain α
  | .ok value => .ok value
  | .error chain => .error (context :: chain)

/-- The answers of the system to the calls on a pipe, by the number of the call. -/
structure PipeSystem where
  /-- `ReadFile` and `WriteFile`. -/
  transfer : TransferAnswers
  /-- The error of `FlushFileBuffers`, if it fails. -/
  flushError : Nat → Option String

/-- A pipe: for a reader the bytes in front of it, for a writer those that it has written. -/
abbrev Pipe :=
  CountedStream UInt8

/-- The modules `ipc/frame.rs` and `chrome/frame.rs`. -/
inductive FrameModule
  | ipc
  | chrome
  deriving DecidableEq

namespace FrameModule

/-- `MAX_PAYLOAD`. -/
def maxPayload : FrameModule → Nat
  | ipc => 67108864
  | chrome => 4 * 1024 * 1024

/-- The error about a frame that is too large. -/
def tooLarge (frames : FrameModule) (payloadLen : Nat) : String :=
  match frames with
  | ipc => s!"frame payload too large: {payloadLen} bytes (max 64 MiB)"
  | chrome =>
      let limit := chrome.maxPayload / (1024 * 1024)
      s!"frame payload too large: {payloadLen} bytes (max {limit} MiB)"

/-- How much `write_all` passes to one call, of what remains. -/
def writeRequest : FrameModule → Nat → Nat
  | ipc, remaining => min remaining 65536
  | chrome, remaining => remaining

end FrameModule

/-- `read_exact`, with the buffer that it leaves. -/
def readExact (system : PipeSystem) (buf : List UInt8) (pipe : Pipe) :
    Except ErrorChain (List UInt8) × Pipe :=
  let expected := buf.length
  readPieces system.transfer (fun remaining => min remaining 65536)
    (fun got => [s!"ReadFile returned an error ({got} bytes read before failure)"])
    (fun got => [s!"pipe closed prematurely ({got} bytes read, {expected} expected)"])
    buf.length buf pipe

/-- `write_all`. -/
def FrameModule.writeAll (frames : FrameModule) (system : PipeSystem) (buf : List UInt8)
    (pipe : Pipe) : Except ErrorChain Unit × Pipe :=
  let expected := buf.length
  writePieces system.transfer frames.writeRequest
    (fun put => [s!"WriteFile returned an error ({put} bytes written before failure)"])
    (fun put => [s!"pipe closed during write ({put} bytes written, {expected} expected)"])
    buf.length buf pipe

/-- `flush`. -/
def flush (system : PipeSystem) (pipe : Pipe) : Except ErrorChain Unit × Pipe :=
  (match system.flushError pipe.calls with
    | some error => .error [s!"FlushFileBuffers failed: {error}"]
    | none => .ok (),
    { pipe with calls := pipe.calls + 1 })

/-- `read_frame`. -/
def readFrame (frames : FrameModule) (system : PipeSystem) (pipe : Pipe) :
    Except ErrorChain (List UInt8) × Pipe :=
  match readExact system (List.replicate 4 0) pipe with
  | (.error chain, pipe) => (withContext "read frame length" (.error chain), pipe)
  | (.ok lengthBuf, pipe) =>
      let payloadLen := leNat lengthBuf
      if frames.maxPayload < payloadLen then (.error [frames.tooLarge payloadLen], pipe)
      else
        let (payload, pipe) := readExact system (List.replicate payloadLen 0) pipe
        (withContext "read frame payload" payload, pipe)

/-- `write_frame`. -/
def writeFrame (frames : FrameModule) (system : PipeSystem) (payload : List UInt8) (pipe : Pipe) :
    Except ErrorChain Unit × Pipe :=
  match frames.writeAll system (leBytes 4 payload.length) pipe with
  | (.error chain, pipe) => (withContext "write frame length" (.error chain), pipe)
  | (.ok (), pipe) =>
      match frames.writeAll system payload pipe with
      | (.error chain, pipe) => (withContext "write frame payload" (.error chain), pipe)
      | (.ok (), pipe) =>
          let (flushed, pipe) := flush system pipe
          (withContext "flush frame" flushed, pipe)

/-! ## The loops -/

section Loops

variable {system : PipeSystem}

theorem isRequest_read : IsRequest fun remaining => min remaining 65536 := by
  intro remaining more
  show 0 < min remaining 65536 ∧ min remaining 65536 ≤ remaining
  omega

theorem isRequest_write (frames : FrameModule) : IsRequest frames.writeRequest := by
  cases frames with
  | ipc => exact isRequest_read
  | chrome => exact fun remaining more => ⟨more, Nat.le_refl remaining⟩

theorem readExact_splits (splits : system.transfer.Splits) {buf : List UInt8} {pipe : Pipe}
    (enough : buf.length ≤ pipe.items.length) :
    ∃ calls, readExact system buf pipe =
      (.ok (pipe.items.take buf.length), ⟨pipe.items.drop buf.length, calls⟩) := by
  obtain ⟨calls, read⟩ := readPieces_splits splits isRequest_read (Nat.le_refl buf.length) enough
  rw [Nat.sub_self, List.take_zero, List.nil_append] at read
  exact ⟨calls, read⟩

theorem readExact_ok (bounded : system.transfer.Bounded) {buf filled : List UInt8}
    {pipe moved : Pipe} (read : readExact system buf pipe = (.ok filled, moved)) :
    buf.length ≤ pipe.items.length ∧ filled = pipe.items.take buf.length ∧
      moved.items = pipe.items.drop buf.length := by
  have result := readPieces_ok bounded isRequest_read (Nat.le_refl buf.length) read
  rw [Nat.sub_self, List.take_zero, List.nil_append] at result
  exact result

theorem FrameModule.writeAll_splits (splits : system.transfer.Splits) (frames : FrameModule)
    (buf : List UInt8) (pipe : Pipe) :
    ∃ calls, frames.writeAll system buf pipe = (.ok (), ⟨pipe.items ++ buf, calls⟩) := by
  obtain ⟨calls, written⟩ :=
    writePieces_splits splits (isRequest_write frames) (Nat.le_refl buf.length)
  rw [Nat.sub_self, List.drop_zero] at written
  exact ⟨calls, written⟩

end Loops

end DlpSystem.Agent
