import DlpSystem.Ipc.Messages

/-!
# Frames of two protocol generations

`handle_connection` first tries to read a frame as an envelope and falls back to
the bare `HookRequest` of older hook DLLs.  An envelope starts with two variant
numbers where a bare request has the length of its path, so only a request with
an empty path gets as far as a payload, and there the remaining fields are eight
bytes short or carry an option tag in the middle of a variant number.
-/

namespace DlpSystem.Ipc

open Common Hook Agent Lib

/-- What `handle_connection` makes of a frame. -/
inductive FrameContent
  | envelope (envelope : IpcEnvelope)
  | legacy (request : HookRequest)
  | malformed
  deriving DecidableEq

/-- `bincode::serialize`. -/
def serialize {α : Type} (codec : Codec α) (value : α) : Option (List UInt8) :=
  codec.write value

/-- `bincode::deserialize`: what follows the value is ignored. -/
def deserialize {α : Type} (codec : Codec α) (bytes : List UInt8) : Option α :=
  (codec.read bytes).map fun result => result.1

/-- The two attempts of `handle_connection` at a frame. -/
def readFrameContent (frame : List UInt8) : FrameContent :=
  match deserialize envelopeCodec frame with
  | some envelope => .envelope envelope
  | none =>
      match deserialize hookRequestCodec frame with
      | some request => .legacy request
      | none => .malformed

/-- What is written is read back. -/
theorem deserialize_serialize {α : Type} {codec : Codec α} {value : α} {bytes : List UInt8}
    (written : serialize codec value = some bytes) : deserialize codec bytes = some value := by
  have read := codec.read_write [] written
  rw [List.append_nil] at read
  rw [deserialize, read]
  rfl

/-! ## Pieces of a written request -/

theorem take_leBytes {short long : Nat} (inside : short ≤ long) (value : Nat) :
    (leBytes long value).take short = leBytes short value := by
  induction short generalizing long value with
  | zero => rfl
  | succ short ih =>
      obtain ⟨rest, rfl⟩ : ∃ rest, long = rest + 1 := ⟨long - 1, by omega⟩
      rw [leBytes, List.take_succ_cons, ih (by omega), leBytes]

theorem drop_leBytes {short long : Nat} (inside : short ≤ long) (value : Nat) :
    (leBytes long value).drop short = leBytes (long - short) (value / 256 ^ short) := by
  induction short generalizing long value with
  | zero => simp
  | succ short ih =>
      obtain ⟨rest, rfl⟩ : ∃ rest, long = rest + 1 := ⟨long - 1, by omega⟩
      rw [leBytes, List.drop_succ_cons, ih (by omega), Nat.add_sub_add_right, Nat.pow_succ',
        Nat.div_div_eq_div_mul]

/-- Reading a fixed-width number. -/
theorem u32_read (four rest : List UInt8) (length : four.length = 4) :
    Bincode.u32.read (four ++ rest) = some (UInt32.ofNat (leNat four), rest) := by
  have long : 4 ≤ (four ++ rest).length := by
    rw [List.length_append]
    omega
  change (if 4 ≤ (four ++ rest).length then _ else none) = _
  rw [if_pos long, List.take_left' length, List.drop_left' length]

theorem u64_read (eight rest : List UInt8) (length : eight.length = 8) :
    Bincode.u64.read (eight ++ rest) = some (UInt64.ofNat (leNat eight), rest) := by
  have long : 8 ≤ (eight ++ rest).length := by
    rw [List.length_append]
    omega
  change (if 8 ≤ (eight ++ rest).length then _ else none) = _
  rw [if_pos long, List.take_left' length, List.drop_left' length]

/-- The number of bytes of a string. -/
def byteLength (content : String) : Nat :=
  content.toByteArray.data.toList.length

/-- A text starts with the number of its bytes. -/
theorem text_write {content : String} {bytes : List UInt8}
    (written : Bincode.text.write content = some bytes) :
    ∃ body, bytes = leBytes 8 (byteLength content) ++ body ∧
      (Bincode.u8.times (byteLength content)).write content.toByteArray.data.toList =
        some body := by
  have inner : (Bincode.vec Bincode.u8).write content.toByteArray.data.toList = some bytes :=
    written
  rcases Codec.write_choose inner with ⟨left, right, writtenLeft, writtenRight, rfl⟩
  have length : byteLength content = (UInt64.ofNat (byteLength content)).toNat :=
    Codec.length_of_times_write writtenRight
  refine ⟨right, ?_, ?_⟩
  · rw [length, ← Option.some.inj writtenLeft]
    rfl
  · rw [length]
    exact writtenRight

/-- The text without bytes is eight zeros. -/
theorem text_write_of_empty {content : String} {bytes : List UInt8}
    (written : Bincode.text.write content = some bytes) (empty : byteLength content = 0) :
    bytes = leBytes 4 0 ++ leBytes 4 0 := by
  rcases text_write written with ⟨body, rfl, writtenBody⟩
  have nothing : content.toByteArray.data.toList = [] := List.length_eq_zero_iff.mp empty
  rw [empty, nothing] at writtenBody
  have none : [] = body := Option.some.inj writtenBody
  rw [empty, ← none]
  rfl

/-- The bytes of a request: path, action, and the fields after them. -/
theorem hookRequest_write {request : HookRequest} {bytes : List UInt8}
    (written : serialize hookRequestCodec request = some bytes) :
    ∃ path action tail, bytes = path ++ (action ++ tail) ∧
      Bincode.text.write request.path = some path ∧
      Bincode.text.write request.action = some action ∧
      requestTailCodec.write (request.cacheVersion, request.protocolVersion, request.op,
        request.sourceVolumeClass, request.destinationVolumeClass, request.pid,
        request.handleValue) = some tail := by
  have inner : (Bincode.text.seq (Bincode.text.seq requestTailCodec)).write
      (request.path, request.action, request.cacheVersion, request.protocolVersion, request.op,
        request.sourceVolumeClass, request.destinationVolumeClass, request.pid,
        request.handleValue) = some bytes := written
  rcases Codec.write_seq inner with ⟨path, others, writtenPath, writtenOthers, rfl⟩
  rcases Codec.write_seq writtenOthers with ⟨action, tail, writtenAction, writtenTail, rfl⟩
  exact ⟨path, action, tail, rfl, writtenPath, writtenAction, writtenTail⟩

/-- The bytes of an optional volume class. -/
def volumeClassBytes : Option VolumeClass → List UInt8
  | none => [0]
  | some volumeClass => 1 :: leBytes 4 (volumeClassTag volumeClass).toNat

/-- The bytes of an operation. -/
def hookOpBytes : HookOp → List UInt8
  | .read => leBytes 4 0
  | .write => leBytes 4 1

/-- The bytes of the fields after the two strings. -/
theorem requestTail_write (cacheVersion : UInt64) (protocolVersion : UInt8) (op : HookOp)
    (source destination : Option VolumeClass) (pid : UInt32) (handleValue : UInt64) :
    requestTailCodec.write
        (cacheVersion, protocolVersion, op, source, destination, pid, handleValue) =
      some (leBytes 8 cacheVersion.toNat ++ ([protocolVersion] ++ (hookOpBytes op ++
        (volumeClassBytes source ++ (volumeClassBytes destination ++
          (leBytes 4 pid.toNat ++ leBytes 8 handleValue.toNat)))))) := by
  cases op <;> cases source <;> cases destination <;> rfl

/-! ## A request without a path, read eight bytes further on -/

/-- A text takes the bytes it announces. -/
theorem text_read_length {count : UInt64} {input rest : List UInt8} {content : String}
    (read : Bincode.text.read (leBytes 8 count.toNat ++ input) = some (content, rest)) :
    rest.length + count.toNat ≤ input.length := by
  have wrote : Bincode.u64.write count = some (leBytes 8 count.toNat) := rfl
  have counted := Bincode.u64.read_write input wrote
  simp only [Bincode.text, Codec.convert, Option.bind_eq_bind] at read
  rcases Option.bind_eq_some_iff.mp read with ⟨⟨bytes, after⟩, readBytes, built⟩
  rcases Option.bind_eq_some_iff.mp built with ⟨decoded, _, same⟩
  cases Option.some.inj same
  have body : (Bincode.u8.times count.toNat).read input = some (bytes, after) :=
    (Codec.read_choose counted).symm.trans readBytes
  have least := (Bincode.u8.times count.toNat).least_le body
  rw [Codec.times_least] at least
  exact (Nat.mul_one count.toNat) ▸ least

theorem requestTailCodec_least : requestTailCodec.least = 27 := rfl

/-- What is left behind the text is too short for the fields after it. -/
theorem shifted_of_short {count : UInt64} {input : List UInt8}
    (short : input.length < 27 + count.toNat) :
    (Bincode.text.seq requestTailCodec).read (leBytes 8 count.toNat ++ input) = none := by
  cases read : Bincode.text.read (leBytes 8 count.toNat ++ input) with
  | none => simp only [Codec.seq, read, Option.bind_eq_bind, Option.bind_none]
  | some result =>
      rcases result with ⟨content, rest⟩
      have taken := text_read_length read
      have failed : requestTailCodec.read rest = none :=
        requestTailCodec.read_eq_none (by
          rw [requestTailCodec_least]
          omega)
      rw [Codec.read_seq read, failed]
      rfl

/-- The option tag of the destination class makes the variant number too large. -/
theorem hookOp_refused (low high higher : UInt8) (rest : List UInt8) :
    hookOpCodec.read ([low, 1, high, higher] ++ rest) = none := by
  have value : leNat [low, 1, high, higher] =
      low.toNat + 256 * (1 + 256 * (high.toNat + 256 * higher.toNat)) := by
    simp [leNat]
  have lowBound := low.toNat_lt
  have highBound := high.toNat_lt
  have higherBound := higher.toNat_lt
  have round : (UInt32.ofNat (leNat [low, 1, high, higher])).toNat =
      leNat [low, 1, high, higher] :=
    UInt32.toNat_ofNat_of_lt (by
      change _ < 4294967296
      omega)
  have notRead : UInt32.ofNat (leNat [low, 1, high, higher]) ≠ 0 := by
    intro equal
    have := congrArg UInt32.toNat equal
    rw [round, value] at this
    change _ = 0 at this
    omega
  have notWrite : UInt32.ofNat (leNat [low, 1, high, higher]) ≠ 1 := by
    intro equal
    have := congrArg UInt32.toNat equal
    rw [round, value] at this
    change _ = 1 at this
    omega
  simp only [hookOpCodec, Bincode.enumeration, Codec.convert,
    u32_read [low, 1, high, higher] rest rfl, Option.bind_eq_bind, Option.bind_some,
    if_neg notRead, if_neg notWrite, Option.bind_none]

/-- With both classes present the lengths agree, and the operation is refused. -/
theorem shifted_of_classes (protocolVersion : UInt8) (op : HookOp)
    (source destination : VolumeClass) (rest : List UInt8) :
    requestTailCodec.read ([protocolVersion] ++ (hookOpBytes op ++
      (volumeClassBytes (some source) ++ (volumeClassBytes (some destination) ++ rest)))) =
      none := by
  obtain ⟨o0, o1, o2, o3, opBytes⟩ : ∃ o0 o1 o2 o3, hookOpBytes op = [o0, o1, o2, o3] := by
    cases op <;> exact ⟨_, _, _, _, rfl⟩
  obtain ⟨s0, s1, s2, s3, sourceBytes⟩ :
      ∃ s0 s1 s2 s3, volumeClassBytes (some source) = [1, s0, s1, s2, s3] :=
    ⟨_, _, _, _, rfl⟩
  obtain ⟨d0, d1, d2, d3, destinationBytes⟩ :
      ∃ d0 d1 d2 d3, volumeClassBytes (some destination) = [1, d0, d1, d2, d3] :=
    ⟨_, _, _, _, rfl⟩
  rw [opBytes, sourceBytes, destinationBytes, requestTailCodec]
  have refused : (hookOpCodec.seq <| (Bincode.option volumeClassCodec).seq <|
      (Bincode.option volumeClassCodec).seq <| Bincode.u32.seq Bincode.u64).read
        ([s3, 1, d0, d1] ++ ([d2, d3] ++ rest)) = none := by
    simp only [Codec.seq, hookOp_refused, Option.bind_eq_bind, Option.bind_none]
  have counted := u64_read [protocolVersion, o0, o1, o2, o3, 1, s0, s1]
    ([s2] ++ ([s3, 1, d0, d1] ++ ([d2, d3] ++ rest))) rfl
  have version : Bincode.u8.read ([s2] ++ ([s3, 1, d0, d1] ++ ([d2, d3] ++ rest))) =
      some (s2, [s3, 1, d0, d1] ++ ([d2, d3] ++ rest)) := rfl
  apply (Codec.read_seq counted).trans
  rw [Codec.read_seq version, refused]
  rfl

/-- The fields of a request, read as action and fields. -/
theorem shifted_tail {cacheVersion : UInt64} {protocolVersion : UInt8} {op : HookOp}
    {source destination : Option VolumeClass} {pid : UInt32} {handleValue : UInt64}
    {tail : List UInt8}
    (written : requestTailCodec.write
      (cacheVersion, protocolVersion, op, source, destination, pid, handleValue) = some tail) :
    (Bincode.text.seq requestTailCodec).read tail = none := by
  rw [requestTail_write] at written
  cases Option.some.inj written
  by_cases complete : source.isSome ∧ destination.isSome ∧ cacheVersion = 0
  · rcases complete with ⟨hasSource, hasDestination, rfl⟩
    rcases Option.isSome_iff_exists.mp hasSource with ⟨sourceClass, rfl⟩
    rcases Option.isSome_iff_exists.mp hasDestination with ⟨destinationClass, rfl⟩
    have wrote : Bincode.text.write "" = some (leBytes 8 (0 : UInt64).toNat) := by decide
    rw [Codec.read_seq (Bincode.text.read_write _ wrote), shifted_of_classes]
    rfl
  · -- one of the option tags, or at least one byte of text, is missing at the end
    apply shifted_of_short
    have operation : (hookOpBytes op).length = 4 := by cases op <;> rfl
    have positive : cacheVersion ≠ 0 → 0 < cacheVersion.toNat := by
      intro nonzero
      apply Nat.pos_of_ne_zero
      intro equal
      exact nonzero (UInt64.toNat_inj.mp equal)
    cases source with
    | none =>
        cases destination <;> simp [volumeClassBytes, operation] <;> omega
    | some sourceClass =>
        cases destination with
        | none =>
            simp [volumeClassBytes, operation]
            omega
        | some destinationClass =>
            have := positive (by simpa using complete)
            simp [volumeClassBytes, operation]
            omega

/-- A request without its path is not a request. -/
theorem shifted_request {request : HookRequest} {action tail : List UInt8}
    (writtenAction : Bincode.text.write request.action = some action)
    (writtenTail : requestTailCodec.write (request.cacheVersion, request.protocolVersion,
      request.op, request.sourceVolumeClass, request.destinationVolumeClass, request.pid,
      request.handleValue) = some tail) :
    hookRequestCodec.read (action ++ tail) = none := by
  have failed : (Bincode.text.seq (Bincode.text.seq requestTailCodec)).read (action ++ tail) =
      none := by
    rw [Codec.read_seq (Bincode.text.read_write tail writtenAction), shifted_tail writtenTail]
    rfl
  simp only [hookRequestCodec, Codec.imap, Codec.convert, failed, Option.bind_eq_bind,
    Option.bind_none]

/-- The payload of an envelope read from a request without a path. -/
theorem payload_refused {input : List UInt8} (failed : hookRequestCodec.read input = none) :
    payloadCodec.read (leBytes 4 0 ++ input) = none := by
  have tag : Bincode.u32.read (leBytes 4 0 ++ input) = some (0, input) :=
    u32_read (leBytes 4 0) input rfl
  rw [payloadCodec, Codec.read_choose tag, payloadBody, if_pos rfl]
  simp only [payloadVariant, Codec.convert, failed, Option.bind_eq_bind, Option.bind_none]

/-- No request of less than 4 GiB is an envelope. -/
theorem envelope_refused {request : HookRequest} {bytes : List UInt8}
    (written : serialize hookRequestCodec request = some bytes)
    (short : byteLength request.path < 2 ^ 32) : envelopeCodec.read bytes = none := by
  obtain ⟨path, action, tail, rfl, writtenPath, writtenAction, writtenTail⟩ :=
    hookRequest_write written
  by_cases empty : byteLength request.path = 0
  · have tag : Bincode.u32.read (leBytes 4 0 ++ (leBytes 4 0 ++ (action ++ tail))) =
        some (0, leBytes 4 0 ++ (action ++ tail)) := u32_read (leBytes 4 0) _ rfl
    rw [text_write_of_empty writtenPath empty, List.append_assoc, envelopeCodec,
      Codec.read_choose tag, if_pos rfl]
    have failed := payload_refused (shifted_request writtenAction writtenTail)
    simp only [Codec.imap, Codec.convert, failed, Option.bind_eq_bind, Option.bind_none]
  · rcases text_write writtenPath with ⟨body, rfl, _⟩
    have halves : leBytes 8 (byteLength request.path) =
        leBytes 4 (byteLength request.path) ++
          leBytes 4 (byteLength request.path / 256 ^ 4) := by
      rw [← List.take_append_drop 4 (leBytes 8 (byteLength request.path)),
        take_leBytes (by decide), drop_leBytes (by decide)]
    have value : leNat (leBytes 4 (byteLength request.path)) = byteLength request.path := by
      rw [leNat_leBytes]
      exact Nat.mod_eq_of_lt short
    have nonzero : UInt32.ofNat (byteLength request.path) ≠ 0 := by
      intro equal
      have round : (UInt32.ofNat (byteLength request.path)).toNat = byteLength request.path :=
        UInt32.toNat_ofNat_of_lt short
      exact empty (round.symm.trans (congrArg UInt32.toNat equal))
    have tag := u32_read (leBytes 4 (byteLength request.path))
      (leBytes 4 (byteLength request.path / 256 ^ 4) ++ (body ++ (action ++ tail)))
      (length_leBytes _ _)
    rw [value] at tag
    rw [halves, List.append_assoc, List.append_assoc, envelopeCodec, Codec.read_choose tag,
      if_neg nonzero]
    rfl

/-! ## Both generations -/

section Writes

variable {α : Type} {codec : Codec α}

@[simp]
theorem writes_u8 (value : UInt8) : Bincode.u8.Writes value :=
  Codec.writes_byte value

@[simp]
theorem writes_u32 (value : UInt32) : Bincode.u32.Writes value :=
  Codec.writes_number value

@[simp]
theorem writes_u64 (value : UInt64) : Bincode.u64.Writes value :=
  Codec.writes_number value

@[simp]
theorem writes_enumeration {ofTag : UInt32 → Option α} {toTag : α → UInt32}
    {round : ∀ a, ofTag (toTag a) = some a} (value : α) :
    (Bincode.enumeration ofTag toTag round).Writes value :=
  writes_u32 (toTag value)

@[simp]
theorem writes_bool (value : Bool) : Bincode.bool.Writes value :=
  writes_u8 (if value then 1 else 0)

@[simp]
theorem writes_char (value : Char) : Bincode.char.Writes value :=
  ⟨_, rfl⟩

@[simp]
theorem writes_option_iff {value : Option α} :
    (Bincode.option codec).Writes value ↔ ∀ inner ∈ value, codec.Writes inner := by
  rw [Bincode.option, Codec.writes_choose_iff, and_iff_right (writes_u8 _)]
  cases value with
  | none => exact iff_of_true ⟨[], rfl⟩ (by simp)
  | some inner =>
      change codec.Writes inner ↔ _
      simp

/-- A list is written when its length is a `u64`. -/
theorem writes_vec {values : List α} (short : values.length < 2 ^ 64)
    (writes : ∀ value ∈ values, codec.Writes value) : (Bincode.vec codec).Writes values := by
  have count : (UInt64.ofNat values.length).toNat = values.length :=
    UInt64.toNat_ofNat_of_lt short
  rw [Bincode.vec, Codec.writes_choose_iff, count]
  exact ⟨writes_u64 _, Codec.writes_times writes⟩

theorem writes_text {content : String} (short : byteLength content < 2 ^ 64) :
    Bincode.text.Writes content :=
  show (Bincode.vec Bincode.u8).Writes content.toByteArray.data.toList from
    writes_vec short fun value _ => writes_u8 value

/-- A path is written when it is Unicode. -/
theorem writes_pathBuf {path : PathBuf}
    (unicode : (ByteArray.mk path.bytes.toArray).IsValidUTF8)
    (short : path.bytes.length < 2 ^ 64) : pathBufCodec.Writes path := by
  have decoded : String.fromUTF8? ⟨path.bytes.toArray⟩ = some ⟨_, unicode⟩ := dif_pos unicode
  obtain ⟨bytes, written⟩ : Bincode.text.Writes ⟨_, unicode⟩ := writes_text short
  exact ⟨bytes, (congrArg (Option.bind · Bincode.text.write) decoded).trans written⟩

end Writes

/-- A request whose strings fit in memory is written. -/
theorem writes_hookRequest {request : HookRequest} (path : Bincode.text.Writes request.path)
    (action : Bincode.text.Writes request.action) : hookRequestCodec.Writes request := by
  simp [hookRequestCodec, requestTailCodec, hookOpCodec, volumeClassCodec, path, action]

/-- The strings of a payload. -/
def IpcPayloadV1.texts : IpcPayloadV1 → List String
  | .request asked => [asked.path, asked.action]
  | .response answer => [answer.reason]
  | .requestOverride asked =>
      [asked.requesterSid, asked.dataObjectId, asked.action, asked.classification,
        asked.justification, asked.resourcePath] ++ asked.destinationScope.toList
  | .diagnosticsResponse snapshots => snapshots.flatMap fun snapshot =>
      [snapshot.hookFunction, snapshot.abacResource, snapshot.abacAction,
        snapshot.abacEnvironment, snapshot.userSid] ++ snapshot.matchedPolicyId.toList ++
          snapshot.enforcementMode.toList
  | .bypassAlert alert =>
      [alert.stubName, alert.agentId, alert.imagePath, alert.filePath, alert.operation,
        alert.severity, alert.correlationReason] ++ alert.imageSha256.toList
  | .journalDegraded alert => [alert.error]
  | .hashEvidence frame => frame.contentSha256.toList
  | .unhookAck ack => ack.error.toList
  | _ => []

/-- The paths of a payload that are no strings. -/
def IpcPayloadV1.paths : IpcPayloadV1 → List PathBuf
  | .response answer => (answer.cacheHint.map CacheHint.path).toList
  | _ => []

/-- The number of elements of a payload. -/
def IpcPayloadV1.length : IpcPayloadV1 → Nat
  | .diagnosticsResponse snapshots => snapshots.length
  | _ => 0

/-- The lengths of a payload are `u64`s, and its paths are Unicode. -/
structure IpcPayloadV1.IsWritable (payload : IpcPayloadV1) : Prop where
  texts : ∀ text ∈ payload.texts, byteLength text < 2 ^ 64
  paths : ∀ path ∈ payload.paths,
    (ByteArray.mk path.bytes.toArray).IsValidUTF8 ∧ path.bytes.length < 2 ^ 64
  length : payload.length < 2 ^ 64

/-- A payload is written by the codec of its variant. -/
theorem writes_envelope {payload : IpcPayloadV1}
    (writes : (payloadBody (payloadTag payload)).Writes payload) :
    envelopeCodec.Writes (.v1 payload) := by
  refine Codec.writes_choose_iff.mpr ⟨writes_u32 _, ?_⟩
  rw [if_pos rfl, Codec.writes_imap_iff]
  exact Codec.writes_choose_iff.mpr ⟨writes_u32 _, writes⟩

theorem writes_envelope_of_isWritable {payload : IpcPayloadV1} (writable : payload.IsWritable) :
    envelopeCodec.Writes (.v1 payload) := by
  have texts : ∀ text ∈ payload.texts, Bincode.text.Writes text :=
    fun text member => writes_text (writable.texts text member)
  have paths : ∀ path ∈ payload.paths, pathBufCodec.Writes path :=
    fun path member => writes_pathBuf (writable.paths path member).1 (writable.paths path member).2
  apply writes_envelope
  cases payload with
  | request request =>
      exact writes_hookRequest (texts request.path (by simp [IpcPayloadV1.texts]))
        (texts request.action (by simp [IpcPayloadV1.texts]))
  | response response =>
      change hookResponseCodec.Writes response
      simp only [IpcPayloadV1.texts, List.forall_mem_singleton] at texts
      simpa [hookResponseCodec, decisionCodec, cacheHintCodec, classificationCodec, texts,
        IpcPayloadV1.paths] using paths
  | volumeClassQuery query => exact writes_char query.driveLetter
  | volumeClassResponse response =>
      change (Bincode.option volumeClassCodec).Writes response.volumeClass
      simp [volumeClassCodec]
  | requestOverride request =>
      change overrideRequestCodec.Writes request
      simp [IpcPayloadV1.texts] at texts
      simp [overrideRequestCodec]
      grind
  | pullDiagnostics request => exact writes_u64 request.maxEntries
  | diagnosticsResponse snapshots =>
      refine writes_vec writable.length fun snapshot member => ?_
      have inside : ∀ text ∈ (IpcPayloadV1.diagnosticsResponse [snapshot]).texts,
          Bincode.text.Writes text := by
        intro text isText
        apply texts
        simp only [IpcPayloadV1.texts, List.flatMap_cons, List.flatMap_nil, List.append_nil] at isText
        exact List.mem_flatMap.mpr ⟨snapshot, member, isText⟩
      simp [IpcPayloadV1.texts] at inside
      simp [diagnosticSnapshotCodec, classificationSourceCodec]
      grind
  | pullHealth => exact ⟨[], rfl⟩
  | healthResponse snapshot =>
      change hookHealthCodec.Writes snapshot
      simp [hookHealthCodec]
  | bypassAlert alert =>
      change bypassAlertCodec.Writes alert
      simp [IpcPayloadV1.texts] at texts
      simp [bypassAlertCodec, bypassReasonCodec]
      grind
  | journalDegraded alert =>
      change journalDegradedCodec.Writes alert
      simpa [journalDegradedCodec, IpcPayloadV1.texts] using texts
  | hashEvidence frame =>
      change hashEvidenceCodec.Writes frame
      simpa [hashEvidenceCodec, IpcPayloadV1.texts] using texts
  | unhookCommand command =>
      change unhookCommandCodec.Writes command
      simp [unhookCommandCodec, unhookReasonCodec]
  | unhookAck ack =>
      change unhookAckCodec.Writes ack
      simpa [unhookAckCodec, IpcPayloadV1.texts] using texts
  | pollControl poll =>
      change pollControlCodec.Writes poll
      simp [pollControlCodec]
  | controlResponse command =>
      change (Bincode.option unhookCommandCodec).Writes command
      simp [unhookCommandCodec, unhookReasonCodec]

/-- Frames are read as what they were written as.  A request of an old hook DLL is
no envelope and reaches the handler as it is; an envelope is written if its paths are
Unicode, and read back. -/
theorem frames_unambiguous :
    (∀ request : HookRequest, byteLength request.path < 2 ^ 32 →
      (byteLength request.action < 2 ^ 64 →
        ∃ bytes, serialize hookRequestCodec request = some bytes) ∧
      ∀ bytes, serialize hookRequestCodec request = some bytes →
        deserialize envelopeCodec bytes = none ∧ readFrameContent bytes = .legacy request) ∧
      (∀ payload : IpcPayloadV1, payload.IsWritable →
        ∃ bytes, serialize envelopeCodec (.v1 payload) = some bytes) ∧
      ∀ (envelope : IpcEnvelope) (bytes : List UInt8),
        serialize envelopeCodec envelope = some bytes →
          deserialize envelopeCodec bytes = some envelope := by
  refine ⟨?_, ?_, ?_⟩
  · intro request short
    constructor
    · intro shortAction
      exact writes_hookRequest (writes_text (by omega)) (writes_text shortAction)
    · intro bytes written
      have refused : deserialize envelopeCodec bytes = none := by
        rw [deserialize, envelope_refused written short]
        rfl
      refine ⟨refused, ?_⟩
      rw [readFrameContent, refused, deserialize_serialize written]
  · exact fun payload writable => writes_envelope_of_isWritable writable
  · intro envelope bytes written
    exact deserialize_serialize written

/-- The boundary of `hook_ipc_empty_path_boundary`, with every optional field present. -/
def emptyPathRequest : HookRequest where
  path := ""
  action := "Write"
  cacheVersion := 0
  protocolVersion := 1
  op := .write
  sourceVolumeClass := some .localNtfs
  destinationVolumeClass := some .usbRemovable
  pid := 4
  handleValue := 17

/-- An answer with a hint about `C:\é`. -/
def hintedResponse : HookResponseFrame where
  decision := .deny
  reason := "T4"
  cacheHint := some ⟨⟨[67, 58, 92, 195, 169]⟩, .T4, 60⟩
  cacheVersion := 3
  approvalOverride := some false

theorem frames_unambiguous_empty_path :
    (∃ bytes, serialize hookRequestCodec emptyPathRequest = some bytes ∧
      deserialize envelopeCodec bytes = none ∧
      readFrameContent bytes = .legacy emptyPathRequest) ∧
      ∃ bytes, serialize envelopeCodec (.v1 (.response hintedResponse)) = some bytes ∧
        deserialize envelopeCodec bytes = some (.v1 (.response hintedResponse)) := by
  have shortPath : byteLength emptyPathRequest.path < 2 ^ 32 := by decide
  have shortAction : byteLength emptyPathRequest.action < 2 ^ 64 := by decide
  obtain ⟨legacy, envelopes, reads⟩ := frames_unambiguous
  obtain ⟨writes, refused⟩ := legacy emptyPathRequest shortPath
  obtain ⟨bytes, written⟩ := writes shortAction
  have writable : (IpcPayloadV1.response hintedResponse).IsWritable := by
    constructor
    · simp [IpcPayloadV1.texts, hintedResponse]
      decide
    · intro path member
      cases List.mem_singleton.mp member
      exact ⟨String.isValidUTF8 "C:\\é", by decide⟩
    · decide
  obtain ⟨frame, enveloped⟩ := envelopes _ writable
  exact ⟨⟨bytes, written, refused bytes written⟩, frame, enveloped, reads _ _ enveloped⟩

end DlpSystem.Ipc
