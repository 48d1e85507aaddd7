import DlpSystem.Lib.Aead
import DlpSystem.Lib.Fallible
import DlpSystem.Lib.Lines

/-!
# Envelopes and the active KEK

`dlp-server::crypto`: the on-disk envelope and the two operations of
`SecretCrypto`.  The cipher is a parameter with the laws of an ideal one, a fresh
nonce is an argument of the encryption that draws it.
-/

namespace DlpSystem.Server

open Lib

/-- A key-encryption key. -/
structure Kek where
  bytes : List UInt8
  length_eq : bytes.length = 32
  deriving DecidableEq

def nonceLen : Nat := 12

def tagLen : Nat := 16

def minEnvelopeLen : Nat := 1 + nonceLen + tagLen

/-- A 96-bit nonce. -/
structure Nonce where
  bytes : List UInt8
  length_eq : bytes.length = nonceLen
  deriving DecidableEq

/-- `nonce_arr.copy_from_slice`, with the length check of its callers. -/
def Nonce.ofSlice (slice : List UInt8) : Option Nonce :=
  if length : slice.length = nonceLen then some ⟨slice, length⟩ else none

/-- AES-256-GCM, as far as the server relies on it. -/
structure Aes256Gcm where
  aead : Aead Kek Nonce
  tagLength_eq : aead.tagLength = tagLen

/-- `CryptoError`. -/
inductive CryptoError
  | unsupportedVersion (version : UInt8)
  | authTagMismatch
  | invalidEnvelope
  | encryptFailed
  | kekNotLoaded
  | kdfFailed
  | dpapiProtectFailed
  | dpapiUnprotectFailed
  deriving DecidableEq

def envelopeVersionV1 : UInt8 := 1

/-- `Envelope`. -/
structure Envelope where
  version : UInt8
  nonce : Nonce
  ciphertext : List UInt8
  deriving DecidableEq

namespace Envelope

/-- `Envelope::new`. -/
def new (version : UInt8) (nonce : Nonce) (ciphertext : List UInt8) : Except CryptoError Envelope :=
  if ciphertext.length < tagLen then .error .invalidEnvelope
  else .ok ⟨version, nonce, ciphertext⟩

/-- `Envelope::serialize`. -/
def serialize (envelope : Envelope) : List UInt8 :=
  envelope.version :: (envelope.nonce.bytes ++ envelope.ciphertext)

/-- `Envelope::deserialize`. -/
def deserialize (blob : List UInt8) : Except CryptoError Envelope :=
  if long : blob.length < minEnvelopeLen then .error .invalidEnvelope
  else
    .ok
      { version := blob.headD 0
        nonce := ⟨(blob.drop 1).take nonceLen, by
          rw [List.length_take, List.length_drop]
          unfold minEnvelopeLen at long
          omega⟩
        ciphertext := blob.drop (1 + nonceLen) }

theorem new_eq_ok_iff {version : UInt8} {nonce : Nonce} {ciphertext : List UInt8}
    {envelope : Envelope} :
    new version nonce ciphertext = .ok envelope ↔
      tagLen ≤ ciphertext.length ∧ envelope = ⟨version, nonce, ciphertext⟩ := by
  unfold new
  split
  · rename_i short
    constructor
    · intro impossible
      exact absurd impossible (by simp)
    · rintro ⟨long, _⟩
      omega
  · rename_i long
    constructor
    · intro same
      exact ⟨by omega, (Except.ok.inj same).symm⟩
    · rintro ⟨_, rfl⟩
      rfl

/-- An envelope survives its bytes. -/
theorem deserialize_serialize {envelope : Envelope} (long : tagLen ≤ envelope.ciphertext.length) :
    deserialize envelope.serialize = .ok envelope := by
  rcases envelope with ⟨version, ⟨nonce, length⟩, ciphertext⟩
  have enough : ¬ (serialize ⟨version, ⟨nonce, length⟩, ciphertext⟩).length < minEnvelopeLen := by
    simp only [serialize, minEnvelopeLen, List.length_cons, List.length_append, length]
    simp only at long
    omega
  have skip : (version :: (nonce ++ ciphertext)).drop (1 + nonceLen) = ciphertext := by
    rw [Nat.add_comm, List.drop_succ_cons, List.drop_left' length]
  simp only [deserialize, serialize, List.headD_cons, List.drop_succ_cons, List.drop_zero,
    List.take_left' length, skip]
  exact dif_neg enough

end Envelope

/-- `SecretCrypto`. -/
structure SecretCrypto where
  kek : Kek
  version : UInt8
  deriving DecidableEq

namespace SecretCrypto

/-- `SecretCrypto::from_kek`. -/
def fromKek (kek : Kek) (version : UInt8) : SecretCrypto :=
  ⟨kek, version⟩

variable (gcm : Aes256Gcm)

/-- `SecretCrypto::encrypt`, with the nonce it draws.  The envelope gets the
version of the KEK. -/
def encrypt (nonce : Nonce) (crypto : SecretCrypto) (plaintext aad : List UInt8) :
    Except CryptoError Envelope :=
  Envelope.new crypto.version nonce (gcm.aead.encrypt crypto.kek nonce aad plaintext)

/-- `SecretCrypto::decrypt_bytes`. -/
def decryptBytes (crypto : SecretCrypto) (envelope : Envelope) (aad : List UInt8) :
    Except CryptoError (List UInt8) :=
  if envelope.version ≠ envelopeVersionV1 then .error (.unsupportedVersion envelope.version)
  else
    match gcm.aead.decrypt crypto.kek envelope.nonce aad envelope.ciphertext with
    | none => .error .authTagMismatch
    | some plaintext => .ok plaintext

/-- `SecretCrypto::decrypt`, for secrets that are text. -/
def decrypt (crypto : SecretCrypto) (envelope : Envelope) (aad : List UInt8) :
    Except CryptoError String :=
  if envelope.version ≠ envelopeVersionV1 then .error (.unsupportedVersion envelope.version)
  else
    match gcm.aead.decrypt crypto.kek envelope.nonce aad envelope.ciphertext with
    | none => .error .authTagMismatch
    | some plaintext =>
        match String.fromUTF8? ⟨plaintext.toArray⟩ with
        | none => .error .invalidEnvelope
        | some content => .ok content

end SecretCrypto

/-- `aad_for`. -/
def aadFor (table column : String) : List UInt8 :=
  utf8 "dlp:secret:" ++ utf8 table ++ utf8 ":" ++ utf8 column

/-! ## Encryption, storage, decryption -/

namespace SecretCrypto

variable {gcm : Aes256Gcm}

/-- Encryption always gives an envelope. -/
theorem encrypt_eq (nonce : Nonce) (crypto : SecretCrypto) (plaintext aad : List UInt8) :
    crypto.encrypt gcm nonce plaintext aad =
      .ok ⟨crypto.version, nonce, gcm.aead.encrypt crypto.kek nonce aad plaintext⟩ := by
  refine Envelope.new_eq_ok_iff.mpr ⟨?_, rfl⟩
  rw [← gcm.tagLength_eq]
  exact gcm.aead.tagLength_le ..

theorem decryptBytes_eq_ok_iff {crypto : SecretCrypto} {envelope : Envelope}
    {aad plaintext : List UInt8} :
    crypto.decryptBytes gcm envelope aad = .ok plaintext ↔
      envelope.version = envelopeVersionV1 ∧
        gcm.aead.decrypt crypto.kek envelope.nonce aad envelope.ciphertext = some plaintext := by
  unfold decryptBytes
  by_cases known : envelope.version = envelopeVersionV1
  · cases gcm.aead.decrypt crypto.kek envelope.nonce aad envelope.ciphertext <;> simp [known]
  · simp [known]

theorem decrypt_eq_ok_iff {crypto : SecretCrypto} {envelope : Envelope} {aad : List UInt8}
    {content : String} :
    crypto.decrypt gcm envelope aad = .ok content ↔
      envelope.version = envelopeVersionV1 ∧
        gcm.aead.decrypt crypto.kek envelope.nonce aad envelope.ciphertext =
          some (utf8 content) := by
  unfold decrypt
  by_cases known : envelope.version = envelopeVersionV1
  · cases opened : gcm.aead.decrypt crypto.kek envelope.nonce aad envelope.ciphertext with
    | none => simp [known]
    | some plaintext =>
        simp only [known, ne_eq, not_true_eq_false, if_false, true_and, Option.some.injEq]
        cases read : String.fromUTF8? ⟨plaintext.toArray⟩ with
        | none =>
            constructor
            · intro impossible
              exact absurd impossible (by simp)
            · rintro rfl
              rw [fromUTF8?_utf8] at read
              exact absurd read (by simp)
        | some decoded =>
            constructor
            · intro same
              cases Except.ok.inj same
              exact (utf8_of_fromUTF8? read).symm
            · rintro rfl
              rw [fromUTF8?_utf8] at read
              rw [Option.some.inj read]
  · simp [known]

end SecretCrypto

/-- Encrypt, write to a blob, read the blob. -/
def storedEnvelope (gcm : Aes256Gcm) (crypto : SecretCrypto) (nonce : Nonce)
    (plaintext aad : List UInt8) : Except CryptoError Envelope := do
  let envelope ← crypto.encrypt gcm nonce plaintext aad
  Envelope.deserialize envelope.serialize

/-- A secret comes back from its blob, as bytes and, when it is text, as text. -/
def RoundTrips (gcm : Aes256Gcm) (crypto : SecretCrypto) (nonce : Nonce)
    (plaintext aad : List UInt8) : Prop :=
  (do
    let envelope ← storedEnvelope gcm crypto nonce plaintext aad
    crypto.decryptBytes gcm envelope aad) = .ok plaintext ∧
  ∀ content, utf8 content = plaintext →
    (do
      let envelope ← storedEnvelope gcm crypto nonce plaintext aad
      crypto.decrypt gcm envelope aad) = .ok content

theorem storedEnvelope_eq (gcm : Aes256Gcm) (crypto : SecretCrypto) (nonce : Nonce)
    (plaintext aad : List UInt8) :
    storedEnvelope gcm crypto nonce plaintext aad =
      .ok ⟨crypto.version, nonce, gcm.aead.encrypt crypto.kek nonce aad plaintext⟩ := by
  have long : tagLen ≤ (gcm.aead.encrypt crypto.kek nonce aad plaintext).length := by
    rw [← gcm.tagLength_eq]
    exact gcm.aead.tagLength_le ..
  simp only [storedEnvelope, SecretCrypto.encrypt_eq]
  exact Envelope.deserialize_serialize long

/-- The version of the KEK is stamped on the envelope and read as the version of
its format, so only envelopes of the first KEK can be opened. -/
theorem envelope_roundTrips_iff (gcm : Aes256Gcm) (kek : Kek) (version : UInt8) (nonce : Nonce)
    (plaintext aad : List UInt8) :
    RoundTrips gcm (.fromKek kek version) nonce plaintext aad ↔ version = envelopeVersionV1 := by
  have opened := gcm.aead.decrypt_encrypt kek nonce aad plaintext
  simp only [RoundTrips, storedEnvelope_eq, ok_bind]
  constructor
  · rintro ⟨decrypted, _⟩
    exact (SecretCrypto.decryptBytes_eq_ok_iff.mp decrypted).1
  · rintro rfl
    refine ⟨SecretCrypto.decryptBytes_eq_ok_iff.mpr ⟨rfl, opened⟩, ?_⟩
    rintro content rfl
    exact SecretCrypto.decrypt_eq_ok_iff.mpr ⟨rfl, opened⟩

/-- A cipher without secrecy, for concrete runs. -/
def labelledGcm : Aes256Gcm where
  aead :=
    { Aead.labelled Kek.bytes 32 Kek.length_eq (by
        rintro ⟨first, _⟩ ⟨second, _⟩ rfl
        rfl) with
      tagLength := tagLen
      tagLength_le := by
        intro key nonce aad plaintext
        simp only [Aead.labelled, List.length_append, key.length_eq, tagLen]
        omega }
  tagLength_eq := rfl

def sampleKek (filler : UInt8) : Kek :=
  ⟨List.replicate 32 filler, List.length_replicate ..⟩

def sampleNonce : Nonce :=
  ⟨List.replicate 12 0, List.length_replicate ..⟩

/-- The second KEK writes envelopes that it refuses to read. -/
theorem second_kek_not_roundTrips :
    (2 : UInt8) ≥ 1 ∧
      ¬ RoundTrips labelledGcm (.fromKek (sampleKek 7) 2) sampleNonce [115]
        (aadFor "system_kv" "approval_signing_key") := by
  refine ⟨by decide, ?_⟩
  rintro ⟨decrypted, _⟩
  rw [storedEnvelope_eq] at decrypted
  exact absurd decrypted (by decide)

end DlpSystem.Server
