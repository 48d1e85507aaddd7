import DlpSystem.Server.Crypto
import Mathlib.Data.List.MinMax

/-!
# Where the server keeps its secrets

The encrypted columns of the configuration tables, the retry queue of syslog
events, the signing key in `system_kv`, and the history of KEKs.  Columns that
neither rotation nor the readers of a secret look at are left out.
-/

namespace DlpSystem.Server

open Lib

/-! ## Encrypted columns -/

/-- The columns with an encrypted trio, `<col>_encrypted`, `<col>_nonce` and
`<col>_version`. -/
inductive SecretColumn
  | smtpPassword
  | webhookSecret
  | splunkToken
  | elkApiKey
  | jwtSecret
  | bindPassword
  deriving DecidableEq

namespace SecretColumn

def table : SecretColumn → String
  | smtpPassword | webhookSecret => "alert_router_config"
  | splunkToken | elkApiKey => "siem_config"
  | jwtSecret => "secrets_jwt"
  | bindPassword => "ldap_config"

def column : SecretColumn → String
  | smtpPassword => "smtp_password"
  | webhookSecret => "webhook_secret"
  | splunkToken => "splunk_token"
  | elkApiKey => "elk_api_key"
  | jwtSecret => "secret"
  | bindPassword => "bind_password"

end SecretColumn

/-- The trio of one row; `none` is NULL. -/
structure TrioRow where
  id : Int
  encrypted : Option (List UInt8)
  nonce : Option (List UInt8)
  version : Option Int
  deriving DecidableEq

/-- The trios of a column.  `id` is the primary key of the table. -/
structure TrioTable where
  rows : List TrioRow
  distinct : (rows.map TrioRow.id).Nodup

namespace TrioTable

/-- The row with this key. -/
def find (table : TrioTable) (id : Int) : Option TrioRow :=
  table.rows.find? fun row => row.id = id

/-- `UPDATE … SET … WHERE id = ?4`, for an update that keeps the key. -/
def update (table : TrioTable) (id : Int) (change : TrioRow → TrioRow)
    (keeps : ∀ row, (change row).id = row.id) : TrioTable where
  rows := table.rows.map fun row => if row.id = id then change row else row
  distinct := by
    have same : (table.rows.map fun row => if row.id = id then change row else row).map
        TrioRow.id = table.rows.map TrioRow.id := by
      rw [List.map_map]
      apply List.map_congr_left
      intro row _
      by_cases matching : row.id = id <;> simp [matching, keeps]
    rw [same]
    exact table.distinct

theorem find_update (table : TrioTable) (id other : Int) (change : TrioRow → TrioRow)
    (keeps : ∀ row, (change row).id = row.id) :
    (table.update id change keeps).find other =
      (table.find other).map fun row => if other = id then change row else row := by
  unfold find update
  rw [List.find?_map]
  have same : ((fun row : TrioRow => decide (row.id = other)) ∘
      fun row => if row.id = id then change row else row) =
      fun row => decide (row.id = other) := by
    funext row
    by_cases matching : row.id = id <;> simp [matching, keeps]
  rw [same]
  cases found : table.rows.find? fun row => decide (row.id = other) with
  | none => rfl
  | some row =>
      have key : row.id = other := by simpa using List.find?_some found
      simp [key]

theorem mem_of_find {table : TrioTable} {id : Int} {row : TrioRow}
    (found : table.find id = some row) : row ∈ table.rows ∧ row.id = id :=
  ⟨List.mem_of_find?_eq_some found, by simpa using List.find?_some found⟩

theorem find_of_mem {table : TrioTable} {row : TrioRow} (member : row ∈ table.rows) :
    table.find row.id = some row := by
  rcases table with ⟨rows, distinct⟩
  unfold find
  simp only at member ⊢
  induction rows with
  | nil => exact absurd member (by simp)
  | cons head rest ih =>
      rw [List.map_cons, List.nodup_cons] at distinct
      rcases List.mem_cons.mp member with rfl | later
      · simp
      · have other : head.id ≠ row.id := by
          intro same
          exact distinct.1 (same ▸ List.mem_map_of_mem later)
        rw [List.find?_cons_of_neg (by simpa using other)]
        exact ih distinct.2 later

end TrioTable

/-! ## KEK history -/

/-- A row of `secret_kek_history`. -/
structure SecretKekRecord where
  version : UInt8
  masterSeedDpapi : List UInt8
  pbkdf2Salt : List UInt8
  pbkdf2Iterations : Nat
  retiredAt : Option Nat
  deriving DecidableEq

/-- `secret_kek_history`.  `version` is the primary key. -/
structure KekHistory where
  rows : List SecretKekRecord
  distinct : (rows.map SecretKekRecord.version).Nodup

def pbkdf2SaltLen : Nat := 16

def pbkdf2DefaultIterations : Nat := 600000

/-- DPAPI and PBKDF2 on the machine of the server. -/
structure KekSource where
  dpapiProtect : List UInt8 → Option (List UInt8)
  dpapiUnprotect : List UInt8 → Option (List UInt8)
  unprotect_protect : ∀ {seed blob}, dpapiProtect seed = some blob → dpapiUnprotect blob = some seed
  deriveKek : List UInt8 → List UInt8 → Nat → Kek

namespace KekHistory

/-- The row that `load_active` and `get_active` select. -/
def active (history : KekHistory) : Option SecretKekRecord :=
  (history.rows.filter fun row => row.retiredAt.isNone).argmax fun row => row.version.toNat

/-- `COALESCE(MAX(version), 0) + 1`, as a `u8`. -/
def nextVersion (history : KekHistory) : UInt8 :=
  UInt8.ofNat ((history.rows.map fun row => row.version.toNat).foldl max 0 + 1)

/-- `INSERT INTO secret_kek_history`. -/
def insert (history : KekHistory) (record : SecretKekRecord) : Option KekHistory :=
  if fresh : record.version ∉ history.rows.map SecretKekRecord.version then
    some
      { rows := history.rows ++ [record]
        distinct := by
          rw [List.map_append, List.nodup_append]
          refine ⟨history.distinct, by simp, ?_⟩
          intro version old other single same
          rw [List.map_singleton, List.mem_singleton] at single
          exact fresh (single ▸ same ▸ old) }
  else none

/-- `secret_kek::retire`, with the number of rows it changes. -/
def retire (history : KekHistory) (version : UInt8) (now : Nat) : KekHistory × Nat :=
  let retired (row : SecretKekRecord) : Bool := row.version = version ∧ row.retiredAt = none
  ({ rows := history.rows.map fun row =>
       if retired row then { row with retiredAt := some now } else row
     distinct := by
       have same : (history.rows.map fun row =>
           if retired row then { row with retiredAt := some now } else row).map
             SecretKekRecord.version = history.rows.map SecretKekRecord.version := by
         rw [List.map_map]
         apply List.map_congr_left
         intro row _
         by_cases matching : retired row <;> simp [matching]
       rw [same]
       exact history.distinct },
    (history.rows.filter retired).length)

end KekHistory

/-! ## The database -/

/-- A row of `syslog_queue`. -/
structure QueueRow where
  id : Int
  eventJsonEncrypted : List UInt8
  eventJsonNonce : List UInt8
  deriving DecidableEq

/-- What the database holds.  A column is `none` before its migration has run. -/
structure Database where
  column : SecretColumn → Option TrioTable
  syslogQueue : List QueueRow
  systemKv : String → Option String
  kekHistory : KekHistory

namespace SecretCrypto

/-- The KEK of a row. -/
def ofRecord (source : KekSource) (record : SecretKekRecord) : Except CryptoError SecretCrypto :=
  match source.dpapiUnprotect record.masterSeedDpapi with
  | none => .error .dpapiUnprotectFailed
  | some seed =>
      if record.pbkdf2Salt.length ≠ pbkdf2SaltLen then .error .kdfFailed
      else
        .ok (fromKek (source.deriveKek seed record.pbkdf2Salt record.pbkdf2Iterations)
          record.version)

/-- `SecretCrypto::load_active`. -/
def loadActive (source : KekSource) (history : KekHistory) : Except CryptoError SecretCrypto :=
  match history.active with
  | none => .error .kekNotLoaded
  | some record => ofRecord source record

/-- The random input of a new KEK. -/
structure FreshKek where
  seed : List UInt8
  salt : List UInt8
  salt_length : salt.length = pbkdf2SaltLen

/-- `SecretCrypto::create_new_version`. -/
def createNewVersion (source : KekSource) (fresh : FreshKek) (history : KekHistory) :
    Except CryptoError (KekHistory × SecretCrypto) :=
  match source.dpapiProtect fresh.seed with
  | none => .error .dpapiProtectFailed
  | some wrapped =>
      match history.insert
        { version := history.nextVersion
          masterSeedDpapi := wrapped
          pbkdf2Salt := fresh.salt
          pbkdf2Iterations := pbkdf2DefaultIterations
          retiredAt := none } with
      | none => .error .kdfFailed
      | some inserted =>
          .ok (inserted,
            fromKek (source.deriveKek fresh.seed fresh.salt pbkdf2DefaultIterations)
              history.nextVersion)

end SecretCrypto

/-! ## Reading a secret -/

/-- What can be wrong with a stored trio. -/
inductive TrioError
  | nonceLength (length : Nat)
  | envelope (error : CryptoError)
  | decrypt (error : CryptoError)
  deriving DecidableEq

/-- How every reader of a trio opens it: the format version is not stored and
taken to be the first one. -/
def openTrio (gcm : Aes256Gcm) (crypto : SecretCrypto) (aad ciphertext nonce : List UInt8) :
    Except TrioError String :=
  match Nonce.ofSlice nonce with
  | none => .error (.nonceLength nonce.length)
  | some nonce =>
      match Envelope.new envelopeVersionV1 nonce ciphertext with
      | .error error => .error (.envelope error)
      | .ok envelope =>
          match crypto.decrypt gcm envelope aad with
          | .error error => .error (.decrypt error)
          | .ok plaintext => .ok plaintext

def hexDigit (digit : Char) : Option UInt8 :=
  if '0' ≤ digit ∧ digit ≤ '9' then some (digit.toNat - 48).toUInt8
  else if 'a' ≤ digit ∧ digit ≤ 'f' then some (digit.toNat - 87).toUInt8
  else if 'A' ≤ digit ∧ digit ≤ 'F' then some (digit.toNat - 55).toUInt8
  else none

/-- `hex::decode`. -/
def hexDecode : List Char → Option (List UInt8)
  | [] => some []
  | [_] => none
  | high :: low :: rest => do
      let high ← hexDigit high
      let low ← hexDigit low
      let rest ← hexDecode rest
      pure ((16 * high + low) :: rest)

/-- How `ApprovalTokenService::new` opens its key: the whole envelope is stored. -/
def openEnvelope (gcm : Aes256Gcm) (crypto : SecretCrypto) (aad : List UInt8) (hex : String) :
    Option (List UInt8) := do
  let blob ← hexDecode hex.toList
  let envelope ← (Envelope.deserialize blob).toOption
  (crypto.decryptBytes gcm envelope aad).toOption

def keyApprovalSigningKey : String := "approval_signing_key_encrypted"

/-- The places of a secret. -/
inductive Secret
  | column (column : SecretColumn) (id : Int)
  | queued (id : Int)
  | approvalSigningKey
  deriving DecidableEq

/-- The associated data of a secret. -/
def Secret.aad : Secret → List UInt8
  | .column target _ => aadFor target.table target.column
  | .queued _ => aadFor "syslog_queue" "event_json"
  | .approvalSigningKey => aadFor "system_kv" "approval_signing_key"

/-- What is stored for a secret. -/
inductive StoredSecret
  | trio (ciphertext : List UInt8) (nonce : Option (List UInt8))
  | envelope (hex : String)
  deriving DecidableEq

/-- What is stored in a place. -/
def Database.stored (db : Database) : Secret → Option StoredSecret
  | .column column id => do
      let table ← db.column column
      let row ← table.find id
      let ciphertext ← row.encrypted
      pure (.trio ciphertext row.nonce)
  | .queued id =>
      (db.syslogQueue.find? fun row => row.id = id).map fun row =>
        .trio row.eventJsonEncrypted (some row.eventJsonNonce)
  | .approvalSigningKey => (db.systemKv keyApprovalSigningKey).map .envelope

/-- The plaintext of what is stored, under a KEK. -/
def StoredSecret.plaintext (gcm : Aes256Gcm) (crypto : SecretCrypto) (aad : List UInt8) :
    StoredSecret → Option (List UInt8)
  | .trio ciphertext nonce => do
      let nonce ← nonce
      let content ← (openTrio gcm crypto aad ciphertext nonce).toOption
      pure (utf8 content)
  | .envelope hex => openEnvelope gcm crypto aad hex

/-- The plaintext of a secret, under a KEK. -/
def Database.plaintext (gcm : Aes256Gcm) (crypto : SecretCrypto) (db : Database)
    (secret : Secret) : Option (List UInt8) := do
  let stored ← db.stored secret
  stored.plaintext gcm crypto secret.aad

/-! ## One key opens a secret -/

section Opening

variable {gcm : Aes256Gcm} {crypto other : SecretCrypto}

@[simp]
theorem ofSlice_bytes (nonce : Nonce) : Nonce.ofSlice nonce.bytes = some nonce :=
  dif_pos nonce.length_eq

theorem openTrio_eq_ok_iff {aad ciphertext nonce : List UInt8} {content : String} :
    openTrio gcm crypto aad ciphertext nonce = .ok content ↔
      tagLen ≤ ciphertext.length ∧ ∃ slice, Nonce.ofSlice nonce = some slice ∧
        gcm.aead.decrypt crypto.kek slice aad ciphertext = some (utf8 content) := by
  unfold openTrio
  cases sliced : Nonce.ofSlice nonce with
  | none => simp
  | some slice =>
      by_cases long : tagLen ≤ ciphertext.length
      · have made := Envelope.new_eq_ok_iff.mpr
          ⟨long, (rfl : (⟨envelopeVersionV1, slice, ciphertext⟩ : Envelope) = _)⟩
        simp only [made, long, true_and, Option.some.injEq, exists_eq_left']
        have opened := @SecretCrypto.decrypt_eq_ok_iff gcm crypto
          ⟨envelopeVersionV1, slice, ciphertext⟩ aad content
        simp only [true_and] at opened
        rw [← opened]
        cases crypto.decrypt gcm ⟨envelopeVersionV1, slice, ciphertext⟩ aad <;> simp
      · have refused : Envelope.new envelopeVersionV1 slice ciphertext =
            .error .invalidEnvelope := if_pos (by omega)
        simp [refused, long]

/-- A secret encrypted under a KEK is opened by it. -/
theorem openTrio_encrypt (nonce : Nonce) (aad : List UInt8) (content : String) :
    openTrio gcm crypto aad (gcm.aead.encrypt crypto.kek nonce aad (utf8 content)) nonce.bytes =
      .ok content := by
  refine openTrio_eq_ok_iff.mpr ⟨?_, nonce, ofSlice_bytes nonce, ?_⟩
  · rw [← gcm.tagLength_eq]
    exact gcm.aead.tagLength_le ..
  · exact gcm.aead.decrypt_encrypt ..

theorem toOption_eq_some_iff {ε α : Type} {result : Except ε α} {value : α} :
    result.toOption = some value ↔ result = .ok value := by
  cases result <;> simp [Except.toOption]

theorem plaintext_trio_iff {aad ciphertext bytes : List UInt8} {nonce : Option (List UInt8)} :
    (StoredSecret.trio ciphertext nonce).plaintext gcm crypto aad = some bytes ↔
      ∃ slice content, nonce = some slice ∧ utf8 content = bytes ∧
        openTrio gcm crypto aad ciphertext slice = .ok content := by
  simp only [StoredSecret.plaintext, Option.bind_eq_bind, Option.bind_eq_some_iff,
    toOption_eq_some_iff, Option.pure_def, Option.some.injEq]
  constructor
  · rintro ⟨slice, rfl, content, opened, rfl⟩
    exact ⟨slice, content, rfl, rfl, opened⟩
  · rintro ⟨slice, content, rfl, rfl, opened⟩
    exact ⟨slice, rfl, content, opened, rfl⟩

theorem plaintext_envelope_iff {aad bytes : List UInt8} {hex : String} :
    (StoredSecret.envelope hex).plaintext gcm crypto aad = some bytes ↔
      ∃ blob envelope, hexDecode hex.toList = some blob ∧
        Envelope.deserialize blob = .ok envelope ∧ envelope.version = envelopeVersionV1 ∧
        gcm.aead.decrypt crypto.kek envelope.nonce aad envelope.ciphertext = some bytes := by
  simp only [StoredSecret.plaintext, openEnvelope, Option.bind_eq_bind, Option.bind_eq_some_iff,
    toOption_eq_some_iff, SecretCrypto.decryptBytes_eq_ok_iff]
  constructor
  · rintro ⟨blob, decoded, envelope, parsed, known, opened⟩
    exact ⟨blob, envelope, decoded, parsed, known, opened⟩
  · rintro ⟨blob, envelope, decoded, parsed, known, opened⟩
    exact ⟨blob, decoded, envelope, parsed, known, opened⟩

/-- Only the key matters for reading, not its version. -/
theorem plaintext_of_same_kek {stored : StoredSecret} {aad bytes : List UInt8}
    (same : crypto.kek = other.kek) (opened : stored.plaintext gcm crypto aad = some bytes) :
    stored.plaintext gcm other aad = some bytes := by
  cases stored with
  | trio ciphertext nonce =>
      rcases plaintext_trio_iff.mp opened with ⟨slice, content, rfl, rfl, openedTrio⟩
      refine plaintext_trio_iff.mpr ⟨slice, content, rfl, rfl, ?_⟩
      rw [openTrio_eq_ok_iff] at openedTrio ⊢
      rw [← same]
      exact openedTrio
  | envelope hex =>
      rw [plaintext_envelope_iff] at opened ⊢
      rw [← same]
      exact opened

/-- What one key opens, another does not. -/
theorem plaintext_of_other_kek {stored : StoredSecret} {aad bytes : List UInt8}
    (different : other.kek ≠ crypto.kek) (opened : stored.plaintext gcm crypto aad = some bytes) :
    stored.plaintext gcm other aad = none := by
  apply Option.eq_none_iff_forall_ne_some.mpr
  intro otherBytes otherOpened
  cases stored with
  | trio ciphertext nonce =>
      rcases plaintext_trio_iff.mp opened with ⟨slice, content, rfl, _, openedTrio⟩
      rcases plaintext_trio_iff.mp otherOpened with ⟨_, otherContent, same, _, otherTrio⟩
      cases Option.some.inj same
      rcases openTrio_eq_ok_iff.mp openedTrio with ⟨_, sliced, isSlice, decrypted⟩
      rcases openTrio_eq_ok_iff.mp otherTrio with ⟨_, _, otherIsSlice, otherDecrypted⟩
      cases Option.some.inj (isSlice.symm.trans otherIsSlice)
      rw [gcm.aead.decrypt_eq_none_of_ne decrypted different] at otherDecrypted
      exact absurd otherDecrypted (by simp)
  | envelope hex =>
      rcases plaintext_envelope_iff.mp opened with ⟨blob, envelope, decoded, parsed, _, decrypted⟩
      obtain ⟨_, _, otherDecoded, otherParsed, _, otherDecrypted⟩ :=
        plaintext_envelope_iff.mp otherOpened
      cases Option.some.inj (decoded.symm.trans otherDecoded)
      cases Except.ok.inj (parsed.symm.trans otherParsed)
      rw [gcm.aead.decrypt_eq_none_of_ne decrypted different] at otherDecrypted
      exact absurd otherDecrypted (by simp)

end Opening

end DlpSystem.Server
