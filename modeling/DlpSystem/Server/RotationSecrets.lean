import DlpSystem.Server.Rotation

/-!
# Which secrets a rotation carries over

The loop rewrites the trios of the rotation targets.  The retry queue and the
signing key stay under the old key, which the rotation then retires.
-/

namespace DlpSystem.Server

open Lib

section Columns

variable {env : RotationEnv} {current new : SecretCrypto} {db after : Database}

theorem stored_column_iff {column : SecretColumn} {id : Int} {stored : StoredSecret} :
    db.stored (.column column id) = some stored ↔
      ∃ table row ciphertext, db.column column = some table ∧ table.find id = some row ∧
        row.encrypted = some ciphertext ∧ stored = .trio ciphertext row.nonce := by
  simp only [Database.stored, Option.bind_eq_bind, Option.bind_eq_some_iff, Option.pure_def,
    Option.some.injEq]
  constructor
  · rintro ⟨table, inColumn, row, found, ciphertext, populated, rfl⟩
    exact ⟨table, row, ciphertext, inColumn, found, populated, rfl⟩
  · rintro ⟨table, row, ciphertext, inColumn, found, populated, rfl⟩
    exact ⟨table, inColumn, row, found, ciphertext, populated, rfl⟩

theorem plaintext_eq_some_iff {gcm : Aes256Gcm} {crypto : SecretCrypto} {secret : Secret}
    {bytes : List UInt8} :
    db.plaintext gcm crypto secret = some bytes ↔
      ∃ stored, db.stored secret = some stored ∧
        stored.plaintext gcm crypto secret.aad = some bytes := by
  simp only [Database.plaintext, Option.bind_eq_bind, Option.bind_eq_some_iff]

/-- After its rotation a row holds, under the new KEK, what it held under the old. -/
theorem stored_rotated {done : List SecretColumn}
    (rotated : TargetsRotated env current new db after done) {column : SecretColumn}
    (member : column ∈ done) {id : Int} {stored : StoredSecret}
    (found : db.stored (.column column id) = some stored) :
    ∃ content nonce, stored.plaintext env.gcm current (Secret.column column id).aad =
        some (utf8 content) ∧
      after.stored (.column column id) = some (.trio (env.gcm.aead.encrypt new.kek nonce
        (Secret.column column id).aad (utf8 content)) (some nonce.bytes)) := by
  rcases stored_column_iff.mp found with ⟨table, row, ciphertext, inColumn, isRow, populated, rfl⟩
  rcases rotated.rotated member inColumn with ⟨rotatedTable, inAfter, columnRotated⟩
  obtain ⟨nonce, content, hasNonce, opened, isRotated⟩ :=
    columnRotated.populated isRow populated
  refine ⟨content, env.draw column id, ?_, ?_⟩
  · exact plaintext_trio_iff.mpr ⟨nonce, content, hasNonce, rfl, opened⟩
  · exact stored_column_iff.mpr ⟨rotatedTable, _, _, inAfter, isRotated, rfl, rfl⟩

/-- The new KEK opens what the rotation has written. -/
theorem plaintext_encrypted (gcm : Aes256Gcm) (crypto : SecretCrypto) (nonce : Nonce)
    (aad : List UInt8) (content : String) :
    (StoredSecret.trio (gcm.aead.encrypt crypto.kek nonce aad (utf8 content))
      (some nonce.bytes)).plaintext gcm crypto aad = some (utf8 content) :=
  plaintext_trio_iff.mpr ⟨nonce.bytes, content, rfl, rfl, openTrio_encrypt nonce aad content⟩

/-- The plaintexts of rotated columns are kept. -/
theorem plaintext_rotated {done : List SecretColumn}
    (rotated : TargetsRotated env current new db after done) {column : SecretColumn}
    (member : column ∈ done) {id : Int} {bytes : List UInt8}
    (opened : db.plaintext env.gcm current (.column column id) = some bytes) :
    after.plaintext env.gcm new (.column column id) = some bytes := by
  rcases plaintext_eq_some_iff.mp opened with ⟨stored, found, read⟩
  rcases stored_rotated rotated member found with ⟨content, nonce, content_eq, foundAfter⟩
  cases Option.some.inj (read.symm.trans content_eq)
  exact plaintext_eq_some_iff.mpr ⟨_, foundAfter, plaintext_encrypted ..⟩

end Columns

theorem mem_rotationTargets (column : SecretColumn) : column ∈ rotationTargets := by
  cases column <;> decide

theorem nodup_rotationTargets : rotationTargets.Nodup := by
  decide

/-- The KEK history is no place of a secret. -/
theorem stored_withHistory (db : Database) (history : KekHistory) (secret : Secret) :
    ({ db with kekHistory := history } : Database).stored secret = db.stored secret := by
  cases secret <;> rfl

/-- A rotation that reports success has rotated every column, and left the queue
and the key-value store alone. -/
theorem rotateWithNewKek_ok {env : RotationEnv} {current new : SecretCrypto}
    {db after : Database} {report : RotationReport}
    (run : rotateWithNewKek env current new db = (after, .ok report)) :
    ∃ rotated, TargetsRotated env current new db rotated rotationTargets ∧
      after = { rotated with
        kekHistory := (rotated.kekHistory.retire current.version env.now).1 } := by
  unfold rotateWithNewKek at run
  split at run
  · exact absurd (congrArg Prod.snd run) (by simp)
  split at run
  · exact absurd (congrArg Prod.snd run) (by simp)
  · rename_i rotated rows tables loop
    split at run
    · exact absurd (congrArg Prod.snd run) (by simp)
    · obtain ⟨done, rest, split, _, isRotated, ends⟩ :=
        rotateTargets_spec nodup_rotationTargets loop
      rcases ends with ⟨_, rfl⟩ | ⟨⟨error, failed⟩, _⟩
      · rw [List.append_nil] at split
        rw [split]
        exact ⟨rotated, isRotated, (congrArg Prod.fst run).symm⟩
      · exact absurd failed (by simp)

/-! ## Every secret of the program -/

/-- Every stored secret can be read under a KEK. -/
def Readable (gcm : Aes256Gcm) (crypto : SecretCrypto) (db : Database) : Prop :=
  ∀ secret stored, db.stored secret = some stored →
    ∃ bytes, stored.plaintext gcm crypto secret.aad = some bytes

/-- Every secret has, under the new KEK, the plaintext it had under the old. -/
def SecretsPreserved (gcm : Aes256Gcm) (current new : SecretCrypto) (db after : Database) :
    Prop :=
  ∀ secret bytes, db.plaintext gcm current secret = some bytes →
    after.plaintext gcm new secret = some bytes

/-- Something is stored outside the rotation targets. -/
def Database.HasUntargeted (db : Database) : Prop :=
  db.syslogQueue ≠ [] ∨ db.systemKv keyApprovalSigningKey ≠ none

instance (db : Database) : Decidable db.HasUntargeted :=
  inferInstanceAs (Decidable (_ ∨ _))

/-- Places that the rotation does not visit. -/
def Secret.Untargeted : Secret → Prop
  | .column .. => False
  | .queued _ => True
  | .approvalSigningKey => True

theorem stored_untargeted {db after : Database} {secret : Secret} (untargeted : secret.Untargeted)
    (queue : after.syslogQueue = db.syslogQueue) (keyValues : after.systemKv = db.systemKv) :
    after.stored secret = db.stored secret := by
  cases secret with
  | column column id => exact absurd untargeted (by simp [Secret.Untargeted])
  | queued id => simp only [Database.stored, queue]
  | approvalSigningKey => simp only [Database.stored, keyValues]

theorem exists_untargeted {db : Database} (has : db.HasUntargeted) :
    ∃ secret stored, Secret.Untargeted secret ∧ db.stored secret = some stored := by
  rcases has with queued | keyed
  · rcases List.exists_cons_of_ne_nil queued with ⟨row, rest, shape⟩
    refine ⟨.queued row.id, .trio row.eventJsonEncrypted (some row.eventJsonNonce), trivial, ?_⟩
    simp [Database.stored, shape]
  · rcases Option.ne_none_iff_exists'.mp keyed with ⟨hex, present⟩
    refine ⟨.approvalSigningKey, .envelope hex, trivial, ?_⟩
    simp [Database.stored, present]

theorem hasUntargeted_of_stored {db : Database} {secret : Secret} {stored : StoredSecret}
    (untargeted : secret.Untargeted) (found : db.stored secret = some stored) :
    db.HasUntargeted := by
  cases secret with
  | column column id => exact absurd untargeted (by simp [Secret.Untargeted])
  | queued id =>
      apply Or.inl
      intro empty
      simp [Database.stored, empty] at found
  | approvalSigningKey =>
      apply Or.inr
      intro absent
      simp [Database.stored, absent] at found

/-- A successful rotation keeps every secret exactly when there is none outside the
rotation targets, or the new KEK has the same key. -/
theorem secretsPreserved_iff {env : RotationEnv} {current new : SecretCrypto}
    {db after : Database} {report : RotationReport} (readable : Readable env.gcm current db)
    (run : rotateWithNewKek env current new db = (after, .ok report)) :
    SecretsPreserved env.gcm current new db after ↔
      ¬ db.HasUntargeted ∨ new.kek = current.kek := by
  rcases rotateWithNewKek_ok run with ⟨rotated, isRotated, finished⟩
  have sameStored : ∀ secret, after.stored secret = rotated.stored secret := by
    intro secret
    rw [finished, stored_withHistory]
  constructor
  · intro preserved
    by_contra both
    rw [not_or, not_not] at both
    rcases exists_untargeted both.1 with ⟨secret, stored, untargeted, found⟩
    rcases readable secret stored found with ⟨bytes, opened⟩
    obtain ⟨storedAfter, foundAfter, openedAfter⟩ := plaintext_eq_some_iff.mp
      (preserved secret bytes (plaintext_eq_some_iff.mpr ⟨stored, found, opened⟩))
    rw [sameStored, stored_untargeted untargeted isRotated.queue isRotated.keyValues, found]
      at foundAfter
    cases Option.some.inj foundAfter
    rw [plaintext_of_other_kek both.2 opened] at openedAfter
    exact absurd openedAfter (by simp)
  · intro condition secret bytes opened
    by_cases untargeted : secret.Untargeted
    · rcases plaintext_eq_some_iff.mp opened with ⟨stored, found, read⟩
      rcases condition with none | same
      · exact absurd (hasUntargeted_of_stored untargeted found) none
      · refine plaintext_eq_some_iff.mpr ⟨stored, ?_, plaintext_of_same_kek same.symm read⟩
        rw [sameStored, stored_untargeted untargeted isRotated.queue isRotated.keyValues, found]
    · cases secret with
      | column column id =>
          have kept := plaintext_rotated isRotated (mem_rotationTargets column) opened
          rw [plaintext_eq_some_iff] at kept ⊢
          rw [sameStored]
          exact kept
      | queued id => exact absurd trivial untargeted
      | approvalSigningKey => exact absurd trivial untargeted

/-! ## A server with one password -/

def firstKek : SecretCrypto := .fromKek (sampleKek 1) 1

def secondKek : SecretCrypto := .fromKek (sampleKek 2) 2

def quietEnv : RotationEnv where
  gcm := labelledGcm
  draw _ _ := sampleNonce
  stops _ := false
  now := 0

/-- The ciphertext of a text under the first KEK. -/
def underFirstKek (aad : List UInt8) (content : String) : List UInt8 :=
  labelledGcm.aead.encrypt firstKek.kek sampleNonce aad (utf8 content)

/-- The single row of a configuration table. -/
def singleRow (encrypted nonce : Option (List UInt8)) (version : Option Int) : TrioTable :=
  ⟨[⟨1, encrypted, nonce, version⟩], by simp⟩

/-- An SMTP password, and a retry queue. -/
def passwordDatabase (queue : List QueueRow) : Database where
  column
    | .smtpPassword =>
        some (singleRow
          (some (underFirstKek (aadFor "alert_router_config" "smtp_password") "secret"))
          (some sampleNonce.bytes) (some 1))
    | _ => some (singleRow none none none)
  syslogQueue := queue
  systemKv _ := none
  kekHistory := ⟨[], by simp⟩

def queuedEvent : QueueRow where
  id := 1
  eventJsonEncrypted := underFirstKek (aadFor "syslog_queue" "event_json") "event"
  eventJsonNonce := sampleNonce.bytes

theorem readable_passwordDatabase (queue : List QueueRow)
    (events : ∀ row ∈ queue, row = queuedEvent) :
    Readable labelledGcm firstKek (passwordDatabase queue) := by
  intro secret stored found
  cases secret with
  | column column id =>
      obtain ⟨table, row, ciphertext, inColumn, isRow, populated, rfl⟩ :=
        stored_column_iff.mp found
      have member := (TrioTable.mem_of_find isRow).1
      cases column with
      | smtpPassword =>
          cases Option.some.inj inColumn
          cases List.mem_singleton.mp member
          cases Option.some.inj populated
          exact ⟨_, plaintext_encrypted ..⟩
      | webhookSecret | splunkToken | elkApiKey | jwtSecret | bindPassword =>
          cases Option.some.inj inColumn
          cases List.mem_singleton.mp member
          exact absurd populated (by simp)
  | queued id =>
      rcases Option.map_eq_some_iff.mp found with ⟨row, isRow, rfl⟩
      cases events row (List.mem_of_find?_eq_some isRow)
      exact ⟨_, plaintext_encrypted ..⟩
  | approvalSigningKey => exact absurd found (by simp [Database.stored, passwordDatabase])

/-- The password is carried over. -/
theorem secretsPreserved_without_queue :
    SecretsPreserved labelledGcm firstKek secondKek (passwordDatabase [])
      (rotateWithNewKek quietEnv firstKek secondKek (passwordDatabase [])).1 := by
  have report : (rotateWithNewKek quietEnv firstKek secondKek (passwordDatabase [])).2 =
      .ok ⟨1, 2, 1, ["alert_router_config.smtp_password"]⟩ := by
    decide +kernel
  have run : rotateWithNewKek quietEnv firstKek secondKek (passwordDatabase []) =
      ((rotateWithNewKek quietEnv firstKek secondKek (passwordDatabase [])).1,
        .ok ⟨1, 2, 1, ["alert_router_config.smtp_password"]⟩) := by
    rw [← report]
  have readable : Readable quietEnv.gcm firstKek (passwordDatabase []) :=
    readable_passwordDatabase [] (by simp)
  have condition : ¬ (passwordDatabase []).HasUntargeted := by decide
  exact (secretsPreserved_iff readable run).mpr (Or.inl condition)

/-- A queued event is lost to the new KEK. -/
theorem queued_event_not_preserved :
    Readable labelledGcm firstKek (passwordDatabase [queuedEvent]) ∧
      (rotateWithNewKek quietEnv firstKek secondKek (passwordDatabase [queuedEvent])).2 =
        .ok ⟨1, 2, 1, ["alert_router_config.smtp_password"]⟩ ∧
      ¬ SecretsPreserved labelledGcm firstKek secondKek (passwordDatabase [queuedEvent])
        (rotateWithNewKek quietEnv firstKek secondKek (passwordDatabase [queuedEvent])).1 := by
  refine ⟨readable_passwordDatabase _ (by simp), by decide +kernel, ?_⟩
  intro preserved
  have before : (passwordDatabase [queuedEvent]).plaintext labelledGcm firstKek (.queued 1) =
      some (utf8 "event") := by
    decide +kernel
  have after : (rotateWithNewKek quietEnv firstKek secondKek
      (passwordDatabase [queuedEvent])).1.plaintext labelledGcm secondKek (.queued 1) = none := by
    decide +kernel
  exact absurd ((preserved (.queued 1) _ before).symm.trans after) (by simp)

end DlpSystem.Server
