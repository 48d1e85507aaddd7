import DlpSystem.Server.Rotation

/-!
# From cleartext columns to encrypted ones

`migrate_secrets_to_encrypted`: each target column is encrypted and dropped in one
transaction, then the signing secret of the environment goes into `secrets_jwt`.  Any
statement may fail.  An error before the commit rolls the column back.
-/

namespace DlpSystem.Server

open Lib

/-! ## The database -/

/-- `MIGRATION_TARGETS`, as a type. -/
inductive MigrationTarget
  | smtpPassword
  | webhookSecret
  | splunkToken
  | elkApiKey
  deriving DecidableEq

namespace MigrationTarget

def secretColumn : MigrationTarget → SecretColumn
  | smtpPassword => .smtpPassword
  | webhookSecret => .webhookSecret
  | splunkToken => .splunkToken
  | elkApiKey => .elkApiKey

def table (target : MigrationTarget) : String := target.secretColumn.table

def column (target : MigrationTarget) : String := target.secretColumn.column

/-- The AAD of the target's secrets. -/
def aad (target : MigrationTarget) : List UInt8 := aadFor target.table target.column

end MigrationTarget

/-- `MIGRATION_TARGETS`. -/
def migrationTargets : List MigrationTarget :=
  [.smtpPassword, .webhookSecret, .splunkToken, .elkApiKey]

theorem mem_migrationTargets (target : MigrationTarget) : target ∈ migrationTargets := by
  cases target <;> decide

/-- The columns of a target: the trios, and the cleartext by the key of the row.  `none` is a
cleartext column that was dropped. -/
structure SecretTable where
  trios : TrioTable
  cleartext : Option (Int → String)

/-- The row of `secrets_jwt`. -/
structure JwtSecretRow where
  secretEncrypted : List UInt8
  secretNonce : List UInt8
  secretVersion : Int
  createdAt : String
  rotatedAt : Option String
  deriving DecidableEq

/-- What the migration looks at. -/
structure MigrationDatabase where
  columns : MigrationTarget → SecretTable
  secretsJwt : Option JwtSecretRow

/-! ## Errors and reports -/

/-- The statements of a migration. -/
inductive MigrationStage
  | probe (target : MigrationTarget)
  | begin (target : MigrationTarget)
  | select (target : MigrationTarget)
  | update (target : MigrationTarget) (id : Int)
  | readBack (target : MigrationTarget) (id : Int)
  | dropColumn (target : MigrationTarget)
  | commit (target : MigrationTarget)
  | readJwt
  | writeJwt
  deriving DecidableEq

/-- What can be wrong with the row of `secrets_jwt`. -/
inductive JwtRowError
  | invalidNonce
  | versionOutOfRange (version : Int)
  | invalidEncrypted
  deriving DecidableEq

inductive MigrateError
  | database (stage : MigrationStage)
  | noRow (target : MigrationTarget) (id : Int)
  | encrypt (target : MigrationTarget) (error : CryptoError)
  | verify (target : MigrationTarget) (id : Int) (error : TrioError)
  | plaintextMismatch (target : MigrationTarget) (id : Int)
  | jwtRow (error : JwtRowError)
  | encryptJwt (error : CryptoError)
  deriving DecidableEq

/-- `PerColumnOutcome`. -/
structure PerColumnOutcome where
  rowsEncrypted : Nat
  dropped : Bool
  deriving DecidableEq

/-- `MigrationReport`. -/
structure MigrationReport where
  rowsEncrypted : Nat
  jwtMigratedFromEnv : Bool
  cleartextColumnsDropped : List String
  deriving DecidableEq

/-- `MigrationReport::default`. -/
def MigrationReport.default : MigrationReport := ⟨0, false, []⟩

/-- What a migration brings along: the cipher, the nonces it will draw, the statements that
fail, and the time. -/
structure MigrationEnv where
  gcm : Aes256Gcm
  draw : MigrationTarget → Int → Nonce
  drawJwt : Nonce
  fails : MigrationStage → Bool
  nowRfc3339 : String

/-! ## One column -/

/-- A row of the `SELECT` in `migrate_one_column`. -/
structure CleartextRow where
  id : Int
  cleartext : String
  alreadyEncrypted : Bool
  deriving DecidableEq

/-- The row is encrypted: its trio is NULL, and it has a cleartext. -/
def CleartextRow.IsMigrated (row : CleartextRow) : Prop :=
  row.alreadyEncrypted = false ∧ row.cleartext ≠ ""

instance (row : CleartextRow) : Decidable row.IsMigrated :=
  inferInstanceAs (Decidable (_ ∧ _))

/-- The rows that the `SELECT` returns, with the cleartexts of the column. -/
def selectCleartext (trios : TrioTable) (cleartext : Int → String) : List CleartextRow :=
  trios.rows.map fun row => ⟨row.id, cleartext row.id, row.encrypted.isSome⟩

/-- The `UPDATE` of one row. -/
def SecretTable.encryptRow (table : SecretTable) (crypto : SecretCrypto) (id : Int)
    (envelope : Envelope) : SecretTable where
  trios := table.trios.update id (reencrypted crypto envelope) (reencrypted_id crypto envelope)
  cleartext := table.cleartext.map fun texts => Function.update texts id ""

section Migrate

variable (env : MigrationEnv) (crypto : SecretCrypto)

/-- The read-back of one row. -/
def verifyRow (target : MigrationTarget) (row : CleartextRow) (table : SecretTable) :
    Except MigrateError Unit :=
  if env.fails (.readBack target row.id) then .error (.database (.readBack target row.id))
  else
    match table.trios.find row.id with
    | none => .error (.noRow target row.id)
    | some back =>
        match back.encrypted, back.nonce with
        | some ciphertext, some nonce =>
            match openTrio env.gcm crypto target.aad ciphertext nonce with
            | .error error => .error (.verify target row.id error)
            | .ok recovered =>
                if recovered ≠ row.cleartext then .error (.plaintextMismatch target row.id)
                else .ok ()
        | _, _ => .error (.database (.readBack target row.id))

/-- The encryption of one row, with its read-back. -/
def migrateRow (target : MigrationTarget) (row : CleartextRow) (table : SecretTable) :
    Except MigrateError SecretTable :=
  match crypto.encrypt env.gcm (env.draw target row.id) (utf8 row.cleartext) target.aad with
  | .error error => .error (.encrypt target error)
  | .ok envelope =>
      if env.fails (.update target row.id) then .error (.database (.update target row.id))
      else do
        let written := table.encryptRow crypto row.id envelope
        verifyRow env crypto target row written
        return written

/-- The loop of `migrate_one_column`. -/
def migrateRows (target : MigrationTarget) :
    List CleartextRow → SecretTable → Nat → Except MigrateError (SecretTable × Nat)
  | [], table, rowsEncrypted => .ok (table, rowsEncrypted)
  | row :: rest, table, rowsEncrypted =>
      if row.alreadyEncrypted then migrateRows target rest table rowsEncrypted
      else if row.cleartext = "" then migrateRows target rest table rowsEncrypted
      else do
        let written ← migrateRow env crypto target row table
        migrateRows target rest written (rowsEncrypted + 1)

/-- A statement that may fail. -/
def attempt (stage : MigrationStage) : Except MigrateError Unit :=
  if env.fails stage then .error (.database stage) else .ok ()

/-- `migrate_one_column`. -/
def migrateOneColumn (target : MigrationTarget) (table : SecretTable) :
    Except MigrateError (SecretTable × PerColumnOutcome) := do
  attempt env (.probe target)
  match table.cleartext with
  | none => return (table, ⟨0, false⟩)
  | some cleartext => do
      attempt env (.begin target)
      attempt env (.select target)
      let (encrypted, rowsEncrypted) ←
        migrateRows env crypto target (selectCleartext table.trios cleartext) table 0
      attempt env (.dropColumn target)
      attempt env (.commit target)
      return ({ encrypted with cleartext := none }, ⟨rowsEncrypted, true⟩)

/-- Replace the columns of a target. -/
def MigrationDatabase.setColumns (db : MigrationDatabase) (target : MigrationTarget)
    (table : SecretTable) : MigrationDatabase :=
  { db with columns := Function.update db.columns target table }

@[simp]
theorem MigrationDatabase.columns_setColumns_self (db : MigrationDatabase)
    (target : MigrationTarget) (table : SecretTable) :
    (db.setColumns target table).columns target = table := by
  simp [setColumns]

theorem MigrationDatabase.columns_setColumns_of_ne (db : MigrationDatabase)
    {target other : MigrationTarget} (different : other ≠ target) (table : SecretTable) :
    (db.setColumns target table).columns other = db.columns other := by
  simp [setColumns, different]

@[simp]
theorem MigrationDatabase.setColumns_columns (db : MigrationDatabase)
    (target : MigrationTarget) : db.setColumns target (db.columns target) = db := by
  simp [setColumns]

/-- The report after the outcome of one target. -/
def MigrationReport.add (report : MigrationReport) (target : MigrationTarget)
    (outcome : PerColumnOutcome) : MigrationReport :=
  { report with
    rowsEncrypted := report.rowsEncrypted + outcome.rowsEncrypted
    cleartextColumnsDropped :=
      if outcome.dropped then
        report.cleartextColumnsDropped ++ [target.table ++ "." ++ target.column]
      else report.cleartextColumnsDropped }

/-- The loop of `migrate_secrets_to_encrypted` over the targets. -/
def migrateTargets : List MigrationTarget → MigrationDatabase → MigrationReport →
    MigrationDatabase × Except MigrateError MigrationReport
  | [], db, report => (db, .ok report)
  | target :: rest, db, report =>
      match migrateOneColumn env crypto target (db.columns target) with
      | .error error => (db, .error error)
      | .ok (table, outcome) =>
          migrateTargets rest (db.setColumns target table) (report.add target outcome)

/-! ## The signing secret -/

/-- `jwt_secret::get`. -/
def getJwtSecret : Option JwtSecretRow → Except JwtRowError (Option (Envelope × UInt8))
  | none => .ok none
  | some row =>
      match Nonce.ofSlice row.secretNonce with
      | none => .error .invalidNonce
      | some nonce =>
          if row.secretVersion < 0 ∨ 255 < row.secretVersion then
            .error (.versionOutOfRange row.secretVersion)
          else
            match Envelope.new envelopeVersionV1 nonce row.secretEncrypted with
            | .error _ => .error .invalidEncrypted
            | .ok envelope => .ok (some (envelope, row.secretVersion.toNat.toUInt8))

/-- `upsert_encrypted`. -/
def upsertEncrypted (stored : Option JwtSecretRow) (envelope : Envelope) (kekVersion : UInt8)
    (now : String) : JwtSecretRow :=
  match stored with
  | some row =>
      { row with
        secretEncrypted := envelope.ciphertext
        secretNonce := envelope.nonce.bytes
        secretVersion := kekVersion.toNat
        rotatedAt := some now }
  | none => ⟨envelope.ciphertext, envelope.nonce.bytes, kekVersion.toNat, now, none⟩

/-- `maybe_migrate_jwt_env`. -/
def maybeMigrateJwtEnv (jwtEnvFallback : Option String) (db : MigrationDatabase) :
    Except MigrateError (MigrationDatabase × Bool) := do
  attempt env .readJwt
  match getJwtSecret db.secretsJwt with
  | .error error => .error (.jwtRow error)
  | .ok (some _) => return (db, false)
  | .ok none =>
      match jwtEnvFallback with
      | none => return (db, false)
      | some value =>
          if value = "" then return (db, false)
          else
            match crypto.encrypt env.gcm env.drawJwt (utf8 value) (aadFor "secrets_jwt" "secret")
            with
            | .error error => .error (.encryptJwt error)
            | .ok envelope => do
                attempt env .writeJwt
                let row := upsertEncrypted db.secretsJwt envelope crypto.version env.nowRfc3339
                return ({ db with secretsJwt := some row }, true)

/-- `migrate_secrets_to_encrypted`. -/
def migrateSecretsToEncrypted (jwtEnvFallback : Option String) (db : MigrationDatabase) :
    MigrationDatabase × Except MigrateError MigrationReport :=
  match migrateTargets env crypto migrationTargets db .default with
  | (migrated, .error error) => (migrated, .error error)
  | (migrated, .ok report) =>
      match maybeMigrateJwtEnv env crypto jwtEnvFallback migrated with
      | .error error => (migrated, .error error)
      | .ok (after, jwtMigrated) =>
          (after,
            .ok (if jwtMigrated then { report with jwtMigratedFromEnv := true } else report))

end Migrate

end DlpSystem.Server
