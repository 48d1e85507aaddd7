import DlpSystem.Lib.Fallible
import DlpSystem.Server.Migration

/-!
# Secrets after the migration

Every cleartext without a trio is readable after a migration that reports success, every trio
is what it was, and another run finds nothing to do.  After an error, a column is migrated as
a whole or as it was.
-/

namespace DlpSystem.Server

open Lib

/-! ## One column -/

/-- What a committed transaction makes of a column: the cleartext column is gone, the
cleartexts of rows without a trio are readable, and no other trio has changed. -/
structure ColumnMigrated (gcm : Aes256Gcm) (crypto : SecretCrypto) (target : MigrationTarget)
    (before after : SecretTable) : Prop where
  dropped : after.cleartext = none
  readable : ∀ {cleartext : Int → String} {row : TrioRow}, before.cleartext = some cleartext →
    row ∈ before.trios.rows → row.encrypted = none → cleartext row.id ≠ "" →
      ∃ trio ciphertext nonce, after.trios.find row.id = some trio ∧
        trio.encrypted = some ciphertext ∧ trio.nonce = some nonce ∧
          openTrio gcm crypto target.aad ciphertext nonce = .ok (cleartext row.id)
  kept : ∀ {row : TrioRow}, row ∈ before.trios.rows → row.encrypted ≠ none →
    after.trios.find row.id = some row
  empty : ∀ {cleartext : Int → String} {row : TrioRow}, before.cleartext = some cleartext →
    row ∈ before.trios.rows → cleartext row.id = "" → after.trios.find row.id = some row

section OneColumn

variable {env : MigrationEnv} {crypto : SecretCrypto} {target : MigrationTarget}

/-- A row that passed its read-back holds a trio that opens to its cleartext. -/
theorem exists_open_of_verifyRow {row : CleartextRow} {table : SecretTable}
    (verified : verifyRow env crypto target row table = .ok ()) :
    ∃ trio ciphertext nonce, table.trios.find row.id = some trio ∧
      trio.encrypted = some ciphertext ∧ trio.nonce = some nonce ∧
        openTrio env.gcm crypto target.aad ciphertext nonce = .ok row.cleartext := by
  rw [verifyRow] at verified
  split at verified
  · cases verified
  split at verified
  · cases verified
  rename_i trio found
  split at verified
  · rename_i ciphertext nonce hasCiphertext hasNonce
    split at verified
    · cases verified
    rename_i recovered opened
    split at verified
    · cases verified
    rename_i same
    rw [not_not.mp same] at opened
    exact ⟨trio, ciphertext, nonce, found, hasCiphertext, hasNonce, opened⟩
  · cases verified

/-- A migrated row is written and passes its read-back. -/
theorem migrateRow_spec {row : CleartextRow} {table written : SecretTable}
    (migrated : migrateRow env crypto target row table = .ok written) :
    verifyRow env crypto target row written = .ok () ∧
      ∀ id, id ≠ row.id → written.trios.find id = table.trios.find id := by
  rw [migrateRow, SecretCrypto.encrypt_eq] at migrated
  dsimp only at migrated
  split at migrated
  · cases migrated
  obtain ⟨⟨⟩, verified, built⟩ := bind_eq_ok_iff.mp migrated
  cases Except.ok.inj built
  constructor
  · exact verified
  · intro id other
    simp [SecretTable.encryptRow, TrioTable.find_update, other]

theorem migrateRows_cons_of_skipped {row : CleartextRow} {rest : List CleartextRow}
    {table : SecretTable} {rowsEncrypted : Nat} (skipped : ¬ row.IsMigrated) :
    migrateRows env crypto target (row :: rest) table rowsEncrypted =
      migrateRows env crypto target rest table rowsEncrypted := by
  rw [migrateRows]
  split
  · rfl
  · rename_i fresh
    rw [if_pos]
    by_contra nonempty
    exact skipped ⟨by simpa using fresh, nonempty⟩

theorem migrateRows_cons_of_migrated {row : CleartextRow} {rest : List CleartextRow}
    {table : SecretTable} {rowsEncrypted : Nat} (taken : row.IsMigrated) :
    migrateRows env crypto target (row :: rest) table rowsEncrypted =
      (migrateRow env crypto target row table >>= fun written =>
        migrateRows env crypto target rest written (rowsEncrypted + 1)) := by
  rw [migrateRows, taken.1, if_neg Bool.false_ne_true, if_neg taken.2]

/-- Rows that the loop does not migrate keep their trio. -/
theorem migrateRows_frame {rows : List CleartextRow} {table after : SecretTable}
    {rowsEncrypted total : Nat}
    (finished : migrateRows env crypto target rows table rowsEncrypted = .ok (after, total))
    {id : Int} (skipped : ∀ row ∈ rows, row.id = id → ¬ row.IsMigrated) :
    after.trios.find id = table.trios.find id := by
  induction rows generalizing table rowsEncrypted with
  | nil =>
      cases Except.ok.inj finished
      rfl
  | cons row rest ih =>
      have restSkipped : ∀ other ∈ rest, other.id = id → ¬ other.IsMigrated :=
        fun other member => skipped other (List.mem_cons_of_mem row member)
      by_cases taken : row.IsMigrated
      · rw [migrateRows_cons_of_migrated taken] at finished
        obtain ⟨written, migrated, continued⟩ := bind_eq_ok_iff.mp finished
        have other : id ≠ row.id := by
          intro same
          exact skipped row List.mem_cons_self same.symm taken
        exact (ih continued restSkipped).trans ((migrateRow_spec migrated).2 id other)
      · rw [migrateRows_cons_of_skipped taken] at finished
        exact ih finished restSkipped

/-- A migrated row is readable when the loop ends. -/
theorem migrateRows_readable {rows : List CleartextRow} {table after : SecretTable}
    {rowsEncrypted total : Nat}
    (finished : migrateRows env crypto target rows table rowsEncrypted = .ok (after, total))
    (distinct : (rows.map CleartextRow.id).Nodup) {row : CleartextRow} (member : row ∈ rows)
    (taken : row.IsMigrated) :
    ∃ trio ciphertext nonce, after.trios.find row.id = some trio ∧
      trio.encrypted = some ciphertext ∧ trio.nonce = some nonce ∧
        openTrio env.gcm crypto target.aad ciphertext nonce = .ok row.cleartext := by
  induction rows generalizing table rowsEncrypted with
  | nil => cases member
  | cons head rest ih =>
      rw [List.map_cons, List.nodup_cons] at distinct
      rcases List.mem_cons.mp member with rfl | later
      · rw [migrateRows_cons_of_migrated taken] at finished
        obtain ⟨written, migrated, continued⟩ := bind_eq_ok_iff.mp finished
        -- The keys are distinct, so that the rest of the loop does not reach this row.
        have kept : after.trios.find row.id = written.trios.find row.id := by
          apply migrateRows_frame continued
          intro other otherMember same
          exact absurd (same ▸ List.mem_map_of_mem otherMember) distinct.1
        rw [kept]
        exact exists_open_of_verifyRow (migrateRow_spec migrated).1
      · by_cases headTaken : head.IsMigrated
        · rw [migrateRows_cons_of_migrated headTaken] at finished
          obtain ⟨written, -, continued⟩ := bind_eq_ok_iff.mp finished
          exact ih continued distinct.2 later
        · rw [migrateRows_cons_of_skipped headTaken] at finished
          exact ih finished distinct.2 later

theorem mem_selectCleartext {trios : TrioTable} {cleartext : Int → String} {row : TrioRow}
    (member : row ∈ trios.rows) :
    ⟨row.id, cleartext row.id, row.encrypted.isSome⟩ ∈ selectCleartext trios cleartext :=
  List.mem_map_of_mem member

theorem selectCleartext_ids (trios : TrioTable) (cleartext : Int → String) :
    (selectCleartext trios cleartext).map CleartextRow.id = trios.rows.map TrioRow.id := by
  rw [selectCleartext, List.map_map]
  rfl

/-- The selected row with the key of a row is the one made of it. -/
theorem eq_of_mem_selectCleartext {trios : TrioTable} {cleartext : Int → String}
    {row : TrioRow} (member : row ∈ trios.rows) {selected : CleartextRow}
    (isSelected : selected ∈ selectCleartext trios cleartext) (same : selected.id = row.id) :
    selected = ⟨row.id, cleartext row.id, row.encrypted.isSome⟩ := by
  obtain ⟨other, otherMember, rfl⟩ := List.mem_map.mp isSelected
  have found := TrioTable.find_of_mem otherMember
  rw [show other.id = row.id from same, TrioTable.find_of_mem member] at found
  cases Option.some.inj found
  rfl

/-- The loop over the selected rows makes the cleartexts readable and keeps the other trios. -/
theorem columnMigrated_of_migrateRows {table encrypted : SecretTable} {cleartext : Int → String}
    {total : Nat} (present : table.cleartext = some cleartext)
    (finished : migrateRows env crypto target (selectCleartext table.trios cleartext) table 0 =
      .ok (encrypted, total)) :
    ColumnMigrated env.gcm crypto target table { encrypted with cleartext := none } := by
  constructor
  · rfl
  · intro texts row isTexts member null nonempty
    cases Option.some.inj (present.symm.trans isTexts)
    apply migrateRows_readable finished _ (mem_selectCleartext member)
    · exact ⟨by simp [null], nonempty⟩
    · rw [selectCleartext_ids]
      exact table.trios.distinct
  · intro row member populated
    rw [← TrioTable.find_of_mem member]
    apply migrateRows_frame finished
    intro selected isSelected same taken
    rw [eq_of_mem_selectCleartext member isSelected same] at taken
    exact populated (by simpa using taken.1)
  · intro texts row isTexts member blank
    cases Option.some.inj (present.symm.trans isTexts)
    rw [← TrioTable.find_of_mem member]
    apply migrateRows_frame finished
    intro selected isSelected same taken
    rw [eq_of_mem_selectCleartext member isSelected same] at taken
    exact taken.2 blank

/-- A column without cleartext is migrated as it is. -/
theorem columnMigrated_of_dropped {table : SecretTable} (dropped : table.cleartext = none) :
    ColumnMigrated env.gcm crypto target table table := by
  constructor
  · exact dropped
  · intro texts row isTexts
    cases dropped.symm.trans isTexts
  · intro row member _
    exact TrioTable.find_of_mem member
  · intro texts row isTexts
    cases dropped.symm.trans isTexts

/-- A transaction that commits has migrated its column. -/
theorem columnMigrated_of_migrateOneColumn {table after : SecretTable}
    {outcome : PerColumnOutcome}
    (finished : migrateOneColumn env crypto target table = .ok (after, outcome)) :
    ColumnMigrated env.gcm crypto target table after := by
  obtain ⟨⟨⟩, -, probed⟩ := bind_eq_ok_iff.mp finished
  cases present : table.cleartext with
  | none =>
      rw [present] at probed
      cases Except.ok.inj probed
      exact columnMigrated_of_dropped present
  | some cleartext =>
      rw [present] at probed
      obtain ⟨⟨⟩, -, begun⟩ := bind_eq_ok_iff.mp probed
      obtain ⟨⟨⟩, -, selected⟩ := bind_eq_ok_iff.mp begun
      obtain ⟨⟨encrypted, rowsEncrypted⟩, looped, dropped⟩ := bind_eq_ok_iff.mp selected
      obtain ⟨⟨⟩, -, committed⟩ := bind_eq_ok_iff.mp dropped
      obtain ⟨⟨⟩, -, built⟩ := bind_eq_ok_iff.mp committed
      cases Except.ok.inj built
      exact columnMigrated_of_migrateRows present looped

/-- On a dropped column nothing happens, unless the probe fails. -/
theorem migrateOneColumn_of_dropped {table : SecretTable} (dropped : table.cleartext = none) :
    migrateOneColumn env crypto target table =
      if env.fails (.probe target) then .error (.database (.probe target))
      else .ok (table, ⟨0, false⟩) := by
  rw [migrateOneColumn, attempt, dropped]
  split <;> rfl

end OneColumn

/-! ## All columns -/

section Targets

variable {env : MigrationEnv} {crypto : SecretCrypto} {db : MigrationDatabase}

/-- After the loop each column was migrated, or it is as it was and the loop has failed. -/
theorem migrateTargets_spec {targets : List MigrationTarget} (distinct : targets.Nodup)
    {report : MigrationReport} {after : MigrationDatabase}
    {result : Except MigrateError MigrationReport}
    (run : migrateTargets env crypto targets db report = (after, result)) :
    (∀ target ∉ targets, after.columns target = db.columns target) ∧
      ∀ target ∈ targets,
        ColumnMigrated env.gcm crypto target (db.columns target) (after.columns target) ∨
          after.columns target = db.columns target ∧ ∃ error, result = .error error := by
  induction targets generalizing db report with
  | nil =>
      cases run
      constructor
      · exact fun _ _ => rfl
      · intro target member
        cases member
  | cons first rest ih =>
      rw [List.nodup_cons] at distinct
      rw [migrateTargets] at run
      cases finished : migrateOneColumn env crypto first (db.columns first) with
      | error error =>
          rw [finished] at run
          cases run
          constructor
          · exact fun _ _ => rfl
          · exact fun _ _ => .inr ⟨rfl, error, rfl⟩
      | ok outcome =>
          obtain ⟨table, outcome⟩ := outcome
          rw [finished] at run
          obtain ⟨outside, inside⟩ := ih distinct.2 run
          constructor
          · intro target excluded
            rw [List.mem_cons, not_or] at excluded
            rw [outside target excluded.2, db.columns_setColumns_of_ne excluded.1]
          · intro target member
            rcases List.mem_cons.mp member with rfl | later
            · rw [outside target distinct.1, db.columns_setColumns_self]
              exact .inl (columnMigrated_of_migrateOneColumn finished)
            · have different : target ≠ first := by
                rintro rfl
                exact distinct.1 later
              rw [← db.columns_setColumns_of_ne different table]
              exact inside target later

/-- On dropped columns the loop changes nothing and reports nothing. -/
theorem migrateTargets_of_dropped {targets : List MigrationTarget}
    (dropped : ∀ target ∈ targets, (db.columns target).cleartext = none)
    (report : MigrationReport) :
    migrateTargets env crypto targets db report = (db, .ok report) ∨
      ∃ stage, env.fails stage = true ∧
        migrateTargets env crypto targets db report = (db, .error (.database stage)) := by
  induction targets with
  | nil => exact .inl rfl
  | cons first rest ih =>
      rw [migrateTargets, migrateOneColumn_of_dropped (dropped first List.mem_cons_self)]
      cases fails : env.fails (.probe first) with
      | true => exact .inr ⟨.probe first, fails, rfl⟩
      | false =>
          have unreported : report.add first ⟨0, false⟩ = report := rfl
          simp only [Bool.false_eq_true, if_false, db.setColumns_columns, unreported]
          exact ih fun target member => dropped target (List.mem_cons_of_mem first member)

end Targets

/-! ## The signing secret -/

section Jwt

variable {env : MigrationEnv} {crypto : SecretCrypto} {db after : MigrationDatabase}
  {jwtEnvFallback : Option String}

/-- There is no signing secret only without a row. -/
theorem eq_none_of_getJwtSecret {stored : Option JwtSecretRow}
    (missing : getJwtSecret stored = .ok none) : stored = none := by
  cases stored with
  | none => rfl
  | some row =>
      simp only [getJwtSecret] at missing
      split at missing
      · cases missing
      split at missing
      · cases missing
      split at missing
      · cases missing
      · cases Except.ok.inj missing

/-- A row that the migration has written can be read. -/
theorem getJwtSecret_upsertEncrypted (nonce : Nonce) (value now : String) :
    ∃ found, getJwtSecret (some (upsertEncrypted none
      ⟨crypto.version, nonce, env.gcm.aead.encrypt crypto.kek nonce
        (aadFor "secrets_jwt" "secret") (utf8 value)⟩ crypto.version now)) = .ok (some found) := by
  have long : tagLen ≤ (env.gcm.aead.encrypt crypto.kek nonce
      (aadFor "secrets_jwt" "secret") (utf8 value)).length := by
    rw [← env.gcm.tagLength_eq]
    exact env.gcm.aead.tagLength_le ..
  have made := Envelope.new_eq_ok_iff.mpr ⟨long, (rfl : (⟨envelopeVersionV1, nonce,
    env.gcm.aead.encrypt crypto.kek nonce (aadFor "secrets_jwt" "secret") (utf8 value)⟩ :
      Envelope) = _)⟩
  have small : crypto.version.toNat < 256 := crypto.version.toNat_lt
  have inRange : ¬ ((crypto.version.toNat : Int) < 0 ∨ 255 < (crypto.version.toNat : Int)) := by
    omega
  simp only [getJwtSecret, upsertEncrypted, ofSlice_bytes, if_neg inRange, made]
  exact ⟨_, rfl⟩

/-- There is nothing to migrate for the signing secret: it is stored, or the environment has
none. -/
def JwtSettled (jwtEnvFallback : Option String) (db : MigrationDatabase) : Prop :=
  (∃ found, getJwtSecret db.secretsJwt = .ok (some found)) ∨
    db.secretsJwt = none ∧ ∀ value, jwtEnvFallback = some value → value = ""

/-- A successful run settles the signing secret and leaves the columns alone. -/
theorem maybeMigrateJwtEnv_spec {migrated : Bool}
    (run : maybeMigrateJwtEnv env crypto jwtEnvFallback db = .ok (after, migrated)) :
    JwtSettled jwtEnvFallback after ∧ after.columns = db.columns := by
  obtain ⟨⟨⟩, -, read⟩ := bind_eq_ok_iff.mp run
  cases found : getJwtSecret db.secretsJwt with
  | error error =>
      rw [found] at read
      cases read
  | ok stored =>
      rw [found] at read
      cases stored with
      | some envelope =>
          cases Except.ok.inj read
          exact ⟨.inl ⟨envelope, found⟩, rfl⟩
      | none =>
          have missing := eq_none_of_getJwtSecret found
          cases jwtEnvFallback with
          | none =>
              cases Except.ok.inj read
              exact ⟨.inr ⟨missing, fun value present => absurd present.symm (by simp)⟩, rfl⟩
          | some value =>
              by_cases blank : value = ""
              · simp only [if_pos blank] at read
                cases Except.ok.inj read
                exact ⟨.inr ⟨missing, fun _ same => Option.some.inj same ▸ blank⟩, rfl⟩
              · simp only [if_neg blank, SecretCrypto.encrypt_eq, missing] at read
                obtain ⟨⟨⟩, -, built⟩ := bind_eq_ok_iff.mp read
                cases Except.ok.inj built
                exact ⟨.inl (getJwtSecret_upsertEncrypted ..), rfl⟩

/-- A settled signing secret is left alone, unless the read fails. -/
theorem maybeMigrateJwtEnv_of_settled (settled : JwtSettled jwtEnvFallback db) :
    maybeMigrateJwtEnv env crypto jwtEnvFallback db =
      if env.fails .readJwt then .error (.database .readJwt) else .ok (db, false) := by
  simp only [maybeMigrateJwtEnv, attempt]
  split
  · rfl
  · rcases settled with ⟨found, stored⟩ | ⟨missing, blank⟩
    · rw [stored]
      rfl
    · rw [missing]
      cases jwtEnvFallback with
      | none => rfl
      | some value =>
          simp only [getJwtSecret, ok_bind, if_pos (blank value rfl)]
          rfl

end Jwt

/-! ## A whole migration -/

/-- What a migration does to the secrets, given what it left behind and returned. -/
structure KeepsSecrets (env : MigrationEnv) (crypto : SecretCrypto)
    (jwtEnvFallback : Option String) (db after : MigrationDatabase)
    (result : Except MigrateError MigrationReport) : Prop where
  migrated : ∀ report, result = .ok report → ∀ target,
    ColumnMigrated env.gcm crypto target (db.columns target) (after.columns target)
  /-- Another run, whatever fails in it, changes nothing; if it succeeds, and it does if nothing
  fails, it reports nothing. -/
  repeated : ∀ report, result = .ok report → ∀ again : MigrationEnv,
    (migrateSecretsToEncrypted again crypto jwtEnvFallback after).1 = after ∧
      (∀ second, (migrateSecretsToEncrypted again crypto jwtEnvFallback after).2 = .ok second →
        second = .default) ∧
      ((∀ stage, again.fails stage = false) →
        (migrateSecretsToEncrypted again crypto jwtEnvFallback after).2 = .ok .default)
  rolledBack : ∀ error, result = .error error → ∀ target,
    after.columns target = db.columns target ∨
      ColumnMigrated env.gcm crypto target (db.columns target) (after.columns target)

section Whole

variable {env again : MigrationEnv} {crypto : SecretCrypto} {db after : MigrationDatabase}
  {jwtEnvFallback : Option String}

theorem nodup_migrationTargets : migrationTargets.Nodup := by
  decide

/-- A migration that succeeds has migrated all columns and settled the signing secret. -/
theorem migrate_ok {report : MigrationReport}
    (run : migrateSecretsToEncrypted env crypto jwtEnvFallback db = (after, .ok report)) :
    (∀ target, ColumnMigrated env.gcm crypto target (db.columns target) (after.columns target)) ∧
      JwtSettled jwtEnvFallback after := by
  rw [migrateSecretsToEncrypted] at run
  split at run
  · cases (Prod.mk.inj run).2
  rename_i middle columnsReport looped
  split at run
  · cases (Prod.mk.inj run).2
  rename_i final migrated ended
  cases (Prod.mk.inj run).1
  obtain ⟨settled, columns⟩ := maybeMigrateJwtEnv_spec ended
  constructor
  · intro target
    rw [columns]
    rcases (migrateTargets_spec nodup_migrationTargets looped).2 target
      (mem_migrationTargets target) with done | ⟨-, error, failed⟩
    · exact done
    · cases failed
  · exact settled

/-- A migration that fails has migrated each column or left it alone. -/
theorem migrate_error {error : MigrateError}
    (run : migrateSecretsToEncrypted env crypto jwtEnvFallback db = (after, .error error))
    (target : MigrationTarget) :
    after.columns target = db.columns target ∨
      ColumnMigrated env.gcm crypto target (db.columns target) (after.columns target) := by
  have looped : ∀ {middle : MigrationDatabase} {result : Except MigrateError MigrationReport},
      migrateTargets env crypto migrationTargets db .default = (middle, result) →
        middle.columns target = db.columns target ∨
          ColumnMigrated env.gcm crypto target (db.columns target) (middle.columns target) := by
    intro middle result loop
    rcases (migrateTargets_spec nodup_migrationTargets loop).2 target
      (mem_migrationTargets target) with done | ⟨same, -⟩
    · exact .inr done
    · exact .inl same
  rw [migrateSecretsToEncrypted] at run
  split at run
  · rename_i middle failure loop
    cases (Prod.mk.inj run).1
    exact looped loop
  · rename_i middle columnsReport loop
    split at run
    · cases (Prod.mk.inj run).1
      exact looped loop
    · cases (Prod.mk.inj run).2

/-- On a migrated database a run changes nothing. -/
theorem migrate_again (dropped : ∀ target, (db.columns target).cleartext = none)
    (settled : JwtSettled jwtEnvFallback db) :
    migrateSecretsToEncrypted env crypto jwtEnvFallback db = (db, .ok .default) ∨
      ∃ stage, env.fails stage = true ∧
        migrateSecretsToEncrypted env crypto jwtEnvFallback db =
          (db, .error (.database stage)) := by
  rw [migrateSecretsToEncrypted]
  rcases migrateTargets_of_dropped (fun target _ => dropped target) .default with
    looped | ⟨stage, fails, looped⟩
  · rw [looped]
    simp only [maybeMigrateJwtEnv_of_settled settled]
    cases fails : env.fails .readJwt with
    | true => exact .inr ⟨.readJwt, fails, rfl⟩
    | false => exact .inl rfl
  · rw [looped]
    exact .inr ⟨stage, fails, rfl⟩

/-- The migration keeps every secret, can be repeated, and fails for whole columns. -/
theorem migration_keepsSecrets (env : MigrationEnv) (crypto : SecretCrypto)
    (jwtEnvFallback : Option String) (db : MigrationDatabase) :
    KeepsSecrets env crypto jwtEnvFallback db
      (migrateSecretsToEncrypted env crypto jwtEnvFallback db).1
      (migrateSecretsToEncrypted env crypto jwtEnvFallback db).2 := by
  cases run : migrateSecretsToEncrypted env crypto jwtEnvFallback db with
  | mk after result =>
      constructor
      · rintro report rfl
        exact (migrate_ok run).1
      · rintro report rfl again
        obtain ⟨migrated, settled⟩ := migrate_ok run
        rcases migrate_again (fun target => (migrated target).dropped) settled with
          unchanged | ⟨stage, fails, failed⟩
        · rw [unchanged]
          exact ⟨rfl, fun second same => (Except.ok.inj same).symm, fun _ => rfl⟩
        · rw [failed]
          constructor
          · rfl
          constructor
          · intro second same
            cases same
          · intro sound
            rw [sound stage] at fails
            cases fails
      · rintro error rfl target
        exact migrate_error run target

end Whole

end DlpSystem.Server
