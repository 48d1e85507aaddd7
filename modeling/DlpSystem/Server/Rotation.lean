import DlpSystem.Server.SecretStore

/-!
# KEK rotation

`rotate_kek`: insert a new KEK, re-encrypt the rotation targets one transaction at
a time, retire the old KEK.  A run may stop before any of its transactions, by an
error of the database or with the process; what was committed before stays.
-/

namespace DlpSystem.Server

open Lib

/-- `ROTATION_TARGETS`. -/
def rotationTargets : List SecretColumn :=
  [.smtpPassword, .webhookSecret, .splunkToken, .elkApiKey, .jwtSecret, .bindPassword]

/-- The transactions of a rotation, as points where it can stop. -/
inductive Stage
  | gate
  | createKek
  | column (column : SecretColumn)
  | retire
  deriving DecidableEq

inductive RotateError
  | serviceNotInMaintenance
  | createNewVersion (error : CryptoError)
  | sameVersion (new old : UInt8)
  | nullNonce (column : SecretColumn)
  | row (column : SecretColumn) (id : Int) (error : TrioError)
  | encrypt (column : SecretColumn) (id : Int) (error : CryptoError)
  | interrupted (stage : Stage)
  deriving DecidableEq

/-- `RotationReport`. -/
structure RotationReport where
  oldVersion : UInt8
  newVersion : UInt8
  rowsReencrypted : Nat
  tablesRotated : List String
  deriving DecidableEq

/-- A row of the `SELECT` in `rotate_one_column`. -/
structure SelectedRow where
  id : Int
  ciphertext : List UInt8
  nonce : List UInt8
  deriving DecidableEq

/-- The rows with a ciphertext.  A NULL nonce next to one fails the query. -/
def selectPopulated : List TrioRow → Option (List SelectedRow)
  | [] => some []
  | row :: rest =>
      match row.encrypted with
      | none => selectPopulated rest
      | some ciphertext => do
          let nonce ← row.nonce
          let selected ← selectPopulated rest
          pure (⟨row.id, ciphertext, nonce⟩ :: selected)

/-- What a rotation brings along: the cipher, the nonces it will draw for each row,
and the stages that do not take place. -/
structure RotationEnv where
  gcm : Aes256Gcm
  draw : SecretColumn → Int → Nonce
  stops : Stage → Bool
  now : Nat

section Rotate

variable (env : RotationEnv) (current new : SecretCrypto)

/-- The trio of a re-encrypted row. -/
def reencrypted (envelope : Envelope) (row : TrioRow) : TrioRow :=
  { row with
    encrypted := some envelope.ciphertext
    nonce := some envelope.nonce.bytes
    version := some new.version.toNat }

theorem reencrypted_id (envelope : Envelope) (row : TrioRow) :
    (reencrypted new envelope row).id = row.id :=
  rfl

/-- The loop of `rotate_one_column`. -/
def rotateRows (column : SecretColumn) :
    List SelectedRow → TrioTable → Nat → Except RotateError (TrioTable × Nat)
  | [], table, rotated => .ok (table, rotated)
  | row :: rest, table, rotated =>
      match openTrio env.gcm current (aadFor column.table column.column) row.ciphertext
        row.nonce with
      | .error error => .error (.row column row.id error)
      | .ok plaintext =>
          match new.encrypt env.gcm (env.draw column row.id) (utf8 plaintext)
            (aadFor column.table column.column) with
          | .error error => .error (.encrypt column row.id error)
          | .ok envelope =>
              rotateRows column rest
                (table.update row.id (reencrypted new envelope) (reencrypted_id new envelope))
                (rotated + 1)

/-- `rotate_one_column`.  An error rolls the transaction back. -/
def rotateOneColumn (column : SecretColumn) (table : TrioTable) :
    Except RotateError (TrioTable × Nat) :=
  match selectPopulated table.rows with
  | none => .error (.nullNonce column)
  | some selected => rotateRows env current new column selected table 0

/-- Replace the trios of a column. -/
def Database.setColumn (db : Database) (column : SecretColumn) (table : TrioTable) : Database :=
  { db with column := Function.update db.column column (some table) }

/-- The loop of `rotate_with_new_kek` over the rotation targets. -/
def rotateTargets : List SecretColumn → Database → Nat → List String →
    Database × Except RotateError (Nat × List String)
  | [], db, rows, tables => (db, .ok (rows, tables))
  | column :: rest, db, rows, tables =>
      if env.stops (.column column) then (db, .error (.interrupted (.column column)))
      else
        match db.column column with
        | none => rotateTargets rest db rows tables
        | some table =>
            match rotateOneColumn env current new column table with
            | .error error => (db, .error error)
            | .ok (rotatedTable, rotated) =>
                if rotated > 0 then
                  rotateTargets rest (db.setColumn column rotatedTable) (rows + rotated)
                    (tables ++ [column.table ++ "." ++ column.column])
                else rotateTargets rest (db.setColumn column rotatedTable) rows tables

/-- `rotate_with_new_kek`. -/
def rotateWithNewKek (db : Database) : Database × Except RotateError RotationReport :=
  if new.version = current.version then (db, .error (.sameVersion new.version current.version))
  else
    match rotateTargets env current new rotationTargets db 0 [] with
    | (rotated, .error error) => (rotated, .error error)
    | (rotated, .ok (rows, tables)) =>
        if env.stops .retire then (rotated, .error (.interrupted .retire))
        else
          ({ rotated with
              kekHistory := (rotated.kekHistory.retire current.version env.now).1 },
            .ok ⟨current.version, new.version, rows, tables⟩)

end Rotate

/-- `maintenance_is_enabled`. -/
def maintenanceIsEnabled (db : Database) : Bool :=
  db.systemKv "maintenance_mode" = some "1"

/-- `rotate_kek`. -/
def rotateKek (env : RotationEnv) (source : KekSource) (fresh : SecretCrypto.FreshKek)
    (current : SecretCrypto) (force : Bool) (db : Database) :
    Database × Except RotateError RotationReport :=
  if env.stops .gate then (db, .error (.interrupted .gate))
  else if !force && !maintenanceIsEnabled db then (db, .error .serviceNotInMaintenance)
  else if env.stops .createKek then (db, .error (.interrupted .createKek))
  else
    match SecretCrypto.createNewVersion source fresh db.kekHistory with
    | .error error => (db, .error (.createNewVersion error))
    | .ok (inserted, new) => rotateWithNewKek env current new { db with kekHistory := inserted }

/-! ## One column -/

/-- The query finds exactly the rows with a ciphertext. -/
theorem mem_selectPopulated {rows : List TrioRow} {selected : List SelectedRow}
    (query : selectPopulated rows = some selected) {row : TrioRow} (member : row ∈ rows)
    {ciphertext : List UInt8} (populated : row.encrypted = some ciphertext) :
    ∃ nonce, row.nonce = some nonce ∧ ⟨row.id, ciphertext, nonce⟩ ∈ selected := by
  induction rows generalizing selected with
  | nil => exact absurd member (by simp)
  | cons head rest ih =>
      cases shape : head.encrypted with
      | none =>
          simp only [selectPopulated, shape] at query
          rcases List.mem_cons.mp member with rfl | later
          · exact absurd (shape.symm.trans populated) (by simp)
          · exact ih query later
      | some headCiphertext =>
          simp only [selectPopulated, shape, Option.bind_eq_bind, Option.bind_eq_some_iff,
            Option.pure_def, Option.some.injEq] at query
          rcases query with ⟨nonce, hasNonce, others, queryRest, rfl⟩
          rcases List.mem_cons.mp member with rfl | later
          · cases Option.some.inj (shape.symm.trans populated)
            exact ⟨nonce, hasNonce, List.mem_cons_self ..⟩
          · rcases ih queryRest later with ⟨laterNonce, hasLater, found⟩
            exact ⟨laterNonce, hasLater, List.mem_cons_of_mem _ found⟩

theorem populated_of_selected {rows : List TrioRow} {selected : List SelectedRow}
    (query : selectPopulated rows = some selected) {found : SelectedRow}
    (member : found ∈ selected) :
    ∃ row ∈ rows, row.id = found.id ∧ row.encrypted = some found.ciphertext ∧
      row.nonce = some found.nonce := by
  induction rows generalizing selected with
  | nil =>
      cases Option.some.inj query
      exact absurd member (by simp)
  | cons head rest ih =>
      cases shape : head.encrypted with
      | none =>
          simp only [selectPopulated, shape] at query
          rcases ih query member with ⟨row, inside, facts⟩
          exact ⟨row, List.mem_cons_of_mem _ inside, facts⟩
      | some headCiphertext =>
          simp only [selectPopulated, shape, Option.bind_eq_bind, Option.bind_eq_some_iff,
            Option.pure_def, Option.some.injEq] at query
          rcases query with ⟨nonce, hasNonce, others, queryRest, rfl⟩
          rcases List.mem_cons.mp member with rfl | later
          · exact ⟨head, List.mem_cons_self .., rfl, shape, hasNonce⟩
          · rcases ih queryRest later with ⟨row, inside, facts⟩
            exact ⟨row, List.mem_cons_of_mem _ inside, facts⟩

theorem selected_sublist {rows : List TrioRow} {selected : List SelectedRow}
    (query : selectPopulated rows = some selected) :
    (selected.map SelectedRow.id).Sublist (rows.map TrioRow.id) := by
  induction rows generalizing selected with
  | nil =>
      cases Option.some.inj query
      exact List.Sublist.slnil
  | cons head rest ih =>
      cases shape : head.encrypted with
      | none =>
          simp only [selectPopulated, shape] at query
          exact (ih query).cons head.id
      | some headCiphertext =>
          simp only [selectPopulated, shape, Option.bind_eq_bind, Option.bind_eq_some_iff,
            Option.pure_def, Option.some.injEq] at query
          rcases query with ⟨nonce, hasNonce, others, queryRest, rfl⟩
          exact (ih queryRest).cons_cons head.id

section OneColumn

variable {env : RotationEnv} {current new : SecretCrypto} {column : SecretColumn}

/-- The envelope of a row after its rotation. -/
def rotatedEnvelope (env : RotationEnv) (new : SecretCrypto) (column : SecretColumn) (id : Int)
    (content : String) : Envelope :=
  ⟨new.version, env.draw column id, env.gcm.aead.encrypt new.kek (env.draw column id)
    (aadFor column.table column.column) (utf8 content)⟩

theorem rotateRows_cons (row : SelectedRow) (rest : List SelectedRow) (table : TrioTable)
    (rotated : Nat) {content : String}
    (opened : openTrio env.gcm current (aadFor column.table column.column) row.ciphertext
      row.nonce = .ok content) :
    rotateRows env current new column (row :: rest) table rotated =
      rotateRows env current new column rest
        (table.update row.id
          (reencrypted new (rotatedEnvelope env new column row.id content))
          (reencrypted_id new _))
        (rotated + 1) := by
  simp only [rotateRows, opened, SecretCrypto.encrypt_eq, rotatedEnvelope]

/-- A finished loop has opened every selected row. -/
theorem exists_open_of_rotateRows {row : SelectedRow} {rest : List SelectedRow}
    {table : TrioTable} {rotated : Nat} {result : TrioTable × Nat}
    (finished : rotateRows env current new column (row :: rest) table rotated = .ok result) :
    ∃ content, openTrio env.gcm current (aadFor column.table column.column) row.ciphertext
      row.nonce = .ok content := by
  unfold rotateRows at finished
  split at finished
  · exact absurd finished (by simp)
  · rename_i content opened
    exact ⟨content, opened⟩

/-- Rows that were not selected keep their trio. -/
theorem rotateRows_frame {selected : List SelectedRow} {table after : TrioTable}
    {rotated total : Nat}
    (finished : rotateRows env current new column selected table rotated = .ok (after, total))
    {id : Int} (skipped : id ∉ selected.map SelectedRow.id) :
    after.find id = table.find id := by
  induction selected generalizing table rotated with
  | nil =>
      cases Except.ok.inj finished
      rfl
  | cons row rest ih =>
      rcases exists_open_of_rotateRows finished with ⟨content, opened⟩
      rw [rotateRows_cons row rest table rotated opened] at finished
      rw [List.map_cons, List.mem_cons, not_or] at skipped
      rw [ih finished skipped.2, TrioTable.find_update]
      simp [skipped.1]

/-- Selected rows hold the same plaintext under the new KEK. -/
theorem rotateRows_selected {selected : List SelectedRow} {table after : TrioTable}
    {rotated total : Nat}
    (finished : rotateRows env current new column selected table rotated = .ok (after, total))
    (distinct : (selected.map SelectedRow.id).Nodup) {found : SelectedRow}
    (member : found ∈ selected) :
    ∃ content, openTrio env.gcm current (aadFor column.table column.column) found.ciphertext
      found.nonce = .ok content ∧
      after.find found.id = (table.find found.id).map
        (reencrypted new (rotatedEnvelope env new column found.id content)) := by
  induction selected generalizing table rotated with
  | nil => exact absurd member (by simp)
  | cons row rest ih =>
      rcases exists_open_of_rotateRows finished with ⟨content, opened⟩
      rw [rotateRows_cons row rest table rotated opened] at finished
      rw [List.map_cons, List.nodup_cons] at distinct
      rcases List.mem_cons.mp member with rfl | later
      · refine ⟨content, opened, ?_⟩
        rw [rotateRows_frame finished distinct.1, TrioTable.find_update]
        simp
      · rcases ih finished distinct.2 later with ⟨laterContent, laterOpened, laterFound⟩
        have other : found.id ≠ row.id := by
          intro same
          exact distinct.1 (same ▸ List.mem_map_of_mem later)
        refine ⟨laterContent, laterOpened, ?_⟩
        rw [laterFound, TrioTable.find_update]
        simp [other]

/-- What a committed transaction makes of a column. -/
structure ColumnRotated (env : RotationEnv) (current new : SecretCrypto) (column : SecretColumn)
    (before after : TrioTable) : Prop where
  populated : ∀ {id row ciphertext}, before.find id = some row →
    row.encrypted = some ciphertext →
    ∃ nonce content, row.nonce = some nonce ∧
      openTrio env.gcm current (aadFor column.table column.column) ciphertext nonce =
        .ok content ∧
      after.find id = some (reencrypted new (rotatedEnvelope env new column id content) row)
  unpopulated : ∀ {id row}, before.find id = some row → row.encrypted = none →
    after.find id = some row

theorem columnRotated_of_rotateOneColumn {table after : TrioTable} {total : Nat}
    (finished : rotateOneColumn env current new column table = .ok (after, total)) :
    ColumnRotated env current new column table after := by
  unfold rotateOneColumn at finished
  split at finished
  · exact absurd finished (by simp)
  rename_i selected query
  have distinct := table.distinct.sublist (selected_sublist query)
  constructor
  · intro id row ciphertext found populated
    rcases TrioTable.mem_of_find found with ⟨member, rfl⟩
    rcases mem_selectPopulated query member populated with ⟨nonce, hasNonce, isSelected⟩
    rcases rotateRows_selected finished distinct isSelected with ⟨content, opened, result⟩
    refine ⟨nonce, content, hasNonce, opened, ?_⟩
    rw [result, found]
    rfl
  · intro id row found unpopulated
    rw [rotateRows_frame finished, found]
    intro isSelected
    rcases List.mem_map.mp isSelected with ⟨picked, inside, rfl⟩
    rcases populated_of_selected query inside with ⟨other, otherMember, sameId, otherPopulated, _⟩
    have otherFound := TrioTable.find_of_mem otherMember
    rw [sameId, found] at otherFound
    cases Option.some.inj otherFound
    exact absurd (unpopulated.symm.trans otherPopulated) (by simp)

/-- Every populated row of a table can be opened. -/
def TableReadable (gcm : Aes256Gcm) (crypto : SecretCrypto) (column : SecretColumn)
    (table : TrioTable) : Prop :=
  ∀ row ∈ table.rows, ∀ ciphertext, row.encrypted = some ciphertext →
    ∃ nonce content, row.nonce = some nonce ∧
      openTrio gcm crypto (aadFor column.table column.column) ciphertext nonce = .ok content

theorem exists_selectPopulated {gcm : Aes256Gcm} {rows : List TrioRow}
    (readable : ∀ row ∈ rows, ∀ ciphertext, row.encrypted = some ciphertext →
      ∃ nonce content, row.nonce = some nonce ∧
        openTrio gcm current (aadFor column.table column.column) ciphertext nonce =
          .ok content) :
    ∃ selected, selectPopulated rows = some selected := by
  induction rows with
  | nil => exact ⟨[], rfl⟩
  | cons head rest ih =>
      obtain ⟨selected, query⟩ := ih (fun row member => readable row (List.mem_cons_of_mem _ member))
      cases shape : head.encrypted with
      | none => exact ⟨selected, by simp only [selectPopulated, shape, query]⟩
      | some ciphertext =>
          rcases readable head (List.mem_cons_self ..) ciphertext shape with ⟨nonce, _, hasNonce, _⟩
          refine ⟨⟨head.id, ciphertext, nonce⟩ :: selected, ?_⟩
          simp only [selectPopulated, shape, hasNonce, query]
          rfl

theorem exists_rotateRows {selected : List SelectedRow} (table : TrioTable) (rotated : Nat)
    (readable : ∀ row ∈ selected, ∃ content, openTrio env.gcm current
      (aadFor column.table column.column) row.ciphertext row.nonce = .ok content) :
    ∃ result, rotateRows env current new column selected table rotated = .ok result := by
  induction selected generalizing table rotated with
  | nil => exact ⟨_, rfl⟩
  | cons row rest ih =>
      rcases readable row (List.mem_cons_self ..) with ⟨content, opened⟩
      rw [rotateRows_cons row rest table rotated opened]
      exact ih _ _ (fun later member => readable later (List.mem_cons_of_mem _ member))

/-- A readable column is rotated. -/
theorem exists_rotateOneColumn {table : TrioTable}
    (readable : TableReadable env.gcm current column table) :
    ∃ result, rotateOneColumn env current new column table = .ok result := by
  rcases exists_selectPopulated readable with ⟨selected, query⟩
  simp only [rotateOneColumn, query]
  apply exists_rotateRows table 0
  intro found isSelected
  rcases populated_of_selected query isSelected with ⟨row, member, _, populated, hasNonce⟩
  rcases readable row member _ populated with ⟨nonce, content, sameNonce, opened⟩
  cases Option.some.inj (hasNonce.symm.trans sameNonce)
  exact ⟨content, opened⟩

end OneColumn

/-! ## All columns -/

section Targets

variable {env : RotationEnv} {current new : SecretCrypto}

/-- The columns `done` have been rotated from `db` to `after`, and nothing else. -/
structure TargetsRotated (env : RotationEnv) (current new : SecretCrypto) (db after : Database)
    (done : List SecretColumn) : Prop where
  rotated : ∀ {column before}, column ∈ done → db.column column = some before →
    ∃ table, after.column column = some table ∧
      ColumnRotated env current new column before table
  frame : ∀ {column}, column ∉ done → after.column column = db.column column
  queue : after.syslogQueue = db.syslogQueue
  keyValues : after.systemKv = db.systemKv
  history : after.kekHistory = db.kekHistory

/-- Why the loop did not go on with a column. -/
def StopsAt (env : RotationEnv) (current new : SecretCrypto) (db : Database) :
    List SecretColumn → Prop
  | [] => False
  | column :: _ => env.stops (.column column) = true ∨
      ∃ table error, db.column column = some table ∧
        rotateOneColumn env current new column table = .error error

theorem TargetsRotated.nil (env : RotationEnv) (current new : SecretCrypto) (db : Database) :
    TargetsRotated env current new db db [] where
  rotated := by
    intro column before member
    exact absurd member (by simp)
  frame := by
    intro column _
    rfl
  queue := rfl
  keyValues := rfl
  history := rfl

section OneMore

variable {db after : Database} {column : SecretColumn} {done rest : List SecretColumn}

/-- A column that the database does not have is passed over. -/
theorem TargetsRotated.cons_missing (rotated : TargetsRotated env current new db after done)
    (missing : db.column column = none) :
    TargetsRotated env current new db after (column :: done) := by
  refine ⟨?_, ?_, rotated.queue, rotated.keyValues, rotated.history⟩
  · intro other before member found
    rcases List.mem_cons.mp member with rfl | later
    · exact absurd (missing.symm.trans found) (by simp)
    · exact rotated.rotated later found
  · intro other skipped
    exact rotated.frame (fun member => skipped (List.mem_cons_of_mem _ member))

theorem column_setColumn_of_ne {table : TrioTable} {other : SecretColumn}
    (different : other ≠ column) : (db.setColumn column table).column other = db.column other :=
  Function.update_of_ne different ..

/-- A column that was rotated first stays so. -/
theorem TargetsRotated.cons_rotated {before table : TrioTable} {count : Nat}
    (rotated : TargetsRotated env current new (db.setColumn column table) after done)
    (notDone : column ∉ done) (stored : db.column column = some before)
    (result : rotateOneColumn env current new column before = .ok (table, count)) :
    TargetsRotated env current new db after (column :: done) := by
  refine ⟨?_, ?_, rotated.queue, rotated.keyValues, rotated.history⟩
  · intro other original member found
    rcases List.mem_cons.mp member with rfl | later
    · cases Option.some.inj (stored.symm.trans found)
      refine ⟨table, ?_, columnRotated_of_rotateOneColumn result⟩
      rw [rotated.frame notDone]
      exact Function.update_self ..
    · have different : other ≠ column := by
        rintro rfl
        exact notDone later
      apply rotated.rotated later
      rw [column_setColumn_of_ne different, found]
  · intro other skipped
    rw [List.mem_cons, not_or] at skipped
    rw [rotated.frame skipped.2, column_setColumn_of_ne skipped.1]

/-- The loop stops at a later column for the same reason before an earlier one is
rotated. -/
theorem StopsAt.of_setColumn {table : TrioTable}
    (stops : StopsAt env current new (db.setColumn column table) rest) (notLeft : column ∉ rest) :
    StopsAt env current new db rest := by
  cases rest with
  | nil => exact stops
  | cons next others =>
      rcases stops with stopped | ⟨nextTable, error, found, fails⟩
      · exact Or.inl stopped
      · refine Or.inr ⟨nextTable, error, ?_, fails⟩
        rw [← found, column_setColumn_of_ne]
        rintro rfl
        exact notLeft (List.mem_cons_self ..)

theorem goes_cons (goes : env.stops (.column column) = false)
    (going : ∀ other ∈ done, env.stops (.column other) = false) :
    ∀ other ∈ column :: done, env.stops (.column other) = false := by
  intro other member
  rcases List.mem_cons.mp member with rfl | later
  · exact goes
  · exact going other later

end OneMore

/-- A run of the loop rotates a first part of its targets. -/
theorem rotateTargets_spec {targets : List SecretColumn} {db after : Database} {rows : Nat}
    {tables : List String} {outcome : Except RotateError (Nat × List String)}
    (distinct : targets.Nodup)
    (run : rotateTargets env current new targets db rows tables = (after, outcome)) :
    ∃ done rest, targets = done ++ rest ∧
      (∀ column ∈ done, env.stops (.column column) = false) ∧
      TargetsRotated env current new db after done ∧
      ((∃ report, outcome = .ok report) ∧ rest = [] ∨
        (∃ error, outcome = .error error) ∧ StopsAt env current new db rest) := by
  induction targets generalizing db rows tables with
  | nil =>
      cases run
      exact ⟨[], [], rfl, by simp, TargetsRotated.nil .., Or.inl ⟨⟨_, rfl⟩, rfl⟩⟩
  | cons column rest ih =>
      rw [List.nodup_cons] at distinct
      unfold rotateTargets at run
      by_cases stopped : env.stops (.column column) = true
      · rw [if_pos stopped] at run
        cases run
        exact ⟨[], column :: rest, rfl, by simp, TargetsRotated.nil ..,
          Or.inr ⟨⟨_, rfl⟩, Or.inl stopped⟩⟩
      rw [if_neg stopped] at run
      have goes : env.stops (.column column) = false := by simpa using stopped
      cases stored : db.column column with
      | none =>
          simp only [stored] at run
          rcases ih distinct.2 run with ⟨done, left, rfl, going, rotated, ends⟩
          exact ⟨column :: done, left, rfl, goes_cons goes going, rotated.cons_missing stored, ends⟩
      | some table =>
          simp only [stored] at run
          cases result : rotateOneColumn env current new column table with
          | error error =>
              simp only [result] at run
              cases run
              exact ⟨[], column :: rest, rfl, by simp, TargetsRotated.nil ..,
                Or.inr ⟨⟨_, rfl⟩, Or.inr ⟨table, error, stored, result⟩⟩⟩
          | ok pair =>
              rcases pair with ⟨rotatedTable, count⟩
              have commit : ∃ rows tables, rotateTargets env current new rest
                  (db.setColumn column rotatedTable) rows tables = (after, outcome) := by
                simp only [result] at run
                split at run
                · exact ⟨_, _, run⟩
                · exact ⟨_, _, run⟩
              rcases commit with ⟨_, _, commit⟩
              rcases ih distinct.2 commit with ⟨done, left, rfl, going, rotated, ends⟩
              rw [List.mem_append, not_or] at distinct
              rcases distinct.1 with ⟨notDone, notLeft⟩
              refine ⟨column :: done, left, rfl, goes_cons goes going,
                rotated.cons_rotated notDone stored result, ?_⟩
              rcases ends with finished | ⟨failed, stops⟩
              · exact Or.inl finished
              · exact Or.inr ⟨failed, stops.of_setColumn notLeft⟩

end Targets

end DlpSystem.Server
