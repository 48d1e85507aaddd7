import DlpSystem.Server.RotationSecrets

/-!
# Interrupted rotations

The new KEK is active from the moment its row is inserted, before any column has
been rewritten.  A restart therefore selects it, and a second rotation decrypts
every column under it: columns that the first one did not reach are lost to both.
-/

namespace DlpSystem.Server

open Lib

/-! ## The KEK of a restart -/

/-- The row inserted last is active when its version is the highest. -/
theorem active_insert {history inserted : KekHistory} {record active : SecretKekRecord}
    (insertion : history.insert record = some inserted) (unretired : record.retiredAt = none)
    (wasActive : history.active = some active) :
    inserted.active =
      some (if active.version.toNat < record.version.toNat then record else active) := by
  unfold KekHistory.insert at insertion
  split at insertion
  · cases Option.some.inj insertion
    have chosen : (history.rows.filter fun row => row.retiredAt.isNone).argmax
        (fun row => row.version.toNat) = some active := wasActive
    rw [KekHistory.active, List.filter_append, List.filter_singleton, unretired]
    simp only [Option.isNone_none, cond_true, List.argmax_concat, chosen]
    split <;> rfl
  · exact absurd insertion (by simp)

theorem active_mem {history : KekHistory} {active : SecretKekRecord}
    (isActive : history.active = some active) : active ∈ history.rows :=
  List.mem_of_mem_filter (List.argmax_mem isActive)

theorem createNewVersion_ok {source : KekSource} {fresh : SecretCrypto.FreshKek}
    {history inserted : KekHistory} {new : SecretCrypto}
    (created : SecretCrypto.createNewVersion source fresh history = .ok (inserted, new)) :
    ∃ record : SecretKekRecord, history.insert record = some inserted ∧
      record.retiredAt = none ∧ record.version = new.version ∧
      SecretCrypto.ofRecord source record = .ok new := by
  unfold SecretCrypto.createNewVersion at created
  split at created
  · exact absurd created (by simp)
  · rename_i wrapped isProtected
    split at created
    · exact absurd created (by simp)
    · rename_i other insertion
      cases Except.ok.inj created
      refine ⟨_, insertion, rfl, rfl, ?_⟩
      simp only [SecretCrypto.ofRecord, source.unprotect_protect isProtected, fresh.salt_length]
      rfl

theorem loadActive_ok {source : KekSource} {history : KekHistory} {current : SecretCrypto}
    (loaded : SecretCrypto.loadActive source history = .ok current) :
    ∃ record, history.active = some record ∧ record.version = current.version ∧
      SecretCrypto.ofRecord source record = .ok current := by
  unfold SecretCrypto.loadActive at loaded
  split at loaded
  · exact absurd loaded (by simp)
  · rename_i record isActive
    refine ⟨record, isActive, ?_, loaded⟩
    unfold SecretCrypto.ofRecord at loaded
    split at loaded
    · exact absurd loaded (by simp)
    · split at loaded
      · exact absurd loaded (by simp)
      · cases Except.ok.inj loaded
        rfl

section Restart

variable {source : KekSource} {fresh : SecretCrypto.FreshKek} {history inserted : KekHistory}
  {current new : SecretCrypto}

/-- After the insertion a restart loads the KEK with the higher version. -/
theorem loadActive_created
    (loaded : SecretCrypto.loadActive source history = .ok current)
    (created : SecretCrypto.createNewVersion source fresh history = .ok (inserted, new)) :
    SecretCrypto.loadActive source inserted =
      .ok (if current.version.toNat < new.version.toNat then new else current) := by
  rcases loadActive_ok loaded with ⟨active, isActive, activeVersion, activeKek⟩
  rcases createNewVersion_ok created with ⟨record, insertion, unretired, recordVersion, recordKek⟩
  rw [SecretCrypto.loadActive, active_insert insertion unretired isActive, activeVersion,
    recordVersion]
  by_cases higher : current.version.toNat < new.version.toNat
  · simp only [higher, if_true, recordKek]
  · simp only [higher, if_false, activeKek]

/-- The new KEK never takes the version of the active one. -/
theorem created_version_ne
    (loaded : SecretCrypto.loadActive source history = .ok current)
    (created : SecretCrypto.createNewVersion source fresh history = .ok (inserted, new)) :
    new.version ≠ current.version := by
  rcases loadActive_ok loaded with ⟨active, isActive, activeVersion, _⟩
  rcases createNewVersion_ok created with ⟨record, insertion, _, recordVersion, _⟩
  intro same
  unfold KekHistory.insert at insertion
  split at insertion
  · rename_i isFresh
    apply isFresh
    rw [recordVersion, same, ← activeVersion]
    exact List.mem_map_of_mem (active_mem isActive)
  · exact absurd insertion (by simp)

end Restart

/-! ## What a stopped run has done -/

/-- The KEK row that a run inserts, if it gets that far. -/
def insertedKek (env : RotationEnv) (source : KekSource) (fresh : SecretCrypto.FreshKek)
    (force : Bool) (db : Database) : Option (KekHistory × SecretCrypto) :=
  if env.stops .gate || (!force && !maintenanceIsEnabled db) || env.stops .createKek then none
  else (SecretCrypto.createNewVersion source fresh db.kekHistory).toOption

/-- The columns a run commits before it stops. -/
def committed (env : RotationEnv) : List SecretColumn :=
  rotationTargets.takeWhile fun column => !env.stops (.column column)

theorem rotateKek_of_inserted {env : RotationEnv} {source : KekSource}
    {fresh : SecretCrypto.FreshKek} {current new : SecretCrypto} {force : Bool} {db : Database}
    {inserted : KekHistory}
    (created : insertedKek env source fresh force db = some (inserted, new)) :
    SecretCrypto.createNewVersion source fresh db.kekHistory = .ok (inserted, new) ∧
      rotateKek env source fresh current force db =
        rotateWithNewKek env current new { db with kekHistory := inserted } := by
  unfold insertedKek at created
  split at created
  · exact absurd created (by simp)
  · rename_i passes
    simp only [Bool.or_eq_true, not_or, Bool.not_eq_true] at passes
    have created := toOption_eq_some_iff.mp created
    refine ⟨created, ?_⟩
    simp only [rotateKek, passes.1.1, passes.1.2, passes.2, created, Bool.false_eq_true, if_false]

theorem rotateKek_of_not_inserted {env : RotationEnv} {source : KekSource}
    {fresh : SecretCrypto.FreshKek} {current : SecretCrypto} {force : Bool} {db : Database}
    (notCreated : insertedKek env source fresh force db = none) :
    ∃ error, rotateKek env source fresh current force db = (db, .error error) := by
  unfold rotateKek
  by_cases gate : env.stops .gate = true
  · exact ⟨_, if_pos gate⟩
  rw [if_neg gate]
  by_cases maintenance : (!force && !maintenanceIsEnabled db) = true
  · exact ⟨_, if_pos maintenance⟩
  rw [if_neg maintenance]
  by_cases create : env.stops .createKek = true
  · exact ⟨_, if_pos create⟩
  rw [if_neg create]
  cases created : SecretCrypto.createNewVersion source fresh db.kekHistory with
  | error error => exact ⟨_, rfl⟩
  | ok pair => simp [insertedKek, gate, maintenance, create, created, Except.toOption] at notCreated

/-- Every secret of the rotation targets can be read under a KEK. -/
def ColumnsReadable (gcm : Aes256Gcm) (crypto : SecretCrypto) (db : Database) : Prop :=
  ∀ column id stored, db.stored (.column column id) = some stored →
    ∃ bytes, stored.plaintext gcm crypto (Secret.column column id).aad = some bytes

theorem tableReadable_of_columnsReadable {gcm : Aes256Gcm} {crypto : SecretCrypto}
    {db : Database} (readable : ColumnsReadable gcm crypto db) {column : SecretColumn}
    {table : TrioTable} (inColumn : db.column column = some table) :
    TableReadable gcm crypto column table := by
  intro row member ciphertext populated
  have stored := stored_column_iff.mpr
    ⟨table, row, ciphertext, inColumn, TrioTable.find_of_mem member, populated, rfl⟩
  rcases readable column row.id _ stored with ⟨bytes, opened⟩
  rcases plaintext_trio_iff.mp opened with ⟨nonce, content, hasNonce, _, openedTrio⟩
  exact ⟨nonce, content, hasNonce, openedTrio⟩

/-- A readable database is rotated up to the first stage that does not take place. -/
theorem targetsRotated_of_error {env : RotationEnv} {current new : SecretCrypto}
    {db after : Database} {error : RotateError} (readable : ColumnsReadable env.gcm current db)
    (distinct : new.version ≠ current.version)
    (run : rotateWithNewKek env current new db = (after, .error error)) :
    TargetsRotated env current new db after (committed env) := by
  unfold rotateWithNewKek at run
  rw [if_neg distinct] at run
  have committed_eq : ∀ {done rest : List SecretColumn}, rotationTargets = done ++ rest →
      (∀ column ∈ done, env.stops (.column column) = false) →
      (∀ column others, rest = column :: others → env.stops (.column column) = true) →
      committed env = done := by
    intro done rest split going stops
    rw [committed, split, List.takeWhile_append_of_pos (by simpa using going)]
    cases rest with
    | nil => simp
    | cons column others => simp [stops column others rfl]
  split at run
  · rename_i rotated failure loop
    obtain ⟨done, rest, split, going, isRotated, ends⟩ :=
      rotateTargets_spec nodup_rotationTargets loop
    cases congrArg Prod.fst run
    rw [committed_eq split going]
    · exact isRotated
    · rintro column others rfl
      rcases ends with ⟨_, empty⟩ | ⟨_, stopped | ⟨table, error, inColumn, fails⟩⟩
      · exact absurd empty (by simp)
      · exact stopped
      · obtain ⟨result, succeeds⟩ :=
          exists_rotateOneColumn (tableReadable_of_columnsReadable readable inColumn)
        exact absurd (fails.symm.trans succeeds) (by simp)
  · rename_i rotated rows tables loop
    obtain ⟨done, rest, split, going, isRotated, ends⟩ :=
      rotateTargets_spec nodup_rotationTargets loop
    rcases ends with ⟨_, rfl⟩ | ⟨⟨failure, failed⟩, _⟩
    · split at run
      · cases congrArg Prod.fst run
        rw [committed_eq split going (by simp)]
        exact isRotated
      · exact absurd (congrArg Prod.snd run) (by simp)
    · exact absurd failed (by simp)

/-! ## What is still readable -/

/-- The rotation targets of `db` have under `crypto`, in `after`, the plaintext they
had under `current`. -/
def ColumnsKept (gcm : Aes256Gcm) (current crypto : SecretCrypto) (db after : Database) : Prop :=
  ∀ column id bytes, db.plaintext gcm current (.column column id) = some bytes →
    after.plaintext gcm crypto (.column column id) = some bytes

/-- A column holds at least one ciphertext. -/
def Database.populated (db : Database) (column : SecretColumn) : Bool :=
  match db.column column with
  | none => false
  | some table => table.rows.any fun row => row.encrypted.isSome

theorem populated_iff {db : Database} {column : SecretColumn} :
    db.populated column = true ↔ ∃ id stored, db.stored (.column column id) = some stored := by
  unfold Database.populated
  constructor
  · intro holds
    split at holds
    · exact absurd holds (by simp)
    · rename_i table inColumn
      rcases List.any_eq_true.mp holds with ⟨row, member, isSome⟩
      rcases Option.isSome_iff_exists.mp isSome with ⟨ciphertext, populated⟩
      exact ⟨row.id, _, stored_column_iff.mpr
        ⟨table, row, ciphertext, inColumn, TrioTable.find_of_mem member, populated, rfl⟩⟩
  · rintro ⟨id, stored, found⟩
    rcases stored_column_iff.mp found with ⟨table, row, ciphertext, inColumn, isRow, populated, _⟩
    simp only [inColumn]
    refine List.any_eq_true.mpr ⟨row, (TrioTable.mem_of_find isRow).1, ?_⟩
    rw [populated]
    rfl

theorem populated_eq_false_iff {db : Database} {column : SecretColumn} :
    db.populated column = false ↔ ∀ id, db.stored (.column column id) = none := by
  rw [← Bool.not_eq_true, populated_iff, not_exists]
  apply forall_congr'
  intro id
  rw [not_exists, Option.eq_none_iff_forall_ne_some]

section Kept

variable {env : RotationEnv} {current new : SecretCrypto} {db after : Database}
  {done : List SecretColumn}

theorem stored_frame (rotated : TargetsRotated env current new db after done)
    {column : SecretColumn} (skipped : column ∉ done) (id : Int) :
    after.stored (.column column id) = db.stored (.column column id) := by
  simp only [Database.stored, rotated.frame skipped]

/-- No secret of the rotation targets disappears. -/
theorem exists_stored (rotated : TargetsRotated env current new db after done)
    {column : SecretColumn} {id : Int} {stored : StoredSecret}
    (found : db.stored (.column column id) = some stored) :
    ∃ storedAfter, after.stored (.column column id) = some storedAfter := by
  by_cases member : column ∈ done
  · rcases stored_rotated rotated member found with ⟨_, _, _, foundAfter⟩
    exact ⟨_, foundAfter⟩
  · exact ⟨stored, (stored_frame rotated member id).trans found⟩

/-- Under the new KEK the columns that were not rotated are lost. -/
theorem kept_new_iff (rotated : TargetsRotated env current new db after done)
    (readable : ColumnsReadable env.gcm current db) :
    ColumnsKept env.gcm current new db after ↔
      new.kek = current.kek ∨ ∀ column, column ∉ done → db.populated column = false := by
  constructor
  · intro kept
    by_cases same : new.kek = current.kek
    · exact Or.inl same
    · right
      intro column skipped
      rw [populated_eq_false_iff]
      intro id
      cases found : db.stored (.column column id) with
      | none => rfl
      | some stored =>
          rcases readable column id stored found with ⟨bytes, opened⟩
          obtain ⟨storedAfter, foundAfter, openedAfter⟩ := plaintext_eq_some_iff.mp
            (kept column id bytes (plaintext_eq_some_iff.mpr ⟨stored, found, opened⟩))
          rw [stored_frame rotated skipped, found] at foundAfter
          cases Option.some.inj foundAfter
          rw [plaintext_of_other_kek same opened] at openedAfter
          exact absurd openedAfter (by simp)
  · intro condition column id bytes opened
    by_cases member : column ∈ done
    · exact plaintext_rotated rotated member opened
    · rcases plaintext_eq_some_iff.mp opened with ⟨stored, found, read⟩
      rcases condition with same | empty
      · have foundAfter : after.stored (.column column id) = some stored := by
          rw [stored_frame rotated member, found]
        exact plaintext_eq_some_iff.mpr
          ⟨stored, foundAfter, plaintext_of_same_kek same.symm read⟩
      · rw [populated_eq_false_iff.mp (empty column member) id] at found
        cases found

/-- Under the old KEK the columns that were rotated are lost. -/
theorem kept_current_iff (rotated : TargetsRotated env current new db after done) :
    ColumnsKept env.gcm current current db after ↔
      new.kek = current.kek ∨ ∀ column, column ∈ done → db.populated column = false := by
  constructor
  · intro kept
    by_cases same : new.kek = current.kek
    · exact Or.inl same
    · right
      intro column member
      rw [populated_eq_false_iff]
      intro id
      cases found : db.stored (.column column id) with
      | none => rfl
      | some stored =>
          rcases stored_rotated rotated member found with ⟨content, nonce, opened, foundAfter⟩
          obtain ⟨storedAfter, sameAfter, openedAfter⟩ := plaintext_eq_some_iff.mp
            (kept column id _ (plaintext_eq_some_iff.mpr ⟨stored, found, opened⟩))
          cases Option.some.inj (sameAfter.symm.trans foundAfter)
          have lost := plaintext_of_other_kek (Ne.symm same)
            (plaintext_encrypted env.gcm new nonce (Secret.column column id).aad content)
          exact absurd (lost.symm.trans openedAfter) (by simp)
  · intro condition column id bytes opened
    by_cases member : column ∈ done
    · rcases condition with same | empty
      · obtain ⟨stored, found, read⟩ := plaintext_eq_some_iff.mp
          (plaintext_rotated rotated member opened)
        exact plaintext_eq_some_iff.mpr ⟨stored, found, plaintext_of_same_kek same read⟩
      · rcases plaintext_eq_some_iff.mp opened with ⟨stored, found, _⟩
        rw [populated_eq_false_iff.mp (empty column member) id] at found
        cases found
    · rw [plaintext_eq_some_iff, stored_frame rotated member]
      exact plaintext_eq_some_iff.mp opened

end Kept

/-! ## Recovery -/

/-- After a restart the active KEK reads every rotation target, or another rotation
with it succeeds and keeps every plaintext. -/
def Recoverable (gcm : Aes256Gcm) (source : KekSource) (current : SecretCrypto)
    (db after : Database) : Prop :=
  ∃ active, SecretCrypto.loadActive source after.kekHistory = .ok active ∧
    (ColumnsKept gcm current active db after ∨
      ∃ env fresh force final report newest, env.gcm = gcm ∧
        rotateKek env source fresh active force after = (final, .ok report) ∧
        SecretCrypto.loadActive source final.kekHistory = .ok newest ∧
        ColumnsKept gcm current newest db final)

/-- A second rotation can only succeed where the active KEK reads everything. -/
theorem kept_of_second_rotation {env : RotationEnv} {source : KekSource}
    {fresh : SecretCrypto.FreshKek} {force : Bool} {current active newest : SecretCrypto}
    {db after final : Database} {report : RotationReport}
    (stays : ∀ {column id stored}, db.stored (.column column id) = some stored →
      ∃ storedAfter, after.stored (.column column id) = some storedAfter)
    (second : rotateKek env source fresh active force after = (final, .ok report))
    (kept : ColumnsKept env.gcm current newest db final) :
    ColumnsKept env.gcm current active db after := by
  intro column id bytes opened
  rcases plaintext_eq_some_iff.mp opened with ⟨stored, found, _⟩
  rcases stays found with ⟨storedAfter, foundAfter⟩
  cases created : insertedKek env source fresh force after with
  | none =>
      obtain ⟨error, failed⟩ : ∃ error, rotateKek env source fresh active force after =
          (after, .error error) := rotateKek_of_not_inserted created
      exact absurd (congrArg Prod.snd (failed.symm.trans second)) (by simp)
  | some pair =>
      rcases pair with ⟨inserted, new⟩
      rw [(rotateKek_of_inserted created).2] at second
      rcases rotateWithNewKek_ok second with ⟨rotated, isRotated, finished⟩
      rw [← stored_withHistory after inserted] at foundAfter
      obtain ⟨content, nonce, openedActive, foundFinal⟩ :=
        stored_rotated isRotated (mem_rotationTargets column) foundAfter
      obtain ⟨storedFinal, sameFinal, openedFinal⟩ :=
        plaintext_eq_some_iff.mp (kept column id bytes opened)
      rw [finished, stored_withHistory, foundFinal] at sameFinal
      cases Option.some.inj sameFinal
      have openedNew := plaintext_encrypted env.gcm new nonce (Secret.column column id).aad content
      by_cases same : newest.kek = new.kek
      · have sameBytes := plaintext_of_same_kek same.symm openedNew
        rw [openedFinal] at sameBytes
        rw [Option.some.inj sameBytes]
        refine plaintext_eq_some_iff.mpr ⟨storedAfter, ?_, openedActive⟩
        rw [← stored_withHistory after inserted, foundAfter]
      · have lost := plaintext_of_other_kek same openedNew
        exact absurd (lost.symm.trans openedFinal) (by simp)

/-- The stop leaves nothing under a key that a restart does not select. -/
def HarmlessStop (env : RotationEnv) (source : KekSource) (fresh : SecretCrypto.FreshKek)
    (force : Bool) (current : SecretCrypto) (db : Database) : Prop :=
  match insertedKek env source fresh force db with
  | none => True
  | some (_, new) =>
      new.kek = current.kek ∨
        if current.version.toNat < new.version.toNat then
          ∀ column, column ∉ committed env → db.populated column = false
        else ∀ column, column ∈ committed env → db.populated column = false

section Interrupted

variable {env : RotationEnv} {source : KekSource} {fresh : SecretCrypto.FreshKek} {force : Bool}
  {current new : SecretCrypto} {db after : Database} {error : RotateError} {inserted : KekHistory}

/-- What a run that stopped after the insertion leaves to a restart. -/
theorem interrupted_spec (loaded : SecretCrypto.loadActive source db.kekHistory = .ok current)
    (readable : ColumnsReadable env.gcm current db)
    (created : insertedKek env source fresh force db = some (inserted, new))
    (run : rotateKek env source fresh current force db = (after, .error error)) :
    TargetsRotated env current new { db with kekHistory := inserted } after (committed env) ∧
      SecretCrypto.loadActive source after.kekHistory =
        .ok (if current.version.toNat < new.version.toNat then new else current) := by
  rcases rotateKek_of_inserted created with ⟨createdOk, continues⟩
  rw [continues] at run
  have readableInserted : ColumnsReadable env.gcm current { db with kekHistory := inserted } :=
    readable
  have rotated :=
    targetsRotated_of_error readableInserted (created_version_ne loaded createdOk) run
  refine ⟨rotated, ?_⟩
  rw [rotated.history]
  exact loadActive_created loaded createdOk

/-- Recovery needs the restart's KEK to read everything. -/
theorem recoverable_iff_kept {active : SecretCrypto}
    (rotated : TargetsRotated env current new { db with kekHistory := inserted } after
      (committed env))
    (restarted : SecretCrypto.loadActive source after.kekHistory = .ok active) :
    Recoverable env.gcm source current db after ↔ ColumnsKept env.gcm current active db after := by
  constructor
  · rintro ⟨other, otherLoaded, kept⟩
    cases Except.ok.inj (restarted.symm.trans otherLoaded)
    rcases kept with kept | ⟨again, fresh, force, final, report, newest, sameGcm, second, _, kept⟩
    · exact kept
    · rw [← sameGcm] at kept ⊢
      exact kept_of_second_rotation (exists_stored rotated) second kept
  · intro kept
    exact ⟨active, restarted, Or.inl kept⟩

/-- An interrupted rotation can be recovered from exactly when no ciphertext is left
under the key that the restart does not select. -/
theorem recoverable_iff (loaded : SecretCrypto.loadActive source db.kekHistory = .ok current)
    (readable : ColumnsReadable env.gcm current db)
    (run : rotateKek env source fresh current force db = (after, .error error)) :
    Recoverable env.gcm source current db after ↔
      HarmlessStop env source fresh force current db := by
  unfold HarmlessStop
  cases created : insertedKek env source fresh force db with
  | none =>
      obtain ⟨failure, unchanged⟩ : ∃ failure, rotateKek env source fresh current force db =
          (db, .error failure) := rotateKek_of_not_inserted created
      cases congrArg Prod.fst (unchanged.symm.trans run)
      refine iff_of_true ⟨current, loaded, Or.inl ?_⟩ trivial
      intro column id bytes opened
      exact opened
  | some pair =>
      rcases pair with ⟨inserted, new⟩
      rcases interrupted_spec loaded readable created run with ⟨rotated, restarted⟩
      have readableInserted : ColumnsReadable env.gcm current { db with kekHistory := inserted } :=
        readable
      have underNew := kept_new_iff rotated readableInserted
      have underCurrent := kept_current_iff rotated
      rw [recoverable_iff_kept rotated restarted]
      by_cases higher : current.version.toNat < new.version.toNat
      · simp only [higher, if_true]
        exact underNew
      · simp only [higher, if_false]
        exact underCurrent

end Interrupted

/-! ## A rotation that stops before its first column -/

/-- A machine whose DPAPI wraps nothing and whose KDF repeats the seed. -/
def plainSource : KekSource where
  dpapiProtect seed := some seed
  dpapiUnprotect blob := some blob
  unprotect_protect := by
    intro seed blob wrapped
    cases Option.some.inj wrapped
    rfl
  deriveKek seed _ _ := if length : seed.length = 32 then ⟨seed, length⟩ else sampleKek 0

def freshKek : SecretCrypto.FreshKek where
  seed := List.replicate 32 2
  salt := List.replicate 16 0
  salt_length := rfl

/-- The password under the only KEK of the history. -/
def startDatabase : Database :=
  { passwordDatabase [] with
    kekHistory :=
      ⟨[⟨1, List.replicate 32 1, List.replicate 16 0, pbkdf2DefaultIterations, none⟩], by simp⟩ }

/-- A run that stops at one stage. -/
def stoppingEnv (stage : Stage) : RotationEnv :=
  { quietEnv with stops := fun reached => reached = stage }

theorem loadActive_startDatabase :
    SecretCrypto.loadActive plainSource startDatabase.kekHistory = .ok firstKek := by
  decide +kernel

theorem columnsReadable_startDatabase : ColumnsReadable labelledGcm firstKek startDatabase := by
  intro column id stored found
  exact readable_passwordDatabase [] (by simp) (.column column id) stored found

/-- A run that only fails to retire the old KEK is harmless. -/
theorem recoverable_before_retire :
    Recoverable labelledGcm plainSource firstKek startDatabase
      (rotateKek (stoppingEnv .retire) plainSource freshKek firstKek true startDatabase).1 := by
  have stopped : (rotateKek (stoppingEnv .retire) plainSource freshKek firstKek true
      startDatabase).2 = .error (.interrupted .retire) := by
    decide +kernel
  have run : rotateKek (stoppingEnv .retire) plainSource freshKek firstKek true startDatabase =
      ((rotateKek (stoppingEnv .retire) plainSource freshKek firstKek true startDatabase).1,
        .error (.interrupted .retire)) := by
    rw [← stopped]
  have readable : ColumnsReadable (stoppingEnv .retire).gcm firstKek startDatabase :=
    columnsReadable_startDatabase
  refine (recoverable_iff loadActive_startDatabase readable run).mpr (Or.inr ?_)
  intro column skipped
  have all : committed (stoppingEnv .retire) = rotationTargets := by decide
  rw [all] at skipped
  exact absurd (mem_rotationTargets column) skipped

/-- After a crash right behind the insertion no KEK of a restart reads the password. -/
theorem not_recoverable_before_columns :
    SecretCrypto.loadActive plainSource startDatabase.kekHistory = .ok firstKek ∧
      ColumnsReadable labelledGcm firstKek startDatabase ∧
      (rotateKek (stoppingEnv (.column .smtpPassword)) plainSource freshKek firstKek true
        startDatabase).2 = .error (.interrupted (.column .smtpPassword)) ∧
      ¬ Recoverable labelledGcm plainSource firstKek startDatabase
        (rotateKek (stoppingEnv (.column .smtpPassword)) plainSource freshKek firstKek true
          startDatabase).1 := by
  refine ⟨loadActive_startDatabase, columnsReadable_startDatabase, by decide +kernel, ?_⟩
  intro recoverable
  have created : insertedKek (stoppingEnv (.column .smtpPassword)) plainSource freshKek true
      startDatabase = some (_, secondKek) := rfl
  have readable : ColumnsReadable (stoppingEnv (.column .smtpPassword)).gcm firstKek
      startDatabase := columnsReadable_startDatabase
  obtain ⟨rotated, restarted⟩ := interrupted_spec loadActive_startDatabase readable created
    (Prod.ext rfl rfl)
  have kept := (recoverable_iff_kept rotated restarted).mp recoverable
  have before : startDatabase.plaintext labelledGcm firstKek (.column .smtpPassword 1) =
      some (utf8 "secret") := by
    decide +kernel
  have after : (rotateKek (stoppingEnv (.column .smtpPassword)) plainSource freshKek firstKek true
      startDatabase).1.plaintext labelledGcm secondKek (.column .smtpPassword 1) = none := by
    decide +kernel
  exact absurd ((kept .smtpPassword 1 _ before).symm.trans after) (by simp)

end DlpSystem.Server
