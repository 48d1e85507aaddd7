import DlpSystem.Server.ConnectorConfig

/-!
# Secrets that survive an edit

An edit of a connector configuration asks, for each secret, to clear it, to keep it or to
replace it.  The handler for alerts does what is asked or changes nothing.  The handler for
SIEM forgets the secrets that it could not read, and writes back secrets that another edit
has replaced since it has read them.
-/

namespace DlpSystem.Config

open Lib Server

section KeptSecrets

variable (gcm : Aes256Gcm) (crypto : SecretCrypto) (parseUrl : String → Except String ParsedUrl)

/-! ## The property and the condition -/

/-- What a payload field asks for, where a secret is what the handlers read. -/
def asked (incoming : String) (stored : Except ConnectorError (Option String)) :
    Except ConnectorError (Option String) :=
  if incoming = "" then .ok none
  else if incoming = alertSecretMask then stored
  else .ok (some incoming)

/-- A trio afterwards holds what a field has asked for. -/
def HoldsAsked (column : SecretColumn) (incoming : String) (before after : EncryptedTriple) :
    Prop :=
  decryptOptional gcm crypto column after =
    asked incoming (decryptOptional gcm crypto column before)

/-- An update leaves the row unchanged if its response is an error, and otherwise both
secrets as they are asked for. -/
structure SiemKeepsSecrets (call : SiemUpdate) (row : SiemConfigRow EncryptedTriple) : Prop where
  unchanged : ∀ error, (call.run gcm crypto row).2 = .error error →
    (call.run gcm crypto row).1 = row
  splunkToken : ∀ response, (call.run gcm crypto row).2 = .ok response →
    HoldsAsked gcm crypto .splunkToken call.payload.splunkToken row.splunkToken
      (call.run gcm crypto row).1.splunkToken
  elkApiKey : ∀ response, (call.run gcm crypto row).2 = .ok response →
    HoldsAsked gcm crypto .elkApiKey call.payload.elkApiKey row.elkApiKey
      (call.run gcm crypto row).1.elkApiKey

@[inherit_doc SiemKeepsSecrets]
structure AlertKeepsSecrets (call : AlertUpdate) (row : AlertRouterConfigRow EncryptedTriple) :
    Prop where
  unchanged : ∀ error, (call.run gcm crypto parseUrl row).2 = .error error →
    (call.run gcm crypto parseUrl row).1 = row
  smtpPassword : ∀ response, (call.run gcm crypto parseUrl row).2 = .ok response →
    HoldsAsked gcm crypto .smtpPassword call.payload.smtpPassword row.smtpPassword
      (call.run gcm crypto parseUrl row).1.smtpPassword
  webhookSecret : ∀ response, (call.run gcm crypto parseUrl row).2 = .ok response →
    HoldsAsked gcm crypto .webhookSecret call.payload.webhookSecret row.webhookSecret
      (call.run gcm crypto parseUrl row).1.webhookSecret

/-- A secret can be encrypted if there is one. -/
def Encrypts (circumstances : UpdateCircumstances) (column : SecretColumn)
    (plaintext : Option String) : Prop :=
  plaintext ≠ none → circumstances.encryptFails column = false

/-- The steps after the read succeed. -/
structure SiemWrites (call : SiemUpdate) (existing : Option (SiemConfigRow (Option String))) :
    Prop where
  pool : call.circumstances.poolFails = false
  begin_ : call.circumstances.beginFails = false
  splunkToken : Encrypts call.circumstances .splunkToken (call.record existing).splunkToken
  elkApiKey : Encrypts call.circumstances .elkApiKey (call.record existing).elkApiKey
  update : call.circumstances.updateFails = false
  commit : call.circumstances.commitFails = false

@[inherit_doc SiemWrites]
structure AlertWrites (call : AlertUpdate) (stored : String × String) : Prop where
  webhook : call.checkWebhook parseUrl = .ok ()
  pool : call.circumstances.poolFails = false
  begin_ : call.circumstances.beginFails = false
  read : call.circumstances.readFails = false
  smtpPassword : Encrypts call.circumstances .smtpPassword (call.record stored).smtpPassword
  webhookSecret : Encrypts call.circumstances .webhookSecret (call.record stored).webhookSecret
  update : call.circumstances.updateFails = false
  commit : call.circumstances.commitFails = false

/-- The condition for SIEM.  If the read fails, or one of the secrets cannot be decrypted, and
the later steps succeed, then no field is the mask of a stored secret. -/
def SiemReadsMasked (call : SiemUpdate) (row : SiemConfigRow EncryptedTriple) : Prop :=
  (call.circumstances.readFails = true ∨ ∃ error, row.get gcm crypto = .error error) →
    SiemWrites call none →
      (call.payload.splunkToken = alertSecretMask →
        decryptOptional gcm crypto .splunkToken row.splunkToken = .ok none) ∧
      (call.payload.elkApiKey = alertSecretMask →
        decryptOptional gcm crypto .elkApiKey row.elkApiKey = .ok none)

/-- The condition for alerts.  If the update succeeds, then no field is the mask of an
empty text that is stored as a secret. -/
def AlertMasksNoEmpty (call : AlertUpdate) (row : AlertRouterConfigRow EncryptedTriple) : Prop :=
  ∀ stored, row.getSecrets gcm crypto = .ok stored → AlertWrites parseUrl call stored →
    (call.payload.smtpPassword = alertSecretMask →
      decryptOptional gcm crypto .smtpPassword row.smtpPassword ≠ .ok (some "")) ∧
    (call.payload.webhookSecret = alertSecretMask →
      decryptOptional gcm crypto .webhookSecret row.webhookSecret ≠ .ok (some ""))

/-- A field of the payload is the mask. -/
def SiemUpdate.Masks (call : SiemUpdate) : Prop :=
  call.payload.splunkToken = alertSecretMask ∨ call.payload.elkApiKey = alertSecretMask

/-- The condition for concurrent SIEM updates.  An update with a masked field commits only if
no other one has committed since it has read. -/
def SiemCommitsLatest {ι : Type} (calls : ι → SiemUpdate)
    (state : Rewriting ι (SiemConfigRow EncryptedTriple)) (step : RewriteStep ι) : Prop :=
  ∀ seen ∈ (state.stages step.call).seen?, step.fails = false →
    SiemUpdate.Masks (calls step.call) → seen = state.order.length

/-! ## Secrets -/

variable {gcm crypto parseUrl} {circumstances : UpdateCircumstances} {column : SecretColumn}

/-- What is encrypted is read again. -/
theorem decryptOptional_of_encrypt {plaintext : Option String} {written : EncryptedTriple}
    (made : encryptOptional gcm crypto circumstances column plaintext = .ok written) :
    decryptOptional gcm crypto column written = .ok plaintext := by
  unfold encryptOptional at made
  cases plaintext with
  | none =>
      cases Except.ok.inj made
      rfl
  | some secret =>
      simp only at made
      split at made
      · cases made
      · rw [SecretCrypto.encrypt_eq] at made
        cases Except.ok.inj made
        simp only [decryptOptional, openTrio_encrypt]

/-- Encryption fails only when it is made to. -/
theorem exists_encrypt_iff {plaintext : Option String} :
    (∃ written, encryptOptional gcm crypto circumstances column plaintext = .ok written) ↔
      Encrypts circumstances column plaintext := by
  unfold encryptOptional Encrypts
  cases plaintext with
  | none => simp
  | some secret =>
      simp only [SecretCrypto.encrypt_eq]
      cases circumstances.encryptFails column <;> simp

/-! ## What an update writes -/

theorem siemEncrypt_eq_ok_iff {record : SiemConfigRow (Option String)}
    {written : SiemConfigRow EncryptedTriple} :
    record.encrypt gcm crypto circumstances = .ok written ↔
      circumstances.updateFails = false ∧ ∃ splunk elk,
        encryptOptional gcm crypto circumstances .splunkToken record.splunkToken = .ok splunk ∧
        encryptOptional gcm crypto circumstances .elkApiKey record.elkApiKey = .ok elk ∧
        { record with splunkToken := splunk, elkApiKey := elk } = written := by
  unfold SiemConfigRow.encrypt
  simp only [bind_eq_ok_iff]
  cases circumstances.updateFails <;> simp [throw, throwThe, MonadExceptOf.throw, pure, Except.pure]

theorem siemPrepare_eq_ok_iff {call : SiemUpdate} {row written : SiemConfigRow EncryptedTriple} :
    call.prepare gcm crypto row = .ok written ↔
      call.circumstances.poolFails = false ∧ call.circumstances.beginFails = false ∧
        (call.record (call.existing gcm crypto row)).encrypt gcm crypto call.circumstances =
          .ok written := by
  unfold SiemUpdate.prepare
  cases call.circumstances.poolFails <;> cases call.circumstances.beginFails <;>
    simp [throw, throwThe, MonadExceptOf.throw]

/-- What is prepared is written if the commit succeeds. -/
theorem siemRun_of_prepare {call : SiemUpdate} {row written : SiemConfigRow EncryptedTriple}
    (made : call.prepare gcm crypto row = .ok written)
    (commits : call.circumstances.commitFails = false) :
    ∃ response, call.run gcm crypto row = (written, .ok response) := by
  rw [SiemUpdate.run, made]
  simp only [commits, Bool.false_eq_true, if_false]
  exact ⟨_, rfl⟩

/-- An update changes nothing, or it writes and commits. -/
theorem siemRun_cases (gcm : Aes256Gcm) (crypto : SecretCrypto) (call : SiemUpdate)
    (row : SiemConfigRow EncryptedTriple) :
    (∃ error, call.run gcm crypto row = (row, .error error)) ∨
      ∃ written response, call.prepare gcm crypto row = .ok written ∧
        call.circumstances.commitFails = false ∧
        call.run gcm crypto row = (written, .ok response) := by
  cases made : call.prepare gcm crypto row with
  | error error => exact .inl ⟨error, by rw [SiemUpdate.run, made]⟩
  | ok written =>
      cases commits : call.circumstances.commitFails with
      | true =>
          refine .inl ⟨.database, ?_⟩
          rw [SiemUpdate.run, made]
          simp only [commits, if_true]
      | false =>
          obtain ⟨response, ran⟩ := siemRun_of_prepare made commits
          exact .inr ⟨written, response, rfl, rfl, ran⟩

/-- A SIEM update that writes has the later steps succeed, and writes its record. -/
theorem siemPrepare_spec {call : SiemUpdate} {row written : SiemConfigRow EncryptedTriple}
    (made : call.prepare gcm crypto row = .ok written)
    (commits : call.circumstances.commitFails = false) :
    SiemWrites call (call.existing gcm crypto row) ∧
      decryptOptional gcm crypto .splunkToken written.splunkToken =
        .ok (call.record (call.existing gcm crypto row)).splunkToken ∧
      decryptOptional gcm crypto .elkApiKey written.elkApiKey =
        .ok (call.record (call.existing gcm crypto row)).elkApiKey := by
  obtain ⟨pool, begins, encrypted⟩ := siemPrepare_eq_ok_iff.mp made
  obtain ⟨updates, splunk, elk, splunkMade, elkMade, rfl⟩ := siemEncrypt_eq_ok_iff.mp encrypted
  exact ⟨⟨pool, begins, exists_encrypt_iff.mp ⟨splunk, splunkMade⟩,
    exists_encrypt_iff.mp ⟨elk, elkMade⟩, updates, commits⟩,
    decryptOptional_of_encrypt splunkMade, decryptOptional_of_encrypt elkMade⟩

/-- If the later steps succeed then a SIEM update writes. -/
theorem exists_siemPrepare {call : SiemUpdate} {row : SiemConfigRow EncryptedTriple}
    (writes : SiemWrites call (call.existing gcm crypto row)) :
    ∃ written, call.prepare gcm crypto row = .ok written := by
  obtain ⟨splunk, splunkMade⟩ := exists_encrypt_iff.mpr writes.splunkToken
  obtain ⟨elk, elkMade⟩ := exists_encrypt_iff.mpr writes.elkApiKey
  exact ⟨_, siemPrepare_eq_ok_iff.mpr ⟨writes.pool, writes.begin_,
    siemEncrypt_eq_ok_iff.mpr ⟨writes.update, splunk, elk, splunkMade, elkMade, rfl⟩⟩⟩

/-- What a SIEM update reads: the secrets, or nothing. -/
theorem siemExisting_cases (call : SiemUpdate) (row : SiemConfigRow EncryptedTriple) :
    (call.existing gcm crypto row = none ∧
        (call.circumstances.readFails = true ∨ ∃ error, row.get gcm crypto = .error error)) ∨
      ∃ read, call.existing gcm crypto row = some read ∧
        call.circumstances.readFails = false ∧
        decryptOptional gcm crypto .splunkToken row.splunkToken = .ok read.splunkToken ∧
        decryptOptional gcm crypto .elkApiKey row.elkApiKey = .ok read.elkApiKey := by
  unfold SiemUpdate.existing
  cases fails : call.circumstances.readFails with
  | true => exact .inl ⟨rfl, .inl rfl⟩
  | false =>
      cases read : row.get gcm crypto with
      | error error => exact .inl ⟨rfl, .inr ⟨error, rfl⟩⟩
      | ok existing =>
          obtain ⟨splunk, splunkRead, rest⟩ := bind_eq_ok_iff.mp read
          obtain ⟨elk, elkRead, made⟩ := bind_eq_ok_iff.mp rest
          cases Except.ok.inj made
          exact .inr ⟨_, rfl, rfl, splunkRead, elkRead⟩

/-! ## What was asked for -/

/-- A SIEM update does what a field asks for unless the field masks a secret that was read
differently. -/
theorem resolveSecretField_asked_iff {incoming : String} {existing : Option String}
    {stored : Except ConnectorError (Option String)} :
    .ok (resolveSecretField incoming existing) = asked incoming stored ↔
      (incoming = alertSecretMask → stored = .ok existing) := by
  unfold resolveSecretField asked
  by_cases clears : incoming = ""
  · have noMask : "" ≠ alertSecretMask := by decide
    simp [clears, noMask]
  · by_cases masks : incoming = alertSecretMask
    · rw [if_neg clears, if_neg clears, if_pos masks, if_pos masks]
      exact ⟨fun same _ => same.symm, fun same => (same masks).symm⟩
    · simp [clears, masks]

/-- An alert update does what a field asks for unless the field masks an empty text. -/
theorem resolveSecretFieldWithStored_asked_iff {incoming : String} {secret : Option String} :
    .ok (resolveSecretFieldWithStored incoming (secret.getD "")) = asked incoming (.ok secret) ↔
      (incoming = alertSecretMask → secret ≠ some "") := by
  unfold resolveSecretFieldWithStored asked
  by_cases clears : incoming = ""
  · have noMask : "" ≠ alertSecretMask := by decide
    simp [clears, noMask]
  · by_cases masks : incoming = alertSecretMask
    · rw [if_neg clears, if_neg clears, if_pos masks, if_pos masks]
      cases secret with
      | none => simp
      | some text => by_cases empty : text = "" <;> simp [empty, masks]
    · simp [clears, masks]

theorem siemKeepsSecrets_iff (call : SiemUpdate) (row : SiemConfigRow EncryptedTriple) :
    SiemKeepsSecrets gcm crypto call row ↔ SiemReadsMasked gcm crypto call row := by
  constructor
  · intro keeps unread writes
    have nothing : call.existing gcm crypto row = none := by
      unfold SiemUpdate.existing
      rcases unread with fails | ⟨error, fails⟩
      · rw [if_pos fails]
      · split
        · rfl
        · rw [fails]
          rfl
    obtain ⟨written, made⟩ := exists_siemPrepare (nothing.symm ▸ writes)
    obtain ⟨-, splunk, elk⟩ := siemPrepare_spec made writes.commit
    have splunkKept := keeps.splunkToken
    have elkKept := keeps.elkApiKey
    obtain ⟨response, ran⟩ := siemRun_of_prepare made writes.commit
    rw [ran] at splunkKept elkKept
    rw [nothing] at splunk elk
    constructor
    · exact resolveSecretField_asked_iff.mp (splunk.symm.trans (splunkKept response rfl))
    · exact resolveSecretField_asked_iff.mp (elk.symm.trans (elkKept response rfl))
  · intro reads
    rcases siemRun_cases gcm crypto call row with
      ⟨error, ran⟩ | ⟨written, response, made, commits, ran⟩
    · constructor <;> rw [ran]
      · exact fun _ _ => rfl
      · rintro response ⟨⟩
      · rintro response ⟨⟩
    · obtain ⟨writes, splunk, elk⟩ := siemPrepare_spec made commits
      have kept : (call.payload.splunkToken = alertSecretMask →
            decryptOptional gcm crypto .splunkToken row.splunkToken =
              .ok ((call.existing gcm crypto row).bind fun row => row.splunkToken)) ∧
          (call.payload.elkApiKey = alertSecretMask →
            decryptOptional gcm crypto .elkApiKey row.elkApiKey =
              .ok ((call.existing gcm crypto row).bind fun row => row.elkApiKey)) := by
        rcases siemExisting_cases call row with
          ⟨nothing, unread⟩ | ⟨read, found, -, splunkRead, elkRead⟩
        · rw [nothing] at writes ⊢
          exact reads unread writes
        · rw [found]
          exact ⟨fun _ => splunkRead, fun _ => elkRead⟩
      constructor <;> rw [ran]
      · rintro error ⟨⟩
      · intro _ _
        exact splunk.trans (resolveSecretField_asked_iff.mpr kept.1)
      · intro _ _
        exact elk.trans (resolveSecretField_asked_iff.mpr kept.2)

/-! ## Alerts -/

theorem alertEncrypt_eq_ok_iff {record : AlertRouterConfigRow (Option String)}
    {written : AlertRouterConfigRow EncryptedTriple} :
    record.encrypt gcm crypto circumstances = .ok written ↔
      circumstances.updateFails = false ∧ ∃ smtp webhook,
        encryptOptional gcm crypto circumstances .smtpPassword record.smtpPassword = .ok smtp ∧
        encryptOptional gcm crypto circumstances .webhookSecret record.webhookSecret =
          .ok webhook ∧
        { record with smtpPassword := smtp, webhookSecret := webhook } = written := by
  unfold AlertRouterConfigRow.encrypt
  simp only [bind_eq_ok_iff]
  cases circumstances.updateFails <;> simp [throw, throwThe, MonadExceptOf.throw, pure, Except.pure]

theorem alertPrepare_eq_ok_iff {call : AlertUpdate}
    {row written : AlertRouterConfigRow EncryptedTriple} :
    call.prepare gcm crypto parseUrl row = .ok written ↔
      call.checkWebhook parseUrl = .ok () ∧ call.circumstances.poolFails = false ∧
        call.circumstances.beginFails = false ∧ call.circumstances.readFails = false ∧
        ∃ stored, row.getSecrets gcm crypto = .ok stored ∧
          (call.record stored).encrypt gcm crypto call.circumstances = .ok written := by
  unfold AlertUpdate.prepare
  cases call.checkWebhook parseUrl with
  | error error => simp
  | ok _ =>
      cases call.circumstances.poolFails <;> cases call.circumstances.beginFails <;>
        cases call.circumstances.readFails <;>
        simp [throw, throwThe, MonadExceptOf.throw, bind_eq_ok_iff]

/-- Both secrets are read, and an unset one as the empty text. -/
theorem getSecrets_eq_ok_iff {row : AlertRouterConfigRow EncryptedTriple}
    {stored : String × String} :
    row.getSecrets gcm crypto = .ok stored ↔ ∃ smtp webhook,
      decryptOptional gcm crypto .smtpPassword row.smtpPassword = .ok smtp ∧
      decryptOptional gcm crypto .webhookSecret row.webhookSecret = .ok webhook ∧
      (smtp.getD "", webhook.getD "") = stored := by
  unfold AlertRouterConfigRow.getSecrets
  simp only [bind_eq_ok_iff, pure, Except.pure, Except.ok.injEq]
  constructor
  · rintro ⟨smtp, smtpRead, webhook, webhookRead, made⟩
    exact ⟨smtp, webhook, smtpRead, webhookRead, made⟩
  · rintro ⟨smtp, webhook, smtpRead, webhookRead, made⟩
    exact ⟨smtp, smtpRead, webhook, webhookRead, made⟩

/-- What is prepared is written if the commit succeeds. -/
theorem alertRun_of_prepare {call : AlertUpdate}
    {row written : AlertRouterConfigRow EncryptedTriple}
    (made : call.prepare gcm crypto parseUrl row = .ok written)
    (commits : call.circumstances.commitFails = false) :
    ∃ response, call.run gcm crypto parseUrl row = (written, .ok response) := by
  rw [AlertUpdate.run, made]
  simp only [commits, Bool.false_eq_true, if_false]
  exact ⟨_, rfl⟩

/-- An update changes nothing, or it writes and commits. -/
theorem alertRun_cases (gcm : Aes256Gcm) (crypto : SecretCrypto)
    (parseUrl : String → Except String ParsedUrl) (call : AlertUpdate)
    (row : AlertRouterConfigRow EncryptedTriple) :
    (∃ error, call.run gcm crypto parseUrl row = (row, .error error)) ∨
      ∃ written response, call.prepare gcm crypto parseUrl row = .ok written ∧
        call.circumstances.commitFails = false ∧
        call.run gcm crypto parseUrl row = (written, .ok response) := by
  cases made : call.prepare gcm crypto parseUrl row with
  | error error => exact .inl ⟨error, by rw [AlertUpdate.run, made]⟩
  | ok written =>
      cases commits : call.circumstances.commitFails with
      | true =>
          refine .inl ⟨.database, ?_⟩
          rw [AlertUpdate.run, made]
          simp only [commits, if_true]
      | false =>
          obtain ⟨response, ran⟩ := alertRun_of_prepare made commits
          exact .inr ⟨written, response, rfl, rfl, ran⟩

theorem alertKeepsSecrets_iff (call : AlertUpdate) (row : AlertRouterConfigRow EncryptedTriple) :
    AlertKeepsSecrets gcm crypto parseUrl call row ↔
      AlertMasksNoEmpty gcm crypto parseUrl call row := by
  constructor
  · intro keeps stored read writes
    obtain ⟨smtp, smtpMade⟩ := exists_encrypt_iff.mpr writes.smtpPassword
    obtain ⟨webhook, webhookMade⟩ := exists_encrypt_iff.mpr writes.webhookSecret
    have made : call.prepare gcm crypto parseUrl row = .ok { call.record stored with
        smtpPassword := smtp, webhookSecret := webhook } :=
      alertPrepare_eq_ok_iff.mpr ⟨writes.webhook, writes.pool, writes.begin_, writes.read, stored,
        read, alertEncrypt_eq_ok_iff.mpr ⟨writes.update, smtp, webhook, smtpMade, webhookMade, rfl⟩⟩
    obtain ⟨smtpSecret, webhookSecret, smtpRead, webhookRead, rfl⟩ := getSecrets_eq_ok_iff.mp read
    obtain ⟨response, ran⟩ := alertRun_of_prepare made writes.commit
    have smtpKept := keeps.smtpPassword
    have webhookKept := keeps.webhookSecret
    rw [ran] at smtpKept webhookKept
    have smtpAsked := smtpKept response rfl
    have webhookAsked := webhookKept response rfl
    unfold HoldsAsked at smtpAsked webhookAsked
    rw [decryptOptional_of_encrypt smtpMade, smtpRead] at smtpAsked
    rw [decryptOptional_of_encrypt webhookMade, webhookRead] at webhookAsked
    rw [smtpRead, webhookRead]
    constructor
    · intro masks empty
      exact resolveSecretFieldWithStored_asked_iff.mp smtpAsked masks (Except.ok.inj empty)
    · intro masks empty
      exact resolveSecretFieldWithStored_asked_iff.mp webhookAsked masks (Except.ok.inj empty)
  · intro noEmpty
    rcases alertRun_cases gcm crypto parseUrl call row with
      ⟨error, ran⟩ | ⟨written, response, made, commits, ran⟩
    · constructor <;> rw [ran]
      · exact fun _ _ => rfl
      · rintro response ⟨⟩
      · rintro response ⟨⟩
    · obtain ⟨webhookOk, pool, begins, reads, stored, read, encrypted⟩ :=
        alertPrepare_eq_ok_iff.mp made
      obtain ⟨updates, smtp, webhook, smtpMade, webhookMade, rfl⟩ :=
        alertEncrypt_eq_ok_iff.mp encrypted
      have writes : AlertWrites parseUrl call stored :=
        ⟨webhookOk, pool, begins, reads, exists_encrypt_iff.mp ⟨smtp, smtpMade⟩,
          exists_encrypt_iff.mp ⟨webhook, webhookMade⟩, updates, commits⟩
      have kept := noEmpty stored read writes
      obtain ⟨smtpSecret, webhookSecret, smtpRead, webhookRead, rfl⟩ := getSecrets_eq_ok_iff.mp read
      rw [smtpRead, webhookRead] at kept
      constructor <;> rw [ran]
      · rintro error ⟨⟩
      · intro _ _
        unfold HoldsAsked
        rw [decryptOptional_of_encrypt smtpMade, smtpRead]
        apply resolveSecretFieldWithStored_asked_iff.mpr
        exact fun masks empty => kept.1 masks (congrArg Except.ok empty)
      · intro _ _
        unfold HoldsAsked
        rw [decryptOptional_of_encrypt webhookMade, webhookRead]
        apply resolveSecretFieldWithStored_asked_iff.mpr
        exact fun masks empty => kept.2 masks (congrArg Except.ok empty)

/-! ## Concurrent updates -/

/-- A SIEM update without masks does not depend on what it reads. -/
theorem siemPrepare_of_not_masks {call : SiemUpdate} (plain : ¬ SiemUpdate.Masks call)
    (left right : SiemConfigRow EncryptedTriple) :
    call.prepare gcm crypto left = call.prepare gcm crypto right := by
  obtain ⟨splunk, elk⟩ := not_or.mp plain
  have same (existing : Option (SiemConfigRow (Option String))) :
      call.record existing = call.record none := by
    simp only [SiemUpdate.record, resolveSecretField, if_neg splunk, if_neg elk]
  simp only [SiemUpdate.prepare]
  rw [same (call.existing gcm crypto left), same (call.existing gcm crypto right)]

/-- A SIEM update that writes what it is to write has either read it or does not need it. -/
theorem SiemCommitsLatest.writesCurrent {ι : Type} {calls : ι → SiemUpdate}
    {state : Rewriting ι (SiemConfigRow EncryptedTriple)} {step : RewriteStep ι}
    (latest : SiemCommitsLatest calls state step) :
    Rewriting.WritesCurrent (fun call => (calls call).rewrite gcm crypto) state step := by
  intro seen isSeen commits _
  by_cases masks : SiemUpdate.Masks (calls step.call)
  · exact .inl (latest seen isSeen commits masks)
  · exact .inr (siemPrepare_of_not_masks masks)

/-- An update whose commit succeeds does alone what it does in a serial order. -/
theorem siemRun_eq_alone {ι : Type} (calls : ι → SiemUpdate) (call : ι)
    (row : SiemConfigRow EncryptedTriple)
    (commits : (calls call).circumstances.commitFails = false) :
    ((calls call).run gcm crypto row).1 =
      Rewriting.alone (fun call => (calls call).rewrite gcm crypto) row call := by
  cases made : (calls call).prepare gcm crypto row with
  | error error => simp only [Rewriting.alone, SiemUpdate.rewrite, SiemUpdate.run, made]
  | ok written =>
      obtain ⟨response, ran⟩ := siemRun_of_prepare made commits
      simp only [Rewriting.alone, SiemUpdate.rewrite, ran, made]

@[inherit_doc siemRun_eq_alone]
theorem alertRun_eq_alone {ι : Type} (calls : ι → AlertUpdate) (call : ι)
    (row : AlertRouterConfigRow EncryptedTriple)
    (commits : (calls call).circumstances.commitFails = false) :
    ((calls call).run gcm crypto parseUrl row).1 =
      Rewriting.alone (fun call => (calls call).rewrite gcm crypto parseUrl) row call := by
  cases made : (calls call).prepare gcm crypto parseUrl row with
  | error error => simp only [Rewriting.alone, AlertUpdate.rewrite, AlertUpdate.run, made]
  | ok written =>
      obtain ⟨response, ran⟩ := alertRun_of_prepare made commits
      simp only [Rewriting.alone, AlertUpdate.rewrite, ran, made]

end KeptSecrets

/-- Exactly under the two conditions an update does what is asked or changes nothing.  Alert
updates always end as in a serial order of those that succeed; SIEM updates do if each one
with a masked field that commits has read after the last commit. -/
theorem updates_keep_secrets (gcm : Aes256Gcm) (crypto : SecretCrypto)
    (parseUrl : String → Except String ParsedUrl) :
    (∀ call row, SiemKeepsSecrets gcm crypto call row ↔ SiemReadsMasked gcm crypto call row) ∧
    (∀ call row, AlertKeepsSecrets gcm crypto parseUrl call row ↔
      AlertMasksNoEmpty gcm crypto parseUrl call row) ∧
    (∀ (ι : Type) [DecidableEq ι] (calls : ι → SiemUpdate)
        (row : SiemConfigRow EncryptedTriple) (steps : List (RewriteStep ι)),
      Each (Rewriting.next fun call => (calls call).rewrite gcm crypto)
          (SiemCommitsLatest calls) (Rewriting.start row) steps →
        Rewriting.Serial (fun call => (calls call).rewrite gcm crypto) row
          (steps.foldl (Rewriting.next fun call => (calls call).rewrite gcm crypto)
            (Rewriting.start row))) ∧
    ∀ (ι : Type) [DecidableEq ι] (calls : ι → AlertUpdate)
        (row : AlertRouterConfigRow EncryptedTriple) (steps : List (RewriteStep ι)),
      Rewriting.Serial (fun call => (calls call).rewrite gcm crypto parseUrl) row
        (steps.foldl (Rewriting.next fun call => (calls call).rewrite gcm crypto parseUrl)
          (Rewriting.start row)) := by
  refine ⟨siemKeepsSecrets_iff, alertKeepsSecrets_iff, ?_, ?_⟩
  · intro ι _ calls row steps latest
    apply Rewriting.serial_of_writesCurrent
    rw [each_iff_cuts] at latest ⊢
    intro before step after run
    exact (latest before step after run).writesCurrent
  · intro ι _ calls row steps
    exact Rewriting.serial_of_transactional (fun _ => rfl) row steps

/-! ## Two edits of the SIEM configuration -/

def smooth : UpdateCircumstances where
  readFails := false
  poolFails := false
  beginFails := false
  encryptFails _ := false
  updateFails := false
  commitFails := false
  nonce _ := sampleNonce

/-- The stored row, with a token for Splunk and no key for ELK. -/
def storedSiem : SiemConfigRow EncryptedTriple where
  splunkUrl := "https://splunk:8088"
  splunkToken :=
    ⟨some (labelledGcm.aead.encrypt (sampleKek 1) sampleNonce
      (aadFor "siem_config" "splunk_token") (utf8 "hec")), some sampleNonce.bytes, some 1⟩
  splunkEnabled := 1
  elkUrl := ""
  elkIndex := ""
  elkApiKey := ⟨none, none, none⟩
  elkEnabled := 0
  updatedAt := ""

/-- An edit with a token for Splunk. -/
def siemEdit (splunkUrl splunkToken : String) (circumstances : UpdateCircumstances) :
    SiemUpdate where
  payload :=
    { splunkUrl := splunkUrl
      splunkToken := splunkToken
      splunkEnabled := true
      elkUrl := ""
      elkIndex := ""
      elkApiKey := ""
      elkEnabled := false }
  now := "2026-05-14T00:00:00+00:00"
  circumstances := circumstances

/-- An edit of the URL, whose read fails. -/
def unreadEdit : SiemUpdate :=
  siemEdit "https://splunk:8089" alertSecretMask { smooth with readFails := true }

/-- An edit of the URL, and one that replaces the token. -/
def twoEdits (second : Bool) : SiemUpdate :=
  if second then siemEdit "https://splunk:8088" "new" smooth
  else siemEdit "https://splunk:8089" alertSecretMask smooth

/-- The second edit runs between the read and the write of the first one. -/
def replacedBetween : List (RewriteStep Bool) :=
  [⟨false, false⟩, ⟨true, false⟩, ⟨true, false⟩, ⟨false, false⟩]

/-- The first edit runs, and then the second one. -/
def oneThenOther : List (RewriteStep Bool) :=
  [⟨false, false⟩, ⟨false, false⟩, ⟨true, false⟩, ⟨true, false⟩]

instance (call : SiemUpdate) : Decidable (SiemUpdate.Masks call) :=
  inferInstanceAs (Decidable (_ ∨ _))

instance {ι : Type} (calls : ι → SiemUpdate)
    (state : Rewriting ι (SiemConfigRow EncryptedTriple)) (step : RewriteStep ι) :
    Decidable (SiemCommitsLatest calls state step) :=
  inferInstanceAs (Decidable (∀ seen ∈ (state.stages step.call).seen?, _))

/-- An edit that replaces the token, and whose read fails. -/
def unreadReplacement : SiemUpdate :=
  siemEdit "https://splunk:8089" "new" { smooth with readFails := true }

/-- The stored row of the alerts, with a password for SMTP and no secret for the webhook. -/
def storedAlerts : AlertRouterConfigRow EncryptedTriple where
  smtpHost := "mail"
  smtpPort := 587
  smtpUsername := "dlp"
  smtpPassword :=
    ⟨some (labelledGcm.aead.encrypt (sampleKek 1) sampleNonce
      (aadFor "alert_router_config" "smtp_password") (utf8 "relay")), some sampleNonce.bytes, some 1⟩
  smtpFrom := "dlp@mail"
  smtpTo := "soc@mail"
  smtpEnabled := 1
  webhookUrl := ""
  webhookSecret := ⟨none, none, none⟩
  webhookEnabled := 0
  updatedAt := ""

/-- An edit with a password for SMTP. -/
def alertEdit (smtpHost smtpPassword : String) : AlertUpdate where
  payload :=
    { smtpHost := smtpHost
      smtpPort := 587
      smtpUsername := "dlp"
      smtpPassword := smtpPassword
      smtpFrom := "dlp@mail"
      smtpTo := "soc@mail"
      smtpEnabled := true
      webhookUrl := ""
      webhookSecret := ""
      webhookEnabled := false }
  now := "2026-05-14T00:00:00+00:00"
  circumstances := smooth

/-- An edit of the host, and one that replaces the password. -/
def twoAlertEdits (second : Bool) : AlertUpdate :=
  if second then alertEdit "mail" "new" else alertEdit "mail2" alertSecretMask

/-- A SIEM edit without masks whose read fails, an alert edit that masks the password, SIEM
edits one after the other, and alert edits of which the second runs between the read and the
write of the first. -/
theorem updates_keep_secrets_oneThenOther :
    SiemKeepsSecrets labelledGcm (.fromKek (sampleKek 1) 1) unreadReplacement storedSiem ∧
      AlertKeepsSecrets labelledGcm (.fromKek (sampleKek 1) 1) (fun _ => .error "")
        (twoAlertEdits false) storedAlerts ∧
      Rewriting.Serial
        (fun call => (twoEdits call).rewrite labelledGcm (.fromKek (sampleKek 1) 1)) storedSiem
        (oneThenOther.foldl
          (Rewriting.next fun call =>
            (twoEdits call).rewrite labelledGcm (.fromKek (sampleKek 1) 1))
          (Rewriting.start storedSiem)) ∧
      Rewriting.Serial
        (fun call => (twoAlertEdits call).rewrite labelledGcm (.fromKek (sampleKek 1) 1)
          (fun _ => .error ""))
        storedAlerts
        (replacedBetween.foldl
          (Rewriting.next fun call =>
            (twoAlertEdits call).rewrite labelledGcm (.fromKek (sampleKek 1) 1)
              (fun _ => .error ""))
          (Rewriting.start storedAlerts)) := by
  have ⟨siem, alert, siemRuns, alertRuns⟩ :=
    updates_keep_secrets labelledGcm (.fromKek (sampleKek 1) 1) (fun _ => .error "")
  have readsMasked : SiemReadsMasked labelledGcm (.fromKek (sampleKek 1) 1) unreadReplacement
      storedSiem :=
    fun _ _ => ⟨fun masks => absurd masks (by decide), fun masks => absurd masks (by decide)⟩
  have masksNoEmpty : AlertMasksNoEmpty labelledGcm (.fromKek (sampleKek 1) 1)
      (fun _ => .error "") (twoAlertEdits false) storedAlerts :=
    fun _ _ _ => ⟨fun _ => by decide +kernel, fun masks => absurd masks (by decide)⟩
  exact ⟨(siem _ _).mpr readsMasked, (alert _ _).mpr masksNoEmpty,
    siemRuns Bool twoEdits storedSiem oneThenOther (by decide +kernel),
    alertRuns Bool twoAlertEdits storedAlerts replacedBetween⟩

/-- An edit of the URL whose read fails erases the token and reports success; and a token that
is replaced during another edit is lost. -/
theorem siem_token_lost :
    (∃ response, (unreadEdit.run labelledGcm (.fromKek (sampleKek 1) 1) storedSiem).2 =
        .ok response) ∧
      decryptOptional labelledGcm (.fromKek (sampleKek 1) 1) .splunkToken
        storedSiem.splunkToken = .ok (some "hec") ∧
      (unreadEdit.run labelledGcm (.fromKek (sampleKek 1) 1) storedSiem).1.splunkToken =
        ⟨none, none, none⟩ ∧
      ¬ SiemKeepsSecrets labelledGcm (.fromKek (sampleKek 1) 1) unreadEdit storedSiem ∧
      ¬ Rewriting.Serial
        (fun call => (twoEdits call).rewrite labelledGcm (.fromKek (sampleKek 1) 1)) storedSiem
        (replacedBetween.foldl
          (Rewriting.next fun call =>
            (twoEdits call).rewrite labelledGcm (.fromKek (sampleKek 1) 1))
          (Rewriting.start storedSiem)) := by
  have token : decryptOptional labelledGcm (.fromKek (sampleKek 1) 1) .splunkToken
      storedSiem.splunkToken = .ok (some "hec") := by
    decide +kernel
  refine ⟨⟨_, rfl⟩, token, rfl, ?_, ?_⟩
  · intro keeps
    have kept := keeps.splunkToken _ rfl
    have erased : decryptOptional labelledGcm (.fromKek (sampleKek 1) 1) .splunkToken
        (unreadEdit.run labelledGcm (.fromKek (sampleKek 1) 1) storedSiem).1.splunkToken =
          .ok none := rfl
    have masked : asked unreadEdit.payload.splunkToken
        (decryptOptional labelledGcm (.fromKek (sampleKek 1) 1) .splunkToken
          storedSiem.splunkToken) = .ok (some "hec") := by
      decide +kernel
    cases erased.symm.trans (kept.trans masked)
  · rintro ⟨order, once, written, value⟩
    have succeeded : ∀ call : Bool, (replacedBetween.foldl
        (Rewriting.next fun call =>
          (twoEdits call).rewrite labelledGcm (.fromKek (sampleKek 1) 1))
        (Rewriting.start storedSiem)).stages call = .succeeded := by
      decide +kernel
    have both : order.Perm [false, true] := by
      apply (List.perm_ext_iff_of_nodup once (by decide)).mpr
      intro call
      refine iff_of_true ((written call).mpr (succeeded call)) ?_
      cases call <;> decide
    have orders : order ∈ [[false, true], [true, false]] := by
      obtain ⟨first, second, rfl⟩ := List.length_eq_two.mp both.length_eq
      cases first <;> cases second <;> simp at once ⊢
    have neither : ∀ order ∈ [[false, true], [true, false]], (replacedBetween.foldl
        (Rewriting.next fun call =>
          (twoEdits call).rewrite labelledGcm (.fromKek (sampleKek 1) 1))
        (Rewriting.start storedSiem)).value ≠
          order.foldl (Rewriting.alone fun call =>
            (twoEdits call).rewrite labelledGcm (.fromKek (sampleKek 1) 1)) storedSiem := by
      decide +kernel
    exact neither order orders value

end DlpSystem.Config
