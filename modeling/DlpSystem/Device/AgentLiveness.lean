import DlpSystem.Server.AgentRegistry

/-!
# What the registry says about an agent

The table follows the history of each agent alone: when it registered first, its last heartbeat,
and whether a sweep came too late after it.  This holds in every order of the transactions, also
when their times run backwards.
-/

namespace DlpSystem.Server

open Abac AuditWire Lib

/-! ## The history of one agent -/

/-- What is known about a registered agent. -/
structure AgentHistory where
  request : RegisterRequest
  registeredAt : Nat
  lastBeat : Nat
  identity : Option EndpointIdentity
  swept : Bool

/-- The row of an agent. -/
def AgentHistory.row (history : AgentHistory) : AgentRow :=
  let columns := identityColumns history.identity
  { agentId := history.request.agentId
    hostname := history.request.hostname
    ip := history.request.ip
    osVersion := history.request.osVersion
    agentVersion := history.request.agentVersion
    lastHeartbeat := utcText history.lastBeat
    status := if history.swept then "offline" else "online"
    registeredAt := utcText history.registeredAt
    fingerprint := columns.fingerprint
    macAddresses := columns.macAddresses
    vpnActive := columns.vpnActive
    domainJoined := columns.domainJoined
    healthStatus := if history.swept then "offline" else columns.healthStatus }

/-- The history after a transaction. -/
def AgentHistory.after (agentId : String) (history : Option AgentHistory) :
    AgentOp → Option AgentHistory
  | .register now payload databaseFails =>
      if databaseFails = false ∧ payload.agentId ≠ "" ∧ payload.agentId = agentId then
        some {
          request := payload
          registeredAt := (history.map registeredAt).getD now
          lastBeat := now
          identity := none
          swept := false }
      else history
  | .heartbeat now beating deviceIdentity databaseFails =>
      if databaseFails = false ∧ beating = agentId then
        history.map fun known =>
          { known with
            lastBeat := now
            identity := validateDeviceIdentity deviceIdentity
            swept := false }
      else history
  | .sweep now databaseFails =>
      if databaseFails = false then
        history.map fun known =>
          { known with swept := known.swept || decide (known.lastBeat + staleAfter < now) }
      else history

/-- The history of an agent. -/
def historyAfter (agentId : String) (ops : List AgentOp) : Option AgentHistory :=
  ops.foldl (AgentHistory.after agentId) none

/-- The times that RFC 3339 writes with a year of four digits. -/
def FourDigitYear (now : Nat) : Prop :=
  (utcTime now).year ≤ 9999

instance (now : Nat) : Decidable (FourDigitYear now) :=
  inferInstanceAs (Decidable ((utcTime now).year ≤ 9999))

/-! ## Reading the table -/

namespace AgentTable

theorem getById_update (table : AgentTable) (keys : List String) (change : AgentRow → AgentRow)
    (keeps : ∀ row, (change row).agentId = row.agentId) (agentId : String) :
    AgentTable.getById (table.update keys change keeps) agentId =
      (table.getById agentId).map fun row => if row.agentId ∈ keys then change row else row := by
  have same (row : AgentRow) :
      (if row.agentId ∈ keys then change row else row).agentId = row.agentId := by
    split
    · exact keeps row
    · rfl
  rw [getById, UniqueTable.update, List.find?_map, getById]
  simp only [Function.comp_def, same]

theorem getById_eq_none_iff (table : AgentTable) (agentId : String) :
    table.getById agentId = none ↔ agentId ∉ table.rows.map AgentRow.agentId := by
  rw [getById, List.find?_eq_none, List.mem_map]
  simp

/-- The row that is found is in the table, under the id. -/
theorem mem_of_getById {table : AgentTable} {agentId : String} {row : AgentRow}
    (found : table.getById agentId = some row) : row ∈ table.rows ∧ row.agentId = agentId := by
  refine ⟨List.mem_of_find?_eq_some found, ?_⟩
  simpa using List.find?_some found

theorem getById_upsert (table : AgentTable) (record : AgentRow) (agentId : String) :
    AgentTable.getById (table.upsert record) agentId =
      if record.agentId = agentId then
        some (((table.getById agentId).map record.overwritten).getD record)
      else table.getById agentId := by
  unfold upsert
  split
  · rename_i taken
    rw [getById_update]
    by_cases same : record.agentId = agentId
    · subst same
      cases found : table.getById record.agentId with
      | none => exact absurd taken ((getById_eq_none_iff table _).mp found)
      | some row => simp [(mem_of_getById found).2]
    · rw [if_neg same]
      cases found : table.getById agentId with
      | none => rfl
      | some row =>
          have other : row.agentId ∉ [record.agentId] := by
            rw [(mem_of_getById found).2, List.mem_singleton]
            exact fun equal => same equal.symm
          rw [Option.map_some, if_neg other]
  · rename_i fresh
    rw [getById, UniqueTable.insertIgnore_rows, if_pos ⟨rfl, fresh⟩, List.find?_append]
    by_cases same : record.agentId = agentId
    · subst same
      have missing := (getById_eq_none_iff table _).mpr fresh
      rw [if_pos rfl, missing]
      rw [getById] at missing
      rw [missing]
      simp
    · rw [if_neg same, List.find?_singleton, if_neg (by simpa using same), Option.or_none]
      rfl

/-- A sweep goes by each row alone. -/
theorem getById_markStaleOffline (table : AgentTable) (cutoff agentId : String) :
    AgentTable.getById (table.markStaleOffline cutoff) agentId =
      (table.getById agentId).map fun row =>
        if row.isStale cutoff then row.swept else row := by
  rw [markStaleOffline, getById_update]
  refine Option.map_congr fun row found => ?_
  have member := (mem_of_getById found).1
  have listed : row.agentId ∈ (table.rows.filter (AgentRow.isStale cutoff)).map AgentRow.agentId ↔
      row.isStale cutoff = true := by
    rw [List.mem_map]
    constructor
    · rintro ⟨other, stale, sameId⟩
      rw [List.mem_filter] at stale
      rw [← UniqueTable.eq_of_key_eq table stale.1 member sameId]
      exact stale.2
    · intro stale
      exact ⟨row, List.mem_filter.mpr ⟨member, stale⟩, rfl⟩
  simp only [listed]

/-- A heartbeat changes the row of its agent. -/
theorem getById_updateHeartbeat (table : AgentTable) (beating now : String)
    (deviceIdentity : Option EndpointIdentity) (agentId : String) :
    AgentTable.getById (table.updateHeartbeat beating now deviceIdentity).1 agentId =
      if beating = agentId then
        (table.getById agentId).map (AgentRow.beaten now (identityColumns deviceIdentity))
      else table.getById agentId := by
  rw [updateHeartbeat, getById_update]
  cases found : table.getById agentId with
  | none => simp
  | some row =>
      have isAgent := (mem_of_getById found).2
      by_cases same : beating = agentId
      · simp [isAgent, same]
      · have other : row.agentId ∉ [beating] := by
          rw [isAgent, List.mem_singleton]
          exact fun equal => same equal.symm
        rw [if_neg same, Option.map_some, if_neg other]

end AgentTable

/-! ## The table follows the histories -/

/-- What holds of every history. -/
structure AgentHistory.Sound (agentId : String) (history : AgentHistory) : Prop where
  agentId : history.request.agentId = agentId
  beat : FourDigitYear history.lastBeat
  identity : validateDeviceIdentity history.identity = history.identity

/-- The table has the row of an agent's history. -/
structure Follows (table : AgentTable) (agentId : String) (history : Option AgentHistory) :
    Prop where
  row : table.getById agentId = history.map AgentHistory.row
  sound : ∀ known ∈ history, known.Sound agentId

theorem validateDeviceIdentity_idem (deviceIdentity : Option EndpointIdentity) :
    validateDeviceIdentity (validateDeviceIdentity deviceIdentity) =
      validateDeviceIdentity deviceIdentity := by
  rw [validateDeviceIdentity, validateDeviceIdentity, Option.filter_filter]
  simp only [Bool.and_self]

theorem fourDigitYear_mono {early late : Nat} (le : early ≤ late) (year : FourDigitYear late) :
    FourDigitYear early := by
  refine (yearOfDay_mono ?_).trans year
  simp only [LocalTime.day, utcTime]
  omega

/-- A sweep finds an agent stale exactly when it comes too late after the last heartbeat. -/
theorem isStale_row {history : AgentHistory} {now : Nat} (beat : FourDigitYear history.lastBeat)
    (year : FourDigitYear now) :
    history.row.isStale (utcText (now - staleAfter)) = true ↔
      history.swept = false ∧ history.lastBeat + staleAfter < now := by
  have cutoff := fourDigitYear_mono (Nat.sub_le now staleAfter) year
  have older : utcText history.lastBeat < utcText (now - staleAfter) ↔
      history.lastBeat + staleAfter < now := by
    rw [utcText, utcText, rfc3339_utcTime_lt_iff beat cutoff]
    omega
  rw [AgentRow.isStale, Bool.and_eq_true, decide_eq_true_iff, decide_eq_true_iff]
  change history.row.status = "online" ∧ utcText history.lastBeat < _ ↔ _
  rw [older, AgentHistory.row]
  cases history.swept <;> simp

theorem follows_register {table : AgentTable} {agentId : String} {history : Option AgentHistory}
    (follows : Follows table agentId history) {now : Nat} (year : FourDigitYear now)
    (payload : RegisterRequest) (databaseFails : Bool) :
    Follows (AgentOp.apply table (.register now payload databaseFails)) agentId
      (AgentHistory.after agentId history (.register now payload databaseFails)) := by
  rw [AgentOp.apply, registerAgent, AgentHistory.after]
  by_cases nameless : payload.agentId = ""
  · rw [if_pos nameless, if_neg fun all => all.2.1 nameless]
    exact follows
  rw [if_neg nameless]
  cases databaseFails with
  | true =>
      rw [if_pos rfl, if_neg fun all => absurd all.1 (by decide)]
      exact follows
  | false =>
      rw [if_neg (by decide)]
      by_cases same : payload.agentId = agentId
      · rw [if_pos ⟨rfl, nameless, same⟩]
        refine ⟨?_, ?_⟩
        · change AgentTable.getById (table.upsert (payload.record now)) agentId = _
          rw [AgentTable.getById_upsert,
            if_pos (show (payload.record now).agentId = agentId from same),
            follows.row]
          cases history with
          | none => rfl
          | some known =>
              have sameId : known.request.agentId = payload.agentId :=
                (follows.sound known rfl).agentId.trans same.symm
              simp only [Option.map_some, Option.getD_some, AgentRow.overwritten,
                AgentHistory.row, sameId]
              rfl
        · rintro _ ⟨⟩
          exact ⟨same, year, rfl⟩
      · rw [if_neg fun all => same all.2.2]
        refine ⟨?_, follows.sound⟩
        change AgentTable.getById (table.upsert (payload.record now)) agentId = _
        rw [AgentTable.getById_upsert,
          if_neg (show (payload.record now).agentId ≠ agentId from same), follows.row]

/-- A heartbeat that is not counted has changed nothing. -/
theorem heartbeat_fst (table : AgentTable) (now : Nat) (beating : String)
    (deviceIdentity : Option EndpointIdentity) :
    (heartbeat table now beating deviceIdentity false).1 =
      (table.updateHeartbeat beating (utcText now) (validateDeviceIdentity deviceIdentity)).1 := by
  rw [heartbeat, if_neg (by decide)]
  dsimp only
  split <;> rfl

theorem follows_heartbeat {table : AgentTable} {agentId : String} {history : Option AgentHistory}
    (follows : Follows table agentId history) {now : Nat} (year : FourDigitYear now)
    (beating : String) (deviceIdentity : Option EndpointIdentity) (databaseFails : Bool) :
    Follows (AgentOp.apply table (.heartbeat now beating deviceIdentity databaseFails)) agentId
      (AgentHistory.after agentId history
        (.heartbeat now beating deviceIdentity databaseFails)) := by
  rw [AgentOp.apply, AgentHistory.after]
  cases databaseFails with
  | true =>
      rw [heartbeat, if_pos rfl, if_neg fun all => absurd all.1 (by decide)]
      exact follows
  | false =>
      have found := AgentTable.getById_updateHeartbeat table beating (utcText now)
        (validateDeviceIdentity deviceIdentity) agentId
      rw [heartbeat_fst]
      by_cases same : beating = agentId
      · rw [if_pos same, follows.row] at found
        rw [if_pos ⟨rfl, same⟩]
        refine ⟨?_, ?_⟩
        · rw [found]
          cases history <;> rfl
        · cases history with
          | none => rintro _ ⟨⟩
          | some known =>
              rintro _ ⟨⟩
              exact ⟨(follows.sound known rfl).agentId, year, validateDeviceIdentity_idem _⟩
      · rw [if_neg same, follows.row] at found
        rw [if_neg fun all => same all.2]
        exact ⟨found, follows.sound⟩

theorem follows_sweep {table : AgentTable} {agentId : String} {history : Option AgentHistory}
    (follows : Follows table agentId history) {now : Nat} (year : FourDigitYear now)
    (databaseFails : Bool) :
    Follows (AgentOp.apply table (.sweep now databaseFails)) agentId
      (AgentHistory.after agentId history (.sweep now databaseFails)) := by
  rw [AgentOp.apply, sweep, AgentHistory.after]
  cases databaseFails with
  | true =>
      rw [if_pos rfl, if_neg (by decide)]
      exact follows
  | false =>
      rw [if_neg (by decide), if_pos rfl]
      have found := AgentTable.getById_markStaleOffline table (utcText (now - staleAfter)) agentId
      rw [follows.row] at found
      cases history with
      | none => exact ⟨found, by rintro _ ⟨⟩⟩
      | some known =>
          have sound := follows.sound known rfl
          refine ⟨?_, ?_⟩
          · rw [found, Option.map_some, Option.map_some, Option.map_some]
            have stale := isStale_row sound.beat year
            by_cases late : known.lastBeat + staleAfter < now
            · obtain ⟨request, registeredAt, lastBeat, identity, swept⟩ := known
              cases swept with
              | true =>
                  rw [if_neg fun is => Bool.noConfusion (stale.mp is).1]
                  rfl
              | false =>
                  rw [if_pos (stale.mpr ⟨rfl, late⟩)]
                  simp [late, AgentHistory.row, AgentRow.swept]
            · have kept : ¬known.row.isStale (utcText (now - staleAfter)) = true :=
                fun is => late (stale.mp is).2
              rw [if_neg kept]
              simp [late]
          · rintro _ ⟨⟩
            exact ⟨sound.agentId, sound.beat, sound.identity⟩

/-- One transaction. -/
theorem follows_apply {table : AgentTable} {agentId : String} {history : Option AgentHistory}
    (follows : Follows table agentId history) (op : AgentOp) (year : FourDigitYear op.now) :
    Follows (op.apply table) agentId (AgentHistory.after agentId history op) := by
  cases op with
  | register now payload databaseFails => exact follows_register follows year payload databaseFails
  | heartbeat now beating deviceIdentity databaseFails =>
      exact follows_heartbeat follows year beating deviceIdentity databaseFails
  | sweep now databaseFails => exact follows_sweep follows year databaseFails

/-- Any transactions. -/
theorem follows_agentsAfter (agentId : String) {ops : List AgentOp}
    (years : ∀ op ∈ ops, FourDigitYear op.now) :
    Follows (agentsAfter ops) agentId (historyAfter agentId ops) := by
  have start : Follows (.empty AgentRow.agentId) agentId none := ⟨rfl, by rintro _ ⟨⟩⟩
  rw [agentsAfter, historyAfter]
  generalize UniqueTable.empty AgentRow.agentId = table at start
  generalize (none : Option AgentHistory) = history at start
  induction ops generalizing table history with
  | nil => exact start
  | cons op rest ih =>
      rw [List.forall_mem_cons] at years
      exact ih years.2 _ _ (follows_apply start op years.1)

/-! ## What the table shows -/

/-- A transaction that registers an agent. -/
def AgentOp.Registers (agentId : String) : AgentOp → Prop
  | register _ payload databaseFails =>
      databaseFails = false ∧ payload.agentId ≠ "" ∧ payload.agentId = agentId
  | heartbeat .. => False
  | sweep .. => False

/-- A transaction that counts as a heartbeat of a registered agent. -/
def AgentOp.Beats (agentId : String) : AgentOp → Prop
  | register now payload databaseFails => (register now payload databaseFails).Registers agentId
  | heartbeat _ beating _ databaseFails => databaseFails = false ∧ beating = agentId
  | sweep .. => False

/-- A sweep that comes too late after a heartbeat. -/
def AgentOp.SweepsAfter (beat : Nat) : AgentOp → Prop
  | register .. => False
  | heartbeat .. => False
  | sweep now databaseFails => databaseFails = false ∧ beat + staleAfter < now

/-- An agent has a history once it was registered. -/
theorem historyAfter_isSome_iff (agentId : String) (ops : List AgentOp) :
    (historyAfter agentId ops).isSome ↔ ∃ op ∈ ops, op.Registers agentId := by
  rw [historyAfter]
  have general (history : Option AgentHistory) :
      (ops.foldl (AgentHistory.after agentId) history).isSome ↔
        history.isSome ∨ ∃ op ∈ ops, op.Registers agentId := by
    induction ops generalizing history with
    | nil => simp
    | cons op rest ih =>
        rw [List.foldl_cons, ih, List.exists_mem_cons_iff, ← or_assoc]
        refine or_congr_left ?_
        cases op with
        | register now payload databaseFails =>
            rw [AgentHistory.after, AgentOp.Registers]
            split
            · rename_i registers
              exact iff_of_true rfl (Or.inr registers)
            · rename_i registers
              rw [or_iff_left registers]
        | heartbeat now beating deviceIdentity databaseFails =>
            rw [AgentHistory.after, AgentOp.Registers, or_false]
            split
            · rw [Option.isSome_map]
            · rfl
        | sweep now databaseFails =>
            rw [AgentHistory.after, AgentOp.Registers, or_false]
            split
            · rw [Option.isSome_map]
            · rfl
  simpa using general none

/-- Without another heartbeat, only sweeps change a history. -/
theorem history_of_no_beats {agentId : String} {known : AgentHistory}
    {ops : List AgentOp} (silent : ∀ op ∈ ops, ¬op.Beats agentId) :
    ∃ swept : Bool, ops.foldl (AgentHistory.after agentId) (some known) =
        some { known with swept := swept } ∧
      (swept = true ↔ known.swept = true ∨ ∃ op ∈ ops, op.SweepsAfter known.lastBeat) := by
  induction ops generalizing known with
  | nil => exact ⟨known.swept, rfl, by simp⟩
  | cons op rest ih =>
      rw [List.forall_mem_cons] at silent
      rw [List.foldl_cons]
      simp only [List.exists_mem_cons_iff]
      cases op with
      | register now payload databaseFails =>
          have silentOp : ¬(databaseFails = false ∧ payload.agentId ≠ "" ∧
            payload.agentId = agentId) := silent.1
          rw [AgentHistory.after, if_neg silentOp]
          simpa [AgentOp.SweepsAfter] using ih silent.2
      | heartbeat now beating deviceIdentity databaseFails =>
          have silentOp : ¬(databaseFails = false ∧ beating = agentId) := silent.1
          rw [AgentHistory.after, if_neg silentOp]
          simpa [AgentOp.SweepsAfter] using ih silent.2
      | sweep now databaseFails =>
          rw [AgentHistory.after]
          cases databaseFails with
          | true => simpa [AgentOp.SweepsAfter] using ih silent.2
          | false =>
              rcases @ih { known with
                  swept := known.swept || decide (known.lastBeat + staleAfter < now) } silent.2
                with ⟨swept, history, isSwept⟩
              refine ⟨swept, history, ?_⟩
              rw [isSwept]
              simp [AgentOp.SweepsAfter, or_assoc]

/-- A heartbeat of a registered agent starts a history that was not swept. -/
theorem after_beat {agentId : String} {history : Option AgentHistory} {beat : AgentOp}
    (isBeat : beat.Beats agentId) (registered : history.isSome ∨ beat.Registers agentId) :
    ∃ known, AgentHistory.after agentId history beat = some known ∧
      known.lastBeat = beat.now ∧ known.swept = false := by
  cases beat with
  | register now payload databaseFails =>
      have beats : databaseFails = false ∧ payload.agentId ≠ "" ∧ payload.agentId = agentId :=
        isBeat
      rw [AgentHistory.after, if_pos beats]
      exact ⟨_, rfl, rfl, rfl⟩
  | heartbeat now beating deviceIdentity databaseFails =>
      have beats : databaseFails = false ∧ beating = agentId := isBeat
      have isSome : history.isSome := registered.resolve_right fun no => no
      obtain ⟨known, rfl⟩ := Option.isSome_iff_exists.mp isSome
      rw [AgentHistory.after, if_pos beats]
      exact ⟨_, rfl, rfl, rfl⟩
  | sweep now databaseFails => exact absurd isBeat id

/-- After its last heartbeat, whatever the other agents do and whatever the times of the
transactions are, an agent is shown with that heartbeat, and as online exactly when no sweep has
come more than 90 seconds after it. -/
theorem online_iff_no_late_sweep {agentId : String} {before after : List AgentOp} {beat : AgentOp}
    (years : ∀ op ∈ before ++ beat :: after, FourDigitYear op.now)
    (isBeat : beat.Beats agentId) (registered : ∃ op ∈ before ++ [beat], op.Registers agentId)
    (silent : ∀ op ∈ after, ¬op.Beats agentId) :
    ∃ row, (agentsAfter (before ++ beat :: after)).getById agentId = some row ∧
      row.lastHeartbeat = utcText beat.now ∧
      (row.status = "online" ∨ row.status = "offline" ∧ row.healthStatus = "offline") ∧
      (row.status = "online" ↔ ∀ op ∈ after, ¬op.SweepsAfter beat.now) := by
  have follows := follows_agentsAfter agentId years
  have known : (historyAfter agentId before).isSome ∨ beat.Registers agentId := by
    rw [historyAfter_isSome_iff]
    rcases registered with ⟨op, member, registers⟩
    rcases List.mem_append.mp member with earlier | now
    · exact Or.inl ⟨op, earlier, registers⟩
    · rw [List.mem_singleton.mp now] at registers
      exact Or.inr registers
  rcases after_beat isBeat known with ⟨started, isStarted, lastBeat, unswept⟩
  rcases @history_of_no_beats agentId started after silent with ⟨swept, ended, isSwept⟩
  have history : historyAfter agentId (before ++ beat :: after) =
      some { started with swept := swept } := by
    rw [historyAfter] at isStarted ⊢
    rw [List.foldl_append, List.foldl_cons, isStarted, ended]
  refine ⟨_, follows.row.trans (congrArg (Option.map AgentHistory.row) history), ?_, ?_, ?_⟩
  · rw [← lastBeat]
    rfl
  · cases swept
    · exact Or.inl rfl
    · exact Or.inr ⟨rfl, rfl⟩
  · have late : swept = true ↔ ∃ op ∈ after, op.SweepsAfter beat.now := by
      rw [isSwept, unswept, lastBeat]
      simp
    cases swept with
    | false =>
        refine iff_of_true rfl fun op member sweeps => ?_
        exact Bool.noConfusion (late.mpr ⟨op, member, sweeps⟩)
    | true =>
        rcases late.mp rfl with ⟨op, member, sweeps⟩
        refine iff_of_false ?_ fun none => none op member sweeps
        change "offline" ≠ "online"
        decide

/-- A registration, some seconds into 2026. -/
def registerAt (seconds : Nat) (agentId : String) : AgentOp :=
  .register ((1767225600 + seconds) * 1000000000) ⟨agentId, "host", "10.0.0.1", "11", "0.1.0"⟩ false

/-- A heartbeat with an identity, some seconds into 2026. -/
def beatAt (seconds : Nat) (agentId : String) : AgentOp :=
  .heartbeat ((1767225600 + seconds) * 1000000000) agentId
    (some {
      fingerprint := "v1:0123456789abcdef0123456789abcdef0123456789abcdef0123456789abcdef"
      macAddresses := ["AABBCCDDEEFF", "001122334455"]
      vpnActive := true
      domainJoined := true
      healthStatus := .degraded }) false

/-- A sweep, some seconds into 2026. -/
def sweepAt (seconds : Nat) : AgentOp :=
  .sweep ((1767225600 + seconds) * 1000000000) false

theorem online_iff_no_late_sweep_twoAgents :
    ∃ row, (agentsAfter ([registerAt 0 "a", registerAt 1 "b"] ++
        beatAt 50 "a" :: [sweepAt 140, beatAt 141 "b", sweepAt 170])).getById "a" = some row ∧
      row.status = "offline" := by
  have years : ∀ op ∈ [registerAt 0 "a", registerAt 1 "b"] ++
      beatAt 50 "a" :: [sweepAt 140, beatAt 141 "b", sweepAt 170], FourDigitYear op.now := by
    decide +kernel
  have isBeat : (beatAt 50 "a").Beats "a" := ⟨rfl, rfl⟩
  have registered : ∃ op ∈ [registerAt 0 "a", registerAt 1 "b"] ++ [beatAt 50 "a"],
      op.Registers "a" :=
    ⟨registerAt 0 "a", by simp, rfl, by decide, rfl⟩
  have silent : ∀ op ∈ [sweepAt 140, beatAt 141 "b", sweepAt 170], ¬op.Beats "a" := by
    simp [sweepAt, beatAt, AgentOp.Beats]
  rcases online_iff_no_late_sweep years isBeat registered silent with
    ⟨row, found, -, status, online⟩
  refine ⟨row, found, ?_⟩
  rcases status with isOnline | isOffline
  · have late : (sweepAt 170).SweepsAfter (beatAt 50 "a").now := ⟨rfl, by decide⟩
    exact absurd late (online.mp isOnline _ (by simp))
  · exact isOffline.1

/-- The first registration is kept. -/
theorem registeredAt_kept {agentId : String} {known last : AgentHistory} {ops : List AgentOp}
    (history : ops.foldl (AgentHistory.after agentId) (some known) = some last) :
    last.registeredAt = known.registeredAt := by
  induction ops generalizing known with
  | nil =>
      cases history
      rfl
  | cons op rest ih =>
      rw [List.foldl_cons] at history
      have step : ∃ next, AgentHistory.after agentId (some known) op = some next ∧
          next.registeredAt = known.registeredAt := by
        cases op with
        | register now payload databaseFails =>
            rw [AgentHistory.after]
            split <;> exact ⟨_, rfl, rfl⟩
        | heartbeat now beating deviceIdentity databaseFails =>
            rw [AgentHistory.after]
            split <;> exact ⟨_, rfl, rfl⟩
        | sweep now databaseFails =>
            rw [AgentHistory.after]
            split <;> exact ⟨_, rfl, rfl⟩
      rcases step with ⟨next, isNext, same⟩
      rw [isNext] at history
      exact (ih history).trans same

/-- The history of an agent starts with its first registration. -/
theorem registeredAt_eq_first {agentId : String} {before : List AgentOp} {first : AgentOp}
    (fresh : ∀ op ∈ before, ¬op.Registers agentId) (registers : first.Registers agentId)
    (after : List AgentOp) :
    ∃ known, historyAfter agentId (before ++ first :: after) = some known ∧
      known.registeredAt = first.now := by
  have none_ : historyAfter agentId before = none := by
    rw [← Option.not_isSome_iff_eq_none, historyAfter_isSome_iff]
    rintro ⟨op, member, registers⟩
    exact fresh op member registers
  have some_ : (historyAfter agentId (before ++ first :: after)).isSome :=
    (historyAfter_isSome_iff agentId _).mpr ⟨first, by simp, registers⟩
  obtain ⟨known, history⟩ := Option.isSome_iff_exists.mp some_
  refine ⟨known, history, ?_⟩
  rw [historyAfter] at none_ history
  rw [List.foldl_append, none_, List.foldl_cons] at history
  cases first with
  | register now payload databaseFails =>
      have conditions : databaseFails = false ∧ payload.agentId ≠ "" ∧
        payload.agentId = agentId := registers
      rw [AgentHistory.after, if_pos conditions] at history
      exact registeredAt_kept history
  | heartbeat => exact absurd registers id
  | sweep => exact absurd registers id

theorem utcText_inj {left right : Nat} (leftYear : FourDigitYear left)
    (rightYear : FourDigitYear right) : utcText left = utcText right ↔ left = right := by
  constructor
  · intro same
    have notLess := (rfc3339_utcTime_lt_iff leftYear rightYear).not.mp
      (by rw [utcText, utcText] at same; rw [same]; exact lt_irrefl _)
    have notMore := (rfc3339_utcTime_lt_iff rightYear leftYear).not.mp
      (by rw [utcText, utcText] at same; rw [same]; exact lt_irrefl _)
    omega
  · rintro rfl
    rfl

/-- A registered agent has a first registration. -/
theorem exists_first_registration {agentId : String} {ops : List AgentOp}
    (registered : ∃ op ∈ ops, op.Registers agentId) :
    ∃ before first after, ops = before ++ first :: after ∧
      (∀ op ∈ before, ¬op.Registers agentId) ∧ first.Registers agentId := by
  classical
  have found : (ops.find? fun op => decide (op.Registers agentId)).isSome := by
    simpa using registered
  obtain ⟨first, isFirst⟩ := Option.isSome_iff_exists.mp found
  rw [List.find?_eq_some_iff_append] at isFirst
  rcases isFirst with ⟨registers, before, after, split, fresh⟩
  exact ⟨before, first, after, split, by simpa using fresh, by simpa using registers⟩

/-- A call of `register_agent` answers with what the table then shows exactly when the agent is
new, or was first registered at the very time of the call. -/
theorem register_answers_stored_iff {ops : List AgentOp}
    (years : ∀ op ∈ ops, FourDigitYear op.now) {now : Nat} (year : FourDigitYear now)
    {payload : RegisterRequest} (named : payload.agentId ≠ "") :
    (registerAgent (agentsAfter ops) now payload false).1.getById payload.agentId =
        (registerAgent (agentsAfter ops) now payload false).2.toOption ↔
      ∀ before first after, ops = before ++ first :: after →
        (∀ op ∈ before, ¬op.Registers payload.agentId) → first.Registers payload.agentId →
          first.now = now := by
  have follows := follows_agentsAfter payload.agentId years
  rw [registerAgent, if_neg named, if_neg (by decide)]
  change AgentTable.getById ((agentsAfter ops).upsert (payload.record now)) payload.agentId =
    some (payload.record now) ↔ _
  rw [AgentTable.getById_upsert,
    if_pos (show (payload.record now).agentId = payload.agentId from rfl),
    follows.row, Option.some_inj]
  by_cases registered : ∃ op ∈ ops, op.Registers payload.agentId
  · rcases exists_first_registration registered with ⟨before, first, after, rfl, fresh, registers⟩
    rcases registeredAt_eq_first fresh registers after with ⟨known, history, first_⟩
    have firstYear : FourDigitYear first.now := years first (by simp)
    have same : ((payload.record now).overwritten known.row = payload.record now) ↔
        first.now = now := by
      rw [← first_] at firstYear ⊢
      rw [← utcText_inj firstYear year]
      constructor
      · intro equal
        exact congrArg AgentRow.registeredAt equal
      · intro equal
        have id_ : known.row.agentId = payload.agentId := (follows.sound known history).agentId
        have at_ : known.row.registeredAt = utcText now := equal
        rw [AgentRow.overwritten, id_, at_]
        rfl
    rw [history, Option.map_some, Option.map_some, Option.getD_some, same]
    constructor
    · intro equal before' first' after' split fresh' registers'
      rcases registeredAt_eq_first fresh' registers' after' with ⟨known', history', first_'⟩
      rw [← split, history] at history'
      cases history'
      exact first_'.symm.trans (first_.trans equal)
    · intro all
      exact all before first after rfl fresh registers
  · have missing : historyAfter payload.agentId ops = none := by
      rw [← Option.not_isSome_iff_eq_none, historyAfter_isSome_iff]
      exact registered
    rw [missing]
    refine iff_of_true rfl fun before first after split _ registers => ?_
    exact absurd ⟨first, by simp [split], registers⟩ registered

theorem register_answers_stored_iff_again :
    (registerAgent (agentsAfter [registerAt 0 "a"]) (1767225700 * 1000000000)
        ⟨"a", "host", "10.0.0.2", "11", "0.1.0"⟩ false).1.getById "a" ≠
      (registerAgent (agentsAfter [registerAt 0 "a"]) (1767225700 * 1000000000)
        ⟨"a", "host", "10.0.0.2", "11", "0.1.0"⟩ false).2.toOption := by
  intro same
  have years : ∀ op ∈ [registerAt 0 "a"], FourDigitYear op.now := by decide +kernel
  have year : FourDigitYear (1767225700 * 1000000000) := by decide +kernel
  have named : (⟨"a", "host", "10.0.0.2", "11", "0.1.0"⟩ : RegisterRequest).agentId ≠ "" := by
    decide
  have times := (register_answers_stored_iff years year named).mp same [] (registerAt 0 "a") [] rfl
    (by simp) ⟨rfl, by decide, rfl⟩
  exact absurd times (by decide)

/-! ## Stored rows -/

/-- What a heartbeat can store as an identity. -/
def IdentityColumns.Sound (columns : IdentityColumns) : Prop :=
  columns = .default ∨ ∃ identity, validateDeviceIdentity (some identity) = some identity ∧
    columns.fingerprint = identity.fingerprint ∧
    readJson columns.macAddresses = some (.array (identity.macAddresses.map .string)) ∧
    columns.vpnActive = identity.vpnActive ∧ columns.domainJoined = identity.domainJoined ∧
    columns.healthStatus = healthName identity.healthStatus

theorem healthStatus_identityColumns (status : DeviceHealthStatus) :
    trimQuotes (Common.jsonString (healthName status)) = healthName status := by
  cases status <;> decide +kernel

theorem identityColumns_sound {deviceIdentity : Option EndpointIdentity}
    (valid : validateDeviceIdentity deviceIdentity = deviceIdentity) :
    (identityColumns deviceIdentity).Sound := by
  cases deviceIdentity with
  | none => exact Or.inl rfl
  | some identity =>
      refine Or.inr ⟨identity, valid, rfl, readJson_compactText _, rfl, rfl, ?_⟩
      exact healthStatus_identityColumns identity.healthStatus

/-- Every row that is ever in the table is as a valid heartbeat has left it, or was swept, its
health being one that the column admits; and no two rows are of one agent. -/
theorem stored_row_sound {ops : List AgentOp} (years : ∀ op ∈ ops, FourDigitYear op.now)
    {row : AgentRow} (stored : row ∈ (agentsAfter ops).rows) :
    (∃ columns : IdentityColumns, columns.Sound ∧ row.fingerprint = columns.fingerprint ∧
      row.macAddresses = columns.macAddresses ∧ row.vpnActive = columns.vpnActive ∧
      row.domainJoined = columns.domainJoined ∧
      (row.status = "online" ∧ row.healthStatus = columns.healthStatus ∨
        row.status = "offline" ∧ row.healthStatus = "offline")) ∧
    row.healthStatus ∈ ["healthy", "degraded", "offline", "tampered"] ∧
    (agentsAfter ops).getById row.agentId = some row ∧
    ∃ op ∈ ops, op.Registers row.agentId := by
  have follows := follows_agentsAfter row.agentId years
  have found : (agentsAfter ops).getById row.agentId = some row := by
    cases first : (agentsAfter ops).getById row.agentId with
    | none =>
        rw [AgentTable.getById_eq_none_iff] at first
        exact absurd (List.mem_map_of_mem stored) first
    | some other =>
        rcases AgentTable.mem_of_getById first with ⟨member, sameId⟩
        rw [UniqueTable.eq_of_key_eq _ member stored sameId]
  have isRow : (historyAfter row.agentId ops).map AgentHistory.row = some row :=
    follows.row.symm.trans found
  obtain ⟨known, history, shown⟩ := Option.map_eq_some_iff.mp isRow
  have columns := identityColumns_sound (follows.sound known history).identity
  have admitted : (identityColumns known.identity).healthStatus ∈
      ["healthy", "degraded", "offline", "tampered"] := by
    rcases columns with default | ⟨identity, -, -, -, -, -, health⟩
    · rw [default]
      decide
    · rw [health]
      cases identity.healthStatus <;> decide
  refine ⟨⟨identityColumns known.identity, columns, ?_⟩, ?_, found, ?_⟩
  · rw [← shown, AgentHistory.row]
    cases known.swept <;> simp
  · rw [← shown, AgentHistory.row]
    cases known.swept
    · exact admitted
    · exact (by decide : "offline" ∈ ["healthy", "degraded", "offline", "tampered"])
  · rw [← historyAfter_isSome_iff, history]
    rfl

/-- Two agents, of which one reports its identity in time before the sweep. -/
def oneOfTwoSwept : List AgentOp :=
  [registerAt 0 "a", registerAt 1 "b", beatAt 50 "a", beatAt 120 "b", sweepAt 145]

/-- The row of the agent that is swept keeps the columns of its identity. -/
theorem stored_row_sound_oneOfTwoSwept :
    ((agentsAfter oneOfTwoSwept).rows.map fun row => (row.agentId, row.status, row.healthStatus)) =
        [("a", "offline", "offline"), ("b", "online", "degraded")] ∧
      ∀ row ∈ (agentsAfter oneOfTwoSwept).rows,
        ∃ columns : IdentityColumns, columns.Sound ∧ row.fingerprint = columns.fingerprint ∧
          row.macAddresses = columns.macAddresses ∧ row.vpnActive = columns.vpnActive ∧
          row.domainJoined = columns.domainJoined ∧
          (row.status = "online" ∧ row.healthStatus = columns.healthStatus ∨
            row.status = "offline" ∧ row.healthStatus = "offline") := by
  have years : ∀ op ∈ oneOfTwoSwept, FourDigitYear op.now := by decide +kernel
  refine ⟨by decide +kernel, fun row stored => ?_⟩
  exact (stored_row_sound years stored).1

end DlpSystem.Server
