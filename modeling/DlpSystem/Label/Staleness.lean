import DlpSystem.Label.CachedResolution

/-!
# Labels that change while they are resolved

`with_mutation` commits a change of the label table and then empties the cache;
`resolve_tier_and_label_id` looks into the cache, queries the table and then fills the
cache.  The steps of any number of such calls interleave.  The tables of the past are
kept, so that an answer can be compared with all tables since a moment.
-/

namespace DlpSystem.Labels

open Abac Server Lib

/-! ## Calls in progress -/

/-- How far `with_mutation` has come. -/
inductive MutationStage
  | mutated (change : List LabelRow → List LabelRow)
  | audited (change : List LabelRow → List LabelRow)
  /-- The table with this number is committed, the cache is not emptied yet. -/
  | committed (version : Nat)
  | returned

/-- The mutation holds the write lock of the database. -/
def MutationStage.writes : MutationStage → Bool
  | .mutated _ => true
  | .audited _ => true
  | _ => false

/-- How far `resolve_tier_and_label_id` has come. -/
inductive ResolveStage
  | called
  | missed
  | readExact (exact : Option LabelRow)
  /-- `find_parent_label` has its connection; these folders are still to be asked, nearest
  first. -/
  | walking (exact : Option LabelRow) (folders : List (List Char))
  | readBoth (exact parent : Option LabelRow)
  | answered (result : ResolvedTierWithId)
  /-- A read failed and the answer was `LookupFailed`. -/
  | failed
  deriving DecidableEq

/-- The rows that a call has read when it is about to fill the cache. -/
def ResolveStage.rowsRead : ResolveStage → Option (Option LabelRow × Option LabelRow)
  | .readBoth exact parent => some (exact, parent)
  | _ => none

/-- The result of a call that has answered without a failure. -/
def ResolveStage.answer : ResolveStage → Option ResolvedTierWithId
  | .answered result => some result
  | _ => none

theorem ResolveStage.answer_eq_some {stage : ResolveStage} {result : ResolvedTierWithId}
    (found : stage.answer = some result) : stage = .answered result := by
  cases stage <;> simp_all [ResolveStage.answer]

/-- A call of `resolve_tier_and_label_id`.  `floor` is the newest table whose mutation had
returned when the call started. -/
structure ResolveCall where
  path : String
  floor : Nat
  stage : ResolveStage
  deriving DecidableEq

/-- The label service between the steps of its calls. -/
structure LabelServer where
  /-- The committed tables; only those up to `version` exist. -/
  tables : Nat → List LabelRow
  version : Nat
  cache : String → Option LabelCacheEntry
  now : Nat
  mutations : List MutationStage
  /-- The newest table whose mutation has returned. -/
  returned : Nat
  resolves : List ResolveCall

/-- A step of a call, which may fail. -/
inductive LabelStep
  | tick (now : Nat)
  /-- `with_mutation` opens its transaction and runs the mutation. -/
  | mutate (change : List LabelRow → List LabelRow)
  | advanceMutation (index : Nat) (fails : Bool)
  | resolve (path : String)
  | advanceResolve (index : Nat) (fails : Bool)

/-! ## Reads -/

/-- The table, with reads that succeed. -/
def readable (rows : List LabelRow) : LabelDb :=
  ⟨rows, false, false, fun _ => false⟩

/-- The label of a path. -/
def exactRow (rows : List LabelRow) (path : String) : Option LabelRow :=
  rows.find? fun row => row.path = path

/-- The label of a folder, whose path is given from its end. -/
def folderRow (rows : List LabelRow) (reversed : List Char) : Option LabelRow :=
  rows.find? fun row => row.path = String.ofList reversed.reverse && row.objectType = .folder

/-- The label of the nearest labelled folder. -/
def parentRow (rows : List LabelRow) (path : String) : Option LabelRow :=
  (foldersAbove path.toList.reverse).findSome? (folderRow rows)

/-- What a table says of a path. -/
def resolutionIn (rows : List LabelRow) (path : String) : ResolvedTierWithId :=
  combineLabels (exactRow rows path) (parentRow rows path)

namespace LabelServer

/-- The table that queries see. -/
def rows (server : LabelServer) : List LabelRow :=
  server.tables server.version

/-- The label service of the source at this moment. -/
def service (server : LabelServer) : LabelService :=
  ⟨readable server.rows, server.cache, server.now⟩

/-- The next step of a mutation: its audit event, its commit, the emptying of the cache
before it returns.  A step that fails ends it with an error and leaves the table. -/
def advanceMutation (server : LabelServer) (index : Nat) (fails : Bool) :
    MutationStage → LabelServer
  | .mutated change =>
      { server with
        mutations := server.mutations.set index (if fails then .returned else .audited change) }
  | .audited change =>
      if fails then { server with mutations := server.mutations.set index .returned }
      else
        { server with
          tables := Function.update server.tables (server.version + 1) (change server.rows)
          version := server.version + 1
          mutations := server.mutations.set index (.committed (server.version + 1)) }
  | .committed version =>
      { server with
        cache := fun _ => none
        mutations := server.mutations.set index .returned
        returned := max server.returned version }
  | .returned => server

/-- The stage that the next step of a resolution leads to. -/
def nextStage (server : LabelServer) (path : String) (fails : Bool) :
    ResolveStage → ResolveStage
  | .called =>
      match server.service.cached path with
      | some entry => .answered entry.toResolved
      | none => .missed
  | .missed => if fails then .failed else .readExact (exactRow server.rows path)
  | .readExact exact =>
      if fails then .failed else .walking exact (foldersAbove path.toList.reverse)
  | .walking exact [] => .readBoth exact none
  | .walking exact (folder :: folders) =>
      -- A folder whose query fails counts as unlabelled.
      if fails then .walking exact folders
      else
        match folderRow server.rows folder with
        | some row => .readBoth exact (some row)
        | none => .walking exact folders
  | .readBoth exact parent => .answered (combineLabels exact parent)
  | .answered result => .answered result
  | .failed => .failed

/-- The cache after the next step of a resolution. -/
def nextCache (server : LabelServer) (path : String) :
    ResolveStage → String → Option LabelCacheEntry
  | .readBoth exact parent =>
      Function.update server.cache path
        (some ((combineLabels exact parent).toCacheEntry server.now))
  | _ => server.cache

/-- The effect of a step. -/
def next (server : LabelServer) : LabelStep → LabelServer
  | .tick now => { server with now := now }
  | .mutate change =>
      if server.mutations.any MutationStage.writes then server
      else { server with mutations := server.mutations ++ [.mutated change] }
  | .advanceMutation index fails =>
      match server.mutations[index]? with
      | none => server
      | some stage => server.advanceMutation index fails stage
  | .resolve path =>
      { server with resolves := server.resolves ++ [⟨path, server.returned, .called⟩] }
  | .advanceResolve index fails =>
      match server.resolves[index]? with
      | none => server
      | some call =>
          { server with
            cache := server.nextCache call.path call.stage
            resolves := server.resolves.set index
              { call with stage := server.nextStage call.path fails call.stage } }

end LabelServer

/-! ## A call that nobody interrupts -/

/-- The server with one resolution in progress. -/
def solo (server : LabelServer) (path : String) (stage : ResolveStage) : LabelServer :=
  { server with resolves := [⟨path, server.returned, stage⟩] }

/-- Steps of the first resolution, none of which fails, lead from one server to another. -/
def Leads (source target : LabelServer) : Prop :=
  ∃ count, (List.replicate count (.advanceResolve 0 false)).foldl LabelServer.next source = target

theorem Leads.refl (server : LabelServer) : Leads server server :=
  ⟨0, rfl⟩

theorem Leads.step {source target : LabelServer}
    (rest : Leads (source.next (.advanceResolve 0 false)) target) : Leads source target := by
  rcases rest with ⟨count, rfl⟩
  exact ⟨count + 1, rfl⟩

/-- A step of the resolution that leaves the cache alone. -/
theorem leads_of_nextStage {server target : LabelServer} {path : String}
    {stage after : ResolveStage} (unfilled : server.nextCache path stage = server.cache)
    (goes : server.nextStage path false stage = after)
    (rest : Leads (solo server path after) target) : Leads (solo server path stage) target := by
  have steps : (solo server path stage).next (.advanceResolve 0 false) =
      { solo server path (server.nextStage path false stage) with
        cache := server.nextCache path stage } := rfl
  apply Leads.step
  rw [steps, unfilled, goes]
  exact rest

/-- The walk up the folders finds the nearest labelled one. -/
theorem leads_walk (server : LabelServer) (path : String) (exact : Option LabelRow)
    (folders : List (List Char)) :
    Leads (solo server path (.walking exact folders))
      (solo server path (.readBoth exact (folders.findSome? (folderRow server.rows)))) := by
  induction folders with
  | nil => exact (Leads.refl _).step
  | cons folder folders ih =>
      rw [List.findSome?_cons]
      cases labelled : folderRow server.rows folder with
      | none =>
          have walks : server.nextStage path false (.walking exact (folder :: folders)) =
              .walking exact folders := by simp [LabelServer.nextStage, labelled]
          exact leads_of_nextStage rfl walks ih
      | some row =>
          have found : server.nextStage path false (.walking exact (folder :: folders)) =
              .readBoth exact (some row) := by simp [LabelServer.nextStage, labelled]
          exact leads_of_nextStage rfl found (Leads.refl _)

/-- A resolution that nobody interrupts is `resolve_tier_and_label_id`. -/
theorem leads_resolve (server : LabelServer) (path : String) :
    Leads (solo server path .called)
      { solo server path (.answered (server.service.resolveTierAndLabelId path).1) with
        cache := (server.service.resolveTierAndLabelId path).2.cache } := by
  cases hit : server.service.cached path with
  | some entry =>
      have answers : server.nextStage path false .called = .answered entry.toResolved := by
        simp [LabelServer.nextStage, hit]
      have result : server.service.resolveTierAndLabelId path =
          (entry.toResolved, server.service) := by simp [LabelService.resolveTierAndLabelId, hit]
      rw [result]
      exact leads_of_nextStage rfl answers (Leads.refl _)
  | none =>
      have misses : server.nextStage path false .called = .missed := by
        simp [LabelServer.nextStage, hit]
      have result : server.service.resolveTierAndLabelId path =
          (resolutionIn server.rows path,
            { server.service with
              cache := Function.update server.cache path
                (some ((resolutionIn server.rows path).toCacheEntry server.now)) }) := by
        simp only [LabelService.resolveTierAndLabelId, hit]
        rfl
      rw [result]
      apply leads_of_nextStage rfl misses
      apply Leads.step
      apply Leads.step
      rcases leads_walk server path (exactRow server.rows path)
        (foldersAbove path.toList.reverse) with ⟨count, walked⟩
      refine ⟨count + 1, ?_⟩
      rw [List.replicate_succ', List.foldl_append]
      exact congrArg (fun reached => LabelServer.next reached (.advanceResolve 0 false)) walked

/-- A mutation that nobody interrupts changes the table and empties the cache. -/
theorem mutation_uninterrupted (server : LabelServer)
    (change : List LabelRow → List LabelRow) (idle : server.mutations = []) :
    [LabelStep.mutate change, .advanceMutation 0 false, .advanceMutation 0 false,
        .advanceMutation 0 false].foldl LabelServer.next server =
      { server with
        tables := Function.update server.tables (server.version + 1) (change server.rows)
        version := server.version + 1
        cache := fun _ => none
        mutations := [.returned]
        returned := max server.returned (server.version + 1) } := by
  rcases server with ⟨tables, version, cache, now, mutations, returned, resolves⟩
  cases idle
  rfl

/-! ## Answers that are not stale -/

/-- A result is what a table says of a path, directly or through the cache, which does not
keep the label's id. -/
def SaidBy (rows : List LabelRow) (path : String) (result : ResolvedTierWithId) : Prop :=
  result = resolutionIn rows path ∨ result = { resolutionIn rows path with labelId := none }

/-- Every answer is what some table says that is no older than the newest one whose
mutation had returned when the call started. -/
def NoStaleAnswer (server : LabelServer) : Prop :=
  ∀ call ∈ server.resolves, ∀ result ∈ call.stage.answer,
    ∃ moment ≤ server.version, call.floor ≤ moment ∧
      SaidBy (server.tables moment) call.path result

/-- A resolution that is about to fill the cache has read the rows of one table, and this
table is no older than the newest one whose mutation has returned. -/
def InsertsFresh (server : LabelServer) : LabelStep → Prop
  | .advanceResolve index _ =>
      ∀ call ∈ server.resolves[index]?, ∀ rows ∈ call.stage.rowsRead,
        ∃ moment ≤ server.version, server.returned ≤ moment ∧
          exactRow (server.tables moment) call.path = rows.1 ∧
          parentRow (server.tables moment) call.path = rows.2
  | _ => True

instance (rows : List LabelRow) (path : String) (result : ResolvedTierWithId) :
    Decidable (SaidBy rows path result) :=
  inferInstanceAs (Decidable (_ ∨ _))

instance (server : LabelServer) : Decidable (NoStaleAnswer server) :=
  inferInstanceAs (Decidable (∀ call ∈ server.resolves, ∀ result ∈ call.stage.answer, _))

instance (server : LabelServer) : ∀ step, Decidable (InsertsFresh server step)
  | .advanceResolve index _ =>
      inferInstanceAs (Decidable (∀ call ∈ server.resolves[index]?, ∀ rows ∈ call.stage.rowsRead, _))
  | .tick _ => isTrue trivial
  | .mutate _ => isTrue trivial
  | .advanceMutation _ _ => isTrue trivial
  | .resolve _ => isTrue trivial

/-- The service as it starts: one table, nothing cached and nothing in progress. -/
def startServer (rows : List LabelRow) : LabelServer :=
  ⟨fun _ => rows, 0, fun _ => none, 0, [], 0, []⟩

/-! ## The invariant -/

/-- Mutations that have committed, entries and calls are no older than they may be. -/
structure SoundServer (server : LabelServer) : Prop where
  returnedExists : server.returned ≤ server.version
  committedExist : ∀ version, MutationStage.committed version ∈ server.mutations →
    version ≤ server.version
  cacheFresh : ∀ path entry, server.cache path = some entry →
    ∃ moment ≤ server.version, server.returned ≤ moment ∧
      entry = (resolutionIn (server.tables moment) path).toCacheEntry entry.inserted
  floors : ∀ call ∈ server.resolves, call.floor ≤ server.returned
  answers : NoStaleAnswer server

theorem soundServer_start (rows : List LabelRow) : SoundServer (startServer rows) where
  returnedExists := Nat.le_refl 0
  committedExist := fun _ member => nomatch member
  cacheFresh := fun _ _ found => nomatch found
  floors := fun _ member => nomatch member
  answers := fun _ member => nomatch member

/-- An answer comes from the cache, from the rows that were read, or was there before. -/
theorem nextStage_eq_answered {server : LabelServer} {path : String} {fails : Bool}
    {stage : ResolveStage} {result : ResolvedTierWithId}
    (answers : server.nextStage path fails stage = .answered result) :
    (stage = .called ∧ ∃ entry, server.service.cached path = some entry ∧
        result = entry.toResolved) ∨
      (∃ exact parent, stage = .readBoth exact parent ∧ result = combineLabels exact parent) ∨
      stage = .answered result := by
  cases stage with
  | called =>
      simp only [LabelServer.nextStage] at answers
      cases hit : server.service.cached path with
      | none => simp [hit] at answers
      | some entry =>
          simp only [hit, ResolveStage.answered.injEq] at answers
          exact Or.inl ⟨rfl, entry, rfl, answers.symm⟩
  | missed =>
      cases fails <;> simp [LabelServer.nextStage] at answers
  | readExact exact =>
      cases fails <;> simp [LabelServer.nextStage] at answers
  | walking exact folders =>
      cases folders with
      | nil => simp [LabelServer.nextStage] at answers
      | cons folder folders =>
          simp only [LabelServer.nextStage] at answers
          split at answers
          · cases answers
          · split at answers <;> cases answers
  | readBoth exact parent =>
      simp only [LabelServer.nextStage, ResolveStage.answered.injEq] at answers
      exact Or.inr (Or.inl ⟨exact, parent, rfl, answers.symm⟩)
  | answered other =>
      simp only [LabelServer.nextStage] at answers
      exact Or.inr (Or.inr answers)
  | failed => simp [LabelServer.nextStage] at answers

/-- A step fills the cache only from the rows that were read. -/
theorem nextCache_eq_some {server : LabelServer} {path other : String} {stage : ResolveStage}
    {entry : LabelCacheEntry} (found : server.nextCache path stage other = some entry) :
    server.cache other = some entry ∨
      ∃ exact parent, stage = .readBoth exact parent ∧ other = path ∧
        entry = (combineLabels exact parent).toCacheEntry server.now := by
  cases stage with
  | readBoth exact parent =>
      simp only [LabelServer.nextCache] at found
      by_cases same : other = path
      · subst same
        rw [Function.update_self] at found
        exact Or.inr ⟨exact, parent, rfl, rfl, (Option.some.inj found).symm⟩
      · rw [Function.update_of_ne same] at found
        exact Or.inl found
  | called => exact Or.inl found
  | missed => exact Or.inl found
  | readExact exact => exact Or.inl found
  | walking exact folders => exact Or.inl found
  | answered result => exact Or.inl found
  | failed => exact Or.inl found

/-- A cached entry answers what its table says, without the label's id. -/
theorem saidBy_toResolved {rows : List LabelRow} {path : String} {entry : LabelCacheEntry}
    (built : entry = (resolutionIn rows path).toCacheEntry entry.inserted) :
    SaidBy rows path entry.toResolved := by
  rw [built]
  exact Or.inr (toResolved_toCacheEntry ..)

namespace SoundServer

variable {server : LabelServer}

/-- A new table leaves the older ones. -/
theorem older_kept {moment : Nat} {rows : List LabelRow} (older : moment ≤ server.version) :
    Function.update server.tables (server.version + 1) rows moment = server.tables moment :=
  Function.update_of_ne (by omega) _ _

theorem commit (sound : SoundServer server) (index : Nat)
    (change : List LabelRow → List LabelRow) :
    SoundServer (server.advanceMutation index false (.audited change)) where
  returnedExists := Nat.le_succ_of_le sound.returnedExists
  committedExist := by
    intro version member
    rcases List.mem_or_eq_of_mem_set member with before | new
    · exact Nat.le_succ_of_le (sound.committedExist version before)
    · cases new
      exact Nat.le_refl _
  cacheFresh := by
    intro path entry found
    rcases sound.cacheFresh path entry found with ⟨moment, known, since, built⟩
    refine ⟨moment, Nat.le_succ_of_le known, since, ?_⟩
    rw [built]
    simp only [LabelServer.advanceMutation, Bool.false_eq_true, if_false, older_kept known,
      toCacheEntry_inserted]
  floors := sound.floors
  answers := by
    intro call member result answered
    rcases sound.answers call member result answered with ⟨moment, known, since, said⟩
    refine ⟨moment, Nat.le_succ_of_le known, since, ?_⟩
    simp only [LabelServer.advanceMutation, Bool.false_eq_true, if_false, older_kept known]
    exact said

theorem invalidate (sound : SoundServer server) {index version : Nat} (fails : Bool)
    (committed : server.mutations[index]? = some (.committed version)) :
    SoundServer (server.advanceMutation index fails (.committed version)) where
  returnedExists :=
    Nat.max_le.mpr ⟨sound.returnedExists,
      sound.committedExist version (List.mem_of_getElem? committed)⟩
  committedExist := by
    intro other member
    rcases List.mem_or_eq_of_mem_set member with before | new
    · exact sound.committedExist other before
    · cases new
  cacheFresh := fun _ _ found => nomatch found
  floors := fun call member => Nat.le_trans (sound.floors call member) (Nat.le_max_left ..)
  answers := sound.answers

/-- A mutation that goes on without committing, or ends. -/
theorem setMutation (sound : SoundServer server) (index : Nat) {stage : MutationStage}
    (uncommitted : ∀ version, stage ≠ .committed version) :
    SoundServer { server with mutations := server.mutations.set index stage } where
  returnedExists := sound.returnedExists
  committedExist := by
    intro version member
    rcases List.mem_or_eq_of_mem_set member with before | new
    · exact sound.committedExist version before
    · exact absurd new.symm (uncommitted version)
  cacheFresh := sound.cacheFresh
  floors := sound.floors
  answers := sound.answers

theorem advanceMutation (sound : SoundServer server) {index : Nat} {stage : MutationStage}
    (fails : Bool) (found : server.mutations[index]? = some stage) :
    SoundServer (server.advanceMutation index fails stage) := by
  cases stage with
  | mutated change =>
      apply sound.setMutation index
      intro version
      cases fails with
      | false => exact fun same => nomatch same
      | true => exact fun same => nomatch same
  | audited change =>
      cases fails with
      | false => exact sound.commit index change
      | true => exact sound.setMutation index fun version same => nomatch same
  | committed version => exact sound.invalidate fails found
  | returned => exact sound

theorem advanceResolve (sound : SoundServer server) {index : Nat} {call : ResolveCall}
    (fails : Bool) (found : server.resolves[index]? = some call)
    (fresh : ∀ rows ∈ call.stage.rowsRead,
      ∃ moment ≤ server.version, server.returned ≤ moment ∧
        exactRow (server.tables moment) call.path = rows.1 ∧
        parentRow (server.tables moment) call.path = rows.2) :
    SoundServer
      { server with
        cache := server.nextCache call.path call.stage
        resolves := server.resolves.set index
          { call with stage := server.nextStage call.path fails call.stage } } where
  returnedExists := sound.returnedExists
  committedExist := sound.committedExist
  cacheFresh := by
    intro path entry stored
    rcases nextCache_eq_some stored with before | ⟨exact, parent, stage, rfl, built⟩
    · exact sound.cacheFresh path entry before
    · rcases fresh (exact, parent) (by rw [stage]; rfl) with ⟨moment, known, since, rfl, rfl⟩
      refine ⟨moment, known, since, ?_⟩
      rw [built, toCacheEntry_inserted]
      rfl
  floors := by
    intro other member
    rcases List.mem_or_eq_of_mem_set member with before | rfl
    · exact sound.floors other before
    · exact sound.floors call (List.mem_of_getElem? found)
  answers := by
    intro other member result answered
    rcases List.mem_or_eq_of_mem_set member with before | rfl
    · exact sound.answers other before result answered
    · have floor := sound.floors call (List.mem_of_getElem? found)
      rcases nextStage_eq_answered (ResolveStage.answer_eq_some answered) with
        ⟨_, entry, hit, rfl⟩ | ⟨exact, parent, stage, rfl⟩ | already
      · have stored := (Option.filter_eq_some_iff.mp hit).1
        rcases sound.cacheFresh call.path entry stored with ⟨moment, known, since, built⟩
        exact ⟨moment, known, Nat.le_trans floor since, saidBy_toResolved built⟩
      · rcases fresh (exact, parent) (by rw [stage]; rfl) with ⟨moment, known, since, rfl, rfl⟩
        exact ⟨moment, known, Nat.le_trans floor since, Or.inl rfl⟩
      · apply sound.answers call (List.mem_of_getElem? found) result
        rw [already]
        rfl

theorem next (sound : SoundServer server) {step : LabelStep}
    (fresh : InsertsFresh server step) : SoundServer (server.next step) := by
  cases step with
  | tick now =>
      exact ⟨sound.returnedExists, sound.committedExist, sound.cacheFresh, sound.floors,
        sound.answers⟩
  | mutate change =>
      simp only [LabelServer.next]
      split
      · exact sound
      · refine ⟨sound.returnedExists, ?_, sound.cacheFresh, sound.floors, sound.answers⟩
        intro version member
        rcases List.mem_append.mp member with before | new
        · exact sound.committedExist version before
        · cases List.mem_singleton.mp new
  | advanceMutation index fails =>
      simp only [LabelServer.next]
      cases found : server.mutations[index]? with
      | none => exact sound
      | some stage => exact sound.advanceMutation fails found
  | resolve path =>
      refine ⟨sound.returnedExists, sound.committedExist, sound.cacheFresh, ?_, ?_⟩
      · intro call member
        rcases List.mem_append.mp member with before | new
        · exact sound.floors call before
        · cases List.mem_singleton.mp new
          exact Nat.le_refl _
      · intro call member result answered
        rcases List.mem_append.mp member with before | new
        · exact sound.answers call before result answered
        · cases List.mem_singleton.mp new
          cases answered
  | advanceResolve index fails =>
      simp only [LabelServer.next]
      cases found : server.resolves[index]? with
      | none => exact sound
      | some call => exact sound.advanceResolve fails found (fresh call found)

end SoundServer

/-- In every run that fills the cache only with the rows of a table that is no older than
the newest one whose mutation has returned, no answer is stale. -/
theorem resolve_not_stale (rows : List LabelRow) (steps : List LabelStep)
    (fresh : Each LabelServer.next InsertsFresh (startServer rows) steps) :
    NoStaleAnswer (steps.foldl LabelServer.next (startServer rows)) :=
  (fresh.invariant (fun _ _ sound fresh => SoundServer.next sound fresh)
    (soundServer_start rows)).answers

/-! ## A file whose label is raised -/

/-- The label of a file. -/
def fileLabel (tier : Tier) : List LabelRow :=
  [⟨"label-001", "a.txt", .file, tier⟩]

/-- A mutation that raises the label to T4, from its start to its return. -/
def raiseLabel : List LabelStep :=
  [.mutate fun _ => fileLabel .T4, .advanceMutation 0 false, .advanceMutation 0 false,
    .advanceMutation 0 false]

/-- A resolution up to the moment when it is about to fill the cache. -/
def readLabel (index : Nat) : List LabelStep :=
  .resolve "a.txt" :: List.replicate 4 (.advanceResolve index false)

/-- A resolution, the mutation and a second resolution, one after the other. -/
def oneAfterOther : List LabelStep :=
  readLabel 0 ++ [.advanceResolve 0 false] ++ raiseLabel ++ readLabel 1 ++
    [.advanceResolve 1 false]

/-- The first resolution reads the label T1, the mutation runs from its start to its
return, and only then the first resolution fills the cache.  The second resolution starts
after that. -/
def lateInsert : List LabelStep :=
  readLabel 0 ++ raiseLabel ++
    [.advanceResolve 0 false, .resolve "a.txt", .advanceResolve 1 false]

theorem oneAfterOther_not_stale :
    Each LabelServer.next InsertsFresh (startServer (fileLabel .T1)) oneAfterOther ∧
      NoStaleAnswer (oneAfterOther.foldl LabelServer.next (startServer (fileLabel .T1))) := by
  have fresh : Each LabelServer.next InsertsFresh (startServer (fileLabel .T1)) oneAfterOther := by
    decide +kernel
  exact ⟨fresh, resolve_not_stale _ _ fresh⟩

/-- The second resolution answers T1, which no table says any more. -/
theorem lateInsert_stale :
    ¬NoStaleAnswer (lateInsert.foldl LabelServer.next (startServer (fileLabel .T1))) := by
  decide +kernel

end DlpSystem.Labels
