import DlpSystem.Label.CachedResolution

/-!
# Resolutions whose queries fail

A resolution queries the label of the path and then, over one connection, the folders
above it.  The queries that it issues depend on the ones before them: a failure of the
first query or of the connection ends the resolution, and the walk ends at the first
folder with a label.
-/

namespace DlpSystem.Labels

open Abac Server

/-! ## The queries of a resolution -/

/-- A read of the database. -/
inductive LabelQuery
  | exact
  /-- The connection of `find_parent_label`. -/
  | connection
  | folder (path : String)
  deriving DecidableEq

/-- The read fails. -/
def queryFails (db : LabelDb) : LabelQuery → Bool
  | .exact => db.exactFails
  | .connection => db.parentFails
  | .folder path => db.folderFails path

/-- What the walk makes of a folder, whose path is given from its end. -/
def folderAnswer (db : LabelDb) (reversed : List Char) : Option LabelRow :=
  let parent := String.ofList reversed.reverse
  if db.folderFails parent then none
  else db.rows.find? fun row => row.path = parent && row.objectType = .folder

/-- The queries of the walk. -/
def walkQueries (db : LabelDb) : List (List Char) → List LabelQuery
  | [] => []
  | reversed :: above =>
      .folder (String.ofList reversed.reverse) ::
        match folderAnswer db reversed with
        | some _ => []
        | none => walkQueries db above

/-- The queries of `find_parent_label`, with its connection. -/
def parentQueries (db : LabelDb) (path : String) : List LabelQuery :=
  .connection :: if db.parentFails then [] else walkQueries db (foldersAbove path.toList.reverse)

/-- The queries that a resolution issues.  A cached answer needs none. -/
def issuedQueries (service : LabelService) (path : String) : List LabelQuery :=
  match service.cached path with
  | some _ => []
  | none => .exact :: if service.db.exactFails then [] else parentQueries service.db path

/-- When an issued query fails the answer is `LookupFailed` with the blocked tier, and the
cache is as before. -/
def FailsClosed (service : LabelService) (path : String) : Prop :=
  (∃ query ∈ issuedQueries service path, queryFails service.db query = true) →
    service.resolveTierAndLabelId path = (lookupFailed, service)

/-! ## What a resolution depends on -/

theorem findParentLabel_eq (db : LabelDb) (path : String) :
    db.findParentLabel path =
      if db.parentFails then none
      else some ((foldersAbove path.toList.reverse).findSome? (folderAnswer db)) :=
  rfl

/-- The walk reads the table through the queries it issues. -/
theorem findSome_folderAnswer_congr {db other : LabelDb} (sameRows : other.rows = db.rows)
    {folders : List (List Char)}
    (agree : ∀ query ∈ walkQueries db folders, queryFails other query = queryFails db query) :
    folders.findSome? (folderAnswer other) = folders.findSome? (folderAnswer db) := by
  induction folders with
  | nil => rfl
  | cons reversed above inductionHypothesis =>
      have sameFailure := agree (.folder (String.ofList reversed.reverse)) (List.mem_cons_self ..)
      have sameAnswer : folderAnswer other reversed = folderAnswer db reversed := by
        simp only [queryFails] at sameFailure
        simp only [folderAnswer, sameFailure, sameRows]
      rw [List.findSome?_cons, List.findSome?_cons, sameAnswer]
      cases answer : folderAnswer db reversed with
      | some row => rfl
      | none =>
          apply inductionHypothesis
          intro query issued
          apply agree
          rw [walkQueries, answer]
          exact List.mem_cons_of_mem _ issued

/-- Queries that are not issued could fail or succeed: the answer is the same. -/
theorem resolveTierAndLabelId_congr {service : LabelService} {other : LabelDb} {path : String}
    (sameRows : other.rows = service.db.rows)
    (agree : ∀ query ∈ issuedQueries service path,
      queryFails other query = queryFails service.db query) :
    ({ service with db := other }.resolveTierAndLabelId path).1 =
      (service.resolveTierAndLabelId path).1 := by
  have sameCached : { service with db := other }.cached path = service.cached path := rfl
  rw [resolve_eq, resolve_eq, sameCached]
  cases cached : service.cached path with
  | some entry => rfl
  | none =>
      simp only [issuedQueries, cached] at agree
      have sameExact : other.exactFails = service.db.exactFails :=
        agree .exact (List.mem_cons_self ..)
      simp only [tableResult, LabelDb.getByPath, sameExact, sameRows]
      cases exactFails : service.db.exactFails with
      | true => rfl
      | false =>
          simp only [exactFails, Bool.false_eq_true, if_false, parentQueries] at agree
          have sameParent : other.parentFails = service.db.parentFails :=
            agree .connection (by simp)
          rw [findParentLabel_eq, findParentLabel_eq, sameParent]
          cases parentFails : service.db.parentFails with
          | true => rfl
          | false =>
              rw [findSome_folderAnswer_congr sameRows]
              intro query issued
              apply agree
              simp [parentFails, issued]

/-! ## When a resolution fails closed -/

/-- An answer from the table is never `LookupFailed`. -/
theorem combineLabels_ne_lookupFailed (exact parent : Option LabelRow) :
    combineLabels exact parent ≠ lookupFailed := by
  have source : (combineLabels exact parent).source ≠ .lookupFailed := by
    unfold combineLabels
    split
    · split
      · exact nofun
      · exact nofun
    all_goals exact nofun
  intro failed
  exact source (congrArg ResolvedTierWithId.source failed)

/-- The resolution that gets past its first two reads. -/
theorem resolve_past_reads {service : LabelService} {path : String}
    (missed : service.cached path = none) (exactSucceeds : service.db.exactFails = false)
    (connected : service.db.parentFails = false) :
    (service.resolveTierAndLabelId path).1 ≠ lookupFailed := by
  rw [resolve_eq, missed]
  simp only [tableResult, LabelDb.getByPath, exactSucceeds, findParentLabel_eq, connected,
    Bool.false_eq_true, if_false, Option.bind_some, Option.map_some, Option.getD_some]
  exact combineLabels_ne_lookupFailed _ _

/-- A resolution that issues folder queries has its first query answered and is connected. -/
theorem reads_of_folder_issued {service : LabelService} {path folder : String}
    (issued : LabelQuery.folder folder ∈ issuedQueries service path) :
    service.cached path = none ∧ service.db.exactFails = false ∧
      service.db.parentFails = false := by
  unfold issuedQueries parentQueries at issued
  cases cached : service.cached path with
  | some entry => simp [cached] at issued
  | none =>
      cases exactFails : service.db.exactFails with
      | true => simp [cached, exactFails] at issued
      | false =>
          cases parentFails : service.db.parentFails with
          | true => simp [cached, exactFails, parentFails] at issued
          | false => exact ⟨rfl, rfl, rfl⟩

/-- A failure of the first query or of the connection ends the resolution. -/
theorem resolve_eq_lookupFailed {service : LabelService} {path : String} {query : LabelQuery}
    (issued : query ∈ issuedQueries service path)
    (failed : queryFails service.db query = true)
    (notFolder : ∀ folder, query ≠ .folder folder) :
    service.resolveTierAndLabelId path = (lookupFailed, service) := by
  unfold issuedQueries at issued
  unfold LabelService.resolveTierAndLabelId
  cases cached : service.cached path with
  | some entry => simp [cached] at issued
  | none =>
      simp only [cached] at issued
      cases query with
      | folder path => exact absurd rfl (notFolder path)
      | exact =>
          simp only [queryFails] at failed
          simp only [LabelDb.getByPath, failed, if_true]
      | connection =>
          simp only [queryFails] at failed
          cases exactFails : service.db.exactFails with
          | true => simp [exactFails] at issued
          | false =>
              simp only [LabelDb.getByPath, exactFails, Bool.false_eq_true, if_false,
                LabelDb.findParentLabel, failed, if_true]

/-- A resolution fails closed exactly if no folder query that it issues fails: the walk
takes a folder whose query fails for one without a label. -/
theorem failsClosed_iff (service : LabelService) (path : String) :
    FailsClosed service path ↔
      ∀ folder, .folder folder ∈ issuedQueries service path →
        service.db.folderFails folder = false := by
  constructor
  · intro closed folder issued
    cases failed : service.db.folderFails folder with
    | false => rfl
    | true =>
        have answer := closed ⟨.folder folder, issued, failed⟩
        obtain ⟨missed, exactSucceeds, connected⟩ := reads_of_folder_issued issued
        exact absurd (congrArg Prod.fst answer)
          (resolve_past_reads missed exactSucceeds connected)
  · rintro foldersAnswered ⟨query, issued, failed⟩
    apply resolve_eq_lookupFailed issued failed
    rintro folder rfl
    rw [queryFails, foldersAnswered folder issued] at failed
    cases failed

/-- A T4 folder whose query fails, above a file with the label T1. -/
def hiddenFolder : LabelService :=
  ⟨⟨[⟨"l1", "C:\\Secret", .folder, .T4⟩, ⟨"l2", "C:\\Secret\\plan.txt", .file, .T1⟩], false,
      false, fun folder => folder = "C:\\Secret"⟩, fun _ => none, 0⟩

/-- The file resolves to T1. -/
theorem hiddenFolder_resolves_T1 :
    (hiddenFolder.resolveTierAndLabelId "C:\\Secret\\plan.txt").1 =
        ⟨.T1, .exact, none, some "l2"⟩ ∧
      ¬ FailsClosed hiddenFolder "C:\\Secret\\plan.txt" := by
  constructor
  · decide
  · intro closed
    have answer := closed ⟨.folder "C:\\Secret", by decide, by decide⟩
    have notFailed : (hiddenFolder.resolveTierAndLabelId "C:\\Secret\\plan.txt").1 ≠
        lookupFailed := by decide
    exact notFailed (congrArg Prod.fst answer)

end DlpSystem.Labels
