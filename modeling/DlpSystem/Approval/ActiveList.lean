import DlpSystem.Approval.Delivery
import DlpSystem.Lib.Rfc3339

/-!
# The list of active approvals and the time

`list_active_approvals` compares the text of an end with the text of the current time.  The
end is written with the offset that was requested, the current time in UTC: the texts are
ordered as the local times, and an end within its offset of the current time is taken for
active when it is over, or for over when it is active.
-/

namespace DlpSystem.Approvals

open Common Server Lib

/-! ## Ends of approvals -/

/-- What the handlers rely on.  Times are written as RFC 3339 texts and such texts are read;
tokens are signed. -/
structure WritesRfc3339 (env : ApprovalEnv) : Prop where
  writes : ∀ nanos : Nat, env.toRfc3339 ⟨nanos, 0⟩ = rfc3339 (utcTime nanos)
  reads : ∀ time : LocalTime, time.year ≤ 9999 →
    ∃ read, env.parseRfc3339 (rfc3339 time) = .ok read
  signs : ∀ claims, ∃ token, env.signToken claims = .ok token

/-- The ends of approved rows are written as grants write them: times of any offset, whose
years have four digits as in the requests. -/
structure EndsGranted (table : ApprovalTable) (ends : ApprovalRow → LocalTime) : Prop where
  written : ∀ row ∈ table.rows, row.status = .approved →
    row.validUntil = some (rfc3339 (ends row))
  year : ∀ row ∈ table.rows, row.status = .approved → (ends row).year ≤ 9999

/-- The approval is approved and ends after the current time. -/
def ActiveAt (ends : ApprovalRow → LocalTime) (now : Nat) (row : ApprovalRow) : Bool :=
  row.status = .approved && decide ((utcTime now).instant < (ends row).instant)

/-- The list has exactly the approvals that are active. -/
def ListsActive (env : ApprovalEnv) (table : ApprovalTable) (ends : ApprovalRow → LocalTime)
    (now : Nat) : Prop :=
  ∃ responses, listActiveApprovals env table false ⟨now, 0⟩ = .ok responses ∧
    (responses.map fun response => response.claims.jti).Perm
      ((table.rows.filter (ActiveAt ends now)).map ApprovalRow.id)

/-- The offset of a time, in the units of its instant. -/
def offsetSpan (time : LocalTime) : Int :=
  60 * time.offset * 2000000000

/-- The end is not within its offset of the current time: not over for at most an offset
ahead of UTC, and not due in less than an offset behind UTC.  Once the current year has five
digits every end counts as active, and must be. -/
def OffsetHarmless (now : Nat) (time : LocalTime) : Prop :=
  if (utcTime now).year ≤ 9999 then
    ¬ (0 < time.offset ∧ time.instant ≤ (utcTime now).instant ∧
        (utcTime now).instant ≤ time.instant + offsetSpan time) ∧
      ¬ (time.offset < 0 ∧ time.instant + offsetSpan time < (utcTime now).instant ∧
        (utcTime now).instant < time.instant)
  else (utcTime now).instant < time.instant

/-! ## Texts and instants -/

theorem place_eq (time : LocalTime) : (time.place : Int) = time.instant + offsetSpan time := by
  unfold LocalTime.place LocalTime.instant offsetSpan
  push_cast
  omega

/-- The text of an end comes after the text of the current time if and only if the end does,
unless the offset stands between them. -/
theorem text_agrees_iff {now : Nat} {time : LocalTime} (year : time.year ≤ 9999) :
    (rfc3339 (utcTime now) < rfc3339 time ↔ (utcTime now).instant < time.instant) ↔
      OffsetHarmless now time := by
  have nowPlace := place_eq (utcTime now)
  have endPlace := place_eq time
  have nowSpan : offsetSpan (utcTime now) = 0 := rfl
  unfold OffsetHarmless
  split
  · rename_i nowYear
    rw [rfc3339_lt_iff nowYear year, show (utcTime now).offset = 0 from rfl,
      offsetText_zero_lt_iff time.offset_lt]
    unfold offsetSpan at *
    omega
  · rename_i far
    have before := rfc3339_lt_of_far (Nat.lt_of_not_le far) year
    simp only [before, true_iff]

/-! ## The list -/

section List

variable {env : ApprovalEnv} {table : ApprovalTable} {ends : ApprovalRow → LocalTime} {now : Nat}

/-- The `WHERE` clause on an approved row. -/
theorem isActive_iff (texts : WritesRfc3339 env) (granted : EndsGranted table ends)
    {row : ApprovalRow} (member : row ∈ table.rows) :
    ApprovalTable.isActive (env.toRfc3339 ⟨now, 0⟩) row = true ↔
      row.status = .approved ∧ rfc3339 (utcTime now) < rfc3339 (ends row) := by
  by_cases approved : row.status = .approved
  · simp [ApprovalTable.isActive, approved, granted.written row member approved, texts.writes]
  · simp [ApprovalTable.isActive, approved]

/-- The ids of the listed claims are those of the selected rows. -/
theorem exists_listed (texts : WritesRfc3339 env) (granted : EndsGranted table ends) :
    ∃ responses, listActiveApprovals env table false ⟨now, 0⟩ = .ok responses ∧
      (responses.map fun response => response.claims.jti) =
        (table.selectActive (env.toRfc3339 ⟨now, 0⟩)).map ApprovalRow.id := by
  rw [listActiveApprovals, if_neg Bool.false_ne_true]
  apply exists_mapM_eq_ok
  intro row selected
  obtain ⟨member, active⟩ := ApprovalTable.mem_selectActive.mp selected
  have approved := ApprovalTable.status_of_isActive active
  obtain ⟨read, parsed⟩ := texts.reads (ends row) (granted.year row member approved)
  have expiry : storedExpiry env row = .ok read := by
    simp only [storedExpiry, granted.written row member approved, parsed]
    rfl
  obtain ⟨token, signed⟩ := texts.signs (approvalClaims row row.id ⟨now, 0⟩ read)
  have answered : activeResponse env ⟨now, 0⟩ row =
      .ok ⟨token, approvalClaims row row.id ⟨now, 0⟩ read⟩ := by
    rw [activeResponse, expiry, ok_bind]
    simp only [signed, ok_bind]
    rfl
  exact ⟨_, answered, rfl⟩

/-- Two selections of a table have the same ids exactly if they select the same rows. -/
theorem filter_ids_perm_iff (table : ApprovalTable) (first second : ApprovalRow → Bool) :
    ((table.rows.filter first).map ApprovalRow.id).Perm
        ((table.rows.filter second).map ApprovalRow.id) ↔
      ∀ row ∈ table.rows, first row = second row := by
  constructor
  · intro sameIds row member
    have same_row : ∀ (select : ApprovalRow → Bool),
        row.id ∈ (table.rows.filter select).map ApprovalRow.id ↔ select row = true := by
      intro select
      constructor
      · intro listed
        obtain ⟨other, selected, sameId⟩ := List.mem_map.mp listed
        obtain ⟨otherMember, selects⟩ := List.mem_filter.mp selected
        rwa [← List.inj_on_of_nodup_map table.uniqueIds otherMember member sameId]
      · intro selects
        exact List.mem_map_of_mem (List.mem_filter.mpr ⟨member, selects⟩)
    rw [Bool.eq_iff_iff, ← same_row, ← same_row]
    exact sameIds.mem_iff
  · intro agree
    rw [List.filter_congr agree]

end List

/-- The list follows the time exactly if the offset of no approved end stands between it and
the current time. -/
theorem listsActive_iff (env : ApprovalEnv) (table : ApprovalTable)
    (ends : ApprovalRow → LocalTime) (now : Nat) (texts : WritesRfc3339 env)
    (granted : EndsGranted table ends) :
    ListsActive env table ends now ↔
      ∀ row ∈ table.rows, row.status = .approved → OffsetHarmless now (ends row) := by
  obtain ⟨responses, listed, ids⟩ := @exists_listed env table ends now texts granted
  have selectedPerm : ((table.selectActive (env.toRfc3339 ⟨now, 0⟩)).map ApprovalRow.id).Perm
      ((table.rows.filter (ApprovalTable.isActive (env.toRfc3339 ⟨now, 0⟩))).map
        ApprovalRow.id) :=
    (List.perm_insertionSort _ _).map _
  have exact_iff : ListsActive env table ends now ↔
      ∀ row ∈ table.rows, ApprovalTable.isActive (env.toRfc3339 ⟨now, 0⟩) row =
        ActiveAt ends now row := by
    rw [← filter_ids_perm_iff]
    constructor
    · rintro ⟨others, otherListed, active⟩
      cases Except.ok.inj (listed.symm.trans otherListed)
      rw [ids] at active
      exact selectedPerm.symm.trans active
    · intro active
      rw [← ids] at selectedPerm
      exact ⟨responses, listed, selectedPerm.trans active⟩
  rw [exact_iff]
  apply forall_congr'
  intro row
  apply forall_congr'
  intro member
  rw [Bool.eq_iff_iff, isActive_iff texts granted member]
  by_cases approved : row.status = .approved
  · rw [← text_agrees_iff (granted.year row member approved)]
    simp [ActiveAt, approved]
  · simp [ActiveAt, approved]

/-! ## Two ends -/

/-- Midnight at the start of 2027 in UTC. -/
def endOfYear : LocalTime :=
  utcTime 1798761600000000000

/-- Half an hour before that midnight, five hours behind UTC. -/
def westEnd : LocalTime where
  seconds := 63965979000
  nanos := 0
  offset := -300
  nanos_lt := by decide
  leapSecond := by decide
  offset_lt := by decide

/-- Texts as `chrono` writes them; of the texts that are read the one with an offset is
`westEnd`.  Tokens are ids. -/
def listEnv : ApprovalEnv :=
  { sampleEnv with
    parseRfc3339 := fun text =>
      if text = "2026-12-31T23:30:00-05:00" then .ok ⟨1798777800000000000, -18000⟩
      else .ok sampleEnd
    toRfc3339 := fun time => rfc3339 (utcTime time.nanos.toNat) }

theorem listEnv_writesRfc3339 : WritesRfc3339 listEnv where
  writes nanos := by simp [listEnv]
  reads time _ := by
    simp only [listEnv]
    split
    · exact ⟨_, rfl⟩
    · exact ⟨_, rfl⟩
  signs claims := ⟨claims.jti, rfl⟩

/-- A table with one approval, approved until a time. -/
def approvedUntil (text : String) : ApprovalTable where
  rows := [{ sampleRow with validUntil := some text }]
  uniqueIds := List.nodup_singleton _

theorem approvedUntil_endsGranted {text : String} {time : LocalTime}
    (written : text = rfc3339 time) (year : time.year ≤ 9999) :
    EndsGranted (approvedUntil text) fun _ => time where
  written row member _ := by
    cases List.mem_singleton.mp member
    rw [written]
  year _ _ _ := year

/-- An approval that ends with the year is listed when the year begins. -/
theorem endOfYear_listed :
    ListsActive listEnv (approvedUntil "2027-01-01T00:00:00+00:00") (fun _ => endOfYear)
      1767225600000000000 := by
  have granted := @approvedUntil_endsGranted "2027-01-01T00:00:00+00:00" endOfYear
    (by decide +kernel) (by decide +kernel)
  apply (listsActive_iff listEnv _ _ _ listEnv_writesRfc3339 granted).mpr
  intro row _ _
  rw [OffsetHarmless, if_pos (by decide +kernel)]
  decide +kernel

/-- An approval that ends four and a half hours after midnight, by its text half an hour
before, is not listed at midnight. -/
theorem westEnd_not_listed :
    WritesRfc3339 listEnv ∧
      EndsGranted (approvedUntil "2026-12-31T23:30:00-05:00") (fun _ => westEnd) ∧
        ¬ ListsActive listEnv (approvedUntil "2026-12-31T23:30:00-05:00") (fun _ => westEnd)
          1798761600000000000 := by
  constructor
  · exact listEnv_writesRfc3339
  constructor
  · exact approvedUntil_endsGranted (by decide +kernel) (by decide +kernel)
  · rintro ⟨responses, listed, active⟩
    have none : (approvedUntil "2026-12-31T23:30:00-05:00").selectActive
        (listEnv.toRfc3339 ⟨(1798761600000000000 : Nat), 0⟩) = [] := by
      decide +kernel
    rw [listActiveApprovals, if_neg Bool.false_ne_true, none] at listed
    cases Except.ok.inj listed
    exact absurd active.length_eq (by decide +kernel)

end DlpSystem.Approvals
