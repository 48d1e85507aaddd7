import DlpSystem.Lib.LinkedChain
import DlpSystem.Server.AuditStore

/-!
# What the integrity report says

The report finds no break exactly if the rows that it selects are, for every agent, a chain
from the genesis hash.  A filter that leaves out rows of an unbroken chain breaks the chain
where the first row behind them is selected; a limit only cuts off ends.
-/

namespace DlpSystem.Audit

open Lib Server

/-! ## Chains of a table -/

/-- The rows of an agent that have a chain hash. -/
def chainedRows (table : IntegrityTable) (agentId : String) : List IntegrityRow :=
  table.rows.filter fun row => row.chainHash.isSome && row.agentId = agentId

/-- The head of a chain after a row. -/
def headAfterRow (head : String) (row : IntegrityRow) : String :=
  row.chainHash.getD head

section Chains

variable (genesisHash : String)

/-- The rows are an unbroken chain from a head on. -/
def UnbrokenFrom (head : String) (rows : List IntegrityRow) : Prop :=
  LinkedFrom (IntegrityRow.prev genesisHash) headAfterRow head rows

instance (head : String) (rows : List IntegrityRow) :
    Decidable (UnbrokenFrom genesisHash head rows) :=
  inferInstanceAs (Decidable (LinkedFrom _ _ _ _))

/-- The rows of each agent are an unbroken chain from the genesis hash. -/
def UnbrokenTable (table : IntegrityTable) : Prop :=
  ∀ agentId, UnbrokenFrom genesisHash genesisHash (chainedRows table agentId)

/-- The limit leaves out no row of the table. -/
def CoversRows (params : IntegrityQueryParams) (table : IntegrityTable) : Prop :=
  params.effectiveLimit < 0 ∨ table.rows.length ≤ params.effectiveLimit

/-- The report is right about a table: it finds no break in unbroken chains, and in a report
of all rows without a break, the chains are unbroken that it was asked for. -/
structure ReportExact (table : IntegrityTable) (params : IntegrityQueryParams) : Prop where
  complete : UnbrokenTable genesisHash table →
    (getAuditIntegrity genesisHash table params).integrityOk = true ∧
      (getAuditIntegrity genesisHash table params).verifiedEvents =
        (getAuditIntegrity genesisHash table params).totalEvents
  sound : params.since = none → CoversRows params table →
    (getAuditIntegrity genesisHash table params).integrityOk = true →
      ∀ agentId, (∀ asked ∈ params.agentId, asked = agentId) →
        UnbrokenFrom genesisHash genesisHash (chainedRows table agentId)

/-- What the selection leaves out before a row that it takes does not change the head of the
agent's chain there. -/
def KeepsHeads (table : IntegrityTable) (params : IntegrityQueryParams) : Prop :=
  ∀ agentId before row after, chainedRows table agentId = before ++ row :: after →
    row ∈ table.select params →
      (before.filter fun earlier => earlier ∈ table.select params).foldl headAfterRow genesisHash =
        before.foldl headAfterRow genesisHash

end Chains

/-! ## The loop -/

section Loop

variable {genesisHash : String}

/-- The hash that the next row of an agent is compared with. -/
def comparedHead (genesisHash : String) (scan : IntegrityScan) (agentId : String) : String :=
  (scan.lastByAgent agentId).getD genesisHash

theorem comparedHead_scanRow (scan : IntegrityScan) (row : IntegrityRow) (agentId : String) :
    comparedHead genesisHash (scanRow genesisHash scan row) agentId =
      if agentId = row.agentId then
        headAfterRow (comparedHead genesisHash scan agentId) row
      else comparedHead genesisHash scan agentId := by
  cases hashed : row.chainHash with
  | none => simp [comparedHead, scanRow, hashed, headAfterRow]
  | some hash =>
      by_cases same : agentId = row.agentId
      · subst same
        simp [comparedHead, scanRow, hashed, headAfterRow]
      · simp [comparedHead, scanRow, hashed, same]

theorem chainBreaks_scanRow (scan : IntegrityScan) (row : IntegrityRow) :
    (scanRow genesisHash scan row).chainBreaks = [] ↔
      row.prev genesisHash = comparedHead genesisHash scan row.agentId ∧
        scan.chainBreaks = [] := by
  unfold comparedHead
  by_cases intact : row.prev genesisHash = (scan.lastByAgent row.agentId).getD genesisHash
  · simp [scanRow, intact]
  · simp [scanRow, intact]

/-- The loop finds no break exactly if the rows of every agent continue the head that is
expected for the agent. -/
theorem chainBreaks_foldl_scanRow (rows : List IntegrityRow) (scan : IntegrityScan) :
    (rows.foldl (scanRow genesisHash) scan).chainBreaks = [] ↔
      scan.chainBreaks = [] ∧
        ∀ agentId, UnbrokenFrom genesisHash (comparedHead genesisHash scan agentId)
          (rows.filter fun row => row.agentId = agentId) := by
  induction rows generalizing scan with
  | nil => simp [UnbrokenFrom, LinkedFrom]
  | cons row rest ih =>
      rw [List.foldl_cons, ih, chainBreaks_scanRow]
      -- The row belongs to one agent; the chains of the others do not see it.
      have byAgent : ∀ agentId, UnbrokenFrom genesisHash (comparedHead genesisHash scan agentId)
            ((row :: rest).filter fun row => row.agentId = agentId) ↔
          (agentId = row.agentId → row.prev genesisHash =
              comparedHead genesisHash scan row.agentId) ∧
            UnbrokenFrom genesisHash
              (comparedHead genesisHash (scanRow genesisHash scan row) agentId)
              (rest.filter fun row => row.agentId = agentId) := by
        intro agentId
        rw [comparedHead_scanRow]
        by_cases own : row.agentId = agentId
        · subst own
          rw [List.filter_cons_of_pos (by simp), if_pos rfl, UnbrokenFrom, LinkedFrom]
          simp [UnbrokenFrom]
        · rw [List.filter_cons_of_neg (by simp [own]), if_neg (Ne.symm own)]
          simp [Ne.symm own]
      simp only [byAgent, forall_and, forall_eq]
      constructor
      · rintro ⟨⟨here, clean⟩, later⟩
        exact ⟨clean, here, later⟩
      · rintro ⟨clean, here, later⟩
        exact ⟨⟨here, clean⟩, later⟩

theorem scanRows_clean_iff (rows : List IntegrityRow) :
    (scanRows genesisHash rows).chainBreaks = [] ↔
      ∀ agentId, UnbrokenFrom genesisHash genesisHash
        (rows.filter fun row => row.agentId = agentId) := by
  rw [scanRows, chainBreaks_foldl_scanRow]
  simp [comparedHead]

/-- Every row is verified or a break. -/
theorem totalEvents_scanRows (rows : List IntegrityRow) :
    (scanRows genesisHash rows).totalEvents =
      (scanRows genesisHash rows).verifiedEvents +
        (scanRows genesisHash rows).chainBreaks.length := by
  have kept : ∀ (rows : List IntegrityRow) (scan : IntegrityScan),
      scan.totalEvents = scan.verifiedEvents + scan.chainBreaks.length →
        (rows.foldl (scanRow genesisHash) scan).totalEvents =
          (rows.foldl (scanRow genesisHash) scan).verifiedEvents +
            (rows.foldl (scanRow genesisHash) scan).chainBreaks.length := by
    intro rows
    induction rows with
    | nil => exact fun scan balanced => balanced
    | cons row rest ih =>
        intro scan balanced
        apply ih
        simp only [scanRow]
        split
        · omega
        · simp only [List.length_append, List.length_singleton]
          omega
  exact kept rows _ rfl

theorem getAuditIntegrity_ok_iff (table : IntegrityTable) (params : IntegrityQueryParams) :
    (getAuditIntegrity genesisHash table params).integrityOk = true ↔
      ∀ agentId, UnbrokenFrom genesisHash genesisHash
        ((table.select params).filter fun row => row.agentId = agentId) := by
  rw [← scanRows_clean_iff, ← List.isEmpty_iff]
  rfl

theorem verifiedEvents_of_ok {table : IntegrityTable} {params : IntegrityQueryParams}
    (ok : (getAuditIntegrity genesisHash table params).integrityOk = true) :
    (getAuditIntegrity genesisHash table params).verifiedEvents =
      (getAuditIntegrity genesisHash table params).totalEvents := by
  have noBreaks : (scanRows genesisHash (table.select params)).chainBreaks = [] :=
    List.isEmpty_iff.mp ok
  have balanced := @totalEvents_scanRows genesisHash (table.select params)
  rw [noBreaks] at balanced
  exact balanced.symm

end Loop

/-! ## The selection -/

section Selection

variable {table : IntegrityTable} {params : IntegrityQueryParams}

/-- The selection is sorted strictly by agent and id. -/
theorem pairwise_select : (table.select params).Pairwise fun left right =>
    toLex (left.agentId, left.id) < toLex (right.agentId, right.id) := by
  have sorted : (sortAscending (fun row => toLex (row.agentId, row.id))
      (table.rows.filter params.admits)).Pairwise fun left right =>
        toLex (left.agentId, left.id) < toLex (right.agentId, right.id) := by
    apply pairwise_lt_sortAscending
    apply (table.byId.filter params.admits).imp
    intro left right before same
    have sameId := congrArg (fun key => (ofLex key).2) same
    exact absurd sameId before.ne
  unfold IntegrityTable.select limited
  split
  · exact sorted
  · exact sorted.sublist (List.take_sublist ..)

theorem admits_of_mem_select {row : IntegrityRow} (selected : row ∈ table.select params) :
    row ∈ table.rows ∧ params.admits row = true := by
  have sorted : row ∈ sortAscending (fun row => toLex (row.agentId, row.id))
      (table.rows.filter params.admits) := by
    unfold IntegrityTable.select limited at selected
    split at selected
    · exact selected
    · exact List.mem_of_mem_take selected
  exact List.mem_filter.mp ((mem_sortAscending ..).mp sorted)

/-- The rows that the report sees of an agent: the selected ones of its chain, in the order
of their ids. -/
theorem filter_select (agentId : String) :
    ((table.select params).filter fun row => row.agentId = agentId) =
      (chainedRows table agentId).filter fun row => row ∈ table.select params := by
  have irreflexive : Std.Irrefl fun left right : IntegrityRow => left.id < right.id :=
    ⟨fun row => lt_irrefl row.id⟩
  have seenById : ((table.select params).filter fun row => row.agentId = agentId).Pairwise
      fun left right => left.id < right.id := by
    apply (pairwise_select.filter _).imp_of_mem
    intro left right leftSeen rightSeen before
    have leftOwn : left.agentId = agentId := by simpa using (List.mem_filter.mp leftSeen).2
    have rightOwn : right.agentId = agentId := by simpa using (List.mem_filter.mp rightSeen).2
    rcases Prod.Lex.toLex_lt_toLex.mp before with otherAgent | ⟨-, earlier⟩
    · rw [leftOwn, rightOwn] at otherAgent
      exact absurd otherAgent (lt_irrefl _)
    · exact earlier
  have chainById : ((chainedRows table agentId).filter fun row =>
      row ∈ table.select params).Pairwise fun left right => left.id < right.id :=
    (table.byId.filter _).filter _
  apply seenById.eq_of_mem_iff chainById
  intro row
  simp only [chainedRows, List.mem_filter, decide_eq_true_eq, Bool.and_eq_true]
  constructor
  · rintro ⟨selected, own⟩
    obtain ⟨stored, admitted⟩ := admits_of_mem_select selected
    simp only [IntegrityQueryParams.admits, Bool.and_eq_true] at admitted
    exact ⟨⟨stored, admitted.1.1, own⟩, selected⟩
  · rintro ⟨⟨-, -, own⟩, selected⟩
    exact ⟨selected, own⟩

/-- A limit cuts off an end of the selection. -/
theorem mem_select_of_before {earlier row : IntegrityRow} (stored : earlier ∈ table.rows)
    (admitted : params.admits earlier = true) (selected : row ∈ table.select params)
    (before : toLex (earlier.agentId, earlier.id) < toLex (row.agentId, row.id)) :
    earlier ∈ table.select params := by
  have listed : earlier ∈ sortAscending (fun row => toLex (row.agentId, row.id))
      (table.rows.filter params.admits) :=
    (mem_sortAscending ..).mpr (List.mem_filter.mpr ⟨stored, admitted⟩)
  have sorted := pairwise_sortAscending (fun row : IntegrityRow => toLex (row.agentId, row.id))
    (table.rows.filter params.admits)
  unfold IntegrityTable.select limited at selected ⊢
  split at selected
  · rw [if_pos ‹_›]
    exact listed
  · rw [if_neg ‹_›]
    rw [← List.take_append_drop params.effectiveLimit.toNat (sortAscending _ _)] at listed sorted
    rcases List.mem_append.mp listed with taken | dropped
    · exact taken
    · have notBefore := (List.pairwise_append.mp sorted).2.2 row selected earlier dropped
      exact absurd before (not_lt_of_ge notBefore)

/-- A limit that covers the table cuts off nothing. -/
theorem mem_select_of_covers {row : IntegrityRow} (covers : CoversRows params table)
    (stored : row ∈ table.rows) (admitted : params.admits row = true) :
    row ∈ table.select params := by
  have listed : row ∈ sortAscending (fun row => toLex (row.agentId, row.id))
      (table.rows.filter params.admits) :=
    (mem_sortAscending ..).mpr (List.mem_filter.mpr ⟨stored, admitted⟩)
  unfold IntegrityTable.select limited
  split
  · exact listed
  · rename_i bounded
    rcases covers with unbounded | enough
    · exact absurd unbounded bounded
    · rw [List.take_of_length_le]
      · exact listed
      · have filtered := List.length_filter_le params.admits table.rows
        rw [sortAscending, List.length_insertionSort]
        omega

end Selection

/-! ## When the report is right -/

section Report

variable (genesisHash : String) (table : IntegrityTable) (params : IntegrityQueryParams)

/-- The report of unbroken chains finds no break exactly if the selection keeps the heads. -/
theorem getAuditIntegrity_ok_iff_keepsHeads (unbroken : UnbrokenTable genesisHash table) :
    (getAuditIntegrity genesisHash table params).integrityOk = true ↔
      KeepsHeads genesisHash table params := by
  rw [getAuditIntegrity_ok_iff, KeepsHeads]
  apply forall_congr'
  intro agentId
  rw [filter_select, UnbrokenFrom,
    LinkedFrom.filter_iff (show LinkedFrom _ _ _ _ from unbroken agentId)]
  simp only [decide_eq_true_eq]

/-- Without `since` the selection keeps the heads. -/
theorem keepsHeads_of_no_since (always : params.since = none) :
    KeepsHeads genesisHash table params := by
  intro agentId before row after split selected
  have allSelected : ∀ earlier ∈ before, earlier ∈ table.select params := by
    intro earlier member
    have chained : (before ++ row :: after).Pairwise fun left right => left.id < right.id := by
      rw [← split]
      exact table.byId.filter _
    have sooner := (List.pairwise_append.mp chained).2.2 earlier member row
      (List.mem_cons_self ..)
    have earlierHashed : earlier ∈ chainedRows table agentId := by
      rw [split]
      exact List.mem_append_left _ member
    have rowHashed : row ∈ chainedRows table agentId := by
      rw [split]
      exact List.mem_append_right _ (List.mem_cons_self ..)
    simp only [chainedRows, List.mem_filter, Bool.and_eq_true, decide_eq_true_eq]
      at earlierHashed rowHashed
    have rowAdmitted := (admits_of_mem_select selected).2
    simp only [IntegrityQueryParams.admits, always, Bool.and_true, Bool.and_eq_true,
      rowHashed.2.2] at rowAdmitted
    have admitted : params.admits earlier = true := by
      simp only [IntegrityQueryParams.admits, always, Bool.and_true, Bool.and_eq_true,
        earlierHashed.2.2]
      exact ⟨earlierHashed.2.1, rowAdmitted.2⟩
    apply mem_select_of_before earlierHashed.1 admitted selected
    rw [Prod.Lex.toLex_lt_toLex]
    exact .inr ⟨earlierHashed.2.2.trans rowHashed.2.2.symm, sooner⟩
  rw [List.filter_eq_self.mpr fun earlier member => by simpa using allSelected earlier member]

/-- The report is right about a table exactly if its chains are broken somewhere or the
selection keeps their heads.  `since` can lose a head, the other parameters cannot. -/
theorem reportExact_iff :
    ReportExact genesisHash table params ↔
      (UnbrokenTable genesisHash table → KeepsHeads genesisHash table params) := by
  constructor
  · intro exact unbroken
    exact (getAuditIntegrity_ok_iff_keepsHeads genesisHash table params unbroken).mp
      (exact.complete unbroken).1
  · intro keeps
    constructor
    · intro unbroken
      have ok := (getAuditIntegrity_ok_iff_keepsHeads genesisHash table params unbroken).mpr
        (keeps unbroken)
      exact ⟨ok, verifiedEvents_of_ok ok⟩
    · intro always covers ok agentId asked
      have chain := (getAuditIntegrity_ok_iff table params).mp ok agentId
      rw [filter_select, List.filter_eq_self.mpr] at chain
      · exact chain
      · intro row hashed
        simp only [chainedRows, List.mem_filter, Bool.and_eq_true, decide_eq_true_eq] at hashed
        have admitted : params.admits row = true := by
          simp only [IntegrityQueryParams.admits, always, Bool.and_true, Bool.and_eq_true]
          constructor
          · exact hashed.2.1
          · cases agent : params.agentId with
            | none => rfl
            | some agent' =>
                simpa [hashed.2.2] using (asked agent' agent).symm
        exact decide_eq_true (mem_select_of_covers covers hashed.1 admitted)

end Report

/-- An unbroken chain of two events, the second a day later. -/
def twoDays : IntegrityTable where
  rows :=
    [⟨1, "AGENT-WS02-001", "2026-01-01T00:00:00+00:00", some "g", some "h1"⟩,
      ⟨2, "AGENT-WS02-001", "2026-01-02T00:00:00+00:00", some "h1", some "h2"⟩]
  byId := by decide

/-- A report since the second day finds a break in it. -/
theorem twoDays_since_second_broken :
    ¬ ReportExact "g" twoDays ⟨none, some "2026-01-02T00:00:00+00:00", none⟩ := by
  intro exact
  have unbroken : UnbrokenTable "g" twoDays := by
    intro agentId
    by_cases own : agentId = "AGENT-WS02-001"
    · subst own
      decide
    · have others : chainedRows twoDays agentId = [] := by
        simp [chainedRows, twoDays, Ne.symm own]
      rw [others]
      trivial
  have selected : twoDays.select ⟨none, some "2026-01-02T00:00:00+00:00", none⟩ =
      [⟨2, "AGENT-WS02-001", "2026-01-02T00:00:00+00:00", some "h1", some "h2"⟩] := by
    decide
  have ok := (exact.complete unbroken).1
  simp only [getAuditIntegrity, selected] at ok
  exact absurd ok (by decide)

end DlpSystem.Audit
