import Mathlib.Data.List.Basic

/-!
# Judging a stream piece by piece

A stream is judged in pieces.  Inside a piece the judge carries a head from element
to element; a record beside it settles every element.  A new piece starts from where
the record stands.  The judgements do not depend on the pieces exactly when all heads
that some way of cutting may give agree on every element.
-/

namespace DlpSystem.Lib

universe u v w

/-- A judge over elements `ε` with heads `σ` and judgements `ν`. -/
structure PieceJudge (σ : Type u) (ε : Type v) (ν : Type w) where
  judge : σ → ε → ν
  advance : σ → ε → σ
  settle : σ → ε → σ

namespace PieceJudge

variable {σ : Type u} {ε : Type v} {ν : Type w} (machine : PieceJudge σ ε ν)

/-- The judgements of one piece. -/
def scan : σ → List ε → List ν
  | _, [] => []
  | head, element :: rest => machine.judge head element :: scan (machine.advance head element) rest

/-- The judgements of a stream in pieces. -/
def judgePieces : σ → List (List ε) → List ν
  | _, [] => []
  | record, piece :: rest =>
      machine.scan record piece ++ judgePieces (piece.foldl machine.settle record) rest

/-- The judgements that some way of cutting gives, from a head and a record on. -/
inductive Outcome : σ → σ → List ε → List ν → Prop
  | nil (head record : σ) : Outcome head record [] []
  | stay {head record : σ} {element : ε} {rest : List ε} {judgements : List ν}
      (others : Outcome (machine.advance head element) (machine.settle record element)
        rest judgements) :
      Outcome head record (element :: rest) (machine.judge head element :: judgements)
  | cut {head record : σ} {element : ε} {rest : List ε} {judgements : List ν}
      (others : Outcome (machine.advance record element) (machine.settle record element)
        rest judgements) :
      Outcome head record (element :: rest) (machine.judge record element :: judgements)

variable {machine}

/-- What follows a cut does not depend on the head. -/
theorem Outcome.any_head {record : σ} {elements : List ε} {judgements : List ν}
    (outcome : machine.Outcome record record elements judgements) (head : σ) :
    machine.Outcome head record elements judgements := by
  cases outcome with
  | nil => exact Outcome.nil head record
  | stay others => exact Outcome.cut others
  | cut others => exact Outcome.cut others

theorem exists_outcome (head record : σ) (elements : List ε) :
    ∃ judgements, machine.Outcome head record elements judgements := by
  induction elements generalizing head record with
  | nil => exact ⟨[], Outcome.nil head record⟩
  | cons element rest ih =>
      rcases ih (machine.advance head element) (machine.settle record element) with ⟨later, others⟩
      exact ⟨_, Outcome.stay others⟩

/-! ## Pieces -/

theorem outcome_scan {head record : σ} {piece rest : List ε} {judgements : List ν}
    (later : machine.Outcome (piece.foldl machine.settle record)
      (piece.foldl machine.settle record) rest judgements) :
    machine.Outcome head record (piece ++ rest) (machine.scan head piece ++ judgements) := by
  induction piece generalizing head record with
  | nil => exact later.any_head head
  | cons element others ih => exact Outcome.stay (ih later)

theorem outcome_judgePieces (record : σ) (pieces : List (List ε)) :
    machine.Outcome record record pieces.flatten (machine.judgePieces record pieces) := by
  induction pieces generalizing record with
  | nil => exact Outcome.nil record record
  | cons piece rest ih => exact outcome_scan (ih _)

/-- An outcome is given by the rest of the piece it starts in and by further pieces. -/
theorem Outcome.exists_pieces {head record : σ} {elements : List ε} {judgements : List ν}
    (outcome : machine.Outcome head record elements judgements) :
    ∃ current pieces, elements = current ++ pieces.flatten ∧ (∀ piece ∈ pieces, piece ≠ []) ∧
      judgements = machine.scan head current ++
        machine.judgePieces (current.foldl machine.settle record) pieces := by
  induction outcome with
  | nil head record => exact ⟨[], [], rfl, by simp, rfl⟩
  | @stay head record element rest judgements others ih =>
      rcases ih with ⟨current, pieces, rfl, nonempty, rfl⟩
      exact ⟨element :: current, pieces, rfl, nonempty, rfl⟩
  | @cut head record element rest judgements others ih =>
      rcases ih with ⟨current, pieces, rfl, nonempty, rfl⟩
      refine ⟨[], (element :: current) :: pieces, rfl, ?_, rfl⟩
      intro piece member
      rcases List.mem_cons.mp member with rfl | later
      · simp
      · exact nonempty piece later

/-- A way of cutting a stream. -/
def Cuts (elements : List ε) (pieces : List (List ε)) : Prop :=
  pieces.flatten = elements ∧ ∀ piece ∈ pieces, piece ≠ []

theorem outcome_iff_cuts {record : σ} {elements : List ε} {judgements : List ν} :
    machine.Outcome record record elements judgements ↔
      ∃ pieces, Cuts elements pieces ∧ machine.judgePieces record pieces = judgements := by
  constructor
  · intro outcome
    rcases outcome.exists_pieces with ⟨current, pieces, rfl, nonempty, rfl⟩
    cases current with
    | nil => exact ⟨pieces, ⟨rfl, nonempty⟩, rfl⟩
    | cons element rest =>
        refine ⟨(element :: rest) :: pieces, ⟨rfl, ?_⟩, rfl⟩
        intro piece member
        rcases List.mem_cons.mp member with rfl | later
        · simp
        · exact nonempty piece later
  · rintro ⟨pieces, ⟨rfl, _⟩, rfl⟩
    exact outcome_judgePieces record pieces

/-! ## Agreement -/

variable (machine) in
/-- All heads that cutting may give agree on every element. -/
def Uniform : List σ → σ → List ε → Prop
  | _, _, [] => True
  | heads, record, element :: rest =>
      (∀ head ∈ heads, ∀ other ∈ heads, machine.judge head element = machine.judge other element) ∧
        Uniform (machine.settle record element ::
          heads.map fun head => machine.advance head element) (machine.settle record element) rest

/-- The first judgement of an outcome is that of a head or of the record. -/
theorem Outcome.cons_cases {head record : σ} {element : ε} {rest : List ε}
    {judgements : List ν} (outcome : machine.Outcome head record (element :: rest) judgements) :
    ∃ start later, (start = head ∨ start = record) ∧
      judgements = machine.judge start element :: later ∧
      machine.Outcome (machine.advance start element) (machine.settle record element)
        rest later := by
  cases outcome with
  | stay others => exact ⟨head, _, Or.inl rfl, rfl, others⟩
  | cut others => exact ⟨record, _, Or.inr rfl, rfl, others⟩

theorem outcomes_agree_iff {heads : List σ} {record : σ} (recorded : record ∈ heads)
    (elements : List ε) :
    (∀ head ∈ heads, ∀ other ∈ heads, ∀ judgements others,
        machine.Outcome head record elements judgements →
        machine.Outcome other record elements others → judgements = others) ↔
      machine.Uniform heads record elements := by
  induction elements generalizing heads record with
  | nil =>
      simp only [Uniform, iff_true]
      intro head _ other _ judgements others outcome outcomeOther
      cases outcome
      cases outcomeOther
      rfl
  | cons element rest ih =>
      have recordedNext : machine.settle record element ∈ machine.settle record element ::
          heads.map fun head => machine.advance head element := List.mem_cons_self ..
      rw [Uniform, ← ih recordedNext]
      constructor
      · intro agree
        constructor
        · intro head member other memberOther
          rcases @exists_outcome _ _ _ machine (machine.advance head element)
            (machine.settle record element) rest with ⟨later, outcome⟩
          rcases @exists_outcome _ _ _ machine (machine.advance other element)
            (machine.settle record element) rest with ⟨laterOther, outcomeOther⟩
          have same := agree head member other memberOther _ _ (Outcome.stay outcome)
            (Outcome.stay outcomeOther)
          exact (List.cons.inj same).1
        · -- a head behind the element comes from a head before it
          have before : ∀ next ∈ machine.settle record element ::
              heads.map (fun head => machine.advance head element), ∀ later,
              machine.Outcome next (machine.settle record element) rest later →
              ∃ head ∈ heads, machine.Outcome head record (element :: rest)
                (machine.judge head element :: later) := by
            intro next member later outcome
            rcases List.mem_cons.mp member with rfl | advanced
            · exact ⟨record, recorded, Outcome.stay (outcome.any_head _)⟩
            · rcases List.mem_map.mp advanced with ⟨head, isHead, rfl⟩
              exact ⟨head, isHead, Outcome.stay outcome⟩
          intro next member other memberOther later laterOther outcome outcomeOther
          rcases before next member later outcome with ⟨head, isHead, whole⟩
          rcases before other memberOther laterOther outcomeOther with ⟨head', isHead', whole'⟩
          exact (List.cons.inj (agree head isHead head' isHead' _ _ whole whole')).2
      · rintro ⟨sameJudgement, sameRest⟩ head member other memberOther judgements others outcome
          outcomeOther
        have started : ∀ start, start = head ∨ start = record → start ∈ heads := by
          rintro start (rfl | rfl)
          · exact member
          · exact recorded
        have startedOther : ∀ start, start = other ∨ start = record → start ∈ heads := by
          rintro start (rfl | rfl)
          · exact memberOther
          · exact recorded
        rcases outcome.cons_cases with ⟨start, later, from₁, rfl, rest₁⟩
        rcases outcomeOther.cons_cases with ⟨start', later', from₂, rfl, rest₂⟩
        have isStart := started start from₁
        have isStart' := startedOther start' from₂
        have advanced : ∀ begin, begin ∈ heads → machine.advance begin element ∈
            machine.settle record element :: heads.map fun head => machine.advance head element :=
          fun begin isHead => List.mem_cons_of_mem _ (List.mem_map.mpr ⟨begin, isHead, rfl⟩)
        rw [sameJudgement start isStart start' isStart',
          sameRest _ (advanced start isStart) _ (advanced start' isStart') later later' rest₁ rest₂]

/-- The judgements of a stream are the same for all ways of cutting it exactly when the
heads that cutting may give agree on every element. -/
theorem judgePieces_independent_iff (record : σ) (elements : List ε) :
    (∀ first second, Cuts elements first → Cuts elements second →
        machine.judgePieces record first = machine.judgePieces record second) ↔
      machine.Uniform [record] record elements := by
  rw [← outcomes_agree_iff (List.mem_singleton.mpr rfl)]
  constructor
  · intro independent head isHead other isOther judgements others outcome outcomeOther
    cases List.mem_singleton.mp isHead
    cases List.mem_singleton.mp isOther
    rcases outcome_iff_cuts.mp outcome with ⟨first, cutsFirst, rfl⟩
    rcases outcome_iff_cuts.mp outcomeOther with ⟨second, cutsSecond, rfl⟩
    exact independent first second cutsFirst cutsSecond
  · intro agree first second cutsFirst cutsSecond
    have record' : record ∈ [record] := List.mem_singleton.mpr rfl
    exact agree record record' record record' _ _ (outcome_iff_cuts.mpr ⟨first, cutsFirst, rfl⟩)
      (outcome_iff_cuts.mpr ⟨second, cutsSecond, rfl⟩)

end PieceJudge

end DlpSystem.Lib
