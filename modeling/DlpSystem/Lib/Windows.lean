import Mathlib.Data.List.Infix

/-!
# Sliding windows and runs

The windows of a list are its parts of one length.  A run counter finds a part of a length in
which everything has a property, without looking back.
-/

namespace DlpSystem.Lib

variable {α : Type}

/-! ## Windows -/

/-- `slice::windows`. -/
def windows (size : Nat) (values : List α) : List (List α) :=
  (values.tails.map (List.take size)).filter fun window => window.length = size

theorem mem_windows_iff {size : Nat} {values window : List α} :
    window ∈ windows size values ↔ window <:+: values ∧ window.length = size := by
  rw [windows, List.mem_filter, decide_eq_true_eq, List.mem_map]
  constructor
  · rintro ⟨⟨rest, suffix, rfl⟩, length⟩
    rw [List.mem_tails] at suffix
    exact ⟨(List.take_prefix size rest).isInfix.trans suffix.isInfix, length⟩
  · rintro ⟨⟨front, back, rfl⟩, length⟩
    refine ⟨⟨window ++ back, ?_, ?_⟩, length⟩
    · rw [List.mem_tails, List.append_assoc]
      exact List.suffix_append front (window ++ back)
    · rw [← length, List.take_left]

/-- No window is longer than the list. -/
theorem windows_eq_nil {size : Nat} {values : List α} (short : values.length < size) :
    windows size values = [] := by
  apply List.eq_nil_iff_forall_not_mem.mpr
  intro window member
  obtain ⟨inside, length⟩ := mem_windows_iff.mp member
  have atMost := inside.length_le
  omega

/-! ## Runs -/

/-- Some `needed` values in a row have the property, if `seen` such values stand in front. -/
def hasRun (property : α → Bool) (needed : Nat) : Nat → List α → Bool
  | _, [] => false
  | seen, value :: rest =>
      if property value then seen + 1 ≥ needed || hasRun property needed (seen + 1) rest
      else hasRun property needed 0 rest

section Parts

variable {value : α} {part front back : List α}

/-- A front without a value ends before it. -/
theorem prefix_append_cons_iff (absent : value ∉ part) :
    part <+: front ++ value :: back ↔ part <+: front := by
  constructor
  · intro isFront
    by_cases short : part.length ≤ front.length
    · exact (List.isPrefix_append_of_length short).mp isFront
    · have upTo : front ++ [value] <+: front ++ value :: back := ⟨back, by simp⟩
      have inside : front ++ [value] <+: part := by
        apply List.prefix_of_prefix_length_le upTo isFront
        rw [List.length_append, List.length_singleton]
        omega
      exact absurd (inside.subset (List.mem_append_right _ (List.mem_singleton_self value))) absent
  · intro isFront
    exact isFront.trans (List.prefix_append front (value :: back))

/-- A part without a value lies on one side of it. -/
theorem infix_append_cons_iff (absent : value ∉ part) :
    part <:+: front ++ value :: back ↔ part <:+: front ∨ part <:+: back := by
  induction front with
  | nil =>
      have atFront : part <+: [] ++ value :: back ↔ part <+: [] := prefix_append_cons_iff absent
      rw [List.nil_append] at atFront ⊢
      rw [List.infix_cons_iff, atFront, List.prefix_nil, List.infix_nil]
  | cons first front ih =>
      have atFront : part <+: (first :: front) ++ value :: back ↔ part <+: first :: front :=
        prefix_append_cons_iff absent
      rw [List.cons_append] at atFront ⊢
      rw [List.infix_cons_iff, atFront, ih, List.infix_cons_iff, or_assoc]

end Parts

/-- The counter finds a part in which everything has the property. -/
theorem hasRun_eq_true_iff {property : α → Bool} {needed seen : Nat} (few : seen < needed)
    (values : List α) :
    hasRun property needed seen values = true ↔
      List.replicate needed true <:+: List.replicate seen true ++ values.map property := by
  induction values generalizing seen with
  | nil =>
      rw [hasRun, List.map_nil, List.append_nil]
      constructor
      · intro found
        cases found
      · intro inside
        have atMost := inside.length_le
        rw [List.length_replicate, List.length_replicate] at atMost
        omega
  | cons value rest ih =>
      rw [hasRun, List.map_cons]
      cases holds : property value with
      | true =>
          have longer : List.replicate seen true ++ true :: rest.map property =
              List.replicate (seen + 1) true ++ rest.map property := by
            rw [List.replicate_succ', List.append_assoc, List.singleton_append]
          rw [if_pos rfl, longer, Bool.or_eq_true, decide_eq_true_eq]
          by_cases reached : seen + 1 < needed
          · rw [ih reached, or_iff_right (Nat.not_le.mpr reached)]
          · have exact : needed = seen + 1 := by omega
            rw [exact]
            simp [(List.prefix_append _ _).isInfix]
      | false =>
          have absent : false ∉ List.replicate needed true := fun member =>
            absurd (List.eq_of_mem_replicate member) Bool.false_ne_true
          have tooFew : ¬ List.replicate needed true <:+: List.replicate seen true := by
            intro inside
            have atMost := inside.length_le
            rw [List.length_replicate, List.length_replicate] at atMost
            omega
          rw [if_neg Bool.false_ne_true, infix_append_cons_iff absent, or_iff_right tooFew,
            ih (Nat.zero_lt_of_lt few)]
          rfl

/-- The counter, in terms of the values. -/
theorem hasRun_iff {property : α → Bool} {needed : Nat} (some : 0 < needed) (values : List α) :
    hasRun property needed 0 values = true ↔
      ∃ part, part <:+: values ∧ part.length = needed ∧ part.all property = true := by
  rw [hasRun_eq_true_iff some]
  constructor
  · rintro ⟨front, back, split⟩
    obtain ⟨upTo, rest, rfl, isFront, _⟩ := List.map_eq_append_iff.mp split.symm
    obtain ⟨before, part, rfl, _, isPart⟩ := List.map_eq_append_iff.mp isFront
    refine ⟨part, ⟨before, rest, rfl⟩, ?_, ?_⟩
    · have length := congrArg List.length isPart
      simpa using length
    · apply List.all_eq_true.mpr
      intro value member
      have mapped := @List.mem_map_of_mem _ _ _ _ property member
      rw [isPart] at mapped
      exact List.eq_of_mem_replicate mapped
  · rintro ⟨part, inside, length, all⟩
    have mapped : part.map property = List.replicate needed true := by
      apply List.eq_replicate_iff.mpr
      rw [List.length_map]
      refine ⟨length, ?_⟩
      intro flag member
      obtain ⟨value, inPart, rfl⟩ := List.mem_map.mp member
      exact List.all_eq_true.mp all value inPart
    rw [← mapped]
    exact inside.map property

end DlpSystem.Lib
