import Mathlib.Data.List.Basic

/-!
# Chains of linked records

Each record names the head of the chain that it continues, and gives the chain its next
head.  Of a chain from which records are left out, the rest is a chain from the same head
exactly if what was left out before a record that stays does not change the head there.
-/

namespace DlpSystem.Lib

section Linked

variable {α κ : Type} (link : α → κ) (next : κ → α → κ)

/-- The records continue a chain from a head on. -/
def LinkedFrom : κ → List α → Prop
  | _, [] => True
  | head, record :: rest => link record = head ∧ LinkedFrom (next head record) rest

instance decidableLinkedFrom [DecidableEq κ] : ∀ (head : κ) (records : List α),
    Decidable (LinkedFrom link next head records)
  | _, [] => inferInstanceAs (Decidable True)
  | head, record :: rest =>
      have := decidableLinkedFrom (next head record) rest
      inferInstanceAs (Decidable (_ ∧ _))

variable {link next} {head : κ} {records : List α}

/-- Every record names the head that the records before it have left. -/
theorem linkedFrom_iff :
    LinkedFrom link next head records ↔
      ∀ before record after, records = before ++ record :: after →
        link record = before.foldl next head := by
  induction records generalizing head with
  | nil => simp [LinkedFrom]
  | cons first rest ih =>
      rw [LinkedFrom, ih]
      constructor
      · rintro ⟨here, later⟩ before record after split
        cases before with
        | nil =>
            cases split
            exact here
        | cons earlier before =>
            cases split
            exact later before record after rfl
      · intro splits
        constructor
        · exact splits [] first rest rfl
        · rintro before record after rfl
          exact splits (first :: before) record after rfl

/-- What stays of a chain is a chain. -/
theorem LinkedFrom.filter_iff (linked : LinkedFrom link next head records) (keep : α → Bool) :
    LinkedFrom link next head (records.filter keep) ↔
      ∀ before record after, records = before ++ record :: after → keep record = true →
        (before.filter keep).foldl next head = before.foldl next head := by
  have named := linkedFrom_iff.mp linked
  rw [linkedFrom_iff]
  constructor
  · rintro keptNamed before record after rfl kept
    rw [← named before record after rfl]
    apply (keptNamed (before.filter keep) record (after.filter keep) _).symm
    rw [List.filter_append, List.filter_cons_of_pos kept]
  · intro sameHeads before record after split
    obtain ⟨first, second, rfl, rfl, secondKept⟩ := List.filter_eq_append_iff.mp split
    obtain ⟨dropped, rest, rfl, allDropped, kept, rfl⟩ := List.filter_eq_cons_iff.mp secondKept
    have noneKept : dropped.filter keep = [] := List.filter_eq_nil_iff.mpr allDropped
    have same := sameHeads (first ++ dropped) record rest (List.append_assoc ..).symm kept
    rw [List.filter_append, noneKept, List.append_nil] at same
    rw [same]
    exact named (first ++ dropped) record rest (List.append_assoc ..).symm

end Linked

end DlpSystem.Lib
