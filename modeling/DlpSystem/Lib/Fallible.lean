import Mathlib.Logic.Basic

/-!
# Fallible computations

How `?` chains of `Except` values take apart.
-/

namespace DlpSystem.Lib

variable {ε α β : Type}

@[simp]
theorem ok_bind (value : α) (next : α → Except ε β) : (Except.ok value >>= next) = next value :=
  rfl

@[simp]
theorem error_bind (error : ε) (next : α → Except ε β) :
    (Except.error error >>= next) = Except.error error :=
  rfl

/-- A chain succeeds when each link does. -/
theorem bind_eq_ok_iff {first : Except ε α} {next : α → Except ε β} {result : β} :
    (first >>= next) = .ok result ↔ ∃ value, first = .ok value ∧ next value = .ok result := by
  cases first with
  | error error => simp
  | ok value => simp

/-- Every result of a loop that succeeds comes from one of its items. -/
theorem exists_of_mem_mapM {step : α → Except ε β} {items : List α} {results : List β}
    (success : items.mapM step = .ok results) {result : β} (member : result ∈ results) :
    ∃ item ∈ items, step item = .ok result := by
  induction items generalizing results with
  | nil =>
      cases Except.ok.inj success
      cases member
  | cons item items ih =>
      rw [List.mapM_cons] at success
      rcases bind_eq_ok_iff.mp success with ⟨first, ofItem, success⟩
      rcases bind_eq_ok_iff.mp success with ⟨rest, ofItems, success⟩
      cases Except.ok.inj success
      rcases List.mem_cons.mp member with rfl | later
      · exact ⟨item, List.mem_cons_self, ofItem⟩
      · rcases ih ofItems later with ⟨other, present, ofOther⟩
        exact ⟨other, List.mem_cons_of_mem item present, ofOther⟩

/-- A loop succeeds exactly when each of its items does. -/
theorem exists_mapM_eq_ok_iff {step : α → Except ε β} {items : List α} :
    (∃ results, items.mapM step = .ok results) ↔
      ∀ item ∈ items, ∃ result, step item = .ok result := by
  induction items with
  | nil => simp [pure, Except.pure]
  | cons item items ih =>
      rw [List.forall_mem_cons, ← ih, List.mapM_cons]
      constructor
      · rintro ⟨results, success⟩
        obtain ⟨first, ofItem, success⟩ := bind_eq_ok_iff.mp success
        obtain ⟨rest, ofItems, -⟩ := bind_eq_ok_iff.mp success
        exact ⟨⟨first, ofItem⟩, ⟨rest, ofItems⟩⟩
      · rintro ⟨⟨first, ofItem⟩, ⟨rest, ofItems⟩⟩
        exact ⟨first :: rest, by rw [ofItem, ok_bind, ofItems]; rfl⟩

/-- The results of a loop that succeeds are those of its items. -/
theorem filterMap_eq_of_mapM {step : α → Except ε β} {items : List α} {results : List β}
    (success : items.mapM step = .ok results) :
    (items.filterMap fun item => (step item).toOption) = results := by
  induction items generalizing results with
  | nil => exact Except.ok.inj success
  | cons item items ih =>
      rw [List.mapM_cons] at success
      obtain ⟨first, ofItem, success⟩ := bind_eq_ok_iff.mp success
      obtain ⟨rest, ofItems, success⟩ := bind_eq_ok_iff.mp success
      cases Except.ok.inj success
      rw [List.filterMap_cons, ofItem, ih ofItems]
      rfl

/-- Every item of a loop that succeeds has its result. -/
theorem exists_mem_of_mapM {step : α → Except ε β} {items : List α} {results : List β}
    (success : items.mapM step = .ok results) {item : α} (member : item ∈ items) :
    ∃ result ∈ results, step item = .ok result := by
  obtain ⟨result, made⟩ := exists_mapM_eq_ok_iff.mp ⟨results, success⟩ item member
  refine ⟨result, ?_, made⟩
  rw [← filterMap_eq_of_mapM success]
  exact List.mem_filterMap.mpr ⟨item, member, by rw [made]; rfl⟩

/-- A loop succeeds when each of its items does; what is shown of the results is what is
shown of the items. -/
theorem exists_mapM_eq_ok {γ : Type} {step : α → Except ε β} {shown : β → γ} {key : α → γ}
    {items : List α}
    (each : ∀ item ∈ items, ∃ result, step item = .ok result ∧ shown result = key item) :
    ∃ results, items.mapM step = .ok results ∧ results.map shown = items.map key := by
  induction items with
  | nil => exact ⟨[], rfl, rfl⟩
  | cons item items ih =>
      obtain ⟨first, ofItem, firstShown⟩ := each item (List.mem_cons_self ..)
      obtain ⟨rest, ofItems, restShown⟩ := ih fun other member =>
        each other (List.mem_cons_of_mem _ member)
      have success : (item :: items).mapM step = .ok (first :: rest) := by
        rw [List.mapM_cons, ofItem, ok_bind, ofItems]
        rfl
      exact ⟨first :: rest, success, by rw [List.map_cons, List.map_cons, firstShown, restShown]⟩

end DlpSystem.Lib
