import Mathlib.Data.Finset.Card
import Mathlib.Data.Int.ModEq
import Mathlib.Data.Finset.Range
import Mathlib.Logic.Function.Basic

/-!
# Open addressing with linear probing

A table of `slots` slots, each holding an entry or marked vacant.  An entry has
a home slot; it is stored in the first vacant slot at or after its home, with
wrap-around, and searched for along the same slots until the search meets a
vacant one.

The invariant that makes the search complete is that no vacant slot lies between
an entry's home and the slot that holds it.
-/

namespace DlpSystem.Lib

variable {α : Type}

/-- Visit at most `fuel` slots from `index` on and return the first one whose
entry satisfies `stop`. -/
def probe (slots : Nat) (stop : α → Bool) (table : Nat → α) : Nat → Nat → Option Nat
  | 0, _ => none
  | fuel + 1, index =>
      if stop (table index) then some index
      else probe slots stop table fuel ((index + 1) % slots)

section Probe

variable {slots : Nat} {stop : α → Bool} {table : Nat → α}

private theorem mod_succ_add (index offset : Nat) :
    ((index + 1) % slots + offset) % slots = (index + (offset + 1)) % slots := by
  rw [Nat.mod_add_mod]
  congr 1
  omega

theorem probe_eq_some {fuel index found : Nat} (inside : index < slots)
    (result : probe slots stop table fuel index = some found) :
    ∃ offset < fuel, found = (index + offset) % slots ∧ stop (table found) = true ∧
      ∀ earlier < offset, stop (table ((index + earlier) % slots)) = false := by
  induction fuel generalizing index with
  | zero => simp [probe] at result
  | succ fuel ih =>
      simp only [probe] at result
      split at result
      · rename_i here
        obtain rfl : index = found := by simpa using result
        exact ⟨0, Nat.succ_pos fuel, (Nat.mod_eq_of_lt inside).symm, here, by omega⟩
      · rename_i notHere
        have next : (index + 1) % slots < slots := Nat.mod_lt _ (by omega)
        rcases ih next result with ⟨offset, bound, place, stops, before⟩
        refine ⟨offset + 1, by omega, ?_, stops, ?_⟩
        · rw [place, mod_succ_add]
        · intro earlier early
          cases earlier with
          | zero => simpa [Nat.mod_eq_of_lt inside] using notHere
          | succ earlier =>
              rw [← mod_succ_add]
              exact before earlier (by omega)

theorem probe_eq_none {fuel index : Nat} (inside : index < slots)
    (result : probe slots stop table fuel index = none) :
    ∀ offset < fuel, stop (table ((index + offset) % slots)) = false := by
  induction fuel generalizing index with
  | zero => simp
  | succ fuel ih =>
      simp only [probe] at result
      split at result
      · simp at result
      · rename_i notHere
        intro offset bound
        cases offset with
        | zero => simpa [Nat.mod_eq_of_lt inside] using notHere
        | succ offset =>
            rw [← mod_succ_add]
            exact ih (Nat.mod_lt _ (by omega)) result offset (by omega)

/-- Once around the table a probe sequence visits every slot. -/
theorem exists_offset {index slot : Nat} (inside : index < slots) (bound : slot < slots) :
    ∃ offset < slots, (index + offset) % slots = slot := by
  by_cases after : index ≤ slot
  · exact ⟨slot - index, by omega, by
      rw [Nat.add_sub_cancel' after, Nat.mod_eq_of_lt bound]⟩
  · refine ⟨slots - index + slot, by omega, ?_⟩
    have around : index + (slots - index + slot) = slot + slots := by omega
    rw [around, Nat.add_mod_right, Nat.mod_eq_of_lt bound]

/-- A full probe fails exactly when no slot stops it. -/
theorem probe_full_eq_none {index : Nat} (inside : index < slots)
    (result : probe slots stop table slots index = none) :
    ∀ slot < slots, stop (table slot) = false := by
  intro slot bound
  rcases exists_offset inside bound with ⟨offset, offsetBound, place⟩
  rw [← place]
  exact probe_eq_none inside result offset offsetBound

/-- Along one turn around the table each slot is met once. -/
theorem offset_unique {index left right : Nat} (leftBound : left < slots)
    (rightBound : right < slots)
    (same : (index + left) % slots = (index + right) % slots) : left = right := by
  have congruent : left ≡ right [MOD slots] := Nat.ModEq.add_left_cancel' index same
  exact congruent.eq_of_lt_of_lt leftBound rightBound

end Probe

/-! ## Tables -/

/-- How entries are laid out: how many slots there are, which entries mark a
vacant slot, and where an entry's probe sequence starts. -/
structure Addressing (α : Type) where
  slots : Nat
  vacant : α → Bool
  home : α → Nat
  homeInside : ∀ entry, home entry < slots

namespace Addressing

variable (layout : Addressing α)

/-- Put an entry into the first vacant slot of its probe sequence. -/
def insert (table : Nat → α) (entry : α) : Option (Nat → α) :=
  (probe layout.slots layout.vacant table layout.slots (layout.home entry)).map fun slot =>
    Function.update table slot entry

/-- Insert entries from the front of a list on; fail as soon as one finds no slot. -/
def insertAll : (Nat → α) → List α → Option (Nat → α)
  | table, [] => some table
  | table, entry :: rest => (layout.insert table entry).bind fun next => insertAll next rest

/-- No vacant slot lies between an entry's home and the slot that holds it. -/
def Probed (table : Nat → α) : Prop :=
  ∀ slot < layout.slots, layout.vacant (table slot) = false →
    ∀ offset < layout.slots, (layout.home (table slot) + offset) % layout.slots = slot →
      ∀ earlier < offset,
        layout.vacant (table ((layout.home (table slot) + earlier) % layout.slots)) = false

/-- The slots in use. -/
def occupied (table : Nat → α) : Finset Nat :=
  (Finset.range layout.slots).filter fun slot => layout.vacant (table slot) = false

variable {layout} {table next : Nat → α} {entry : α}

theorem insert_eq_some (result : layout.insert table entry = some next) :
    ∃ slot < layout.slots, layout.vacant (table slot) = true ∧
      next = Function.update table slot entry ∧
      ∃ offset < layout.slots, slot = (layout.home entry + offset) % layout.slots ∧
        ∀ earlier < offset,
          layout.vacant (table ((layout.home entry + earlier) % layout.slots)) = false := by
  rcases Option.map_eq_some_iff.mp result with ⟨slot, found, rfl⟩
  obtain ⟨offset, bound, place, vacant, before⟩ :=
    probe_eq_some (layout.homeInside entry) found
  refine ⟨slot, ?_, vacant, rfl, offset, bound, place, before⟩
  rw [place]
  exact Nat.mod_lt _ (Nat.zero_lt_of_lt bound)

/-- A slot in use keeps its entry. -/
theorem insert_keeps (result : layout.insert table entry = some next) {slot : Nat}
    (used : layout.vacant (table slot) = false) : next slot = table slot := by
  rcases insert_eq_some result with ⟨target, -, vacant, rfl, -⟩
  refine Function.update_of_ne ?_ entry table
  rintro rfl
  rw [vacant] at used
  cases used

theorem Probed.insert (probed : layout.Probed table)
    (result : layout.insert table entry = some next) : layout.Probed next := by
  obtain ⟨target, targetBound, -, updated, offset, offsetBound, place, before⟩ :=
    insert_eq_some result
  have keeps : ∀ slot, layout.vacant (table slot) = false → next slot = table slot :=
    fun slot used => insert_keeps result used
  intro slot bound used distance distanceBound reached earlier early
  by_cases new : slot = target
  · -- The new entry: its own probe passed over the slots before its offset.
    have holds : next slot = entry := by
      rw [updated, new, Function.update_self]
    rw [holds] at reached ⊢
    have same : distance = offset :=
      offset_unique distanceBound offsetBound (by rw [reached, new, place])
    have passed := before earlier (by omega)
    rw [keeps _ passed]
    exact passed
  · -- An older entry: its slots were in use before and still are.
    have holds : next slot = table slot := by
      rw [updated, Function.update_of_ne new]
    rw [holds] at used reached ⊢
    have passed := probed slot bound used distance distanceBound reached earlier early
    rw [keeps _ passed]
    exact passed

theorem occupied_insert (present : layout.vacant entry = false)
    (result : layout.insert table entry = some next) :
    (layout.occupied next).card = (layout.occupied table).card + 1 := by
  rcases insert_eq_some result with ⟨target, targetBound, vacant, rfl, -⟩
  have grown : layout.occupied (Function.update table target entry) =
      Insert.insert target (layout.occupied table) := by
    ext slot
    simp only [occupied, Finset.mem_filter, Finset.mem_range, Finset.mem_insert]
    by_cases new : slot = target
    · subst new
      simp [targetBound, present]
    · simp [new]
  rw [grown, Finset.card_insert_of_notMem]
  simp [occupied, vacant]

/-- An entry is refused exactly when every slot is in use. -/
theorem insert_eq_none_iff :
    layout.insert table entry = none ↔ (layout.occupied table).card = layout.slots := by
  have whole : (layout.occupied table).card = layout.slots ↔
      ∀ slot < layout.slots, layout.vacant (table slot) = false := by
    have size : layout.slots = (Finset.range layout.slots).card := by simp
    conv_lhs => rhs; rw [size]
    unfold occupied
    rw [Finset.card_filter_eq_iff]
    simp
  rw [whole]
  constructor
  · intro refused
    exact probe_full_eq_none (layout.homeInside entry) (Option.map_eq_none_iff.mp refused)
  · intro full
    apply Option.eq_none_iff_forall_ne_some.mpr
    intro next result
    obtain ⟨slot, bound, vacant, -⟩ := insert_eq_some result
    rw [full slot bound] at vacant
    cases vacant

/-! ## Inserting a list -/

theorem insertAll_cons_eq_some {rest : List α} {final : Nat → α}
    (result : layout.insertAll table (entry :: rest) = some final) :
    ∃ next, layout.insert table entry = some next ∧ layout.insertAll next rest = some final :=
  Option.bind_eq_some_iff.mp result

variable {entries : List α} {final : Nat → α}

theorem Probed.insertAll (probed : layout.Probed table)
    (result : layout.insertAll table entries = some final) : layout.Probed final := by
  induction entries generalizing table with
  | nil =>
      obtain rfl : table = final := by simpa [Addressing.insertAll] using result
      exact probed
  | cons entry rest ih =>
      rcases insertAll_cons_eq_some result with ⟨next, first, remaining⟩
      exact ih (probed.insert first) remaining

theorem insertAll_keeps (result : layout.insertAll table entries = some final) {slot : Nat}
    (used : layout.vacant (table slot) = false) : final slot = table slot := by
  induction entries generalizing table with
  | nil =>
      obtain rfl : table = final := by simpa [insertAll] using result
      rfl
  | cons entry rest ih =>
      rcases insertAll_cons_eq_some result with ⟨next, first, remaining⟩
      have kept := insert_keeps first used
      rw [ih remaining (by rw [kept]; exact used), kept]

/-- Every inserted entry is in some slot. -/
theorem insertAll_stores (present : ∀ entry ∈ entries, layout.vacant entry = false)
    (result : layout.insertAll table entries = some final) :
    ∀ entry ∈ entries, ∃ slot < layout.slots, final slot = entry := by
  induction entries generalizing table with
  | nil => simp
  | cons entry rest ih =>
      rcases insertAll_cons_eq_some result with ⟨next, first, remaining⟩
      intro member member_mem
      rcases List.mem_cons.mp member_mem with rfl | inRest
      · rcases insert_eq_some first with ⟨slot, bound, -, rfl, -⟩
        have used := present member (List.mem_cons_self)
        refine ⟨slot, bound, ?_⟩
        rw [insertAll_keeps remaining (by simpa using used), Function.update_self]
      · exact ih (fun other other_mem => present other (List.mem_cons_of_mem entry other_mem))
          remaining member inRest

/-- Whatever is in use after the insertion was in use before, or was inserted. -/
theorem insertAll_origin (result : layout.insertAll table entries = some final) {slot : Nat}
    (used : layout.vacant (final slot) = false) :
    layout.vacant (table slot) = false ∨ final slot ∈ entries := by
  induction entries generalizing table with
  | nil =>
      obtain rfl : table = final := by simpa [insertAll] using result
      exact .inl used
  | cons entry rest ih =>
      rcases insertAll_cons_eq_some result with ⟨next, first, remaining⟩
      rcases ih remaining with usedNext | inRest
      · rcases insert_eq_some first with ⟨target, -, -, rfl, -⟩
        by_cases new : slot = target
        · subst new
          right
          rw [insertAll_keeps remaining usedNext, Function.update_self]
          exact List.mem_cons_self
        · left
          rwa [Function.update_of_ne new] at usedNext
      · exact .inr (List.mem_cons_of_mem entry inRest)

theorem card_occupied_le (table : Nat → α) : (layout.occupied table).card ≤ layout.slots :=
  (Finset.card_filter_le _ _).trans_eq (Finset.card_range _)

/-- Non-vacant entries fit exactly when there are as many vacant slots. -/
theorem insertAll_isSome_iff (present : ∀ entry ∈ entries, layout.vacant entry = false) :
    (layout.insertAll table entries).isSome ↔
      (layout.occupied table).card + entries.length ≤ layout.slots := by
  induction entries generalizing table with
  | nil => simp [insertAll, card_occupied_le table]
  | cons entry rest ih =>
      have presentRest : ∀ other ∈ rest, layout.vacant other = false :=
        fun other other_mem => present other (List.mem_cons_of_mem entry other_mem)
      rw [List.length_cons, insertAll]
      cases first : layout.insert table entry with
      | none =>
          have full := insert_eq_none_iff.mp first
          simp only [Option.bind_none, Option.isSome_none, Bool.false_eq_true, false_iff]
          omega
      | some next =>
          have grown := occupied_insert (present entry List.mem_cons_self) first
          rw [Option.bind_some, ih presentRest, grown]
          omega

/-! ## Searching -/

/-- A search for an entry that is in the table stops at such an entry. -/
theorem probe_of_present (probed : layout.Probed table) {hit : α → Bool} {start : Nat}
    (startInside : start < layout.slots)
    (sameHome : ∀ entry, hit entry = true → layout.home entry = start)
    {slot : Nat} (bound : slot < layout.slots) (used : layout.vacant (table slot) = false)
    (isHit : hit (table slot) = true) :
    ∃ found < layout.slots,
      probe layout.slots (fun entry => layout.vacant entry || hit entry) table layout.slots
        start = some found ∧
      layout.vacant (table found) = false ∧ hit (table found) = true := by
  rcases exists_offset startInside bound with ⟨distance, distanceBound, reached⟩
  cases result : probe layout.slots (fun entry => layout.vacant entry || hit entry) table
      layout.slots start with
  | none =>
      have noStop := probe_full_eq_none startInside result slot bound
      simp [isHit] at noStop
  | some found =>
      rcases probe_eq_some startInside result with ⟨offset, offsetBound, place, stops, before⟩
      have foundBound : found < layout.slots := by
        rw [place]
        exact Nat.mod_lt _ (Nat.zero_lt_of_lt startInside)
      -- The search cannot pass the slot of the entry, and up to it nothing is vacant.
      have notPast : offset ≤ distance := by
        by_contra past
        have passed := before distance (by omega)
        rw [reached] at passed
        simp [isHit] at passed
      have foundUsed : layout.vacant (table found) = false := by
        rcases Nat.lt_or_eq_of_le notPast with sooner | same
        · have passed := probed slot bound used distance distanceBound
            (by rw [sameHome _ isHit]; exact reached) offset sooner
          rwa [sameHome _ isHit, ← place] at passed
        · rw [place, same, reached]
          exact used
      refine ⟨found, foundBound, rfl, foundUsed, ?_⟩
      simpa [foundUsed] using stops

end Addressing

end DlpSystem.Lib
