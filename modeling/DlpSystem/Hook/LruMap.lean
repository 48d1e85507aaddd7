import DlpSystem.Hook.FastPath
import DlpSystem.Lib.EventRun

/-!
# The LRU as a map

The LRU of one thread under any sequence of its calls, beside the map that it stands for:
the most recent insert for each path.  A search reads the first `count` slots while an
insert writes at the cursor, and an invalidation lowers `count` without moving the cursor;
an insert does not look for older entries of its path.
-/

namespace DlpSystem.Hook

open Common Lib

/-- A call of the LRU of one thread. -/
inductive LruCall
  | insert (path : Str) (classification : Classification) (version : UInt64)
  | get (path : Str) (version : UInt64)
  | clear
  deriving DecidableEq

/-- The LRU, and what the most recent insert for each path gave. -/
structure LruRun where
  lru : LruCache
  latest : Str → Option (Classification × UInt64)

namespace LruRun

/-- Nothing was inserted yet. -/
def new : LruRun := ⟨.new, fun _ => none⟩

/-- One call; `clear_all` leaves a new LRU behind. -/
def next (state : LruRun) : LruCall → LruRun
  | .insert path classification version =>
      ⟨state.lru.insert path classification version,
        Function.update state.latest path (some (classification, version))⟩
  | .get path version => ⟨(state.lru.get path version).2, state.latest⟩
  | .clear => ⟨.new, state.latest⟩

/-- What a search answers. -/
def answer (state : LruRun) (path : Str) (version : UInt64) : Option Classification :=
  (state.lru.get path version).1

end LruRun

/-- A search right after an insert finds it, and every search that finds something finds
what the most recent insert for its path gave, made with the version that is asked for. -/
structure MapLike (calls : List LruCall) : Prop where
  found : ∀ (before : List LruCall) (path : Str) (classification : Classification)
    (version : UInt64) (after : List LruCall),
    calls = before ++ .insert path classification version :: .get path version :: after →
      ((before.foldl LruRun.next .new).next
        (.insert path classification version)).answer path version = some classification
  latest : ∀ (before : List LruCall) (path : Str) (version : UInt64) (after : List LruCall)
    (classification : Classification),
    calls = before ++ .get path version :: after →
      (before.foldl LruRun.next .new).answer path version = some classification →
        (before.foldl LruRun.next .new).latest path = some (classification, version)

/-! ## The condition -/

/-- The first entry for a path that a search meets before it comes to the cursor, when one
more slot is searched than now. -/
def LruCache.beforeCursor (lru : LruCache) (path : Str) : Option LruEntry :=
  (lru.entries.toList.take (min lru.cursor (lru.count + 1))).find? fun entry => entry.path == path

/-- An entry written at the cursor is the one that a search for its path ends at: the
search comes to the cursor, or to an equal entry before it. -/
def LruCache.Finds (lru : LruCache) (entry : LruEntry) : Prop :=
  match lru.beforeCursor entry.path with
  | some earlier => earlier = entry
  | none => lru.cursor ≤ lru.count

instance (lru : LruCache) (entry : LruEntry) : Decidable (lru.Finds entry) :=
  match found : lru.beforeCursor entry.path with
  | some earlier => decidable_of_iff (earlier = entry) (by rw [LruCache.Finds, found])
  | none => decidable_of_iff (lru.cursor ≤ lru.count) (by rw [LruCache.Finds, found])

/-- No slot but the one at the cursor has an entry for the path with other values. -/
def LruCache.NoOther (lru : LruCache) (entry : LruEntry) : Prop :=
  ∀ slot : Fin 128, slot ≠ lru.cursor → lru.entries[slot].path = entry.path →
    lru.entries[slot] = entry ∨ lru.entries[slot] = LruEntry.empty

instance (lru : LruCache) (entry : LruEntry) : Decidable (lru.NoOther entry) :=
  inferInstanceAs (Decidable (∀ _, _))

/-- The condition on one call.  An insert leaves its entry where a search ends, and no
other entry for its path; the empty path, which a cleared slot has, is not asked for at the
version of a cleared slot. -/
def LruRun.Kept (state : LruRun) : LruCall → Prop
  | .insert path classification version =>
      state.lru.Finds ⟨path, classification, version⟩ ∧
        state.lru.NoOther ⟨path, classification, version⟩
  | .get path version =>
      path = [] → version = 0 → LruEntry.empty ∈ state.lru.entries.toList.take state.lru.count →
        state.latest [] = some (.T1, 0)
  | .clear => True

instance (state : LruRun) : DecidablePred state.Kept
  | .insert _ _ _ => inferInstanceAs (Decidable (_ ∧ _))
  | .get _ _ => inferInstanceAs (Decidable (_ → _))
  | .clear => inferInstanceAs (Decidable True)

/-! ## One search -/

section Search

variable {lru : LruCache} {path : Str} {classification : Classification} {version : UInt64}

/-- What a search answers depends on the first entry for its path. -/
theorem LruCache.get_fst (lru : LruCache) (path : Str) (version : UInt64) :
    (lru.get path version).1 =
      ((lru.entries.toList.take (min lru.count 128)).find? fun entry => entry.path == path).bind
        fun entry => if entry.version = version then some entry.classification else none := by
  have entries : lru.entries.toList.take (min lru.count 128) =
      (lru.entries.toList.zipIdx.take (min lru.count 128)).map Prod.fst := by
    rw [List.map_take, List.zipIdx_map_fst]
  have matching : (fun entry : LruEntry => entry.path == path) ∘ Prod.fst =
      fun pair : LruEntry × Nat => pair.1.path == path := rfl
  rw [entries, List.find?_map, matching]
  cases slot : lru.slotOf path with
  | none =>
      rw [get_of_absent slot]
      rw [LruCache.slotOf] at slot
      rw [slot]
      rfl
  | some found =>
      obtain ⟨entry, index⟩ := found
      rw [get_of_slot slot]
      rw [LruCache.slotOf] at slot
      simp only [slot, Option.map_some, Option.bind_some]
      split
      · rfl
      · rfl

/-- The first entry of a table with a property, after one that has it was written. -/
theorem find?_take_set {α : Type} {entries : List α} {holds : α → Bool} {entry : α}
    (satisfied : holds entry = true) {slot limit : Nat} (bound : slot < entries.length) :
    ((entries.set slot entry).take limit).find? holds =
      ((entries.take (min slot limit)).find? holds).or
        (if slot < limit then some entry else none) := by
  by_cases searched : slot < limit
  · rw [if_pos searched, Nat.min_eq_left (Nat.le_of_lt searched),
      List.set_eq_take_append_cons_drop, if_pos bound, List.take_append]
    have length : (entries.take slot).length = slot := by
      rw [List.length_take, Nat.min_eq_left (Nat.le_of_lt bound)]
    obtain ⟨more, rfl⟩ : ∃ more, limit = slot + (more + 1) := ⟨limit - slot - 1, by omega⟩
    rw [length, Nat.add_sub_cancel_left, List.take_succ_cons, List.find?_append,
      List.find?_cons_of_pos satisfied, List.take_of_length_le (by omega)]
  · rw [if_neg searched, Nat.min_eq_right (Nat.le_of_not_lt searched), Option.or_none,
      List.take_set_of_le (Nat.le_of_not_lt searched)]

/-- A search right after an insert finds it exactly if the entry is where a search for its
path ends. -/
theorem LruCache.get_insert_iff (small : lru.count ≤ 128) :
    ((lru.insert path classification version).get path version).1 = some classification ↔
      lru.Finds ⟨path, classification, version⟩ := by
  have cursor := lru.cursor.isLt
  have limits : min (lru.insert path classification version).count 128 =
      min (lru.count + 1) 128 := by
    simp only [LruCache.insert]
    split
    · rfl
    · omega
  have upTo : min (lru.cursor : Nat) (min (lru.count + 1) 128) =
      min (lru.cursor : Nat) (lru.count + 1) := by
    omega
  rw [get_fst, limits]
  simp only [LruCache.insert, Vector.toList_set]
  rw [find?_take_set (by simp) (by simp), upTo]
  have searched : (lru.cursor : Nat) < min (lru.count + 1) 128 ↔
      (lru.cursor : Nat) ≤ lru.count := by
    omega
  simp only [LruCache.Finds, LruCache.beforeCursor, searched]
  cases earlier : (lru.entries.toList.take (min lru.cursor (lru.count + 1))).find?
      fun entry => entry.path == path with
  | none =>
      by_cases reached : (lru.cursor : Nat) ≤ lru.count
      · simp [reached]
      · simp [reached]
  | some entry =>
      have same : entry.path = path := by simpa using List.find?_some earlier
      obtain ⟨entryPath, entryClass, entryVersion⟩ := entry
      cases same
      simp [and_comm]

end Search

/-! ## Runs -/

/-- An entry that is not cleared is what the most recent insert for its path gave. -/
structure LruRun.Sound (state : LruRun) : Prop where
  small : state.lru.count ≤ 128
  recent : ∀ slot : Fin 128, state.lru.entries[slot] = LruEntry.empty ∨
    state.latest state.lru.entries[slot].path =
      some (state.lru.entries[slot].classification, state.lru.entries[slot].version)

namespace LruRun.Sound

variable {state : LruRun}

/-- A new LRU has cleared entries only. -/
theorem cleared (latest : Str → Option (Classification × UInt64)) :
    LruRun.Sound ⟨.new, latest⟩ where
  small := Nat.zero_le 128
  recent slot := .inl (by simp [LruCache.new])

/-- An insert that leaves no other entry for its path. -/
theorem insert (sound : state.Sound) {path : Str} {classification : Classification}
    {version : UInt64} (alone : state.lru.NoOther ⟨path, classification, version⟩) :
    (state.next (.insert path classification version)).Sound where
  small := by
    have small := sound.small
    simp only [LruRun.next, LruCache.insert]
    split
    · omega
    · exact small
  recent slot := by
    simp only [LruRun.next, LruCache.insert]
    by_cases written : slot = state.lru.cursor
    · subst written
      exact .inr (by simp)
    · have kept : (state.lru.entries.set state.lru.cursor ⟨path, classification, version⟩)[slot] =
          state.lru.entries[slot] :=
        Vector.getElem_set_ne _ _ fun same => written (Fin.ext same.symm)
      rw [kept]
      by_cases same : state.lru.entries[slot].path = path
      · rcases alone slot written same with equal | empty
        · rw [equal]
          exact .inr (by simp)
        · exact .inl empty
      · rw [Function.update_of_ne same]
        exact sound.recent slot

/-- A search clears an entry at most. -/
theorem get (sound : state.Sound) (path : Str) (version : UInt64) :
    (state.next (.get path version)).Sound := by
  have small := sound.small
  simp only [LruRun.next]
  cases slot : state.lru.slotOf path with
  | none =>
      rw [LruCache.get_of_absent slot]
      exact ⟨small, sound.recent⟩
  | some found =>
      obtain ⟨entry, index⟩ := found
      rw [LruCache.get_of_slot slot]
      split
      · exact ⟨small, sound.recent⟩
      · constructor
        · exact (Nat.sub_le _ 1).trans small
        · intro other
          dsimp only
          by_cases cleared : index = other
          · exact .inl (by simp [cleared])
          · have kept : (state.lru.entries.setIfInBounds index LruEntry.empty)[other] =
                state.lru.entries[other] :=
              Vector.getElem_setIfInBounds_ne _ cleared
            rw [kept]
            exact sound.recent other

/-- Every call that meets the condition keeps the entries recent. -/
theorem next (sound : state.Sound) {call : LruCall} (kept : state.Kept call) :
    (state.next call).Sound := by
  cases call with
  | insert path classification version => exact sound.insert kept.2
  | get path version => exact sound.get path version
  | clear => exact cleared state.latest

/-- A search that meets the condition finds what the most recent insert gave. -/
theorem latest_of_answer (sound : state.Sound) {path : Str} {version : UInt64}
    (kept : state.Kept (.get path version)) {classification : Classification}
    (answered : state.answer path version = some classification) :
    state.latest path = some (classification, version) := by
  rw [LruRun.answer, LruCache.get_fst, Nat.min_eq_left sound.small] at answered
  obtain ⟨entry, found, current⟩ := Option.bind_eq_some_iff.mp answered
  have same : entry.path = path := by simpa using List.find?_some found
  have searched := List.mem_of_find?_eq_some found
  obtain ⟨slot, stored⟩ : ∃ slot : Fin 128, state.lru.entries[slot] = entry := by
    obtain ⟨index, bound, stored⟩ := List.getElem_of_mem (List.mem_of_mem_take searched)
    exact ⟨⟨index, by simpa using bound⟩, stored⟩
  split at current
  · rename_i version_eq
    cases current
    rcases sound.recent slot with empty | recent
    · -- A cleared slot answers for the empty path at version 0.
      rw [stored] at empty
      subst empty
      cases same
      cases version_eq
      exact kept rfl rfl searched
    · rw [stored] at recent
      rw [← same, ← version_eq]
      exact recent
  · cases current

end LruRun.Sound

/-- The LRU behaves as a map in every run whose calls meet the condition. -/
theorem mapLike_of_kept (calls : List LruCall)
    (kept : Each LruRun.next LruRun.Kept .new calls) : MapLike calls := by
  have sound : ∀ before after : List LruCall, calls = before ++ after →
      (before.foldl LruRun.next .new).Sound := by
    rintro before after rfl
    apply ((each_append _ before after).mp kept).1.invariant
    · exact fun _ _ sound kept => sound.next kept
    · exact LruRun.Sound.cleared _
  constructor
  · intro before path classification version after run
    have small := (sound before _ run).small
    subst run
    exact (LruCache.get_insert_iff small).mpr kept.at_cut.1
  · intro before path version after classification run answered
    have before_sound := sound before _ run
    subst run
    exact before_sound.latest_of_answer kept.at_cut answered

/-- Two paths, each asked for after its insert. -/
theorem mapLike_of_kept_two_paths :
    MapLike [.insert (ascii "A") .T3 1, .get (ascii "A") 1, .insert (ascii "B") .T2 1,
      .get (ascii "B") 1] :=
  mapLike_of_kept _ (by decide +kernel)

/-- After an invalidation an insert goes to a slot that is not searched. -/
theorem not_mapLike_invalidated :
    ¬ MapLike [.insert (ascii "A") .T3 1, .get (ascii "A") 2, .insert (ascii "A") .T3 2,
      .get (ascii "A") 2] := by
  intro mapLike
  have found := mapLike.found [.insert (ascii "A") .T3 1, .get (ascii "A") 2] (ascii "A") .T3 2 []
    rfl
  have lost : LruRun.answer
      (([.insert (ascii "A") .T3 1, .get (ascii "A") 2, .insert (ascii "A") .T3 2] :
        List LruCall).foldl LruRun.next .new) (ascii "A") 2 = none := by
    decide +kernel
  exact absurd (found.symm.trans lost) (by simp)

end DlpSystem.Hook
