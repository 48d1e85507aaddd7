import Mathlib.Data.Finset.Card
import Mathlib.Data.Finset.Lattice.Fold
import Mathlib.Data.List.AList
import Mathlib.Data.List.Induction

/-!
# Cooldown of override prompts

`OverrideCooldownMap`: the hook remembers when it last asked for an override of a path and an
action, and asks again when the cooldown is over or when the key has been forgotten.
-/

namespace DlpSystem.Hook

/-- `OVERRIDE_COOLDOWN_MAX_KEYS`. -/
def overrideCooldownMaxKeys : Nat :=
  10000

/-- `OverrideCooldownMap`.  Times are milliseconds of the monotonic clock. -/
structure OverrideCooldownMap where
  entries : AList fun _ : String => Nat
  lruKeys : List String
  maxKeys : Nat

namespace OverrideCooldownMap

/-- An empty map with a cap. -/
def withCap (maxKeys : Nat) : OverrideCooldownMap :=
  ⟨∅, [], maxKeys⟩

/-- `OverrideCooldownMap::new`. -/
def new : OverrideCooldownMap :=
  withCap overrideCooldownMaxKeys

/-- A key is removed from the map and from the queue. -/
def remove (map : OverrideCooldownMap) (key : String) : OverrideCooldownMap :=
  { map with
    entries := map.entries.erase key
    lruKeys := map.lruKeys.filter fun other => other ≠ key }

/-- The keys whose cooldown is over. -/
def expired (map : OverrideCooldownMap) (now ttl : Nat) : List String :=
  (map.entries.entries.filter fun entry => ttl ≤ now - entry.2).map Sigma.fst

/-- The loop of `evict_expired_and_oldest`: the front of the queue goes while there are too
many entries. -/
def evictOldest (maxKeys : Nat) (entries : AList fun _ : String => Nat) :
    List String → OverrideCooldownMap
  | [] => ⟨entries, [], maxKeys⟩
  | oldest :: rest =>
      if maxKeys < entries.keys.length then evictOldest maxKeys (entries.erase oldest) rest
      else ⟨entries, oldest :: rest, maxKeys⟩

/-- `evict_expired_and_oldest`. -/
def evictExpiredAndOldest (map : OverrideCooldownMap) (now ttl : Nat) : OverrideCooldownMap :=
  let swept := (map.expired now ttl).foldl remove map
  evictOldest swept.maxKeys swept.entries swept.lruKeys

/-- The key has not been seen, or its cooldown is over. -/
def isFresh (map : OverrideCooldownMap) (key : String) (now ttl : Nat) : Bool :=
  match map.entries.lookup key with
  | some ts => ttl ≤ now - ts
  | none => true

/-- The key is recorded, at the back of the queue. -/
def record (map : OverrideCooldownMap) (key : String) (now : Nat) : OverrideCooldownMap :=
  { map with
    entries := map.entries.insert key now
    lruKeys := (map.lruKeys.filter fun other => other ≠ key) ++ [key] }

/-- `should_emit`, with the map it leaves. -/
def shouldEmit (map : OverrideCooldownMap) (key : String) (now ttl : Nat) :
    Bool × OverrideCooldownMap :=
  if map.isFresh key now ttl then (true, (map.record key now).evictExpiredAndOldest now ttl)
  else (false, map)

/-! ## The cap stays -/

theorem maxKeys_foldl_remove (map : OverrideCooldownMap) (keys : List String) :
    (keys.foldl remove map).maxKeys = map.maxKeys := by
  induction keys generalizing map with
  | nil => rfl
  | cons key keys ih => exact ih (map.remove key)

theorem maxKeys_evictOldest (maxKeys : Nat) (entries : AList fun _ : String => Nat)
    (queue : List String) : (evictOldest maxKeys entries queue).maxKeys = maxKeys := by
  induction queue generalizing entries with
  | nil => rfl
  | cons oldest rest ih =>
      rw [evictOldest]
      split
      · exact ih _
      · rfl

theorem maxKeys_shouldEmit (map : OverrideCooldownMap) (key : String) (now ttl : Nat) :
    (map.shouldEmit key now ttl).2.maxKeys = map.maxKeys := by
  rw [shouldEmit]
  split
  · exact (maxKeys_evictOldest _ _ _).trans (maxKeys_foldl_remove _ _)
  · rfl

end OverrideCooldownMap

/-! ## Prompts within the cooldown

The queue holds the keys of the map in the order of their last prompts.  A key is forgotten
when its cooldown is over, or when so many other keys had prompts after it that the map is
full.
-/

/-! ### Runs -/

/-- A call of `should_emit`. -/
structure EmitCall where
  key : String
  now : Nat

/-- The map after a call. -/
def EmitCall.next (ttl : Nat) (map : OverrideCooldownMap) (call : EmitCall) :
    OverrideCooldownMap :=
  (map.shouldEmit call.key call.now ttl).2

/-- The map after some calls. -/
def mapAfter (maxKeys ttl : Nat) (calls : List EmitCall) : OverrideCooldownMap :=
  calls.foldl (EmitCall.next ttl) (.withCap maxKeys)

/-- A call after some others returns true. -/
def EmitsAt (maxKeys ttl : Nat) (before : List EmitCall) (call : EmitCall) : Prop :=
  ((mapAfter maxKeys ttl before).shouldEmit call.key call.now ttl).1 = true

instance (maxKeys ttl : Nat) (before : List EmitCall) (call : EmitCall) :
    Decidable (EmitsAt maxKeys ttl before call) :=
  inferInstanceAs (Decidable (_ = true))

/-- The calls that return true. -/
def emissions (ttl : Nat) : OverrideCooldownMap → List EmitCall → List EmitCall
  | _, [] => []
  | map, call :: calls =>
      if (map.shouldEmit call.key call.now ttl).1 then
        call :: emissions ttl (call.next ttl map) calls
      else emissions ttl (call.next ttl map) calls

/-- The map and the queue have the same keys, each once and not too many, and a key is emitted
twice within the cooldown only if so many other keys were emitted in between. -/
structure SoundLimiter (maxKeys ttl : Nat) (calls : List EmitCall) : Prop where
  sameKeys : ∀ before after, calls = before ++ after → ∀ key,
    key ∈ (mapAfter maxKeys ttl before).entries ↔ key ∈ (mapAfter maxKeys ttl before).lruKeys
  queuedOnce : ∀ before after, calls = before ++ after →
    (mapAfter maxKeys ttl before).lruKeys.Nodup
  atMost : ∀ before after, calls = before ++ after →
    (mapAfter maxKeys ttl before).entries.keys.length ≤ maxKeys
  apart : ∀ before first middle second after,
    calls = before ++ first :: (middle ++ second :: after) → first.key = second.key →
    EmitsAt maxKeys ttl before first → EmitsAt maxKeys ttl (before ++ first :: middle) second →
    second.now - first.now < ttl →
      maxKeys ≤ (((emissions ttl (mapAfter maxKeys ttl (before ++ [first])) middle).map
        EmitCall.key).toFinset.erase first.key).card

/-! ### What has been emitted -/

/-- The last emission of a key, and what was emitted after it. -/
def LastEmission (emitted : List EmitCall) (call : EmitCall) (after : List EmitCall) : Prop :=
  ∃ before, emitted = before ++ call :: after ∧ call.key ∉ after.map EmitCall.key

theorem LastEmission.mem {emitted after : List EmitCall} {call : EmitCall}
    (last : LastEmission emitted call after) : call ∈ emitted := by
  obtain ⟨before, rfl, _⟩ := last
  exact List.mem_append_right _ List.mem_cons_self

/-- Another key was emitted after the last emission of a key. -/
def EmittedSince (emitted : List EmitCall) (key other : String) : Prop :=
  ∀ call after, LastEmission emitted call after → call.key = key →
    other ∈ after.map EmitCall.key

/-- The cooldown of a key is over, or so many other keys were emitted after it. -/
def Excused (ttl maxKeys now : Nat) (emitted : List EmitCall) (key : String) : Prop :=
  ∀ call after, LastEmission emitted call after → call.key = key →
    call.now + ttl ≤ now ∨ maxKeys ≤ (after.map EmitCall.key).toFinset.card

theorem exists_lastEmission {emitted : List EmitCall} {key : String}
    (member : key ∈ emitted.map EmitCall.key) :
    ∃ call after, LastEmission emitted call after ∧ call.key = key := by
  induction emitted using List.reverseRecOn with
  | nil => cases member
  | append_singleton before last ih =>
      by_cases here : last.key = key
      · exact ⟨last, [], ⟨before, rfl, List.not_mem_nil⟩, here⟩
      · rw [List.map_append, List.mem_append] at member
        have earlier : key ∈ before.map EmitCall.key :=
          member.resolve_right fun isLast => here (List.mem_singleton.mp isLast).symm
        obtain ⟨call, after, ⟨front, split, unique⟩, same⟩ := ih earlier
        refine ⟨call, after ++ [last], ⟨front, by rw [split]; simp, ?_⟩, same⟩
        rw [List.map_append, List.mem_append]
        rintro (again | isLast)
        · exact unique again
        · exact here ((List.mem_singleton.mp isLast).symm.trans same)

/-- The last emission of the key that was emitted last, and those of the other keys. -/
theorem lastEmission_concat {emitted after : List EmitCall} {new call : EmitCall}
    (last : LastEmission (emitted ++ [new]) call after) :
    call = new ∨ call.key ≠ new.key ∧
      ∃ earlier, after = earlier ++ [new] ∧ LastEmission emitted call earlier := by
  obtain ⟨before, split, unique⟩ := last
  rcases List.eq_nil_or_concat after with rfl | ⟨earlier, final, rfl⟩
  · exact Or.inl (List.append_inj' split rfl |>.2 |> List.head_eq_of_cons_eq).symm
  · rw [List.concat_eq_append] at split unique ⊢
    rw [← List.cons_append, ← List.append_assoc] at split
    obtain ⟨sameFront, sameLast⟩ := List.append_inj' split rfl
    cases List.head_eq_of_cons_eq sameLast
    rw [List.map_append, List.mem_append, not_or] at unique
    have different : call.key ≠ new.key := fun same =>
      unique.2 (List.mem_singleton.mpr same)
    exact Or.inr ⟨different, earlier, rfl, before, sameFront, unique.1⟩

section Emitted

variable {ttl maxKeys now later : Nat} {emitted : List EmitCall} {new : EmitCall}
  {key other : String}

theorem EmittedSince.concat (since : EmittedSince emitted key other) (different : key ≠ new.key) :
    EmittedSince (emitted ++ [new]) key other := by
  intro call after last same
  rcases lastEmission_concat last with rfl | ⟨_, earlier, rfl, before⟩
  · exact absurd same.symm different
  · rw [List.map_append]
    exact List.mem_append_left _ (since call earlier before same)

theorem emittedSince_last (different : key ≠ new.key) :
    EmittedSince (emitted ++ [new]) key new.key := by
  intro call after last same
  rcases lastEmission_concat last with rfl | ⟨_, earlier, rfl, _⟩
  · exact absurd same.symm different
  · simp

theorem Excused.concat (excused : Excused ttl maxKeys now emitted key) (order : now ≤ later)
    (different : key ≠ new.key) : Excused ttl maxKeys later (emitted ++ [new]) key := by
  intro call after last same
  rcases lastEmission_concat last with rfl | ⟨_, earlier, rfl, before⟩
  · exact absurd same.symm different
  · rcases excused call earlier before same with expired | full
    · exact Or.inl (expired.trans order)
    · apply Or.inr
      apply full.trans
      apply Finset.card_le_card
      intro name member
      rw [List.mem_toFinset] at member ⊢
      rw [List.map_append]
      exact List.mem_append_left _ member

theorem Excused.wait (excused : Excused ttl maxKeys now emitted key) (order : now ≤ later) :
    Excused ttl maxKeys later emitted key :=
  fun call after last same => (excused call after last same).imp_left (·.trans order)

end Emitted

/-! ### What the map keeps -/

/-- The map against what has been emitted until a time. -/
structure Tracks (ttl now : Nat) (emitted : List EmitCall) (map : OverrideCooldownMap) :
    Prop where
  past : ∀ call ∈ emitted, call.now ≤ now
  sameKeys : ∀ key, key ∈ map.entries ↔ key ∈ map.lruKeys
  queuedOnce : map.lruKeys.Nodup
  times : ∀ key ts, map.entries.lookup key = some ts →
    ∀ call after, LastEmission emitted call after → call.key = key → call.now = ts
  inOrder : map.lruKeys.Pairwise (EmittedSince emitted)
  excused : ∀ key, key ∉ map.entries → Excused ttl map.maxKeys now emitted key

namespace Tracks

variable {ttl now later : Nat} {emitted : List EmitCall} {map : OverrideCooldownMap}
  {key : String}

theorem start (maxKeys : Nat) : Tracks ttl now [] (.withCap maxKeys) where
  past := fun _ none => nomatch none
  sameKeys := fun key => by simp [OverrideCooldownMap.withCap]
  queuedOnce := List.nodup_nil
  times := fun _ _ _ _ _ last => by
    obtain ⟨_, split, _⟩ := last
    simp at split
  inOrder := List.Pairwise.nil
  excused := fun _ _ _ _ last => by
    obtain ⟨_, split, _⟩ := last
    simp at split

theorem wait (tracks : Tracks ttl now emitted map) (order : now ≤ later) :
    Tracks ttl later emitted map :=
  { tracks with
    past := fun call member => (tracks.past call member).trans order
    excused := fun key absent => (tracks.excused key absent).wait order }

/-- The map has as many keys as the queue. -/
theorem length_keys (tracks : Tracks ttl now emitted map) :
    map.entries.keys.length = map.lruKeys.length := by
  apply List.Perm.length_eq
  apply (List.perm_ext_iff_of_nodup map.entries.keys_nodup tracks.queuedOnce).mpr
  intro key
  rw [← AList.mem_keys]
  exact tracks.sameKeys key

/-- A key with an excuse can be removed. -/
theorem remove (tracks : Tracks ttl now emitted map)
    (excused : Excused ttl map.maxKeys now emitted key) :
    Tracks ttl now emitted (map.remove key) where
  past := tracks.past
  sameKeys := by
    intro other
    rw [OverrideCooldownMap.remove, AList.mem_erase, List.mem_filter, decide_eq_true_eq,
      tracks.sameKeys, and_comm]
  queuedOnce := tracks.queuedOnce.filter _
  times := by
    intro other ts found
    have different : other ≠ key := by
      rintro rfl
      rw [OverrideCooldownMap.remove, AList.lookup_erase] at found
      cases found
    rw [OverrideCooldownMap.remove, AList.lookup_erase_ne different] at found
    exact tracks.times other ts found
  inOrder := tracks.inOrder.filter _
  excused := by
    intro other absent
    rw [OverrideCooldownMap.remove, AList.mem_erase, not_and] at absent
    by_cases same : other = key
    · rw [same]
      exact excused
    · exact tracks.excused other (absent same)

/-- An emission is recorded. -/
theorem record (tracks : Tracks ttl now emitted map) (new : EmitCall) (order : now ≤ new.now) :
    Tracks ttl new.now (emitted ++ [new]) (map.record new.key new.now) where
  past := by
    intro call member
    rcases List.mem_append.mp member with before | isNew
    · exact (tracks.past call before).trans order
    · rw [List.mem_singleton.mp isNew]
  sameKeys := by
    intro other
    rw [OverrideCooldownMap.record, AList.mem_insert, List.mem_append, List.mem_filter,
      decide_eq_true_eq, List.mem_singleton, tracks.sameKeys]
    tauto
  queuedOnce := by
    apply List.Nodup.append (tracks.queuedOnce.filter _) (List.nodup_singleton _)
    rw [List.disjoint_singleton, List.mem_filter]
    simp
  times := by
    intro other ts found call after last same
    rcases lastEmission_concat last with rfl | ⟨different, earlier, _, before⟩
    · rw [← same, OverrideCooldownMap.record, AList.lookup_insert] at found
      exact Option.some.inj found
    · rw [same] at different
      rw [OverrideCooldownMap.record, AList.lookup_insert_ne different] at found
      exact tracks.times other ts found call earlier before same
  inOrder := by
    rw [OverrideCooldownMap.record, List.pairwise_append]
    constructor
    · apply (tracks.inOrder.filter _).imp_of_mem
      intro first second member _ since
      rw [List.mem_filter, decide_eq_true_eq] at member
      exact since.concat member.2
    · refine ⟨List.pairwise_singleton _ _, ?_⟩
      intro first member second isNew
      rw [List.mem_filter, decide_eq_true_eq] at member
      rw [List.mem_singleton.mp isNew]
      exact emittedSince_last member.2
  excused := by
    intro other absent
    rw [OverrideCooldownMap.record, AList.mem_insert, not_or] at absent
    exact (tracks.excused other absent.2).concat order absent.1

/-- All expired keys have an excuse. -/
theorem sweep (tracks : Tracks ttl now emitted map) :
    Tracks ttl now emitted ((map.expired now ttl).foldl OverrideCooldownMap.remove map) := by
  have excused : ∀ key ∈ map.expired now ttl, Excused ttl map.maxKeys now emitted key := by
    intro key member call after last same
    obtain ⟨entry, isExpired, rfl⟩ := List.mem_map.mp member
    rw [List.mem_filter, decide_eq_true_eq] at isExpired
    have found := AList.mem_lookup_iff.mpr isExpired.1
    have time := tracks.times entry.1 entry.2 found call after last same
    have past := tracks.past call last.mem
    apply Or.inl
    omega
  generalize map.expired now ttl = keys at excused
  induction keys generalizing map with
  | nil => exact tracks
  | cons key keys ih =>
      apply ih (tracks.remove (excused key List.mem_cons_self))
      exact fun other member => excused other (List.mem_cons_of_mem _ member)

/-- The front of the queue has an excuse while there are too many keys. -/
theorem evictOldest {entries : AList fun _ : String => Nat} {queue : List String} {maxKeys : Nat}
    (tracks : Tracks ttl now emitted ⟨entries, queue, maxKeys⟩) :
    Tracks ttl now emitted (OverrideCooldownMap.evictOldest maxKeys entries queue) ∧
      (OverrideCooldownMap.evictOldest maxKeys entries queue).entries.keys.length ≤ maxKeys := by
  induction queue generalizing entries with
  | nil =>
      rw [OverrideCooldownMap.evictOldest]
      refine ⟨tracks, ?_⟩
      rw [tracks.length_keys]
      exact Nat.zero_le _
  | cons oldest rest ih =>
      rw [OverrideCooldownMap.evictOldest]
      split
      · rename_i tooMany
        obtain ⟨oldestOnce, restOnce⟩ := List.nodup_cons.mp tracks.queuedOnce
        have length := tracks.length_keys
        have excused : Excused ttl maxKeys now emitted oldest := by
          intro call after last same
          apply Or.inr
          have since := (List.pairwise_cons.mp tracks.inOrder).1
          have inside : rest.toFinset ⊆ (after.map EmitCall.key).toFinset := by
            intro other member
            rw [List.mem_toFinset] at member ⊢
            exact since other member call after last same
          have count := Finset.card_le_card inside
          rw [List.toFinset_card_of_nodup restOnce] at count
          simp only [List.length_cons] at length
          omega
        have popped : (oldest :: rest).filter (fun other => other ≠ oldest) = rest := by
          rw [List.filter_cons_of_neg (by simp), List.filter_eq_self]
          intro other member
          rw [decide_eq_true_eq]
          rintro rfl
          exact oldestOnce member
        have left := tracks.remove excused
        rw [OverrideCooldownMap.remove] at left
        dsimp only at left
        rw [popped] at left
        exact ih left
      · rename_i fits
        exact ⟨tracks, Nat.not_lt.mp fits⟩

/-- A call keeps track of the emissions, and leaves no more keys than allowed. -/
theorem next (tracks : Tracks ttl now emitted map)
    (atMost : map.entries.keys.length ≤ map.maxKeys) (call : EmitCall) (order : now ≤ call.now) :
    Tracks ttl call.now
        (emitted ++ if (map.shouldEmit call.key call.now ttl).1 then [call] else [])
        (call.next ttl map) ∧
      (call.next ttl map).entries.keys.length ≤ map.maxKeys := by
  rw [EmitCall.next, OverrideCooldownMap.shouldEmit]
  split
  · rw [if_pos rfl]
    obtain ⟨kept, fits⟩ := ((tracks.record call order).sweep).evictOldest
    exact ⟨kept, fits.trans (OverrideCooldownMap.maxKeys_foldl_remove _ _).le⟩
  · rw [if_neg Bool.false_ne_true, List.append_nil]
    exact ⟨tracks.wait order, atMost⟩

end Tracks

/-! ### All calls -/

section Runs

variable {maxKeys ttl : Nat} {before calls : List EmitCall} {call : EmitCall}

theorem emissions_append (map : OverrideCooldownMap) (before after : List EmitCall) :
    emissions ttl map (before ++ after) =
      emissions ttl map before ++ emissions ttl (before.foldl (EmitCall.next ttl) map) after := by
  induction before generalizing map with
  | nil => rfl
  | cons call before ih =>
      rw [List.cons_append, emissions, emissions, ih]
      split <;> rfl

theorem emissions_sublist (map : OverrideCooldownMap) (calls : List EmitCall) :
    (emissions ttl map calls).Sublist calls := by
  induction calls generalizing map with
  | nil => exact List.Sublist.refl _
  | cons call calls ih =>
      rw [emissions]
      split
      · exact (ih _).cons_cons call
      · exact (ih _).cons call

theorem mapAfter_concat :
    mapAfter maxKeys ttl (before ++ [call]) = call.next ttl (mapAfter maxKeys ttl before) :=
  List.foldl_concat _ _ _ _

theorem emissions_concat :
    emissions ttl (.withCap maxKeys) (before ++ [call]) =
      emissions ttl (.withCap maxKeys) before ++
        if ((mapAfter maxKeys ttl before).shouldEmit call.key call.now ttl).1 then [call]
        else [] := by
  rw [emissions_append]
  rfl

theorem maxKeys_mapAfter (calls : List EmitCall) :
    (mapAfter maxKeys ttl calls).maxKeys = maxKeys := by
  induction calls using List.reverseRecOn with
  | nil => rfl
  | append_singleton before call ih =>
      rw [mapAfter_concat, EmitCall.next, OverrideCooldownMap.maxKeys_shouldEmit, ih]

/-- Calls in the order of the clock are tracked. -/
theorem tracks_mapAfter {now : Nat} (ordered : (calls.map EmitCall.now ++ [now]).Pairwise (· ≤ ·)) :
    Tracks ttl now (emissions ttl (.withCap maxKeys) calls) (mapAfter maxKeys ttl calls) ∧
      (mapAfter maxKeys ttl calls).entries.keys.length ≤ maxKeys := by
  induction calls using List.reverseRecOn generalizing now with
  | nil => exact ⟨Tracks.start maxKeys, Nat.zero_le _⟩
  | append_singleton before call ih =>
      rw [List.map_append] at ordered
      obtain ⟨earlier, _, past⟩ := List.pairwise_append.mp ordered
      obtain ⟨tracks, atMost⟩ := ih earlier
      have order : call.now ≤ now := past call.now (by simp) now (List.mem_singleton_self _)
      have cap := @maxKeys_mapAfter maxKeys ttl before
      obtain ⟨next, fits⟩ := tracks.next (atMost.trans cap.ge) call le_rfl
      rw [emissions_concat, mapAfter_concat]
      exact ⟨next.wait order, fits.trans cap.le⟩

/-- What the second of two emissions of a key says about the last one before it. -/
theorem excused_of_emitsAt {second : EmitCall}
    (ordered : (calls.map EmitCall.now ++ [second.now]).Pairwise (· ≤ ·))
    (again : EmitsAt maxKeys ttl calls second) :
    Excused ttl maxKeys second.now (emissions ttl (.withCap maxKeys) calls) second.key := by
  obtain ⟨tracks, -⟩ := @tracks_mapAfter maxKeys ttl _ _ ordered
  intro call after last same
  have fresh : (mapAfter maxKeys ttl calls).isFresh second.key second.now ttl = true := by
    rw [EmitsAt, OverrideCooldownMap.shouldEmit] at again
    split at again
    · assumption
    · cases again
  rw [OverrideCooldownMap.isFresh] at fresh
  cases found : (mapAfter maxKeys ttl calls).entries.lookup second.key with
  | none =>
      have excused := tracks.excused second.key (AList.lookup_eq_none.mp found)
      rw [maxKeys_mapAfter] at excused
      exact excused call after last same
  | some ts =>
      rw [found, decide_eq_true_eq] at fresh
      have time := tracks.times second.key ts found call after last same
      have past := tracks.past call last.mem
      apply Or.inl
      omega

theorem emissions_of_emitsAt {first : EmitCall} (emits : EmitsAt maxKeys ttl before first)
    (middle : List EmitCall) :
    emissions ttl (.withCap maxKeys) (before ++ first :: middle) =
      emissions ttl (.withCap maxKeys) before ++
        first :: emissions ttl (mapAfter maxKeys ttl (before ++ [first])) middle := by
  rw [emissions_append, mapAfter_concat]
  congr 1
  exact if_pos emits

/-- A key is emitted again within the cooldown only behind so many others. -/
theorem apart_of_ordered {first second : EmitCall} {middle : List EmitCall}
    (ordered : ((before ++ first :: middle).map EmitCall.now ++ [second.now]).Pairwise (· ≤ ·))
    (same : first.key = second.key) (emits : EmitsAt maxKeys ttl before first)
    (again : EmitsAt maxKeys ttl (before ++ first :: middle) second)
    (soon : second.now - first.now < ttl) :
    maxKeys ≤ (((emissions ttl (mapAfter maxKeys ttl (before ++ [first])) middle).map
      EmitCall.key).toFinset.erase first.key).card := by
  have excused := excused_of_emitsAt ordered again
  rw [emissions_of_emitsAt emits] at excused
  have within := @emissions_sublist ttl (mapAfter maxKeys ttl (before ++ [first])) middle
  generalize emissions ttl (mapAfter maxKeys ttl (before ++ [first])) middle = others
    at excused within ⊢
  -- The last emission of the key is the first one or one of the others.
  obtain ⟨call, after, ⟨front, split, unique⟩, sameKey⟩ :=
    @exists_lastEmission (first :: others) first.key List.mem_cons_self
  have last : LastEmission (emissions ttl (.withCap maxKeys) before ++ first :: others) call
      after := ⟨_ ++ front, by rw [split, List.append_assoc], unique⟩
  have isLater : first.now ≤ call.now := by
    have member : call ∈ first :: others := split ▸ List.mem_append_right _ List.mem_cons_self
    rcases List.mem_cons.mp member with rfl | other
    · exact le_rfl
    · have inMiddle : call.now ∈ middle.map EmitCall.now :=
        List.mem_map_of_mem (within.subset other)
      rw [List.map_append, List.map_cons, List.append_assoc, List.pairwise_append] at ordered
      exact (List.pairwise_cons.mp ordered.2.1).1 _ (List.mem_append_left _ inMiddle)
  rcases excused call after last (sameKey.trans same) with expired | full
  · omega
  · apply full.trans
    apply Finset.card_le_card
    intro name member
    rw [List.mem_toFinset] at member
    rw [Finset.mem_erase, List.mem_toFinset]
    constructor
    · rintro rfl
      exact unique (sameKey ▸ member)
    · have suffix : (call :: after) <:+ first :: others := ⟨front, split.symm⟩
      have behind : after <:+ others := by
        rcases List.suffix_cons_iff.mp suffix with whole | part
        · rw [(List.cons.inj whole).2]
        · exact (List.suffix_cons call after).trans part
      exact List.map_subset _ behind.subset member

/-- Some time is not before any of the calls. -/
theorem exists_later (ordered : (calls.map EmitCall.now).Pairwise (· ≤ ·)) :
    ∃ now, (calls.map EmitCall.now ++ [now]).Pairwise (· ≤ ·) := by
  refine ⟨(calls.map EmitCall.now).toFinset.sup id, ?_⟩
  apply List.pairwise_append.mpr
  refine ⟨ordered, List.pairwise_singleton _ _, ?_⟩
  intro time member bound isBound
  rw [List.mem_singleton.mp isBound]
  have bounded : id time ≤ (calls.map EmitCall.now).toFinset.sup id :=
    Finset.le_sup (List.mem_toFinset.mpr member)
  exact bounded

end Runs

/-- Every run of calls in the order of the clock keeps the limiter sound. -/
theorem soundLimiter (maxKeys ttl : Nat) (calls : List EmitCall)
    (ordered : (calls.map EmitCall.now).Pairwise (· ≤ ·)) : SoundLimiter maxKeys ttl calls := by
  have tracked : ∀ before after, calls = before ++ after →
      ∃ now, Tracks ttl now (emissions ttl (.withCap maxKeys) before) (mapAfter maxKeys ttl before) ∧
        (mapAfter maxKeys ttl before).entries.keys.length ≤ maxKeys := by
    rintro before after rfl
    rw [List.map_append] at ordered
    obtain ⟨now, orderedNow⟩ := exists_later (List.pairwise_append.mp ordered).1
    exact ⟨now, tracks_mapAfter orderedNow⟩
  constructor
  case sameKeys =>
    intro before after split
    obtain ⟨_, tracks, _⟩ := tracked before after split
    exact tracks.sameKeys
  case queuedOnce =>
    intro before after split
    obtain ⟨_, tracks, _⟩ := tracked before after split
    exact tracks.queuedOnce
  case atMost =>
    intro before after split
    obtain ⟨_, _, atMost⟩ := tracked before after split
    exact atMost
  case apart =>
    rintro before first middle second after rfl same emits again soon
    apply apart_of_ordered _ same emits again soon
    have front : (before ++ first :: middle) ++ [second] <+:
        before ++ first :: (middle ++ second :: after) := ⟨after, by simp⟩
    have sorted := ordered.sublist (front.map EmitCall.now).sublist
    rwa [List.map_append] at sorted

/-- With room for one key, a key is emitted again behind another one. -/
theorem soundLimiter_full :
    ([⟨"a", 0⟩, ⟨"b", 1⟩, ⟨"a", 2⟩] : List EmitCall).map EmitCall.now = [0, 1, 2] ∧
      EmitsAt 1 10 [⟨"a", 0⟩, ⟨"b", 1⟩] ⟨"a", 2⟩ ∧
      SoundLimiter 1 10 [⟨"a", 0⟩, ⟨"b", 1⟩, ⟨"a", 2⟩] := by
  exact ⟨rfl, by decide, soundLimiter 1 10 _ (by decide)⟩

end DlpSystem.Hook
