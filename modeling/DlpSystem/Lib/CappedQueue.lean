import Mathlib.Data.List.AList
import Mathlib.Data.List.Perm.Basic

/-!
# A map with a queue of its keys

New keys of a map go to the back of a queue.  While the queue is longer than a cap, its front
goes, and the map loses that key.
-/

namespace DlpSystem.Lib

variable {κ ν : Type}

/-- An item and the others of its list. -/
theorem perm_of_getElem? {α : Type} {items : List α} {index : Nat} {item : α}
    (found : items[index]? = some item) : items.Perm (item :: items.eraseIdx index) := by
  obtain ⟨inside, rfl⟩ := List.getElem?_eq_some_iff.mp found
  exact (List.getElem_cons_eraseIdx_perm inside).symm

/-- Keys that are to be queued: one of them at the back of the queue, and the others. -/
theorem perm_push (queue : List κ) {unpushed : List κ} {index : Nat} {key : κ}
    (found : unpushed[index]? = some key) :
    (queue ++ unpushed).Perm (queue ++ [key] ++ unpushed.eraseIdx index) := by
  rw [List.append_assoc]
  exact (perm_of_getElem? found).append_left queue

/-- The keys of a map are those in the queue and those that have yet to be queued, each once. -/
structure QueuesKeys (entries : AList fun _ : κ => ν) (queue unpushed : List κ) : Prop where
  nodup : (queue ++ unpushed).Nodup
  mem_iff : ∀ key, key ∈ queue ++ unpushed ↔ key ∈ entries

namespace QueuesKeys

theorem nil : QueuesKeys (∅ : AList fun _ : κ => ν) [] [] where
  nodup := List.nodup_nil
  mem_iff := fun key => by simp

/-- A key goes into a queue that does not evict. -/
theorem push_of_room {entries : AList fun _ : κ => ν} {queue unpushed : List κ} {key : κ}
    (queues : QueuesKeys entries queue unpushed) {index : Nat}
    (found : unpushed[index]? = some key) :
    QueuesKeys entries (queue ++ [key]) (unpushed.eraseIdx index) where
  nodup := (perm_push queue found).nodup_iff.mp queues.nodup
  mem_iff := fun other => (perm_push queue found).mem_iff.symm.trans (queues.mem_iff other)

end QueuesKeys

/-! ## Pushes -/

variable [DecidableEq κ]

/-- The front of a queue goes while the queue is too long. -/
def evictOver (maxKeys : Nat) (entries : AList fun _ : κ => ν) :
    List κ → (AList fun _ : κ => ν) × List κ
  | [] => (entries, [])
  | oldest :: rest =>
      if maxKeys < (oldest :: rest).length then evictOver maxKeys (entries.erase oldest) rest
      else (entries, oldest :: rest)

/-- A key goes to the back of the queue. -/
def pushKey (maxKeys : Nat) (entries : AList fun _ : κ => ν) (queue : List κ) (key : κ) :
    (AList fun _ : κ => ν) × List κ :=
  evictOver maxKeys entries (queue ++ [key])

variable {maxKeys : Nat} {entries : AList fun _ : κ => ν} {queue : List κ} {key : κ}

theorem evictOver_of_le (fits : queue.length ≤ maxKeys) :
    evictOver maxKeys entries queue = (entries, queue) := by
  cases queue with
  | nil => rfl
  | cons oldest rest => rw [evictOver, if_neg (Nat.not_lt.mpr fits)]

/-- A queue with room takes the key. -/
theorem pushKey_of_lt (room : queue.length < maxKeys) :
    pushKey maxKeys entries queue key = (entries, queue ++ [key]) := by
  rw [pushKey, evictOver_of_le]
  rw [List.length_append]
  exact room

/-- A full queue loses the key in front. -/
theorem pushKey_of_full {oldest : κ} {rest : List κ} (full : rest.length = maxKeys)
    (front : queue ++ [key] = oldest :: rest) :
    pushKey maxKeys entries queue key = (entries.erase oldest, rest) := by
  have tooMany : maxKeys < (oldest :: rest).length := by
    rw [List.length_cons, full]
    exact Nat.lt_succ_self maxKeys
  rw [pushKey, front, evictOver, if_pos tooMany, evictOver_of_le (Nat.le_of_eq full)]

/-- What a push does to a queue within its cap. -/
theorem pushKey_cases (entries : AList fun _ : κ => ν) (key : κ)
    (fits : queue.length ≤ maxKeys) :
    (queue.length < maxKeys ∧ pushKey maxKeys entries queue key = (entries, queue ++ [key])) ∨
      ∃ oldest rest, queue ++ [key] = oldest :: rest ∧ rest.length = maxKeys ∧
        pushKey maxKeys entries queue key = (entries.erase oldest, rest) := by
  rcases Nat.lt_or_ge queue.length maxKeys with room | full
  · exact Or.inl ⟨room, pushKey_of_lt room⟩
  · cases front : queue ++ [key] with
    | nil => exact absurd front (by simp)
    | cons oldest rest =>
        have length : queue.length + 1 = rest.length + 1 := by
          simpa using congrArg List.length front
        have isFull : rest.length = maxKeys := by omega
        exact Or.inr ⟨oldest, rest, rfl, isFull, pushKey_of_full isFull front⟩

/-! ## Keys on their way into the queue -/

namespace QueuesKeys

variable {unpushed : List κ}

/-- A new key of the map has yet to be queued. -/
theorem insert_new (queues : QueuesKeys entries queue unpushed) (absent : key ∉ entries)
    (value : ν) : QueuesKeys (entries.insert key value) queue (unpushed ++ [key]) where
  nodup := by
    rw [← List.append_assoc]
    refine List.nodup_append.mpr ⟨queues.nodup, List.nodup_singleton key, ?_⟩
    rintro other known _ isKey rfl
    exact absent ((queues.mem_iff key).mp (List.mem_singleton.mp isKey ▸ known))
  mem_iff := by
    intro other
    rw [← List.append_assoc, List.mem_append, List.mem_singleton, AList.mem_insert,
      queues.mem_iff, or_comm]

/-- A key that is there stays where it is. -/
theorem insert_present (queues : QueuesKeys entries queue unpushed) (present : key ∈ entries)
    (value : ν) : QueuesKeys (entries.insert key value) queue unpushed where
  nodup := queues.nodup
  mem_iff := by
    intro other
    rw [queues.mem_iff, AList.mem_insert, iff_or_self]
    rintro rfl
    exact present

/-- The key in front goes, and with it its entry. -/
theorem evict {oldest : κ} {rest : List κ}
    (queues : QueuesKeys entries (oldest :: rest) unpushed) :
    QueuesKeys (entries.erase oldest) rest unpushed where
  nodup := (List.nodup_cons.mp queues.nodup).2
  mem_iff := by
    intro other
    rw [AList.mem_erase, ← queues.mem_iff, List.cons_append, List.mem_cons]
    constructor
    · intro member
      refine ⟨?_, Or.inr member⟩
      rintro rfl
      exact (List.nodup_cons.mp queues.nodup).1 member
    · rintro ⟨differs, same | member⟩
      · exact absurd same differs
      · exact member

end QueuesKeys

end DlpSystem.Lib
