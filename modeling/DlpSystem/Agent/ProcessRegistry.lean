import DlpSystem.Lib.EventRun
import Mathlib.Data.List.AList

/-!
# The registry of processes

`ProcessRegistry`: what the agent knows about each process, under the pid and the creation
time.  The map is bounded; an insertion evicts entries until it is small enough.
-/

namespace DlpSystem.Agent

/-- `ProcessKey`. -/
structure ProcessKey where
  pid : UInt32
  creationTime : UInt64
  deriving DecidableEq

/-- `PplOutcome`. -/
inductive PplOutcome
  | protectedProcess
  | likelyProtectedAccessDenied
  | queryFailed
  | notProtected
  deriving DecidableEq

/-- `InjectionFailure`. -/
inductive InjectionFailure
  | accessDenied
  | remoteThreadFailed
  | injectionFailed
  | timeout
  deriving DecidableEq

/-- `SkipReason`. -/
inductive SkipReason
  | selfProcess
  | avedr
  | systemCritical
  | ppl (outcome : PplOutcome)
  | woW64
  | operatorDefined
  | failed (failure : InjectionFailure)
  deriving DecidableEq

/-- `ProcessState`. -/
inductive ProcessState
  | discovered
  | skipped (reason : SkipReason)
  | injected (arch : String) (injectedAt : Nat) (helloReceivedAt : Option Nat)
  | exited
  deriving DecidableEq

namespace ProcessState

def isInjected : ProcessState → Bool
  | .injected _ _ _ => true
  | _ => false

/-- The priority of eviction: the smallest goes first. -/
def evictionPriority : ProcessState → Nat
  | .exited | .skipped (.failed _) => 0
  | .skipped _ => 1
  | .discovered => 2
  | .injected _ _ none => 3
  | .injected _ _ (some _) => 4

end ProcessState

/-- `ClaimResult`. -/
inductive ClaimResult
  | claimed
  | alreadyClaimed (state : ProcessState)
  deriving DecidableEq

/-- `ProcessEntry`. -/
structure ProcessEntry where
  state : ProcessState
  seq : Nat
  deriving DecidableEq

/-- `MAX_REGISTRY_SIZE`. -/
def maxRegistrySize : Nat := 1000

/-- `ProcessRegistry`, with what went over the channel of the lifecycle notifier. -/
structure ProcessRegistry where
  states : AList fun _ : ProcessKey => ProcessEntry
  nextSeq : Nat
  notifications : List ProcessKey
  /-- History: one key for each time that an entry stopped being `Injected`. -/
  departures : List ProcessKey

namespace ProcessRegistry

/-- `ProcessRegistry::new`. -/
def new : ProcessRegistry where
  states := ∅
  nextSeq := 0
  notifications := []
  departures := []

/-- `get`. -/
def get (registry : ProcessRegistry) (key : ProcessKey) : Option ProcessState :=
  (registry.states.lookup key).map ProcessEntry.state

def isInjected (registry : ProcessRegistry) (key : ProcessKey) : Bool :=
  (registry.get key).any ProcessState.isInjected

def size (registry : ProcessRegistry) : Nat :=
  registry.states.entries.length

/-- A write of an entry to the map. -/
def put (registry : ProcessRegistry) (key : ProcessKey) (entry : ProcessEntry) :
    ProcessRegistry :=
  { registry with
    states := registry.states.insert key entry
    departures :=
      if registry.isInjected key && !entry.state.isInjected then registry.departures ++ [key]
      else registry.departures }

/-- A removal from the map. -/
def remove (registry : ProcessRegistry) (key : ProcessKey) : ProcessRegistry :=
  { registry with
    states := registry.states.erase key
    departures :=
      if registry.isInjected key then registry.departures ++ [key] else registry.departures }

/-- `try_send` on the channel of the notifier, which never fills. -/
def notify (registry : ProcessRegistry) (key : ProcessKey) : ProcessRegistry :=
  { registry with notifications := registry.notifications ++ [key] }

/-- The entry to evict among those seen so far: its key, priority and sequence number. -/
def considerVictim (victim : Option (ProcessKey × Nat × Nat))
    (entry : Sigma fun _ : ProcessKey => ProcessEntry) : Option (ProcessKey × Nat × Nat) :=
  let priority := entry.2.state.evictionPriority
  let seq := entry.2.seq
  match victim with
  | some (_, victimPriority, victimSeq) =>
      if priority < victimPriority ∨ (priority = victimPriority ∧ seq < victimSeq) then
        some (entry.1, priority, seq)
      else victim
  | none => some (entry.1, priority, seq)

/-- The key that the scan of `enforce_cap` comes to. -/
def victimKey (registry : ProcessRegistry) : Option ProcessKey :=
  (registry.states.entries.foldl considerVictim none).map Prod.fst

/-- One round of `enforce_cap`. -/
def evict (registry : ProcessRegistry) (key : ProcessKey) : ProcessRegistry :=
  (if registry.isInjected key then registry.notify key else registry).remove key

/-- The loop of `enforce_cap`. -/
def enforceCapLoop : Nat → ProcessRegistry → ProcessRegistry
  | 0, registry => registry
  | rounds + 1, registry =>
      if maxRegistrySize < registry.size then
        match registry.victimKey with
        | some key => enforceCapLoop rounds (registry.evict key)
        | none => registry
      else registry

/-- `enforce_cap`.  Each round removes an entry, so there are no more rounds than entries. -/
def enforceCap (registry : ProcessRegistry) : ProcessRegistry :=
  enforceCapLoop registry.size registry

/-- A write with a new sequence number, as `bump_seq` gives it. -/
def putNew (registry : ProcessRegistry) (key : ProcessKey) (state : ProcessState) :
    ProcessRegistry :=
  { registry.put key ⟨state, registry.nextSeq⟩ with nextSeq := registry.nextSeq + 1 }

/-- `insert_with_eviction`. -/
def insertWithEviction (registry : ProcessRegistry) (key : ProcessKey) (state : ProcessState) :
    ProcessRegistry :=
  (registry.putNew key state).enforceCap

/-- `try_claim`. -/
def tryClaim (registry : ProcessRegistry) (key : ProcessKey) : ClaimResult × ProcessRegistry :=
  match registry.get key with
  | none => (.claimed, registry.putNew key .discovered)
  | some state => (.alreadyClaimed state, registry)

/-- `record_injected`. -/
def recordInjected (registry : ProcessRegistry) (key : ProcessKey) (arch : String)
    (now : Nat) : ProcessRegistry :=
  registry.insertWithEviction key (.injected arch now none)

/-- `record_hello`. -/
def recordHello (registry : ProcessRegistry) (key : ProcessKey) (now : Nat) : ProcessRegistry :=
  match registry.states.lookup key with
  | some ⟨.injected arch injectedAt _, seq⟩ =>
      registry.put key ⟨.injected arch injectedAt (some now), seq⟩
  | _ => registry

/-- `record_skipped`. -/
def recordSkipped (registry : ProcessRegistry) (key : ProcessKey) (reason : SkipReason) :
    ProcessRegistry :=
  registry.insertWithEviction key (.skipped reason)

/-- `record_exited`.  It does not look at the state before. -/
def recordExited (registry : ProcessRegistry) (key : ProcessKey) : ProcessRegistry :=
  (registry.insertWithEviction key .exited).notify key

/-- `record_unhooked`. -/
def recordUnhooked (registry : ProcessRegistry) (key : ProcessKey) : ProcessRegistry :=
  match registry.states.lookup key with
  | some ⟨.injected _ _ _, seq⟩ => (registry.put key ⟨.exited, seq⟩).notify key
  | _ => registry

/-- The keys that `prune_exited` collects. -/
def exitedKeys (registry : ProcessRegistry) : List ProcessKey :=
  (registry.states.entries.filter fun entry => decide (entry.2.state = .exited)).map Sigma.fst

/-- `prune_exited`. -/
def pruneExited (registry : ProcessRegistry) : ProcessRegistry :=
  registry.exitedKeys.foldl remove registry

end ProcessRegistry

/-- The calls of the registry. -/
inductive RegistryCall
  | tryClaim (key : ProcessKey)
  | recordInjected (key : ProcessKey) (arch : String) (now : Nat)
  | recordHello (key : ProcessKey) (now : Nat)
  | recordSkipped (key : ProcessKey) (reason : SkipReason)
  | recordExited (key : ProcessKey)
  | recordUnhooked (key : ProcessKey)
  | pruneExited
  deriving DecidableEq

namespace ProcessRegistry

/-- One call, whichever thread makes it. -/
def next (registry : ProcessRegistry) : RegistryCall → ProcessRegistry
  | .tryClaim key => (registry.tryClaim key).2
  | .recordInjected key arch now => registry.recordInjected key arch now
  | .recordHello key now => registry.recordHello key now
  | .recordSkipped key reason => registry.recordSkipped key reason
  | .recordExited key => registry.recordExited key
  | .recordUnhooked key => registry.recordUnhooked key
  | .pruneExited => registry.pruneExited

/-! ## The entry of a key -/

variable (registry : ProcessRegistry)

theorem get_put (key other : ProcessKey) (entry : ProcessEntry) :
    (registry.put key entry).get other =
      if other = key then some entry.state else registry.get other := by
  by_cases same : other = key
  · rw [if_pos same, same, get, put, AList.lookup_insert]
    rfl
  · rw [if_neg same, get, put, AList.lookup_insert_ne same, get]

theorem get_remove (key other : ProcessKey) :
    (registry.remove key).get other = if other = key then none else registry.get other := by
  by_cases same : other = key
  · rw [if_pos same, same, get, remove, AList.lookup_erase]
    rfl
  · rw [if_neg same, get, remove, AList.lookup_erase_ne same, get]

@[simp]
theorem get_notify (key other : ProcessKey) :
    (registry.notify key).get other = registry.get other := rfl

theorem get_putNew (key other : ProcessKey) (state : ProcessState) :
    (registry.putNew key state).get other =
      if other = key then some state else registry.get other :=
  registry.get_put key other _

theorem get_evict (key other : ProcessKey) :
    (registry.evict key).get other = if other = key then none else registry.get other := by
  unfold evict
  rw [get_remove]
  split
  · rfl
  · split <;> rfl

theorem get_foldl_remove (keys : List ProcessKey) (key : ProcessKey) :
    (keys.foldl remove registry).get key = if key ∈ keys then none else registry.get key := by
  induction keys generalizing registry with
  | nil => simp
  | cons first rest ih =>
      rw [List.foldl_cons, ih, get_remove]
      simp only [List.mem_cons]
      by_cases later : key ∈ rest
      · simp [later]
      · simp [later]

theorem mem_exitedKeys {key : ProcessKey} :
    key ∈ registry.exitedKeys ↔ registry.get key = some .exited := by
  rw [exitedKeys, get, List.mem_map, Option.map_eq_some_iff]
  constructor
  · rintro ⟨⟨_, entry⟩, member, rfl⟩
    obtain ⟨present, exited⟩ := List.mem_filter.mp member
    exact ⟨entry, AList.mem_lookup_iff.mpr present, of_decide_eq_true exited⟩
  · rintro ⟨entry, present, exited⟩
    exact ⟨⟨key, entry⟩, List.mem_filter.mpr ⟨AList.mem_lookup_iff.mp present,
      decide_eq_true exited⟩, rfl⟩

theorem get_pruneExited (key : ProcessKey) :
    registry.pruneExited.get key =
      if registry.get key = some .exited then none else registry.get key := by
  rw [pruneExited, get_foldl_remove]
  simp only [mem_exitedKeys]

/-- The cap removes entries, and changes none. -/
theorem get_enforceCapLoop (rounds : Nat) (key : ProcessKey) :
    (enforceCapLoop rounds registry).get key = registry.get key ∨
      (enforceCapLoop rounds registry).get key = none ∧ maxRegistrySize < registry.size := by
  induction rounds generalizing registry with
  | zero => exact .inl rfl
  | succ rounds ih =>
      rw [enforceCapLoop]
      split
      · rename_i full
        split
        · rename_i victim _
          rcases ih (registry.evict victim) with kept | ⟨gone, -⟩
          · rw [kept, get_evict]
            split
            · exact .inr ⟨rfl, full⟩
            · exact .inl rfl
          · exact .inr ⟨gone, full⟩
        · exact .inl rfl
      · exact .inl rfl

theorem get_enforceCap (key : ProcessKey) :
    registry.enforceCap.get key = registry.get key ∨
      registry.enforceCap.get key = none ∧ maxRegistrySize < registry.size :=
  registry.get_enforceCapLoop registry.size key

/-! ## The cap -/

theorem considerVictim_key (seen : Option (ProcessKey × Nat × Nat))
    (entry : Sigma fun _ : ProcessKey => ProcessEntry) :
    ∃ key, (considerVictim seen entry).map Prod.fst = some key ∧
      (seen.map Prod.fst = some key ∨ key = entry.1) := by
  cases seen with
  | none => exact ⟨entry.1, rfl, .inr rfl⟩
  | some victim =>
      simp only [considerVictim]
      split
      · exact ⟨entry.1, rfl, .inr rfl⟩
      · exact ⟨victim.1, rfl, .inl rfl⟩

/-- The scan comes to the key of one of the entries, or stays with the one it starts from. -/
theorem foldl_considerVictim (entries : List (Sigma fun _ : ProcessKey => ProcessEntry))
    (seen : Option (ProcessKey × Nat × Nat)) (startsFrom : seen.isSome = true ∨ entries ≠ []) :
    ∃ key, (entries.foldl considerVictim seen).map Prod.fst = some key ∧
      (seen.map Prod.fst = some key ∨ ∃ entry ∈ entries, key = entry.1) := by
  induction entries generalizing seen with
  | nil =>
      obtain ⟨victim, rfl⟩ := Option.isSome_iff_exists.mp (startsFrom.resolve_right (· rfl))
      exact ⟨victim.1, rfl, .inl rfl⟩
  | cons first rest ih =>
      obtain ⟨considered, here, source⟩ := considerVictim_key seen first
      obtain ⟨key, chosen, origin⟩ := ih (considerVictim seen first)
        (.inl (by rw [← Option.isSome_map, here]; rfl))
      refine ⟨key, chosen, ?_⟩
      rcases origin with before | ⟨entry, member, same⟩
      · cases here.symm.trans before
        rcases source with earlier | same
        · exact .inl earlier
        · exact .inr ⟨first, List.mem_cons_self, same⟩
      · exact .inr ⟨entry, List.mem_cons_of_mem first member, same⟩

theorem exists_victimKey (present : registry.states.entries ≠ []) :
    ∃ key ∈ registry.states, registry.victimKey = some key := by
  obtain ⟨key, chosen, source⟩ :=
    foldl_considerVictim registry.states.entries none (.inr present)
  rcases source with nothing | ⟨entry, member, rfl⟩
  · cases nothing
  · exact ⟨entry.1, AList.mem_keys.mpr (List.mem_keys_of_mem member), chosen⟩

theorem size_evict {key : ProcessKey} (present : key ∈ registry.states) :
    (registry.evict key).size + 1 = registry.size := by
  have erased : (registry.evict key).states = registry.states.erase key := by
    unfold evict
    split <;> rfl
  obtain ⟨entry, before, after, -, whole, rest⟩ := List.exists_of_kerase (AList.mem_keys.mp present)
  have entries : (registry.states.erase key).entries = before ++ after := rest
  rw [size, size, erased, entries, whole]
  simp only [List.length_append, List.length_cons]
  omega

/-- The loop ends with a map that is small enough. -/
theorem size_enforceCapLoop {rounds : Nat} (enough : registry.size ≤ maxRegistrySize + rounds) :
    (enforceCapLoop rounds registry).size ≤ maxRegistrySize := by
  induction rounds generalizing registry with
  | zero => exact enough
  | succ rounds ih =>
      rw [enforceCapLoop]
      split
      · rename_i full
        have present : registry.states.entries ≠ [] := by
          intro empty
          rw [size, empty] at full
          exact absurd full (by decide)
        obtain ⟨key, member, victim⟩ := registry.exists_victimKey present
        rw [victim]
        apply ih
        have fewer := registry.size_evict member
        omega
      · rename_i small
        exact Nat.not_lt.mp small

/-- `enforce_cap` bounds the map. -/
theorem size_enforceCap : registry.enforceCap.size ≤ maxRegistrySize :=
  registry.size_enforceCapLoop (Nat.le_add_left _ _)

end ProcessRegistry

end DlpSystem.Agent
