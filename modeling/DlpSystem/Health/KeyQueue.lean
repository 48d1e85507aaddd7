import DlpSystem.Lib.EventRun
import DlpSystem.Server.SnapshotStores
import Mathlib.Data.Finset.Dedup
import Mathlib.Data.Finset.Card

/-!
# The keys of the diagnostics store

Once all calls have returned, the queue should hold the keys of the map, and a key should only
go when enough others came after it.  An ingest decides whether its key is new before it
appends, and acts on it afterwards.
-/

namespace DlpSystem.Health

open Ipc Lib Server

/-- The queue holds the keys of the map, each once, and the store is within its caps. -/
structure KeepsKeys (store : DiagnosticSnapshotStore) : Prop where
  nodup : store.keyQueue.Nodup
  mem_iff : ∀ key, key ∈ store.keyQueue ↔ key ∈ store.snapshots
  maxKeys : store.keyQueue.length ≤ store.maxKeys
  maxEntries : ∀ key entry, store.snapshots.lookup key = some entry →
    entry.length ≤ store.maxEntriesPerDll

/-- The calls so far, and the keys in the order in which they were first ingested: a key is
when it is queued. -/
structure DiagnosticHistory where
  ingests : DiagnosticIngests
  queued : List String

namespace DiagnosticHistory

def start (maxEntriesPerDll maxKeys : Nat) : DiagnosticHistory :=
  ⟨.start maxEntriesPerDll maxKeys, []⟩

/-- The key that a step queues. -/
def queuedBy (history : DiagnosticHistory) : DiagnosticStep → List String
  | .check _ _ _ => []
  | .append _ => []
  | .push index => history.ingests.unpushed[index]?.toList

def next (history : DiagnosticHistory) (step : DiagnosticStep) : DiagnosticHistory :=
  ⟨history.ingests.next step, history.queued ++ history.queuedBy step⟩

/-- A key that the step evicts has enough other keys behind it. -/
def EvictsLate (history : DiagnosticHistory) (step : DiagnosticStep) : Prop :=
  ∀ key ∈ history.ingests.store.snapshots,
    key ∉ (history.next step).ingests.store.snapshots →
      ∃ earlier later, (history.next step).queued = earlier ++ key :: later ∧ key ∉ later ∧
        history.ingests.store.maxKeys ≤ later.toFinset.card

/-- A call finds its key absent only when no other that found it absent has yet to append, and
a call that found its key present appends while it is. -/
def IsOrderly (history : DiagnosticHistory) : DiagnosticStep → Prop
  | .check agentId pid newSnapshots =>
      ∀ call, history.ingests.store.checkKey agentId pid newSnapshots = some call →
        call.isNewKey = true →
          ∀ other ∈ history.ingests.checked, other.isNewKey = true → other.key ≠ call.key
  | .append index =>
      ∀ call, history.ingests.checked[index]? = some call → call.isNewKey = false →
        call.key ∈ history.ingests.store.snapshots
  | .push _ => True

instance (history : DiagnosticHistory) :
    (step : DiagnosticStep) → Decidable (history.IsOrderly step)
  | .check agentId pid newSnapshots =>
      inferInstanceAs (Decidable (∀ call ∈ history.ingests.store.checkKey agentId pid newSnapshots,
        call.isNewKey = true →
          ∀ other ∈ history.ingests.checked, other.isNewKey = true → other.key ≠ call.key))
  | .append index =>
      inferInstanceAs (Decidable (∀ call ∈ history.ingests.checked[index]?, call.isNewKey = false →
        call.key ∈ history.ingests.store.snapshots))
  | .push _ => .isTrue trivial

/-- The map holds the queued keys and those that are to be queued, and calls that take their
key for new are right. -/
structure Tracks (history : DiagnosticHistory) : Prop where
  queues : QueuesKeys history.ingests.store.snapshots history.ingests.store.keyQueue
    history.ingests.unpushed
  fresh : ∀ call ∈ history.ingests.checked, call.isNewKey = true →
    call.key ∉ history.ingests.store.snapshots
  apart : history.ingests.checked.Pairwise fun call other =>
    call.isNewKey = true → other.isNewKey = true → call.key ≠ other.key
  maxKeys : history.ingests.store.keyQueue.length ≤ history.ingests.store.maxKeys
  maxEntries : ∀ key entry, history.ingests.store.snapshots.lookup key = some entry →
    entry.length ≤ history.ingests.store.maxEntriesPerDll
  recent : history.ingests.store.keyQueue <:+ history.queued

section Steps

variable {history : DiagnosticHistory}

theorem tracks_start (maxEntriesPerDll maxKeys : Nat) :
    Tracks (start maxEntriesPerDll maxKeys) where
  queues := QueuesKeys.nil
  fresh := fun _ member => by cases member
  apart := List.Pairwise.nil
  maxKeys := Nat.zero_le _
  maxEntries := by
    intro key entry found
    simp [start, DiagnosticIngests.start, DiagnosticSnapshotStore.withCaps] at found
  recent := List.suffix_refl _

/-! ## Checks -/

theorem next_check (history : DiagnosticHistory) (agentId : String) (pid : UInt32)
    (newSnapshots : List DiagnosticSnapshot) :
    history.next (.check agentId pid newSnapshots) =
      { history with
        ingests := { history.ingests with
          checked := history.ingests.checked ++
            (history.ingests.store.checkKey agentId pid newSnapshots).toList } } := by
  rw [next, queuedBy, List.append_nil]
  rfl

/-- A call goes on with what it found about its key. -/
theorem isNewKey_of_checkKey {store : DiagnosticSnapshotStore} {agentId : String} {pid : UInt32}
    {newSnapshots : List DiagnosticSnapshot} {call : CheckedIngest}
    (checked : store.checkKey agentId pid newSnapshots = some call) (isNew : call.isNewKey = true) :
    call.key ∉ store.snapshots := by
  rw [DiagnosticSnapshotStore.checkKey] at checked
  split at checked
  · cases checked
  · cases checked
    exact of_decide_eq_true isNew

theorem Tracks.check (tracks : Tracks history) {agentId : String} {pid : UInt32}
    {newSnapshots : List DiagnosticSnapshot}
    (orderly : history.IsOrderly (.check agentId pid newSnapshots)) :
    Tracks (history.next (.check agentId pid newSnapshots)) := by
  rw [next_check]
  refine { tracks with fresh := ?_, apart := ?_ }
  · intro call member isNew
    rcases List.mem_append.mp member with before | this
    · exact tracks.fresh call before isNew
    · exact isNewKey_of_checkKey (Option.mem_toList.mp this) isNew
  · refine List.pairwise_append.mpr ⟨tracks.apart, ?_, ?_⟩
    · cases history.ingests.store.checkKey agentId pid newSnapshots with
      | none => exact List.Pairwise.nil
      | some call => exact List.pairwise_singleton ..
    · intro other before call this otherNew isNew
      exact orderly call (Option.mem_toList.mp this) isNew other before otherNew

/-! ## Appends -/

theorem next_append_none {index : Nat} (absent : history.ingests.checked[index]? = none) :
    history.next (.append index) = history := by
  rw [next, queuedBy, List.append_nil, DiagnosticIngests.next, absent]

theorem next_append {index : Nat} {call : CheckedIngest}
    (found : history.ingests.checked[index]? = some call) :
    history.next (.append index) =
      { history with
        ingests :=
          { store := history.ingests.store.append call
            checked := history.ingests.checked.eraseIdx index
            unpushed := history.ingests.unpushed ++ if call.isNewKey then [call.key] else [] } } := by
  rw [next, queuedBy, List.append_nil, DiagnosticIngests.next, found]

theorem mem_append_snapshots {store : DiagnosticSnapshotStore} {call : CheckedIngest}
    {key : String} : key ∈ (store.append call).snapshots ↔ key = call.key ∨ key ∈ store.snapshots :=
  AList.mem_insert _

/-- An append leaves the entries within their cap. -/
theorem length_le_of_append {store : DiagnosticSnapshotStore} {call : CheckedIngest}
    (within : ∀ key entry, store.snapshots.lookup key = some entry →
      entry.length ≤ store.maxEntriesPerDll) {key : String} {entry : List DiagnosticSnapshot}
    (found : (store.append call).snapshots.lookup key = some entry) :
    entry.length ≤ store.maxEntriesPerDll := by
  rw [DiagnosticSnapshotStore.append] at found
  by_cases same : key = call.key
  · rw [same, AList.lookup_insert] at found
    cases found
    exact store.length_appended_le ..
  · rw [AList.lookup_insert_ne same] at found
    exact within key entry found

theorem Tracks.append (tracks : Tracks history) {index : Nat}
    (orderly : history.IsOrderly (.append index)) : Tracks (history.next (.append index)) := by
  cases found : history.ingests.checked[index]? with
  | none =>
      rw [next_append_none found]
      exact tracks
  | some call =>
      have others := perm_of_getElem? found
      have callMember : call ∈ history.ingests.checked := List.mem_of_getElem? found
      have apart := (others.pairwise_iff fun {_ _} differ isNew otherNew =>
        (differ otherNew isNew).symm).mp tracks.apart
      obtain ⟨callApart, othersApart⟩ := List.pairwise_cons.mp apart
      rw [next_append found]
      cases isNew : call.isNewKey with
      | true =>
          have absent := tracks.fresh call callMember isNew
          refine ⟨?_, ?_, othersApart, tracks.maxKeys, ?_, tracks.recent⟩
          · rw [if_pos rfl]
            exact tracks.queues.insert_new absent _
          · intro other member otherNew
            have isOther := others.mem_iff.mpr (List.mem_cons_of_mem call member)
            rw [mem_append_snapshots, not_or]
            exact ⟨(callApart other member isNew otherNew).symm,
              tracks.fresh other isOther otherNew⟩
          · intro key entry
            exact length_le_of_append tracks.maxEntries
      | false =>
          have present := orderly call found isNew
          refine ⟨?_, ?_, othersApart, tracks.maxKeys, ?_, tracks.recent⟩
          · rw [if_neg Bool.false_ne_true, List.append_nil]
            exact tracks.queues.insert_present present _
          · intro other member otherNew
            have absent := tracks.fresh other
              (others.mem_iff.mpr (List.mem_cons_of_mem call member)) otherNew
            rw [mem_append_snapshots, not_or]
            exact ⟨fun same => absent (same ▸ present), absent⟩
          · intro key entry
            exact length_le_of_append tracks.maxEntries

/-! ## Pushes -/

theorem next_push_none {index : Nat} (absent : history.ingests.unpushed[index]? = none) :
    history.next (.push index) = history := by
  rw [next, queuedBy, absent, DiagnosticIngests.next, absent]
  exact congrArg (DiagnosticHistory.mk _) (List.append_nil _)

theorem next_push {index : Nat} {key : String}
    (found : history.ingests.unpushed[index]? = some key) :
    history.next (.push index) =
      ⟨{ history.ingests with
          store := history.ingests.store.push key
          unpushed := history.ingests.unpushed.eraseIdx index },
        history.queued ++ [key]⟩ := by
  rw [next, queuedBy, found, DiagnosticIngests.next, found]
  rfl

/-- A push adds its key to the queue, or also takes the oldest one away. -/
theorem Tracks.push_cases (tracks : Tracks history) (key : String) :
    (history.ingests.store.push key =
        { history.ingests.store with keyQueue := history.ingests.store.keyQueue ++ [key] } ∧
      history.ingests.store.keyQueue.length < history.ingests.store.maxKeys) ∨
    ∃ oldest rest, history.ingests.store.keyQueue ++ [key] = oldest :: rest ∧
      rest.length = history.ingests.store.maxKeys ∧
      history.ingests.store.push key =
        { history.ingests.store with
          snapshots := history.ingests.store.snapshots.erase oldest
          keyQueue := rest } := by
  rcases pushKey_cases history.ingests.store.snapshots key tracks.maxKeys with
    ⟨room, pushed⟩ | ⟨oldest, rest, front, full, pushed⟩
  · left
    rw [DiagnosticSnapshotStore.push, pushed]
    exact ⟨rfl, room⟩
  · right
    refine ⟨oldest, rest, front, full, ?_⟩
    rw [DiagnosticSnapshotStore.push, pushed]

theorem Tracks.push (tracks : Tracks history) (index : Nat) :
    Tracks (history.next (.push index)) := by
  cases found : history.ingests.unpushed[index]? with
  | none =>
      rw [next_push_none found]
      exact tracks
  | some key =>
      have queues := tracks.queues.push_of_room found
      have recent : history.ingests.store.keyQueue ++ [key] <:+ history.queued ++ [key] :=
        List.suffix_append_self_iff.mpr tracks.recent
      rw [next_push found]
      rcases tracks.push_cases key with ⟨pushed, room⟩ | ⟨oldest, rest, front, full, pushed⟩
      · rw [pushed]
        refine ⟨queues, tracks.fresh, tracks.apart, ?_, tracks.maxEntries, recent⟩
        rw [List.length_append]
        exact room
      · rw [front] at queues recent
        rw [pushed]
        refine ⟨queues.evict, ?_, tracks.apart, Nat.le_of_eq full, ?_,
          (List.suffix_cons oldest rest).trans recent⟩
        · intro call member isNew present
          exact tracks.fresh call member isNew (AList.mem_erase.mp present).2
        · intro other entry lookup
          by_cases same : other = oldest
          · rw [same] at lookup
            change (history.ingests.store.snapshots.erase oldest).lookup oldest = _ at lookup
            rw [AList.lookup_erase] at lookup
            cases lookup
          · exact tracks.maxEntries other entry ((AList.lookup_erase_ne same).symm.trans lookup)

/-- Only a full queue evicts a key, and the others in it came later. -/
theorem Tracks.evictsLate (tracks : Tracks history) (step : DiagnosticStep) :
    history.EvictsLate step := by
  intro key present absent
  cases step with
  | check agentId pid newSnapshots =>
      rw [next_check] at absent
      exact absurd present absent
  | append index =>
      cases found : history.ingests.checked[index]? with
      | none =>
          rw [next_append_none found] at absent
          exact absurd present absent
      | some call =>
          rw [next_append found] at absent
          exact absurd (mem_append_snapshots.mpr (Or.inr present)) absent
  | push index =>
      cases found : history.ingests.unpushed[index]? with
      | none =>
          rw [next_push_none found] at absent
          exact absurd present absent
      | some pushedKey =>
          rw [next_push found] at absent ⊢
          rcases tracks.push_cases pushedKey with ⟨pushed, _⟩ | ⟨oldest, rest, front, full, pushed⟩
          · rw [pushed] at absent
            exact absurd present absent
          · rw [pushed] at absent
            have isOldest : key = oldest := by
              by_contra differs
              exact absent (AList.mem_erase.mpr ⟨differs, present⟩)
            have nodup := (tracks.queues.push_of_room found).nodup.of_append_left
            obtain ⟨earlier, recent⟩ := tracks.recent
            rw [front] at nodup
            obtain ⟨gone, kept⟩ := List.nodup_cons.mp nodup
            refine ⟨earlier, rest, ?_, isOldest ▸ gone, ?_⟩
            · show history.queued ++ [pushedKey] = _
              rw [← recent, List.append_assoc, front, isOldest]
            · rw [List.toFinset_card_of_nodup kept, full]

theorem Tracks.next (tracks : Tracks history) (step : DiagnosticStep)
    (orderly : history.IsOrderly step) : Tracks (history.next step) := by
  cases step with
  | check agentId pid newSnapshots => exact tracks.check orderly
  | append index => exact tracks.append orderly
  | push index => exact tracks.push index

theorem Tracks.keepsKeys (tracks : Tracks history) (returned : history.ingests.allReturned) :
    KeepsKeys history.ingests.store where
  nodup := tracks.queues.nodup.of_append_left
  mem_iff := by
    intro key
    have known := tracks.queues.mem_iff key
    rw [returned.2, List.append_nil] at known
    exact known
  maxKeys := tracks.maxKeys
  maxEntries := tracks.maxEntries

end Steps

/-- In an orderly run the store keeps its keys, and evicts none before its time. -/
theorem keepsKeys_of_isOrderly (maxEntriesPerDll maxKeys : Nat) {steps : List DiagnosticStep}
    (orderly : Each next IsOrderly (start maxEntriesPerDll maxKeys) steps) :
    Each next EvictsLate (start maxEntriesPerDll maxKeys) steps ∧
      ((steps.foldl next (start maxEntriesPerDll maxKeys)).ingests.allReturned →
        KeepsKeys (steps.foldl next (start maxEntriesPerDll maxKeys)).ingests.store) := by
  have preserved : ∀ history step, Tracks history → history.IsOrderly step →
      Tracks (history.next step) :=
    fun _ step tracks orderly => tracks.next step orderly
  constructor
  · exact orderly.imp_of_invariant preserved (fun _ step tracks _ => tracks.evictsLate step)
      (tracks_start maxEntriesPerDll maxKeys)
  · exact (orderly.invariant preserved (tracks_start maxEntriesPerDll maxKeys)).keepsKeys

/-- A snapshot of a file access. -/
def fileSnapshot : DiagnosticSnapshot :=
  ⟨"NtCreateFile", .pipe, 0, "C:\\a.txt", "read", "local", none, none, 1, 1, 1, "S-1-5-21-1"⟩

/-- Two processes that are ingested for the first time side by side, a third one, whose key
evicts the first one, and the second one again. -/
def threeProcesses : List DiagnosticStep :=
  [.check "A" 7 [fileSnapshot], .check "B" 8 [fileSnapshot], .append 1, .append 0, .push 1, .push 0,
    .check "C" 9 [fileSnapshot], .append 0, .push 0, .check "B" 8 [fileSnapshot], .append 0]

theorem keepsKeys_threeProcesses :
    (threeProcesses.foldl next (start 10 2)).ingests.store.keyQueue =
        [diagnosticKey "B" 8, diagnosticKey "C" 9] ∧
      KeepsKeys (threeProcesses.foldl next (start 10 2)).ingests.store := by
  refine ⟨by decide, ?_⟩
  exact (keepsKeys_of_isOrderly 10 2 (by decide)).2 (by decide)

/-- Two first ingests of a process that both find its key absent. -/
def twoFirstIngests : List DiagnosticStep :=
  [.check "A" 7 [fileSnapshot], .check "A" 7 [fileSnapshot], .append 0, .append 0, .push 0,
    .push 0]

/-- The key is queued twice. -/
theorem not_keepsKeys_twoFirstIngests :
    (twoFirstIngests.foldl next (start 10 3)).ingests.allReturned ∧
      ¬ KeepsKeys (twoFirstIngests.foldl next (start 10 3)).ingests.store := by
  constructor
  · decide
  · intro keeps
    have nodup := keeps.nodup
    revert nodup
    decide

end DiagnosticHistory

end DlpSystem.Health
