import DlpSystem.Hook.CachedLives
import DlpSystem.Hook.Decisions

/-!
# Expired entries behind the LRU

A classification that a call takes from the shared cache comes from an entry that has not
expired, and one that it takes from the LRU from the entry that an earlier call found; the
LRU compares the version of the cache, never the time.
-/

namespace DlpSystem.Hook

open Common Lib

/-! ## A thread with the lives of its LRU -/

/-- A call of `classify_and_log_path`, with the state of the process that it meets. -/
structure ThreadCall where
  env : HookEnv
  mode : FailModeState
  call : PathCall

/-- What a thread keeps, and the lives of the entries that its LRU was filled from. -/
structure TracedThread where
  locals : ThreadLocals
  lives : Vector (Option EntryLife) 128

namespace TracedThread

/-- Before its first call a thread has nothing of the shared cache. -/
def new : TracedThread :=
  ⟨ThreadLocals.new, Vector.replicate 128 none⟩

/-- What the shared cache answers to a call. -/
def sharedAnswer (thread : TracedThread) (event : ThreadCall) (mapping : Mapping) :
    Option (Classification × EntryLife) :=
  lookupAnswer event.env.target event.call.path event.env.nowSecs thread.locals.lastValidated
    mapping

/-- The lives after the shared cache was asked: an answer goes to the slot of the cursor. -/
def fill (thread : TracedThread) (event : ThreadCall) (mapping : Mapping)
    (lives : Vector (Option EntryLife) 128) : Vector (Option EntryLife) 128 :=
  match thread.sharedAnswer event mapping with
  | none => lives
  | some (_, life) => lives.set thread.locals.lru.cursor (some life)

/-- The lives after the LRU and the shared cache were asked. -/
def warmedLives (thread : TracedThread) (event : ThreadCall) : Vector (Option EntryLife) 128 :=
  match event.env.cache with
  | none => thread.lives
  | some mapping =>
      match thread.locals.lru.slotOf event.call.path with
      | none => thread.fill event mapping thread.lives
      | some (entry, index) =>
          if entry.version = mapping.versionWord >>> 1 then thread.lives
          else thread.fill event mapping (thread.lives.setIfInBounds index none)

/-- The thread after a call. -/
def next (thread : TracedThread) (event : ThreadCall) : TracedThread where
  locals := (classifyAndLogPath event.env event.mode thread.locals event.call).locals
  lives :=
    if event.call.IsClassified event.env then
      if event.mode.state = .resync then Vector.replicate 128 none
      else thread.warmedLives event
    else thread.lives

/-- The life of the entry behind the classification that a call uses. -/
def usedLife (thread : TracedThread) (event : ThreadCall) : Option EntryLife :=
  match event.env.cache with
  | none => none
  | some mapping =>
      match thread.locals.lru.slotOf event.call.path with
      | none => (thread.sharedAnswer event mapping).map Prod.snd
      | some (entry, index) =>
          if entry.version = mapping.versionWord >>> 1 then (thread.lives[index]?).join
          else (thread.sharedAnswer event mapping).map Prod.snd

/-- A classification that a call uses comes from an entry that has not expired. -/
def UsesFresh (thread : TracedThread) (event : ThreadCall) : Prop :=
  event.call.IsClassified event.env →
    event.call.cached event.env thread.locals ≠ none →
      ∃ life, thread.usedLife event = some life ∧ life.FreshAt event.env.nowSecs

/-- The condition.  If the LRU has an entry of the current version for the path, then it was
filled from a shared-cache entry that has not expired by the time of the call. -/
def HitUnexpired (thread : TracedThread) (event : ThreadCall) : Prop :=
  event.call.IsClassified event.env → ∀ mapping, event.env.cache = some mapping →
    ∀ entry index, thread.locals.lru.slotOf event.call.path = some (entry, index) →
      entry.version = mapping.versionWord >>> 1 →
        ∃ life, thread.lives[index]? = some (some life) ∧ life.FreshAt event.env.nowSecs

end TracedThread

/-- In every call of the run, only entries that have not expired are used. -/
def NeverStale (events : List ThreadCall) : Prop :=
  ∀ before event after, events = before ++ event :: after →
    (before.foldl TracedThread.next .new).UsesFresh event

/-! ## One call -/

section Step

variable {thread : TracedThread} {event : ThreadCall} {mapping : Mapping}

/-- The shared cache is asked if the LRU has no entry of the version for the path. -/
theorem cached_of_asked (mapped : event.env.cache = some mapping)
    (missed : (thread.locals.lru.get event.call.path (mapping.versionWord >>> 1)).1 = none) :
    event.call.cached event.env thread.locals =
      (thread.sharedAnswer event mapping).map Prod.fst := by
  rw [TracedThread.sharedAnswer,
    ← run_lookup_eq event.env.target event.call.path event.env.nowSecs mapping
      (opOf event.call.action) thread.locals.lastValidated]
  simp only [PathCall.cached, cachedClassification, mapped]
  cases asked : thread.locals.lru.get event.call.path (mapping.versionWord >>> 1) with
  | mk hit lru =>
      rw [asked] at missed
      cases missed
      dsimp only
      split
      · rename_i classification found
        exact found.symm
      · rename_i found
        exact found.symm

/-- What the shared cache answers has not expired. -/
theorem usesFresh_of_asked (mapped : event.env.cache = some mapping)
    (missed : (thread.locals.lru.get event.call.path (mapping.versionWord >>> 1)).1 = none)
    (used : thread.usedLife event = (thread.sharedAnswer event mapping).map Prod.snd) :
    thread.UsesFresh event := by
  intro _ cached
  rw [cached_of_asked mapped missed] at cached
  cases answered : thread.sharedAnswer event mapping with
  | none =>
      rw [answered] at cached
      exact absurd rfl cached
  | some answer =>
      obtain ⟨classification, life⟩ := answer
      rw [used, answered]
      exact ⟨life, rfl, fresh_of_lookupAnswer answered⟩

/-- A hit in the LRU is used, however old it is. -/
theorem usesFresh_iff_of_hit {entry : LruEntry} {index : Nat}
    (mapped : event.env.cache = some mapping)
    (slot : thread.locals.lru.slotOf event.call.path = some (entry, index))
    (current : entry.version = mapping.versionWord >>> 1) :
    thread.UsesFresh event ↔ thread.HitUnexpired event := by
  have cached : event.call.cached event.env thread.locals = some entry.classification := by
    simp only [PathCall.cached, cachedClassification, mapped, LruCache.get_of_slot slot,
      if_pos current]
  have used : thread.usedLife event = (thread.lives[index]?).join := by
    simp only [TracedThread.usedLife, mapped, slot, if_pos current]
  have lifeOf : ∀ life, thread.usedLife event = some life ↔
      thread.lives[index]? = some (some life) := by
    intro life
    rw [used, Option.join_eq_some_iff]
  simp only [TracedThread.UsesFresh, TracedThread.HitUnexpired, cached, mapped, slot, lifeOf]
  constructor
  · rintro fresh classified _ - _ _ same -
    cases Option.some.inj same
    exact fresh classified (Option.some_ne_none _)
  · intro unexpired classified _
    exact unexpired classified mapping rfl entry index rfl current

/-- A call uses an expired entry exactly if the LRU has one for it. -/
theorem usesFresh_iff_hitUnexpired : thread.UsesFresh event ↔ thread.HitUnexpired event := by
  cases mapped : event.env.cache with
  | none =>
      constructor
      · intro _ _ mapping isMapped
        rw [mapped] at isMapped
        cases isMapped
      · intro _ _ cached
        exact absurd (by simp [PathCall.cached, cachedClassification, mapped]) cached
  | some mapping =>
      cases slot : thread.locals.lru.slotOf event.call.path with
      | none =>
          have missed : (thread.locals.lru.get event.call.path
              (mapping.versionWord >>> 1)).1 = none := by rw [LruCache.get_of_absent slot]
          have fresh : thread.UsesFresh event :=
            usesFresh_of_asked mapped missed (by simp only [TracedThread.usedLife, mapped, slot])
          constructor
          · intro _ _ _ _ entry index found
            rw [slot] at found
            cases found
          · exact fun _ => fresh
      | some found =>
          obtain ⟨entry, index⟩ := found
          by_cases current : entry.version = mapping.versionWord >>> 1
          · exact usesFresh_iff_of_hit mapped slot current
          · have missed : (thread.locals.lru.get event.call.path
                (mapping.versionWord >>> 1)).1 = none := by
              rw [LruCache.get_of_slot slot, if_neg current]
            have fresh : thread.UsesFresh event := by
              apply usesFresh_of_asked mapped missed
              simp only [TracedThread.usedLife, mapped, slot, if_neg current]
            constructor
            · intro _ _ other same entry' index' found version
              cases Option.some.inj (mapped.symm.trans same)
              cases Option.some.inj (slot.symm.trans found)
              exact absurd version current
            · exact fun _ => fresh

end Step

/-! ## Where a slot was filled -/

/-- The entry of a slot was read in an earlier call for its path, at its version, from a
shared-cache entry of this life. -/
def FilledBy (events : List ThreadCall) (entry : LruEntry) (life : EntryLife) : Prop :=
  ∃ (before after : List ThreadCall) (event : ThreadCall) (mapping : Mapping),
    events = before ++ event :: after ∧ event.env.cache = some mapping ∧
      entry.path = event.call.path ∧ entry.version = mapping.versionWord >>> 1 ∧
        (before.foldl TracedThread.next .new).sharedAnswer event mapping =
          some (entry.classification, life)

/-- A slot with a life was filled by an earlier call, and one without is empty. -/
def SlotTraced (events : List ThreadCall) (entry : LruEntry) : Option EntryLife → Prop
  | none => entry = LruEntry.empty
  | some life => FilledBy events entry life

/-- All slots of a thread are traced. -/
def SlotsTraced (events : List ThreadCall) (entries : Vector LruEntry 128)
    (lives : Vector (Option EntryLife) 128) : Prop :=
  ∀ (index : Nat) (bound : index < 128), SlotTraced events entries[index] lives[index]

section Slots

variable {events : List ThreadCall} {entries : Vector LruEntry 128}
  {lives : Vector (Option EntryLife) 128}

theorem SlotTraced.append {entry : LruEntry} {life : Option EntryLife}
    (traced : SlotTraced events entry life) (later : List ThreadCall) :
    SlotTraced (events ++ later) entry life := by
  cases life with
  | none => exact traced
  | some life =>
      obtain ⟨before, after, event, mapping, rfl, rest⟩ := traced
      exact ⟨before, after ++ later, event, mapping, by simp, rest⟩

theorem slotsTraced_empty :
    SlotsTraced events (Vector.replicate 128 LruEntry.empty) (Vector.replicate 128 none) := by
  intro index bound
  simp only [Vector.getElem_replicate, SlotTraced]

theorem SlotsTraced.clear (traced : SlotsTraced events entries lives) (cleared : Nat) :
    SlotsTraced events (entries.setIfInBounds cleared LruEntry.empty)
      (lives.setIfInBounds cleared none) := by
  intro index bound
  simp only [Vector.getElem_setIfInBounds]
  split
  · rfl
  · exact traced index bound

theorem SlotsTraced.set (traced : SlotsTraced events entries lives) {entry : LruEntry}
    {life : EntryLife} (filled : FilledBy events entry life) (cursor : Fin 128) :
    SlotsTraced events (entries.set cursor entry cursor.isLt)
      (lives.set cursor (some life) cursor.isLt) := by
  intro index bound
  simp only [Vector.getElem_set]
  split
  · exact filled
  · exact traced index bound

/-- The entries after a call that asked the shared cache. -/
theorem entries_of_asked {thread : TracedThread} {event : ThreadCall} {mapping : Mapping}
    {lru : LruCache} (mapped : event.env.cache = some mapping)
    (missed : thread.locals.lru.get event.call.path (mapping.versionWord >>> 1) = (none, lru)) :
    (cachedClassification event.env.target event.env.cache thread.locals event.call.path
        (opOf event.call.action) event.env.nowSecs).2.lru.entries =
      match thread.sharedAnswer event mapping with
      | none => lru.entries
      | some (classification, _) => lru.entries.set lru.cursor
          ⟨event.call.path, classification, mapping.versionWord >>> 1⟩ lru.cursor.isLt := by
  have answer := run_lookup_eq event.env.target event.call.path event.env.nowSecs mapping
    (opOf event.call.action) thread.locals.lastValidated
  rw [← TracedThread.sharedAnswer] at answer
  simp only [cachedClassification, mapped, missed, answer]
  cases thread.sharedAnswer event mapping with
  | none => rfl
  | some answer => rfl

/-- A call that fills a slot is the one that its life comes from. -/
theorem slotsTraced_asked {event : ThreadCall} {mapping : Mapping} {lru : LruCache}
    (mapped : event.env.cache = some mapping)
    (missed : (events.foldl TracedThread.next .new).locals.lru.get event.call.path
      (mapping.versionWord >>> 1) = (none, lru))
    (cursor : lru.cursor = (events.foldl TracedThread.next .new).locals.lru.cursor)
    (traced : SlotsTraced events lru.entries lives) :
    SlotsTraced (events ++ [event])
      (cachedClassification event.env.target event.env.cache
        (events.foldl TracedThread.next .new).locals event.call.path (opOf event.call.action)
        event.env.nowSecs).2.lru.entries
      ((events.foldl TracedThread.next .new).fill event mapping lives) := by
  have kept : SlotsTraced (events ++ [event]) lru.entries lives :=
    fun index bound => (traced index bound).append [event]
  rw [entries_of_asked mapped missed, TracedThread.fill]
  cases answered : (events.foldl TracedThread.next .new).sharedAnswer event mapping with
  | none => exact kept
  | some answer =>
      obtain ⟨classification, life⟩ := answer
      have filled : FilledBy (events ++ [event])
          ⟨event.call.path, classification, mapping.versionWord >>> 1⟩ life :=
        ⟨events, [], event, mapping, rfl, mapped, rfl, rfl, answered⟩
      simp only [← cursor]
      exact kept.set filled lru.cursor

/-- Asking the LRU and the shared cache keeps the slots traced. -/
theorem slotsTraced_warmed {event : ThreadCall}
    (traced : SlotsTraced events (events.foldl TracedThread.next .new).locals.lru.entries
      (events.foldl TracedThread.next .new).lives) :
    SlotsTraced (events ++ [event])
      (cachedClassification event.env.target event.env.cache
        (events.foldl TracedThread.next .new).locals event.call.path (opOf event.call.action)
        event.env.nowSecs).2.lru.entries
      ((events.foldl TracedThread.next .new).warmedLives event) := by
  have kept : SlotsTraced (events ++ [event])
      (events.foldl TracedThread.next .new).locals.lru.entries
      (events.foldl TracedThread.next .new).lives :=
    fun index bound => (traced index bound).append [event]
  cases mapped : event.env.cache with
  | none =>
      simp only [cachedClassification, TracedThread.warmedLives, mapped]
      exact kept
  | some mapping =>
      rw [← mapped]
      simp only [TracedThread.warmedLives, mapped]
      cases slot : (events.foldl TracedThread.next .new).locals.lru.slotOf event.call.path with
      | none =>
          rw [← mapped]
          exact slotsTraced_asked mapped (LruCache.get_of_absent slot) rfl traced
      | some found =>
          obtain ⟨entry, index⟩ := found
          dsimp only
          by_cases current : entry.version = mapping.versionWord >>> 1
          · simp only [cachedClassification, LruCache.get_of_slot slot, if_pos current]
            exact kept
          · rw [if_neg current, ← mapped]
            apply slotsTraced_asked mapped
            · exact (LruCache.get_of_slot slot).trans (if_neg current)
            · rfl
            · exact traced.clear index

theorem locals_classifyAndLogPath (env : HookEnv) (mode : FailModeState) (locals : ThreadLocals)
    (call : PathCall) :
    (classifyAndLogPath env mode locals call).locals =
      if call.IsClassified env then
        flushIfResync mode (cachedClassification env.target env.cache locals call.path
          (opOf call.action) env.nowSecs).2
      else locals := by
  rw [classifyAndLogPath]
  cases shutting : env.shuttingDown with
  | true => simp [PathCall.IsClassified, shutting, passThrough]
  | false =>
      cases allowed : isAllowlisted env.target call.path env.cache with
      | true => simp [PathCall.IsClassified, allowed, passThrough]
      | false => simp [PathCall.IsClassified, shutting, allowed]

/-- In every run, each slot of the LRU is empty or was filled by an earlier call. -/
theorem slotsTraced_run (events : List ThreadCall) :
    SlotsTraced events (events.foldl TracedThread.next .new).locals.lru.entries
      (events.foldl TracedThread.next .new).lives := by
  induction events using List.reverseRecOn with
  | nil => exact slotsTraced_empty
  | append_singleton events event ih =>
      rw [List.foldl_append]
      simp only [List.foldl_cons, List.foldl_nil]
      rw [TracedThread.next, locals_classifyAndLogPath]
      by_cases classified : event.call.IsClassified event.env
      · simp only [if_pos classified, flushIfResync]
        by_cases resync : event.mode.state = .resync
        · simp only [if_pos resync]
          exact slotsTraced_empty
        · simp only [if_neg resync]
          exact slotsTraced_warmed ih
      · simp only [if_neg classified]
        exact fun index bound => (ih index bound).append [event]

end Slots

/-! ## Runs -/

/-- No call asks for a path, at a version of the cache, after the entry has expired that an
earlier call found for that path at that version; and none asks for the empty path. -/
def AskedInTime (events : List ThreadCall) : Prop :=
  ∀ (before : List ThreadCall) (event : ThreadCall) (after : List ThreadCall),
    events = before ++ event :: after → event.call.path ≠ [] ∧
      ∀ (mapping : Mapping) (entry : LruEntry) (life : EntryLife),
        event.env.cache = some mapping → entry.path = event.call.path →
          entry.version = mapping.versionWord >>> 1 → FilledBy before entry life →
            life.FreshAt event.env.nowSecs

/-- A run whose calls ask in time uses only entries that have not expired. -/
theorem neverStale_of_askedInTime {events : List ThreadCall} (inTime : AskedInTime events) :
    NeverStale events := by
  intro before event after run
  apply usesFresh_iff_hitUnexpired.mpr
  intro _ mapping mapped entry index slot version
  obtain ⟨path, stored⟩ := LruCache.entry_of_slotOf slot
  obtain ⟨bound, isEntry⟩ := Vector.getElem?_eq_some_iff.mp stored
  have traced := slotsTraced_run before index bound
  rw [isEntry] at traced
  obtain ⟨nonempty, found⟩ := inTime before event after run
  cases lived : (before.foldl TracedThread.next .new).lives[index] with
  | none =>
      rw [lived] at traced
      cases traced
      exact absurd path.symm nonempty
  | some life =>
      rw [lived] at traced
      exact ⟨life, by rw [Vector.getElem?_eq_getElem bound, lived],
        found mapping entry life mapped path version traced⟩

/-! ## A directory whose classification expires -/

/-- A mapping in Block mode, built at second 1000, in which `C:\DATA\` is T1 for 60
seconds. -/
def dataMapping : Mapping :=
  let header : CacheHeader := { (Agent.initHeader .block Mapping.zero).header with
    prefixCount := 1
    createdAtEpochSecs := 1000 }
  { Agent.initHeader .block Mapping.zero with
    versionWord := 2
    header := { header with checksum := checksumOf header }
    prefixAt := fun _ => ⟨8, Vector.ofFn fun index => (ascii "C:\\DATA\\").getD index 0, 1, 60⟩ }

/-- A write to `C:\DATA\PLAN.TXT`, which the agent denies if it is asked. -/
def planCallAt (nowSecs : UInt64) : ThreadCall where
  env := { freshEnv denyingAgent with
    cache := some dataMapping
    nowSecs := nowSecs }
  mode := .new
  call := planWrite

/-- The thread after a write at second 1000. -/
def planThread : TracedThread :=
  [planCallAt 1000].foldl TracedThread.next .new

/-- What the first of two writes found is still good for 30 seconds when the second one
takes it from the LRU. -/
theorem planCall_within_ttl :
    (planThread.locals.lru.get planWrite.path (dataMapping.versionWord >>> 1)).1 = some .T1 ∧
      NeverStale [planCallAt 1000, planCallAt 1030] := by
  have found : TracedThread.new.sharedAnswer (planCallAt 1000) dataMapping =
      some (.T1, ⟨1000, 60⟩) := by
    decide +kernel
  refine ⟨by decide +kernel, neverStale_of_askedInTime ?_⟩
  intro before event after run
  match before, run with
  | [], run =>
      cases run
      refine ⟨by decide, ?_⟩
      rintro mapping entry life - - - ⟨earlier, later, call, other, split, -⟩
      exact absurd split (by simp)
  | [first], run =>
      cases run
      refine ⟨by decide, ?_⟩
      rintro mapping entry life - - - ⟨earlier, later, call, other, split, mapped, -, -, answer⟩
      cases earlier with
      | nil =>
          cases split
          cases mapped
          have same := found.symm.trans answer
          simp only [Option.some.injEq, Prod.mk.injEq] at same
          rw [← same.2]
          decide
      | cons _ rest => simp at split
  | _ :: _ :: rest, run => simp at run

/-- Long after the entry has expired the write is let through without a question, which a
thread without the entry would have asked. -/
theorem planCall_used_after_expiry :
    ¬ NeverStale [planCallAt 1000, planCallAt 2000] ∧
      (classifyAndLogPath (planCallAt 2000).env .new planThread.locals planWrite).decision =
        none ∧
      (classifyAndLogPath (planCallAt 2000).env .new .new planWrite).decision =
        some .boolFalse := by
  have classified : planWrite.IsClassified (planCallAt 2000).env := by decide
  have cached : planWrite.cached (planCallAt 2000).env planThread.locals ≠ none := by
    decide +kernel
  have used : planThread.usedLife (planCallAt 2000) = some ⟨1000, 60⟩ := by decide +kernel
  constructor
  · intro never
    obtain ⟨life, isUsed, fresh⟩ :=
      never [planCallAt 1000] (planCallAt 2000) [] rfl classified cached
    cases Option.some.inj (used.symm.trans isUsed)
    exact absurd fresh (by decide)
  · constructor
    · decide +kernel
    · decide +kernel

end DlpSystem.Hook
