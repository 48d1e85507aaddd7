import DlpSystem.Agent.OfflineManager
import Mathlib.Data.List.Induction

/-!
# The decision cache read again

A hit takes its entry out of the cache, so that an entry answers once.  Apart from that the
cache is a map whose entries expire: until the first read, a lookup finds what was last
inserted, unless the cache was cleared or the time has passed.
-/

namespace DlpSystem.Agent

open Abac

/-! ## Runs -/

/-- A call of the cache. -/
inductive CacheCall
  | insert (resourcePath userSid : String) (response : EvaluateResponse)
  | get (resourcePath userSid : String)
  | clear
  | evictExpired

/-- A call, and the time on the monotonic clock. -/
structure TimedCall where
  now : Nat
  call : CacheCall

namespace TimedCall

/-- The path and the user of a call that names them. -/
def subject (event : TimedCall) : Option (String × String) :=
  match event.call with
  | .insert resourcePath userSid _ => some (resourcePath, userSid)
  | .get resourcePath userSid => some (resourcePath, userSid)
  | .clear => none
  | .evictExpired => none

/-- The cache after a call. -/
def next (cache : DecisionCache) (event : TimedCall) : DecisionCache :=
  match event.call with
  | .insert resourcePath userSid response =>
      cache.insert event.now resourcePath userSid response
  | .get resourcePath userSid => (cache.get event.now resourcePath userSid).2
  | .clear => cache.clear
  | .evictExpired => cache.evictExpired event.now

end TimedCall

/-- The cache after some calls. -/
def cacheAfter (ttl : Nat) (calls : List TimedCall) : DecisionCache :=
  calls.foldl TimedCall.next (.withTtl ttl)

/-- What was last inserted for a path and a user, after a call. -/
def lastAfter (ttl : Nat) (resourcePath userSid : String) (last : Option DecisionEntry)
    (event : TimedCall) : Option DecisionEntry :=
  match event.call with
  | .insert path sid response =>
      if (path, sid) = (resourcePath, userSid) then some ⟨response, event.now + ttl⟩ else last
  | .get _ _ => last
  | .clear => none
  | .evictExpired => last

/-- What was last inserted for a path and a user, and not cleared since. -/
def lastInsert (ttl : Nat) (resourcePath userSid : String) (calls : List TimedCall) :
    Option DecisionEntry :=
  calls.foldl (lastAfter ttl resourcePath userSid) none

/-- A path and a user were looked up since they were last inserted, after a call. -/
def readAfter (resourcePath userSid : String) (seen : Bool) (event : TimedCall) : Bool :=
  match event.call with
  | .insert path sid _ => if (path, sid) = (resourcePath, userSid) then false else seen
  | .get path sid => if (path, sid) = (resourcePath, userSid) then true else seen
  | .clear => seen
  | .evictExpired => seen

/-- A path and a user were looked up since they were last inserted. -/
def readSince (resourcePath userSid : String) (calls : List TimedCall) : Bool :=
  calls.foldl (readAfter resourcePath userSid) false

/-- The clock does not go back, up to a time. -/
def Ordered (calls : List TimedCall) (now : Nat) : Prop :=
  (calls.map TimedCall.now ++ [now]).Pairwise (· ≤ ·)

/-- No other path and user of the calls have the hashes of these. -/
def CollisionFree (calls : List TimedCall) (resourcePath userSid : String) : Prop :=
  ∀ event ∈ calls, ∀ subject ∈ event.subject,
    decisionKey subject.1 subject.2 = decisionKey resourcePath userSid →
      subject = (resourcePath, userSid)

/-- A lookup answers exactly with what was last inserted, as long as that has not expired. -/
def AnswersLast (ttl : Nat) (calls : List TimedCall) (now : Nat) (resourcePath userSid : String) :
    Prop :=
  ∀ response, ((cacheAfter ttl calls).get now resourcePath userSid).1 = some response ↔
    ∃ entry, lastInsert ttl resourcePath userSid calls = some entry ∧
      entry.response = response ∧ now ≤ entry.expiresAt

/-! ## What the cache holds -/

namespace DecisionCache

variable {cache : DecisionCache} {earlier now : Nat} {path sid : String}
  {response : EvaluateResponse} {key : DecisionKey}

theorem fresh_insert_self :
    (cache.insert earlier path sid response).fresh now (decisionKey path sid) =
      (some ⟨response, earlier + cache.ttl⟩ : Option DecisionEntry).filter fun entry =>
        !entry.isExpired now := by
  simp only [fresh, insert, Function.update_self]

theorem fresh_insert_of_ne (other : key ≠ decisionKey path sid) :
    (cache.insert earlier path sid response).fresh now key = cache.fresh now key := by
  simp only [fresh, insert, Function.update_of_ne other]

theorem fresh_evictExpired (order : earlier ≤ now) (key : DecisionKey) :
    (cache.evictExpired earlier).fresh now key = cache.fresh now key := by
  change (Option.filter _ (cache.inner key)).filter _ = (cache.inner key).filter _
  rw [Option.filter_filter]
  congr 1
  funext entry
  rw [DecisionEntry.isExpired, DecisionEntry.isExpired, Bool.and_eq_right_iff_imp]
  intro unexpired
  simp only [Bool.not_eq_true', decide_eq_false_iff_not] at unexpired ⊢
  omega

theorem fresh_get_self :
    (cache.get earlier path sid).2.fresh now (decisionKey path sid) = none := by
  rw [fresh, get]
  dsimp only
  rw [Function.update_self, Option.filter_none]

theorem fresh_get_of_ne (order : earlier ≤ now) (other : key ≠ decisionKey path sid) :
    (cache.get earlier path sid).2.fresh now key = cache.fresh now key := by
  rw [fresh, get]
  dsimp only
  rw [Function.update_of_ne other]
  exact fresh_evictExpired order key

theorem ttl_next (cache : DecisionCache) (event : TimedCall) :
    (TimedCall.next cache event).ttl = cache.ttl := by
  rcases event with ⟨now, call⟩
  cases call <;> rfl

end DecisionCache

theorem ttl_cacheAfter (ttl : Nat) (calls : List TimedCall) : (cacheAfter ttl calls).ttl = ttl := by
  induction calls using List.reverseRecOn with
  | nil => rfl
  | append_singleton calls event ih =>
      rw [cacheAfter, List.foldl_concat, DecisionCache.ttl_next]
      exact ih

/-- Calls before the last one, and its time. -/
theorem Ordered.of_concat {calls : List TimedCall} {event : TimedCall} {now : Nat}
    (ordered : Ordered (calls ++ [event]) now) : Ordered calls now ∧ event.now ≤ now := by
  rw [Ordered, List.map_append, List.append_assoc] at ordered
  obtain ⟨before, last, across⟩ := List.pairwise_append.mp ordered
  constructor
  · apply List.pairwise_append.mpr
    exact ⟨before, List.pairwise_singleton _ _, fun earlier member later isNow =>
      across earlier member later (List.mem_append_right _ isNow)⟩
  · simpa using last

theorem CollisionFree.of_concat {calls : List TimedCall} {event : TimedCall}
    {resourcePath userSid : String}
    (free : CollisionFree (calls ++ [event]) resourcePath userSid) :
    CollisionFree calls resourcePath userSid :=
  fun earlier member => free earlier (List.mem_append_left _ member)

section Steps

variable {ttl : Nat} {calls : List TimedCall} {event : TimedCall} {resourcePath userSid : String}

/-- What a path and a user have in the cache, by the calls: the last insert, unless it was
read since or has expired. -/
theorem fresh_cacheAfter {now : Nat} (ordered : Ordered calls now)
    (free : CollisionFree calls resourcePath userSid) :
    (cacheAfter ttl calls).fresh now (decisionKey resourcePath userSid) =
      if readSince resourcePath userSid calls then none
      else (lastInsert ttl resourcePath userSid calls).filter fun entry =>
        !entry.isExpired now := by
  induction calls using List.reverseRecOn with
  | nil => rfl
  | append_singleton calls event ih =>
      obtain ⟨orderedBefore, order⟩ := ordered.of_concat
      specialize ih orderedBefore free.of_concat
      have unique := free event (List.mem_append_right _ (List.mem_singleton_self _))
      have last : lastInsert ttl resourcePath userSid (calls ++ [event]) =
          lastAfter ttl resourcePath userSid (lastInsert ttl resourcePath userSid calls) event :=
        List.foldl_concat _ _ _ _
      have seen : readSince resourcePath userSid (calls ++ [event]) =
          readAfter resourcePath userSid (readSince resourcePath userSid calls) event :=
        List.foldl_concat _ _ _ _
      rw [cacheAfter, List.foldl_concat, last, seen]
      change (TimedCall.next (cacheAfter ttl calls) event).fresh now _ = _
      rcases event with ⟨earlier, call⟩
      cases call with
      | insert path sid response =>
          simp only [readAfter, lastAfter]
          by_cases same : (path, sid) = (resourcePath, userSid)
          · simp only [if_pos same, if_neg Bool.false_ne_true]
            injection same with samePath sameSid
            rw [samePath, sameSid]
            apply DecisionCache.fresh_insert_self.trans
            rw [ttl_cacheAfter]
          · have other : decisionKey resourcePath userSid ≠ decisionKey path sid :=
              fun collides => same (unique (path, sid) rfl collides.symm)
            simp only [if_neg same]
            exact (DecisionCache.fresh_insert_of_ne other).trans ih
      | get path sid =>
          simp only [readAfter, lastAfter]
          by_cases same : (path, sid) = (resourcePath, userSid)
          · simp only [if_pos same, if_true]
            injection same with samePath sameSid
            rw [samePath, sameSid]
            exact DecisionCache.fresh_get_self
          · have other : decisionKey resourcePath userSid ≠ decisionKey path sid :=
              fun collides => same (unique (path, sid) rfl collides.symm)
            simp only [if_neg same]
            exact (DecisionCache.fresh_get_of_ne order other).trans ih
      | clear => exact (ite_self _).symm
      | evictExpired => exact ((cacheAfter ttl calls).fresh_evictExpired order _).trans ih

/-- A lookup answers with what was last inserted exactly if it finds it expired or was not
preceded by another lookup since. -/
theorem answersLast_iff (ttl : Nat) (calls : List TimedCall) (now : Nat)
    (resourcePath userSid : String) (ordered : Ordered calls now)
    (free : CollisionFree calls resourcePath userSid) :
    AnswersLast ttl calls now resourcePath userSid ↔
      ∀ entry, lastInsert ttl resourcePath userSid calls = some entry → now ≤ entry.expiresAt →
        readSince resourcePath userSid calls = false := by
  have answer : ((cacheAfter ttl calls).get now resourcePath userSid).1 =
      ((cacheAfter ttl calls).fresh now (decisionKey resourcePath userSid)).map
        DecisionEntry.response := rfl
  rw [AnswersLast, answer, fresh_cacheAfter ordered free]
  constructor
  · intro answers entry last unexpired
    by_contra seen
    have found := (answers entry.response).mpr ⟨entry, last, rfl, unexpired⟩
    rw [Bool.not_eq_false] at seen
    rw [if_pos seen] at found
    cases found
  · intro unread response
    constructor
    · intro found
      split at found
      · cases found
      · obtain ⟨entry, kept, same⟩ := Option.map_eq_some_iff.mp found
        obtain ⟨last, unexpired⟩ := Option.filter_eq_some_iff.mp kept
        exact ⟨entry, last, same, by simpa [DecisionEntry.isExpired] using unexpired⟩
    · rintro ⟨entry, last, same, unexpired⟩
      have kept : (lastInsert ttl resourcePath userSid calls).filter
          (fun entry => !entry.isExpired now) = some entry := by
        rw [Option.filter_eq_some_iff]
        exact ⟨last, by simpa [DecisionEntry.isExpired] using unexpired⟩
      rw [unread entry last unexpired, if_neg Bool.false_ne_true, kept, ← same]
      rfl

end Steps

/-- An answer of the engine. -/
def sampleResponse : EvaluateResponse :=
  ⟨.allow, none, "no policy matched", none, false, none⟩

/-- An answer is stored. -/
def storeSample : TimedCall :=
  ⟨0, .insert "C:\\Data\\plan.txt" "S-1-5-21-1" sampleResponse⟩

/-- An answer is stored, looked up and stored again, and another file is looked up since. -/
def storedAgain : List TimedCall :=
  [storeSample, ⟨1, .get "C:\\Data\\plan.txt" "S-1-5-21-1"⟩,
    ⟨2, .insert "C:\\Data\\note.txt" "S-1-5-21-1" sampleResponse⟩,
    ⟨3, .insert "C:\\Data\\plan.txt" "S-1-5-21-1" { sampleResponse with decision := .deny }⟩,
    ⟨4, .get "C:\\Data\\note.txt" "S-1-5-21-1"⟩, ⟨5, .evictExpired⟩]

theorem answersLast_stored :
    AnswersLast 60000 storedAgain 6 "C:\\Data\\plan.txt" "S-1-5-21-1" ∧
      ((cacheAfter 60000 storedAgain).get 6 "C:\\Data\\plan.txt" "S-1-5-21-1").1.isSome := by
  have ordered : Ordered storedAgain 6 := by
    rw [Ordered]
    decide
  have free : CollisionFree storedAgain "C:\\Data\\plan.txt" "S-1-5-21-1" := by
    unfold CollisionFree
    decide +kernel
  refine ⟨(answersLast_iff 60000 storedAgain 6 _ _ ordered free).mpr ?_, by decide +kernel⟩
  intro _ _ _
  decide

/-- An answer that was looked up once is not found again, long before it expires. -/
theorem not_answersLast_again :
    ¬ AnswersLast 60000 [storeSample, ⟨1, .get "C:\\Data\\plan.txt" "S-1-5-21-1"⟩] 2
      "C:\\Data\\plan.txt" "S-1-5-21-1" := by
  intro answers
  have found := (answers sampleResponse).mpr
    ⟨⟨sampleResponse, 60000⟩, by decide +kernel, rfl, by decide⟩
  exact absurd found (by decide +kernel)

end DlpSystem.Agent
