import Mathlib.Data.List.Perm.Basic
import Mathlib.Data.List.Nodup

/-!
# The audit chain

An audit event carries the hash of the event before it and its own.  Both sides
compute them with `compute_chain_hash`, which leaves the two hash fields out;
SHA-256 and the canonical JSON under it are a parameter.
-/

namespace DlpSystem.Audit

/-- `AppIdentity`, by its image path. -/
structure AppIdentity where
  imagePath : String
  deriving DecidableEq

/-- An `AuditEvent` without its two hash fields.  `others` stands for the fields
that neither emitter nor server look into. -/
structure EventContent where
  agentId : String
  timestamp : Int
  correlationId : Option String
  sourceApplication : Option AppIdentity
  destinationApplication : Option AppIdentity
  contentSha256 : Option String
  others : String
  deriving DecidableEq

/-- `AuditEvent`. -/
structure AuditEvent where
  content : EventContent
  prevHash : Option String
  chainHash : Option String
  deriving DecidableEq

/-- `genesis_hash` and `compute_chain_hash`, which fails with its serialisation. -/
structure ChainHasher where
  genesisHash : String
  computeChainHash : String → EventContent → Option String

/-- The hash part of `emit`: the event after a chain head, and the next head. -/
def ChainHasher.stamp (hasher : ChainHasher) (head : String) (content : EventContent) :
    Option (AuditEvent × String) :=
  (hasher.computeChainHash head content).map fun chainHash =>
    (⟨content, some head, some chainHash⟩, chainHash)

/-- Events that were stamped one after the other, from a head on. -/
def Chained (hasher : ChainHasher) : String → List AuditEvent → Prop
  | _, [] => True
  | head, event :: rest =>
      event.prevHash = some head ∧
        ∃ chainHash, hasher.computeChainHash head event.content = some chainHash ∧
          event.chainHash = some chainHash ∧ Chained hasher chainHash rest

/-- The head behind some events. -/
def headAfter : String → List AuditEvent → String
  | head, [] => head
  | head, event :: rest => headAfter (event.chainHash.getD head) rest

@[simp]
theorem headAfter_nil (head : String) : headAfter head [] = head :=
  rfl

@[simp]
theorem headAfter_cons (head : String) (event : AuditEvent) (rest : List AuditEvent) :
    headAfter head (event :: rest) = headAfter (event.chainHash.getD head) rest :=
  rfl

theorem headAfter_append (head : String) (first second : List AuditEvent) :
    headAfter head (first ++ second) = headAfter (headAfter head first) second := by
  induction first generalizing head with
  | nil => rfl
  | cons event rest ih => exact ih _

variable {hasher : ChainHasher}

theorem chained_append {head : String} {first second : List AuditEvent} :
    Chained hasher head (first ++ second) ↔
      Chained hasher head first ∧ Chained hasher (headAfter head first) second := by
  induction first generalizing head with
  | nil => simp [Chained]
  | cons event rest ih =>
      simp only [List.cons_append, Chained]
      constructor
      · rintro ⟨previous, chainHash, computed, own, others⟩
        rcases ih.mp others with ⟨inFirst, inSecond⟩
        refine ⟨⟨previous, chainHash, computed, own, inFirst⟩, ?_⟩
        rw [headAfter_cons, own]
        exact inSecond
      · rintro ⟨⟨previous, chainHash, computed, own, inFirst⟩, inSecond⟩
        rw [headAfter_cons, own] at inSecond
        exact ⟨previous, chainHash, computed, own, ih.mpr ⟨inFirst, inSecond⟩⟩

/-- The head behind a chain is one of its hashes. -/
theorem Chained.headAfter_mem {head : String} {events : List AuditEvent}
    (chained : Chained hasher head events) :
    some (headAfter head events) ∈ some head :: events.map AuditEvent.chainHash := by
  induction events generalizing head with
  | nil => simp
  | cons event rest ih =>
      rcases chained with ⟨_, chainHash, _, own, others⟩
      rw [headAfter_cons, own, Option.getD_some, List.map_cons, own]
      exact List.mem_cons_of_mem _ (ih others)

/-- A stamped event continues the chain. -/
theorem chained_stamp {head next : String} {content : EventContent} {event : AuditEvent}
    (stamped : hasher.stamp head content = some (event, next)) :
    Chained hasher head [event] ∧ headAfter head [event] = next := by
  rcases Option.map_eq_some_iff.mp stamped with ⟨chainHash, computed, same⟩
  cases same
  exact ⟨⟨rfl, next, computed, rfl, trivial⟩, rfl⟩

/-- Neighbours of a chain fit. -/
theorem Chained.isChain {head : String} {events : List AuditEvent}
    (chained : Chained hasher head events) :
    events.IsChain fun before after => after.prevHash = before.chainHash := by
  induction events generalizing head with
  | nil => exact List.IsChain.nil
  | cons event rest ih =>
      rcases chained with ⟨_, chainHash, _, own, others⟩
      cases rest with
      | nil => exact List.IsChain.singleton _
      | cons next later =>
          refine List.isChain_cons_cons.mpr ⟨?_, ih others⟩
          rw [own]
          exact others.1

/-! ## One order -/

/-- An event further down the chain does not follow its head. -/
theorem Chained.prevHash_ne {head : String} {events : List AuditEvent}
    (chained : Chained hasher head events) {other : String}
    (free : other ≠ head ∧ some other ∉ events.map AuditEvent.chainHash)
    {event : AuditEvent} (member : event ∈ events) : event.prevHash ≠ some other := by
  induction events generalizing head with
  | nil => exact absurd member (by simp)
  | cons first rest ih =>
      rcases chained with ⟨previous, chainHash, _, own, others⟩
      rw [List.map_cons, List.mem_cons, not_or, own] at free
      rcases List.mem_cons.mp member with rfl | later
      · rw [previous]
        exact fun same => free.1 (Option.some.inj same).symm
      · exact ih others ⟨fun same => free.2.1 (congrArg some same), free.2.2⟩ later

/-- Without hash collisions a set of events has one order in which it is a chain. -/
theorem Chained.eq_of_perm {head : String} {first second : List AuditEvent}
    (chained : Chained hasher head first) (otherChained : Chained hasher head second)
    (perm : first.Perm second)
    (collisionFree : (some head :: second.map AuditEvent.chainHash).Nodup) : first = second := by
  induction second generalizing head first with
  | nil => exact perm.eq_nil
  | cons event rest ih =>
      cases first with
      | nil => exact absurd perm.symm.eq_nil (by simp)
      | cons candidate others =>
          rcases otherChained with ⟨previous, chainHash, _, own, chainedRest⟩
          rw [List.map_cons, List.nodup_cons, own] at collisionFree
          rcases collisionFree with ⟨headFree, restFree⟩
          have isFirst : candidate = event := by
            have member : candidate ∈ event :: rest := perm.subset (List.mem_cons_self ..)
            rcases List.mem_cons.mp member with same | later
            · exact same
            · rw [List.mem_cons, not_or] at headFree
              have free : head ≠ chainHash ∧ some head ∉ rest.map AuditEvent.chainHash :=
                ⟨fun same => headFree.1 (congrArg some same), headFree.2⟩
              exact absurd chained.1 (chainedRest.prevHash_ne free later)
          subst isFirst
          rcases chained with ⟨_, otherHash, _, otherOwn, chainedOthers⟩
          cases Option.some.inj (own.symm.trans otherOwn)
          rw [ih chainedOthers chainedRest perm.cons_inv restFree]

/-! ## Sample events -/

/-- A chain hash that can be read. -/
def readableHasher : ChainHasher where
  genesisHash := "0"
  computeChainHash previous content := some (previous ++ content.others)

/-- A copy that the agent observed, with a time and its other fields. -/
def sampleContent (timestamp : Int) (others : String) : EventContent where
  agentId := "AGENT-WS02-001"
  timestamp := timestamp
  correlationId := some others
  sourceApplication := some ⟨"explorer.exe"⟩
  destinationApplication := some ⟨"AGENT-UNKNOWN"⟩
  contentSha256 := none
  others := others

end DlpSystem.Audit
