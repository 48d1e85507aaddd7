import DlpSystem.Agent.ApprovalCache
import DlpSystem.Server.ApprovalApi

/-!
# From the approvals table to the agent

An approval reaches enforcement when the answers of the server can be read by the agent
and the cached entry then answers every request within its scope.  Three links of the
way are broken: the entries, the public key, and the destination inside the cache key.
-/

namespace DlpSystem.Approvals

open Common Abac Agent Server
open Lib (Json)

variable {Key : Type}

/-! ## The way -/

/-- A request's destination is the approved one or matches it. -/
def InScope (dst scope : Option String) : Prop :=
  dst = scope ∨
    ∃ request approved, dst = some request ∧ scope = some approved ∧ scopeMatches request approved

/-- A cache answers a request with an allow. -/
def AllowsOverride (jwt : JwtLibrary Key) (cache : ApprovalCache Key) (time : Nat)
    (response : EvaluateResponse) (sid action : String) (dst : Option String) : Prop :=
  ∃ answer claims, (checkApprovalOverride jwt cache time response sid action dst).1 =
    some (answer, claims) ∧ answer.decision = .allow

/-- What the agent has made of an approved row: the entry is among those it reads, it
reads the key, and every request of the row's user for its object and action within its
scope is then allowed until the approval ends. -/
structure Delivered (env : ApprovalEnv) (jwt : JwtLibrary Key)
    (keyOfHex : String → Option Key) (verifyingKeyHex : String) (table : ApprovalTable)
    (now : DateTime) (cache : ApprovalCache Key) (synced : Nat) (row : ApprovalRow)
    (responses : List ActiveApprovalResponse) (entries : List ServerApprovalEntry)
    (entry : ServerApprovalEntry) (pubkeyHex : String) (key : Key) : Prop where
  listed : listActiveApprovals env table false now = .ok responses
  entriesRead : readActiveApprovals (activeApprovalsJson responses) = some entries
  entryRead : entry ∈ entries ∧ entry.id = row.id
  keyRead : readPublicKey (getPublicKey verifyingKeyHex) = some pubkeyHex
  keyParsed : keyOfHex pubkeyHex = some key
  allows : ∀ time response dst, synced ≤ time → response.matchedLabelId = some row.dataObjectId →
    InScope dst row.destinationScope →
    (∀ text validUntil, row.validUntil = some text → env.parseRfc3339 text = .ok validUntil →
      (time : Int) ≤ validUntil.nanos) →
    AllowsOverride jwt ((cache.setPublicKey key).syncEntry jwt synced entry) time response
      row.requesterSid row.allowedAction dst

/-- The approval of a row comes through to the agent. -/
def ReachesEnforcement (env : ApprovalEnv) (jwt : JwtLibrary Key)
    (keyOfHex : String → Option Key) (verifyingKeyHex : String) (table : ApprovalTable)
    (now : DateTime) (cache : ApprovalCache Key) (synced : Nat) (row : ApprovalRow) : Prop :=
  ∃ responses entries entry pubkeyHex key,
    Delivered env jwt keyOfHex verifyingKeyHex table now cache synced row responses entries entry
      pubkeyHex key

/-! ## The broken links -/

/-- No answer of the server can be read as an entry: it has no `id`. -/
theorem ofJson_toJson (response : ActiveApprovalResponse) :
    ServerApprovalEntry.ofJson response.toJson = none := by
  have noId : Json.stringField "id"
      [("token", .string response.token), ("claims", claimsJson response.claims)] = none := by
    apply Json.stringField_eq_none
    simp
  simp only [ActiveApprovalResponse.toJson, ServerApprovalEntry.ofJson, noId]
  rfl

/-- One approval in the list, and the whole list cannot be read. -/
theorem readActiveApprovals_eq_none {responses : List ActiveApprovalResponse}
    (someApproval : responses ≠ []) :
    readActiveApprovals (activeApprovalsJson responses) = none := by
  cases responses with
  | nil => exact absurd rfl someApproval
  | cons response responses =>
      simp only [activeApprovalsJson, readActiveApprovals, List.map_cons, List.mapM_cons,
        ofJson_toJson]
      rfl

/-- The key cannot be read: the server calls it `public_key`, the agent `pubkey`. -/
theorem readPublicKey_getPublicKey (verifyingKeyHex : String) :
    readPublicKey (getPublicKey verifyingKeyHex) = none := by
  have noPubkey : Json.stringField "pubkey" [("public_key", .string verifyingKeyHex)] = none := by
    apply Json.stringField_eq_none
    simp
  exact noPubkey

/-- A request whose destination is not the text of the scope itself misses the entry. -/
theorem override_misses_other_destination (jwt : JwtLibrary Key) {cache : ApprovalCache Key}
    (empty : ∀ encoded, cache.cache encoded = none) (synced time : Nat)
    (entry : ServerApprovalEntry) (response : EvaluateResponse) (sid action : String)
    {dst : Option String} (other : dst ≠ entry.destinationScope) :
    (checkApprovalOverride jwt (cache.syncEntry jwt synced entry) time response sid action dst).1 =
      none := by
  unfold checkApprovalOverride keyFromEvaluation
  cases response.matchedLabelId with
  | none => rfl
  | some objId =>
      have missed : (cache.syncEntry jwt synced entry).cache
          (ApprovalCacheKey.encode ⟨sid, objId, action, dst⟩) = none := by
        rw [ApprovalCache.syncEntry_other other]
        exact empty _
      simp only [Option.map_some, ApprovalCache.check, missed]

/-- No approval reaches enforcement, whatever the table, the keys and the cache are. -/
theorem approval_never_reaches (env : ApprovalEnv) (jwt : JwtLibrary Key)
    (keyOfHex : String → Option Key) (verifyingKeyHex : String) (table : ApprovalTable)
    (now : DateTime) (cache : ApprovalCache Key) (synced : Nat) (row : ApprovalRow) :
    ¬ ReachesEnforcement env jwt keyOfHex verifyingKeyHex table now cache synced row := by
  rintro ⟨responses, entries, entry, pubkeyHex, key, delivered⟩
  have someApproval : responses ≠ [] := by
    rintro rfl
    cases Option.some.inj delivered.entriesRead
    exact absurd delivered.entryRead.1 List.not_mem_nil
  have unread := readActiveApprovals_eq_none someApproval
  rw [delivered.entriesRead] at unread
  cases unread

/-! ## A sample approval -/

/-- The start of the year 2026. -/
def sampleNow : DateTime :=
  ⟨1767225600000000000, 0⟩

/-- The start of the year 2027. -/
def sampleEnd : DateTime :=
  ⟨1798761600000000000, 0⟩

/-- A clock that knows the two times, a signature scheme in which the only key and the only
signature are empty, and tokens that are the approval's id. -/
def sampleEnv : ApprovalEnv where
  parseRfc3339 text :=
    if text = "2026-01-01T00:00:00+00:00" then .ok sampleNow
    else if text = "2027-01-01T00:00:00+00:00" then .ok sampleEnd
    else .error "input contains invalid characters"
  toRfc3339 time :=
    if time = sampleNow then "2026-01-01T00:00:00+00:00" else "2027-01-01T00:00:00+00:00"
  hexDecode text := if text = "" then .ok [] else .error "Odd number of digits"
  keyError _ := none
  signatureError _ := none
  verifies _ _ _ := false
  signToken claims := .ok claims.jti
  toUppercase text := text

/-- An approval of writes to any removable drive, valid for the year 2026. -/
def sampleRow : ApprovalRow where
  id := "approval-001"
  requesterSid := "S-1-5-21-1"
  approverSid := some "admin"
  dataObjectId := "label-001"
  allowedAction := "WRITE"
  destinationScope := some "USB:*"
  validFrom := some "2026-01-01T00:00:00+00:00"
  validUntil := some "2027-01-01T00:00:00+00:00"
  signature := none
  status := .approved
  justification := "quarterly report"
  createdAt := "2026-01-01T00:00:00+00:00"
  updatedAt := "2026-01-01T00:00:00+00:00"

/-- The claims that the server signs for the sample. -/
def sampleRowClaims : ApprovalClaims :=
  approvalClaims sampleRow "approval-001" sampleNow sampleEnd

/-- The sample's token verifies, and no other. -/
def sampleRowJwt : JwtLibrary Unit where
  signedClaims _ token := if token = "approval-001" then some sampleRowClaims else none

/-- The sample is approved, in time and listed, and does not reach enforcement. -/
theorem sampleRow_not_delivered :
    sampleRow.status = .approved ∧ sampleNow.nanos < sampleEnd.nanos ∧
      listActiveApprovals sampleEnv ⟨[sampleRow], List.nodup_singleton _⟩ false sampleNow =
        .ok [⟨"approval-001", sampleRowClaims⟩] ∧
      ¬ ReachesEnforcement sampleEnv sampleRowJwt (fun _ => some ()) "00ff"
        ⟨[sampleRow], List.nodup_singleton _⟩ sampleNow ⟨fun _ => none, none⟩
        1767225600000000000 sampleRow := by
  have listed : listActiveApprovals sampleEnv ⟨[sampleRow], List.nodup_singleton _⟩ false
      sampleNow = .ok [⟨"approval-001", sampleRowClaims⟩] := by
    decide +kernel
  refine ⟨rfl, by decide, listed, ?_⟩
  rintro ⟨responses, entries, entry, pubkeyHex, key, delivered⟩
  cases Except.ok.inj (listed.symm.trans delivered.listed)
  have unread := delivered.entriesRead
  cases unread

end DlpSystem.Approvals
