import DlpSystem.Common.Abac
import DlpSystem.Common.Approval
import DlpSystem.Lib.JsonTree
import Mathlib.Algebra.Group.Nat.Defs
import Mathlib.Logic.Function.Basic

/-!
# The approval cache of the agent

`ApprovalCache`: approval tokens by the request they answer, and the check that turns a
denial into an allow.  The token library is a parameter; its validation rules, which
the cache leaves at their defaults, are spelled out.
-/

namespace DlpSystem.Agent

open Common Abac

/-- What the token library finds behind the public key: the claims of a token whose
EdDSA signature verifies. -/
structure JwtLibrary (Key : Type) where
  signedClaims : Key → String → Option ApprovalClaims

/-- Nanoseconds in a second. -/
def nanosPerSecond : Nat := 10 ^ 9

/-- `Validation::leeway`, in seconds. -/
def jwtLeeway : Nat := 60

/-- The default validation with the issuer of the server: `exp` is required, may not be
negative, and counts until the leeway is over.  In the first minute of the epoch the
subtraction of the leeway fails. -/
def validClaims (now : Nat) (claims : ApprovalClaims) : Bool :=
  decide (claims.iss = expectedIssuer) && decide (0 ≤ claims.exp) &&
    decide (jwtLeeway ≤ now / nanosPerSecond) &&
    decide ((now / nanosPerSecond : Nat) - (jwtLeeway : Int) ≤ claims.exp)

/-- `jsonwebtoken::decode` at a time in nanoseconds. -/
def JwtLibrary.decode {Key : Type} (jwt : JwtLibrary Key) (key : Key) (now : Nat)
    (token : String) : Option ApprovalClaims :=
  (jwt.signedClaims key token).filter (validClaims now)

/-- `CachedApproval`; `expiresAt` is in nanoseconds. -/
structure CachedApproval where
  token : String
  claims : ApprovalClaims
  expiresAt : Int
  deriving DecidableEq

/-- `ApprovalCache`. -/
structure ApprovalCache (Key : Type) where
  cache : String → Option CachedApproval
  verifyingKey : Option Key

/-- `DateTime::from_timestamp`, in the range of `chrono`. -/
def fromTimestamp (seconds : Int) : Option Int :=
  if -8334601228800 ≤ seconds ∧ seconds ≤ 8210266876799 then some (seconds * nanosPerSecond)
  else none

/-- What follows the text before `:*`, when a scope ends in it. -/
def wildcardStem (approvedDst : String) : Option (List Char) :=
  match approvedDst.toList.reverse with
  | '*' :: ':' :: rest => some rest.reverse
  | _ => none

/-- `scope_matches`. -/
def scopeMatches (requestDst approvedDst : String) : Bool :=
  if approvedDst = "" ∨ approvedDst = "*" then true
  else if requestDst = approvedDst then true
  else
    match wildcardStem approvedDst with
    | some stem => (stem ++ [':']).isPrefixOf requestDst.toList
    | none => false

/-- The scope part of `check`: an absent or empty scope, or a request without a
destination, passes. -/
def scopeAdmits (approvedDst requestDst : Option String) : Bool :=
  match approvedDst with
  | none => true
  | some approved =>
      if approved = "" then true
      else
        match requestDst with
        | none => true
        | some request => scopeMatches request approved

namespace ApprovalCache

variable {Key : Type}

/-- `ApprovalCache::insert`. -/
def insert (cache : ApprovalCache Key) (now : Nat) (key : ApprovalCacheKey) (token : String)
    (claims : ApprovalClaims) : ApprovalCache Key :=
  let expiresAt := (fromTimestamp claims.exp).getD (now + 3600 * nanosPerSecond)
  { cache with
    cache := Function.update cache.cache key.encode (some ⟨token, claims, expiresAt⟩) }

/-- `ApprovalCache::remove`. -/
def remove (cache : ApprovalCache Key) (key : ApprovalCacheKey) : ApprovalCache Key :=
  { cache with cache := Function.update cache.cache key.encode none }

/-- The answer of a hit. -/
def overrideResponse (claims : ApprovalClaims) : EvaluateResponse where
  decision := .allow
  matchedPolicyId := some ("approval:" ++ claims.jti)
  reason := "approved via override token"
  enforcementMode := none
  wouldHaveDenied := false
  matchedLabelId := some claims.obj

/-- `ApprovalCache::check`, with the cache it leaves. -/
def check (jwt : JwtLibrary Key) (cache : ApprovalCache Key) (now : Nat)
    (key : ApprovalCacheKey) (requestDst : Option String) :
    Option EvaluateResponse × ApprovalCache Key :=
  match cache.cache key.encode with
  | none => (none, cache)
  | some entry =>
      if (now : Int) > entry.expiresAt then (none, cache.remove key)
      else
        match cache.verifyingKey with
        | none => (none, cache)
        | some verifyingKey =>
            match jwt.decode verifyingKey now entry.token with
            | none => (none, cache)
            | some _ =>
                if scopeAdmits entry.claims.dst requestDst then
                  (some (overrideResponse entry.claims), cache)
                else (none, cache)

end ApprovalCache

/-- `ApprovalCacheKey::from_evaluation`. -/
def keyFromEvaluation (response : EvaluateResponse) (sid action : String)
    (dst : Option String) : Option ApprovalCacheKey :=
  response.matchedLabelId.map fun objId => ⟨sid, objId, action, dst⟩

/-- `check_approval_override`, with the cache it leaves. -/
def checkApprovalOverride {Key : Type} (jwt : JwtLibrary Key) (cache : ApprovalCache Key)
    (now : Nat) (response : EvaluateResponse) (sid action : String) (dst : Option String) :
    Option (EvaluateResponse × ApprovalClaims) × ApprovalCache Key :=
  match keyFromEvaluation response sid action dst with
  | none => (none, cache)
  | some key =>
      match cache.check jwt now key dst with
      | (none, left) => (none, left)
      | (some answer, left) =>
          ((left.cache key.encode).map fun entry => (answer, entry.claims), left)

/-! ## Approvals from the server

What the agent reads from the two approval endpoints, and how the poll loop puts an
approval into its cache.
-/

open Lib (Json)

/-- `ServerApprovalEntry`. -/
structure ServerApprovalEntry where
  id : String
  requesterSid : String
  dataObjectId : String
  allowedAction : String
  destinationScope : Option String
  validUntil : String
  token : String
  deviceFingerprint : Option String
  deriving DecidableEq

/-- The derived decoder of `ServerApprovalEntry`: an object, or the fields in order. -/
def ServerApprovalEntry.ofJson : Json → Option ServerApprovalEntry
  | .object fields => do
      return {
        id := ← Json.stringField "id" fields
        requesterSid := ← Json.stringField "requester_sid" fields
        dataObjectId := ← Json.stringField "data_object_id" fields
        allowedAction := ← Json.stringField "allowed_action" fields
        destinationScope := ← Json.optionalStringField "destination_scope" fields
        validUntil := ← Json.stringField "valid_until" fields
        token := ← Json.stringField "token" fields
        deviceFingerprint := ← Json.optionalStringField "device_fingerprint" fields }
  | .array [id, requesterSid, dataObjectId, allowedAction, destinationScope, validUntil, token,
      deviceFingerprint] => do
      return {
        id := ← id.asString
        requesterSid := ← requesterSid.asString
        dataObjectId := ← dataObjectId.asString
        allowedAction := ← allowedAction.asString
        destinationScope := ← destinationScope.asOptionalString
        validUntil := ← validUntil.asString
        token := ← token.asString
        deviceFingerprint := ← deviceFingerprint.asOptionalString }
  | _ => none

/-- The body of `sync_active_approvals`: `Vec<ServerApprovalEntry>`. -/
def readActiveApprovals : Json → Option (List ServerApprovalEntry)
  | .array items => items.mapM ServerApprovalEntry.ofJson
  | _ => none

/-- The body of `fetch_public_key`: the `pubkey` of a `PubkeyResponse`. -/
def readPublicKey : Json → Option String
  | .object fields => Json.stringField "pubkey" fields
  | .array [pubkey] => pubkey.asString
  | _ => none

namespace ApprovalCache

variable {Key : Type}

/-- `set_public_key`, once the text has been read as a key. -/
def setPublicKey (cache : ApprovalCache Key) (key : Key) : ApprovalCache Key :=
  { cache with verifyingKey := some key }

/-- The body of the poll loop for one entry: without a key, or with a token that does not
verify, the entry is skipped. -/
def syncEntry (jwt : JwtLibrary Key) (now : Nat) (cache : ApprovalCache Key)
    (entry : ServerApprovalEntry) : ApprovalCache Key :=
  match cache.verifyingKey with
  | none => cache
  | some key =>
      match jwt.decode key now entry.token with
      | none => cache
      | some claims =>
          cache.insert now ⟨entry.requesterSid, entry.dataObjectId, entry.allowedAction,
            entry.destinationScope⟩ entry.token claims

/-- An entry stands under its own scope only: every other key is as before. -/
theorem syncEntry_other {jwt : JwtLibrary Key} {now : Nat} {cache : ApprovalCache Key}
    {entry : ServerApprovalEntry} {key : ApprovalCacheKey}
    (other : key.dst ≠ entry.destinationScope) :
    (cache.syncEntry jwt now entry).cache key.encode = cache.cache key.encode := by
  unfold syncEntry
  cases cache.verifyingKey with
  | none => rfl
  | some verifyingKey =>
      simp only
      cases jwt.decode verifyingKey now entry.token with
      | none => rfl
      | some claims =>
          simp only [insert]
          rw [Function.update_of_ne]
          intro sameText
          exact other (congrArg ApprovalCacheKey.dst (ApprovalCacheKey.encode_injective sameText))

end ApprovalCache

end DlpSystem.Agent
