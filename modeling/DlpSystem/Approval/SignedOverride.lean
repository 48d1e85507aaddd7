import DlpSystem.Agent.ApprovalCache

/-!
# Overrides and the signed claims behind them

The cache has three copies of what was approved: the key of the entry, the cached
claims, and the claims inside the token.  The lookup trusts the first, expiry and scope
the second, and the signature vouches for the third only.
-/

namespace DlpSystem.Approvals

open Common Abac Agent

variable {Key : Type}

/-! ## What an override needs -/

/-- An entry that may answer a request: not expired, with a token that verifies and a
cached scope that admits the destination. -/
structure Answers (jwt : JwtLibrary Key) (verifyingKey : Key) (entry : CachedApproval)
    (claims : ApprovalClaims) (now : Nat) (dst : Option String) : Prop where
  alive : (now : Int) ≤ entry.expiresAt
  decoded : jwt.decode verifyingKey now entry.token = some claims
  admits : scopeAdmits entry.claims.dst dst

theorem check_isSome_iff {jwt : JwtLibrary Key} {cache : ApprovalCache Key} {verifyingKey : Key}
    (hasKey : cache.verifyingKey = some verifyingKey) (now : Nat) (key : ApprovalCacheKey)
    (dst : Option String) :
    (cache.check jwt now key dst).1.isSome ↔
      ∃ entry claims, cache.cache key.encode = some entry ∧
        Answers jwt verifyingKey entry claims now dst := by
  unfold ApprovalCache.check
  cases found : cache.cache key.encode with
  | none => simp
  | some entry =>
      simp only [hasKey]
      by_cases expired : (now : Int) > entry.expiresAt
      · rw [if_pos expired]
        constructor
        · intro none
          cases none
        · rintro ⟨other, claims, same, answers⟩
          cases Option.some.inj same
          exact absurd answers.alive (Int.not_le.mpr expired)
      · rw [if_neg expired]
        cases decoded : jwt.decode verifyingKey now entry.token with
        | none =>
            constructor
            · intro none
              cases none
            · rintro ⟨other, claims, same, answers⟩
              cases Option.some.inj same
              exact absurd (decoded.symm.trans answers.decoded) (by simp)
        | some claims =>
            by_cases admits : scopeAdmits entry.claims.dst dst
            · rw [if_pos admits]
              constructor
              · intro _
                exact ⟨entry, claims, rfl, Int.not_lt.mp expired, decoded, admits⟩
              · intro _
                rfl
            · rw [if_neg admits]
              constructor
              · intro none
                cases none
              · rintro ⟨other, otherClaims, same, answers⟩
                cases Option.some.inj same
                exact absurd answers.admits admits

/-- A hit leaves the cache as it was. -/
theorem check_cache_of_some {jwt : JwtLibrary Key} {cache : ApprovalCache Key} {now : Nat}
    {key : ApprovalCacheKey} {dst : Option String} {answer : EvaluateResponse}
    (hit : (cache.check jwt now key dst).1 = some answer) :
    (cache.check jwt now key dst).2 = cache := by
  unfold ApprovalCache.check at hit ⊢
  cases found : cache.cache key.encode with
  | none => rfl
  | some entry =>
      rw [found] at hit
      simp only at hit ⊢
      by_cases expired : (now : Int) > entry.expiresAt
      · rw [if_pos expired] at hit
        cases hit
      · rw [if_neg expired]
        cases cache.verifyingKey with
        | none => rfl
        | some verifyingKey =>
            simp only
            cases jwt.decode verifyingKey now entry.token with
            | none => rfl
            | some _ =>
                simp only
                split <;> rfl

/-- An override is given exactly when the entry under the request's key answers it. -/
theorem override_isSome_iff {jwt : JwtLibrary Key} {cache : ApprovalCache Key}
    {verifyingKey : Key} (hasKey : cache.verifyingKey = some verifyingKey) (now : Nat)
    (response : EvaluateResponse) (sid action : String) (dst : Option String) :
    (checkApprovalOverride jwt cache now response sid action dst).1.isSome ↔
      ∃ objId entry claims, response.matchedLabelId = some objId ∧
        cache.cache (ApprovalCacheKey.encode ⟨sid, objId, action, dst⟩) = some entry ∧
        Answers jwt verifyingKey entry claims now dst := by
  unfold checkApprovalOverride keyFromEvaluation
  cases label : response.matchedLabelId with
  | none => simp
  | some objId =>
      have hits := @check_isSome_iff Key jwt cache verifyingKey hasKey now
        ⟨sid, objId, action, dst⟩ dst
      simp only [Option.map_some]
      cases checked : cache.check jwt now ⟨sid, objId, action, dst⟩ dst with
      | mk answer left =>
          rw [checked] at hits
          cases answer with
          | none =>
              constructor
              · intro none
                cases none
              · rintro ⟨other, entry, claims, same, found, answers⟩
                cases Option.some.inj same
                exact absurd (hits.mpr ⟨entry, claims, found, answers⟩) (by simp)
          | some answer =>
              have kept : left = cache := by
                have hit : (cache.check jwt now ⟨sid, objId, action, dst⟩ dst).1 = some answer := by
                  rw [checked]
                have same := check_cache_of_some hit
                rwa [checked] at same
              rcases hits.mp rfl with ⟨entry, claims, found, answers⟩
              subst kept
              simp only [found, Option.map_some, Option.isSome_some, true_iff]
              exact ⟨objId, entry, claims, rfl, found, answers⟩

/-! ## Backed overrides -/

/-- A destination lies within a signed scope. -/
def WithinScope (dst signedDst : Option String) : Prop :=
  signedDst = none ∨ signedDst = some "" ∨
    ∃ request signed, dst = some request ∧ signedDst = some signed ∧ scopeMatches request signed

/-- The signed claims cover the request for which they are used. -/
structure Backs (claims : ApprovalClaims) (now : Nat) (sid objId action : String)
    (dst : Option String) : Prop where
  issuer : claims.iss = expectedIssuer
  subject : claims.sub = sid
  object : claims.obj = objId
  action : claims.act = action
  inTime : (now : Int) ≤ claims.exp * nanosPerSecond
  scope : WithinScope dst claims.dst

/-- Every override of a cache is backed by the token of the entry that gave it. -/
def OverridesBacked (jwt : JwtLibrary Key) (cache : ApprovalCache Key) (verifyingKey : Key) :
    Prop :=
  ∀ now response sid action dst,
    (checkApprovalOverride jwt cache now response sid action dst).1.isSome →
      ∃ objId entry claims, response.matchedLabelId = some objId ∧
        cache.cache (ApprovalCacheKey.encode ⟨sid, objId, action, dst⟩) = some entry ∧
        jwt.signedClaims verifyingKey entry.token = some claims ∧
        Backs claims now sid objId action dst

/-- The token of an entry can pass: the server issued it, and its `exp` can be read. -/
structure Usable (jwt : JwtLibrary Key) (verifyingKey : Key) (entry : CachedApproval)
    (claims : ApprovalClaims) (dst : Option String) : Prop where
  signed : jwt.signedClaims verifyingKey entry.token = some claims
  issuer : claims.iss = expectedIssuer
  hasExp : 0 ≤ claims.exp
  notOver : (jwtLeeway * nanosPerSecond : Nat) ≤ entry.expiresAt
  admits : scopeAdmits entry.claims.dst dst

/-- The copies agree: the key names the token's own subject, object, action and a
destination within its scope, and the entry expires no later than the token. -/
structure Agrees (key : ApprovalCacheKey) (entry : CachedApproval) (claims : ApprovalClaims) :
    Prop where
  subject : claims.sub = key.sid
  object : claims.obj = key.objId
  action : claims.act = key.action
  expiry : entry.expiresAt ≤ claims.exp * nanosPerSecond
  scope : WithinScope key.dst claims.dst

/-- Every usable entry of the cache agrees with its token. -/
def EntriesAgree (jwt : JwtLibrary Key) (cache : ApprovalCache Key) (verifyingKey : Key) : Prop :=
  ∀ key entry claims, cache.cache (ApprovalCacheKey.encode key) = some entry →
    Usable jwt verifyingKey entry claims key.dst → Agrees key entry claims

section Times

variable {jwt : JwtLibrary Key} {verifyingKey : Key} {entry : CachedApproval}
  {claims : ApprovalClaims} {dst : Option String}

theorem decode_eq_some_iff {now : Nat} {token : String} :
    jwt.decode verifyingKey now token = some claims ↔
      jwt.signedClaims verifyingKey token = some claims ∧ claims.iss = expectedIssuer ∧
        0 ≤ claims.exp ∧ jwtLeeway ≤ now / nanosPerSecond ∧
        (now / nanosPerSecond : Nat) - (jwtLeeway : Int) ≤ claims.exp := by
  simp only [JwtLibrary.decode, Option.filter_eq_some_iff, validClaims, Bool.and_eq_true,
    decide_eq_true_eq, and_assoc]

/-- An entry that answers is usable. -/
theorem Answers.usable {now : Nat} (answers : Answers jwt verifyingKey entry claims now dst) :
    Usable jwt verifyingKey entry claims dst := by
  rcases decode_eq_some_iff.mp answers.decoded with ⟨signed, issuer, hasExp, late, _⟩
  refine ⟨signed, issuer, hasExp, ?_, answers.admits⟩
  have started : jwtLeeway * nanosPerSecond ≤ now :=
    (Nat.le_div_iff_mul_le (by decide)).mp late
  exact Int.le_trans (Int.ofNat_le.mpr started) answers.alive

/-- A usable entry answers at some time, and after the token's expiry if it outlives it. -/
theorem Usable.answers (usable : Usable jwt verifyingKey entry claims dst) :
    ∃ now : Nat, Answers jwt verifyingKey entry claims now dst ∧
      (claims.exp * nanosPerSecond < entry.expiresAt → claims.exp * nanosPerSecond < now) := by
  rcases usable with ⟨signed, issuer, hasExp, notOver, admits⟩
  have second : nanosPerSecond = 1000000000 := rfl
  have leeway : jwtLeeway = 60 := rfl
  rw [second, leeway] at notOver
  by_cases outlives : claims.exp * nanosPerSecond < entry.expiresAt
  · rw [second] at outlives
    refine ⟨max (60 * 1000000000) (claims.exp.toNat * 1000000000 + 1), ⟨?_, ?_, admits⟩, ?_⟩
    · omega
    · apply decode_eq_some_iff.mpr
      rw [second, leeway]
      exact ⟨signed, issuer, hasExp, by omega, by omega⟩
    · intro _
      rw [second]
      omega
  · refine ⟨60 * 1000000000, ⟨notOver, ?_, admits⟩, fun outlived => absurd outlived outlives⟩
    apply decode_eq_some_iff.mpr
    rw [second, leeway]
    exact ⟨signed, issuer, hasExp, by omega, by omega⟩

end Times

/-- The overrides of a cache are all backed by signed claims exactly when every usable
entry agrees with its token. -/
theorem overridesBacked_iff {jwt : JwtLibrary Key} {cache : ApprovalCache Key}
    {verifyingKey : Key} (hasKey : cache.verifyingKey = some verifyingKey) :
    OverridesBacked jwt cache verifyingKey ↔ EntriesAgree jwt cache verifyingKey := by
  constructor
  · intro backed key entry claims found usable
    rcases usable.answers with ⟨now, answers, outlives⟩
    have given := (override_isSome_iff hasKey now
      ⟨.deny, none, "", none, false, some key.objId⟩ key.sid key.action key.dst).mpr
        ⟨key.objId, entry, claims, rfl, found, answers⟩
    rcases backed now _ key.sid key.action key.dst given with
      ⟨objId, other, otherClaims, label, foundOther, signed, backs⟩
    cases Option.some.inj label
    cases Option.some.inj (found.symm.trans foundOther)
    cases Option.some.inj (usable.signed.symm.trans signed)
    refine ⟨backs.subject, backs.object, backs.action, ?_, backs.scope⟩
    by_contra later
    exact absurd backs.inTime (Int.not_le.mpr (outlives (Int.not_le.mp later)))
  · intro agree now response sid action dst given
    rcases (override_isSome_iff hasKey now response sid action dst).mp given with
      ⟨objId, entry, claims, label, found, answers⟩
    have usable := answers.usable
    have agrees := agree ⟨sid, objId, action, dst⟩ entry claims found usable
    exact ⟨objId, entry, claims, label, found, usable.signed, usable.issuer, agrees.subject,
      agrees.object, agrees.action, Int.le_trans answers.alive agrees.expiry, agrees.scope⟩

/-! ## Sample caches -/

/-- The claims of an approval for one user and one label. -/
def sampleClaims (sub : String) : ApprovalClaims where
  iss := "dlp-server"
  sub := sub
  obj := "label-001"
  act := "WRITE"
  dst := none
  dev := none
  iat := 1000000000
  exp := 2000000000
  jti := "approval-001"

/-- One key, under which a token is the subject it was signed for. -/
def sampleJwt : JwtLibrary Unit where
  signedClaims _ token := some (sampleClaims token)

/-- The key of a write to the label by a user. -/
def sampleKey (sid : String) : ApprovalCacheKey :=
  ⟨sid, "label-001", "WRITE", none⟩

/-- A cache with one entry: the request of `S-1-5-21-1`, answered with a token. -/
def sampleCache (token : String) : ApprovalCache Unit where
  cache encoded :=
    if encoded = (sampleKey "S-1-5-21-1").encode then
      some ⟨token, sampleClaims "S-1-5-21-1", 2000000000 * nanosPerSecond⟩
    else none
  verifyingKey := some ()

/-- A denial of a write to the label. -/
def sampleDenial : EvaluateResponse :=
  ⟨.deny, none, "label policy", none, false, some "label-001"⟩

theorem sampleCache_agrees : EntriesAgree sampleJwt (sampleCache "S-1-5-21-1") () := by
  intro key entry claims found usable
  simp only [sampleCache] at found
  split at found
  · next encoded =>
      have sameKey := ApprovalCacheKey.encode_injective encoded
      cases Option.some.inj found
      cases Option.some.inj usable.signed
      rw [sameKey]
      exact ⟨rfl, rfl, rfl, Int.le_refl _, Or.inl rfl⟩
  · cases found

/-- The user's own token gives the user an override, and it is backed. -/
theorem sampleCache_backed :
    (sampleCache "S-1-5-21-1").verifyingKey = some () ∧
      (checkApprovalOverride sampleJwt (sampleCache "S-1-5-21-1") (1500000000 * nanosPerSecond)
        sampleDenial "S-1-5-21-1" "WRITE" none).1.isSome ∧
      OverridesBacked sampleJwt (sampleCache "S-1-5-21-1") () :=
  ⟨rfl, by decide +kernel, (overridesBacked_iff rfl).mpr sampleCache_agrees⟩

/-- A token signed for one user, cached under the key of another, gives the other an
override. -/
theorem foreignToken_not_backed : ¬ OverridesBacked sampleJwt (sampleCache "S-1-5-21-2") () := by
  intro backed
  have given : (checkApprovalOverride sampleJwt (sampleCache "S-1-5-21-2")
      (1500000000 * nanosPerSecond) sampleDenial "S-1-5-21-1" "WRITE" none).1.isSome := by
    decide +kernel
  rcases backed _ _ _ _ _ given with ⟨objId, entry, claims, label, found, signed, backs⟩
  cases Option.some.inj label
  have sameEntry : some ⟨"S-1-5-21-2", sampleClaims "S-1-5-21-1", 2000000000 * nanosPerSecond⟩ =
      some entry := found
  cases Option.some.inj sameEntry
  cases Option.some.inj signed
  exact absurd backs.subject (by decide)

end DlpSystem.Approvals
