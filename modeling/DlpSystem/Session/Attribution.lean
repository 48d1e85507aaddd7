import DlpSystem.Agent.SessionIdentity
import DlpSystem.Lib.EventRun

/-!
# Attribution by the profile directory

The reverse map has one session for a name, the one that was added last.  It goes stale when
that session is given to another user, and loses the other sessions of a user when that one
logs off.  In runs where neither happens, the path rule finds the user of every profile path
whose name it cuts out right.
-/

namespace DlpSystem.Agent

open Lib SessionIdentityMap

variable {casing : Casing}

/-! ## Who is logged on -/

/-- The identity that a session was last added with, unless it was removed since. -/
def registered : List SessionCall → UInt32 → Option UserIdentity :=
  List.foldl (fun sessions call =>
    match call with
    | .add sessionId (.ok identity) =>
        if sessionId = 0 then sessions else Function.update sessions sessionId (some identity)
    | .add _ (.error _) => sessions
    | .remove sessionId => Function.update sessions sessionId none) fun _ => none

/-- The map after some calls. -/
def sessionsAfter (casing : Casing) (calls : List SessionCall) : SessionIdentityMap :=
  calls.foldl (SessionIdentityMap.next casing) .new

/-- The forward map after an addition that succeeds. -/
theorem next_add {map : SessionIdentityMap} {sessionId : UInt32} (user : sessionId ≠ 0)
    (identity : UserIdentity) :
    map.next casing (.add sessionId (.ok identity)) =
      { sessions := map.sessions.insert sessionId identity
        usernameToSession :=
          Function.update map.usernameToSession (casing.toLowercase identity.name)
            (some sessionId) } := by
  change (map.addSession casing sessionId (.ok identity)).2 = _
  unfold addSession
  rw [if_neg user]

/-- An addition that fails leaves the map as it is. -/
theorem next_add_failed {map : SessionIdentityMap} {sessionId : UInt32}
    {querySessionUser : Except SessionIdentityError UserIdentity}
    (failed : sessionId = 0 ∨ ∃ failure, querySessionUser = .error failure) :
    map.next casing (.add sessionId querySessionUser) = map := by
  change (map.addSession casing sessionId querySessionUser).2 = map
  unfold addSession
  split
  · rfl
  · rename_i user
    obtain ⟨failure, rfl⟩ := failed.resolve_left user
    rfl

theorem next_remove_sessions (map : SessionIdentityMap) (sessionId : UInt32) :
    (map.next casing (.remove sessionId)).sessions = map.sessions.erase sessionId := by
  rw [SessionIdentityMap.next, removeSession]
  split <;> rfl

/-- The forward map holds who is logged on. -/
theorem lookup_sessionsAfter (casing : Casing) (calls : List SessionCall) (sessionId : UInt32) :
    (sessionsAfter casing calls).sessions.lookup sessionId = registered calls sessionId := by
  induction calls using List.reverseRecOn generalizing sessionId with
  | nil => rfl
  | append_singleton calls call ih =>
      rw [sessionsAfter, registered, List.foldl_concat, List.foldl_concat]
      change ((sessionsAfter casing calls).next casing call).sessions.lookup sessionId = _
      cases call with
      | add added querySessionUser =>
          by_cases system : added = 0
          · rw [next_add_failed (Or.inl system), ih]
            cases querySessionUser with
            | error failure => rfl
            | ok identity => exact (congrFun (if_pos system) sessionId).symm
          · cases querySessionUser with
            | error failure =>
                rw [next_add_failed (Or.inr ⟨failure, rfl⟩), ih]
                rfl
            | ok identity =>
                rw [next_add system]
                dsimp only
                rw [if_neg system]
                by_cases same : sessionId = added
                · rw [same, AList.lookup_insert, Function.update_self]
                · rw [AList.lookup_insert_ne same, ih, Function.update_of_ne same]
                  rfl
      | remove removed =>
          rw [next_remove_sessions]
          by_cases same : sessionId = removed
          · rw [same, AList.lookup_erase]
            exact (Function.update_self removed none (registered calls)).symm
          · rw [AList.lookup_erase_ne same, ih]
            exact (Function.update_of_ne same none (registered calls)).symm

/-! ## Runs that keep a name right -/

/-- The call keeps the reverse entry of a name, in lower case, right: it does not give the
session of the entry to another user, and does not log it off while the user has another. -/
def Keeps (casing : Casing) (name : Text) (map : SessionIdentityMap) : SessionCall → Prop
  | .add sessionId querySessionUser =>
      ∀ identity, sessionId ≠ 0 → querySessionUser = .ok identity →
        casing.toLowercase identity.name ≠ name → map.usernameToSession name ≠ some sessionId
  | .remove sessionId =>
      map.usernameToSession name = some sessionId →
        ∀ other identity, map.sessions.lookup other = some identity →
          casing.toLowercase identity.name = name → other = sessionId

/-- The reverse entry of a name is a session of that user, and is there if there is one. -/
structure Consistent (casing : Casing) (name : Text) (map : SessionIdentityMap) : Prop where
  right : ∀ sessionId, map.usernameToSession name = some sessionId →
    ∃ identity, map.sessions.lookup sessionId = some identity ∧
      casing.toLowercase identity.name = name
  present : ∀ sessionId identity, map.sessions.lookup sessionId = some identity →
    casing.toLowercase identity.name = name → (map.usernameToSession name).isSome = true

theorem consistent_new (name : Text) : Consistent casing name .new := by
  constructor
  · intro sessionId found
    cases found
  · intro sessionId identity found
    cases found

variable {name : Text} {map : SessionIdentityMap}

theorem Consistent.add {sessionId : UInt32} {identity : UserIdentity}
    (consistent : Consistent casing name map)
    (keeps : casing.toLowercase identity.name ≠ name →
      map.usernameToSession name ≠ some sessionId) :
    Consistent casing name
      { sessions := map.sessions.insert sessionId identity
        usernameToSession :=
          Function.update map.usernameToSession (casing.toLowercase identity.name)
            (some sessionId) } := by
  by_cases user : casing.toLowercase identity.name = name
  · constructor
    · intro found entry
      dsimp only at entry ⊢
      rw [user, Function.update_self] at entry
      injection entry with entry
      exact ⟨identity, by rw [← entry]; exact AList.lookup_insert _, user⟩
    · intro _ _ _ _
      dsimp only
      rw [user, Function.update_self]
      rfl
  · constructor
    · intro found entry
      dsimp only at entry ⊢
      rw [Function.update_of_ne (Ne.symm user)] at entry
      have other : found ≠ sessionId := by
        rintro rfl
        exact keeps user entry
      rw [AList.lookup_insert_ne other]
      exact consistent.right found entry
    · intro found held entry named
      dsimp only at entry ⊢
      rw [Function.update_of_ne (Ne.symm user)]
      have other : found ≠ sessionId := by
        rintro rfl
        rw [AList.lookup_insert] at entry
        injection entry with same
        rw [same] at user
        exact user named
      rw [AList.lookup_insert_ne other] at entry
      exact consistent.present found held entry named

theorem Consistent.remove {sessionId : UInt32} (consistent : Consistent casing name map)
    (keeps : Keeps casing name map (.remove sessionId)) :
    Consistent casing name (map.removeSession casing sessionId) := by
  have erased : (map.removeSession casing sessionId).sessions = map.sessions.erase sessionId :=
    next_remove_sessions map sessionId
  by_cases entry : map.usernameToSession name = some sessionId
  · obtain ⟨identity, held, user⟩ := consistent.right sessionId entry
    have gone : (map.removeSession casing sessionId).usernameToSession name = none := by
      rw [removeSession, held]
      dsimp only
      rw [user, if_pos entry, Function.update_self]
    constructor
    · intro found points
      rw [gone] at points
      cases points
    · intro found other held named
      rw [erased] at held
      by_cases same : found = sessionId
      · rw [same, AList.lookup_erase] at held
        cases held
      · rw [AList.lookup_erase_ne same] at held
        exact absurd (keeps entry found other held named) same
  · have stays : (map.removeSession casing sessionId).usernameToSession name =
        map.usernameToSession name := by
      rw [removeSession]
      split
      · rfl
      · rename_i identity held
        dsimp only
        split
        · rename_i points
          apply Function.update_of_ne
          rintro rfl
          exact entry points
        · rfl
    constructor
    · intro found points
      rw [stays] at points
      have other : found ≠ sessionId := by
        rintro rfl
        exact entry points
      rw [erased, AList.lookup_erase_ne other]
      exact consistent.right found points
    · intro found identity held named
      rw [erased] at held
      rw [stays]
      by_cases same : found = sessionId
      · rw [same, AList.lookup_erase] at held
        cases held
      · rw [AList.lookup_erase_ne same] at held
        exact consistent.present found identity held named

/-- A call that keeps a name right leaves its entry right. -/
theorem Consistent.next {call : SessionCall} (consistent : Consistent casing name map)
    (keeps : Keeps casing name map call) : Consistent casing name (map.next casing call) := by
  cases call with
  | remove sessionId => exact consistent.remove keeps
  | add sessionId querySessionUser =>
      by_cases system : sessionId = 0
      · rwa [next_add_failed (Or.inl system)]
      · cases querySessionUser with
        | error failure => rwa [next_add_failed (Or.inr ⟨failure, rfl⟩)]
        | ok identity =>
            rw [next_add system]
            exact consistent.add (keeps identity system rfl)

/-! ## Profile paths -/

/-- A path of a profile directory, or below it. -/
structure ProfilePath where
  /-- `C:\Users\`, in any case and with any separators. -/
  lead : Text
  spelled : ((lead.map Char.toLower).map fun char => if char = '/' then '\\' else char) = usersLead
  name : Text
  named : name ≠ []
  whole : '\\' ∉ name ∧ '/' ∉ name
  /-- What is behind the name. -/
  tail : Text
  below : tail.head?.all (fun char => char = '\\' || char = '/') = true

namespace ProfilePath

variable (path : ProfilePath)

/-- The path as text. -/
def text : Text :=
  path.lead ++ path.name ++ path.tail

/-- The name is what stands before the first backslash, or before the first slash of a path
without backslashes. -/
def CutsName : Prop :=
  path.tail.head? = some '/' → '\\' ∉ path.tail

theorem lead_ascii : ∀ char ∈ path.lead, char.toNat < 128 := by
  intro char member
  by_contra foreign
  have same := toLower_foreign (Nat.not_lt.mp foreign)
  have noSlash : char ≠ '/' := by
    rintro rfl
    exact foreign (by decide)
  have listed : char ∈ usersLead := by
    rw [← path.spelled]
    apply List.mem_map.mpr
    exact ⟨char, List.mem_map.mpr ⟨char, member, same⟩, if_neg noSlash⟩
  have ascii : ∀ letter ∈ usersLead, letter.toNat < 128 := forall_mem_of_all (by decide)
  exact foreign (ascii char listed)

theorem byteLength_lead : byteLength path.lead = byteLength usersLead := by
  have length : path.lead.length = usersLead.length := by
    rw [← path.spelled, List.length_map, List.length_map]
  rw [byteLength_ascii path.lead_ascii, length]
  rfl

variable {path}

/-- The name is cut out right. -/
theorem name_of_cutsName (cuts : path.CutsName) :
    (beforeChar '\\' (path.name ++ path.tail)).getD
        ((beforeChar '/' (path.name ++ path.tail)).getD (path.name ++ path.tail)) =
      path.name := by
  obtain ⟨noBackslash, noSlash⟩ := path.whole
  have below := path.below
  have cut (char : Char) (absent : char ∉ path.name) (rest : Text) :
      beforeChar char (path.name ++ char :: rest) = some path.name := by
    have other : ∀ letter ∈ path.name, decide (letter ≠ char) = true := by
      intro letter member
      apply decide_eq_true
      rintro rfl
      exact absent member
    rw [beforeChar, if_pos (by simp), List.takeWhile_append_of_pos other,
      List.takeWhile_cons_of_neg (by simp), List.append_nil]
  rw [CutsName] at cuts
  generalize path.tail = tail at below cuts ⊢
  rcases tail with _ | ⟨separator, rest⟩
  · rw [List.append_nil, beforeChar, if_neg noBackslash, beforeChar, if_neg noSlash]
    rfl
  · have separates : separator = '\\' ∨ separator = '/' := by simpa using below
    rcases separates with rfl | rfl
    · rw [cut _ noBackslash]
      rfl
    · have noOther : '\\' ∉ path.name ++ '/' :: rest := by
        rw [List.mem_append, not_or]
        exact ⟨noBackslash, cuts rfl⟩
      rw [cut _ noSlash, beforeChar, if_neg noOther]
      rfl

theorem extractProfileUsername_text (casing : Casing) (cuts : path.CutsName) :
    extractProfileUsername casing path.text = some (some path.name) := by
  have starts : usersLead <+: (casing.toLowercase path.text).map
      fun char => if char = '/' then '\\' else char := by
    rw [text, List.append_assoc, Casing.toLowercase,
      Casing.lowerFrom_ascii_append _ path.lead_ascii, List.map_append, path.spelled]
    exact List.prefix_append _ _
  have sliced : dropBytes (byteLength usersLead) path.text = some (path.name ++ path.tail) := by
    rw [← path.byteLength_lead, text, List.append_assoc, dropBytes_append]
  rw [extractProfileUsername]
  dsimp only
  rw [if_neg (not_not_intro starts), sliced]
  dsimp only
  rw [name_of_cutsName cuts, if_neg path.named]

end ProfilePath

/-- The path is attributed to a session of its user if there is one, and the path rule finds
no other user. -/
def Attributes (casing : Casing) (calls : List SessionCall) (path : ProfilePath) : Prop :=
  ((∃ sessionId identity, registered calls sessionId = some identity ∧
        casing.toLowercase identity.name = casing.toLowercase path.name) →
      ∃ sessionId identity, registered calls sessionId = some identity ∧
        casing.toLowercase identity.name = casing.toLowercase path.name ∧
        resolveForPath casing (sessionsAfter casing calls) path.text =
          some (identity.sid, identity.name)) ∧
    ∀ identity, pathRule casing (sessionsAfter casing calls) path.text = some (some identity) →
      casing.toLowercase identity.name = casing.toLowercase path.name

/-- In every state of a run that keeps the name right, a path whose name is cut out right is
attributed to its user. -/
theorem attributes_of_keeps (casing : Casing) (calls : List SessionCall) (path : ProfilePath)
    (keeps : Each (SessionIdentityMap.next casing) (Keeps casing (casing.toLowercase path.name))
      .new calls)
    (cuts : path.CutsName) :
    ∀ before after, calls = before ++ after → Attributes casing before path := by
  rintro before after rfl
  have consistent : Consistent casing (casing.toLowercase path.name)
      (sessionsAfter casing before) :=
    ((each_append _ _ _).mp keeps).1.invariant (fun _ _ met held => met.next held)
      (consistent_new _)
  have rule : pathRule casing (sessionsAfter casing before) path.text =
      some (namedIdentity casing (sessionsAfter casing before) path.name) := by
    rw [pathRule, path.extractProfileUsername_text casing cuts]
    rfl
  have found {identity : UserIdentity}
      (named : namedIdentity casing (sessionsAfter casing before) path.name = some identity) :
      ∃ sessionId, registered before sessionId = some identity ∧
        casing.toLowercase identity.name = casing.toLowercase path.name := by
    rw [namedIdentity] at named
    cases entry : (sessionsAfter casing before).usernameToSession
        (casing.toLowercase path.name) with
    | none =>
        rw [entry] at named
        cases named
    | some sessionId =>
        rw [entry] at named
        obtain ⟨held, holds, user⟩ := consistent.right sessionId entry
        dsimp only at named
        rw [holds] at named
        injection named with same
        rw [← same]
        exact ⟨sessionId, by rw [← lookup_sessionsAfter casing]; exact holds, user⟩
  constructor
  · rintro ⟨sessionId, identity, held, user⟩
    rw [← lookup_sessionsAfter casing] at held
    obtain ⟨other, entry⟩ := Option.isSome_iff_exists.mp (consistent.present _ _ held user)
    obtain ⟨identity, holds, -⟩ := consistent.right other entry
    have named : namedIdentity casing (sessionsAfter casing before) path.name = some identity := by
      rw [namedIdentity, entry]
      exact holds
    obtain ⟨sessionId, isRegistered, user⟩ := found named
    refine ⟨sessionId, identity, isRegistered, user, ?_⟩
    rw [resolveForPath, rule, named]
    rfl
  · intro identity ruled
    rw [rule] at ruled
    injection ruled with named
    obtain ⟨-, -, user⟩ := found named
    exact user

/-- `C:\Users\alice\plan.txt`. -/
def alicePath : ProfilePath where
  lead := "C:\\Users\\".toList
  spelled := by decide
  name := "alice".toList
  named := by decide
  whole := by decide
  tail := "\\plan.txt".toList
  below := by decide

/-- Alice in the second session. -/
def aliceCalls : List SessionCall :=
  [.add 2 (.ok ⟨"S-1-5-21-111".toList, "Alice".toList⟩)]

/-- Bob logs on, then Alice for a second time; Bob logs off, and his session goes to Alice. -/
def twoUsersCalls : List SessionCall :=
  aliceCalls ++
    [.add 3 (.ok ⟨"S-1-5-21-222".toList, "Bob".toList⟩),
      .add 4 (.ok ⟨"S-1-5-21-111".toList, "Alice".toList⟩), .remove 3,
      .add 3 (.ok ⟨"S-1-5-21-111".toList, "Alice".toList⟩)]

theorem attributes_alice :
    Each (SessionIdentityMap.next Casing.excerpt)
        (Keeps Casing.excerpt (Casing.excerpt.toLowercase alicePath.name)) .new twoUsersCalls ∧
      alicePath.CutsName ∧
      ∀ before after, twoUsersCalls = before ++ after →
        Attributes Casing.excerpt before alicePath := by
  have keeps : Each (SessionIdentityMap.next Casing.excerpt)
      (Keeps Casing.excerpt (Casing.excerpt.toLowercase alicePath.name)) .new twoUsersCalls := by
    have alice : Casing.excerpt.toLowercase "Alice".toList =
        Casing.excerpt.toLowercase alicePath.name := by
      decide +kernel
    refine ⟨?_, ?_, ?_, ?_, ?_, trivial⟩
    · intro identity _ _ _ found
      cases found
    · intro _ _ _ _
      decide +kernel
    · intro identity _ isOk other
      cases isOk
      exact absurd alice other
    · intro found
      exact absurd found (by decide +kernel)
    · intro identity _ isOk other
      cases isOk
      exact absurd alice other
  have cuts : alicePath.CutsName := by
    intro slash
    cases slash
  exact ⟨keeps, cuts, attributes_of_keeps Casing.excerpt twoUsersCalls alicePath keeps cuts⟩

/-- The session of Alice is given to Bob without a logoff, and Bob is found for her path. -/
theorem not_attributes_reused :
    ¬ Attributes Casing.excerpt
      (aliceCalls ++ [.add 2 (.ok ⟨"S-1-5-21-222".toList, "Bob".toList⟩)]) alicePath := by
  rintro ⟨-, rule⟩
  have bob := rule ⟨"S-1-5-21-222".toList, "Bob".toList⟩ (by decide +kernel)
  exact absurd bob (by decide +kernel)

end DlpSystem.Agent
