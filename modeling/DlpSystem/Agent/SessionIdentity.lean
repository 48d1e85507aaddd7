import DlpSystem.Lib.ByteSlices
import Mathlib.Data.List.AList

/-!
# Users of sessions

`SessionIdentityMap`: the agent keeps who is logged on in which session, finds the user of a
path by the name of the profile directory, and else guesses.  What the token of a session says
comes from Windows.
-/

namespace DlpSystem.Agent

open Lib

/-- `UserIdentity`. -/
structure UserIdentity where
  sid : Text
  name : Text
  deriving DecidableEq

/-- `SessionIdentityError`, without its texts. -/
inductive SessionIdentityError
  | sessionZero
  | tokenQueryFailed
  | tokenInfoFailed
  | sidConversionFailed
  | accountLookupFailed
  | processTokenFailed
  deriving DecidableEq

/-- `SessionIdentityMap`. -/
structure SessionIdentityMap where
  sessions : AList fun _ : UInt32 => UserIdentity
  usernameToSession : Text → Option UInt32

/-- `SYSTEM_SID`. -/
def systemSid : Text := "S-1-5-18".toList

/-- `SYSTEM_NAME`. -/
def systemName : Text := "SYSTEM".toList

/-- `USERS_PREFIX`. -/
def usersLead : Text := "c:\\users\\".toList

namespace SessionIdentityMap

/-- `SessionIdentityMap::new`. -/
def new : SessionIdentityMap where
  sessions := ∅
  usernameToSession := fun _ => none

variable (casing : Casing)

/-- `add_session`, by what `query_session_user` answers. -/
def addSession (map : SessionIdentityMap) (sessionId : UInt32)
    (querySessionUser : Except SessionIdentityError UserIdentity) :
    Except SessionIdentityError Unit × SessionIdentityMap :=
  if sessionId = 0 then (.error .sessionZero, map)
  else
    match querySessionUser with
    | .error failure => (.error failure, map)
    | .ok identity =>
        let lowerName := casing.toLowercase identity.name
        (.ok (),
          { sessions := map.sessions.insert sessionId identity
            usernameToSession :=
              Function.update map.usernameToSession lowerName (some sessionId) })

/-- `remove_session`. -/
def removeSession (map : SessionIdentityMap) (sessionId : UInt32) : SessionIdentityMap :=
  match map.sessions.lookup sessionId with
  | none => { map with sessions := map.sessions.erase sessionId }
  | some identity =>
      let lowerName := casing.toLowercase identity.name
      { sessions := map.sessions.erase sessionId
        usernameToSession :=
          if map.usernameToSession lowerName = some sessionId then
            Function.update map.usernameToSession lowerName none
          else map.usernameToSession }

/-- `str::find` of a character, as the text before it. -/
def beforeChar (char : Char) (text : Text) : Option Text :=
  if char ∈ text then some (text.takeWhile (· ≠ char)) else none

/-- `extract_profile_username`.  Without a result the slice panics. -/
def extractProfileUsername (path : Text) : Option (Option Text) :=
  let lower := (casing.toLowercase path).map fun char => if char = '/' then '\\' else char
  if ¬ usersLead <+: lower then some none
  else
    match dropBytes (byteLength usersLead) path with
    | none => none
    | some afterLead =>
        let name :=
          (beforeChar '\\' afterLead).getD ((beforeChar '/' afterLead).getD afterLead)
        some (if name = [] then none else some name)

/-- The identity that the name of a profile directory stands for. -/
def namedIdentity (map : SessionIdentityMap) (profileName : Text) : Option UserIdentity :=
  match map.usernameToSession (casing.toLowercase profileName) with
  | some sessionId => map.sessions.lookup sessionId
  | none => none

/-- The first tier of `resolve_for_path`, the path rule. -/
def pathRule (map : SessionIdentityMap) (path : Text) : Option (Option UserIdentity) :=
  (extractProfileUsername casing path).map fun profileName =>
    profileName.bind (namedIdentity casing map)

/-- The other tiers: the only user, or the system. -/
def guessIdentity (map : SessionIdentityMap) : Text × Text :=
  match map.sessions.entries with
  | [session] => (session.2.sid, session.2.name)
  | _ => (systemSid, systemName)

/-- `resolve_for_path`.  Without a result it panics. -/
def resolveForPath (map : SessionIdentityMap) (path : Text) : Option (Text × Text) :=
  (pathRule casing map path).map fun found =>
    match found with
    | some identity => (identity.sid, identity.name)
    | none => map.guessIdentity

end SessionIdentityMap

/-- The calls that change the map. -/
inductive SessionCall
  | add (sessionId : UInt32) (querySessionUser : Except SessionIdentityError UserIdentity)
  | remove (sessionId : UInt32)

/-- The map after a call. -/
def SessionIdentityMap.next (casing : Casing) (map : SessionIdentityMap) :
    SessionCall → SessionIdentityMap
  | .add sessionId querySessionUser => (map.addSession casing sessionId querySessionUser).2
  | .remove sessionId => map.removeSession casing sessionId

end DlpSystem.Agent
