import DlpSystem.Agent.AgentConfig
import DlpSystem.Agent.PolicyMapper
import DlpSystem.Lib.Casing
import Mathlib.Data.List.DropRight

/-!
# Processes that are not injected

`AllowlistMatcher`: the agent skips itself, system processes in their directories, and what
the entries of the allowlist match by path or by signer.  Signers are cached for a time.
Globs, signers and the readings of the clock come from outside.
-/

namespace DlpSystem.Agent

open Lib

/-! ## Windows paths -/

/-- `is_sep_byte`. -/
def isPathSeparator (char : Char) : Bool :=
  char = '\\' || char = '/'

/-- The length of the drive and the root of a path.  Paths of the network and of devices are
read as paths from a root. -/
def rootLength (path : Text) : Nat :=
  let drive :=
    match path with
    | letter :: ':' :: _ => if letter.isAlpha then 2 else 0
    | _ => 0
  if (path.drop drive).head?.any isPathSeparator then drive + 1 else drive

/-- `Components::trim_right`, on a reversed text: empty components and dots go. -/
def trimRight : Text → Text
  | [] => []
  | [first] => if isPathSeparator first || first = '.' then [] else [first]
  | first :: second :: rest =>
      if isPathSeparator first then trimRight (second :: rest)
      else if first = '.' && isPathSeparator second then trimRight rest
      else first :: second :: rest

/-- `Components::next_back`: the last component behind the root, and the path before it. -/
def nextBack (path : Text) : Option (Text × Text) :=
  let body := trimRight (path.drop (rootLength path)).reverse
  if body = [] then none
  else
    some ((body.takeWhile fun char => !isPathSeparator char).reverse,
      path.take (rootLength path) ++
        (trimRight ((body.dropWhile fun char => !isPathSeparator char).drop 1)).reverse)

/-- `Path::file_name`. -/
def fileName (path : Text) : Option Text :=
  match nextBack path with
  | some (component, _) => if component = "..".toList then none else some component
  | none => none

/-- `Path::parent`. -/
def parent (path : Text) : Option Text :=
  (nextBack path).map Prod.snd

example : fileName "c:\\a\\.\\b\\".toList = some "b".toList := by decide

/-! ## The matcher -/

/-- `AllowlistMatcher`, without its cache. -/
structure AllowlistMatcher where
  entries : List AllowlistEntry
  selfImagePath : Text
  selfPid : UInt32

/-- `CachedSigner`.  Times are milliseconds of the monotonic clock. -/
structure CachedSigner where
  subject : Text
  thumbprint : Text
  cachedAt : Nat

/-- `SIGNER_CACHE_TTL`. -/
def signerCacheTtl : Nat := 300000

/-- The signer cache, and how often the clock has been read. -/
structure SignerState where
  cache : Text → Option CachedSigner
  readings : Nat

/-- What the matcher is told from outside. -/
structure AllowlistEnv where
  casing : Casing
  /-- `Pattern::new` accepts the pattern, and it matches the path. -/
  globMatch : Text → Text → Bool
  /-- `extract_cert_subject` and `extract_cert_thumbprint`. -/
  certSubject : Text → Option Text
  certThumbprint : Text → Option Text
  /-- The readings of `Instant::now`. -/
  clock : Nat → Nat

/-- `canonicalize_path`. -/
def canonicalizePath (casing : Casing) (path : Text) : Text :=
  casing.toLowercase (path.map fun char => if char = '/' then '\\' else char)

/-- The directories whose names are looked for in a parent. -/
def trustedMarks : List Text :=
  ["\\windows\\system32".toList, "\\windows\\syswow64".toList, "\\windows\\winsxs".toList]

/-- `is_trusted_dir`. -/
def isTrustedDir (parentStr : Text) : Bool :=
  (trustedMarks.any fun mark => containsText parentStr mark) ||
    decide ("\\windows".toList <:+ parentStr)

/-- `critical_names`. -/
def criticalNames : List Text :=
  ["csrss.exe".toList, "smss.exe".toList, "wininit.exe".toList, "services.exe".toList,
    "lsass.exe".toList, "fontdrvhost.exe".toList, "dwm.exe".toList, "svchost.exe".toList]

/-- `check_system_critical`. -/
def checkSystemCritical (casing : Casing) (imagePath : Text) : Option AllowlistCategory :=
  match fileName imagePath, parent imagePath with
  | some basename, some directory =>
      if isTrustedDir (casing.toLowercase directory) = false then none
      else if criticalNames.contains (casing.toLowercase basename) then some .systemCritical
      else none
  | _, _ => none

/-- The value of a prefix entry as it is compared. -/
def prefixNorm (casing : Casing) (lead : Text) : Text :=
  casing.toLowercase (lead.rdropWhile (· == '\\'))

/-- `prefix_match_directory_boundary`. -/
def prefixMatchDirectoryBoundary (casing : Casing) (lead path : Text) : Bool :=
  let leadNorm := prefixNorm casing lead
  let pathNorm := casing.toLowercase path
  if leadNorm.isPrefixOf pathNorm then
    let rest := pathNorm.drop leadNorm.length
    rest.isEmpty || rest.head? == some '\\'
  else false

/-- `str::eq_ignore_ascii_case`. -/
def eqIgnoreAsciiCase (left right : Text) : Bool :=
  decide (left.map Char.toLower = right.map Char.toLower)

/-- The first loop of `check`: an entry matches by its path. -/
def matchesPath (env : AllowlistEnv) (imagePath : Text) (entry : AllowlistEntry) : Bool :=
  match entry.matchType with
  | .exactPath => eqIgnoreAsciiCase imagePath entry.value.toList
  | .pathGlob => env.globMatch entry.value.toList imagePath
  | .pathPrefix => prefixMatchDirectoryBoundary env.casing entry.value.toList imagePath
  | .certSubject => false
  | .certThumbprint => false

/-- A cached signer that is still fresh.  The clock is read only if there is one. -/
def freshSigner (env : AllowlistEnv) (key : Text) (state : SignerState) :
    Option CachedSigner × SignerState :=
  match state.cache key with
  | some cached =>
      (if env.clock state.readings - cached.cachedAt < signerCacheTtl then some cached else none,
        { state with readings := state.readings + 1 })
  | none => (none, state)

/-- `get_cached_signer`. -/
def getCachedSigner (env : AllowlistEnv) (imagePath : Text) (state : SignerState) :
    Text × SignerState :=
  let key := env.casing.toLowercase imagePath
  match freshSigner env key state with
  | (some cached, state) => (cached.subject, state)
  | (none, state) =>
      let subject := (env.certSubject imagePath).getD []
      let thumbprint := (env.certThumbprint imagePath).getD []
      (subject,
        { cache := Function.update state.cache key
            (some ⟨subject, thumbprint, env.clock state.readings⟩)
          readings := state.readings + 1 })

/-- `get_cached_thumbprint`. -/
def getCachedThumbprint (env : AllowlistEnv) (imagePath : Text) (state : SignerState) :
    Text × SignerState :=
  let key := env.casing.toLowercase imagePath
  match freshSigner env key state with
  | (some cached, state) => (cached.thumbprint, state)
  | (none, state) =>
      let after := (getCachedSigner env imagePath state).2
      (((after.cache key).map CachedSigner.thumbprint).getD [], after)

/-- The second loop of `check`: the category of the first entry that matches the signer. -/
def matchSigner (env : AllowlistEnv) (imagePath : Text) :
    List AllowlistEntry → SignerState → Option AllowlistCategory × SignerState
  | [], state => (none, state)
  | entry :: rest, state =>
      match entry.matchType with
      | .certSubject =>
          let (subject, state) := getCachedSigner env imagePath state
          if containsText (env.casing.toLowercase subject)
              (env.casing.toLowercase entry.value.toList) then
            (some entry.category, state)
          else matchSigner env imagePath rest state
      | .certThumbprint =>
          let (thumbprint, state) := getCachedThumbprint env imagePath state
          if eqIgnoreAsciiCase thumbprint entry.value.toList then (some entry.category, state)
          else matchSigner env imagePath rest state
      | _ => matchSigner env imagePath rest state

/-- The entries of the matcher: first those with a path, then those with a signer. -/
def checkEntries (env : AllowlistEnv) (matcher : AllowlistMatcher) (imagePath : Text)
    (state : SignerState) : Option AllowlistCategory × SignerState :=
  match matcher.entries.find? (matchesPath env imagePath) with
  | some entry => (some entry.category, state)
  | none => matchSigner env imagePath matcher.entries state

/-- The image is the agent. -/
def isSelf (matcher : AllowlistMatcher) (pid : UInt32) (imagePath : Text) : Bool :=
  pid == matcher.selfPid || eqIgnoreAsciiCase imagePath matcher.selfImagePath

/-- `AllowlistMatcher::check`. -/
def AllowlistMatcher.check (env : AllowlistEnv) (matcher : AllowlistMatcher) (pid : UInt32)
    (imagePath : Text) (_creationTime : UInt64) (state : SignerState) :
    Option AllowlistCategory × SignerState :=
  if isSelf matcher pid imagePath then (some .selfProcess, state)
  else
    match checkSystemCritical env.casing imagePath with
    | some category => (some category, state)
    | none => checkEntries env matcher imagePath state

end DlpSystem.Agent
