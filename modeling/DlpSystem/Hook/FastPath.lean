import DlpSystem.Hook.CacheReader
import Mathlib.Data.List.DropRight

/-!
# What a trampoline asks before the pipe

The path allowlist (system directories, build tools, operator entries of the
shared mapping) and the thread-local LRU in front of the shared cache.
-/

namespace DlpSystem.Hook

open Common

/-! ## Allowlist -/

/-- `SYSTEM_PREFIXES`. -/
def systemPrefixes : List Str :=
  [ascii "C:\\WINDOWS\\SYSTEM32", ascii "C:\\WINDOWS\\SYSWOW64", ascii "C:\\WINDOWS\\WINSXS",
    ascii "C:\\WINDOWS\\WINDOWSAPPS", ascii "C:\\PROGRAM FILES\\COMMON FILES",
    ascii "C:\\PROGRAM FILES (X86)\\COMMON FILES"]

/-- `BUILD_TOOL_NAMES`. -/
def buildToolNames : List Str :=
  [ascii "DEVENV.EXE", ascii "CARGO.EXE", ascii "MSBUILD.EXE", ascii "RUSTC.EXE",
    ascii "LINK.EXE", ascii "GCC.EXE", ascii "CL.EXE"]

/-- `BUILD_TOOL_PARENT_DIRS`. -/
def buildToolParentDirs : List Str :=
  [ascii "C:\\PROGRAM FILES\\MICROSOFT VISUAL STUDIO",
    ascii "C:\\PROGRAM FILES (X86)\\MICROSOFT VISUAL STUDIO",
    ascii "C:\\PROGRAM FILES\\MICROSOFT.NET", ascii "C:\\RUST", ascii "C:\\MSYS64",
    ascii "C:\\MINGW"]

/-- `USER_WRITABLE_PREFIXES`. -/
def userWritablePrefixes : List Str :=
  [ascii "C:\\USERS", ascii "C:\\TEMP", ascii "C:\\WINDOWS\\TEMP", ascii "C:\\TMP"]

/-- `prefix_match_directory_boundary`. -/
def prefixMatchDirectoryBoundary (lead path : Str) : Bool :=
  let leadNorm := lead.rdropWhile (· == Str.backslash)
  if Str.startsWith path leadNorm then
    let rest := path.drop leadNorm.length
    rest.isEmpty || rest.head? == some Str.backslash
  else false

/-- `is_system_allowlisted`. -/
def isSystemAllowlisted (path : Str) : Bool :=
  systemPrefixes.any fun lead => prefixMatchDirectoryBoundary lead (Str.toAsciiUppercase path)

/-- `is_user_writable_directory`. -/
def isUserWritableDirectory (path : Str) : Bool :=
  userWritablePrefixes.any fun lead =>
    prefixMatchDirectoryBoundary lead (Str.toAsciiUppercase path)

/-- `verify_code_signer`, which the source stubs with `false`. -/
def verifyCodeSigner (_path : Str) : Bool := false

/-- `is_build_tool_allowlisted`. -/
def isBuildToolAllowlisted (path : Str) : Bool :=
  let upper := Str.toAsciiUppercase path
  let basename := upper.rtakeWhile (· != Str.backslash)
  if buildToolNames.contains basename = false then false
  else if upper.contains Str.backslash = false then false
  else
    -- The text before the last backslash.
    let parent := (upper.rdropWhile (· != Str.backslash)).dropLast
    if (buildToolParentDirs.any fun lead => prefixMatchDirectoryBoundary lead parent) = false then
      false
    else if isUserWritableDirectory parent then false
    else verifyCodeSigner path

/-- `u64::saturating_mul` and `u64::saturating_add`, on values. -/
def saturateU64 (value : Nat) : Nat :=
  min value (2 ^ 64 - 1)

/-- Whether one operator entry covers an upper-cased path; bytes that are not
UTF-8 count as the empty text. -/
def operatorEntryMatches (entry : AllowlistEntry) (upper : Str) : Bool :=
  let len := entry.prefixLen.toNat
  if len = 0 ∨ len > 260 then false
  else
    let bytes := entry.prefixBytes.toList.take len
    let text := if (ByteArray.mk bytes.toArray).validateUTF8 then bytes else []
    prefixMatchDirectoryBoundary (Str.toAsciiUppercase text) upper

/-- `is_operator_allowlisted`. -/
def isOperatorAllowlisted (target : Target) (path : Str) (mapping : Mapping) : Bool :=
  let header := mapping.header
  if header.allowlistOffset = 0 ∨ header.allowlistCount = 0 then false
  else
    let totalAllowlistSize := saturateU64 (header.allowlistCount.toNat * allowlistEntrySize)
    if saturateU64 (header.allowlistOffset.toNat + totalAllowlistSize) > header.totalSize.toNat then
      false
    else
      (List.range header.allowlistCount.toNat).any fun index =>
        operatorEntryMatches
          (mapping.allowlistAt
            (target.asUsize header.allowlistOffset.toNat +
              target.asUsize index * allowlistEntrySize))
          (Str.toAsciiUppercase path)

/-- `is_allowlisted`, first component; the category only names the list that
matched in a log line. -/
def isAllowlisted (target : Target) (path : Str) (cache : Option Mapping) : Bool :=
  isSystemAllowlisted path || isBuildToolAllowlisted path ||
    match cache with
    | some mapping => isOperatorAllowlisted target path mapping
    | none => false

/-! ## Thread-local LRU -/

/-- An entry of `LruCache`. -/
structure LruEntry where
  path : Str
  classification : Classification
  version : UInt64
  deriving DecidableEq

/-- An entry that was never written, or was cleared. -/
def LruEntry.empty : LruEntry := ⟨[], .T1, 0⟩

/-- `LruCache`. -/
structure LruCache where
  entries : Vector LruEntry 128
  cursor : Fin 128
  count : Nat

namespace LruCache

/-- `LruCache::new`; `clear_all` leaves the same value behind. -/
def new : LruCache := ⟨Vector.replicate 128 LruEntry.empty, 0, 0⟩

/-- `get`.  An entry of another version is cleared and ends the search. -/
def get (lru : LruCache) (path : Str) (currentVersion : UInt64) :
    Option Classification × LruCache :=
  let limit := min lru.count 128
  match (lru.entries.toList.zipIdx.take limit).find? fun slot => slot.1.path == path with
  | none => (none, lru)
  | some (entry, index) =>
      if entry.version = currentVersion then (some entry.classification, lru)
      else
        (none,
          { lru with
            entries := lru.entries.setIfInBounds index LruEntry.empty
            count := lru.count - 1 })

/-- `insert`. -/
def insert (lru : LruCache) (path : Str) (classification : Classification) (version : UInt64) :
    LruCache where
  entries := lru.entries.set lru.cursor ⟨path, classification, version⟩
  cursor := lru.cursor + 1
  count := if lru.count < 128 then lru.count + 1 else lru.count

end LruCache

/-- The slot at which `get` ends its search for a path. -/
def LruCache.slotOf (lru : LruCache) (path : Str) : Option (LruEntry × Nat) :=
  (lru.entries.toList.zipIdx.take (min lru.count 128)).find? fun slot => slot.1.path == path

section Lru

variable {lru : LruCache} {path : Str} {version : UInt64}

theorem LruCache.get_of_absent (absent : lru.slotOf path = none) :
    lru.get path version = (none, lru) := by
  rw [LruCache.slotOf] at absent
  simp only [LruCache.get, absent]

theorem LruCache.get_of_slot {entry : LruEntry} {index : Nat}
    (found : lru.slotOf path = some (entry, index)) :
    lru.get path version =
      if entry.version = version then (some entry.classification, lru)
      else
        (none,
          { lru with
            entries := lru.entries.setIfInBounds index LruEntry.empty
            count := lru.count - 1 }) := by
  rw [LruCache.slotOf] at found
  simp only [LruCache.get, found]

/-- The search ends at an entry for the path. -/
theorem LruCache.entry_of_slotOf {entry : LruEntry} {index : Nat}
    (found : lru.slotOf path = some (entry, index)) :
    entry.path = path ∧ lru.entries[index]? = some entry := by
  have member := List.mem_of_mem_take (List.mem_of_find?_eq_some found)
  constructor
  · simpa using List.find?_some found
  · simpa using List.mem_zipIdx_iff_getElem?.mp member

end Lru

/-! ## Cached classification -/

/-- What a thread keeps between calls. -/
structure ThreadLocals where
  lru : LruCache
  lastValidated : UInt64

/-- The state of a thread before its first call. -/
def ThreadLocals.new : ThreadLocals := ⟨LruCache.new, 0⟩

/-- Step 2 of `classify_and_log_path`: the LRU, then the shared cache, which
warms the LRU. -/
def cachedClassification (target : Target) (cache : Option Mapping) (locals : ThreadLocals)
    (path : Str) (op : HookOp) (nowSecs : UInt64) : Option Classification × ThreadLocals :=
  match cache with
  | none => (none, locals)
  | some mapping =>
      let cacheVersion := mapping.versionWord >>> 1
      match locals.lru.get path cacheVersion with
      | (some classification, lru) => (some classification, { locals with lru := lru })
      | (none, lru) =>
          let ((found, lastValidated), _) :=
            (lookup target path op nowSecs locals.lastValidated).run mapping
          match found with
          | some classification =>
              (some classification, ⟨lru.insert path classification cacheVersion, lastValidated⟩)
          | none => (none, ⟨lru, lastValidated⟩)

end DlpSystem.Hook
