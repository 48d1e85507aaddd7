import DlpSystem.Common.Abac
import Mathlib.Logic.Function.Basic

/-!
# Label resolution

`resolve_tier_and_label_id`: the tier of a path from its own label and from the
nearest labelled folder above it, behind a cache with a time to live.
-/

namespace DlpSystem.Server

open Abac

/-- `ObjectType`. -/
inductive ObjectType
  | file
  | folder
  | archive
  deriving DecidableEq

/-- The columns of `labels` that resolution and approvals read, in the order of
insertion.  The table checks that `tier` is one of the five texts. -/
structure LabelRow where
  id : String
  path : String
  objectType : ObjectType
  tier : Tier
  deriving DecidableEq

/-- The table, and which reads of a resolution fail. -/
structure LabelDb where
  rows : List LabelRow
  exactFails : Bool
  parentFails : Bool
  folderFails : String → Bool

/-- `get_by_path`; `none` is a database error. -/
def LabelDb.getByPath (db : LabelDb) (path : String) : Option (Option LabelRow) :=
  if db.exactFails then none else some (db.rows.find? fun row => row.path = path)

/-- The paths above a path, nearest first: what stands before each separator.  The
path is given from its end. -/
def foldersAbove : List Char → List (List Char)
  | [] => []
  | char :: rest =>
      if char = '\\' ∨ char = '/' then
        if rest = [] then [] else rest :: foldersAbove rest
      else foldersAbove rest

/-- `find_parent_label`.  Its walk takes a folder whose query fails for an unlabelled
one; only the connection itself can fail the lookup. -/
def LabelDb.findParentLabel (db : LabelDb) (childPath : String) : Option (Option LabelRow) :=
  if db.parentFails then none
  else
    some ((foldersAbove childPath.toList.reverse).findSome? fun reversed =>
      let parent := String.ofList reversed.reverse
      if db.folderFails parent then none
      else db.rows.find? fun row => row.path = parent && row.objectType = .folder)

/-- `ResolutionSource`. -/
inductive ResolutionSource
  | exact
  | inherited
  | fallback
  | lookupFailed
  deriving DecidableEq

/-- `ResolvedTierWithId`. -/
structure ResolvedTierWithId where
  tier : Tier
  source : ResolutionSource
  parentPath : Option String
  labelId : Option String
  deriving DecidableEq

/-- `CacheEntry`, with the time of its insertion in milliseconds. -/
structure LabelCacheEntry where
  tier : Tier
  source : ResolutionSource
  parentPath : Option String
  inserted : Nat
  deriving DecidableEq

/-- `LabelService`, at a time. -/
structure LabelService where
  db : LabelDb
  cache : String → Option LabelCacheEntry
  now : Nat

/-- The time to live of a cache entry. -/
def labelCacheTtl : Nat := 30 * 1000

/-- `LabelCache::get`. -/
def LabelService.cached (service : LabelService) (path : String) : Option LabelCacheEntry :=
  (service.cache path).filter fun entry => service.now - entry.inserted < labelCacheTtl

/-- `cache_entry_to_resolved_with_id`: the cache does not keep the label id. -/
def LabelCacheEntry.toResolved (entry : LabelCacheEntry) : ResolvedTierWithId :=
  match entry.source with
  | .exact => ⟨entry.tier, .exact, none, none⟩
  | .inherited => ⟨entry.tier, .inherited, entry.parentPath, none⟩
  | .fallback => ⟨.unclassifiedBlocked, .fallback, none, none⟩
  | .lookupFailed => ⟨.unclassifiedBlocked, .lookupFailed, none, none⟩

/-- `resolved_with_id_to_cache_entry`. -/
def ResolvedTierWithId.toCacheEntry (resolved : ResolvedTierWithId) (now : Nat) :
    LabelCacheEntry :=
  match resolved.source with
  | .exact => ⟨resolved.tier, .exact, none, now⟩
  | .inherited => ⟨resolved.tier, .inherited, resolved.parentPath, now⟩
  | .fallback => ⟨.unclassifiedBlocked, .fallback, none, now⟩
  | .lookupFailed => ⟨.unclassifiedBlocked, .lookupFailed, none, now⟩

/-- The result of a failed read. -/
def lookupFailed : ResolvedTierWithId :=
  ⟨.unclassifiedBlocked, .lookupFailed, none, none⟩

/-- The comparison of a path's own label with the nearest folder's. -/
def combineLabels : Option LabelRow → Option LabelRow → ResolvedTierWithId
  | some exact, some parent =>
      if exact.tier.isStricterThan parent.tier ||
          exact.tier.strictnessRank == parent.tier.strictnessRank then
        ⟨exact.tier, .exact, none, some exact.id⟩
      else ⟨parent.tier, .inherited, some parent.path, some parent.id⟩
  | some exact, none => ⟨exact.tier, .exact, none, some exact.id⟩
  | none, some parent => ⟨parent.tier, .inherited, some parent.path, some parent.id⟩
  | none, none => ⟨.unclassifiedBlocked, .fallback, none, none⟩

/-- `resolve_tier_and_label_id`, with the service it leaves. -/
def LabelService.resolveTierAndLabelId (service : LabelService) (path : String) :
    ResolvedTierWithId × LabelService :=
  match service.cached path with
  | some entry => (entry.toResolved, service)
  | none =>
      match service.db.getByPath path with
      | none => (lookupFailed, service)
      | some exact =>
          match service.db.findParentLabel path with
          | none => (lookupFailed, service)
          | some parent =>
              let result := combineLabels exact parent
              (result,
                { service with
                  cache := Function.update service.cache path
                    (some (result.toCacheEntry service.now)) })

end DlpSystem.Server
