import DlpSystem.Agent.DeviceRegistry
import DlpSystem.Server.AdminApi

/-!
# Trust tiers on their way to the agent

The server returns its devices to agents without their trust tiers, and the agent cannot
read an entry without one.  Only the answer of an empty registry is read, so a refresh
never gives the agent a device.
-/

namespace DlpSystem.Devices

open Agent Lib Server

/-! ## What the agent reads -/

theorem ofJson_publicDeviceEntry (row : DeviceRegistryRow) :
    DeviceRegistryEntry.ofJson (publicDeviceEntry row) = none := by
  have noTier : Json.stringField "trust_tier" [
      ("vid", .string row.vid),
      ("pid", .string row.pid),
      ("serial", .string row.serial),
      ("owner_sid", .ofOptionalString row.ownerSid),
      ("owner_user", .ofOptionalString row.ownerUser)] = none := by
    apply Json.stringField_eq_none
    simp
  rw [publicDeviceEntry, DeviceRegistryEntry.ofJson, noTier]
  simp

/-- The answer of the server can be read only if it is empty. -/
theorem readDeviceRegistry_listDeviceRegistryHandler (table : List DeviceRegistryRow) :
    readDeviceRegistry (listDeviceRegistryHandler table) =
      if table = [] then some [] else none := by
  rw [listDeviceRegistryHandler, readDeviceRegistry]
  cases listed : listDevices table with
  | nil =>
      have empty : table = [] := (sortAscending_eq_nil_iff _ _).mp listed
      rw [if_pos empty]
      rfl
  | cons row rest =>
      have nonempty : table ≠ [] := by
        intro empty
        rw [empty] at listed
        cases listed
      rw [if_neg nonempty, List.map_cons, List.mapM_cons, ofJson_publicDeviceEntry]
      rfl

/-- A refresh empties the map or leaves it as it is. -/
theorem refreshWithSid_listDeviceRegistryHandler (cache : DeviceRegistryCache)
    (table : List DeviceRegistryRow) :
    cache.refreshWithSid (some (listDeviceRegistryHandler table)) =
      if table = [] then fun _ => none else cache := by
  rw [DeviceRegistryCache.refreshWithSid, Option.bind_some,
    readDeviceRegistry_listDeviceRegistryHandler]
  by_cases empty : table = []
  · rw [if_pos empty, if_pos empty]
    rfl
  · rw [if_neg empty, if_neg empty]

/-! ## Tables that upserts write -/

/-- A request to `upsert_device_registry_handler`, with the id and the time it would be
stored under. -/
structure DeviceUpsert where
  id : String
  createdAt : String
  body : DeviceRegistryRequest

/-- The table after some requests. -/
def tableAfter (upserts : List DeviceUpsert) : List DeviceRegistryRow :=
  upserts.foldl
    (fun table upsert =>
      (upsertDeviceRegistryHandler upsert.id upsert.createdAt table upsert.body).1) []

theorem validate_eq_ok_iff (body : DeviceRegistryRequest) :
    body.validate = .ok () ↔ body.trustTier ∈ validTiers := by
  unfold DeviceRegistryRequest.validate
  constructor
  · intro valid
    split at valid
    · cases valid
    · split at valid
      · cases valid
      · rename_i known
        exact not_not.mp known
  · intro known
    have short : ¬ body.trustTier.utf8ByteSize > 32 := by
      simp only [validTiers, List.mem_cons, List.not_mem_nil, or_false] at known
      rcases known with tier | tier | tier <;> rw [tier] <;> decide
    rw [if_neg short, if_neg (not_not.mpr known)]

/-- A request with an unknown tier changes nothing. -/
theorem upsert_of_unknown {id createdAt : String} {table : List DeviceRegistryRow}
    {body : DeviceRegistryRequest} (unknown : body.trustTier ∉ validTiers) :
    (upsertDeviceRegistryHandler id createdAt table body).1 = table := by
  unfold upsertDeviceRegistryHandler
  cases checked : body.validate with
  | error error => rfl
  | ok valid => exact absurd ((validate_eq_ok_iff body).mp checked) unknown

theorem upsertDevice_ne_nil {table written : List DeviceRegistryRow} {row : DeviceRegistryRow}
    (done : upsertDevice table row = .ok written) : written ≠ [] := by
  unfold upsertDevice at done
  split at done
  · cases done
  · split at done
    · rename_i stored
      cases done
      intro empty
      rw [List.map_eq_nil_iff] at empty
      rw [empty] at stored
      cases stored
    · split at done
      · cases done
      · cases done
        exact List.append_ne_nil_of_right_ne_nil _ (List.cons_ne_nil _ _)

/-- A table with a device keeps one. -/
theorem upsert_ne_nil {id createdAt : String} {table : List DeviceRegistryRow}
    {body : DeviceRegistryRequest} (nonempty : table ≠ []) :
    (upsertDeviceRegistryHandler id createdAt table body).1 ≠ [] := by
  unfold upsertDeviceRegistryHandler
  split
  · exact nonempty
  · split
    · exact nonempty
    · rename_i written done
      exact upsertDevice_ne_nil done

/-- A request with a known tier puts a device into an empty table. -/
theorem upsert_nil_ne_nil {id createdAt : String} {body : DeviceRegistryRequest}
    (known : body.trustTier ∈ validTiers) :
    (upsertDeviceRegistryHandler id createdAt [] body).1 ≠ [] := by
  rw [upsertDeviceRegistryHandler, (validate_eq_ok_iff body).mpr known]
  simp [upsertDevice, known]

/-- The table is empty as long as no request had a known tier. -/
theorem tableAfter_eq_nil_iff (upserts : List DeviceUpsert) :
    tableAfter upserts = [] ↔ ∀ upsert ∈ upserts, upsert.body.trustTier ∉ validTiers := by
  induction upserts using List.reverseRecOn with
  | nil => simp [tableAfter]
  | append_singleton rest last ih =>
      have step : tableAfter (rest ++ [last]) =
          (upsertDeviceRegistryHandler last.id last.createdAt (tableAfter rest) last.body).1 := by
        rw [tableAfter, List.foldl_append]
        rfl
      rw [step, List.forall_mem_append, ← ih, List.forall_mem_singleton]
      constructor
      · intro empty
        have restEmpty : tableAfter rest = [] := by
          by_contra nonempty
          exact upsert_ne_nil nonempty empty
        constructor
        · exact restEmpty
        · intro known
          rw [restEmpty] at empty
          exact upsert_nil_ne_nil known empty
      · rintro ⟨restEmpty, unknown⟩
        rw [upsert_of_unknown unknown, restEmpty]

/-! ## Delivery -/

/-- The key of a row in the map of the agent. -/
def rowKey (row : DeviceRegistryRow) : DeviceCacheKey :=
  deviceCacheKey row.vid row.pid row.serial row.ownerSid

/-- The answer for a table can be read, and the map has the tier of every row and no other
device. -/
structure Delivered (table : List DeviceRegistryRow) (cache : DeviceRegistryCache) : Prop where
  decodes : (readDeviceRegistry (listDeviceRegistryHandler table)).isSome
  tiers : ∀ row ∈ table,
    (cache (rowKey row)).isSome ∧ cache (rowKey row) = UsbTrustTier.ofText row.trustTier
  others : ∀ key, (cache key).isSome → ∃ row ∈ table, key = rowKey row

theorem delivered_iff_eq_nil (table : List DeviceRegistryRow) (cache : DeviceRegistryCache) :
    Delivered table (cache.refreshWithSid (some (listDeviceRegistryHandler table))) ↔
      table = [] := by
  constructor
  · intro delivered
    by_contra nonempty
    have decodes := delivered.decodes
    rw [readDeviceRegistry_listDeviceRegistryHandler, if_neg nonempty] at decodes
    cases decodes
  · rintro rfl
    rw [refreshWithSid_listDeviceRegistryHandler, if_pos rfl]
    constructor
    · rfl
    · intro row member
      cases member
    · intro key known
      cases known

/-- The tiers of a table reach the agent if and only if no request that wrote it had a
known tier, so that it is empty. -/
theorem tiers_delivered_iff (upserts : List DeviceUpsert) (cache : DeviceRegistryCache) :
    Delivered (tableAfter upserts)
        (cache.refreshWithSid (some (listDeviceRegistryHandler (tableAfter upserts)))) ↔
      ∀ upsert ∈ upserts, upsert.body.trustTier ∉ validTiers := by
  rw [delivered_iff_eq_nil, tableAfter_eq_nil_iff]

/-- A device with full access. -/
def trustedDevice : DeviceUpsert where
  id := "u1"
  createdAt := "t0"
  body := ⟨"0951", "1666", "A1", none, none, "", "full_access"⟩

/-- The only device of the server has full access, and after a refresh the agent still
blocks it. -/
theorem trustedDevice_not_delivered :
    (tableAfter [trustedDevice]).Pairwise (fun left right => rowKey left ≠ rowKey right) ∧
      ¬ Delivered (tableAfter [trustedDevice])
        (DeviceRegistryCache.refreshWithSid (fun _ => none)
          (some (listDeviceRegistryHandler (tableAfter [trustedDevice])))) ∧
      (DeviceRegistryCache.refreshWithSid (fun _ => none)
        (some (listDeviceRegistryHandler (tableAfter [trustedDevice])))).trustTierForWithSid
          "0951" "1666" "A1" none = ⟨.blocked, none⟩ := by
  have table : tableAfter [trustedDevice] =
      [⟨"u1", "0951", "1666", "A1", none, none, "", "full_access", "t0"⟩] := rfl
  rw [table]
  constructor
  · exact List.pairwise_singleton _ _
  constructor
  · rw [delivered_iff_eq_nil]
    exact List.cons_ne_nil _ _
  · rw [refreshWithSid_listDeviceRegistryHandler, if_neg (List.cons_ne_nil _ _)]
    rfl

/-! ## Runs of the server and an agent -/

/-- What happens to the registry and to an agent that polls it. -/
inductive DeviceEvent
  | upsert (request : DeviceUpsert)
  | delete (id : String)
  /-- A refresh, which may fail to reach the server. -/
  | refresh (answered : Bool)

/-- The table of the server and the map of the agent. -/
structure DeviceState where
  table : List DeviceRegistryRow
  cache : DeviceRegistryCache

namespace DeviceState

/-- One event. -/
def step (state : DeviceState) : DeviceEvent → DeviceState
  | .upsert request =>
      { state with
        table :=
          (upsertDeviceRegistryHandler request.id request.createdAt state.table request.body).1 }
  | .delete id => { state with table := (deleteDeviceRegistryHandler state.table id).1 }
  | .refresh answered =>
      { state with
        cache := state.cache.refreshWithSid
          (if answered then some (listDeviceRegistryHandler state.table) else none) }

theorem step_cache_eq_none {state : DeviceState} (empty : state.cache = fun _ => none)
    (event : DeviceEvent) : (state.step event).cache = fun _ => none := by
  cases event with
  | upsert request => exact empty
  | delete id => exact empty
  | refresh answered =>
      cases answered with
      | false => exact empty
      | true =>
          change state.cache.refreshWithSid (some (listDeviceRegistryHandler state.table)) = _
          rw [refreshWithSid_listDeviceRegistryHandler, empty, ite_self]

theorem foldl_cache_eq_none {state : DeviceState} (empty : state.cache = fun _ => none)
    (events : List DeviceEvent) : (events.foldl step state).cache = fun _ => none := by
  induction events generalizing state with
  | nil => exact empty
  | cons event rest ih => exact ih (step_cache_eq_none empty event)

/-- Whatever is registered and however often the agent polls, an agent that started with
an empty map blocks every device. -/
theorem run_blocks_every_device (events : List DeviceEvent) (vid pid serial : String)
    (ownerSid : Option String) :
    (events.foldl step ⟨[], fun _ => none⟩).cache.trustTierForWithSid vid pid serial ownerSid =
      ⟨.blocked, none⟩ := by
  rw [foldl_cache_eq_none rfl]
  cases ownerSid <;> rfl

end DeviceState

end DlpSystem.Devices
