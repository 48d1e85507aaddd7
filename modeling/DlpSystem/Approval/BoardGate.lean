import DlpSystem.Approval.Requests

/-!
# Tokens for T4 objects

A grant reads the tier of its object once, before it asks for the Board's signature.  A
failed read counts as no tier, and neither the signing that follows nor the list, which
signs anew for every sync, looks at the tier again.
-/

namespace DlpSystem.Approvals

open Common Abac Server
open Lib (Each bind_eq_ok_iff)

/-! ## What the Board has signed -/

/-- An approval that a token may be signed for, with its signature and the grant that
stored it. -/
structure Carrier where
  jti : String
  sub : String
  obj : String
  act : String
  signature : Option String
  grant : Option GrantRecord
  deriving DecidableEq

/-- The signature verifies under the Board key of the grant, over the approval and the
`valid_until` granted. -/
def Carrier.Signed (env : ApprovalEnv) (carrier : Carrier) : Prop :=
  ∃ record key signature, carrier.grant = some record ∧ record.boardKey = some key ∧
    carrier.signature = some signature ∧
    verifyBoardSignature env key
      (t4CanonicalMessage carrier.jti carrier.sub carrier.obj carrier.act record.validUntil)
      signature = .ok true

/-- The approval behind a token. -/
def Signing.carrier (signing : Signing) : Carrier :=
  ⟨signing.claims.jti, signing.claims.sub, signing.claims.obj, signing.claims.act,
    signing.signature, signing.grant⟩

/-- A token for an object of tier T4 has the Board behind it. -/
def Signing.Backed (env : ApprovalEnv) (signing : Signing) : Prop :=
  signing.tier = some .T4 → signing.carrier.Signed env

/-- A row of the table, with its grant. -/
def rowCarrier (row : ApprovalRow) (grant : Option GrantRecord) : Carrier :=
  ⟨row.id, row.requesterSid, row.dataObjectId, row.allowedAction, row.signature, grant⟩

/-- A grant in flight, with the Board key of its signature check. -/
def grantCarrier (id : String) (body : GrantRequest) (row : ApprovalRow)
    (boardKey : Option String) : Carrier :=
  ⟨id, row.requesterSid, row.dataObjectId, row.allowedAction, body.signature,
    some ⟨body.validUntil, boardKey⟩⟩

/-- The approvals that a request in flight may still get signed or stored without another
look at the tier. -/
def Request.carriers : Request → List Carrier
  | .granting id body _ row (.gated boardKey) => [grantCarrier id body row boardKey]
  | .granting id body _ row (.signed boardKey _ _) => [grantCarrier id body row boardKey]
  | .listing rows => rows.map fun pair => rowCarrier pair.1 pair.2
  | _ => []

/-- The approvals past the gate: approved rows and those of requests in flight. -/
inductive PastGate (server : ApprovalServer) : Carrier → Prop
  | approved (row : ApprovalRow) (present : row ∈ server.db.approvals.rows)
      (status : row.status = .approved) : PastGate server (rowCarrier row (server.grants row.id))
  | inFlight (request : Request) (member : request ∈ server.requests) (carrier : Carrier)
      (carried : carrier ∈ request.carriers) : PastGate server carrier

/-! ## The condition -/

/-- What a step makes of the labels. -/
def relabel (labels : List LabelRow) : ServerStep → List LabelRow
  | .createLabel row => insertLabel labels row
  | .updateLabel row => setLabel labels row
  | .deleteLabel id => labels.filter fun label => label.id ≠ id
  | _ => labels

/-- A label becomes T4 only when every approval past the gate that names it is signed by
the Board. -/
def RetiersSafely (env : ApprovalEnv) (server : ApprovalServer) (step : ServerStep) : Prop :=
  ∀ carrier, PastGate server carrier →
    tierOf (relabel server.db.labels step) carrier.obj = some .T4 →
    tierOf server.db.labels carrier.obj ≠ some .T4 → carrier.Signed env

/-- A grant that is about to pass the gate has read the tier if its object is T4 now, or
brings the Board's signature nevertheless. -/
def ReadsTier (env : ApprovalEnv) (server : ApprovalServer) : ServerStep → Prop
  | .advance index _ _ _ =>
      ∀ id body validUntil row tier,
        server.requests[index]? = some (.granting id body validUntil row (.tiered tier)) →
        tier ≠ some .T4 → tierOf server.db.labels row.dataObjectId = some .T4 →
        (grantCarrier id body row server.db.boardKey).Signed env
  | _ => True

/-- The condition on a step. -/
def GateHolds (env : ApprovalEnv) (server : ApprovalServer) (step : ServerStep) : Prop :=
  RetiersSafely env server step ∧ ReadsTier env server step

/-! ## The invariant -/

/-- What a request has read of an approval is still what the table says about it. -/
def Fetched (approvals : ApprovalTable) : Request → Prop
  | .granting id _ _ row _ =>
      ∃ current, approvals.getById id = some current ∧
        current.requesterSid = row.requesterSid ∧ current.dataObjectId = row.dataObjectId ∧
        current.allowedAction = row.allowedAction
  | _ => True

/-- Everything past the gate that names a T4 object is signed by the Board, and so was
everything that got a token. -/
structure Guarded (env : ApprovalEnv) (server : ApprovalServer) : Prop where
  pastGate : ∀ carrier, PastGate server carrier →
    tierOf server.db.labels carrier.obj = some .T4 → carrier.Signed env
  fetched : ∀ request ∈ server.requests, Fetched server.db.approvals request
  backed : ∀ signing ∈ server.signings, signing.Backed env

/-- A table that keeps what others say about its approvals. -/
def Keeps (before after : ApprovalTable) : Prop :=
  ∀ id current, before.getById id = some current →
    ∃ later, after.getById id = some later ∧ later.requesterSid = current.requesterSid ∧
      later.dataObjectId = current.dataObjectId ∧ later.allowedAction = current.allowedAction

theorem Keeps.refl (table : ApprovalTable) : Keeps table table := by
  intro id current found
  exact ⟨current, found, rfl, rfl, rfl⟩

theorem keeps_updateState (table : ApprovalTable) (update : StateUpdate) :
    Keeps table (table.updateState update).1 := by
  intro id current found
  refine ⟨update.apply current, ?_, ?_⟩
  · rw [ApprovalTable.getById_updateState, found, Option.map_some]
  · unfold StateUpdate.apply
    split <;> exact ⟨rfl, rfl, rfl⟩

theorem keeps_insert {table left : ApprovalTable} {record : ApprovalUpsertRow}
    (inserted : table.insert record = some left) : Keeps table left := by
  intro id current found
  refine ⟨current, ?_, rfl, rfl, rfl⟩
  rw [ApprovalTable.getById_insert inserted]
  split
  · next named =>
      rw [← named, ApprovalTable.fresh_of_insert inserted] at found
      cases found
  · exact found

theorem Fetched.keep {before after : ApprovalTable} (keeps : Keeps before after)
    {request : Request} (fetched : Fetched before request) : Fetched after request := by
  cases request with
  | granting id body validUntil row stage =>
      rcases fetched with ⟨current, found, requester, object, action⟩
      rcases keeps id current found with ⟨later, foundLater, requester', object', action'⟩
      exact ⟨later, foundLater, requester'.trans requester, object'.trans object,
        action'.trans action⟩
  | rejecting id row => trivial
  | revoking id row => trivial
  | auditing kind id approval => trivial
  | listing rows => trivial

section Steps

variable {env : ApprovalEnv} {server : ApprovalServer}

/-! ## Labels and new requests -/

/-- Labels and the Board key do not matter for what is past the gate. -/
theorem PastGate.of_same {other : ApprovalServer} {carrier : Carrier}
    (past : PastGate other carrier) (approvals : other.db.approvals = server.db.approvals)
    (requests : other.requests = server.requests) (grants : other.grants = server.grants) :
    PastGate server carrier := by
  cases past with
  | approved row present status =>
      rw [grants]
      rw [approvals] at present
      exact .approved row present status
  | inFlight request member carrier carried =>
      rw [requests] at member
      exact .inFlight request member carrier carried

theorem Guarded.relabel (guarded : Guarded env server) {step : ServerStep}
    (safely : RetiersSafely env server step) :
    Guarded env (server.withLabels (relabel server.db.labels step)) := by
  refine ⟨?_, guarded.fetched, guarded.backed⟩
  intro carrier past isT4
  have before := @PastGate.of_same server _ carrier past rfl rfl rfl
  by_cases wasT4 : tierOf server.db.labels carrier.obj = some .T4
  · exact guarded.pastGate carrier before wasT4
  · exact safely carrier before isT4 wasT4

/-- A request joins those in flight. -/
theorem Guarded.join (guarded : Guarded env server) {request : Request}
    (fetched : Fetched server.db.approvals request)
    (signed : ∀ carrier ∈ request.carriers,
      tierOf server.db.labels carrier.obj = some .T4 → carrier.Signed env) :
    Guarded env { server with requests := server.requests ++ [request] } := by
  constructor
  · intro carrier past isT4
    cases past with
    | approved row present status => exact guarded.pastGate _ (.approved row present status) isT4
    | inFlight other member carrier carried =>
        rcases List.mem_append.mp member with known | new
        · exact guarded.pastGate _ (.inFlight other known carrier carried) isT4
        · cases List.mem_singleton.mp new
          exact signed carrier carried isT4
  · intro other member
    rcases List.mem_append.mp member with known | new
    · exact guarded.fetched other known
    · cases List.mem_singleton.mp new
      exact fetched
  · exact guarded.backed

/-- A request without anything past the gate is accepted. -/
theorem Guarded.accept (guarded : Guarded env server) {accepted : Except AppError Request}
    (fetched : ∀ request, accepted = .ok request →
      Fetched server.db.approvals request ∧ request.carriers = []) :
    Guarded env (server.accept accepted) := by
  cases outcome : accepted with
  | error error => exact guarded
  | ok request =>
      apply guarded.join (fetched request outcome).1
      rw [(fetched request outcome).2]
      intro carrier member
      cases member

/-- The rows of a list are approved when they are read. -/
theorem Guarded.list (guarded : Guarded env server) (now : String) :
    Guarded env { server with
      requests := server.requests ++ [.listing ((server.db.approvals.selectActive now).map fun row =>
        (row, server.grants row.id))] } := by
  apply guarded.join (show Fetched _ (.listing _) from trivial)
  intro carrier carried isT4
  rcases List.mem_map.mp carried with ⟨pair, listed, rfl⟩
  rcases List.mem_map.mp listed with ⟨row, selected, rfl⟩
  rcases ApprovalTable.mem_selectActive.mp selected with ⟨present, active⟩
  exact guarded.pastGate _ (.approved row present (ApprovalTable.status_of_isActive active)) isT4

/-- A new approval is pending. -/
theorem Guarded.create (guarded : Guarded env server) {record : ApprovalUpsertRow}
    {approvals : ApprovalTable} (inserted : server.db.approvals.insert record = some approvals) :
    Guarded env { server with db := { server.db with approvals := approvals } } := by
  constructor
  · intro carrier past isT4
    cases past with
    | approved row present status =>
        have found := (ApprovalTable.getById_insert inserted).symm.trans
          (ApprovalTable.getById_eq_some_iff.mpr ⟨present, rfl⟩)
        split at found
        · cases Option.some.inj found
          cases status
        · have known := (ApprovalTable.getById_eq_some_iff.mp found).1
          exact guarded.pastGate _ (.approved row known status) isT4
    | inFlight request member carrier carried =>
        have known : request ∈ server.requests := member
        exact guarded.pastGate _ (.inFlight request known carrier carried) isT4
  · intro request member
    exact (guarded.fetched request member).keep (keeps_insert inserted)
  · exact guarded.backed

/-! ## The steps of a request -/

variable {index : Nat} {request : Request}

/-- A request's step keeps the guard when what it leaves behind does: the approved rows,
the request's next stage and the token it has signed. -/
theorem Guarded.absorb (guarded : Guarded env server) {effect : Effect}
    (labels : effect.db.labels = server.db.labels)
    (keeps : Keeps server.db.approvals effect.db.approvals)
    (rows : ∀ row ∈ effect.db.approvals.rows, row.status = .approved →
      tierOf server.db.labels row.dataObjectId = some .T4 →
      (rowCarrier row ((server.absorb index effect).grants row.id)).Signed env)
    (next : ∀ later, effect.next = some later → Fetched server.db.approvals later ∧
      ∀ carrier ∈ later.carriers, tierOf server.db.labels carrier.obj = some .T4 →
        carrier.Signed env)
    (signing : ∀ signing, effect.signing = some signing → signing.Backed env) :
    Guarded env (server.absorb index effect) := by
  constructor
  · intro carrier past isT4
    have isT4 : tierOf server.db.labels carrier.obj = some .T4 := labels ▸ isT4
    cases past with
    | approved row present status => exact rows row present status isT4
    | inFlight other member carrier carried =>
        rcases List.mem_append.mp member with known | new
        · have known := List.mem_of_mem_eraseIdx known
          exact guarded.pastGate _ (.inFlight other known carrier carried) isT4
        · exact (next other (Option.mem_toList.mp new)).2 carrier carried isT4
  · intro other member
    rcases List.mem_append.mp member with known | new
    · exact (guarded.fetched other (List.mem_of_mem_eraseIdx known)).keep keeps
    · exact (next other (Option.mem_toList.mp new)).1.keep keeps
  · intro other member
    rcases List.mem_append.mp member with known | new
    · exact guarded.backed other known
    · exact signing other (Option.mem_toList.mp new)

/-- A step that leaves approvals, labels and grants alone. -/
theorem Guarded.absorb_quiet (guarded : Guarded env server) {effect : Effect}
    (labels : effect.db.labels = server.db.labels)
    (approvals : effect.db.approvals = server.db.approvals) (ungranted : effect.granted = none)
    (next : ∀ later, effect.next = some later → Fetched server.db.approvals later ∧
      ∀ carrier ∈ later.carriers, tierOf server.db.labels carrier.obj = some .T4 →
        carrier.Signed env)
    (signing : ∀ signing, effect.signing = some signing → signing.Backed env) :
    Guarded env (server.absorb index effect) := by
  refine guarded.absorb labels (approvals ▸ Keeps.refl _) ?_ next signing
  intro row present status isT4
  rw [approvals] at present
  have sameGrants : (server.absorb index effect).grants = server.grants := by
    simp only [ApprovalServer.absorb, ungranted]
  rw [sameGrants]
  exact guarded.pastGate _ (.approved row present status) isT4

theorem Guarded.absorb_fail (guarded : Guarded env server) :
    Guarded env (server.absorb index (.fail server.db)) := by
  apply guarded.absorb_quiet rfl rfl rfl
  · intro later none
    cases none
  · intro signing none
    cases none

/-- A step that only takes the request to its next stage. -/
theorem Guarded.absorb_proceed (guarded : Guarded env server) (later : Request)
    (fetched : Fetched server.db.approvals later)
    (signed : ∀ carrier ∈ later.carriers, tierOf server.db.labels carrier.obj = some .T4 →
      carrier.Signed env) :
    Guarded env (server.absorb index (.proceed server.db later)) := by
  apply guarded.absorb_quiet rfl rfl rfl
  · intro other next
    cases Option.some.inj next
    exact ⟨fetched, signed⟩
  · intro signing none
    cases none

/-- An approved row after an update is an approved row that the update does not touch, or
the row that it approves. -/
theorem approved_of_updated {table : ApprovalTable} {update : StateUpdate} {row : ApprovalRow}
    (present : row ∈ (table.updateState update).1.rows) (status : row.status = .approved) :
    (row ∈ table.rows ∧ ¬ update.applies row) ∨
      ∃ current, table.getById update.id = some current ∧ row = update.set current ∧
        update.newStatus = .approved := by
  rcases List.mem_map.mp present with ⟨current, known, rfl⟩
  by_cases applies : update.applies current
  · rw [StateUpdate.apply, if_pos applies] at status ⊢
    have named := ((update.applies_iff current).mp applies).1
    exact Or.inr ⟨current, ApprovalTable.getById_eq_some_iff.mpr ⟨known, named⟩, rfl, status⟩
  · rw [StateUpdate.apply, if_neg applies]
    exact Or.inl ⟨known, applies⟩

/-- A reject or a revoke approves nothing. -/
theorem Guarded.commit_other (guarded : Guarded env server) (fails : Bool) {update : StateUpdate}
    (kind : RequestKind) (approval : ApprovalRow) (other : update.newStatus ≠ .approved) :
    Guarded env
      (server.absorb index (Request.commit server.db fails update kind approval none)) := by
  unfold Request.commit
  cases committed : commitUpdate server.db.approvals fails update with
  | error error => exact guarded.absorb_fail
  | ok approvals =>
      rcases commitUpdate_eq_ok_iff.mp committed with ⟨_, _, rfl⟩
      apply guarded.absorb rfl (keeps_updateState _ update)
      · intro row present status isT4
        rcases approved_of_updated present status with ⟨known, _⟩ | ⟨_, _, _, approves⟩
        · exact guarded.pastGate _ (.approved row known status) isT4
        · exact absurd approves other
      · intro later next
        cases Option.some.inj next
        exact ⟨trivial, fun _ member => by cases member⟩
      · intro signing none
        cases none

/-- A grant stores what it has checked. -/
theorem Guarded.commit_grant (guarded : Guarded env server) (fails : Bool) {id : String}
    {body : GrantRequest} {validUntil grantedAt : DateTime} {row : ApprovalRow}
    {boardKey : Option String} (approval : ApprovalRow)
    (fetched : Fetched server.db.approvals (.granting id body validUntil row .fetched))
    (signed : tierOf server.db.labels row.dataObjectId = some .T4 →
      (grantCarrier id body row boardKey).Signed env) :
    Guarded env (server.absorb index
      (Request.commit server.db fails (grantUpdate env id body grantedAt validUntil) .grant approval
        (some (id, ⟨body.validUntil, boardKey⟩)))) := by
  unfold Request.commit
  cases committed : commitUpdate server.db.approvals fails
      (grantUpdate env id body grantedAt validUntil) with
  | error error => exact guarded.absorb_fail
  | ok approvals =>
      rcases commitUpdate_eq_ok_iff.mp committed with ⟨_, affected, rfl⟩
      apply guarded.absorb rfl (keeps_updateState _ _)
      · intro stored present status isT4
        rcases approved_of_updated present status with ⟨known, untouched⟩ |
          ⟨current, found, rfl, _⟩
        · -- the update has found its row pending, so an approved row is another one
          have otherId : stored.id ≠ id := by
            intro named
            rcases ApprovalTable.status_of_affected affected with ⟨pending, found, expected⟩
            have same := found.symm.trans (ApprovalTable.getById_eq_some_iff.mpr ⟨known, named⟩)
            cases Option.some.inj same
            exact untouched ((StateUpdate.applies_iff _ _).mpr ⟨named, expected⟩)
          have kept : (Function.update server.grants id (some ⟨body.validUntil, boardKey⟩))
              stored.id = server.grants stored.id := Function.update_of_ne otherId _ _
          simp only [ApprovalServer.absorb, kept]
          exact guarded.pastGate _ (.approved stored known status) isT4
        · rcases fetched with ⟨same, foundSame, requester, object, action⟩
          cases Option.some.inj (found.symm.trans foundSame)
          have named := (ApprovalTable.getById_eq_some_iff.mp found).2
          have recorded : (Function.update server.grants id (some ⟨body.validUntil, boardKey⟩))
              current.id = some ⟨body.validUntil, boardKey⟩ := by
            rw [show current.id = id from named, Function.update_self]
          have stored : rowCarrier ((grantUpdate env id body grantedAt validUntil).set current)
              (some ⟨body.validUntil, boardKey⟩) = grantCarrier id body row boardKey := by
            simp only [rowCarrier, grantCarrier, StateUpdate.set, grantUpdate, requester, object,
              action]
            rw [show current.id = id from named]
          change (rowCarrier _ ((Function.update server.grants id
            (some ⟨body.validUntil, boardKey⟩)) current.id)).Signed env
          rw [recorded, stored]
          apply signed
          rw [← object]
          exact isT4
      · intro later next
        cases Option.some.inj next
        exact ⟨trivial, fun _ member => by cases member⟩
      · intro signing none
        cases none

/-- A grant that has read tier T4 passes the gate with the Board's signature only. -/
theorem signed_of_boardGate {boardKey : Option String} {keyFails : Bool} {id : String}
    {row : ApprovalRow} {body : GrantRequest}
    (passes : boardGate env (some .T4) boardKey keyFails id row body = .ok ()) :
    (grantCarrier id body row boardKey).Signed env := by
  rw [boardGate, if_pos rfl] at passes
  cases hasSignature : body.signature with
  | none =>
      rw [hasSignature] at passes
      cases passes
  | some signature =>
      simp only [hasSignature] at passes
      split at passes
      · cases passes
      · cases hasKey : boardKey with
        | none =>
            rw [hasKey] at passes
            cases passes
        | some key =>
            simp only [hasKey] at passes
            split at passes
            · cases passes
            · next verified => exact ⟨_, key, signature, rfl, rfl, hasSignature, verified⟩
            · cases passes

section Advance

variable {id : String} {body : GrantRequest} {validUntil : DateTime} {row : ApprovalRow}
  {now : DateTime} {fails : Bool} {correlationId : String}

/-- A grant comes through the gate with the Board's signature if it has read tier T4; otherwise
the signature has to be known. -/
theorem Guarded.advance_tiered (guarded : Guarded env server) {tier : Option Tier}
    (fetched : Fetched server.db.approvals (.granting id body validUntil row (.tiered tier)))
    (reads : tier ≠ some .T4 → tierOf server.db.labels row.dataObjectId = some .T4 →
      (grantCarrier id body row server.db.boardKey).Signed env) :
    Guarded env (server.absorb index
      ((Request.granting id body validUntil row (.tiered tier)).advance env server.db now fails
        correlationId)) := by
  simp only [Request.advance]
  cases passes : boardGate env tier server.db.boardKey fails id row body with
  | error error => exact guarded.absorb_fail
  | ok _ =>
      apply guarded.absorb_proceed (.granting id body validUntil row (.gated _)) fetched
      intro carrier carried isT4
      cases List.mem_singleton.mp carried
      by_cases readT4 : tier = some .T4
      · rw [readT4] at passes
        exact signed_of_boardGate passes
      · exact reads readT4 isT4

/-- The token of a grant past the gate is signed by the Board if its object is T4. -/
theorem Guarded.advance_gated (guarded : Guarded env server) {boardKey : Option String}
    (fetched : Fetched server.db.approvals (.granting id body validUntil row (.gated boardKey)))
    (signed : tierOf server.db.labels row.dataObjectId = some .T4 →
      (grantCarrier id body row boardKey).Signed env) :
    Guarded env (server.absorb index
      ((Request.granting id body validUntil row (.gated boardKey)).advance env server.db now fails
        correlationId)) := by
  simp only [Request.advance]
  cases env.signToken (approvalClaims row id now validUntil) with
  | error error => exact guarded.absorb_fail
  | ok token =>
      apply guarded.absorb_quiet rfl rfl rfl
      · intro later next
        cases Option.some.inj next
        refine ⟨fetched, ?_⟩
        intro carrier carried isT4
        cases List.mem_singleton.mp carried
        exact signed isT4
      · intro signing new
        cases Option.some.inj new
        exact signed

/-- The audit event of a request touches nothing that is guarded. -/
theorem Guarded.advance_auditing (guarded : Guarded env server) {kind : RequestKind}
    {approval : ApprovalRow} :
    Guarded env (server.absorb index
      ((Request.auditing kind id approval).advance env server.db now fails correlationId)) := by
  cases fails with
  | true => exact guarded.absorb_fail
  | false =>
      apply guarded.absorb_quiet rfl rfl rfl
      · intro later none
        cases none
      · intro signing none
        cases none

/-- A token that is signed again for the list is one of a row past the gate. -/
theorem Guarded.advance_listing (guarded : Guarded env server)
    {rows : List (ApprovalRow × Option GrantRecord)}
    (signed : ∀ carrier ∈ (Request.listing rows).carriers,
      tierOf server.db.labels carrier.obj = some .T4 → carrier.Signed env) :
    Guarded env (server.absorb index
      ((Request.listing rows).advance env server.db now fails correlationId)) := by
  cases rows with
  | nil => exact guarded.absorb_fail
  | cons pair rest =>
      simp only [Request.advance]
      cases answered : activeResponse env now pair.1 with
      | error error => exact guarded.absorb_fail
      | ok response =>
          apply guarded.absorb_quiet rfl rfl rfl
          · intro later next
            cases Option.some.inj next
            exact ⟨trivial, fun carrier carried => signed carrier (List.mem_cons_of_mem _ carried)⟩
          · intro signing new
            cases Option.some.inj new
            rcases bind_eq_ok_iff.mp answered with ⟨validUntil, _, answered⟩
            rcases bind_eq_ok_iff.mp answered with ⟨token, _, answered⟩
            cases Except.ok.inj answered
            exact signed _ List.mem_cons_self

end Advance

/-- The next step of a request keeps the guard, if a grant that passes the gate has read
the tier. -/
theorem Guarded.advance (guarded : Guarded env server)
    (found : server.requests[index]? = some request) (now : DateTime) (fails : Bool)
    (correlationId : String)
    (reads : ReadsTier env server (.advance index now fails correlationId)) :
    Guarded env
      (server.absorb index (request.advance env server.db now fails correlationId)) := by
  have member := List.mem_of_getElem? found
  have fetched := guarded.fetched request member
  have signed (carrier : Carrier) (carried : carrier ∈ request.carriers) :=
    guarded.pastGate carrier (.inFlight request member carrier carried)
  cases request with
  | granting id body validUntil row stage =>
      cases stage with
      | fetched =>
          apply guarded.absorb_proceed (.granting id body validUntil row (.tiered _)) fetched
          intro carrier none
          cases none
      | tiered tier => exact guarded.advance_tiered fetched (reads id body validUntil row tier found)
      | gated boardKey => exact guarded.advance_gated fetched (signed _ List.mem_cons_self)
      | signed boardKey grantedAt token =>
          exact guarded.commit_grant fails _ fetched (signed _ List.mem_cons_self)
  | rejecting id row =>
      exact guarded.commit_other fails .reject _
        (show ApprovalStatus.rejected ≠ .approved by decide)
  | revoking id row =>
      exact guarded.commit_other fails .revoke _ (show ApprovalStatus.revoked ≠ .approved by decide)
  | auditing kind id approval => exact guarded.advance_auditing
  | listing rows => exact guarded.advance_listing signed

/-- A step that meets the condition keeps the guard. -/
theorem Guarded.next (guarded : Guarded env server) {step : ServerStep}
    (holds : GateHolds env server step) : Guarded env (server.next env step) := by
  rcases holds with ⟨safely, reads⟩
  cases step with
  | createLabel row => exact guarded.relabel safely
  | updateLabel row => exact guarded.relabel safely
  | deleteLabel id => exact guarded.relabel safely
  | updateBoardKey pubkeyHex fails =>
      refine ⟨?_, guarded.fetched, guarded.backed⟩
      intro carrier past
      exact guarded.pastGate carrier (@PastGate.of_same server _ carrier past rfl rfl rfl)
  | create id now body fails =>
      simp only [ApprovalServer.next]
      cases body.validate with
      | error error => exact guarded
      | ok _ =>
          cases committed : commitInsert server.db.approvals fails
              (body.record id (env.toRfc3339 now)) with
          | error error => exact guarded
          | ok approvals =>
              have inserted := (commitInsert_eq_ok_iff.mp committed).2
              exact (guarded.create inserted).join trivial (fun _ member => by cases member)
  | startGrant id now body fails =>
      apply guarded.accept
      intro request accepted
      rcases bind_eq_ok_iff.mp accepted with ⟨validUntil, _, accepted⟩
      rcases bind_eq_ok_iff.mp accepted with ⟨row, read, accepted⟩
      cases Except.ok.inj accepted
      exact ⟨⟨row, (fetchRow_eq_ok_iff.mp read).2.1, rfl, rfl, rfl⟩, rfl⟩
  | startReject id fails =>
      apply guarded.accept
      intro request accepted
      rcases bind_eq_ok_iff.mp accepted with ⟨row, _, accepted⟩
      cases Except.ok.inj accepted
      exact ⟨trivial, rfl⟩
  | startRevoke id fails =>
      apply guarded.accept
      intro request accepted
      rcases bind_eq_ok_iff.mp accepted with ⟨row, _, accepted⟩
      cases Except.ok.inj accepted
      exact ⟨trivial, rfl⟩
  | startList now fails =>
      simp only [ApprovalServer.next]
      split
      · exact guarded
      · exact guarded.list (env.toRfc3339 now)
  | advance index now fails correlationId =>
      simp only [ApprovalServer.next]
      cases found : server.requests[index]? with
      | none => exact guarded
      | some request => exact guarded.advance found now fails correlationId reads

end Steps

/-! ## Whole runs -/

/-- A server that has granted and signed nothing yet. -/
structure NothingGranted (server : ApprovalServer) : Prop where
  unapproved : ∀ row ∈ server.db.approvals.rows, row.status ≠ .approved
  idle : server.requests = []
  unsigned : server.signings = []

theorem NothingGranted.guarded {server : ApprovalServer} (starts : NothingGranted server)
    (env : ApprovalEnv) : Guarded env server := by
  constructor
  · intro carrier past _
    cases past with
    | approved row present status => exact absurd status (starts.unapproved row present)
    | inFlight request member carrier carried =>
        rw [starts.idle] at member
        cases member
  · rw [starts.idle]
    intro request member
    cases member
  · rw [starts.unsigned]
    intro signing member
    cases member

/-- In every run whose steps meet the condition, every token for a T4 object has the Board
behind it. -/
theorem t4_tokens_board_signed (env : ApprovalEnv) {server : ApprovalServer}
    (starts : NothingGranted server) {run : List ServerStep}
    (each : Each (ApprovalServer.next env) (GateHolds env) server run) :
    ∀ signing ∈ (run.foldl (ApprovalServer.next env) server).signings, signing.Backed env :=
  (each.invariant (fun _ _ guarded => guarded.next) (starts.guarded env)).backed

/-! ## Sample runs -/

/-- The sample environment with one Board key and one signature that verifies. -/
def boardEnv : ApprovalEnv :=
  { sampleEnv with
    hexDecode := fun text =>
      if text = "b0a7" then .ok (List.replicate 32 0)
      else if text = "51" then .ok [81]
      else .error "Odd number of digits"
    verifies := fun _ _ signature => decide (signature = [81]) }

/-- A server with one label, the Board key, and a pending approval for the label. -/
def labelServer (tier : Tier) : ApprovalServer where
  db := { pendingDb with
    labels := [⟨"label-001", "C:\\Board", .folder, tier⟩]
    boardKey := some "b0a7" }
  requests := []
  grants _ := none
  signings := []
  successes := []

theorem labelServer_nothingGranted (tier : Tier) : NothingGranted (labelServer tier) where
  unapproved := by
    intro row member
    cases List.mem_singleton.mp member
    exact show ApprovalStatus.pending ≠ .approved by decide
  idle := rfl
  unsigned := rfl

/-- A grant up to the signing of its token; the read of the tier may fail. -/
def grantRun (signature : Option String) (tierFails : Bool) : List ServerStep :=
  [.startGrant "approval-001" sampleNow ⟨"2027-01-01T00:00:00+00:00", signature⟩ false,
    .advance 0 sampleNow tierFails "", .advance 0 sampleNow false "",
    .advance 0 sampleNow false ""]

/-- A grant without a signature, after which the label becomes T4 and the approval is
listed. -/
def retierRun : List ServerStep :=
  grantRun none false ++
    [.advance 0 sampleNow false "", .advance 0 sampleNow false "event-001",
      .updateLabel ⟨"label-001", "C:\\Board", .folder, .T4⟩, .startList sampleNow false,
      .advance 0 sampleNow false ""]

/-- The token of these runs, signed while the label has a tier. -/
def sampleSigning (signature : Option String) (tier : Tier) : Signing :=
  ⟨approvalClaims sampleRow "approval-001" sampleNow sampleEnd, signature,
    some ⟨"2027-01-01T00:00:00+00:00", some "b0a7"⟩, some tier⟩

theorem retiersSafely_of_same {env : ApprovalEnv} {server : ApprovalServer} {step : ServerStep}
    (same : relabel server.db.labels step = server.db.labels) : RetiersSafely env server step := by
  intro carrier _ isT4 wasNot
  rw [same] at isT4
  exact absurd isT4 wasNot

theorem grantRun_gateHolds :
    Each (ApprovalServer.next boardEnv) (GateHolds boardEnv) (labelServer .T4)
      (grantRun (some "51") false) := by
  refine ⟨⟨retiersSafely_of_same rfl, trivial⟩, ⟨retiersSafely_of_same rfl, ?_⟩,
    ⟨retiersSafely_of_same rfl, ?_⟩, ⟨retiersSafely_of_same rfl, ?_⟩, trivial⟩
  · intro id body validUntil row tier found
    cases Option.some.inj found
  · intro id body validUntil row tier found notRead
    cases Option.some.inj found
    exact absurd rfl notRead
  · intro id body validUntil row tier found
    cases Option.some.inj found

/-- A T4 grant with the Board's signature gets its token. -/
theorem grantRun_board_signed :
    NothingGranted (labelServer .T4) ∧
      ((grantRun (some "51") false).foldl (ApprovalServer.next boardEnv)
        (labelServer .T4)).signings = [sampleSigning (some "51") .T4] ∧
      (sampleSigning (some "51") .T4).Backed boardEnv := by
  have signings : ((grantRun (some "51") false).foldl (ApprovalServer.next boardEnv)
      (labelServer .T4)).signings = [sampleSigning (some "51") .T4] := by
    decide +kernel
  refine ⟨labelServer_nothingGranted .T4, signings, ?_⟩
  apply t4_tokens_board_signed boardEnv (labelServer_nothingGranted .T4) grantRun_gateHolds
  rw [signings]
  exact List.mem_singleton.mpr rfl

/-- A token without the Board. -/
theorem sampleSigning_not_backed : ¬ (sampleSigning none .T4).Backed boardEnv := by
  intro backed
  rcases backed rfl with ⟨record, key, signature, _, _, stored, _⟩
  cases stored

/-- A T4 grant without a signature gets its token when the read of the tier fails, and an
approval granted before its label became T4 is listed with a new token. -/
theorem unsignedTokens_not_backed :
    (¬ ∀ signing ∈ ((grantRun none true).foldl (ApprovalServer.next boardEnv)
      (labelServer .T4)).signings, signing.Backed boardEnv) ∧
      ¬ ∀ signing ∈ (retierRun.foldl (ApprovalServer.next boardEnv) (labelServer .T3)).signings,
        signing.Backed boardEnv := by
  constructor
  · intro backed
    have signings : ((grantRun none true).foldl (ApprovalServer.next boardEnv)
        (labelServer .T4)).signings = [sampleSigning none .T4] := by
      decide +kernel
    rw [signings] at backed
    exact sampleSigning_not_backed (backed _ (by simp))
  · intro backed
    have signings : (retierRun.foldl (ApprovalServer.next boardEnv) (labelServer .T3)).signings =
        [sampleSigning none .T3, sampleSigning none .T4] := by
      decide +kernel
    rw [signings] at backed
    exact sampleSigning_not_backed (backed _ (by simp))

end DlpSystem.Approvals
