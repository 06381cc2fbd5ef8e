import Seev.Lib.Run

/-!
# Merchant tenants: lifecycle and authentication

An operator creates a tenant, a maker proposes to activate or to close it, a checker decides,
and a maker may suspend it. A merchant presents an API key. Every call is a session that takes
one statement at a time; the decision on a request and the status it leads to are two of them.

* `Tables.updateStatus`: the status is written whatever it was before.
* `parseKey`, `principal`: the checks of `RequireMerchantAuth`.
* `Session`, `Tables.exec`: where a call stands, and its next statement.
* `World.step`: any session goes on, fails or crashes.
* `World.admitted`: the tenant that a step authenticates.
-/

namespace Seev.Gateway

/-- A UUID, read as a number. -/
abbrev UUID := ℕ

/-! ## Rows -/

/-- The environment of a tenant or a key. -/
inductive Environment where
  | sandbox | live
  deriving DecidableEq, Repr

/-- The status of a tenant. -/
inductive TenantStatus where
  | draft | active | suspended | closed
  deriving DecidableEq, Repr

/-- `merchant_tenants` -/
structure Tenant where
  environment : Environment
  status : TenantStatus
  createdBy : String
  activatedBy : Option String
  suspendedBy : Option String
  deriving DecidableEq, Repr

/-- What a lifecycle request asks for. -/
inductive Action where
  | activate | close
  deriving DecidableEq, Repr

/-- `targetStatus` -/
def Action.targetStatus : Action → TenantStatus
  | activate => .active
  | close => .closed

/-- The status of a lifecycle request. -/
inductive RequestStatus where
  | pending | approved | rejected
  deriving DecidableEq, Repr

/-- `merchant_tenant_lifecycle_requests` -/
structure LifecycleRequest where
  id : UUID
  tenantID : UUID
  action : Action
  requestedBy : String
  approvedBy : Option String
  reason : String
  status : RequestStatus
  deriving DecidableEq, Repr

/-- `CHECK (approved_by IS NULL OR approved_by <> requested_by)` -/
def LifecycleRequest.Distinct (r : LifecycleRequest) : Prop := ∀ actor ∈ r.approvedBy, actor ≠ r.requestedBy

instance (r : LifecycleRequest) : Decidable r.Distinct :=
  inferInstanceAs (Decidable (∀ actor ∈ r.approvedBy, actor ≠ r.requestedBy))

/-- A row that passes the `CHECK` on maker and checker. -/
abbrev RequestRow := { r : LifecycleRequest // r.Distinct }

/-- The status of an API key. -/
inductive KeyStatus where
  | active | expired | revoked
  deriving DecidableEq, Repr

/-- `merchant_api_keys` -/
structure APIKey where
  id : UUID
  tenantID : UUID
  publicPrefix : List Char
  secretDigest : String
  environment : Environment
  status : KeyStatus
  expiresAt : Option ℕ
  deriving DecidableEq, Repr

/-! ## API keys -/

/-- What the service is configured with. -/
structure Env where
  /-- `Digest` with the pepper of the service -/
  digest : List Char → String

/-- `sk_test_` -/
def testKeyPrefix : List Char := ['s', 'k', '_', 't', 'e', 's', 't', '_']

/-- `sk_live_` -/
def liveKeyPrefix : List Char := ['s', 'k', '_', 'l', 'i', 'v', 'e', '_']

/-- The length of the public part after the prefix of the environment. -/
def encodedPrefixLen : ℕ := 12

/-- How the keys of an environment begin. -/
def Environment.keyPrefix : Environment → List Char
  | sandbox => testKeyPrefix
  | live => liveKeyPrefix

/-- `ParsedKey` -/
structure ParsedKey where
  environment : Environment
  publicPrefix : List Char
  deriving DecidableEq, Repr

/-- The part of `ParseKey` behind the environment. -/
def parseRest (environment : Environment) (rest : List Char) : Option ParsedKey :=
  if rest.length < encodedPrefixLen + 1 + 1 ∨ rest[encodedPrefixLen]? ≠ some '_' then none
  else some ⟨environment, environment.keyPrefix ++ rest.take encodedPrefixLen⟩

/-- `ParseKey` -/
def parseKey (raw : List Char) : Option ParsedKey :=
  if testKeyPrefix.isPrefixOf raw then parseRest .sandbox (raw.drop testKeyPrefix.length)
  else if liveKeyPrefix.isPrefixOf raw then parseRest .live (raw.drop liveKeyPrefix.length)
  else none

/-- `GenerateKey`, with the two random texts. -/
def generateKey (environment : Environment) (encoded secret : List Char) : List Char × List Char :=
  (environment.keyPrefix ++ encoded ++ ['_'] ++ secret, environment.keyPrefix ++ encoded)

/-- Who a request acts for, as its key tells. -/
structure Principal where
  tenantID : UUID
  keyID : UUID
  environment : Environment
  tenantSuspended : Bool
  deriving DecidableEq, Repr

/-- The checks of `RequireMerchantAuth` on the key that was read. -/
def keyAccepted (E : Env) (raw : List Char) (parsed : ParsedKey) (now : ℕ) (key : APIKey) : Bool :=
  key.environment = parsed.environment ∧ E.digest raw = key.secretDigest ∧ key.expiresAt.all (now < ·)

/-- The checks on its tenant. A suspended tenant authenticates, to read. -/
def principal (key : APIKey) : Option Tenant → Option Principal
  | none => none
  | some tenant =>
    if key.environment ≠ tenant.environment then none
    else if tenant.status ≠ .active ∧ tenant.status ≠ .suspended then none
    else some ⟨key.tenantID, key.id, key.environment, tenant.status = .suspended⟩

/-! ## Operators -/

/-- The roles that the admin routes know. -/
inductive Role where
  | admin | adminMaker | adminChecker | other
  deriving DecidableEq, Repr

/-- The claims of an operator's token. -/
structure Claims where
  role : Role
  email : String
  userID : String
  deriving DecidableEq, Repr

/-- May propose and create. -/
def Claims.isAdminMaker (c : Claims) : Bool := c.role = .admin ∨ c.role = .adminMaker

/-- May approve and reject. -/
def Claims.isAdminChecker (c : Claims) : Bool := c.role = .admin ∨ c.role = .adminChecker

/-- `actorFromClaims` -/
def Claims.actor (c : Claims) : String := if c.email ≠ "" then c.email else c.userID

/-! ## Statements -/

/-- The tables of the tenants, with the clock of the database. -/
structure Tables where
  now : ℕ
  tenants : UUID → Option Tenant
  requests : List RequestRow
  keys : List APIKey
  /-- the requests whose status change was written -/
  applied : List UUID

namespace Tables

/-- The tables of a new service. -/
def empty (now : ℕ) : Tables := ⟨now, fun _ => none, [], [], []⟩

variable (T : Tables)

/-- The status of a tenant that exists. -/
def status (id : UUID) : Option TenantStatus := (T.tenants id).map Tenant.status

/-- `TenantRepository.Create` -/
def createTenant (id : UUID) (t : Tenant) : Option Tables :=
  if (T.tenants id).isSome then none else some { T with tenants := Function.update T.tenants id (some t) }

/-- The row `UpdateStatus` leaves. -/
def withStatus (t : Tenant) (status : TenantStatus) (actor : String) : Tenant :=
  match status with
  | .active => { t with status := .active, activatedBy := some actor }
  | .suspended => { t with status := .suspended, suspendedBy := some actor }
  | status => { t with status := status }

/-- `UpdateStatus`: the row is found by its id only. -/
def updateStatus (id : UUID) (status : TenantStatus) (actor : String) : Option Tables :=
  match T.tenants id with
  | none => none
  | some t => some { T with tenants := Function.update T.tenants id (some (withStatus t status actor)) }

/-- `LifecycleRepository.Create`: one pending request for a tenant and an action. `none` is an
error, `false` a conflict. -/
def createRequest (id tenantID : UUID) (action : Action) (requestedBy reason : String) : Option (Tables × Bool) :=
  if (T.tenants tenantID).isNone ∨ T.requests.any (fun r => r.1.id = id) then none
  else if T.requests.any fun r => r.1.tenantID = tenantID ∧ r.1.action = action ∧ r.1.status = .pending then
    some (T, false)
  else
    some ({ T with requests := T.requests ++
      [⟨⟨id, tenantID, action, requestedBy, none, reason, .pending⟩, fun _ h => nomatch h⟩] }, true)

/-- `LifecycleRepository.GetByID` -/
def getRequest (id : UUID) : Option LifecycleRequest := (T.requests.find? (·.1.id = id)).map Subtype.val

/-- One row after `Decide`; the constraint is checked. -/
def decideRow (r : RequestRow) (status : RequestStatus) (approvedBy : String) : Option RequestRow :=
  if h : ({ r.1 with status := status, approvedBy := some approvedBy } : LifecycleRequest).Distinct then
    some ⟨_, h⟩
  else none

/-- `Decide`: only a pending request changes. `none` is an error, `false` no match. -/
def decide (id : UUID) (status : RequestStatus) (approvedBy : String) : Option (Tables × Bool) :=
  match T.requests.find? fun r => r.1.id = id ∧ r.1.status = .pending with
  | none => some (T, false)
  | some row =>
    match decideRow row status approvedBy with
    | none => none
    | some row' => some ({ T with requests := T.requests.map fun r => if r.1.id = id then row' else r }, true)

/-- `GetActiveByPrefix` -/
def getActiveByPrefix (publicPrefix : List Char) : Option APIKey :=
  T.keys.find? fun k => k.publicPrefix = publicPrefix ∧ k.status = .active

/-- The active keys `CreateKey` counts. -/
def activeKeys (tenantID : UUID) (environment : Environment) : ℕ :=
  (T.keys.filter fun k => k.tenantID = tenantID ∧ k.status = .active ∧ k.environment = environment).length

/-- `APIKeyRepository.Create` -/
def createKey (k : APIKey) : Option Tables :=
  if (T.tenants k.tenantID).isNone ∨ T.keys.any (fun k' => k'.id = k.id ∨ k'.publicPrefix = k.publicPrefix) then
    none
  else some { T with keys := T.keys ++ [k] }

/-- `Revoke` -/
def revokeKey (tenantID id : UUID) : Tables :=
  { T with
    keys := T.keys.map fun k =>
      if k.tenantID = tenantID ∧ k.id = id ∧ k.status = .active then { k with status := .revoked } else k }

end Tables

/-! ## Sessions -/

/-- The next statement of a call. -/
inductive Session where
  /-- `adminCreateTenant` -/
  | create (environment : Environment) (createdBy : String)
  /-- `Propose`: the tenant, the request, the request it conflicts with -/
  | proposeTenant (tenantID : UUID) (action : Action) (requestedBy reason : String)
  | proposeCreate (tenantID : UUID) (action : Action) (requestedBy reason : String)
  | proposePending (tenantID : UUID) (action : Action)
  /-- `Approve`: the request, `Decide`, `UpdateStatus` -/
  | approveGet (id : UUID) (approvedBy : String)
  | approveDecide (req : LifecycleRequest) (approvedBy : String)
  | approveApply (req : LifecycleRequest) (approvedBy : String)
  /-- `Reject` -/
  | rejectGet (id : UUID) (approvedBy : String)
  | rejectDecide (id : UUID) (approvedBy : String)
  /-- `adminSuspendTenant` -/
  | suspend (tenantID : UUID) (actor : String)
  /-- `CreateKey` and `RotateKey`, which replaces an old key: the tenant, the keys it has, the new one -/
  | keyTenant (tenantID : UUID) (environment : Environment) (oldKeyID : Option UUID)
  | keyList (tenantID : UUID) (environment : Environment) (oldKeyID : Option UUID)
  | keyCreate (tenantID : UUID) (environment : Environment) (oldKeyID : Option UUID)
  | keyRevoke (tenantID id : UUID)
  /-- `RequireMerchantAuth`: the key, the tenant -/
  | authKey (raw : List Char)
  | authTenant (key : APIKey)
  deriving DecidableEq, Repr

/-- A call of the admin routes, with the claims of its caller. -/
inductive Call where
  | create (c : Claims) (environment : Environment)
  | propose (c : Claims) (tenantID : UUID) (action : Action) (reason : String)
  | approve (c : Claims) (id : UUID)
  | reject (c : Claims) (id : UUID)
  | suspend (c : Claims) (tenantID : UUID)
  | createKey (c : Claims) (tenantID : UUID) (environment : Environment)
  | rotateKey (c : Claims) (tenantID oldKeyID : UUID) (environment : Environment)
  | revokeKey (c : Claims) (tenantID id : UUID)
  /-- an API request, of any method -/
  | request (raw : List Char)
  deriving DecidableEq, Repr

/-- The checks of the handlers before the first statement. -/
def Call.session : Call → Option Session
  | .create c environment => if c.isAdminMaker then some (.create environment c.actor) else none
  | .propose c tenantID action reason =>
    if !c.isAdminMaker ∨ c.actor = "" ∨ reason = "" then none
    else some (.proposeTenant tenantID action c.actor reason)
  | .approve c id => if c.isAdminChecker then some (.approveGet id c.actor) else none
  | .reject c id => if c.isAdminChecker then some (.rejectGet id c.actor) else none
  | .suspend c tenantID => if c.isAdminMaker then some (.suspend tenantID c.actor) else none
  | .createKey c tenantID environment =>
    if c.isAdminMaker then some (.keyTenant tenantID environment none) else none
  | .rotateKey c tenantID oldKeyID environment =>
    if c.isAdminMaker then some (.keyTenant tenantID environment (some oldKeyID)) else none
  | .revokeKey c tenantID id => if c.isAdminMaker then some (.keyRevoke tenantID id) else none
  | .request raw => if (parseKey raw).isSome then some (.authKey raw) else none

/-- What is drawn for a new row. -/
structure Draw where
  id : UUID
  encoded : List Char
  secret : List Char
  deriving DecidableEq, Repr

/-- The statement of a session: the tables after it, and how the session goes on. -/
def Tables.exec (E : Env) (T : Tables) (d : Draw) : Session → Tables × Option Session
  | .create environment createdBy =>
    let status : TenantStatus := if environment = .sandbox then .active else .draft
    ((T.createTenant d.id ⟨environment, status, createdBy, none, none⟩).getD T, none)
  | .proposeTenant tenantID action requestedBy reason =>
    (T, if (T.tenants tenantID).isSome then some (.proposeCreate tenantID action requestedBy reason) else none)
  | .proposeCreate tenantID action requestedBy reason =>
    match T.createRequest d.id tenantID action requestedBy reason with
    | none => (T, none)
    | some (T', true) => (T', none)
    | some (T', false) => (T', some (.proposePending tenantID action))
  | .proposePending _ _ => (T, none)
  | .approveGet id approvedBy =>
    match T.getRequest id with
    | none => (T, none)
    | some req =>
      if req.requestedBy = approvedBy ∨ req.status ≠ .pending then (T, none)
      else (T, some (.approveDecide req approvedBy))
  | .approveDecide req approvedBy =>
    match T.decide req.id .approved approvedBy with
    | some (T', true) => (T', some (.approveApply req approvedBy))
    | _ => (T, none)
  | .approveApply req approvedBy =>
    match T.updateStatus req.tenantID req.action.targetStatus approvedBy with
    | none => (T, none)
    | some T' => ({ T' with applied := T'.applied ++ [req.id] }, none)
  | .rejectGet id approvedBy =>
    match T.getRequest id with
    | none => (T, none)
    | some req =>
      if req.requestedBy = approvedBy ∨ req.status ≠ .pending then (T, none)
      else (T, some (.rejectDecide id approvedBy))
  | .rejectDecide id approvedBy =>
    match T.decide id .rejected approvedBy with
    | some (T', _) => (T', none)
    | none => (T, none)
  | .suspend tenantID actor => ((T.updateStatus tenantID .suspended actor).getD T, none)
  | .keyTenant tenantID environment oldKeyID =>
    (T, if ((T.tenants tenantID).any fun t => t.environment = environment) then
        some (.keyList tenantID environment oldKeyID)
      else none)
  | .keyList tenantID environment oldKeyID =>
    (T, if 2 ≤ T.activeKeys tenantID environment then none else some (.keyCreate tenantID environment oldKeyID))
  | .keyCreate tenantID environment oldKeyID =>
    let generated := generateKey environment d.encoded d.secret
    match T.createKey ⟨d.id, tenantID, generated.2, E.digest generated.1, environment, .active, none⟩ with
    | none => (T, none)
    | some T' => (T', oldKeyID.map fun id => .keyRevoke tenantID id)
  | .keyRevoke tenantID id => (T.revokeKey tenantID id, none)
  | .authKey raw =>
    match parseKey raw with
    | none => (T, none)
    | some parsed =>
      match T.getActiveByPrefix parsed.publicPrefix with
      | none => (T, none)
      | some key => (T, if keyAccepted E raw parsed T.now key then some (.authTenant key) else none)
  | .authTenant _ => (T, none)

/-! ## Runs -/

/-- The calls in progress are numbered. -/
abbrev SessionID := ℕ

/-- The tables, and the calls that work on them. -/
structure World where
  tables : Tables
  sessions : SessionID → Option Session

/-- A call begins, executes its next statement, fails or ends; or time passes. -/
inductive Event where
  | start (sid : SessionID) (c : Call)
  | advance (sid : SessionID) (d : Draw)
  /-- the next statement fails, before or after it took effect, and the call with it -/
  | fault (sid : SessionID) (d : Draw) (took : Bool)
  | crash (sid : SessionID)
  | tick (d : ℕ)
  deriving DecidableEq, Repr

namespace World

variable (E : Env) (w : World)

/-- No tenant and no call. -/
def idle (now : ℕ) : World := ⟨.empty now, fun _ => none⟩

/-- A call goes on, or is over. -/
def set (sid : SessionID) (s : Option Session) : World := { w with sessions := Function.update w.sessions sid s }

/-- A call that has begun keeps its number until it is over. -/
def step : Event → World
  | .start sid c =>
    match w.sessions sid with
    | none => w.set sid c.session
    | some _ => w
  | .advance sid d =>
    match w.sessions sid with
    | none => w
    | some s => { w.set sid (w.tables.exec E d s).2 with tables := (w.tables.exec E d s).1 }
  | .fault sid d took =>
    match w.sessions sid with
    | none => w
    | some s => { w.set sid none with tables := if took then (w.tables.exec E d s).1 else w.tables }
  | .crash sid => w.set sid none
  | .tick d => { w with tables := { w.tables with now := w.tables.now + d } }

/-- The principal a step authenticates. -/
def admitted : Event → Option Principal
  | .advance sid _ =>
    match w.sessions sid with
    | some (.authTenant key) => principal key (w.tables.tenants key.tenantID)
    | _ => none
  | _ => none

end World

end Seev.Gateway
