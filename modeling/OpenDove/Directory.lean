import OpenDove.EndpointTables

/-!
# The endpoint directory

Everything the server knows about endpoints: the endpoint objects, the tables of every
domain and of every VNID, the MAC table of every tunnel, the pending address conflicts, the
expiration queue and the global counter. The program spreads these over five classes; here
they are fields of one record, so that an operation on tunnels or clients visibly leaves
them alone.

This module holds what happens to the directory. A routine that also reaches the tunnels,
such as the deletion of an endpoint in the shared domain, is defined over the whole
collection later and shown there to act on the directory as stated here.
-/

namespace OpenDove

/-- The plain attributes of an `Endpoint`. The program also stores `None` as the tunnel for a
moment inside `vmotion`; no routine reads the attribute in between. -/
structure EndpointCore where
  domain : DomainId
  dvg : DvgId
  vnid : Nat
  clientType : ClientType
  vMac : Mac
  tunnelEndpoint : TunnelId
  version : Nat
  valid : Bool
  inMigration : Bool

/-- `Endpoint`: its attributes and its virtual addresses, all of them and those reported. -/
structure Endpoint extends EndpointCore where
  vIPSet : VIPSet
  vIPSetShow : VIPSet

/-- The content of an identity that no object has yet. -/
def Endpoint.unallocated : Endpoint where
  domain := 0
  dvg := 0
  vnid := 0
  clientType := .doveSwitch
  vMac := 0
  tunnelEndpoint := 0
  version := 0
  valid := false
  inMigration := false
  vIPSet := .empty
  vIPSetShow := .empty

/-- `ConflictDetectionvIP`: a suspected conflict over one address, with the endpoints that
claimed it before the suspicion, those registered for it since, and the owner. The two
dictionaries of the program map an endpoint to itself and are used as sets. -/
structure ConflictDetectionvIP where
  vIP : VirtualIP
  endpointsClaim : List EndpointId
  endpointsRegistered : List EndpointId
  retry : Nat
  endpointOwner : Option EndpointId

/-- `ConflictDetectionvIP.endpoint_delete`: an endpoint leaves both sets. The remembered owner
stays, even if it is the deleted endpoint. -/
def ConflictDetectionvIP.endpointDelete (conflict : ConflictDetectionvIP) (self : EndpointId) :
    ConflictDetectionvIP :=
  { conflict with
    endpointsClaim := conflict.endpointsClaim.filter (· ≠ self)
    endpointsRegistered := conflict.endpointsRegistered.filter (· ≠ self) }

/-- The endpoint directory. -/
structure Directory where
  /-- The endpoint objects. -/
  endpoint : EndpointId → Endpoint
  /-- The identity the next new endpoint gets. -/
  nextEndpoint : EndpointId
  /-- The endpoint tables of each `Domain`. -/
  domainTables : DomainId → EndpointTables
  /-- The endpoint tables of each `DVG`. -/
  dvgTables : DvgId → EndpointTables
  /-- `Endpoint_Hash_MAC` of each `TunnelEndpoint`. -/
  tunnelMAC : TunnelId → Dict Mac EndpointId
  /-- `conflict_detection_IP` of each domain's `ConflictDetection`. -/
  conflicts : DomainId → Dict IPValue ConflictDetectionvIP
  /-- `Conflict_Detection_Requests`: the domains, by number, that wait for a timeout. -/
  conflictRequests : Dict Nat DomainId
  /-- `Endpoint_Expiration_Timer_Queue`. -/
  expirationQueue : Dict EndpointId Nat
  /-- `Endpoints_Count`. -/
  endpointsCount : Int

namespace Directory

/-- `Endpoints_Count_Max`. -/
def endpointsCountMax : Int := 400000
/-- `Endpoints_vIP_Max`. -/
def endpointsVIPMax : Nat := 8
/-- `Max_Endpoint_Timer_Queue_Length`. -/
def maxEndpointTimerQueueLength : Nat := 8192
/-- `total_max` of `ConflictDetection`. -/
def conflictsMax : Nat := 64

/-- A directory without endpoints. -/
def empty : Directory where
  endpoint := fun _ => .unallocated
  nextEndpoint := 0
  domainTables := fun _ => .empty
  dvgTables := fun _ => .empty
  tunnelMAC := fun _ => ∅
  conflicts := fun _ => ∅
  conflictRequests := ∅
  expirationQueue := ∅
  endpointsCount := 0

/-! ## Single writes -/

variable (dir : Directory) (domain : DomainId) (tunnel : TunnelId) (self : EndpointId) (dvg : DvgId)
  (vnid : Nat) (clientType : ClientType) (tunnelEndpoint : TunnelId)

/-- Assign to attributes of one endpoint. -/
def modifyEndpoint (change : Endpoint → Endpoint) : Directory :=
  { dir with endpoint := Function.update dir.endpoint self (change (dir.endpoint self)) }

/-- Write to the tables of one domain. -/
def modifyDomain (change : EndpointTables → EndpointTables) : Directory :=
  { dir with
    domainTables := Function.update dir.domainTables domain (change (dir.domainTables domain)) }

/-- Write to the tables of one VNID. -/
def modifyDvg (change : EndpointTables → EndpointTables) : Directory :=
  { dir with dvgTables := Function.update dir.dvgTables dvg (change (dir.dvgTables dvg)) }

/-- Replace the MAC table of one tunnel. -/
def setTunnelMAC (table : Dict Mac EndpointId) : Directory :=
  { dir with tunnelMAC := Function.update dir.tunnelMAC tunnel table }

theorem setTunnelMAC_self {dir : Directory} {tunnel : TunnelId} {table : Dict Mac EndpointId}
    (same : dir.tunnelMAC tunnel = table) : dir.setTunnelMAC tunnel table = dir := by
  simp [setTunnelMAC, ← same]

/-- Replace the pending conflicts of one domain. -/
def setConflicts (table : Dict IPValue ConflictDetectionvIP) : Directory :=
  { dir with conflicts := Function.update dir.conflicts domain table }

/-! ## Endpoints -/

/-- `TunnelEndpoint.endpoint_add`. -/
def tunnelEndpointAdd : Directory :=
  dir.setTunnelMAC tunnel ((dir.tunnelMAC tunnel).insert (dir.endpoint self).vMac self)

/-- The effect of `TunnelEndpoint.endpoint_del` on the directory. -/
def tunnelEndpointDel : Directory :=
  dir.setTunnelMAC tunnel ((dir.tunnelMAC tunnel).erase (dir.endpoint self).vMac)

/-- `Endpoint.vIP_add`. -/
def vIPAdd (vIP : VirtualIP) : Directory :=
  let dir := dir.modifyEndpoint self fun e => { e with vIPSet := e.vIPSet.add vIP }
  let dir := dir.modifyDomain (dir.endpoint self).domain (·.endpointVIPAdd self vIP)
  let dir := dir.modifyDvg (dir.endpoint self).dvg (·.endpointVIPAdd self vIP)
  dir.modifyEndpoint self fun e =>
    if e.vIPSet.size < endpointsVIPMax then { e with vIPSetShow := e.vIPSetShow.add vIP } else e

/-- `Endpoint.vIP_del`. Deleting an address the endpoint does not have raises at the first
statement, and nothing is unmapped. -/
def vIPDel (vIP : VirtualIP) : Directory :=
  if vIP.ipValue ∈ (dir.endpoint self).vIPSet then
    let dir := dir.modifyEndpoint self fun e => { e with vIPSet := e.vIPSet.del vIP.ipValue }
    let dir := dir.modifyDomain (dir.endpoint self).domain (·.endpointVIPDel vIP)
    let dir := dir.modifyDvg (dir.endpoint self).dvg (·.endpointVIPDel vIP)
    dir.modifyEndpoint self fun e => { e with vIPSetShow := e.vIPSetShow.del vIP.ipValue }
  else dir

/-- `Endpoint.vIP_delete_all`. -/
def vIPDeleteAll : Directory :=
  (dir.endpoint self).vIPSet.values.foldl (fun dir vIP => dir.vIPDel self vIP) dir

/-- `Endpoint.__init__`: a new endpoint, or `none` for the `MemoryError` at the limit. -/
def create (vMac : Mac) (vIP : Option VirtualIP) (version : Nat) : Option Directory :=
  if dir.endpointsCount ≥ endpointsCountMax then none
  else
    let self := dir.nextEndpoint
    let vIPSet := vIP.elim VIPSet.empty VIPSet.empty.add
    let dir := { dir with
      nextEndpoint := self + 1
      endpoint := Function.update dir.endpoint self
        { domain, dvg, vnid, clientType, vMac, tunnelEndpoint, version
          valid := true, inMigration := false, vIPSet, vIPSetShow := vIPSet } }
    let dir := dir.tunnelEndpointAdd tunnelEndpoint self
    let dir := dir.modifyDomain domain (·.endpointAdd self vMac vIPSet)
    let dir := dir.modifyDvg dvg (·.endpointAdd self vMac vIPSet)
    some { dir with endpointsCount := dir.endpointsCount + 1 }

/-- `ConflictDetection.endpoint_delete`: an endpoint leaves every conflict of its domain. -/
def conflictEndpointDelete : Directory :=
  dir.setConflicts domain ((dir.conflicts domain).mapValues (·.endpointDelete self))

/-- `Endpoint.delete` up to the tunnel: the endpoint becomes invalid and leaves every conflict. -/
def deleteStart : Directory :=
  let dir := dir.modifyEndpoint self fun e => { e with valid := false }
  dir.conflictEndpointDelete (dir.endpoint self).domain self

/-- `Endpoint.delete` after the tunnel: the endpoint leaves the tables of its domain and its
VNID, gives up its addresses and is no longer counted. -/
def deleteFinish : Directory :=
  let dir := dir.modifyDomain (dir.endpoint self).domain
    (·.endpointDel (dir.endpoint self).vMac (dir.endpoint self).vIPSet)
  let dir := dir.modifyDvg (dir.endpoint self).dvg
    (·.endpointDel (dir.endpoint self).vMac (dir.endpoint self).vIPSet)
  let dir := dir.modifyEndpoint self fun e => { e with vIPSet := .empty, vIPSetShow := .empty }
  { dir with endpointsCount := dir.endpointsCount - 1 }

/-- The effect of `Endpoint.delete` on the directory. -/
def delete : Directory :=
  if (dir.endpoint self).valid then
    ((dir.deleteStart self).tunnelEndpointDel (dir.endpoint self).tunnelEndpoint self).deleteFinish
      self
  else dir

/-- What `vmotion` and `update` do when an endpoint leaves its VNID: it leaves the tables of
the VNID and gives up all its addresses. -/
def leaveDvg : Directory :=
  let dir := dir.modifyDvg (dir.endpoint self).dvg
    (·.endpointDel (dir.endpoint self).vMac (dir.endpoint self).vIPSet)
  let dir := dir.vIPDeleteAll self
  dir.modifyEndpoint self fun e => { e with vIPSetShow := .empty }

/-- `DVG.endpoint_add` for the VNID the endpoint is attributed to. -/
def enterDvg : Directory :=
  dir.modifyDvg (dir.endpoint self).dvg
    (·.endpointAdd self (dir.endpoint self).vMac (dir.endpoint self).vIPSet)

/-- `Endpoint.vmotion` after the endpoint was taken off its old tunnel. -/
def vmotionArrive : Directory :=
  let oldDvg := (dir.endpoint self).dvg
  let dir := dir.modifyDvg oldDvg
    (·.endpointDel (dir.endpoint self).vMac (dir.endpoint self).vIPSet)
  let dir := if oldDvg ≠ dvg then dir.leaveDvg self else dir
  let dir := dir.modifyEndpoint self fun e => { e with dvg, vnid }
  let dir := dir.enterDvg self
  let dir := dir.modifyEndpoint self fun e =>
    { e with tunnelEndpoint, clientType, inMigration := false }
  dir.tunnelEndpointAdd tunnelEndpoint self

/-- The effect of `Endpoint.vmotion` on the directory. -/
def vmotion : Directory :=
  (dir.tunnelEndpointDel (dir.endpoint self).tunnelEndpoint self).vmotionArrive
    self dvg vnid clientType tunnelEndpoint

/-- `Endpoint.update` up to the version check: the endpoint leaves the expiration queue and,
if the update names another VNID, moves there. -/
def updateArrive : Directory :=
  let dir := dir.modifyEndpoint self fun e => { e with inMigration := false, clientType, vnid }
  let dir := { dir with expirationQueue := dir.expirationQueue.erase self }
  if (dir.endpoint self).dvg ≠ dvg then
    let dir := dir.leaveDvg self
    let dir := dir.modifyEndpoint self fun e => { e with dvg }
    dir.enterDvg self
  else dir

/-- The effect of `Endpoint.update_del` on the directory. -/
def updateDel (vIP : Option VirtualIP) : Directory :=
  let dir := vIP.elim dir (dir.vIPAdd self)
  let dir := dir.modifyEndpoint self fun e => { e with inMigration := true }
  if dir.expirationQueue.size < maxEndpointTimerQueueLength then
    let dir := dir.tunnelEndpointDel (dir.endpoint self).tunnelEndpoint self
    { dir with expirationQueue := dir.expirationQueue.insert self 3 }
  else dir.delete self

/-- The version rule of `Endpoint.update`: the new version, or `none` for the raised
exception. -/
def versionNext (current version : Nat) (transactionType : TransactionType) : Option Nat :=
  if transactionType = .massTransfer then
    some (if current < version then version else current)
  else if version = 0 then some 0
  else if version = current then some version
  else if version ≠ current + 1 then none
  else some version

/-- The effect on the directory of the function that `update_function_table` names. -/
def updateFunction (operation : UpdateOperation) (vIP : Option VirtualIP) : Directory :=
  match operation with
  | .add | .vipAdd | .migrateIn => vIP.elim dir (dir.vIPAdd self)
  | .delete | .migrateOut => dir.updateDel self vIP
  | .vipDel => vIP.elim dir (dir.vIPDel self)
  | .unsupported _ => dir

/-- The effect of `Endpoint.update` on the directory, and whether it returned normally. -/
def update (transactionType : TransactionType) (version : Nat) (operation : UpdateOperation)
    (vIP : Option VirtualIP) : Directory × Bool :=
  let dir := dir.updateArrive self dvg vnid clientType
  match versionNext (dir.endpoint self).version version transactionType with
  | none => (dir, false)
  | some version =>
    let dir := dir.modifyEndpoint self fun e => { e with version }
    (dir.updateFunction self operation vIP, true)

end Directory

end OpenDove
