import OpenDove.Collection

/-!
# Registering changes during a mass transfer

While a domain is transferred, the routines that change it hand a delta to the transfer. Each
kind of object has its own routine, which builds the object to send, chooses its key and hands
both to `register_delta` under a new query number.

Callers look at `mass_transfer` before they call one of these routines; without a transfer they
do nothing here.
-/

namespace OpenDove.Collection

/-- Hand an object to the transfer of a domain. The key may contain the query number. -/
def registerDelta (s : Collection) (domain : DomainId) (stage : TransferStage)
    (key : Nat → TransferKey) (objId : TransferKey → TransferId) (object : TransferObject) :
    Collection × DOVEStatus :=
  match (s.domain domain).massTransfer with
  | none => (s, .ok)
  | some transfer =>
    let (queryId, s) := s.generateQueryId
    let (transfer, status) := transfer.registerDelta (s.domain domain).valid stage (key queryId)
      { objId := objId (key queryId), object, queryId }
    (s.modifyDomain domain fun d => { d with massTransfer := some transfer }, status)

variable (s : Collection) (domain : DomainId) (vnid : Nat)

/-- `register_tunnel`. -/
def registerTunnel (clientType : Nat) (fregister : Bool) (hostLocation : IPAddressLocation)
    (pipTupleList : List (InetType × IPValue)) : Collection × DOVEStatus :=
  match pipTupleList with
  | [] => (s, .ok)
  | (_, pipValue) :: _ =>
    s.registerDelta domain .tunnels (fun _ => .tunnelDelta vnid clientType pipValue fregister)
      (fun _ => .vnid vnid) (.tunnel clientType fregister hostLocation pipTupleList)

/-- `register_endpoint`. -/
def registerEndpoint (endpoint : EndpointId) (operation : UpdateOperation) (vIPType : InetType)
    (vIPVal : IPValue) : Collection × DOVEStatus :=
  let dvg := s.dvg (s.directory.endpoint endpoint).dvg
  s.registerDelta domain .endpoints (fun _ => .endpoint dvg.uniqueId endpoint vIPVal)
    (fun _ => .vnid vnid) (.endpoint endpoint operation (.create vIPType vIPVal 0))

/-- `register_vnid`. -/
def registerVnid (fadd : Bool) : Collection × DOVEStatus :=
  s.registerDelta domain .vnids .query .key (.vnids [vnid] fadd)

/-- `type_connectivity` of `Policy`. -/
def typeConnectivity : Nat := 1

/-- A policy as it is sent. Policies of another type than connectivity have no action. -/
def policyTuple (policy : Policy) : PolicyTuple where
  trafficType := policy.trafficType
  type := policy.type
  src := (s.dvg policy.srcDvg).uniqueId
  dst := (s.dvg policy.dstDvg).uniqueId
  ttl := policy.ttl
  action := if policy.type = typeConnectivity then policy.actionConnectivity else 0

/-- `register_policy`. -/
def registerPolicy (policy : Policy) (fadd : Bool) : Collection × DOVEStatus :=
  let tuple := s.policyTuple policy
  s.registerDelta domain .policies (fun _ => .policy tuple.trafficType tuple.src tuple.dst) .key
    (.policies [tuple] fadd)

end OpenDove.Collection
