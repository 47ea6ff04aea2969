import OpenDove.ConflictDetection
import OpenDove.MassTransfer

/-!
# The collection of objects

The whole state of a server node: the endpoint directory, the objects below it (tunnels, DPS
clients and their hosts, VNIDs, domains, policies), the global tables, and the queues of
updates that background threads send later.

A dictionary that the program keeps once for IPv4 and once for IPv6 is a function of the
address family here. Attributes that no modelled routine reads, such as statistics and
heartbeat times, are left out.
-/

namespace OpenDove

/-- The identity of a `Policy` object. -/
abbrev PolicyId := Nat

/-- A dictionary by address, one for each family. -/
abbrev FamilyTables (ν : Type) := InetType → Dict IPValue ν

namespace FamilyTables

variable {ν : Type}

/-- Store an address in the dictionary of a family. -/
def insert (tables : FamilyTables ν) (inetType : InetType) (ipValue : IPValue) (value : ν) :
    FamilyTables ν :=
  Function.update tables inetType ((tables inetType).insert ipValue value)

/-- Delete addresses from the dictionary of a family. -/
def eraseAll (tables : FamilyTables ν) (inetType : InetType) (ipValues : List IPValue) :
    FamilyTables ν :=
  Function.update tables inetType ((tables inetType).eraseAll ipValues)

/-- No addresses in either family. -/
def empty : FamilyTables ν := fun _ => ∅

/-- Whether both dictionaries are empty. -/
def isEmpty (tables : FamilyTables ν) : Bool :=
  (tables .inet).size = 0 ∧ (tables .inet6).size = 0

end FamilyTables

/-- `TunnelEndpoint`, without its endpoint table, which is part of the directory. The inner
dictionaries of `IP_Hash_VNID` and `VNID_Hash_IP` map a key to `True` and are used as sets.
An invalid tunnel has lost the outer keys of `DVG_Hash`, so that reading it raises. -/
structure TunnelEndpoint where
  domain : DomainId
  dpsClient : ClientId
  dvgHash : ClientType → Dict Nat DvgId
  ipHashVNID : ClientType → SetDict IPValue Nat
  vnidHashIP : ClientType → SetDict Nat IPValue
  ipList : InetType → IPAddressList
  valid : Bool

/-- `DPSClient`: the part of a client that belongs to one domain. -/
structure DPSClient where
  domain : DomainId
  location : IPAddressLocation
  tunnelEndpointsHash : FamilyTables TunnelId
  valid : Bool

/-- `DPSClientHost`: a client across all domains. -/
structure DPSClientHost where
  domains : Dict Nat DomainId
  location : IPAddressLocation
  valid : Bool

/-- `DVG`, without its endpoint tables. -/
structure DVG where
  domain : DomainId
  uniqueId : Nat
  valid : Bool
  tunnelEndpointsHash : ClientType → FamilyTables TunnelId
  externalGatewayIPList : InetType → IPAddressList
  implicitGatewayIPListv4 : IPAddressList
  ipSubnetList : IPSubnetList
  policySource : TrafficType → Dict Nat PolicyId
  policyDestination : TrafficType → Dict Nat PolicyId

/-- `Policy`. The packed action is represented by the connectivity it carries. -/
structure Policy where
  domain : DomainId
  trafficType : TrafficType
  type : Nat
  srcDvg : DvgId
  dstDvg : DvgId
  ttl : Nat
  actionConnectivity : Nat
  key : Nat × Nat
  valid : Bool

/-- `Domain`, without its endpoint tables and its conflict detection. -/
structure Domain where
  uniqueId : Nat
  active : Bool
  valid : Bool
  dvgHash : Dict Nat DvgId
  tunnelEndpointsHash : FamilyTables TunnelId
  dpsClientsHash : FamilyTables ClientId
  policyHashDVG : TrafficType → Dict (Nat × Nat) PolicyId
  ipSubnetList : IPSubnetList
  implicitGatewayIPListv4 : IPAddressList
  multicast : Multicast
  addressResolution : AddressResolution
  massTransfer : Option DPSDomainMassTransfer
  endpointUpdateCount : Nat

/-- The tables of updates that a timer sends: for a VNID, or for a VNID to one client. -/
structure PendingUpdates where
  vnidBroadcastUpdates : Dict Nat DvgId
  vnidBroadcastUpdatesTo : Dict String (DvgId × ClientId)
  policyUpdatesTo : Dict String (DvgId × ClientId)
  gatewayUpdatesTo : Dict String (DvgId × ClientId)
  vnidMulticastUpdates : Dict String DvgId
  vnidMulticastUpdatesTo : Dict String (DvgId × ClientId)
  addressResolutionRequests : Dict Nat DomainId
  addressResolutionRequestsTo : Dict String (DvgId × ClientId × IPValue)
  gatewayUpdateQueue : List (DvgId × GatewayType)
  policyUpdateQueue : List (DvgId × TrafficType)
  vmMigrationUpdateQueue : List (EndpointId × DomainId × Nat)

/-- No pending updates. -/
def PendingUpdates.empty : PendingUpdates where
  vnidBroadcastUpdates := ∅
  vnidBroadcastUpdatesTo := ∅
  policyUpdatesTo := ∅
  gatewayUpdatesTo := ∅
  vnidMulticastUpdates := ∅
  vnidMulticastUpdatesTo := ∅
  addressResolutionRequests := ∅
  addressResolutionRequestsTo := ∅
  gatewayUpdateQueue := []
  policyUpdateQueue := []
  vmMigrationUpdateQueue := []

/-- The state of a server node. -/
structure Collection where
  directory : Directory
  tunnel : TunnelId → TunnelEndpoint
  nextTunnel : TunnelId
  client : ClientId → DPSClient
  nextClient : ClientId
  host : HostId → DPSClientHost
  nextHost : HostId
  /-- `DPSClientHost.Collection`. -/
  hosts : Dict IPValue HostId
  dvg : DvgId → DVG
  nextDvg : DvgId
  domain : DomainId → Domain
  nextDomain : DomainId
  policy : PolicyId → Policy
  nextPolicy : PolicyId
  /-- `Domain_Hash`: the domains this node handles, by number. -/
  domainHash : Dict Nat DomainId
  /-- `VNID_Hash`: the domain number of each VNID. -/
  vnidHash : Dict Nat Nat
  /-- `Domain_Hash_Global`: the VNIDs of every domain, whether this node handles it or not. -/
  domainHashGlobal : Dict Nat (List Nat)
  pending : PendingUpdates
  queryId : Nat

namespace Collection

/-- `Shared_DomainID`. -/
def sharedDomainID : Nat := 0
/-- `Shared_VNID`. -/
def sharedVNID : Nat := 0
/-- `MaxQueryID`. -/
def maxQueryID : Nat := 2147483647

/-! ## Single writes -/

variable (s : Collection)

/-- Act on the endpoint directory. -/
def onDirectory (change : Directory → Directory) : Collection :=
  { s with directory := change s.directory }

/-- Assign to attributes of one tunnel. -/
def modifyTunnel (tunnel : TunnelId) (change : TunnelEndpoint → TunnelEndpoint) : Collection :=
  { s with tunnel := Function.update s.tunnel tunnel (change (s.tunnel tunnel)) }

/-- Assign to attributes of one client. -/
def modifyClient (client : ClientId) (change : DPSClient → DPSClient) : Collection :=
  { s with client := Function.update s.client client (change (s.client client)) }

/-- Assign to attributes of one host. -/
def modifyHost (host : HostId) (change : DPSClientHost → DPSClientHost) : Collection :=
  { s with host := Function.update s.host host (change (s.host host)) }

/-- Assign to attributes of one VNID. -/
def modifyDvg (dvg : DvgId) (change : DVG → DVG) : Collection :=
  { s with dvg := Function.update s.dvg dvg (change (s.dvg dvg)) }

/-- Assign to attributes of one domain. -/
def modifyDomain (domain : DomainId) (change : Domain → Domain) : Collection :=
  { s with domain := Function.update s.domain domain (change (s.domain domain)) }

/-- Act on the pending updates. -/
def onPending (change : PendingUpdates → PendingUpdates) : Collection :=
  { s with pending := change s.pending }

/-- `generate_query_id`. -/
def generateQueryId : Nat × Collection :=
  (s.queryId, { s with queryId := if s.queryId + 1 ≥ maxQueryID then 1 else s.queryId + 1 })

end Collection

end OpenDove
