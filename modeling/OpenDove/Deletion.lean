import OpenDove.Registration
import OpenDove.Policies

/-!
# Deleting clients, VNIDs and domains

The destructors that reach many objects. A `DPSClient` takes its tunnels with it and, through
the table of hosts, the clients of the same address in every other domain the host is recorded
for. A VNID takes its policies, endpoints and tunnels. A domain that was deleted, and not only
deactivated, takes everything in it.
-/

namespace OpenDove

namespace PendingUpdates

/-- `DPSClient.delete`: drop what is waiting to be sent to a client. -/
def purgeClient (pending : PendingUpdates) (client : ClientId) : PendingUpdates :=
  { pending with
    vnidBroadcastUpdatesTo := pending.vnidBroadcastUpdatesTo.purge (·.2 = client)
    policyUpdatesTo := pending.policyUpdatesTo.purge (·.2 = client)
    gatewayUpdatesTo := pending.gatewayUpdatesTo.purge (·.2 = client)
    vnidMulticastUpdatesTo := pending.vnidMulticastUpdatesTo.purge (·.2 = client)
    addressResolutionRequestsTo := pending.addressResolutionRequestsTo.purge (·.2.1 = client) }

/-- The keys of the entries of a VNID. -/
def keysOf {ν : Type} (table : Dict String (DvgId × ν)) (dvg : DvgId) : List String :=
  table.keys.filter fun key => (table.lookup key).any (·.1 = dvg)

/-- `DVG.delete`: drop what is waiting to be sent for a VNID. For the last two tables the
program deletes the keys it finds from `VNID_Multicast_Updates`. -/
def purgeDvg (pending : PendingUpdates) (dvg : DvgId) (uniqueId : Nat) : PendingUpdates :=
  { pending with
    vnidBroadcastUpdates := pending.vnidBroadcastUpdates.erase uniqueId
    vnidBroadcastUpdatesTo := pending.vnidBroadcastUpdatesTo.purge (·.1 = dvg)
    policyUpdatesTo := pending.policyUpdatesTo.purge (·.1 = dvg)
    gatewayUpdatesTo := pending.gatewayUpdatesTo.purge (·.1 = dvg)
    vnidMulticastUpdates :=
      ((pending.vnidMulticastUpdates.purge (· = dvg)).eraseAll
        (keysOf pending.vnidMulticastUpdatesTo dvg)).eraseAll
        (keysOf pending.addressResolutionRequestsTo dvg) }

end PendingUpdates

namespace Collection

/-! ## Clients and hosts -/

variable (s : Collection) (self : DomainId)

/-- `DPSClient.delete` after the host: the client's pending updates and tunnels go away, and it
leaves its domain. -/
def dpsClientDeleteLocal (self : ClientId) : Collection :=
  let s := s.onPending fun p => p.purgeClient self
  let s := ((s.client self).tunnelEndpointsHash .inet).values.foldl tunnelDelete s
  let s := ((s.client self).tunnelEndpointsHash .inet6).values.foldl tunnelDelete s
  s.domainDpsClientDelete (s.client self).domain self

/-- The client that a domain knows under the address of a host. -/
def hostClient (host : DPSClientHost) (domain : DomainId) : Option ClientId :=
  ((s.domain domain).dpsClientsHash host.location.inetType).lookup host.location.ipValue

/-- `DPSClientHost.delete`, given the deletion of a client. -/
def hostDeleteWith (deleteClient : Collection → ClientId → Collection) (s : Collection)
    (self : HostId) : Collection :=
  if (s.host self).valid then
    let s := s.modifyHost self fun h => { h with valid := false }
    let s := (s.host self).domains.values.foldl (fun s domain =>
      (s.hostClient (s.host self) domain).elim s (deleteClient s)) s
    let s := s.modifyHost self fun h => { h with domains := ∅ }
    { s with hosts := s.hosts.erase (s.host self).location.ipValue }
  else s

/-- `DPSClient.delete`. It deletes the client's host, which deletes the clients of the host, which
look for their host again; a host is deleted once, so the number of hosts bounds the depth. -/
def dpsClientDeleteFuel : Nat → Collection → ClientId → Collection
  | 0, s, self =>
    if (s.client self).valid then
      (s.modifyClient self fun c => { c with valid := false }).dpsClientDeleteLocal self
    else s
  | depth + 1, s, self =>
    if (s.client self).valid then
      let s := s.modifyClient self fun c => { c with valid := false }
      let s := (s.hosts.lookup (s.client self).location.ipValue).elim s
        (hostDeleteWith (dpsClientDeleteFuel depth) s)
      s.dpsClientDeleteLocal self
    else s

/-- `DPSClient.delete`. -/
def dpsClientDelete (self : ClientId) : Collection :=
  dpsClientDeleteFuel (s.nextHost + 1) s self

/-- `DPSClientHost.delete`. -/
def hostDelete (self : HostId) : Collection :=
  hostDeleteWith (dpsClientDeleteFuel s.nextHost) s self

/-- `DPSClientHost.domain_delete`. -/
def hostDomainDelete (self : HostId) (domain : DomainId) : Collection :=
  let s := s.modifyHost self fun h =>
    { h with domains := h.domains.erase (s.domain domain).uniqueId }
  if (s.host self).domains.size = 0 then s.hostDelete self else s

/-- `DPSClientHost.Domain_Deleted_Locally`. -/
def domainDeletedLocally (domain : DomainId) : Collection :=
  s.hosts.values.foldl (fun s host => s.hostDomainDelete host domain) s

/-! ## VNIDs -/

/-- `DVG.dps_clients_get`. -/
def dpsClientsGet (dvg : DvgId) : List ClientId :=
  (([InetType.inet, .inet6].flatMap fun inetType => ClientType.types.flatMap fun clientType =>
    ((s.dvg dvg).tunnelEndpointsHash clientType inetType).values).map
      fun tunnel => (s.tunnel tunnel).dpsClient).dedup

/-- `DVG.send_vnid_deletion`: one message, and one query number, for each client. -/
def sendVnidDeletion (dvg : DvgId) : Collection :=
  (s.dpsClientsGet dvg).foldl (fun s _ => s.generateQueryId.2) s

/-- `Domain.dvg_del`, for a VNID that is already invalid. -/
def domainDvgDel (domain : DomainId) (dvg : DvgId) : Collection :=
  let vnid := (s.dvg dvg).uniqueId
  s.modifyDomain domain fun d =>
    { d with
      addressResolution := d.addressResolution.vnidDelete vnid
      dvgHash := d.dvgHash.erase vnid }

/-- The loops of `DVG.delete` over its endpoint tables, each of which is cleared. -/
def dvgDeleteEndpoints (self : DvgId) : Collection :=
  let s := (s.directory.dvgTables self).endpointHashMAC.values.foldl endpointDelete s
  let s := s.onDirectory fun dir => dir.modifyDvg self (·.clearMAC)
  let s := ((s.directory.dvgTables self).endpointHashIP .inet).values.foldl endpointDelete s
  let s := s.onDirectory fun dir => dir.modifyDvg self (·.clearIP .inet)
  let s := ((s.directory.dvgTables self).endpointHashIP .inet6).values.foldl endpointDelete s
  s.onDirectory fun dir => dir.modifyDvg self (·.clearIP .inet6)

/-- The loop of `DVG.delete` over one tunnel table. It is cleared after each tunnel. -/
def dvgDeleteTunnels (self : DvgId) (clientType : ClientType) (inetType : InetType) : Collection :=
  ((s.dvg self).tunnelEndpointsHash clientType inetType).values.foldl (fun s tunnel =>
    (s.tunnelDelete tunnel).modifyDvg self fun g =>
      { g with
        tunnelEndpointsHash := Function.update g.tunnelEndpointsHash clientType
          (Function.update (g.tunnelEndpointsHash clientType) inetType ∅) }) s

/-- `DVG.delete`. -/
def dvgDelete (self : DvgId) : Collection :=
  if (s.dvg self).valid then
    let vnid := (s.dvg self).uniqueId
    let s := s.modifyDvg self fun g => { g with valid := false }
    let s := s.sendVnidDeletion self
    let s := s.onPending fun p => p.purgeDvg self vnid
    let s := { s with vnidHash := s.vnidHash.erase vnid }
    let s := s.dvgDeletePolicies self .destination .unicast
    let s := s.dvgDeletePolicies self .destination .multicast
    let s := s.dvgDeletePolicies self .source .unicast
    let s := s.dvgDeletePolicies self .source .multicast
    let s := s.dvgDeleteEndpoints self
    let s := ClientType.types.foldl (fun s clientType => s.dvgDeleteTunnels self clientType .inet) s
    let s := ClientType.types.foldl (fun s clientType => s.dvgDeleteTunnels self clientType .inet6) s
    let s := s.modifyDvg self fun g => { g with ipSubnetList := g.ipSubnetList.destroy }
    s.domainDvgDel (s.dvg self).domain self
  else s

/-! ## Domains -/

/-- What `Domain.delete` does only if the domain was deleted: the destructor of every object in
its tables. -/
def domainDeleteObjects : Collection :=
  let s := (s.domain self).dvgHash.values.foldl dvgDelete s
  let s := (s.directory.domainTables self).endpointHashMAC.values.foldl endpointDelete s
  let s := ((s.directory.domainTables self).endpointHashIP .inet).values.foldl endpointDelete s
  let s := ((s.directory.domainTables self).endpointHashIP .inet6).values.foldl endpointDelete s
  let s := ((s.domain self).tunnelEndpointsHash .inet).values.foldl tunnelDelete s
  let s := ((s.domain self).tunnelEndpointsHash .inet6).values.foldl tunnelDelete s
  let s := ((s.domain self).dpsClientsHash .inet).values.foldl dpsClientDelete s
  let s := ((s.domain self).dpsClientsHash .inet6).values.foldl dpsClientDelete s
  let s := ((s.domain self).policyHashDVG .unicast).values.foldl (fun s p => (s.policyDelete p).1) s
  ((s.domain self).policyHashDVG .multicast).values.foldl (fun s p => (s.policyDelete p).1) s

/-- The end of `Domain.delete`: every table of the domain is cleared. -/
def domainClear : Collection :=
  let s := s.onDirectory fun dir =>
    (dir.modifyDomain self fun _ => .empty).conflictDelete self (s.domain self).uniqueId
  s.modifyDomain self fun d =>
    { d with
      dvgHash := ∅
      tunnelEndpointsHash := .empty
      dpsClientsHash := .empty
      policyHashDVG := fun _ => ∅
      ipSubnetList := d.ipSubnetList.destroy
      addressResolution := d.addressResolution.delete
      multicast := .create }

/-- `Domain.delete`. -/
def domainDelete (fdelete : Bool) : Collection :=
  if (s.domain self).valid then
    let s := s.modifyDomain self fun d => { d with valid := false }
    let s := s.domainDeletedLocally self
    let uniqueId := (s.domain self).uniqueId
    let s := s.onPending fun p =>
      { p with addressResolutionRequests := p.addressResolutionRequests.erase uniqueId }
    let s := { s with domainHash := s.domainHash.erase uniqueId }
    let s := if fdelete then s.domainDeleteObjects self else s
    s.domainClear self
  else s

end Collection

end OpenDove
