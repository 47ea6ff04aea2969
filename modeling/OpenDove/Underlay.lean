import OpenDove.TransferDeltas

/-!
# Address tables of the underlay

The routines with which `Domain`, `DPSClient`, `DPSClientHost` and `DVG` keep their tables of
tunnels and clients. The tunnels themselves are in the next module; their routines call the
ones here to record and to forget an address.
-/

namespace OpenDove.Collection

/-! ## Domains -/

variable (s : Collection) (domain : DomainId) (dvg : DvgId) (client : ClientId) (tunnel : TunnelId)
  (clientType : ClientType) (inetType : InetType) (ipValue : IPValue)

/-- `Domain.dps_client_add`. -/
def domainDpsClientAdd : Collection :=
  let location := (s.client client).location
  s.modifyDomain domain fun d =>
    { d with dpsClientsHash := .insert d.dpsClientsHash location.inetType location.ipValue client }

/-- `Domain.dps_client_delete`. -/
def domainDpsClientDelete : Collection :=
  let location := (s.client client).location
  s.modifyDomain domain fun d =>
    { d with
      addressResolution := d.addressResolution.dpsClientDelete client
      dpsClientsHash := .eraseAll d.dpsClientsHash location.inetType [location.ipValue] }

/-- `Domain.tunnel_endpoint_add_IP`. -/
def domainTunnelEndpointAddIP : Collection :=
  s.modifyDomain domain fun d =>
    { d with tunnelEndpointsHash := .insert d.tunnelEndpointsHash inetType ipValue tunnel }

/-- `Domain.tunnel_endpoint_delete_IP`. -/
def domainTunnelEndpointDeleteIP : Collection :=
  s.modifyDomain domain fun d =>
    { d with tunnelEndpointsHash := .eraseAll d.tunnelEndpointsHash inetType [ipValue] }

/-- Delete the addresses of a tunnel from two tables, family by family. -/
def eraseTunnel (tables : FamilyTables TunnelId) (tunnel : TunnelEndpoint) :
    FamilyTables TunnelId :=
  .eraseAll (.eraseAll tables .inet (tunnel.ipList .inet).ipList)
    .inet6 (tunnel.ipList .inet6).ipList

/-- `Domain.tunnel_endpoint_delete`. -/
def domainTunnelEndpointDelete : Collection :=
  s.modifyDomain domain fun d =>
    { d with tunnelEndpointsHash := eraseTunnel d.tunnelEndpointsHash (s.tunnel tunnel) }

/-! ## Clients -/

/-- `DPSClient.__init__`, which also returns the new client. -/
def dpsClientCreate (ipType : InetType) (ipVal : IPValue) (port : Nat) : Collection × ClientId :=
  let self := s.nextClient
  let s := { s with
    nextClient := self + 1
    client := Function.update s.client self
      { domain, location := .create ipType ipVal port, tunnelEndpointsHash := .empty
        valid := true } }
  (s.domainDpsClientAdd domain self, self)

/-- A client without tunnels leaves its domain. -/
def dpsClientLeaveIfEmpty : Collection :=
  if (s.client client).tunnelEndpointsHash.isEmpty then
    s.domainDpsClientDelete (s.client client).domain client
  else s

/-- `DPSClient.tunnel_endpoint_add_IP`. -/
def clientTunnelEndpointAddIP : Collection :=
  s.modifyClient client fun c =>
    { c with tunnelEndpointsHash := .insert c.tunnelEndpointsHash inetType ipValue tunnel }

/-- `DPSClient.tunnel_endpoint_delete_IP`. -/
def clientTunnelEndpointDeleteIP : Collection :=
  (s.modifyClient client fun c =>
    { c with tunnelEndpointsHash := .eraseAll c.tunnelEndpointsHash inetType [ipValue] }
  ).dpsClientLeaveIfEmpty client

/-- `DPSClient.tunnel_endpoint_delete`. -/
def clientTunnelEndpointDelete : Collection :=
  (s.modifyClient client fun c =>
    { c with tunnelEndpointsHash := eraseTunnel c.tunnelEndpointsHash (s.tunnel tunnel) }
  ).dpsClientLeaveIfEmpty client

/-! ## Hosts -/

/-- `DPSClientHost.Host_Add`. -/
def hostAdd (location : IPAddressLocation) : Collection :=
  let domainId := (s.domain domain).uniqueId
  match s.hosts.lookup location.ipValue with
  | some host =>
    if (s.host host).valid then
      s.modifyHost host fun h =>
        { h with
          domains := h.domains.insert domainId domain
          location := { h.location with port := location.port } }
    else s
  | none =>
    let self := s.nextHost
    { s with
      nextHost := self + 1
      host := Function.update s.host self
        { domains := (∅ : Dict Nat DomainId).insert domainId domain
          location := .create location.inetType location.ipValue location.port
          valid := true }
      hosts := s.hosts.insert location.ipValue self }

/-- `DPSClientHost.Host_Touch`. -/
def hostTouch (ipVal : IPValue) (port : Nat) : Collection :=
  match s.hosts.lookup ipVal with
  | some host =>
    if port = 0 then s
    else s.modifyHost host fun h => { h with location := { h.location with port } }
  | none => s

/-! ## VNIDs -/

/-- Whether changes of a VNID's tunnels are announced: its domain is active and it is not the
shared VNID. -/
def announces : Bool :=
  (s.domain (s.dvg dvg).domain).active && (s.dvg dvg).uniqueId ≠ sharedVNID

/-- Queue the VNID for a broadcast of its tunnels. -/
def broadcastUpdate : Collection :=
  s.onPending fun p =>
    { p with vnidBroadcastUpdates := p.vnidBroadcastUpdates.insert (s.dvg dvg).uniqueId dvg }

/-- Queue the VNID for an update of its gateways, if the client type is a gateway type. -/
def gatewayUpdate : Collection :=
  match clientType.gatewayType with
  | none => s
  | some kind =>
    s.onPending fun p => { p with gatewayUpdateQueue := p.gatewayUpdateQueue ++ [(dvg, kind)] }

/-- `DVG.tunnel_endpoint_delete`. The addresses of the IPv6 list are deleted from the IPv4
table, as in the program. -/
def dvgTunnelEndpointDelete : Collection :=
  let v4 := ((s.tunnel tunnel).ipList .inet).ipList
  let v6 := ((s.tunnel tunnel).ipList .inet6).ipList
  let table := (s.dvg dvg).tunnelEndpointsHash clientType .inet
  let tunnelDeleted : Bool := (v4 ++ v6).any (· ∈ table)
  let s := s.modifyDvg dvg fun g =>
    { g with
      tunnelEndpointsHash := Function.update g.tunnelEndpointsHash clientType
        (.eraseAll (g.tunnelEndpointsHash clientType) .inet (v4 ++ v6))
      externalGatewayIPList :=
        if clientType = .externalGateway then
          fun
          | .inet => v4.foldl .remove (g.externalGatewayIPList .inet)
          | .inet6 => v6.foldl .remove (g.externalGatewayIPList .inet6)
        else g.externalGatewayIPList }
  if tunnelDeleted && s.announces dvg then
    let s := s.broadcastUpdate dvg
    let s := s.modifyDomain (s.dvg dvg).domain fun d =>
      { d with multicast := d.multicast.tunnelDelete (s.dvg dvg).uniqueId tunnel }
    s.gatewayUpdate dvg clientType
  else s

/-- `DVG.tunnel_endpoint_add_IP`. -/
def dvgTunnelEndpointAddIP (fregister : Bool) (tunnel : TunnelId) (clientType : ClientType)
    (inetType : InetType) (ipValue : IPValue) (transactionType : TransactionType) : Collection :=
  let found := ((s.dvg dvg).tunnelEndpointsHash clientType inetType).lookup ipValue
  let newTunnel := fregister || found ≠ some tunnel
  let s := s.modifyDvg dvg fun g =>
    { g with
      tunnelEndpointsHash := Function.update g.tunnelEndpointsHash clientType
        (.insert (g.tunnelEndpointsHash clientType) inetType ipValue tunnel) }
  let s := if newTunnel && transactionType = .normal && s.announces dvg then s.broadcastUpdate dvg
    else s
  let s := if newTunnel && s.announces dvg then s.gatewayUpdate dvg clientType else s
  -- an entry of another tunnel is replaced without a delta
  if found.isNone then
    (s.registerTunnel (s.dvg dvg).domain (s.dvg dvg).uniqueId clientType.code true
      (s.client (s.tunnel tunnel).dpsClient).location [(inetType, ipValue)]).1
  else s

/-- `DVG.tunnel_endpoint_delete_IP`. -/
def dvgTunnelEndpointDeleteIP : Collection :=
  if ipValue ∈ (s.dvg dvg).tunnelEndpointsHash clientType inetType then
    let s := s.modifyDvg dvg fun g =>
      { g with
        tunnelEndpointsHash := Function.update g.tunnelEndpointsHash clientType
          (.eraseAll (g.tunnelEndpointsHash clientType) inetType [ipValue]) }
    if s.announces dvg then s.gatewayUpdate dvg clientType else s
  else s

end OpenDove.Collection
