import OpenDove.Underlay

/-!
# Tunnels

The routines of `TunnelEndpoint`: adding an address, clearing one, taking a whole tunnel away and
merging tunnels. In the shared domain a tunnel goes away with its last endpoint, so the deletion of
an endpoint is here too.
-/

namespace OpenDove.Collection

/-! ## Addresses -/

variable (s : Collection) (self : TunnelId) (clientType : ClientType) (inetType : InetType)
  (ipValue : IPValue)

/-- `TunnelEndpoint.ip_add`, for a valid tunnel. An address of either family is skipped if the
IPv4 list has it. -/
def ipAdd (dvg : DvgId) (fregister : Bool) (clientType : ClientType) (inetType : InetType)
    (ipValue : IPValue) (transactionType : TransactionType) : Collection :=
  let vnid := (s.dvg dvg).uniqueId
  let s := s.modifyTunnel self fun t =>
    { t with
      dvgHash := Function.update t.dvgHash clientType ((t.dvgHash clientType).insert vnid dvg)
      ipList :=
        if (t.ipList .inet).search ipValue then t.ipList
        else Function.update t.ipList inetType ((t.ipList inetType).add ipValue) }
  let s := s.clientTunnelEndpointAddIP (s.tunnel self).dpsClient self inetType ipValue
  let s := s.dvgTunnelEndpointAddIP dvg fregister self clientType inetType ipValue transactionType
  let s := s.modifyTunnel self fun t =>
    { t with
      vnidHashIP := Function.update t.vnidHashIP clientType
        ((t.vnidHashIP clientType).add vnid ipValue)
      ipHashVNID := Function.update t.ipHashVNID clientType
        ((t.ipHashVNID clientType).add ipValue vnid) }
  s.domainTunnelEndpointAddIP (s.tunnel self).domain self inetType ipValue

/-- Remove a tunnel of one client type from every VNID it is registered on. -/
def leaveDvgs : Collection :=
  ((s.tunnel self).dvgHash clientType).values.foldl
    (fun s dvg => s.dvgTunnelEndpointDelete dvg self clientType) s

/-- `TunnelEndpoint.delete_if_empty`. -/
def deleteIfEmpty : Collection :=
  if (s.directory.tunnelMAC self).size ≠ 0 then s
  else if !(s.tunnel self).valid then s
  else
    let s := s.modifyTunnel self fun t => { t with valid := false }
    let s := ClientType.types.foldl (fun s clientType => s.leaveDvgs self clientType) s
    let s := s.modifyTunnel self fun t => { t with dvgHash := fun _ => ∅ }
    let s := s.clientTunnelEndpointDelete (s.tunnel self).dpsClient self
    let s := s.domainTunnelEndpointDelete (s.tunnel self).domain self
    s.modifyTunnel self fun t => { t with ipList := fun _ => .create }

/-! ## Endpoints on a tunnel -/

/-- `TunnelEndpoint.endpoint_del`. -/
def tunnelEndpointDel (s : Collection) (self : TunnelId) (endpoint : EndpointId) : Collection :=
  let s := s.onDirectory fun dir => dir.tunnelEndpointDel self endpoint
  if (s.domain (s.tunnel self).domain).uniqueId = sharedDomainID then s.deleteIfEmpty self else s

/-- `Endpoint.delete`. -/
def endpointDelete (endpoint : EndpointId) : Collection :=
  if (s.directory.endpoint endpoint).valid then
    let tunnel := (s.directory.endpoint endpoint).tunnelEndpoint
    let s := s.onDirectory fun dir => dir.deleteStart endpoint
    let s := s.tunnelEndpointDel tunnel endpoint
    s.onDirectory fun dir => dir.deleteFinish endpoint
  else s

/-- `TunnelEndpoint.delete`. -/
def tunnelDelete : Collection :=
  let s := (s.directory.tunnelMAC self).values.foldl endpointDelete s
  let s := s.onDirectory fun dir => dir.setTunnelMAC self ∅
  s.deleteIfEmpty self

/-- `TunnelEndpoint.delete_client_type`. -/
def deleteClientType : Collection :=
  (s.directory.tunnelMAC self).keys.foldl (fun s key =>
    match (s.directory.tunnelMAC self).lookup key with
    | none => s
    | some endpoint =>
      if (s.directory.endpoint endpoint).clientType = clientType then s.endpointDelete endpoint
      else s) s

/-! ## Deleting an address -/

/-- Forget a VNID that lost its last address of a client type, and with the last VNID the
endpoints of that type. A missing entry raises, and the exception is swallowed. -/
def forgetVnid (vnid : Nat) : Collection :=
  if vnid ∈ (s.tunnel self).dvgHash clientType then
    let s := s.modifyTunnel self fun t =>
      { t with dvgHash := Function.update t.dvgHash clientType ((t.dvgHash clientType).erase vnid) }
    if ((s.tunnel self).dvgHash clientType).size = 0 then s.deleteClientType self clientType else s
  else s

/-- The end of `ip_clear`: the address leaves the tunnel's list and the
tables of its client and its domain, and a tunnel without addresses is deleted. -/
def forgetIP : Collection :=
  let s := s.modifyTunnel self fun t =>
    { t with ipList := Function.update t.ipList inetType ((t.ipList inetType).remove ipValue) }
  let s := s.clientTunnelEndpointDeleteIP (s.tunnel self).dpsClient inetType ipValue
  let s := s.domainTunnelEndpointDeleteIP (s.tunnel self).domain inetType ipValue
  if ((s.tunnel self).ipList .inet).count = 0 ∧ ((s.tunnel self).ipList .inet6).count = 0 then
    s.tunnelDelete self
  else s

/-- `ip_clear` for one VNID of one client type. -/
def ipClearVnid (vnid : Nat) : Collection :=
  let (vnidHashIP, fRemoveVNID) := ((s.tunnel self).vnidHashIP clientType).remove vnid ipValue
  let s := s.modifyTunnel self fun t =>
    { t with vnidHashIP := Function.update t.vnidHashIP clientType vnidHashIP }
  match ((s.tunnel self).dvgHash clientType).lookup vnid with
  | none => s
  | some dvg =>
    let s := s.dvgTunnelEndpointDeleteIP dvg clientType inetType ipValue
    if fRemoveVNID then s.forgetVnid self clientType vnid else s

/-- `ip_clear` for one client type. -/
def ipClearType (clientType : ClientType) : Collection :=
  let s := ((s.tunnel self).dvgHash clientType).keys.foldl
    (fun s vnid => s.ipClearVnid self clientType inetType ipValue vnid) s
  s.modifyTunnel self fun t =>
    { t with
      ipHashVNID := Function.update t.ipHashVNID clientType
        ((t.ipHashVNID clientType).erase ipValue) }

/-- The loop of `ip_clear` over the client types. It raises at the first type it reaches when
the tunnel is invalid; the flag tells whether it went through. -/
def ipClearTypes (s : Collection) (self : TunnelId) (inetType : InetType) (ipValue : IPValue) :
    List ClientType → Collection × Bool
  | [] => (s, true)
  | clientType :: clientTypes =>
    if (s.tunnel self).valid then
      (s.ipClearType self inetType ipValue clientType).ipClearTypes self inetType ipValue clientTypes
    else (s, false)

/-- `TunnelEndpoint.ip_clear`. Its only caller swallows an exception. -/
def ipClear : Collection :=
  let (s, completed) := s.ipClearTypes self inetType ipValue ClientType.types
  if completed then s.forgetIP self inetType ipValue else s

end OpenDove.Collection
