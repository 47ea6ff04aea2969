import OpenDove.Tunnels

/-!
# Registering tunnels

A registration names a VNID, a client type, a DPS client and a list of physical addresses. If
none of the addresses belongs to a tunnel of that client, a tunnel is created; if one does, the
addresses are added to it; if several do, they are merged into one of them first. Addresses of
another client's tunnel are taken from it.

The program collects the tunnels in a dictionary and merges them into the first of its keys.
The order of the keys is not specified and is an argument of `register`.
-/

namespace OpenDove

/-- An order in which the keys of a dictionary of tunnels are listed. -/
structure KeysOrder where
  keys : List TunnelId → List TunnelId
  perm : ∀ tunnels, (keys tunnels).Perm tunnels

namespace Collection

/-- `ip_get_val_from_packed`. The format for IPv6 does not exist, so every IPv6 address
raises. -/
def ipGetValFromPacked : IPValue → Option IPValue
  | .v4 value => some (.v4 value)
  | .v6 _ => none

variable (s : Collection) (primary self secondary : TunnelId) (domain : DomainId) (dvg : DvgId)
  (clientType : ClientType)

/-- Add every address of a list to a tunnel. -/
def ipAddAll (fregister : Bool) (clientType : ClientType) (transactionType : TransactionType)
    (pipTupleList : List (InetType × IPValue)) : Collection :=
  pipTupleList.foldl
    (fun s pip => s.ipAdd self dvg fregister clientType pip.1 pip.2 transactionType) s

/-- `TunnelEndpoint.__init__`, which also returns the new tunnel. -/
def tunnelCreate (transactionType : TransactionType) (dpsClient : ClientId)
    (pipTupleList : List (InetType × IPValue)) : Collection × TunnelId :=
  let self := s.nextTunnel
  let s := { s with
    nextTunnel := self + 1
    tunnel := Function.update s.tunnel self
      { domain, dpsClient, dvgHash := fun _ => ∅, ipHashVNID := fun _ => .empty
        vnidHashIP := fun _ => .empty, ipList := fun _ => .create, valid := true } }
  let s := s.onDirectory fun dir => dir.setTunnelMAC self ∅
  let s := s.ipAddAll self dvg true clientType transactionType pipTupleList
  (s.hostAdd domain (s.client dpsClient).location, self)

/-- The merge of the four dictionaries of two tunnels. Common keys take the value of the
secondary tunnel, whose dictionaries are cleared. -/
def mergeHashes : Collection :=
  let other := s.tunnel secondary
  let s := s.modifyTunnel primary fun t =>
    { t with
      dvgHash := fun clientType => other.dvgHash clientType ∪ t.dvgHash clientType
      ipHashVNID := fun clientType => (t.ipHashVNID clientType).merge (other.ipHashVNID clientType)
      vnidHashIP := fun clientType =>
        (t.vnidHashIP clientType).merge (other.vnidHashIP clientType) }
  s.modifyTunnel secondary fun t =>
    { t with
      dvgHash := fun _ => ∅
      ipHashVNID := fun _ => .empty
      vnidHashIP := fun _ => .empty }

/-- Add an address to a tunnel for every client type and every VNID the tunnel is registered
on. -/
def ipAddEverywhere (ipValue : IPValue) : Collection :=
  ClientType.types.foldl (fun s clientType =>
    ((s.tunnel self).dvgHash clientType).values.foldl
      (fun s dvg => s.ipAdd self dvg false clientType .inet ipValue .normal) s) s

/-- The move of one address list in `merge_tunnels`. The addresses of both lists are added with
the family of IPv4. -/
def mergeIPList (inetType : InetType) : Collection :=
  let ipValues := ((s.tunnel secondary).ipList inetType).ipList
  let s := s.modifyTunnel secondary fun t =>
    { t with ipList := Function.update t.ipList inetType .create }
  ipValues.foldl (fun s ipValue => s.ipAddEverywhere primary ipValue) s

/-- `TunnelEndpoint.merge_tunnels`. Reading `DVG_Hash` of an invalid tunnel raises after the
endpoints were moved; the flag tells whether that happened. -/
def mergeTunnels : Collection × Bool :=
  let s := s.onDirectory fun dir =>
    (dir.setTunnelMAC primary (dir.tunnelMAC secondary ∪ dir.tunnelMAC primary)).setTunnelMAC
      secondary ∅
  if (s.tunnel primary).valid && (s.tunnel secondary).valid then
    let s := s.mergeHashes primary secondary
    let s := s.mergeIPList primary secondary .inet
    let s := s.mergeIPList primary secondary .inet6
    (s.tunnelDelete secondary, false)
  else (s, true)

/-- Merge a list of tunnels into one, until an exception is raised. -/
def mergeAll (s : Collection) (primary : TunnelId) : List TunnelId → Collection × Bool
  | [] => (s, false)
  | secondary :: rest =>
    let (s, raised) := s.mergeTunnels primary secondary
    if raised then (s, true) else s.mergeAll primary rest

/-- The first loop of `register`: the tunnels of the client that have one of the addresses.
Addresses of other clients' tunnels are cleared. -/
def registerScan (s : Collection) (domain : DomainId) (dpsClient : ClientId) :
    List (InetType × IPValue) → Collection × List TunnelId
  | [] => (s, [])
  | (inetType, pipValue) :: rest =>
    match ((s.domain domain).tunnelEndpointsHash inetType).lookup pipValue with
    | none => s.registerScan domain dpsClient rest
    | some tunnel =>
      if (s.tunnel tunnel).dpsClient ≠ dpsClient then
        (s.ipClear tunnel inetType pipValue).registerScan domain dpsClient rest
      else
        let (s, tunnels) := s.registerScan domain dpsClient rest
        (s, tunnels.insert tunnel)

/-- Register the addresses on a tunnel that has some of them. An invalid tunnel raises. -/
def registerExisting (transactionType : TransactionType) (dpsClient : ClientId)
    (pipTupleList : List (InetType × IPValue)) : Collection × Bool :=
  if (s.tunnel self).valid then
    let s := s.modifyTunnel self fun t =>
      { t with
        dvgHash := Function.update t.dvgHash clientType
          ((t.dvgHash clientType).insert (s.dvg dvg).uniqueId dvg) }
    let s := s.ipAddAll self dvg false clientType transactionType pipTupleList
    (s.hostAdd domain (s.client dpsClient).location, false)
  else (s, true)

/-- Change the list of external gateways of a VNID for every address of a request, if the
request is for that client type. -/
def externalGateways (change : IPAddressList → IPValue → IPAddressList)
    (pipTupleList : List (InetType × IPValue)) : Collection :=
  if clientType = .externalGateway then
    s.modifyDvg dvg fun g =>
      { g with
        externalGatewayIPList := pipTupleList.foldl (fun lists pip =>
          Function.update lists pip.1 (change (lists pip.1) pip.2)) g.externalGatewayIPList }
  else s

/-- `TunnelEndpoint.register`. The flag tells whether an exception left the routine. -/
def register (keysOrder : KeysOrder) (s : Collection) (domain : DomainId)
    (dvg : DvgId) (clientType : ClientType) (transactionType : TransactionType)
    (dpsClient : ClientId) (pipTupleList : List (InetType × IPValue)) : Collection × Bool :=
  if pipTupleList = [] then (s, false)
  else if !clientType.isTunnelType then (s, false)
  else
    let (s, tunnelSet) := s.registerScan domain dpsClient pipTupleList
    let (s, raised) := match keysOrder.keys tunnelSet with
      | [] =>
        ((s.tunnelCreate domain dvg clientType transactionType dpsClient pipTupleList).1, false)
      | primary :: secondaries =>
        let (s, raised) := s.mergeAll primary secondaries
        if raised then (s, true)
        else
          s.registerExisting primary domain dvg clientType transactionType dpsClient pipTupleList
    if raised then (s, true)
    else (s.externalGateways dvg clientType .add pipTupleList, false)

end Collection

end OpenDove
