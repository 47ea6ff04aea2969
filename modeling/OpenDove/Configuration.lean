import OpenDove.Deletion

/-!
# Configuring the server

The requests with which the controller adds and removes domains and VNIDs, and the one with which
DPS clients register their tunnels, together with the constructors they call. The set of domains
that wait for a transfer and the set of VNIDs that wait for a registration are not read by anything
here and are left out.
-/

namespace OpenDove

/-- The order of the keys in which tunnels were found. -/
def KeysOrder.listed : KeysOrder := ⟨id, List.Perm.refl⟩

namespace Collection

/-- The largest number of a domain or a VNID. -/
def maxNumber : Nat := 16777215

/-- A server that has just started. -/
def empty : Collection where
  directory := .empty
  tunnel := fun _ =>
    { domain := 0, dpsClient := 0, dvgHash := fun _ => ∅, ipHashVNID := fun _ => .empty
      vnidHashIP := fun _ => .empty, ipList := fun _ => .create, valid := false }
  nextTunnel := 0
  client := fun _ =>
    { domain := 0, location := .create .inet .zero 0, tunnelEndpointsHash := .empty, valid := false }
  nextClient := 0
  host := fun _ => { domains := ∅, location := .create .inet .zero 0, valid := false }
  nextHost := 0
  hosts := ∅
  dvg := fun _ =>
    { domain := 0, uniqueId := 0, valid := false, tunnelEndpointsHash := fun _ => .empty
      externalGatewayIPList := fun _ => .create, implicitGatewayIPListv4 := .create
      ipSubnetList := .create, policySource := fun _ => ∅, policyDestination := fun _ => ∅ }
  nextDvg := 0
  domain := fun _ =>
    { uniqueId := 0, active := false, valid := false, dvgHash := ∅, tunnelEndpointsHash := .empty
      dpsClientsHash := .empty, policyHashDVG := fun _ => ∅, ipSubnetList := .create
      implicitGatewayIPListv4 := .create, multicast := .create, addressResolution := .create
      massTransfer := none, endpointUpdateCount := 0 }
  nextDomain := 0
  policy := fun _ =>
    { domain := 0, trafficType := .unicast, type := 0, srcDvg := 0, dstDvg := 0, ttl := 0
      actionConnectivity := 0, key := (0, 0), valid := false }
  nextPolicy := 0
  domainHash := ∅
  vnidHash := ∅
  domainHashGlobal := ∅
  pending := .empty
  queryId := 1

/-! ## Domains and VNIDs -/

variable (s : Collection) (domain : DomainId) (domainId dvgId : Nat)

/-- `Domain.__init__`; `none` is the exception for a number out of range. -/
def domainCreate (active : Bool) : Option Collection :=
  if domainId > maxNumber then none
  else
    let self := s.nextDomain
    some { s with
      nextDomain := self + 1
      domain := Function.update s.domain self
        { uniqueId := domainId, active, valid := true, dvgHash := ∅, tunnelEndpointsHash := .empty
          dpsClientsHash := .empty, policyHashDVG := fun _ => ∅, ipSubnetList := .create
          implicitGatewayIPListv4 := .create, multicast := .create, addressResolution := .create
          massTransfer := none, endpointUpdateCount := 0 }
      domainHash := s.domainHash.insert domainId self }

/-- `DVG.__init__`, which also returns the new VNID; `none` is the exception for a number out of
range. -/
def dvgCreate : Option (Collection × DvgId) :=
  if dvgId > maxNumber then none
  else
    let self := s.nextDvg
    let s := { s with
      nextDvg := self + 1
      dvg := Function.update s.dvg self
        { domain, uniqueId := dvgId, valid := true, tunnelEndpointsHash := fun _ => .empty
          externalGatewayIPList := fun _ => .create, implicitGatewayIPListv4 := .create
          ipSubnetList := .create, policySource := fun _ => ∅, policyDestination := fun _ => ∅ } }
    let s := s.modifyDomain domain fun d => { d with dvgHash := d.dvgHash.insert dvgId self }
    some ({ s with vnidHash := s.vnidHash.insert dvgId (s.domain domain).uniqueId }, self)

/-- The time to live of the default policy. -/
def defaultTTL : Nat := 67108864

/-- The part of `Dvg_Add` that may raise: the VNID, its delta if the domain is being transferred,
and its two default policies. The status of the delta is ignored. -/
def dvgAddLocal : Option Collection := do
  let (s, dvg) ← s.dvgCreate domain dvgId
  let s := (s.registerVnid domain dvgId true).1
  let s ← s.policyCreate domain .unicast typeConnectivity dvg dvg defaultTTL actionForward
  s.policyCreate domain .multicast typeConnectivity dvg dvg defaultTTL actionForward

/-- `Dvg_Add`. -/
def dvgAdd : Collection × DOVEStatus :=
  if (s.vnidHash.lookup dvgId).any (· ≠ domainId) then (s, .alreadyExists)
  else
    let s := { s with
      vnidHash := s.vnidHash.insert dvgId domainId
      domainHashGlobal := s.domainHashGlobal.insert domainId
        (((s.domainHashGlobal.lookup domainId).getD []).insert dvgId) }
    match s.domainHash.lookup domainId with
    | none => (s, .ok)
    | some domain =>
      if dvgId ∈ (s.domain domain).dvgHash then (s, .ok)
      else match s.dvgAddLocal domain dvgId with
        | none => (s, .noMemory)
        | some s => (s, .ok)

/-- `Domain_Delete`. -/
def domainDeleteRequest : Collection :=
  let s := (s.domainHash.lookup domainId).elim s fun domain => s.domainDelete domain true
  { s with
    vnidHash := s.vnidHash.eraseAll ((s.domainHashGlobal.lookup domainId).getD [])
    domainHashGlobal := s.domainHashGlobal.erase domainId }

/-- Add the VNIDs that a domain is known to have. The first one that cannot be added deletes the
domain again. -/
def dvgAddAll (s : Collection) (domainId : Nat) : List Nat → Collection × DOVEStatus
  | [] => (s, .ok)
  | vnid :: vnids =>
    match s.dvgAdd domainId vnid with
    | (s, .ok) => s.dvgAddAll domainId vnids
    | (s, status) => (s.domainDeleteRequest domainId, status)

/-- `Domain_Add_Local`. -/
def domainAddLocal : Collection × DOVEStatus :=
  let known := if domainId ∈ s.domainHash then some s else s.domainCreate domainId true
  match known with
  | none => (s, .noMemory)
  | some s => s.dvgAddAll domainId ((s.domainHashGlobal.lookup domainId).getD [])

/-- `Domain_Activate`. -/
def domainActivate : Collection × DOVEStatus :=
  match s.domainHash.lookup domainId with
  | none => (s, .invalidDomain)
  | some domain => (s.modifyDomain domain fun d => { d with active := true }, .ok)

/-- `Domain_Deactivate`. A transfer in progress is reported in the status, which is left out
here, but the domain is deleted anyway. -/
def domainDeactivate : Collection :=
  (s.domainHash.lookup domainId).elim s fun domain => s.domainDelete domain false

/-- `Dvg_Delete`. The delta says that the VNID was added. -/
def dvgDeleteRequest (vnid : Nat) : Collection :=
  let domainId := s.vnidHash.lookup vnid
  let s := (domainId.bind s.domainHash.lookup).elim s fun domain =>
    ((s.domain domain).dvgHash.lookup vnid).elim s fun dvg =>
      ((s.dvgDelete dvg).registerVnid domain vnid true).1
  let domainHashGlobal := domainId.elim s.domainHashGlobal fun domainId =>
    let vnids := ((s.domainHashGlobal.lookup domainId).getD []).erase vnid
    if vnids = [] then s.domainHashGlobal.erase domainId
    else s.domainHashGlobal.insert domainId vnids
  { s with vnidHash := s.vnidHash.erase vnid, domainHashGlobal }

/-! ## Tunnels -/

/-- The client of a registration, created if the domain does not know its address. -/
def registerClient (inetType : InetType) (ipVal : IPValue) (port : Nat) : Collection × ClientId :=
  match ((s.domain domain).dpsClientsHash inetType).lookup ipVal with
  | some client =>
    (s.modifyClient client fun c => { c with location := { c.location with port } }, client)
  | none => s.dpsClientCreate domain inetType ipVal port

/-- `Tunnel_Register`. The addresses are given with their families; an unknown client type
registers nothing. -/
def tunnelRegister (keysOrder : KeysOrder) (s : Collection) (domainId vnid clientType : Nat)
    (transactionType : TransactionType) (dpsClientIP : IPValue) (dpsClientPort : Nat)
    (pipTupleList : List (InetType × IPValue)) : Collection × ReplyStatus :=
  if pipTupleList = [] then (s, .invalidSrcIp)
  else match ipGetValFromPacked dpsClientIP with
    | none => (s, .invalidSrcIp)
    | some dpsClientIPVal =>
      let s := s.hostTouch dpsClientIPVal dpsClientPort
      match s.domainHash.lookup domainId with
      | none => (s, .invalidDomainId)
      | some domain =>
        if !(s.domain domain).valid then (s, .invalidDomainId)
        else match (s.domain domain).dvgHash.lookup vnid with
          | none => (s, .invalidSrcDvg)
          | some dvg =>
            if !(s.dvg dvg).valid then (s, .invalidSrcDvg)
            else
              let (s, client) := s.registerClient domain dpsClientIP.family dpsClientIPVal
                dpsClientPort
              match ClientType.ofCode clientType with
              | none => (s, .none)
              | some clientType =>
                let (s, raised) := register keysOrder s domain dvg clientType transactionType client
                  pipTupleList
                (s, if raised then .retry else .none)

/-! ## A small network -/

/-- Domain 7 with VNID 70, in which two switches have registered a tunnel each. -/
def twoSwitches : Collection :=
  let s := (empty.domainAddLocal 7).1
  let s := (s.dvgAdd 7 70).1
  let s := (tunnelRegister .listed s 7 70 ClientType.doveSwitch.code .normal (.v4 1) 902
    [(.inet, .v4 101)]).1
  (tunnelRegister .listed s 7 70 ClientType.doveSwitch.code .normal (.v4 2) 902
    [(.inet, .v4 102)]).1

theorem twoSwitches_directory : twoSwitches.directory = .empty := by
  have created : twoSwitches.directory = (Directory.empty.setTunnelMAC 0 ∅).setTunnelMAC 1 ∅ := rfl
  have first : Directory.empty.setTunnelMAC 0 ∅ = .empty := Directory.setTunnelMAC_self rfl
  rw [created, first]
  exact Directory.setTunnelMAC_self rfl

end Collection

end OpenDove
