import OpenDove.Dictionary
import OpenDove.Addresses

/-!
# Per-domain services

Three small components that every domain carries beside its tables: the subnet list that
admits or rejects a virtual address, the address resolution that remembers which clients
wait for an address nobody has announced yet, and the multicast groups that record sender
and receiver tunnels.

Objects are named by numbers, which stand for the identity of the program's objects. Two
names are equal exactly when the program would compare the same object.
-/

namespace OpenDove

/-- The identity of an `Endpoint` object. -/
abbrev EndpointId := Nat
/-- The identity of a `TunnelEndpoint` object. -/
abbrev TunnelId := Nat
/-- The identity of a `DPSClient` object. -/
abbrev ClientId := Nat
/-- The identity of a `DPSClientHost` object. -/
abbrev HostId := Nat
/-- The identity of a `DVG` object. -/
abbrev DvgId := Nat
/-- The identity of a `Domain` object. -/
abbrev DomainId := Nat

/-! ## Subnets -/

/-- `IPSubnet`: an IPv4 subnet with its gateway and mode. -/
structure IPSubnet where
  ipValue : UInt32
  maskValue : UInt32
  ipGateway : UInt32
  mode : SubnetMode
  deriving DecidableEq, Repr

/-- `IPSubnetList`. The counter is kept apart from the dictionary, as in the program: a
repeated `add` of one subnet counts twice. -/
structure IPSubnetList where
  pyList : Dict (UInt32 × UInt32) IPSubnet
  count : Int

namespace IPSubnetList

/-- A list without subnets. -/
def create : IPSubnetList := { pyList := ∅, count := 0 }

variable (list : IPSubnetList) (ipValue : UInt32)

/-- Add a subnet under its address and mask. -/
def add (maskValue ipGateway : UInt32) (mode : SubnetMode) : IPSubnetList :=
  { pyList := list.pyList.insert (ipValue, maskValue) { ipValue, maskValue, ipGateway, mode }
    count := list.count + 1 }

/-- The first subnet that contains an address. -/
def lookup : Option IPSubnet :=
  list.pyList.values.find? fun subnet =>
    (subnet.ipValue &&& subnet.maskValue) == (ipValue &&& subnet.maskValue)

/-- The mode of the subnet that contains an address; `none` is the raised exception. -/
def validIp : Option SubnetMode :=
  (list.lookup ipValue).map IPSubnet.mode

/-- `get`. Its comparison names two variables that do not exist, so any visit of a subnet
raises and the answer is "not found" for every list. -/
def get (_list : IPSubnetList) (_ipValue _maskValue : UInt32) : Option IPSubnet := none

/-- Remove every subnet. -/
def destroy (_list : IPSubnetList) : IPSubnetList := { pyList := ∅, count := 0 }

end IPSubnetList

/-! ## Address resolution -/

/-- `AddressResolutionvIP`: the clients, and for each client the VNIDs, that wait for one
virtual address. -/
structure AddressResolutionvIP where
  vIP : IPAddressLocation
  dpsClients : Dict ClientId (Dict Nat DvgId)
  total : Int
  retry : Int

namespace AddressResolutionvIP

/-- A resolution without waiters. -/
def create (vIPType : InetType) (vIPValue : IPValue) : AddressResolutionvIP :=
  { vIP := .create vIPType vIPValue 0, dpsClients := ∅, total := 0, retry := 2 }

variable (resolution : AddressResolutionvIP)

/-- Add a waiter, and tell whether it was new. -/
def add (client : ClientId) (vnid : Nat) (dvg : DvgId) : AddressResolutionvIP × Bool :=
  let waiter := (resolution.dpsClients.lookup client).getD ∅
  if vnid ∈ waiter then
    ({ resolution with dpsClients := resolution.dpsClients.insert client waiter }, false)
  else
    ({ resolution with
        dpsClients := resolution.dpsClients.insert client (waiter.insert vnid dvg)
        total := resolution.total + 1 }, true)

/-- Drop the waiters of one client and return their number. -/
def dpsClientDelete (client : ClientId) : AddressResolutionvIP × Int :=
  match resolution.dpsClients.lookup client with
  | none => (resolution, 0)
  | some waiter =>
    ({ resolution with
        dpsClients := resolution.dpsClients.erase client
        total := resolution.total - waiter.size }, waiter.size)

/-- Drop the waiters of one VNID and return their number. -/
def vnidDelete (vnid : Nat) : AddressResolutionvIP × Int :=
  let deleted : Int := (resolution.dpsClients.values.filter fun waiter => vnid ∈ waiter).length
  ({ resolution with
      dpsClients := resolution.dpsClients.mapValues fun waiter => waiter.erase vnid
      total := resolution.total - deleted }, deleted)

end AddressResolutionvIP

/-- `AddressResolution`: the pending resolutions of a domain, by address value. -/
structure AddressResolution where
  endpointResolution : Dict IPValue AddressResolutionvIP
  total : Int
  valid : Bool

namespace AddressResolution

/-- No pending resolutions. -/
def create : AddressResolution := { endpointResolution := ∅, total := 0, valid := true }

variable (pending : AddressResolution)

/-- Record that a client waits for an address, and tell whether queries must be sent. -/
def processLookupNotFound (client : ClientId) (vnid : Nat) (dvg : DvgId) (vIPType : InetType)
    (vIPVal : IPValue) : AddressResolution × Bool :=
  let found := pending.endpointResolution.lookup vIPVal
  let (resolution, added) :=
    (found.getD (.create vIPType vIPVal)).add client vnid dvg
  ({ pending with
      endpointResolution := pending.endpointResolution.insert vIPVal resolution
      total := if added then pending.total + 1 else pending.total }, found.isNone)

/-- Drop every waiter of one client. -/
def dpsClientDelete (pending : AddressResolution) (client : ClientId) : AddressResolution :=
  { pending with
    endpointResolution :=
      pending.endpointResolution.mapValues fun resolution => (resolution.dpsClientDelete client).1
    total := pending.total - (pending.endpointResolution.values.map fun resolution =>
      (resolution.dpsClientDelete client).2).sum }

/-- Drop every waiter of one VNID. -/
def vnidDelete (pending : AddressResolution) (vnid : Nat) : AddressResolution :=
  { pending with
    endpointResolution :=
      pending.endpointResolution.mapValues fun resolution => (resolution.vnidDelete vnid).1
    total := pending.total - (pending.endpointResolution.values.map fun resolution =>
      (resolution.vnidDelete vnid).2).sum }

/-- Take the resolution of an address out once an endpoint announced it. `holds` says whether
the endpoint really has the address; without it the check in `resolved` raises after the
removal, and the total keeps counting the lost waiters. -/
def processEndpointUpdate (holds : Bool) (vIPVal : IPValue) :
    AddressResolution × Option AddressResolutionvIP :=
  match pending.endpointResolution.lookup vIPVal with
  | none => (pending, none)
  | some resolution =>
    let remaining := pending.endpointResolution.erase vIPVal
    if holds then
      ({ pending with
          endpointResolution := remaining
          total := pending.total - resolution.total }, some resolution)
    else ({ pending with endpointResolution := remaining }, none)

/-- Drop every resolution when the domain goes away. -/
def delete : AddressResolution :=
  if pending.valid then
    { endpointResolution := ∅
      total := pending.total - (pending.endpointResolution.values.map (·.total)).sum
      valid := false }
  else pending

end AddressResolution

/-! ## Multicast groups -/

/-- `Multicast_VNID_Group`: the sender and receiver tunnels of one VNID in one group. -/
structure MulticastVNIDGroup where
  globalScope : Bool
  receiverAll : Dict TunnelId Unit
  receiverIphash : Dict IPValue (Dict TunnelId Unit)
  senderAll : Dict TunnelId Unit
  senderIphash : Dict IPValue (Dict TunnelId Unit)

namespace MulticastVNIDGroup

/-- Remove a tunnel from one address table, and the address with its last tunnel. -/
def iphashDelete (iphash : Dict IPValue (Dict TunnelId Unit)) (tunnel : TunnelId) :
    Dict IPValue (Dict TunnelId Unit) :=
  iphash.keys.foldl (fun table key =>
    match table.lookup key with
    | none => table
    | some tunnels =>
      if tunnel ∈ tunnels then
        let tunnels := tunnels.erase tunnel
        if Dict.size tunnels = 0 then table.erase key else table.insert key tunnels
      else table) iphash

/-- Remove a tunnel from every sender and receiver set. -/
def tunnelDelete (group : MulticastVNIDGroup) (tunnel : TunnelId) : MulticastVNIDGroup :=
  { globalScope := group.globalScope
    receiverAll := group.receiverAll.erase tunnel
    receiverIphash := iphashDelete group.receiverIphash tunnel
    senderAll := group.senderAll.erase tunnel
    senderIphash := iphashDelete group.senderIphash tunnel }

/-- Whether all four sets are empty. -/
def empty (group : MulticastVNIDGroup) : Bool :=
  group.receiverAll.size + group.receiverIphash.size + group.senderAll.size
    + group.senderIphash.size = 0

end MulticastVNIDGroup

/-- `Multicast_Group`: the VNIDs with senders or receivers in one group. -/
abbrev MulticastGroup := Dict Nat MulticastVNIDGroup

/-- Remove a tunnel of one VNID from a group. -/
def MulticastGroup.tunnelDelete (group : MulticastGroup) (vnid : Nat) (tunnel : TunnelId) :
    MulticastGroup :=
  match group.lookup vnid with
  | none => group
  | some vnidGroup =>
    let vnidGroup := vnidGroup.tunnelDelete tunnel
    if vnidGroup.empty then group.erase vnid else group.insert vnid vnidGroup

/-- `Multicast`: the groups of a domain. After `delete` the program holds `None` in `All`,
modelled as a group without members. -/
structure Multicast where
  globalScope : MulticastGroup
  all : MulticastGroup
  macGroup : Dict Mac MulticastGroup

namespace Multicast

/-- No groups. -/
def create : Multicast := { globalScope := ∅, all := ∅, macGroup := ∅ }

/-- Remove a tunnel of one VNID. The global-scope group is not visited. -/
def tunnelDelete (multicast : Multicast) (vnid : Nat) (tunnel : TunnelId) : Multicast :=
  { multicast with
    all := multicast.all.tunnelDelete vnid tunnel
    macGroup := multicast.macGroup.mapValues fun group => group.tunnelDelete vnid tunnel }

end Multicast

end OpenDove
