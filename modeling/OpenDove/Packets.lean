import OpenDove.ByteStreams

/-!
# Messages of the client-server protocol

The data a client and a server exchange, as the protocol's header files lay it out.
A message is a header and a body; the body determines the message type, which the
packet header carries as a number. Counted arrays whose elements share storage with
other fields, or are packed one after another, are kept as the words a little-endian
host stores; a list of tunnels is kept as a list, its count being the length.

A field left at its default is the zero a freshly allocated buffer holds. The port
and transport type of an address are kept only for the location of a client, which
is the one address they are sent for.
-/

namespace OpenDove.Dps

/-- The size of every buffer, whatever length is asked for: the one a packet is written to and
the one a received message is put together in. -/
def maxBuffSz : Nat := 32768

/-- An address with its family. The family may also be 0, which stands for no
address; the four bytes of an IPv4 address are still there. -/
inductive IpAddr where
  | absent (ip4 : UInt32)
  | v4 (ip4 : UInt32)
  | v6 (ip6 : Octets 16)
  deriving DecidableEq

/-- An address of family IPv4 or IPv6. -/
def IpAddr.Present : IpAddr → Prop
  | .absent _ => False
  | .v4 _ => True
  | .v6 _ => True

instance : DecidablePred IpAddr.Present
  | .absent _ => .isFalse id
  | .v4 _ => .isTrue trivial
  | .v6 _ => .isTrue trivial

/-- Where a client is reached. -/
structure ServiceLocation where
  addr : IpAddr := .absent 0
  port : UInt16 := 0
  xportType : UInt16 := 0
  deriving DecidableEq

/-- One end of a tunnel. -/
structure TunnelEndpoint where
  addr : IpAddr
  port : UInt16
  vnid : UInt32
  tunnelType : UInt16
  flags : UInt16
  deriving DecidableEq

structure EndpointInfo where
  vnid : UInt32 := 0
  mac : Octets 6 := fun _ => 0
  vmIpAddr : IpAddr := .absent 0
  deriving DecidableEq

structure EndpointLocReq where
  vnid : UInt32 := 0
  mac : Octets 6 := fun _ => 0
  vmIpAddr : IpAddr := .absent 0
  dpsClientAddr : ServiceLocation

structure EndpointLocReply where
  vnid : UInt32 := 0
  mac : Octets 6 := fun _ => 0
  vmIpAddr : IpAddr := .absent 0
  version : UInt32 := 0
  tunnelInfo : List TunnelEndpoint := []
  deriving DecidableEq

structure EndpointUpdate where
  vnid : UInt32 := 0
  mac : Octets 6 := fun _ => 0
  version : UInt32 := 0
  vmIpAddr : IpAddr := .absent 0
  dpsClientAddr : ServiceLocation
  tunnelInfo : List TunnelEndpoint := []

structure EndpointUpdateReply where
  vnid : UInt32 := 0
  mac : Octets 6 := fun _ => 0
  version : UInt32 := 0
  vmIpAddr : List IpAddr := []
  tunnelInfo : List TunnelEndpoint := []

structure PolicyReq where
  dstEndpoint : EndpointInfo := {}
  srcEndpoint : EndpointInfo := {}
  dpsClientAddr : ServiceLocation

/-- A rule: traffic from one virtual network to another. -/
structure SrcDstVnid where
  svnid : UInt32 := 0
  dvnid : UInt32 := 0
  deriving DecidableEq

/-- Rules of both kinds in one array, the permit rules first. -/
structure VnidPolicy where
  numPermitRules : UInt16 := 0
  numDenyRules : UInt16 := 0
  srcDstVnid : Nat → SrcDstVnid

/-- The addresses a packet is to be routed through. -/
structure SourceRouting where
  addressCount : UInt16 := 0
  ipList : Nat → UInt8

def policyTypeConnectivity : UInt8 := 1

def policyTypeSourceRouting : UInt8 := 2

/-- A policy. The type says which of the two contents it has. -/
structure Policy where
  version : UInt8 := 0
  policyType : UInt8 := 0
  vnidPolicy : VnidPolicy
  sourceRouting : SourceRouting

structure PolicyInfo where
  policyId : UInt32 := 0
  version : UInt32 := 0
  ttl : UInt32 := 0
  dpsPolicy : Policy

/-- In the source's structure only the first rule has a place of its own: the others lie where
the location does. Here they are apart, which is enough for what is counted and written of each. -/
structure PolicyReply where
  dpsPolicyInfo : PolicyInfo
  dstEndpointLocReply : EndpointLocReply := {}

/-- 32-bit words of a buffer. -/
abbrev Cells := Nat → UInt32

/-- Internal gateways: the IPv4 addresses, a word each, then the IPv6 addresses,
four words each. -/
structure InternalGw where
  numV4Gw : UInt16 := 0
  numV6Gw : UInt16 := 0
  gwList : Cells

/-- Switches of a virtual network, packed as internal gateways are. -/
structure PkdTunnelList where
  vnid : UInt32 := 0
  numV4Tunnels : UInt16 := 0
  numV6Tunnels : UInt16 := 0
  tunnelList : Cells

structure VmMigrationEvent where
  migratedVmInfo : EndpointInfo := {}
  srcVmLoc : EndpointLocReply := {}
  deriving DecidableEq

structure TunnelRegDereg where
  dpsClientAddr : ServiceLocation
  tunnelInfo : List TunnelEndpoint := []

/-- A multicast group by the kind of address it is known by. Only a group of an
IPv6 address has one of sixteen bytes. -/
inductive McastGroup where
  | mac (ip4 : UInt32)
  | v4 (ip4 : UInt32)
  | v6 (ip6 : Octets 16)
  | v4IcbRange (ip4 : UInt32)
  deriving DecidableEq

structure McastAddr where
  mcastMac : Octets 6 := fun _ => 0
  group : McastGroup := .mac 0
  deriving DecidableEq

/-- The family of a list of addresses. -/
inductive Family where
  | absent
  | inet
  | inet6
  deriving DecidableEq

/-- A group and the sources traffic is wanted from, all of one family. -/
structure McastGroupRecord where
  mcastAddr : McastAddr := {}
  numOfSrcs : UInt16 := 0
  family : Family := .absent
  srcAddr : Cells

structure McastSender where
  tunnelEndpoint : IpAddr := .absent 0
  mcastSrcVm : EndpointInfo := {}
  mcastAddr : McastAddr := {}
  dpsClientAddr : ServiceLocation
  deriving DecidableEq

structure McastReceiver where
  tunnelEndpoint : IpAddr := .absent 0
  dpsClientAddr : ServiceLocation
  mcastGroupRec : McastGroupRecord

/-- A group and its receivers: one record for each virtual network, packed one after
another. A record is a word for the network, a word with the number of IPv4
tunnels below the number of IPv6 tunnels, and then the addresses. -/
structure McastReceiverDsList where
  mcastAddr : McastAddr := {}
  numOfRec : UInt32 := 0
  mcastRecvrList : Cells

/-- The packed record that starts at a cell. -/
def recordAt (cells : Cells) (first : Nat) : PkdTunnelList where
  vnid := cells first
  numV4Tunnels := UInt16.ofNat (cells (first + 1)).toNat
  numV6Tunnels := UInt16.ofNat ((cells (first + 1)).toNat / 65536)
  tunnelList := fun index => cells (first + 2 + index)

/-- The cell behind a record that starts at a cell. -/
def recordEnd (cells : Cells) (first : Nat) : Nat :=
  first + 2 + (recordAt cells first).numV4Tunnels.toNat +
    4 * (recordAt cells first).numV6Tunnels.toNat

structure Ip4Info where
  ip : UInt32
  flags : UInt16
  reserved : UInt16
  deriving DecidableEq

structure Ip6Info where
  ip : Octets 16
  flags : UInt16
  reserved : UInt16
  deriving DecidableEq

/-- The most virtual addresses of an endpoint there is room for. -/
def maxVipAddr : Nat := 16

/-- What is known about how an endpoint is reached. There is room for `maxVipAddr` addresses of
each family; what more of them write over the fields behind is left out here. -/
structure Epri where
  vnid : UInt32 := 0
  mac : Octets 6 := fun _ => 0
  vmIp4Addr : List Ip4Info := []
  vmIp6Addr : List Ip6Info := []
  tunnelInfo : List TunnelEndpoint := []
  deriving DecidableEq

/-- The requests that carry nothing but the client's location. -/
inductive GenMsg where
  | internalGwReq
  | bcastListReq
  | externalGwListReq
  | vlanGwListReq
  | vnidPolicyListReq
  | mcastCtrlGwReq
  | unsolicitedVnidDelReq
  | ctrlPlaneHb
  deriving DecidableEq

/-- The messages that carry a list of gateways. -/
inductive GwList where
  | unsolicitedExternal
  | unsolicitedVlan
  | externalReply
  | vlanReply
  | mcastCtrlReply
  deriving DecidableEq

/-- The message types, in the order of their codes. -/
inductive MsgType where
  | endpointLocReq
  | endpointLocReply
  | policyReq
  | policyReply
  | policyInvalidate
  | endpointUpdate
  | endpointUpdateReply
  | addrResolve
  | addrReply
  | internalGwReq
  | internalGwReply
  | unsolicitedVnidPolicyList
  | bcastListReq
  | bcastListReply
  | vmMigrationEvent
  | mcastSenderRegistration
  | mcastSenderDeregistration
  | mcastReceiverJoin
  | mcastReceiverLeave
  | mcastReceiverDsList
  | unsolicitedBcastListReply
  | unsolicitedInternalGwReply
  | generalAck
  | unsolicitedExternalGwList
  | unsolicitedVlanGwList
  | tunnelRegister
  | tunnelDeregister
  | regDeregisterAck
  | externalGwListReq
  | externalGwListReply
  | vlanGwListReq
  | vlanGwListReply
  | unsolicitedEndpointLocReply
  | vnidPolicyListReq
  | vnidPolicyListReply
  | mcastCtrlGwReq
  | mcastCtrlGwReply
  | unsolicitedVnidDelReq
  | ctrlPlaneHb
  | getDcsNode
  | unsolicitedVmLocInfo
  deriving DecidableEq

/-- The content of a message. A flag tells apart two types that carry the same data. -/
inductive Body where
  | endpointLocReq (data : EndpointLocReq)
  | endpointLocReply (unsolicited : Bool) (data : EndpointLocReply)
  | policyReq (data : PolicyReq)
  | policyReply (data : PolicyReply)
  | policyInvalidate
  | endpointUpdate (data : EndpointUpdate)
  | endpointUpdateReply (data : EndpointUpdateReply)
  | addrResolve (data : EndpointLocReq)
  | addrReply
  | genMsgReq (kind : GenMsg) (dpsClientAddr : ServiceLocation)
  | internalGwReply (unsolicited : Bool) (data : InternalGw)
  | vnidPolicyList (unsolicited : Bool) (data : VnidPolicy)
  | bcastListReply (unsolicited : Bool) (data : PkdTunnelList)
  | vmMigrationEvent (data : VmMigrationEvent)
  | mcastSender (deregistration : Bool) (data : McastSender)
  | mcastReceiver (leave : Bool) (data : McastReceiver)
  | mcastReceiverDsList (data : McastReceiverDsList)
  | generalAck (registration : Bool)
  | gwList (kind : GwList) (tunnelInfo : List TunnelEndpoint)
  | tunnelRegDereg (deregister : Bool) (data : TunnelRegDereg)
  | getDcsNode
  | vmLocInfo (data : Epri)

def GenMsg.type : GenMsg → MsgType
  | .internalGwReq => .internalGwReq
  | .bcastListReq => .bcastListReq
  | .externalGwListReq => .externalGwListReq
  | .vlanGwListReq => .vlanGwListReq
  | .vnidPolicyListReq => .vnidPolicyListReq
  | .mcastCtrlGwReq => .mcastCtrlGwReq
  | .unsolicitedVnidDelReq => .unsolicitedVnidDelReq
  | .ctrlPlaneHb => .ctrlPlaneHb

def GwList.type : GwList → MsgType
  | .unsolicitedExternal => .unsolicitedExternalGwList
  | .unsolicitedVlan => .unsolicitedVlanGwList
  | .externalReply => .externalGwListReply
  | .vlanReply => .vlanGwListReply
  | .mcastCtrlReply => .mcastCtrlGwReply

def Body.type : Body → MsgType
  | .endpointLocReq _ => .endpointLocReq
  | .endpointLocReply unsolicited _ =>
    if unsolicited then .unsolicitedEndpointLocReply else .endpointLocReply
  | .policyReq _ => .policyReq
  | .policyReply _ => .policyReply
  | .policyInvalidate => .policyInvalidate
  | .endpointUpdate _ => .endpointUpdate
  | .endpointUpdateReply _ => .endpointUpdateReply
  | .addrResolve _ => .addrResolve
  | .addrReply => .addrReply
  | .genMsgReq kind _ => kind.type
  | .internalGwReply unsolicited _ =>
    if unsolicited then .unsolicitedInternalGwReply else .internalGwReply
  | .vnidPolicyList unsolicited _ =>
    if unsolicited then .unsolicitedVnidPolicyList else .vnidPolicyListReply
  | .bcastListReply unsolicited _ =>
    if unsolicited then .unsolicitedBcastListReply else .bcastListReply
  | .vmMigrationEvent _ => .vmMigrationEvent
  | .mcastSender deregistration _ =>
    if deregistration then .mcastSenderDeregistration else .mcastSenderRegistration
  | .mcastReceiver leave _ => if leave then .mcastReceiverLeave else .mcastReceiverJoin
  | .mcastReceiverDsList _ => .mcastReceiverDsList
  | .generalAck registration => if registration then .regDeregisterAck else .generalAck
  | .gwList kind _ => kind.type
  | .tunnelRegDereg deregister _ => if deregister then .tunnelDeregister else .tunnelRegister
  | .getDcsNode => .getDcsNode
  | .vmLocInfo _ => .unsolicitedVmLocInfo

/-- The header fields a client fills in. The type is that of the body, and the
address a reply goes to is not sent. -/
structure ClientHdr where
  subType : UInt8
  clientId : UInt8
  transactionType : UInt8
  vnid : UInt32
  respStatus : UInt32
  queryId : UInt32
  deriving DecidableEq

structure Message where
  hdr : ClientHdr
  body : Body

/-- The message types from code 1 on. -/
def MsgType.all : List MsgType :=
  [.endpointLocReq, .endpointLocReply, .policyReq, .policyReply, .policyInvalidate,
    .endpointUpdate, .endpointUpdateReply, .addrResolve, .addrReply, .internalGwReq,
    .internalGwReply, .unsolicitedVnidPolicyList, .bcastListReq, .bcastListReply,
    .vmMigrationEvent, .mcastSenderRegistration, .mcastSenderDeregistration,
    .mcastReceiverJoin, .mcastReceiverLeave, .mcastReceiverDsList,
    .unsolicitedBcastListReply, .unsolicitedInternalGwReply, .generalAck,
    .unsolicitedExternalGwList, .unsolicitedVlanGwList, .tunnelRegister, .tunnelDeregister,
    .regDeregisterAck, .externalGwListReq, .externalGwListReply, .vlanGwListReq,
    .vlanGwListReply, .unsolicitedEndpointLocReply, .vnidPolicyListReq, .vnidPolicyListReply,
    .mcastCtrlGwReq, .mcastCtrlGwReply, .unsolicitedVnidDelReq, .ctrlPlaneHb, .getDcsNode,
    .unsolicitedVmLocInfo]

def MsgType.code (type : MsgType) : UInt8 := UInt8.ofNat (MsgType.all.idxOf type + 1)

/-- The type of a code; there is none for 0 and from 42 on. -/
def MsgType.ofCode (code : UInt8) : Option MsgType :=
  if code < 1 then none else MsgType.all[code.toNat - 1]?

theorem MsgType.ofCode_code (type : MsgType) : MsgType.ofCode type.code = some type := by
  cases type <;> rfl

/-- The types of the parts a packet is made of. -/
inductive TlvType where
  | vmac
  | ipAddr
  | euid
  | endpointLoc
  | serviceLoc
  | policy
  | policyId
  | policyType
  | replyServiceLoc
  | endpointInfo
  | ipv4AddrList
  | ipv6AddrList
  | mcastAddrMac
  | mcastAddrV4
  | mcastAddrV4IcbRange
  | mcastAddrV6
  | mcastGrpRec
  | tunnelList
  | vnidTunnelList
  | endpointUpdateReply
  | epri
  | ip4InfoList
  | ip6InfoList
  deriving DecidableEq

def TlvType.code : TlvType → UInt8
  | .vmac => 1
  | .ipAddr => 2
  | .euid => 3
  | .endpointLoc => 5
  | .serviceLoc => 6
  | .policy => 7
  | .policyId => 8
  | .policyType => 9
  | .replyServiceLoc => 10
  | .endpointInfo => 11
  | .ipv4AddrList => 12
  | .ipv6AddrList => 13
  | .mcastAddrMac => 14
  | .mcastAddrV4 => 15
  | .mcastAddrV4IcbRange => 16
  | .mcastAddrV6 => 17
  | .mcastGrpRec => 18
  | .tunnelList => 19
  | .vnidTunnelList => 20
  | .endpointUpdateReply => 21
  | .epri => 22
  | .ip4InfoList => 23
  | .ip6InfoList => 24

/-- The types by code. Code 4 belongs to a type no routine sends or accepts. -/
def TlvType.ofCode (code : UInt8) : Option TlvType :=
  [.vmac, .ipAddr, .euid, .endpointLoc, .serviceLoc, .policy, .policyId, .policyType,
    .replyServiceLoc, .endpointInfo, .ipv4AddrList, .ipv6AddrList, .mcastAddrMac, .mcastAddrV4,
    .mcastAddrV4IcbRange, .mcastAddrV6, .mcastGrpRec, .tunnelList, .vnidTunnelList,
    .endpointUpdateReply, .epri, .ip4InfoList, .ip6InfoList].find? fun type => type.code = code

theorem TlvType.ofCode_code (type : TlvType) : TlvType.ofCode type.code = some type := by
  cases type <;> rfl

/-- The head of a part: a version, a type code and the length of the rest in bytes. -/
structure TlvHdr where
  ver : UInt8
  type : UInt8
  len : UInt16
  deriving DecidableEq

end OpenDove.Dps
