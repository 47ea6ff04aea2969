import OpenDove.Packets

/-!
# Building packets

The routines that turn a message into the bytes handed to the network: the setters
of the parts, the routine that computes a packet's length ahead, and one send
routine for each kind of message. The build is the server's, in which the query
number and the transaction type of a message are sent as they are.

A part whose length is known beforehand writes it as a constant; the others write
their head after their content. In the same way some send routines declare the
length computed ahead and others the length of what they wrote. Padding bytes and
the transport type of a location are stepped over.
-/

namespace OpenDove.Dps

open Setter

/-- The length of the packet header. -/
def pktHdrLen : Nat := 20

/-- What a switch list may take before no further record is added. -/
def sendBuffSz : Nat := 4096

def setTlvHdr (ver : UInt8) (type : TlvType) (len : Nat) : Setter :=
  bytes ([ver, type.code] ++ setInt16 (UInt16.ofNat len))

/-- A part whose head is written once its content is. -/
def setTlv (ver : UInt8) (type : TlvType) (content : Setter) : Setter := fun buffer buff =>
  let written := content buffer (buff + 4)
  setTlvHdr ver type written.length buffer buff ++ written

/-- The length field: the bytes after the first four, in 32-bit words. The length
arrives in 16 bits and the subtraction is that of a signed integer. -/
def hdrLen (len : Nat) : UInt16 :=
  UInt16.ofNat ((((len % 65536 : Nat) : Int) - 4).tdiv 4 % 65536).toNat

def setPktHdr (type : MsgType) (hdr : ClientHdr) (len : Nat) : Setter :=
  bytes ([1, type.code] ++ setInt16 (hdrLen len) ++ setInt32 hdr.queryId ++ setInt32 hdr.vnid ++
    setInt16 hdr.subType.toUInt16 ++ setInt16 hdr.respStatus.toUInt16 ++
    [hdr.clientId, hdr.transactionType]) ++ gap 2

def setIp4Tlv (ip4 : UInt32) : Setter := setTlvHdr 4 .ipAddr 4 ++ int32 ip4

def setIp6Tlv (ip6 : Octets 16) : Setter := setTlvHdr 6 .ipAddr 16 ++ octets ip6

def setVmacTlv (mac : Octets 6) : Setter := setTlvHdr 1 .vmac 8 ++ octets mac ++ gap 2

def setIpTlv : IpAddr → Setter
  | .absent ip4 => setIp4Tlv ip4
  | .v4 ip4 => setIp4Tlv ip4
  | .v6 ip6 => setIp6Tlv ip6

def setEuidTlv (vnid : UInt32) (mac : Octets 6) : Setter :=
  setTlvHdr 1 .euid 12 ++ int32 vnid ++ octets mac ++ gap 2

def setSvclocTlv (phyLoc : ServiceLocation) : Setter :=
  match phyLoc.addr with
  | .absent ip4 => setTlvHdr 4 .serviceLoc 8 ++ gap 2 ++ int16 phyLoc.port ++ int32 ip4
  | .v4 ip4 => setTlvHdr 4 .serviceLoc 8 ++ gap 2 ++ int16 phyLoc.port ++ int32 ip4
  | .v6 ip6 => setTlvHdr 6 .serviceLoc 20 ++ gap 2 ++ int16 phyLoc.port ++ octets ip6

/-- The location of a client is sent only if there is one. -/
def setClientAddr (client : ServiceLocation) : Setter :=
  match client.addr with
  | .absent _ => bytes []
  | .v4 _ => setSvclocTlv client
  | .v6 _ => setSvclocTlv client

/-- One tunnel. Nothing is written for one without an address. -/
def setTunnelInfo (tunnel : TunnelEndpoint) : Setter :=
  match tunnel.addr with
  | .absent _ => bytes []
  | .v4 ip4 => int16 4 ++ int16 tunnel.port ++ int16 tunnel.tunnelType ++ int16 tunnel.flags ++
      int32 tunnel.vnid ++ int32 ip4
  | .v6 ip6 => int16 6 ++ int16 tunnel.port ++ int16 tunnel.tunnelType ++ int16 tunnel.flags ++
      int32 tunnel.vnid ++ octets ip6

def setTunnelListTlv (tunnels : List TunnelEndpoint) : Setter :=
  if tunnels = [] then bytes [] else setTlv 1 .tunnelList (each setTunnelInfo tunnels)

def setIpv4ListTlv (addresses : List UInt32) : Setter :=
  setTlvHdr 1 .ipv4AddrList (addresses.length * 4) ++ each int32 addresses

def setIpv6ListTlv (addresses : List (Octets 16)) : Setter :=
  setTlvHdr 1 .ipv6AddrList (addresses.length * 16) ++ each octets addresses

variable (cells : Cells) (first : Nat)

/-- Words from a cell on, as the IPv4 addresses they are. -/
def cellWords (count : Nat) : List UInt32 :=
  (List.range count).map fun index => cells (first + index)

/-- Four words from a cell on, as the raw bytes of an IPv6 address. -/
def cellOctets : Octets 16 := fun index =>
  (hostBytes (cells (first + index / 4))).getD (index % 4) 0

/-- Groups of four words from a cell on, as the IPv6 addresses they are. -/
def cellAddresses (count : Nat) : List (Octets 16) :=
  (List.range count).map fun index => cellOctets cells (first + 4 * index)

/-- A packed list: the IPv4 addresses, then the IPv6 addresses behind them, each as a
part of its own and only if there are any. -/
def setPackedLists (numV4 numV6 : Nat) : Setter :=
  (if numV4 = 0 then bytes [] else setIpv4ListTlv (cellWords cells 0 numV4)) ++
    (if numV6 = 0 then bytes [] else setIpv6ListTlv (cellAddresses cells numV4 numV6))

def setIp4Info (info : Ip4Info) : Setter := int32 info.ip ++ int16 info.flags ++ int16 info.reserved

def setIp6Info (info : Ip6Info) : Setter := octets info.ip ++ int16 info.flags ++ int16 info.reserved

def setIp4InfoTlv (infos : List Ip4Info) : Setter :=
  setTlvHdr 1 .ip4InfoList (infos.length * 8) ++ each setIp4Info infos

def setIp6InfoTlv (infos : List Ip6Info) : Setter :=
  setTlvHdr 1 .ip6InfoList (infos.length * 20) ++ each setIp6Info infos

def setEndpointInfoTlv (info : EndpointInfo) : Setter :=
  match info.vmIpAddr with
  | .absent ip4 =>
    setTlvHdr 1 .endpointInfo 20 ++ int32 info.vnid ++ octets info.mac ++ gap 2 ++ setIp4Tlv ip4
  | .v4 ip4 =>
    setTlvHdr 1 .endpointInfo 20 ++ int32 info.vnid ++ octets info.mac ++ gap 2 ++ setIp4Tlv ip4
  | .v6 ip6 =>
    setTlvHdr 1 .endpointInfo 32 ++ int32 info.vnid ++ octets info.mac ++ gap 2 ++ setIp6Tlv ip6

def setPolicyIdTlv (policyId version ttl : UInt32) : Setter :=
  setTlvHdr 1 .policyId 12 ++ int32 policyId ++ int32 version ++ int32 ttl

def setRule (rule : SrcDstVnid) : Setter := int32 rule.svnid ++ int32 rule.dvnid

/-- The rules from an index of the array on. -/
def rulesFrom (policy : VnidPolicy) (first count : Nat) : List SrcDstVnid :=
  (List.range count).map fun index => policy.srcDstVnid (first + index)

/-- Rules of one kind: the kind, their number and the rules, if there are any. -/
def setRuleGroup (action : UInt16) (rules : List SrcDstVnid) : Setter :=
  if rules = [] then bytes []
  else int16 action ++ int16 (UInt16.ofNat rules.length) ++ each setRule rules

/-- The content of a policy. Only a connectivity policy has its rules written; of a
source routing policy neither the number of hops nor the hops are. -/
def setPolicyTypeTlv (policy : Policy) : Setter :=
  setTlv 1 .policyType
    (if policy.policyType = policyTypeConnectivity then
      bytes [policy.version, policy.policyType] ++
        int16 (policy.vnidPolicy.numPermitRules + policy.vnidPolicy.numDenyRules) ++
        setRuleGroup 1 (rulesFrom policy.vnidPolicy 0 policy.vnidPolicy.numPermitRules.toNat) ++
        setRuleGroup 0 (rulesFrom policy.vnidPolicy policy.vnidPolicy.numPermitRules.toNat
          policy.vnidPolicy.numDenyRules.toNat)
    else bytes [policy.version, policy.policyType] ++ gap 2)

def setPolicyTlv (info : PolicyInfo) : Setter :=
  setTlv 1 .policy
    (setPolicyIdTlv info.policyId info.version info.ttl ++ setPolicyTypeTlv info.dpsPolicy)

def setEndpointLocReplyTlv (reply : EndpointLocReply) : Setter :=
  setTlv 1 .endpointLoc (int32 reply.version ++ setEuidTlv reply.vnid reply.mac ++
    setIpTlv reply.vmIpAddr ++ setTunnelListTlv reply.tunnelInfo)

def setPolicyReplyTlv (reply : PolicyReply) (hdr : ClientHdr) : Setter :=
  setEndpointLocReplyTlv reply.dstEndpointLocReply ++
    (if hdr.respStatus = 0 then setPolicyTlv reply.dpsPolicyInfo else bytes [])

def setEndpointUpdateTlv (update : EndpointUpdate) : Setter :=
  setTlv 1 .endpointLoc (int32 update.version ++ setEuidTlv update.vnid update.mac ++
    setIpTlv update.vmIpAddr ++ setTunnelListTlv update.tunnelInfo)

/-- The IPv4 addresses of a list, in order. -/
def ip4Addresses (addresses : List IpAddr) : List UInt32 :=
  addresses.filterMap fun addr => match addr with
    | .v4 ip4 => some ip4
    | _ => none

/-- The IPv6 addresses of a list, in order. -/
def ip6Addresses (addresses : List IpAddr) : List (Octets 16) :=
  addresses.filterMap fun addr => match addr with
    | .v6 ip6 => some ip6
    | _ => none

def setEndpointUpdateReplyTlv (reply : EndpointUpdateReply) : Setter :=
  setTlv 1 .endpointUpdateReply (int32 reply.version ++ setEuidTlv reply.vnid reply.mac ++
    (if ip4Addresses reply.vmIpAddr = [] then bytes []
      else setIpv4ListTlv (ip4Addresses reply.vmIpAddr)) ++
    (if ip6Addresses reply.vmIpAddr = [] then bytes []
      else setIpv6ListTlv (ip6Addresses reply.vmIpAddr)) ++
    setTunnelListTlv reply.tunnelInfo)

def setBulkPolicyXfer (policy : VnidPolicy) : Setter :=
  int16 policy.numPermitRules ++ int16 policy.numDenyRules ++
    each setRule (rulesFrom policy 0 policy.numPermitRules.toNat) ++
    each setRule (rulesFrom policy policy.numPermitRules.toNat policy.numDenyRules.toNat)

def setMcastAddrTlv (addr : McastAddr) : Setter :=
  match addr.group with
  | .mac ip4 => setTlv 1 .mcastAddrMac (setVmacTlv addr.mcastMac ++ setIp4Tlv ip4)
  | .v4 ip4 => setTlv 1 .mcastAddrV4 (setVmacTlv addr.mcastMac ++ setIp4Tlv ip4)
  | .v6 ip6 => setTlv 1 .mcastAddrV6 (setVmacTlv addr.mcastMac ++ setIp6Tlv ip6)
  | .v4IcbRange ip4 =>
    setTlv 1 .mcastAddrV4IcbRange (setVmacTlv addr.mcastMac ++ setIp4Tlv ip4)

def setMcastGrpRecTlv (groupRec : McastGroupRecord) : Setter :=
  setTlv 1 .mcastGrpRec (setMcastAddrTlv groupRec.mcastAddr ++
    (if groupRec.numOfSrcs = 0 then bytes []
      else match groupRec.family with
        | .absent => bytes []
        | .inet => setIpv4ListTlv (cellWords groupRec.srcAddr 0 groupRec.numOfSrcs.toNat)
        | .inet6 => setIpv6ListTlv (cellAddresses groupRec.srcAddr 0 groupRec.numOfSrcs.toNat)))

def setVnidTunnelListTlv (list : PkdTunnelList) : Setter :=
  setTlv 1 .vnidTunnelList (int32 list.vnid ++
    setPackedLists list.tunnelList list.numV4Tunnels.toNat list.numV6Tunnels.toNat)

def setEpriTlv (epri : Epri) : Setter :=
  setTlv 1 .epri (setEuidTlv epri.vnid epri.mac ++ setIp4InfoTlv epri.vmIp4Addr ++
    setIp6InfoTlv epri.vmIp6Addr ++ setTunnelListTlv epri.tunnelInfo)

/-- The records of a switch list. Once more has been written than fits the buffer the
list was meant for, the rest of them are left out. -/
def setRecords (cells : Cells) : Nat → Nat → Setter
  | 0, _ => bytes []
  | count + 1, first => fun buffer buff =>
    if sendBuffSz < buff then []
    else (setVnidTunnelListTlv (recordAt cells first) ++
      setRecords cells count (recordEnd cells first)) buffer buff

section Lengths

/-- The length of a part for an address, which is written even if there is none. -/
def ipAddrTlvLen : IpAddr → Nat
  | .absent _ => 8
  | .v4 _ => 8
  | .v6 _ => 20

/-- The length of a part for the location of a client, if there is one. -/
def calcClientAddrLen (client : ServiceLocation) : Nat :=
  match client.addr with
  | .absent _ => 0
  | .v4 _ => 12
  | .v6 _ => 24

/-- The length of a part for an address that is left out if there is none. -/
def calcVmIpAddrLen : IpAddr → Nat
  | .absent _ => 0
  | .v4 _ => 8
  | .v6 _ => 20

def calcVipTlvLen (addresses : List IpAddr) : Nat :=
  (if ip4Addresses addresses = [] then 0 else 4 + (ip4Addresses addresses).length * 4) +
    (if ip6Addresses addresses = [] then 0 else 4 + (ip6Addresses addresses).length * 16)

/-- The bytes of one tunnel. -/
def tunnelInfoLen (tunnel : TunnelEndpoint) : Nat :=
  match tunnel.addr with
  | .absent _ => 0
  | .v4 _ => 16
  | .v6 _ => 28

def calcTunnelTlvLen (tunnels : List TunnelEndpoint) : Nat :=
  (if tunnels = [] then 0 else 4) + (tunnels.map tunnelInfoLen).sum

def calcEndpointLocReplyTlvLen (reply : EndpointLocReply) : Nat :=
  4 + 16 + 4 + ipAddrTlvLen reply.vmIpAddr + calcTunnelTlvLen reply.tunnelInfo

def calcEndpointInfoTlvLen (info : EndpointInfo) : Nat := 4 + 4 + 6 + 2 + ipAddrTlvLen info.vmIpAddr

def calcMcastAddrLen (addr : McastAddr) : Nat :=
  4 + 12 + match addr.group with
    | .v6 _ => 20
    | _ => 8

/-- The length of the part for the sources of a group record, if there are any. -/
def calcSourcesLen (groupRec : McastGroupRecord) : Nat :=
  if groupRec.numOfSrcs = 0 then 0
  else match groupRec.family with
    | .absent => 0
    | .inet => 4 + groupRec.numOfSrcs.toNat * 4
    | .inet6 => 4 + groupRec.numOfSrcs.toNat * 16

def calcPackedListsLen (numV4 numV6 : Nat) : Nat :=
  (if numV4 = 0 then 0 else 4 + numV4 * 4) + (if numV6 = 0 then 0 else 4 + numV6 * 16)

/-- What the type of a policy adds to the length of a policy reply. -/
def calcPolicyLen (policy : Policy) : Nat :=
  if policy.policyType = policyTypeConnectivity then
    4 + (policy.vnidPolicy.numPermitRules.toNat + policy.vnidPolicy.numDenyRules.toNat) * 8 +
      (if policy.vnidPolicy.numPermitRules = 0 then 0 else 4) +
      (if policy.vnidPolicy.numDenyRules = 0 then 0 else 4)
  else if policy.policyType = policyTypeSourceRouting then
    4 + (if policy.version = 2 then 4 * policy.sourceRouting.addressCount.toNat
      else 16 * policy.sourceRouting.addressCount.toNat)
  else 0

/-- The length of a packet, computed from the message alone. Lists of gateways and
tunnel registrations are given the room they need at most. -/
def calcPktLen (message : Message) : Nat :=
  pktHdrLen + match message.body with
    | .endpointLocReq data | .addrResolve data =>
      16 + calcVmIpAddrLen data.vmIpAddr + calcClientAddrLen data.dpsClientAddr
    | .endpointLocReply _ data => calcEndpointLocReplyTlvLen data
    | .policyReq data =>
      calcEndpointInfoTlvLen data.dstEndpoint + calcEndpointInfoTlvLen data.srcEndpoint +
        calcClientAddrLen data.dpsClientAddr
    | .policyReply data =>
      calcEndpointLocReplyTlvLen data.dstEndpointLocReply +
        if message.hdr.respStatus = 0 then
          4 + 16 + 4 + calcPolicyLen data.dpsPolicyInfo.dpsPolicy
        else 0
    | .endpointUpdate data =>
      4 + 16 + 4 + ipAddrTlvLen data.vmIpAddr + calcTunnelTlvLen data.tunnelInfo +
        calcClientAddrLen data.dpsClientAddr
    | .endpointUpdateReply data =>
      4 + 16 + 4 + calcVipTlvLen data.vmIpAddr + calcTunnelTlvLen data.tunnelInfo
    | .internalGwReply _ data => calcPackedListsLen data.numV4Gw.toNat data.numV6Gw.toNat
    | .genMsgReq _ client => calcClientAddrLen client
    | .bcastListReply _ data =>
      calcPackedListsLen data.numV4Tunnels.toNat data.numV6Tunnels.toNat
    | .vnidPolicyList _ data => 4 + (data.numPermitRules.toNat + data.numDenyRules.toNat) * 8
    | .vmMigrationEvent data =>
      calcEndpointLocReplyTlvLen data.srcVmLoc + calcEndpointInfoTlvLen data.migratedVmInfo
    | .mcastSender _ data =>
      ipAddrTlvLen data.tunnelEndpoint + calcEndpointInfoTlvLen data.mcastSrcVm +
        calcMcastAddrLen data.mcastAddr + calcClientAddrLen data.dpsClientAddr
    | .mcastReceiver _ data =>
      ipAddrTlvLen data.tunnelEndpoint + (4 + calcMcastAddrLen data.mcastGroupRec.mcastAddr) +
        calcSourcesLen data.mcastGroupRec + calcClientAddrLen data.dpsClientAddr
    | .gwList _ tunnels => if tunnels = [] then 0 else 4 + tunnels.length * 28
    | .tunnelRegDereg _ data =>
      (if data.tunnelInfo = [] then 0 else 4 + data.tunnelInfo.length * 28) + 24
    | .policyInvalidate | .addrReply | .mcastReceiverDsList _ | .generalAck _ | .getDcsNode
    | .vmLocInfo _ => 0

end Lengths

/-- A packet that declares the length of what was written. -/
def packet (type : MsgType) (hdr : ClientHdr) (content : Setter) : Setter := fun buffer buff =>
  let written := content buffer (buff + pktHdrLen)
  setPktHdr type hdr (pktHdrLen + written.length) buffer buff ++ written

/-- Content that is written again until the packet is as long as computed ahead. -/
def fillTo (len : Nat) (content : Setter) : Nat → Setter
  | 0 => bytes []
  | count + 1 => fun buffer buff =>
    if buff < len then (content ++ fillTo len content count) buffer buff else []

/-- The length a send routine works with: that computed ahead, except that a reply
with an error status is given a header only. -/
def replyLen (message : Message) : Nat :=
  if message.hdr.respStatus = 0 then calcPktLen message else pktHdrLen

/-- What the request for an endpoint's location writes after the header. -/
def setEndpointLocReqTlvs (data : EndpointLocReq) : Setter :=
  setEuidTlv data.vnid data.mac ++
    (match data.vmIpAddr with
      | .absent _ => bytes []
      | .v4 ip4 => setIp4Tlv ip4
      | .v6 ip6 => setIp6Tlv ip6) ++
    setClientAddr data.dpsClientAddr

/-- What the send routine of a message writes, from the table of send routines. There is none
for the types whose routine is not implemented or sends nothing. -/
def send (message : Message) : Option Setter :=
  let hdr := message.hdr
  let type := message.body.type
  let len := calcPktLen message
  match message.body with
  | .endpointLocReq data => some (setPktHdr type hdr len ++ setEndpointLocReqTlvs data)
  | .addrResolve data => some (setPktHdr type hdr len ++ setEndpointLocReqTlvs data)
  | .endpointLocReply _ data =>
    some (setPktHdr type hdr (replyLen message) ++
      if replyLen message = pktHdrLen then bytes [] else setEndpointLocReplyTlv data)
  | .policyReq data =>
    some (setPktHdr type hdr len ++ setEndpointInfoTlv data.dstEndpoint ++
      setEndpointInfoTlv data.srcEndpoint ++ setClientAddr data.dpsClientAddr)
  | .policyReply data => some (setPktHdr type hdr len ++ setPolicyReplyTlv data hdr)
  | .policyInvalidate => none
  | .endpointUpdate data =>
    if len = pktHdrLen then none
    else some (packet type hdr (setEndpointUpdateTlv data ++ setClientAddr data.dpsClientAddr))
  | .endpointUpdateReply data =>
    some (setPktHdr type hdr len ++
      if len = pktHdrLen then bytes [] else setEndpointUpdateReplyTlv data)
  | .addrReply => none
  | .genMsgReq _ client => some (setPktHdr type hdr len ++ setClientAddr client)
  | .internalGwReply _ data =>
    some (setPktHdr type hdr (replyLen message) ++
      if replyLen message = pktHdrLen then bytes []
      else setPackedLists data.gwList data.numV4Gw.toNat data.numV6Gw.toNat)
  | .vnidPolicyList _ data => some (setPktHdr type hdr len ++ setBulkPolicyXfer data)
  | .bcastListReply _ data =>
    some (setPktHdr type hdr (replyLen message) ++
      if replyLen message = pktHdrLen then bytes []
      else setPackedLists data.tunnelList data.numV4Tunnels.toNat data.numV6Tunnels.toNat)
  | .vmMigrationEvent data =>
    some (setPktHdr type hdr len ++ setEndpointInfoTlv data.migratedVmInfo ++
      setEndpointLocReplyTlv data.srcVmLoc)
  | .mcastSender _ data =>
    some (setPktHdr type hdr len ++
      fillTo len (setIpTlv data.tunnelEndpoint ++ setEndpointInfoTlv data.mcastSrcVm ++
        setMcastAddrTlv data.mcastAddr ++ setClientAddr data.dpsClientAddr) len)
  | .mcastReceiver _ data =>
    some (setPktHdr type hdr len ++
      fillTo len (setIpTlv data.tunnelEndpoint ++ setMcastGrpRecTlv data.mcastGroupRec ++
        setClientAddr data.dpsClientAddr) len)
  | .mcastReceiverDsList data =>
    some (packet type hdr (setMcastAddrTlv data.mcastAddr ++
      setRecords data.mcastRecvrList data.numOfRec.toNat 0))
  | .generalAck _ => some (setPktHdr type hdr pktHdrLen)
  | .gwList _ tunnels =>
    some (packet type hdr
      (if replyLen message = pktHdrLen then bytes [] else setTunnelListTlv tunnels))
  | .tunnelRegDereg _ data =>
    some (packet type hdr
      (if replyLen message = pktHdrLen then bytes []
        else setTunnelListTlv data.tunnelInfo ++ setClientAddr data.dpsClientAddr))
  | .getDcsNode => none
  | .vmLocInfo data => some (packet type hdr (setEpriTlv data))

/-- The packet as the send routine leaves it. There is none if it does not fit the buffer, which
has the same size whatever length was computed. -/
def sentPacket (message : Message) (buffer : Memory) : Option (List UInt8) :=
  ((send message).map (· buffer 0)).filter fun packet => packet.length ≤ maxBuffSz

/-- The send routines are compiled for the server and for a client, which generates a query
number where there is none. -/
inductive Build where
  | server
  | client (generated : UInt32)

/-- `DPS_TRANSACTION_NORMAL`. -/
def transactionNormal : UInt8 := 1

/-- The header as `setPktHdr` is given it: a client overwrites two of its fields before they are
written. -/
def Build.stamp (build : Build) (hdr : ClientHdr) : ClientHdr :=
  match build with
  | .server => hdr
  | .client generated =>
    { hdr with
      queryId := if hdr.queryId = 0 then generated else hdr.queryId
      transactionType := transactionNormal }

/-- The message with the header it is sent with. -/
def Message.stamped (message : Message) (build : Build) : Message :=
  { message with hdr := build.stamp message.hdr }

/-- The length computed ahead, where a send routine computes one. -/
def computedLen (message : Message) : Option Nat :=
  match message.body with
  | .endpointLocReq _ | .addrResolve _ | .policyReq _ | .policyReply _ | .endpointUpdate _
  | .endpointUpdateReply _ | .genMsgReq _ _ | .vnidPolicyList _ _ | .vmMigrationEvent _
  | .mcastSender _ _ | .mcastReceiver _ _ => some (calcPktLen message)
  | .endpointLocReply _ _ | .internalGwReply _ _ | .bcastListReply _ _ | .gwList _ _
  | .tunnelRegDereg _ _ => some (replyLen message)
  | .mcastReceiverDsList _ | .generalAck _ | .vmLocInfo _ | .policyInvalidate | .addrReply
  | .getDcsNode => none

end OpenDove.Dps
