import OpenDove.Scanning
import OpenDove.Packets

/-!
# Taking packets apart

The routines that walk through a received packet: the getters of the parts, one
process routine for each kind of message, and the dispatch on the message type. A
process routine is given a pointer to the packet and trusts the lengths written in
it, so memory here has no end and a loop need not have one either.

The message is put together in a buffer of `maxBuffSz` bytes. Arrays in it are filled
as long as the packet goes on, without a look at their size; a routine that stores past
the end of the buffer has no result. An array is given by its offset in the buffer.

The buffer a message is put together in is cleared only up to the size of the fixed
structure. What the arrays behind it hold beforehand is an argument of the routines
that leave part of an array unwritten or do not set every count.
-/

namespace OpenDove.Dps

open Scanner

/-- The head of the part at a position. -/
def getTlvHdr (memory : Memory) (buff : Nat) : TlvHdr where
  ver := memory buff
  type := memory (buff + 1)
  len := getInt16 memory (buff + 2)

/-- The type of a part, if it is a known one. -/
def TlvHdr.kind (hdr : TlvHdr) : Option TlvType := TlvType.ofCode hdr.type

/-- The header fields, and the number of bytes behind the header. A length field
below four makes the subtraction wrap. -/
def getPktHdr (memory : Memory) (buff : Nat) : ClientHdr × Nat :=
  ({  subType := (getInt16 memory (buff + 12)).toUInt8
      clientId := memory (buff + 16)
      transactionType := memory (buff + 17)
      vnid := getInt32 memory (buff + 8)
      respStatus := (getInt16 memory (buff + 14)).toUInt32
      queryId := getInt32 memory (buff + 4) },
    ((getInt16 memory (buff + 2)).toNat * 4 + 4294967296 - 20 + 4) % 4294967296)

def getVmacTlv : Scanner (Octets 6) := take 12 fun memory buff => getOctets 6 memory (buff + 4)

def getEuidTlv : Scanner (UInt32 × Octets 6) := take 16 fun memory buff =>
  (getInt32 memory (buff + 4), getOctets 6 memory (buff + 8))

def getPolicyIdTlv : Scanner (UInt32 × UInt32 × UInt32) := take 16 fun memory buff =>
  (getInt32 memory (buff + 4), getInt32 memory (buff + 8), getInt32 memory (buff + 12))

def getIp4Tlv : Scanner UInt32 := take 8 fun memory buff => getInt32 memory (buff + 4)

def getIp6Tlv : Scanner (Octets 16) := take 20 fun memory buff => getOctets 16 memory (buff + 4)

def getIpTlv : Scanner IpAddr := do
  let hdr ← look getTlvHdr
  if hdr.ver = 4 then return .v4 (← getIp4Tlv) else return .v6 (← getIp6Tlv)

def getSvclocTlv : Scanner ServiceLocation := do
  let hdr ← look getTlvHdr
  if hdr.ver = 4 then
    take 12 fun memory buff =>
      { addr := .v4 (getInt32 memory (buff + 8))
        port := getInt16 memory (buff + 6)
        xportType := getInt16 memory (buff + 4) }
  else
    take 24 fun memory buff =>
      { addr := .v6 (getOctets 16 memory (buff + 8))
        port := getInt16 memory (buff + 6)
        xportType := getInt16 memory (buff + 4) }

variable (message : Message) (reply : EndpointUpdateReply) (unsolicited : Bool)
  (update : EndpointUpdate) (epri : Epri) (cells : Cells) (sender : ServiceLocation) (first : Nat)
  (rules : Nat → SrcDstVnid) (list : PkdTunnelList) (array : Nat)

/-- Store bytes up to an offset in the client's buffer. -/
def store (stop : Nat) : Scanner Unit := check (stop ≤ maxBuffSz)

/-- Write a word into the cells. -/
def storeWord (index : Nat) (word : UInt32) : Cells :=
  Function.update cells index word

/-- Copy the sixteen bytes at a position into four cells. -/
def storeOctets (index : Nat) (memory : Memory) (buff : Nat) : Cells :=
  fun cell =>
    if index ≤ cell ∧ cell < index + 4 then hostWord memory (buff + 4 * (cell - index))
    else cells cell

/-- The items of a list part go through one loop over the bytes its head declares. -/
def getList {σ : Type} (item : σ → Scanner (Pass σ)) (state : σ) : Scanner (Pass σ) := do
  let hdr ← take 4 getTlvHdr
  let bufptr ← here
  loopUntil (bufptr + hdr.len.toNat) item state

/-- One IPv4 address goes to the next cell. -/
def getIpv4Item (state : Cells × Nat) : Scanner (Pass (Cells × Nat)) := do
  store (array + 4 * state.2 + 4)
  let word ← take 4 getInt32
  return .on (storeWord state.1 state.2 word, state.2 + 1)

def getIpv4ListTlv : Scanner Cells := do
  let ended ← getList (getIpv4Item array) (cells, first)
  return ended.state.1

/-- One IPv6 address goes to the next four cells. -/
def getIpv6Item (state : Cells × Nat) : Scanner (Pass (Cells × Nat)) := do
  store (array + 4 * state.2 + 16)
  let stored ← take 16 (storeOctets state.1 state.2)
  return .on (stored, state.2 + 4)

def getIpv6ListTlv : Scanner Cells := do
  let ended ← getList (getIpv6Item array) (cells, first)
  return ended.state.1

/-- One virtual address is appended, unless there are already more than allowed. -/
def getVipItem (item : Scanner IpAddr) (vips : List IpAddr) : Scanner (Pass (List IpAddr)) := do
  if vips.length ≤ maxVipAddr then return .on (vips ++ [← item]) else return .leave vips

/-- A list of addresses is appended to those already there. Once there are more than
allowed, the rest of the part is skipped. -/
def getListToIpaddr (item : Scanner IpAddr) (vips : List IpAddr) : Scanner (List IpAddr) := do
  let hdr ← look getTlvHdr
  let start ← here
  let ended ← getList (getVipItem item) vips
  match ended with
  | .on vips => return vips
  | .leave vips => do
    seek (start + 4 + hdr.len.toNat)
    return vips

def getIpv4ListToIpaddr : List IpAddr → Scanner (List IpAddr) :=
  getListToIpaddr (take 4 fun memory buff => .v4 (getInt32 memory buff))

/-- The sixteen bytes are copied over the start of the structure, eight bytes before
the address, so that its second half is left where the first should be. -/
def getIpv6ListToIpaddr : List IpAddr → Scanner (List IpAddr) :=
  getListToIpaddr (take 16 fun memory buff =>
    .v6 fun index => if index.val < 8 then memory (buff + 8 + index) else 0)

def getIpv4TunnelInfo : Scanner TunnelEndpoint := take 16 fun memory buff =>
  { addr := .v4 (getInt32 memory (buff + 12))
    port := getInt16 memory (buff + 2)
    vnid := getInt32 memory (buff + 8)
    tunnelType := getInt16 memory (buff + 4)
    flags := getInt16 memory (buff + 6) }

def getIpv6TunnelInfo : Scanner TunnelEndpoint := take 28 fun memory buff =>
  { addr := .v6 (getOctets 16 memory (buff + 12))
    port := getInt16 memory (buff + 2)
    vnid := getInt32 memory (buff + 8)
    tunnelType := getInt16 memory (buff + 4)
    flags := getInt16 memory (buff + 6) }

def getIp4InfoItem (infos : List Ip4Info) : Scanner (Pass (List Ip4Info)) := do
  store (array + 8 * infos.length + 8)
  let info ← take 8 fun memory buff =>
    { ip := getInt32 memory buff
      flags := getInt16 memory (buff + 4)
      reserved := getInt16 memory (buff + 6) }
  return .on (infos ++ [info])

def getIp4InfoListTlv : Scanner (List Ip4Info) := do
  let ended ← getList (getIp4InfoItem array) []
  return ended.state

def getIp6InfoItem (infos : List Ip6Info) : Scanner (Pass (List Ip6Info)) := do
  store (array + 20 * infos.length + 20)
  let info ← take 20 fun memory buff =>
    { ip := getOctets 16 memory buff
      flags := getInt16 memory (buff + 16)
      reserved := getInt16 memory (buff + 18) }
  return .on (infos ++ [info])

def getIp6InfoListTlv : Scanner (List Ip6Info) := do
  let ended ← getList (getIp6InfoItem array) []
  return ended.state

/-- A pass over one tunnel; any other format ends the list. Of a structure of 28 bytes an IPv4
tunnel fills the first sixteen. -/
def getTunnelInfo (tunnels : List TunnelEndpoint) : Scanner (Pass (List TunnelEndpoint)) := do
  let format ← look getInt16
  if format = 4 then do
    store (array + 28 * tunnels.length + 16)
    return .on (tunnels ++ [← getIpv4TunnelInfo])
  else if format = 6 then do
    store (array + 28 * tunnels.length + 28)
    return .on (tunnels ++ [← getIpv6TunnelInfo])
  else return .leave tunnels

def getTunnelListTlv : Scanner (List TunnelEndpoint) := do
  let hdr ← look getTlvHdr
  let start ← here
  let ended ← getList (getTunnelInfo array) []
  match ended with
  | .on tunnels => return tunnels
  | .leave tunnels => do
    seek (start + 4 + hdr.len.toNat)
    return tunnels

/-- The parts inside another part that starts with a version or a network number: the
four bytes are taken off the length, which wraps if it is shorter. -/
def getNested {σ : Type} (body : σ → Scanner (Pass σ)) (state : UInt32 → σ) :
    Scanner (Pass σ) := do
  let hdr ← take 4 getTlvHdr
  let first ← take 4 getInt32
  let buff ← here
  loopUntil (buff + (hdr.len.toNat + 4294967296 - 4) % 4294967296) body (state first)

/-- One pass over a part of a location. A part of another type ends the location. -/
def getEndpointLocReplyPart (array : Nat) (reply : EndpointLocReply) :
    Scanner (Pass EndpointLocReply) := do
  let hdr ← look getTlvHdr
  match hdr.kind with
  | some .euid => do
    let euid ← getEuidTlv
    return .on { reply with vnid := euid.1, mac := euid.2 }
  | some .ipAddr => return .on { reply with vmIpAddr := ← getIpTlv }
  | some .tunnelList => return .on { reply with tunnelInfo := ← getTunnelListTlv array }
  | _ => return .leave reply

def getEndpointLocReplyTlv (array : Nat) (reply : EndpointLocReply) : Scanner EndpointLocReply := do
  let ended ← getNested (getEndpointLocReplyPart array) fun version => { reply with version := version }
  return ended.state

/-- One pass over a part of an update. A part of another type ends the update. -/
def getEndpointUpdatePart : Scanner (Pass EndpointUpdate) := do
  let hdr ← look getTlvHdr
  match hdr.kind with
  | some .euid => do
    let euid ← getEuidTlv
    return .on { update with vnid := euid.1, mac := euid.2 }
  | some .ipAddr => return .on { update with vmIpAddr := ← getIpTlv }
  | some .tunnelList => return .on { update with tunnelInfo := ← getTunnelListTlv 116 }
  | _ => return .leave update

def getEndpointUpdateTlv : Scanner EndpointUpdate := do
  let ended ← getNested getEndpointUpdatePart fun version => { update with version := version }
  return ended.state

/-- One pass over a part of an update reply. A part of another type ends the reply. -/
def getEndpointUpdateReplyPart : Scanner (Pass EndpointUpdateReply) := do
  let hdr ← look getTlvHdr
  match hdr.kind with
  | some .euid => do
    let euid ← getEuidTlv
    return .on { reply with vnid := euid.1, mac := euid.2 }
  | some .ipv4AddrList =>
    return .on { reply with vmIpAddr := ← getIpv4ListToIpaddr reply.vmIpAddr }
  | some .ipv6AddrList =>
    return .on { reply with vmIpAddr := ← getIpv6ListToIpaddr reply.vmIpAddr }
  | some .tunnelList => return .on { reply with tunnelInfo := ← getTunnelListTlv 456 }
  | _ => return .leave reply

def getEndpointUpdateReplyTlv : Scanner EndpointUpdateReply := do
  let ended ← getNested getEndpointUpdateReplyPart fun version => { reply with version := version }
  return ended.state

def getEndpointInfoTlv : Scanner EndpointInfo := do
  let euid ← take 16 fun memory buff =>
    (getInt32 memory (buff + 4), getOctets 6 memory (buff + 8))
  return { vnid := euid.1, mac := euid.2, vmIpAddr := ← getIpTlv }

/-- The kind of group follows from the type of the part, except that an address which
is not IPv4 makes it a group of an IPv6 address. -/
def getMcastAddrTlv : Scanner McastAddr := do
  let hdr ← take 4 getTlvHdr
  let mac ← getVmacTlv
  let inner ← look getTlvHdr
  if inner.ver = 4 then do
    let ip4 ← getIp4Tlv
    let group : McastGroup :=
      if hdr.type = TlvType.mcastAddrMac.code then .mac ip4
      else if hdr.type = TlvType.mcastAddrV4.code then .v4 ip4
      else .v4IcbRange ip4
    return { mcastMac := mac, group := group }
  else return { mcastMac := mac, group := .v6 (← getIp6Tlv) }

/-- One pass over a part of a group record. A part of another type is not stepped
over. -/
def getMcastGrpRecPart (groupRec : McastGroupRecord) : Scanner (Pass McastGroupRecord) := do
  let hdr ← look getTlvHdr
  match hdr.kind with
  | some .mcastAddrMac | some .mcastAddrV4 | some .mcastAddrV6 | some .mcastAddrV4IcbRange =>
    return .on { groupRec with mcastAddr := ← getMcastAddrTlv }
  | some .ipv4AddrList =>
    return .on { groupRec with
      srcAddr := ← getIpv4ListTlv groupRec.srcAddr 0 124
      numOfSrcs := UInt16.ofNat (hdr.len.toNat / 4)
      family := .inet }
  | some .ipv6AddrList =>
    return .on { groupRec with
      srcAddr := ← getIpv6ListTlv groupRec.srcAddr 0 124
      numOfSrcs := UInt16.ofNat (hdr.len.toNat / 16)
      family := .inet6 }
  | _ => return .on groupRec

def getMcastGrpRecTlv (groupRec : McastGroupRecord) : Scanner McastGroupRecord := do
  let ended ← getList getMcastGrpRecPart groupRec
  return ended.state

/-- One pass over a list of a switch record: the addresses go to the start of the
record's cells, whichever their family, and their number before them. A part of another
type is not stepped over. -/
def getVnidTunnelListPart : Scanner (Pass PkdTunnelList) := do
  let hdr ← look getTlvHdr
  match hdr.kind with
  | some .ipv4AddrList => do
    let stored ← getIpv4ListTlv list.tunnelList 0 (array + 8)
    store (array + 8)
    return .on { list with
      tunnelList := stored
      numV4Tunnels := UInt16.ofNat (hdr.len.toNat / 4) }
  | some .ipv6AddrList => do
    let stored ← getIpv6ListTlv list.tunnelList 0 (array + 8)
    store (array + 8)
    return .on { list with
      tunnelList := stored
      numV6Tunnels := UInt16.ofNat (hdr.len.toNat / 16) }
  | _ => return .on list

/-- A switch record at an offset. The loop ends four bytes before the part does, the network number
having been taken off the length but not off the start. -/
def getVnidTunnelListTlv : Scanner PkdTunnelList := do
  let start ← here
  let hdr ← take 4 getTlvHdr
  store (array + 4)
  let vnid ← take 4 getInt32
  let ended ← loopUntil (start + 4 + (hdr.len.toNat + 4294967296 - 4) % 4294967296)
    (getVnidTunnelListPart · array) { list with vnid := vnid }
  return ended.state

/-- A part of another type is stepped over. -/
def skipTlv : Scanner Unit := do
  let hdr ← look getTlvHdr
  take (hdr.len.toNat + 4) fun _ _ => ()

/-- One pass over a part of what is known about an endpoint. -/
def getEpriPart : Scanner (Pass Epri) := do
  let hdr ← look getTlvHdr
  match hdr.kind with
  | some .euid => do
    let euid ← getEuidTlv
    return .on { epri with vnid := euid.1, mac := euid.2 }
  | some .ip4InfoList => return .on { epri with vmIp4Addr := ← getIp4InfoListTlv 64 }
  | some .ip6InfoList => return .on { epri with vmIp6Addr := ← getIp6InfoListTlv 196 }
  | some .tunnelList => return .on { epri with tunnelInfo := ← getTunnelListTlv 520 }
  | _ => do
    skipTlv
    return .on epri

def getEpriTlv : Scanner Epri := do
  let ended ← getList getEpriPart epri
  return ended.state

/-- Read one rule and store it in the array. -/
def getRule (index : Nat) : Scanner (Nat → SrcDstVnid) := do
  store (array + 8 * index + 8)
  take 8 fun memory buff => Function.update rules index
    { svnid := getInt32 memory buff, dvnid := getInt32 memory (buff + 4) }

/-- One pass over a number of rules: the next one is stored where its index says. -/
def getRulesItem (array : Nat) (index : Nat → Nat) (state : (Nat → SrcDstVnid) × Nat) :
    Scanner (Pass ((Nat → SrcDstVnid) × Nat)) := do
  let stored ← getRule state.1 array (index state.2)
  return .on (stored, state.2 + 1)

/-- A number of rules, each stored where the index of it says. -/
def getRules (array count : Nat) (index : Nat → Nat) (rules : Nat → SrcDstVnid) :
    Scanner (Nat → SrcDstVnid) := do
  let ended ← loop (fun state _ => state.2 < count) (getRulesItem array index) (rules, 0)
  return ended.state.1

/-- One group of rules: the kind, their number and the rules, stored behind those of
the groups before. The index of a rule has 16 bits. -/
def getRuleGroup (state : VnidPolicy × UInt16) : Scanner (Pass (VnidPolicy × UInt16)) := do
  let action ← take 2 getInt16
  let count ← take 2 getInt16
  let stored ← getRules 68 count.toNat (fun index => (state.2 + UInt16.ofNat index).toNat)
    state.1.srcDstVnid
  let policy : VnidPolicy :=
    if action = 1 then { state.1 with numPermitRules := count, srcDstVnid := stored }
    else { state.1 with numDenyRules := count, srcDstVnid := stored }
  return .on (policy, state.2 + count)

/-- Groups of rules are read until as many have been stored as were announced. -/
def getRuleGroups (total : UInt16) (policy : VnidPolicy) : Scanner VnidPolicy := do
  let ended ← loop (fun state _ => state.2 < total) getRuleGroup (policy, 0)
  return ended.state.1

def getPolicyTypeTlv (policy : Policy) : Scanner Policy := do
  let _ ← take 4 getTlvHdr
  let hdr ← take 4 getTlvHdr
  let policy := { policy with version := hdr.ver, policyType := hdr.type }
  if hdr.type = policyTypeConnectivity then
    return { policy with vnidPolicy := ← getRuleGroups hdr.len policy.vnidPolicy }
  else return policy

/-- One pass over a policy: its numbers and its content, whatever their types say. -/
def getPolicyPart (info : PolicyInfo) : Scanner (Pass PolicyInfo) := do
  let numbers ← getPolicyIdTlv
  let policy ← getPolicyTypeTlv info.dpsPolicy
  return .on
    { policyId := numbers.1, version := numbers.2.1, ttl := numbers.2.2, dpsPolicy := policy }

def getPolicyTlv (info : PolicyInfo) : Scanner PolicyInfo := do
  let ended ← getList getPolicyPart info
  return ended.state

/-- One deny rule of a bulk list: the source is set twice, the second time from the
first half of the destination, and the destination not at all. -/
def getBulkDenyRule (index : Nat) : Scanner (Nat → SrcDstVnid) := do
  store (52 + 8 * index + 4)
  take 8 fun memory buff => Function.update rules index
    { rules index with
      svnid := UInt32.ofNat ((memory (buff + 4)).toNat * 16777216 +
        (memory (buff + 5)).toNat * 65536) }

def getBulkDenyRulesItem (state : (Nat → SrcDstVnid) × Nat) :
    Scanner (Pass ((Nat → SrcDstVnid) × Nat)) := do
  let stored ← getBulkDenyRule state.1 (first + state.2)
  return .on (stored, state.2 + 1)

def getBulkDenyRules (count first : Nat) (rules : Nat → SrcDstVnid) :
    Scanner (Nat → SrcDstVnid) := do
  let ended ← loop (fun state _ => state.2 < count) (getBulkDenyRulesItem first) (rules, 0)
  return ended.state.1

def getBulkPolicyXfer : Scanner VnidPolicy := do
  let numPermitRules ← take 2 getInt16
  let numDenyRules ← take 2 getInt16
  let permitted ← getRules 52 numPermitRules.toNat id rules
  let stored ← getBulkDenyRules numDenyRules.toNat numPermitRules.toNat permitted
  return { numPermitRules := numPermitRules, numDenyRules := numDenyRules, srcDstVnid := stored }

/-- What comes of a received packet: a message for the client of the protocol, if it
was not dropped, and an acknowledgement, if one is sent. -/
structure Processed where
  delivered : Option Message := none
  acknowledged : Option Message := none

/-- The acknowledgement of a message. It names the message's type as its own sub-type,
and there is none for a message without a query number. -/
def clientCreateGeneralAck : Option Message :=
  if message.hdr.queryId = 0 then none
  else
    let registration : Bool := match message.body.type with
      | .tunnelRegister | .tunnelDeregister | .mcastSenderRegistration
      | .mcastSenderDeregistration | .mcastReceiverJoin | .mcastReceiverLeave => true
      | _ => false
    some {  hdr := { message.hdr with subType := message.body.type.code, respStatus := 0 }
            body := .generalAck registration }

/-- The message is passed on. -/
def deliver : Processed := { delivered := some message }

/-- The message is passed on, and acknowledged as well. -/
def deliverAndAck : Processed :=
  { delivered := some message, acknowledged := clientCreateGeneralAck message }

/-- The parts behind the packet header go through one loop up to the declared end. A
part the loop does not know makes it drop the packet. -/
def processTlvs {σ : Type} (body : σ → Scanner (Pass σ)) (state : σ)
    (finish : ClientHdr → σ → Processed) : Scanner Processed := do
  let head ← take 20 getPktHdr
  let ended ← loopUntil (20 + head.2) body state
  match ended with
  | .on state => return finish head.1 state
  | .leave _ => return {}

/-- A request for the location of an endpoint, whichever type asks for it. -/
def processEndpointLocReqPart (req : EndpointLocReq) : Scanner (Pass EndpointLocReq) := do
  let hdr ← look getTlvHdr
  match hdr.kind with
  | some .vmac => return .on { req with mac := ← getVmacTlv }
  | some .ipAddr => return .on { req with vmIpAddr := ← getIpTlv }
  | some .euid => do
    let euid ← getEuidTlv
    return .on { req with vnid := euid.1, mac := euid.2 }
  | some .replyServiceLoc | some .serviceLoc =>
    return .on { req with dpsClientAddr := ← getSvclocTlv }
  | _ => return .leave req

def processEndpointLocReq : Scanner Processed :=
  processTlvs processEndpointLocReqPart { dpsClientAddr := sender } fun hdr req =>
    deliver ⟨hdr, .endpointLocReq req⟩

def processAddrResolve : Scanner Processed :=
  processTlvs processEndpointLocReqPart { dpsClientAddr := sender } fun hdr req =>
    deliverAndAck ⟨hdr, .addrResolve req⟩

/-- Every part is taken for a location, whatever its type. -/
def processEndpointLocReplyPart (reply : EndpointLocReply) : Scanner (Pass EndpointLocReply) := do
  return .on (← getEndpointLocReplyTlv 92 reply)

/-- A location reply. One that was not asked for is passed on as if it had been. -/
def processEndpointLocReply : Scanner Processed :=
  processTlvs processEndpointLocReplyPart {} fun hdr reply =>
    if unsolicited then deliverAndAck ⟨hdr, .endpointLocReply false reply⟩
    else deliver ⟨hdr, .endpointLocReply false reply⟩

def processEndpointUpdatePart : Scanner (Pass EndpointUpdate) := do
  let hdr ← look getTlvHdr
  match hdr.kind with
  | some .endpointLoc => return .on (← getEndpointUpdateTlv update)
  | some .serviceLoc | some .replyServiceLoc =>
    return .on { update with dpsClientAddr := ← getSvclocTlv }
  | _ => return .leave update

def processEndpointUpdate : Scanner Processed :=
  processTlvs processEndpointUpdatePart { dpsClientAddr := sender } fun hdr update =>
    deliver ⟨hdr, .endpointUpdate update⟩

def processEndpointUpdateReplyPart : Scanner (Pass EndpointUpdateReply) := do
  let hdr ← look getTlvHdr
  match hdr.kind with
  | some .endpointUpdateReply => return .on (← getEndpointUpdateReplyTlv reply)
  | _ => return .leave reply

def processEndpointUpdateReply : Scanner Processed :=
  processTlvs processEndpointUpdateReplyPart {} fun hdr reply =>
    deliver ⟨hdr, .endpointUpdateReply reply⟩

/-- The first endpoint of a policy request is the destination, the second the source. -/
def PolicyReq.setEndpoint (req : PolicyReq) (index : Nat) (info : EndpointInfo) : PolicyReq :=
  if index = 0 then { req with dstEndpoint := info }
  else if index = 1 then { req with srcEndpoint := info }
  else req

/-- One pass over a part of a policy request. A part of another type is not stepped
over. -/
def processPolicyReqPart (state : PolicyReq × Nat) : Scanner (Pass (PolicyReq × Nat)) := do
  let hdr ← look getTlvHdr
  match hdr.kind with
  | some .endpointInfo =>
    return .on (state.1.setEndpoint state.2 (← getEndpointInfoTlv), state.2 + 1)
  | some .serviceLoc | some .replyServiceLoc =>
    return .on ({ state.1 with dpsClientAddr := ← getSvclocTlv }, state.2)
  | _ => return .on state

def processPolicyReq : Scanner Processed :=
  processTlvs processPolicyReqPart ({ dpsClientAddr := sender }, 0) fun hdr state =>
    deliver ⟨hdr, .policyReq state.1⟩

def processPolicyReplyPart (reply : PolicyReply) : Scanner (Pass PolicyReply) := do
  let hdr ← look getTlvHdr
  match hdr.kind with
  | some .endpointLoc =>
    return .on { reply with
      dstEndpointLocReply := ← getEndpointLocReplyTlv 120 reply.dstEndpointLocReply }
  | some .policy =>
    return .on { reply with dpsPolicyInfo := ← getPolicyTlv reply.dpsPolicyInfo }
  | _ => return .leave reply

def processPolicyReply (ipList : Nat → UInt8) : Scanner Processed :=
  processTlvs processPolicyReplyPart
    { dpsPolicyInfo :=
        { dpsPolicy :=
            { vnidPolicy := { srcDstVnid := rules }, sourceRouting := { ipList := ipList } } } }
    fun hdr reply => deliver ⟨hdr, .policyReply reply⟩

/-- One pass over a list of gateways or switches: the IPv4 addresses move the place for
what follows behind them. -/
def processPackedPart (array : Nat) (state : PkdTunnelList × Nat) :
    Scanner (Pass (PkdTunnelList × Nat)) := do
  let hdr ← look getTlvHdr
  match hdr.kind with
  | some .ipv4AddrList =>
    return .on ({ state.1 with
        tunnelList := ← getIpv4ListTlv state.1.tunnelList state.2 array
        numV4Tunnels := UInt16.ofNat (hdr.len.toNat / 4) },
      state.2 + (UInt16.ofNat (hdr.len.toNat / 4)).toNat)
  | some .ipv6AddrList =>
    return .on ({ state.1 with
        tunnelList := ← getIpv6ListTlv state.1.tunnelList state.2 array
        numV6Tunnels := UInt16.ofNat (hdr.len.toNat / 16) }, state.2)
  | _ => return .leave state

def processInternalGwReply : Scanner Processed :=
  processTlvs (processPackedPart 52) ({ tunnelList := cells }, 0) fun hdr state =>
    let message : Message := ⟨hdr, .internalGwReply unsolicited
      { numV4Gw := state.1.numV4Tunnels
        numV6Gw := state.1.numV6Tunnels
        gwList := state.1.tunnelList }⟩
    if unsolicited then deliverAndAck message else deliver message

def processBcastListReply : Scanner Processed :=
  processTlvs (processPackedPart 56) ({ tunnelList := cells }, 0) fun hdr state =>
    let message : Message := ⟨hdr, .bcastListReply unsolicited state.1⟩
    if unsolicited then deliverAndAck message else deliver message

def processGenMsgReqPart (client : ServiceLocation) : Scanner (Pass ServiceLocation) := do
  let hdr ← look getTlvHdr
  match hdr.kind with
  | some .serviceLoc | some .replyServiceLoc => return .on (← getSvclocTlv)
  | _ => return .leave client

/-- A request with nothing but a location. The heart beat is only acknowledged. -/
def processGenMsgReq (kind : GenMsg) (sender : ServiceLocation) : Scanner Processed :=
  processTlvs processGenMsgReqPart sender fun hdr client =>
    let message : Message := ⟨hdr, .genMsgReq kind client⟩
    if kind = .ctrlPlaneHb then { acknowledged := clientCreateGeneralAck message }
    else deliver message

def processBulkPolicyXfer : Scanner Processed := do
  let head ← take 20 getPktHdr
  let policy ← getBulkPolicyXfer rules
  let message : Message := ⟨head.1, .vnidPolicyList unsolicited policy⟩
  return if unsolicited then deliverAndAck message else deliver message

def processGwListPart (tunnels : List TunnelEndpoint) : Scanner (Pass (List TunnelEndpoint)) := do
  let hdr ← look getTlvHdr
  match hdr.kind with
  | some .tunnelList => return .on (← getTunnelListTlv 52)
  | _ => return .leave tunnels

def processGwList (kind : GwList) : Scanner Processed :=
  processTlvs processGwListPart [] fun hdr tunnels =>
    let message : Message := ⟨hdr, .gwList kind tunnels⟩
    if kind = .unsolicitedExternal ∨ kind = .unsolicitedVlan then deliverAndAck message
    else deliver message

def processTunnelRegDeregPart (data : TunnelRegDereg) : Scanner (Pass TunnelRegDereg) := do
  let hdr ← look getTlvHdr
  match hdr.kind with
  | some .tunnelList => return .on { data with tunnelInfo := ← getTunnelListTlv 76 }
  | some .serviceLoc | some .replyServiceLoc =>
    return .on { data with dpsClientAddr := ← getSvclocTlv }
  | _ => return .leave data

def processTunnelRegDereg (deregister : Bool) (sender : ServiceLocation) : Scanner Processed :=
  processTlvs processTunnelRegDeregPart { dpsClientAddr := sender } fun hdr data =>
    deliver ⟨hdr, .tunnelRegDereg deregister data⟩

def processVmMigrationEventPart (event : VmMigrationEvent) : Scanner (Pass VmMigrationEvent) := do
  let hdr ← look getTlvHdr
  match hdr.kind with
  | some .endpointLoc =>
    return .on { event with srcVmLoc := ← getEndpointLocReplyTlv 128 event.srcVmLoc }
  | some .endpointInfo => return .on { event with migratedVmInfo := ← getEndpointInfoTlv }
  | _ => return .leave event

def processVmMigrationEvent : Scanner Processed :=
  processTlvs processVmMigrationEventPart {} fun hdr event =>
    deliver ⟨hdr, .vmMigrationEvent event⟩

/-- One pass over a part of a sender's registration, to which a range of groups is not
known. -/
def processMcastSenderPart (data : McastSender) : Scanner (Pass McastSender) := do
  let hdr ← look getTlvHdr
  match hdr.kind with
  | some .ipAddr => return .on { data with tunnelEndpoint := ← getIpTlv }
  | some .endpointInfo => return .on { data with mcastSrcVm := ← getEndpointInfoTlv }
  | some .mcastAddrMac | some .mcastAddrV4 | some .mcastAddrV6 =>
    return .on { data with mcastAddr := ← getMcastAddrTlv }
  | some .serviceLoc | some .replyServiceLoc =>
    return .on { data with dpsClientAddr := ← getSvclocTlv }
  | _ => return .leave data

def processMcastSenderRegDereg (deregistration : Bool) (sender : ServiceLocation) :
    Scanner Processed :=
  processTlvs processMcastSenderPart { dpsClientAddr := sender } fun hdr data =>
    deliver ⟨hdr, .mcastSender deregistration data⟩

def processMcastReceiverPart (data : McastReceiver) : Scanner (Pass McastReceiver) := do
  let hdr ← look getTlvHdr
  match hdr.kind with
  | some .ipAddr => return .on { data with tunnelEndpoint := ← getIpTlv }
  | some .mcastGrpRec =>
    return .on { data with mcastGroupRec := ← getMcastGrpRecTlv data.mcastGroupRec }
  | some .serviceLoc | some .replyServiceLoc =>
    return .on { data with dpsClientAddr := ← getSvclocTlv }
  | _ => return .leave data

def processMcastReceiverJoinLeave (leave : Bool) (sender : ServiceLocation) (cells : Cells) :
    Scanner Processed :=
  processTlvs processMcastReceiverPart
    { dpsClientAddr := sender, mcastGroupRec := { srcAddr := cells } } fun hdr data =>
    deliver ⟨hdr, .mcastReceiver leave data⟩

/-- Write a record over the cells from the one it starts at. -/
def storeRecord : Cells := fun cell =>
  if cell < first then cells cell
  else if cell = first then list.vnid
  else if cell = first + 1 then
    UInt32.ofNat (list.numV4Tunnels.toNat + 65536 * list.numV6Tunnels.toNat)
  else list.tunnelList (cell - (first + 2))

/-- One pass over a switch list. A record is put together in place, in what the buffer
holds, and the next one starts where its counts say that it ends. -/
def processDsListPart (state : McastReceiverDsList × Nat) :
    Scanner (Pass (McastReceiverDsList × Nat)) := do
  let hdr ← look getTlvHdr
  match hdr.kind with
  | some .mcastAddrMac | some .mcastAddrV4 | some .mcastAddrV6 =>
    return .on ({ state.1 with mcastAddr := ← getMcastAddrTlv }, state.2)
  | some .vnidTunnelList => do
    let list ← getVnidTunnelListTlv (recordAt state.1.mcastRecvrList state.2)
      (76 + 4 * state.2)
    return .on ({ state.1 with
        numOfRec := state.1.numOfRec + 1
        mcastRecvrList := storeRecord state.1.mcastRecvrList state.2 list },
      state.2 + 2 + list.numV4Tunnels.toNat + 4 * list.numV6Tunnels.toNat)
  | _ => return .leave state

def processMcastReceiverDsList : Scanner Processed :=
  processTlvs processDsListPart ({ mcastRecvrList := cells }, 0) fun hdr state =>
    deliverAndAck ⟨hdr, .mcastReceiverDsList state.1⟩

def processGeneralAck (registration : Bool) : Scanner Processed := do
  let head ← take 20 getPktHdr
  return deliver ⟨head.1, .generalAck registration⟩

def processVmLocInfoPart : Scanner (Pass Epri) := do
  let hdr ← look getTlvHdr
  match hdr.kind with
  | some .epri => return .on (← getEpriTlv epri)
  | _ => do
    skipTlv
    return .on epri

def processVmLocInfo : Scanner Processed :=
  processTlvs processVmLocInfoPart {} fun hdr epri => deliverAndAck ⟨hdr, .vmLocInfo epri⟩

/-- What the variable part of a freshly allocated buffer holds, as the array it is
used for. -/
structure Buffer where
  cells : Cells
  rules : Nat → SrcDstVnid
  ipList : Nat → UInt8

/-- The table of process routines. Three types are accepted and ignored. -/
def process (buffer : Buffer) (sender : ServiceLocation) : MsgType → Scanner Processed
  | .endpointLocReq => processEndpointLocReq sender
  | .endpointLocReply => processEndpointLocReply false
  | .policyReq => processPolicyReq sender
  | .policyReply => processPolicyReply buffer.rules buffer.ipList
  | .policyInvalidate => return {}
  | .endpointUpdate => processEndpointUpdate sender
  | .endpointUpdateReply => processEndpointUpdateReply
  | .addrResolve => processAddrResolve sender
  | .addrReply => return {}
  | .internalGwReq => processGenMsgReq .internalGwReq sender
  | .internalGwReply => processInternalGwReply false buffer.cells
  | .unsolicitedVnidPolicyList => processBulkPolicyXfer true buffer.rules
  | .bcastListReq => processGenMsgReq .bcastListReq sender
  | .bcastListReply => processBcastListReply false buffer.cells
  | .vmMigrationEvent => processVmMigrationEvent
  | .mcastSenderRegistration => processMcastSenderRegDereg false sender
  | .mcastSenderDeregistration => processMcastSenderRegDereg true sender
  | .mcastReceiverJoin => processMcastReceiverJoinLeave false sender buffer.cells
  | .mcastReceiverLeave => processMcastReceiverJoinLeave true sender buffer.cells
  | .mcastReceiverDsList => processMcastReceiverDsList buffer.cells
  | .unsolicitedBcastListReply => processBcastListReply true buffer.cells
  | .unsolicitedInternalGwReply => processInternalGwReply true buffer.cells
  | .generalAck => processGeneralAck false
  | .unsolicitedExternalGwList => processGwList .unsolicitedExternal
  | .unsolicitedVlanGwList => processGwList .unsolicitedVlan
  | .tunnelRegister => processTunnelRegDereg false sender
  | .tunnelDeregister => processTunnelRegDereg true sender
  | .regDeregisterAck => processGeneralAck true
  | .externalGwListReq => processGenMsgReq .externalGwListReq sender
  | .externalGwListReply => processGwList .externalReply
  | .vlanGwListReq => processGenMsgReq .vlanGwListReq sender
  | .vlanGwListReply => processGwList .vlanReply
  | .unsolicitedEndpointLocReply => processEndpointLocReply true
  | .vnidPolicyListReq => processGenMsgReq .vnidPolicyListReq sender
  | .vnidPolicyListReply => processBulkPolicyXfer false buffer.rules
  | .mcastCtrlGwReq => processGenMsgReq .mcastCtrlGwReq sender
  | .mcastCtrlGwReply => processGwList .mcastCtrlReply
  | .unsolicitedVnidDelReq => processGenMsgReq .unsolicitedVnidDelReq sender
  | .ctrlPlaneHb => processGenMsgReq .ctrlPlaneHb sender
  | .getDcsNode => return {}
  | .unsolicitedVmLocInfo => processVmLocInfo

/-- A received packet is handed to the routine of its type; another type is refused. -/
def processRcvdPkt (buffer : Buffer) (sender : ServiceLocation) : Scanner Processed := do
  let code ← look fun memory buff => memory (buff + 1)
  match MsgType.ofCode code with
  | none => return {}
  | some type => process buffer sender type

end OpenDove.Dps
