import OpenDove.PacketReadback

/-!
# Messages across the wire

A message is turned into bytes by its send routine, and the bytes are taken apart by
the process routine of the same type. `Message.Decodes` follows one packet through
both, for whatever the two buffers held before; `Message.Survives` asks that the
message handed on carries what the sent one did.

Requests, updates, gateway and switch lists and the messages about a virtual machine
survive. A reply with an error status is sent without its content, and the status has
only sixteen bits on the wire, so the result is stated for the messages that are sent
whole. Both sides have a buffer of `maxBuffSz` bytes, the sender for the packet and the
receiver for the message, which are of different lengths.
-/

namespace OpenDove.Dps

open Scanner Setter

/-- The first words of a row; those behind them are cleared. -/
def clip (count : Nat) (cells : Cells) : Cells := fun index =>
  if index < count then cells index else 0

theorem clip_congr {count : Nat} {first second : Cells}
    (same : ∀ index < count, first index = second index) : clip count first = clip count second := by
  funext index
  unfold clip
  split
  · next inside => exact same index inside
  · rfl

/-- A location without the transport type, which is not carried. -/
def ServiceLocation.carried (client : ServiceLocation) : ServiceLocation :=
  { client with xportType := 0 }

/-- The cell behind a number of records, the first of which starts at a cell. -/
def recordsEnd (cells : Cells) : Nat → Nat → Nat
  | 0, first => first
  | count + 1, first => recordsEnd cells count (recordEnd cells first)

/-- The words the sources of a group take. -/
def McastGroupRecord.srcWords (groupRec : McastGroupRecord) : Nat :=
  match groupRec.family with
  | .inet6 => 4 * groupRec.numOfSrcs.toNat
  | _ => groupRec.numOfSrcs.toNat

/-- The sources of a group; without any, their family says nothing. -/
def McastGroupRecord.carried (groupRec : McastGroupRecord) : McastGroupRecord :=
  if groupRec.numOfSrcs = 0 then { groupRec with family := .absent, srcAddr := fun _ => 0 }
  else { groupRec with srcAddr := clip groupRec.srcWords groupRec.srcAddr }

/-- What of a message's content is compared. Left out are the transport type of a
location and what lies behind a counted array. A location is the same whether it
was asked for or not, and the network of a broadcast list is that of the header. -/
def Body.carried : Body → Body
  | .endpointLocReq data =>
    .endpointLocReq { data with dpsClientAddr := data.dpsClientAddr.carried }
  | .endpointLocReply _ data => .endpointLocReply false data
  | .policyReq data => .policyReq { data with dpsClientAddr := data.dpsClientAddr.carried }
  | .endpointUpdate data =>
    .endpointUpdate { data with dpsClientAddr := data.dpsClientAddr.carried }
  | .addrResolve data => .addrResolve { data with dpsClientAddr := data.dpsClientAddr.carried }
  | .genMsgReq kind client => .genMsgReq kind client.carried
  | .internalGwReply unsolicited data =>
    .internalGwReply unsolicited
      { data with gwList := clip (data.numV4Gw.toNat + 4 * data.numV6Gw.toNat) data.gwList }
  | .bcastListReply unsolicited data =>
    .bcastListReply unsolicited
      { data with
        vnid := 0
        tunnelList :=
          clip (data.numV4Tunnels.toNat + 4 * data.numV6Tunnels.toNat) data.tunnelList }
  | .mcastSender deregistration data =>
    .mcastSender deregistration { data with dpsClientAddr := data.dpsClientAddr.carried }
  | .mcastReceiver leave data =>
    .mcastReceiver leave
      { data with
        dpsClientAddr := data.dpsClientAddr.carried
        mcastGroupRec := data.mcastGroupRec.carried }
  | .mcastReceiverDsList data =>
    .mcastReceiverDsList
      { data with
        mcastRecvrList :=
          clip (recordsEnd data.mcastRecvrList data.numOfRec.toNat 0) data.mcastRecvrList }
  | .tunnelRegDereg deregister data =>
    .tunnelRegDereg deregister { data with dpsClientAddr := data.dpsClientAddr.carried }
  | body => body

variable (message : Message) (outgoing : Memory)

/-- The message is sent, and however its packet reaches memory, it is taken apart on enough
fuel, with a result that meets the condition. -/
def Message.Decodes (incoming : Buffer) (post : Processed → Prop) : Prop :=
  ∃ packet ∈ sentPacket message outgoing, ∀ memory sender fuel, Holds memory 0 packet →
    packet.length < fuel → ∃ processed cursor,
      processRcvdPkt incoming sender fuel memory ⟨0, []⟩ = some (processed, cursor) ∧
        post processed

/-- A message is handed on with the same header and the same content. -/
def Message.Arrives (incoming : Buffer) : Prop :=
  message.Decodes outgoing incoming fun processed =>
    ∃ got ∈ processed.delivered, got.hdr = message.hdr ∧ got.body.carried = message.body.carried

/-- A message is handed on as it is sent. -/
def Message.Survives (build : Build) (incoming : Buffer) : Prop :=
  (message.stamped build).Arrives outgoing incoming

/-- The packet fits the buffer it is written to. -/
def Message.Fits : Prop :=
  ∀ setter ∈ send message, (setter outgoing 0).length ≤ maxBuffSz

/-- The header that arrives for one that was sent: the status keeps sixteen bits. -/
def ClientHdr.received (hdr : ClientHdr) : ClientHdr :=
  { hdr with respStatus := hdr.respStatus.toUInt16.toUInt32 }

theorem ClientHdr.received_eq_iff (hdr : ClientHdr) :
    hdr.received = hdr ↔ hdr.respStatus < 65536 := by
  have kept : hdr.respStatus.toUInt16.toUInt32 = hdr.respStatus ↔ hdr.respStatus.toNat < 65536 := by
    rw [← UInt32.toNat_inj, UInt16.toNat_toUInt32, UInt32.toNat_toUInt16]
    omega
  have same : hdr.received = hdr ↔ hdr.respStatus.toUInt16.toUInt32 = hdr.respStatus := by
    constructor
    · intro equal
      exact congrArg ClientHdr.respStatus equal
    · intro equal
      unfold ClientHdr.received
      rw [equal]
  rw [same, kept]
  exact Iff.rfl

variable {hdr : ClientHdr} {message : Message} {type : MsgType} {len : Nat} {unsolicited : Bool}
  {data : EndpointLocReply} {setter : Setter}

section Packets

variable {memory : Memory} {outgoing : Memory} {incoming : Buffer} {sender : ServiceLocation}

/-- The header and the declared number of bytes behind it are read back. -/
theorem getPktHdr_eq (held : Holds memory 0 (setPktHdr type hdr len outgoing 0)) (whole : 4 ∣ len)
    (long : 20 ≤ len) (small : len < 65536) : getPktHdr memory 0 = (hdr.received, len - 20) := by
  obtain ⟨_, length, query, vnid, subType, status, client, transaction⟩ := holds_setPktHdr held
  have declared := hdrLen_toNat whole (by omega) small
  simp only [Nat.zero_add] at length query vnid subType status client transaction
  simp only [getPktHdr, ClientHdr.received, Nat.zero_add, length, query, vnid, subType, status,
    client, transaction, UInt8.toUInt8_toUInt16, Prod.mk.injEq, true_and]
  omega

/-- A packet whose parts are consumed is processed to its end. -/
theorem runs_processTlvs {σ : Type} {body : σ → Scanner (Pass σ)} {state : σ}
    {finish : ClientHdr → σ → Processed} {post : σ → Prop} {content : Setter}
    (sized : 20 + (content outgoing 20).length = len) (whole : 4 ∣ len) (small : len < 65536)
    (held : Holds memory 0 ((setPktHdr type hdr len ++ content) outgoing 0))
    (consumes : Consumes memory outgoing body content state post) :
    ∃ next, post next ∧
      Runs memory (processTlvs body state finish) 0 (finish hdr.received next) len := by
  simp only [Setter.holds_append, length_setPktHdr, Nat.zero_add] at held
  obtain ⟨next, met, loops⟩ := consumes.loops held.2 sized
  have read := getPktHdr_eq held.1 whole (by omega) small
  have ends : 20 + (len - 20) = len := by omega
  have run : Runs memory (loopUntil (20 + (len - 20)) body state) 20 (.on next) len := by
    rw [ends]
    exact loops.runs
  exact ⟨next, met, Runs.bind ((Runs.take 20 _).cast read rfl) (Runs.bind run (Runs.pure _))⟩

/-- The routine of a packet is that of the type in its header. -/
theorem runs_processRcvdPkt {value : Processed} {stop : Nat}
    (held : Holds memory 0 (setPktHdr type hdr len outgoing 0))
    (run : Runs memory (process incoming sender type) 0 value stop) :
    Runs memory (processRcvdPkt incoming sender) 0 value stop := by
  refine Runs.bind (Runs.look _) ?_
  rw [(holds_setPktHdr held).1, MsgType.ofCode_code]
  exact run

/-- What is written is sent if it fits the buffer. -/
theorem sentPacket_eq (sent : send message = some setter)
    (fits : (setter outgoing 0).length ≤ maxBuffSz) :
    sentPacket message outgoing = some (setter outgoing 0) := by
  rw [sentPacket, sent]
  simp [fits]

section Rules

variable {message : Message} {σ : Type} (body : σ → Scanner (Pass σ))
  (state : ServiceLocation → σ) (finish : ClientHdr → σ → Processed) {post : Processed → Prop}
  {content : Setter} (fits : message.Fits outgoing)
  (routine : ∀ sender, process incoming sender message.body.type =
    processTlvs body (state sender) finish)
  (consumes : ∀ memory sender, Consumes memory outgoing body content (state sender)
    fun next => post (finish message.hdr.received next))

include fits routine consumes

/-- A message whose routine goes through the parts is decoded if the parts that were
written are consumed. -/
theorem decodes_of_consumes (sent : send message = some setter)
    (written : setter outgoing 0 = (setPktHdr message.body.type message.hdr
      (20 + (content outgoing 20).length) ++ content) outgoing 0)
    (whole : 4 ∣ (content outgoing 20).length) : message.Decodes outgoing incoming post := by
  have small := fits setter sent
  refine ⟨_, sentPacket_eq sent small, fun memory sender fuel held enough => ?_⟩
  rw [written] at held enough small
  simp only [Setter.length_append, length_setPktHdr, Nat.zero_add, maxBuffSz] at enough small
  have headHeld := ((Setter.holds_append _ _ _ _ _ _).mp held).1
  obtain ⟨next, met, run⟩ :=
    runs_processTlvs rfl (by omega) (by omega) held (consumes memory sender)
  rw [← routine] at run
  obtain ⟨more, ran, _⟩ := (runs_processRcvdPkt headHeld run).2 fuel [] (by omega)
  exact ⟨_, _, ran, met⟩

/-- The same for a packet that declares the length computed ahead. -/
theorem decodes_counted
    (sent : send message = some (setPktHdr message.body.type message.hdr (calcPktLen message) ++
      content))
    (counted : calcPktLen message = 20 + (content outgoing 20).length) :
    message.Decodes outgoing incoming post := by
  have whole := four_dvd_calcPktLen message
  exact decodes_of_consumes body state finish fits routine consumes sent (by rw [counted]) (by omega)

/-- The same for a packet that declares the length of what was written. -/
theorem decodes_packet
    (sent : send message = some (packet message.body.type message.hdr content))
    (whole : 4 ∣ (content outgoing 20).length) : message.Decodes outgoing incoming post :=
  decodes_of_consumes body state finish fits routine consumes sent
    (by simp [packet, append_apply, pktHdrLen]) whole

end Rules

/-- There is one result, which meets whatever every result is known to meet. -/
theorem Message.Decodes.both {first second : Processed → Prop}
    (one : message.Decodes outgoing incoming first)
    (other : message.Decodes outgoing incoming second) :
    ∃ processed, first processed ∧ second processed := by
  obtain ⟨written, sent, decoded⟩ := one
  obtain ⟨_, sentAgain, decodedAgain⟩ := other
  obtain rfl := Option.some_inj.mp (sent.symm.trans sentAgain)
  have held := holds_ofList written
  obtain ⟨processed, cursor, ran, met⟩ := decoded _ { addr := .v4 0 } _ held (Nat.lt_succ_self _)
  obtain ⟨again, later, ranAgain, metAgain⟩ :=
    decodedAgain _ { addr := .v4 0 } _ held (Nat.lt_succ_self _)
  obtain ⟨rfl, _⟩ := Prod.mk.injEq .. ▸ Option.some_inj.mp (ran.symm.trans ranAgain)
  exact ⟨processed, met, metAgain⟩

/-- A message that is handed on with the header as it arrives. -/
theorem handedOn {got : Message} {processed : Processed}
    (delivered : processed.delivered = some got) (status : message.hdr.respStatus < 65536)
    (sameHdr : got.hdr = message.hdr.received)
    (sameBody : got.body.carried = message.body.carried) :
    ∃ got ∈ processed.delivered, got.hdr = message.hdr ∧
      got.body.carried = message.body.carried :=
  ⟨got, delivered, sameHdr.trans (message.hdr.received_eq_iff.mpr status), sameBody⟩

end Packets

section Families

variable {memory buffer : Memory} {hdr : ClientHdr} {outgoing : Memory} {incoming : Buffer}

/-- The addresses of a location are all of family IPv4 or IPv6. -/
def EndpointLocReply.Addressed (reply : EndpointLocReply) : Prop :=
  reply.vmIpAddr.Present ∧ ∀ tunnel ∈ reply.tunnelInfo, tunnel.addr.Present

theorem EndpointLocReply.received_eq {reply : EndpointLocReply} (addressed : reply.Addressed) :
    reply.received = reply := by
  rw [EndpointLocReply.received, (IpAddr.received_eq_iff _).mpr addressed.1,
    presentTunnels_eq addressed.2]

theorem EndpointInfo.received_eq {info : EndpointInfo} (present : info.vmIpAddr.Present) :
    info.received = info := by
  rw [EndpointInfo.received, (IpAddr.received_eq_iff _).mpr present]

theorem EndpointUpdate.received_eq {update : EndpointUpdate} {client : ServiceLocation}
    (present : update.vmIpAddr.Present)
    (tunnels : ∀ tunnel ∈ update.tunnelInfo, tunnel.addr.Present) :
    update.received client = { update with dpsClientAddr := client } := by
  rw [EndpointUpdate.received, (IpAddr.received_eq_iff _).mpr present, presentTunnels_eq tunnels]

theorem arrives_endpointLocReq {data : EndpointLocReq} (address : data.vmIpAddr.Present)
    (client : data.dpsClientAddr.addr.Present) (status : hdr.respStatus < 65536)
    (fits : Message.Fits ⟨hdr, .endpointLocReq data⟩ outgoing) :
    Message.Arrives ⟨hdr, .endpointLocReq data⟩ outgoing incoming := by
  have tlvs : setEndpointLocReqTlvs data = setEuidTlv data.vnid data.mac ++
      (setIpTlv data.vmIpAddr ++ setClientAddr data.dpsClientAddr) := by
    rw [setEndpointLocReqTlvs, append_assoc]
    revert address
    cases data.vmIpAddr <;> simp [setIpTlv]
  have counted : calcVmIpAddrLen data.vmIpAddr = ipAddrTlvLen data.vmIpAddr := by
    revert address
    cases data.vmIpAddr <;> simp [calcVmIpAddrLen, ipAddrTlvLen]
  refine decodes_counted processEndpointLocReqPart (fun sender => { dpsClientAddr := sender })
    (fun hdr req => deliver ⟨hdr, .endpointLocReq req⟩) fits (fun _ => rfl)
    (fun memory sender => ?_) rfl (by simp [tlvs, calcPktLen, counted, pktHdrLen, Nat.add_assoc])
  rw [tlvs]
  refine (consumes_euid (fun euid => { vnid := euid.1, mac := euid.2, dpsClientAddr := sender })
    (chooses rfl fun _ _ => rfl)).append ?_
  refine (consumes_ip (fun addr => { data with vmIpAddr := addr, dpsClientAddr := sender })
    (chooses rfl fun _ _ => rfl)).append ?_
  refine .weaken (consumes_client client (fun client => { data with
    vmIpAddr := data.vmIpAddr.received, dpsClientAddr := client })
    (chooses rfl fun _ _ => rfl)) ?_
  rintro _ ⟨xportType, rfl⟩
  refine handedOn rfl status rfl ?_
  rw [(IpAddr.received_eq_iff _).mpr address]
  rfl

/-- Without an error status a reply declares the length computed ahead. -/
theorem replyLen_eq (accepted : message.hdr.respStatus = 0) :
    replyLen message = calcPktLen message := by
  rw [replyLen, if_pos accepted]

theorem arrives_endpointLocReply (addressed : data.Addressed) (accepted : hdr.respStatus = 0)
    (room : 92 + 28 * data.tunnelInfo.length ≤ maxBuffSz)
    (fits : Message.Fits ⟨hdr, .endpointLocReply unsolicited data⟩ outgoing) :
    Message.Arrives ⟨hdr, .endpointLocReply unsolicited data⟩ outgoing incoming := by
  have length : replyLen ⟨hdr, .endpointLocReply unsolicited data⟩ = calcPktLen _ :=
    replyLen_eq accepted
  have more : calcPktLen ⟨hdr, .endpointLocReply unsolicited data⟩ ≠ pktHdrLen := by
    simp [calcPktLen, calcEndpointLocReplyTlvLen]
  have sent : send ⟨hdr, .endpointLocReply unsolicited data⟩ = some
      (setPktHdr (Body.endpointLocReply unsolicited data).type hdr
        (calcPktLen ⟨hdr, .endpointLocReply unsolicited data⟩) ++ setEndpointLocReplyTlv data) := by
    simp only [send, length, more, ↓reduceIte]
  have small := fits _ sent
  simp only [Setter.length_append, length_setPktHdr, length_setEndpointLocReplyTlv,
    maxBuffSz] at small
  refine decodes_counted processEndpointLocReplyPart (fun _ => {})
    (fun hdr reply => if unsolicited then deliverAndAck ⟨hdr, .endpointLocReply false reply⟩
      else deliver ⟨hdr, .endpointLocReply false reply⟩) fits ?_ (fun memory sender => ?_) sent
    (by simp [calcPktLen, pktHdrLen])
  · intro sender
    cases unsolicited <;> rfl
  · refine .pass (calcEndpointLocReplyTlvLen data) (by unfold calcEndpointLocReplyTlvLen; omega)
      (fun _ => length_setEndpointLocReplyTlv _ _ _) fun _ _ held => ⟨data.received, ?_, ?_⟩
    · have delivered : (if unsolicited then deliverAndAck ⟨hdr.received, .endpointLocReply false
          data.received⟩ else deliver ⟨hdr.received, .endpointLocReply false data.received⟩).delivered
          = some ⟨hdr.received, .endpointLocReply false data.received⟩ := by
        cases unsolicited <;> rfl
      refine handedOn delivered (by simp [accepted]) rfl ?_
      rw [EndpointLocReply.received_eq addressed]
      rfl
    · exact Runs.bind (runs_getEndpointLocReplyTlv (by omega) room held) (Runs.pure _)

theorem arrives_policyReq {data : PolicyReq} (dst : data.dstEndpoint.vmIpAddr.Present)
    (src : data.srcEndpoint.vmIpAddr.Present) (client : data.dpsClientAddr.addr.Present)
    (status : hdr.respStatus < 65536) (fits : Message.Fits ⟨hdr, .policyReq data⟩ outgoing) :
    Message.Arrives ⟨hdr, .policyReq data⟩ outgoing incoming := by
  have sent : send ⟨hdr, .policyReq data⟩ = some (setPktHdr .policyReq hdr
      (calcPktLen ⟨hdr, .policyReq data⟩) ++ (setEndpointInfoTlv data.dstEndpoint ++
        (setEndpointInfoTlv data.srcEndpoint ++ setClientAddr data.dpsClientAddr))) := by
    simp only [send, Body.type, append_assoc]
  refine decodes_counted processPolicyReqPart (fun sender => ({ dpsClientAddr := sender }, 0))
    (fun hdr state => deliver ⟨hdr, .policyReq state.1⟩) fits (fun _ => rfl)
    (fun memory sender => ?_) sent (by simp [calcPktLen, pktHdrLen, Nat.add_assoc])
  refine (consumes_endpointInfo (fun info =>
    (PolicyReq.setEndpoint { dpsClientAddr := sender } 0 info, 1))
    (chooses rfl fun _ _ => rfl)).append ?_
  refine (consumes_endpointInfo (fun info =>
    (PolicyReq.setEndpoint { dstEndpoint := data.dstEndpoint.received
                             dpsClientAddr := sender } 1 info, 2))
    (chooses rfl fun _ _ => rfl)).append ?_
  refine .weaken (consumes_client client (fun client =>
    ({  dstEndpoint := data.dstEndpoint.received, srcEndpoint := data.srcEndpoint.received
        dpsClientAddr := client }, 2)) (chooses rfl fun _ _ => rfl)) ?_
  rintro _ ⟨xportType, rfl⟩
  refine handedOn rfl status rfl ?_
  rw [EndpointInfo.received_eq dst, EndpointInfo.received_eq src]
  rfl

theorem arrives_endpointUpdate {data : EndpointUpdate} (address : data.vmIpAddr.Present)
    (tunnels : ∀ tunnel ∈ data.tunnelInfo, tunnel.addr.Present)
    (client : data.dpsClientAddr.addr.Present) (status : hdr.respStatus < 65536)
    (room : 116 + 28 * data.tunnelInfo.length ≤ maxBuffSz)
    (fits : Message.Fits ⟨hdr, .endpointUpdate data⟩ outgoing) :
    Message.Arrives ⟨hdr, .endpointUpdate data⟩ outgoing incoming := by
  have more : calcPktLen ⟨hdr, .endpointUpdate data⟩ ≠ pktHdrLen := by
    simp [calcPktLen, pktHdrLen]
  have sent : send ⟨hdr, .endpointUpdate data⟩ = some (packet .endpointUpdate hdr
      (setEndpointUpdateTlv data ++ setClientAddr data.dpsClientAddr)) := by
    simp only [send, more, ↓reduceIte, Body.type]
  have words := four_dvd_calcPktLen ⟨hdr, .endpointUpdate data⟩
  have counted : calcPktLen ⟨hdr, .endpointUpdate data⟩ = 20 + ((setEndpointUpdateTlv data ++
      setClientAddr data.dpsClientAddr) outgoing 20).length := by
    simp [calcPktLen, pktHdrLen]
  have small := fits _ sent
  simp [packet, pktHdrLen, maxBuffSz] at small
  refine decodes_packet processEndpointUpdatePart (fun sender => { dpsClientAddr := sender })
    (fun hdr update => deliver ⟨hdr, .endpointUpdate update⟩) fits (fun _ => rfl)
    (fun memory sender => ?_) sent (by omega)
  have update : Consumes memory outgoing processEndpointUpdatePart (setEndpointUpdateTlv data)
      { dpsClientAddr := sender } (· = data.received sender) :=
    consumes_update (by unfold endpointUpdateTlvLen; omega) room (fun update => update)
      (chooses rfl fun _ _ => rfl)
  refine update.append ?_
  refine .weaken (consumes_client client (fun client => data.received client)
    (chooses rfl fun _ _ => rfl)) ?_
  rintro _ ⟨xportType, rfl⟩
  refine handedOn rfl status rfl ?_
  rw [EndpointUpdate.received_eq address tunnels]
  rfl

/-- Packed addresses are read back behind one another, each family counted. -/
theorem consumes_packed {cells source : Cells} {numV4 numV6 : UInt16} {array : Nat}
    (room : array + 4 * (numV4.toNat + 4 * numV6.toNat) ≤ maxBuffSz) :
    Consumes memory buffer (processPackedPart array)
      (setPackedLists source numV4.toNat numV6.toNat) ({ tunnelList := cells }, 0)
      (· = ({ numV4Tunnels := numV4, numV6Tunnels := numV6
              tunnelList := copyCells (copyCells cells 0 source numV4.toNat) numV4.toNat
                (fun offset => source (numV4.toNat + offset)) (4 * numV6.toNat) },
        numV4.toNat)) := by
  have smallV4 : numV4.toNat * 4 < 65536 := by unfold maxBuffSz at room; omega
  have smallV6 : numV6.toNat * 16 < 65536 := by unfold maxBuffSz at room; omega
  have first : Consumes memory buffer (processPackedPart array)
      (if numV4.toNat = 0 then .bytes [] else setIpv4ListTlv (cellWords source 0 numV4.toNat))
      ({ tunnelList := cells }, 0)
      (· = ({ numV4Tunnels := numV4, tunnelList := copyCells cells 0 source numV4.toNat },
        numV4.toNat)) := by
    by_cases none : numV4.toNat = 0
    · have zero : numV4 = 0 := UInt16.toNat_inj.mp none
      rw [if_pos none]
      refine Consumes.nothing.weaken ?_
      rintro _ rfl
      simp [zero, copyCells_zero]
    · rw [if_neg none]
      refine .pass (4 + numV4.toNat * 4) (by omega) (fun _ => by simp) fun _ _ held =>
        ⟨_, rfl, runs_part ?_⟩
      obtain ⟨kind, count⟩ := head_setIpv4ListTlv smallV4 held
      simp only [kind, count]
      refine Runs.bind ((runs_getIpv4ListTlv smallV4 held (by omega)).cast rfl (by omega))
        ((Runs.pure _).cast ?_ rfl)
      simp only [Nat.zero_add]
  have second : Consumes memory buffer (processPackedPart array)
      (if numV6.toNat = 0 then .bytes []
        else setIpv6ListTlv (cellAddresses source numV4.toNat numV6.toNat))
      ({ numV4Tunnels := numV4, tunnelList := copyCells cells 0 source numV4.toNat }, numV4.toNat)
      (· = ({ numV4Tunnels := numV4, numV6Tunnels := numV6
              tunnelList := copyCells (copyCells cells 0 source numV4.toNat) numV4.toNat
                (fun offset => source (numV4.toNat + offset)) (4 * numV6.toNat) },
        numV4.toNat)) := by
    by_cases none : numV6.toNat = 0
    · have zero : numV6 = 0 := UInt16.toNat_inj.mp none
      rw [if_pos none]
      refine Consumes.nothing.weaken ?_
      rintro _ rfl
      simp [zero, copyCells_zero]
    · rw [if_neg none]
      refine .pass (4 + numV6.toNat * 16) (by omega) (fun _ => by simp) fun _ _ held =>
        ⟨_, rfl, runs_part ?_⟩
      obtain ⟨kind, count⟩ := head_setIpv6ListTlv smallV6 held
      simp only [kind, count]
      exact Runs.bind ((runs_getIpv6ListTlv smallV6 held room).cast rfl (by omega)) (Runs.pure _)
  refine first.append ?_
  exact second

/-- The cells read back for a packed list are those of the list, as far as it goes. -/
theorem clip_packed (cells source : Cells) (numV4 numV6 : Nat) :
    clip (numV4 + 4 * numV6) (copyCells (copyCells cells 0 source numV4) numV4
      (fun offset => source (numV4 + offset)) (4 * numV6)) =
        clip (numV4 + 4 * numV6) source := by
  refine clip_congr fun index inside => ?_
  unfold copyCells
  by_cases later : numV4 ≤ index
  · rw [if_pos ⟨later, inside⟩]
    exact congrArg source (Nat.add_sub_cancel' later)
  · rw [if_neg (by omega), if_pos (by omega)]
    rfl

/-- A packed list with nothing in it leaves nothing out. -/
theorem setPackedLists_unlessEmpty (message : Message) (cells : Cells) (numV4 numV6 : Nat)
    (counted : calcPktLen message = pktHdrLen + calcPackedListsLen numV4 numV6) :
    (if calcPktLen message = pktHdrLen then bytes [] else setPackedLists cells numV4 numV6) =
      setPackedLists cells numV4 numV6 := by
  split
  · next empty =>
    rw [counted] at empty
    unfold calcPackedListsLen at empty
    have noV4 : numV4 = 0 := by
      by_contra some
      rw [if_neg some] at empty
      omega
    have noV6 : numV6 = 0 := by
      by_contra some
      rw [if_neg some] at empty
      omega
    subst noV4 noV6
    rfl
  · rfl

/-- Packed addresses survive in the reply that carries them. -/
theorem arrives_packed {cells : Cells} {numV4 numV6 : UInt16} {body : Body} {array : Nat}
    (room : array + 4 * (numV4.toNat + 4 * numV6.toNat) ≤ maxBuffSz) (unsolicited : Bool)
    (wrap : PkdTunnelList → Body) (accepted : hdr.respStatus = 0)
    (fits : Message.Fits ⟨hdr, body⟩ outgoing)
    (sent : send ⟨hdr, body⟩ = some (setPktHdr body.type hdr (replyLen ⟨hdr, body⟩) ++
      if replyLen ⟨hdr, body⟩ = pktHdrLen then bytes []
      else setPackedLists cells numV4.toNat numV6.toNat))
    (counted : calcPktLen ⟨hdr, body⟩ = pktHdrLen + calcPackedListsLen numV4.toNat numV6.toNat)
    (routine : ∀ sender, process incoming sender body.type =
      processTlvs (processPackedPart array) ({ tunnelList := incoming.cells }, 0) fun hdr state =>
        if unsolicited then deliverAndAck ⟨hdr, wrap state.1⟩ else deliver ⟨hdr, wrap state.1⟩)
    (carried : ∀ read, clip (numV4.toNat + 4 * numV6.toNat) read =
        clip (numV4.toNat + 4 * numV6.toNat) cells →
      (wrap { numV4Tunnels := numV4, numV6Tunnels := numV6, tunnelList := read }).carried =
        body.carried) :
    Message.Arrives ⟨hdr, body⟩ outgoing incoming := by
  rw [replyLen_eq accepted, setPackedLists_unlessEmpty _ _ _ _ counted] at sent
  refine decodes_counted (processPackedPart array)
    (fun _ => ({ tunnelList := incoming.cells }, 0)) _ fits routine (fun memory sender => ?_) sent
    (by simp [counted, pktHdrLen])
  refine (consumes_packed room).weaken ?_
  rintro _ rfl
  cases unsolicited <;> exact handedOn rfl (by simp [accepted]) rfl (carried _ (clip_packed ..))

theorem arrives_internalGwReply {data : InternalGw} (accepted : hdr.respStatus = 0)
    (room : 52 + 4 * (data.numV4Gw.toNat + 4 * data.numV6Gw.toNat) ≤ maxBuffSz)
    (fits : Message.Fits ⟨hdr, .internalGwReply unsolicited data⟩ outgoing) :
    Message.Arrives ⟨hdr, .internalGwReply unsolicited data⟩ outgoing incoming :=
  arrives_packed room unsolicited (fun list =>
      .internalGwReply unsolicited ⟨list.numV4Tunnels, list.numV6Tunnels, list.tunnelList⟩)
    accepted fits rfl rfl (fun _ => by cases unsolicited <;> rfl)
    fun _ same => by simp [Body.carried, same]

theorem arrives_bcastListReply {data : PkdTunnelList} (accepted : hdr.respStatus = 0)
    (room : 56 + 4 * (data.numV4Tunnels.toNat + 4 * data.numV6Tunnels.toNat) ≤ maxBuffSz)
    (fits : Message.Fits ⟨hdr, .bcastListReply unsolicited data⟩ outgoing) :
    Message.Arrives ⟨hdr, .bcastListReply unsolicited data⟩ outgoing incoming :=
  arrives_packed room unsolicited (.bcastListReply unsolicited) accepted fits rfl rfl
    (fun _ => by cases unsolicited <;> rfl) fun _ same => by simp [Body.carried, same]

theorem arrives_gwList {kind : GwList} {tunnels : List TunnelEndpoint}
    (present : ∀ tunnel ∈ tunnels, tunnel.addr.Present) (accepted : hdr.respStatus = 0)
    (room : 52 + 28 * tunnels.length ≤ maxBuffSz)
    (fits : Message.Fits ⟨hdr, .gwList kind tunnels⟩ outgoing) :
    Message.Arrives ⟨hdr, .gwList kind tunnels⟩ outgoing incoming := by
  have length : replyLen ⟨hdr, .gwList kind tunnels⟩ = calcPktLen _ := replyLen_eq accepted
  have sent : send ⟨hdr, .gwList kind tunnels⟩ =
      some (packet kind.type hdr (setTunnelListTlv tunnels)) := by
    simp only [send, length, Body.type]
    by_cases empty : tunnels = [] <;> simp [calcPktLen, pktHdrLen, setTunnelListTlv, empty]
  have words := four_dvd_calcTunnelTlvLen tunnels
  have small := fits _ sent
  simp only [packet, List.length_append, length_setPktHdr, length_setTunnelListTlv,
    maxBuffSz] at small
  refine decodes_packet processGwListPart (fun _ => [])
    (fun hdr tunnels =>
      let message : Message := ⟨hdr, .gwList kind tunnels⟩
      if kind = .unsolicitedExternal ∨ kind = .unsolicitedVlan then deliverAndAck message
      else deliver message) fits ?_ (fun memory sender => ?_) sent (by simpa using words)
  · intro sender
    cases kind <;> rfl
  · refine .weaken (consumes_tunnels (fun tunnels => tunnels) rfl (by omega) room
      (chooses rfl fun _ _ => rfl)) ?_
    rintro _ rfl
    rw [presentTunnels_eq present]
    cases kind <;> exact handedOn rfl (by simp [accepted]) rfl rfl

theorem arrives_tunnelRegDereg {deregister : Bool} {data : TunnelRegDereg}
    (tunnels : ∀ tunnel ∈ data.tunnelInfo, tunnel.addr.Present)
    (client : data.dpsClientAddr.addr.Present) (accepted : hdr.respStatus = 0)
    (room : 76 + 28 * data.tunnelInfo.length ≤ maxBuffSz)
    (fits : Message.Fits ⟨hdr, .tunnelRegDereg deregister data⟩ outgoing) :
    Message.Arrives ⟨hdr, .tunnelRegDereg deregister data⟩ outgoing incoming := by
  have length : replyLen ⟨hdr, .tunnelRegDereg deregister data⟩ = calcPktLen _ :=
    replyLen_eq accepted
  have more : calcPktLen ⟨hdr, .tunnelRegDereg deregister data⟩ ≠ pktHdrLen := by
    simp [calcPktLen, pktHdrLen]
  have sent : send ⟨hdr, .tunnelRegDereg deregister data⟩ = some
      (packet (Body.tunnelRegDereg deregister data).type hdr
        (setTunnelListTlv data.tunnelInfo ++ setClientAddr data.dpsClientAddr)) := by
    simp only [send, length, more, ↓reduceIte]
  have words := four_dvd_calcTunnelTlvLen data.tunnelInfo
  have clientWords := four_dvd_calcClientAddrLen data.dpsClientAddr
  have small := fits _ sent
  simp only [packet, List.length_append, Setter.length_append, length_setPktHdr,
    length_setTunnelListTlv, maxBuffSz] at small
  refine decodes_packet processTunnelRegDeregPart (fun sender => { dpsClientAddr := sender })
    (fun hdr data => deliver ⟨hdr, .tunnelRegDereg deregister data⟩) fits ?_
    (fun memory sender => ?_) sent ?_
  rotate_right
  · simp only [Setter.length_append, length_setTunnelListTlv, length_setClientAddr]
    omega
  · intro sender
    cases deregister <;> rfl
  · have listed : Consumes memory outgoing processTunnelRegDeregPart
        (setTunnelListTlv data.tunnelInfo) { dpsClientAddr := sender }
        (· = { tunnelInfo := presentTunnels data.tunnelInfo, dpsClientAddr := sender }) :=
      .weaken (consumes_tunnels (fun tunnels => { tunnelInfo := tunnels, dpsClientAddr := sender })
        rfl (by omega) room (chooses rfl fun _ _ => rfl)) fun _ same => same
    refine listed.append ?_
    refine .weaken (consumes_client client (fun client =>
      { tunnelInfo := presentTunnels data.tunnelInfo, dpsClientAddr := client })
      (chooses rfl fun _ _ => rfl)) ?_
    rintro _ ⟨xportType, rfl⟩
    rw [presentTunnels_eq tunnels]
    exact handedOn rfl (by simp [accepted]) rfl rfl

theorem arrives_vmMigrationEvent {data : VmMigrationEvent}
    (address : data.migratedVmInfo.vmIpAddr.Present) (addressed : data.srcVmLoc.Addressed)
    (status : hdr.respStatus < 65536)
    (room : 128 + 28 * data.srcVmLoc.tunnelInfo.length ≤ maxBuffSz)
    (fits : Message.Fits ⟨hdr, .vmMigrationEvent data⟩ outgoing) :
    Message.Arrives ⟨hdr, .vmMigrationEvent data⟩ outgoing incoming := by
  have sent : send ⟨hdr, .vmMigrationEvent data⟩ = some (setPktHdr .vmMigrationEvent hdr
      (calcPktLen ⟨hdr, .vmMigrationEvent data⟩) ++ (setEndpointInfoTlv data.migratedVmInfo ++
        setEndpointLocReplyTlv data.srcVmLoc)) := by
    simp only [send, Body.type, append_assoc]
  have small := fits _ sent
  simp only [Setter.length_append, length_setPktHdr, length_setEndpointLocReplyTlv,
    maxBuffSz] at small
  refine decodes_counted processVmMigrationEventPart (fun _ => {})
    (fun hdr event => deliver ⟨hdr, .vmMigrationEvent event⟩) fits (fun _ => rfl)
    (fun memory sender => ?_) sent (by simp [calcPktLen, pktHdrLen, Nat.add_comm])
  refine (consumes_endpointInfo (fun info => { migratedVmInfo := info })
    (chooses rfl fun _ _ => rfl)).append ?_
  refine .weaken (consumes_location (by omega) room (fun reply =>
    { migratedVmInfo := data.migratedVmInfo.received, srcVmLoc := reply })
    (chooses rfl fun _ _ => rfl)) ?_
  rintro _ rfl
  rw [EndpointInfo.received_eq address, EndpointLocReply.received_eq addressed]
  exact handedOn rfl status rfl rfl

theorem arrives_vmLocInfo {data : Epri}
    (tunnels : ∀ tunnel ∈ data.tunnelInfo, tunnel.addr.Present)
    (status : hdr.respStatus < 65536) (roomy : data.Roomy)
    (fits : Message.Fits ⟨hdr, .vmLocInfo data⟩ outgoing) :
    Message.Arrives ⟨hdr, .vmLocInfo data⟩ outgoing incoming := by
  have words := four_dvd_calcTunnelTlvLen data.tunnelInfo
  have small := fits _ rfl
  simp only [packet, List.length_append, length_setPktHdr, length_setEpriTlv, maxBuffSz] at small
  refine decodes_packet processVmLocInfoPart (fun _ => {})
    (fun hdr epri => deliverAndAck ⟨hdr, .vmLocInfo epri⟩) fits (fun _ => rfl)
    (fun memory sender => ?_) rfl (by simp; omega)
  refine .weaken (consumes_epri (by unfold epriTlvLen; omega) roomy (fun epri => epri)
    (chooses rfl fun _ _ => rfl)) ?_
  rintro _ rfl
  rw [presentTunnels_eq tunnels]
  exact handedOn rfl status rfl rfl

end Families

/-- The messages about the location of endpoints, tunnels and gateways, with addresses
of family IPv4 or IPv6 throughout. -/
def Body.Addressed : Body → Prop
  | .endpointLocReq data => data.vmIpAddr.Present ∧ data.dpsClientAddr.addr.Present
  | .endpointLocReply _ data => data.Addressed
  | .endpointUpdate data =>
    data.vmIpAddr.Present ∧ (∀ tunnel ∈ data.tunnelInfo, tunnel.addr.Present) ∧
      data.dpsClientAddr.addr.Present
  | .policyReq data =>
    data.dstEndpoint.vmIpAddr.Present ∧ data.srcEndpoint.vmIpAddr.Present ∧
      data.dpsClientAddr.addr.Present
  | .tunnelRegDereg _ data =>
    (∀ tunnel ∈ data.tunnelInfo, tunnel.addr.Present) ∧ data.dpsClientAddr.addr.Present
  | .gwList _ tunnels => ∀ tunnel ∈ tunnels, tunnel.addr.Present
  | .bcastListReply _ _ | .internalGwReply _ _ => True
  | .vmMigrationEvent data =>
    data.migratedVmInfo.vmIpAddr.Present ∧ data.srcVmLoc.Addressed
  | .vmLocInfo data => ∀ tunnel ∈ data.tunnelInfo, tunnel.addr.Present
  | _ => False

/-- The messages whose content is sent only without an error status. -/
def Body.LeftOutOnError : Body → Prop
  | .endpointLocReply _ _ | .tunnelRegDereg _ _ | .gwList _ _ | .bcastListReply _ _
  | .internalGwReply _ _ => True
  | _ => False

/-- The receiver's buffer has room for the lists of a message. What is read into an array goes
behind the fixed part of the message's structure, and of the addresses of a virtual machine there
is a fixed number. -/
def Body.Roomy : Body → Prop
  | .endpointLocReply _ data => 92 + 28 * data.tunnelInfo.length ≤ maxBuffSz
  | .endpointUpdate data => 116 + 28 * data.tunnelInfo.length ≤ maxBuffSz
  | .internalGwReply _ data =>
    52 + 4 * (data.numV4Gw.toNat + 4 * data.numV6Gw.toNat) ≤ maxBuffSz
  | .bcastListReply _ data =>
    56 + 4 * (data.numV4Tunnels.toNat + 4 * data.numV6Tunnels.toNat) ≤ maxBuffSz
  | .gwList _ tunnels => 52 + 28 * tunnels.length ≤ maxBuffSz
  | .tunnelRegDereg _ data => 76 + 28 * data.tunnelInfo.length ≤ maxBuffSz
  | .vmMigrationEvent data => 128 + 28 * data.srcVmLoc.tunnelInfo.length ≤ maxBuffSz
  | .vmLocInfo data => data.Roomy
  | _ => True

/-- A buffer of zeros. -/
def Buffer.zero : Buffer := ⟨fun _ => 0, fun _ => {}, fun _ => 0⟩

/-- The location of an endpoint behind one tunnel of each family. -/
def twoTunnels : EndpointLocReply where
  vnid := 7
  vmIpAddr := .v4 167772161
  version := 3
  tunnelInfo := [⟨.v4 3232235777, 4789, 7, 1, 0⟩, ⟨.v6 fun _ => 32, 4789, 7, 1, 0⟩]

theorem twoTunnels_addressed : twoTunnels.Addressed := by
  refine ⟨trivial, fun tunnel member => ?_⟩
  simp only [twoTunnels, List.mem_cons, List.not_mem_nil, or_false] at member
  rcases member with rfl | rfl <;> trivial

/-- With an error status no location is sent, and an empty one is handed on. -/
theorem decodes_refused_location {outgoing : Memory} {incoming : Buffer}
    (refused : hdr.respStatus ≠ 0) :
    Message.Decodes ⟨hdr, .endpointLocReply false data⟩ outgoing incoming
      (· = deliver ⟨hdr.received, .endpointLocReply false {}⟩) := by
  have length : replyLen ⟨hdr, .endpointLocReply false data⟩ = pktHdrLen := if_neg refused
  have sent : send ⟨hdr, .endpointLocReply false data⟩ =
      some (setPktHdr .endpointLocReply hdr pktHdrLen ++ bytes []) := by
    simp only [send, length, Body.type, Bool.false_eq_true, ↓reduceIte]
  have fits : Message.Fits ⟨hdr, .endpointLocReply false data⟩ outgoing := by
    intro setter chosen
    obtain rfl := Option.some_inj.mp (sent.symm.trans chosen)
    simp [maxBuffSz]
  refine decodes_of_consumes processEndpointLocReplyPart (fun _ => {})
    (fun hdr reply => deliver ⟨hdr, .endpointLocReply false reply⟩) fits (fun _ => rfl)
    (fun memory sender => Consumes.nothing.weaken ?_) sent ?_ ?_
  · rintro _ rfl
    rfl
  · simp only [length_bytes, List.length_nil, Nat.add_zero, pktHdrLen, Body.type,
      Bool.false_eq_true, ↓reduceIte]
  · simp only [length_bytes, List.length_nil, dvd_zero]

end OpenDove.Dps
