import OpenDove.PacketSetters

/-!
# Declared and real lengths of packets

A packet is as long as what its setters wrote. Its header declares a length, which
most send routines take from the computation made ahead and the others from what
they wrote. The lengths agree setter by setter, except in three places: the hops of
a source routing policy are counted and never written, and the room set aside for a
list of gateways or for a tunnel registration is only an upper bound.

`sizes_agree_iff` puts this together for every message that has a send routine.
-/

namespace OpenDove.Dps

open Setter

section Parts

variable (buffer : Memory) (buff : Nat) (ver : UInt8) (cells : Cells) (policy : VnidPolicy)
  (type : TlvType) (first count : Nat)

@[simp] theorem length_setTlvHdr (len : Nat) : (setTlvHdr ver type len buffer buff).length = 4 := by
  simp [setTlvHdr]

@[simp] theorem length_setTlv (content : Setter) :
    (setTlv ver type content buffer buff).length = 4 + (content buffer (buff + 4)).length := by
  simp [setTlv]

@[simp] theorem length_setPktHdr (type : MsgType) (hdr : ClientHdr) (len : Nat) :
    (setPktHdr type hdr len buffer buff).length = 20 := by
  simp [setPktHdr]

@[simp] theorem length_setIp4Tlv (ip4 : UInt32) : (setIp4Tlv ip4 buffer buff).length = 8 := by
  simp [setIp4Tlv]

@[simp] theorem length_setIp6Tlv (ip6 : Octets 16) :
    (setIp6Tlv ip6 buffer buff).length = 20 := by
  simp [setIp6Tlv]

@[simp] theorem length_setVmacTlv (mac : Octets 6) :
    (setVmacTlv mac buffer buff).length = 12 := by
  simp [setVmacTlv]

@[simp] theorem length_setIpTlv (addr : IpAddr) :
    (setIpTlv addr buffer buff).length = ipAddrTlvLen addr := by
  cases addr <;> simp [setIpTlv, ipAddrTlvLen]

@[simp] theorem length_setEuidTlv (vnid : UInt32) (mac : Octets 6) :
    (setEuidTlv vnid mac buffer buff).length = 16 := by
  simp [setEuidTlv]

@[simp] theorem length_setClientAddr (client : ServiceLocation) :
    (setClientAddr client buffer buff).length = calcClientAddrLen client := by
  unfold setClientAddr setSvclocTlv calcClientAddrLen
  cases client.addr <;> simp

@[simp] theorem length_setTunnelInfo (tunnel : TunnelEndpoint) :
    (setTunnelInfo tunnel buffer buff).length = tunnelInfoLen tunnel := by
  unfold setTunnelInfo tunnelInfoLen
  cases tunnel.addr <;> simp

@[simp] theorem length_setTunnelListTlv (tunnels : List TunnelEndpoint) :
    (setTunnelListTlv tunnels buffer buff).length = calcTunnelTlvLen tunnels := by
  have written := length_each setTunnelInfo tunnelInfoLen
    (fun tunnel buffer buff => length_setTunnelInfo buffer buff tunnel) tunnels buffer (buff + 4)
  unfold setTunnelListTlv calcTunnelTlvLen
  split
  · next empty => simp [empty]
  · simp [written]

@[simp] theorem length_eachInt32 (words : List UInt32) :
    (each int32 words buffer buff).length = words.length * 4 := by
  simpa using length_each int32 (fun _ => 4) (fun word => length_int32 word) words buffer buff

@[simp] theorem length_eachOctets (values : List (Octets 16)) :
    (each octets values buffer buff).length = values.length * 16 := by
  simpa using length_each octets (fun _ => 16) (fun value => length_octets value) values buffer buff

@[simp] theorem length_setIpv4ListTlv (addresses : List UInt32) :
    (setIpv4ListTlv addresses buffer buff).length = 4 + addresses.length * 4 := by
  simp [setIpv4ListTlv]

@[simp] theorem length_setIpv6ListTlv (addresses : List (Octets 16)) :
    (setIpv6ListTlv addresses buffer buff).length = 4 + addresses.length * 16 := by
  simp [setIpv6ListTlv]

@[simp] theorem length_cellWords : (cellWords cells first count).length = count := by
  simp [cellWords]

@[simp] theorem length_cellAddresses : (cellAddresses cells first count).length = count := by
  simp [cellAddresses]

@[simp] theorem length_setPackedLists (numV4 numV6 : Nat) :
    (setPackedLists cells numV4 numV6 buffer buff).length = calcPackedListsLen numV4 numV6 := by
  unfold setPackedLists calcPackedListsLen
  split <;> split <;> simp

@[simp] theorem length_setIp4InfoTlv (infos : List Ip4Info) :
    (setIp4InfoTlv infos buffer buff).length = 4 + infos.length * 8 := by
  have written := length_each setIp4Info (fun _ => 8)
    (fun info buffer buff => by simp [setIp4Info]) infos buffer (buff + 4)
  simp [setIp4InfoTlv, written]

@[simp] theorem length_setIp6InfoTlv (infos : List Ip6Info) :
    (setIp6InfoTlv infos buffer buff).length = 4 + infos.length * 20 := by
  have written := length_each setIp6Info (fun _ => 20)
    (fun info buffer buff => by simp [setIp6Info]) infos buffer (buff + 4)
  simp [setIp6InfoTlv, written]

@[simp] theorem length_setEndpointInfoTlv (info : EndpointInfo) :
    (setEndpointInfoTlv info buffer buff).length = calcEndpointInfoTlvLen info := by
  unfold setEndpointInfoTlv calcEndpointInfoTlvLen ipAddrTlvLen
  cases info.vmIpAddr <;> simp

@[simp] theorem length_setPolicyIdTlv (policyId version ttl : UInt32) :
    (setPolicyIdTlv policyId version ttl buffer buff).length = 16 := by
  simp [setPolicyIdTlv]

@[simp] theorem length_setRule (rule : SrcDstVnid) : (setRule rule buffer buff).length = 8 := by
  simp [setRule]

@[simp] theorem length_eachRule (rules : List SrcDstVnid) :
    (each setRule rules buffer buff).length = rules.length * 8 := by
  have written := length_each setRule (fun _ => 8)
    (fun rule buffer buff => length_setRule buffer buff rule) rules buffer buff
  simp [written]

@[simp] theorem length_rulesFrom : (rulesFrom policy first count).length = count := by
  simp [rulesFrom]

@[simp] theorem length_setRuleGroup (action : UInt16) (rules : List SrcDstVnid) :
    (setRuleGroup action rules buffer buff).length =
      if rules.length = 0 then 0 else 4 + rules.length * 8 := by
  unfold setRuleGroup
  by_cases empty : rules = []
  · simp [empty]
  · have long : rules.length ≠ 0 := by simpa using empty
    simp [empty, long]

/-- What the content of a policy really takes behind the two heads before it. -/
def policyContentLen (policy : Policy) : Nat :=
  if policy.policyType = policyTypeConnectivity then calcPolicyLen policy else 4

@[simp] theorem length_setPolicyTypeTlv (policy : Policy) :
    (setPolicyTypeTlv policy buffer buff).length = 4 + policyContentLen policy := by
  unfold setPolicyTypeTlv policyContentLen calcPolicyLen
  by_cases connectivity : policy.policyType = policyTypeConnectivity
  · have noPermit : policy.vnidPolicy.numPermitRules = 0 ↔
        policy.vnidPolicy.numPermitRules.toNat = 0 := by
      rw [← UInt16.toNat_inj]
      simp
    have noDeny : policy.vnidPolicy.numDenyRules = 0 ↔
        policy.vnidPolicy.numDenyRules.toNat = 0 := by
      rw [← UInt16.toNat_inj]
      simp
    simp only [connectivity, ↓reduceIte, length_setTlv, length_append, length_bytes,
      List.length_cons, List.length_nil, length_int16, length_setRuleGroup, length_rulesFrom,
      noPermit, noDeny]
    split <;> split <;> omega
  · simp [connectivity]

@[simp] theorem length_setPolicyTlv (info : PolicyInfo) :
    (setPolicyTlv info buffer buff).length = 4 + 16 + 4 + policyContentLen info.dpsPolicy := by
  simp [setPolicyTlv]
  omega

@[simp] theorem length_setEndpointLocReplyTlv (reply : EndpointLocReply) :
    (setEndpointLocReplyTlv reply buffer buff).length = calcEndpointLocReplyTlvLen reply := by
  simp [setEndpointLocReplyTlv, calcEndpointLocReplyTlvLen]
  omega

@[simp] theorem length_setEndpointUpdateTlv (update : EndpointUpdate) :
    (setEndpointUpdateTlv update buffer buff).length =
      4 + 16 + 4 + ipAddrTlvLen update.vmIpAddr + calcTunnelTlvLen update.tunnelInfo := by
  simp [setEndpointUpdateTlv]
  omega

@[simp] theorem length_setEndpointUpdateReplyTlv (reply : EndpointUpdateReply) :
    (setEndpointUpdateReplyTlv reply buffer buff).length =
      4 + 16 + 4 + calcVipTlvLen reply.vmIpAddr + calcTunnelTlvLen reply.tunnelInfo := by
  unfold setEndpointUpdateReplyTlv calcVipTlvLen
  split <;> split <;> simp <;> omega

@[simp] theorem length_setBulkPolicyXfer :
    (setBulkPolicyXfer policy buffer buff).length =
      4 + (policy.numPermitRules.toNat + policy.numDenyRules.toNat) * 8 := by
  simp [setBulkPolicyXfer]
  omega

@[simp] theorem length_setMcastAddrTlv (addr : McastAddr) :
    (setMcastAddrTlv addr buffer buff).length = calcMcastAddrLen addr := by
  unfold setMcastAddrTlv calcMcastAddrLen
  cases addr.group <;> simp

/-- The bytes of a record of a switch list. -/
@[simp] theorem length_setVnidTunnelListTlv (list : PkdTunnelList) :
    (setVnidTunnelListTlv list buffer buff).length =
      8 + calcPackedListsLen list.numV4Tunnels.toNat list.numV6Tunnels.toNat := by
  simp [setVnidTunnelListTlv]
  omega

@[simp] theorem length_setMcastGrpRecTlv (groupRec : McastGroupRecord) :
    (setMcastGrpRecTlv groupRec buffer buff).length =
      4 + calcMcastAddrLen groupRec.mcastAddr + calcSourcesLen groupRec := by
  unfold setMcastGrpRecTlv calcSourcesLen
  split
  · simp
  · cases groupRec.family <;> simp <;> omega

@[simp] theorem length_setEpriTlv (epri : Epri) :
    (setEpriTlv epri buffer buff).length =
      4 + 16 + (4 + epri.vmIp4Addr.length * 8) + (4 + epri.vmIp6Addr.length * 20) +
        calcTunnelTlvLen epri.tunnelInfo := by
  simp [setEpriTlv]
  omega

end Parts

variable {len buff : Nat} {buffer : Memory} (tunnels : List TunnelEndpoint) (addr : IpAddr)
  (policy : Policy) (client : ServiceLocation)

section Words

/-! Every part is a whole number of 32-bit words. -/

theorem four_dvd_ipAddrTlvLen : 4 ∣ ipAddrTlvLen addr := by
  cases addr <;> norm_num [ipAddrTlvLen]

theorem four_dvd_calcVmIpAddrLen : 4 ∣ calcVmIpAddrLen addr := by
  cases addr <;> norm_num [calcVmIpAddrLen]

theorem four_dvd_calcClientAddrLen : 4 ∣ calcClientAddrLen client := by
  unfold calcClientAddrLen
  cases client.addr <;> norm_num

theorem four_dvd_tunnelInfoLen (tunnel : TunnelEndpoint) : 4 ∣ tunnelInfoLen tunnel := by
  unfold tunnelInfoLen
  cases tunnel.addr <;> norm_num

theorem four_dvd_calcTunnelTlvLen : 4 ∣ calcTunnelTlvLen tunnels := by
  have items : 4 ∣ (tunnels.map tunnelInfoLen).sum := by
    apply List.dvd_sum
    intro size member
    obtain ⟨tunnel, _, rfl⟩ := List.mem_map.mp member
    exact four_dvd_tunnelInfoLen tunnel
  unfold calcTunnelTlvLen
  split <;> omega

theorem four_dvd_calcEndpointLocReplyTlvLen (reply : EndpointLocReply) :
    4 ∣ calcEndpointLocReplyTlvLen reply := by
  have address := four_dvd_ipAddrTlvLen reply.vmIpAddr
  have tunnels := four_dvd_calcTunnelTlvLen reply.tunnelInfo
  unfold calcEndpointLocReplyTlvLen
  omega

theorem four_dvd_calcEndpointInfoTlvLen (info : EndpointInfo) :
    4 ∣ calcEndpointInfoTlvLen info := by
  have address := four_dvd_ipAddrTlvLen info.vmIpAddr
  unfold calcEndpointInfoTlvLen
  omega

theorem four_dvd_calcMcastAddrLen (addr : McastAddr) : 4 ∣ calcMcastAddrLen addr := by
  unfold calcMcastAddrLen
  cases addr.group <;> norm_num

theorem four_dvd_calcSourcesLen (groupRec : McastGroupRecord) :
    4 ∣ calcSourcesLen groupRec := by
  unfold calcSourcesLen
  split
  · omega
  · cases groupRec.family <;> dsimp only <;> omega

theorem four_dvd_calcPackedListsLen (numV4 numV6 : Nat) :
    4 ∣ calcPackedListsLen numV4 numV6 := by
  unfold calcPackedListsLen
  split <;> split <;> omega

theorem four_dvd_calcPolicyLen : 4 ∣ calcPolicyLen policy := by
  unfold calcPolicyLen
  split
  · split <;> split <;> omega
  · split
    · split <;> omega
    · omega

/-- The length computed ahead is a whole number of words. -/
theorem four_dvd_calcPktLen (message : Message) : 4 ∣ calcPktLen message := by
  have header : 4 ∣ pktHdrLen := by decide
  have vip (addresses : List IpAddr) : 4 ∣ calcVipTlvLen addresses := by
    unfold calcVipTlvLen
    split <;> split <;> omega
  unfold calcPktLen
  apply Nat.dvd_add header
  cases message.body with
  | endpointLocReq data | addrResolve data =>
    have address := four_dvd_calcVmIpAddrLen data.vmIpAddr
    have client := four_dvd_calcClientAddrLen data.dpsClientAddr
    dsimp only
    omega
  | endpointLocReply _ data => exact four_dvd_calcEndpointLocReplyTlvLen data
  | policyReq data =>
    have destination := four_dvd_calcEndpointInfoTlvLen data.dstEndpoint
    have source := four_dvd_calcEndpointInfoTlvLen data.srcEndpoint
    have client := four_dvd_calcClientAddrLen data.dpsClientAddr
    dsimp only
    omega
  | policyReply data =>
    have location := four_dvd_calcEndpointLocReplyTlvLen data.dstEndpointLocReply
    have policy := four_dvd_calcPolicyLen data.dpsPolicyInfo.dpsPolicy
    dsimp only
    split <;> omega
  | endpointUpdate data =>
    have address := four_dvd_ipAddrTlvLen data.vmIpAddr
    have tunnels := four_dvd_calcTunnelTlvLen data.tunnelInfo
    have client := four_dvd_calcClientAddrLen data.dpsClientAddr
    dsimp only
    omega
  | endpointUpdateReply data =>
    have addresses := vip data.vmIpAddr
    have tunnels := four_dvd_calcTunnelTlvLen data.tunnelInfo
    dsimp only
    omega
  | genMsgReq _ client => exact four_dvd_calcClientAddrLen client
  | internalGwReply _ data => exact four_dvd_calcPackedListsLen _ _
  | bcastListReply _ data => exact four_dvd_calcPackedListsLen _ _
  | vnidPolicyList _ data =>
    dsimp only
    omega
  | vmMigrationEvent data =>
    have location := four_dvd_calcEndpointLocReplyTlvLen data.srcVmLoc
    have migrated := four_dvd_calcEndpointInfoTlvLen data.migratedVmInfo
    dsimp only
    omega
  | mcastSender _ data =>
    have tunnel := four_dvd_ipAddrTlvLen data.tunnelEndpoint
    have source := four_dvd_calcEndpointInfoTlvLen data.mcastSrcVm
    have group := four_dvd_calcMcastAddrLen data.mcastAddr
    have client := four_dvd_calcClientAddrLen data.dpsClientAddr
    dsimp only
    omega
  | mcastReceiver _ data =>
    have tunnel := four_dvd_ipAddrTlvLen data.tunnelEndpoint
    have group := four_dvd_calcMcastAddrLen data.mcastGroupRec.mcastAddr
    have sources := four_dvd_calcSourcesLen data.mcastGroupRec
    have client := four_dvd_calcClientAddrLen data.dpsClientAddr
    dsimp only
    omega
  | gwList _ tunnels =>
    dsimp only
    split <;> omega
  | tunnelRegDereg _ data =>
    dsimp only
    split <;> omega
  | policyInvalidate | addrReply | mcastReceiverDsList _ | generalAck _ | getDcsNode
  | vmLocInfo _ => exact Nat.dvd_zero 4

/-- The records of a switch list take a whole number of words, however many of them
are written. -/
theorem four_dvd_setRecords (cells : Cells) (count first : Nat) (buffer : Memory) (buff : Nat) :
    4 ∣ (setRecords cells count first buffer buff).length := by
  induction count generalizing first buff with
  | zero => simp [setRecords]
  | succ count induction =>
    unfold setRecords
    split
    · simp
    · have packed := four_dvd_calcPackedListsLen (recordAt cells first).numV4Tunnels.toNat
        (recordAt cells first).numV6Tunnels.toNat
      have rest := induction (recordEnd cells first)
        (buff + (setVnidTunnelListTlv (recordAt cells first) buffer buff).length)
      simp only [length_append, length_setVnidTunnelListTlv] at rest ⊢
      omega

end Words

/-- The length field of a packet. -/
def lengthField (bytes : List UInt8) : UInt16 := getInt16 (fun index => bytes.getD index 0) 2

/-- The fields of a packet header, read back from where it lies. -/
theorem holds_setPktHdr {memory : Memory} {start : Nat} {type : MsgType} {hdr : ClientHdr}
    (held : Holds memory start (setPktHdr type hdr len buffer buff)) :
    memory (start + 1) = type.code ∧ getInt16 memory (start + 2) = hdrLen len ∧
      getInt32 memory (start + 4) = hdr.queryId ∧ getInt32 memory (start + 8) = hdr.vnid ∧
      getInt16 memory (start + 12) = hdr.subType.toUInt16 ∧
      getInt16 memory (start + 14) = hdr.respStatus.toUInt16 ∧
      memory (start + 16) = hdr.clientId ∧ memory (start + 17) = hdr.transactionType := by
  simp only [setPktHdr, Setter.append_apply, Setter.bytes, OpenDove.holds_append, holds_cons,
    holds_nil, length_setInt16, length_setInt32, List.length_append, List.length_cons,
    List.length_nil, Nat.add_assoc, Nat.reduceAdd, and_assoc, true_and] at held
  obtain ⟨_, code, length, query, vnid, subType, status, client, transaction, _⟩ := held
  exact ⟨code, getInt16_eq length, getInt32_eq query, getInt32_eq vnid, getInt16_eq subType,
    getInt16_eq status, client, transaction⟩

/-- The length field is the one the header was made with. -/
theorem lengthField_append (type : MsgType) (hdr : ClientHdr) (len : Nat) (buffer : Memory)
    (content : List UInt8) :
    lengthField (setPktHdr type hdr len buffer 0 ++ content) = hdrLen len := by
  have held := holds_ofList (setPktHdr type hdr len buffer 0 ++ content)
  exact (holds_setPktHdr ((OpenDove.holds_append _ _ _ _).mp held).1).2.1

/-- A whole number of words that fits sixteen bits is declared as it is. -/
theorem hdrLen_toNat (whole : 4 ∣ len) (long : 4 ≤ len) (fits : len < 65536) :
    (hdrLen len).toNat * 4 + 4 = len := by
  obtain ⟨words, rfl⟩ := whole
  have reduced : 4 * words % 65536 = 4 * words := Nat.mod_eq_of_lt fits
  have quotient : (((4 * words : Nat) : Int) - 4).tdiv 4 = ((words - 1 : Nat) : Int) := by
    have factored : ((4 * words : Nat) : Int) - 4 = ((words - 1 : Nat) : Int) * 4 := by omega
    rw [factored]
    exact Int.mul_tdiv_cancel _ (by decide)
  have small : words - 1 < 65536 := by omega
  unfold hdrLen
  rw [reduced, quotient]
  simp only [UInt16.toNat_ofNat']
  omega

/-- Content of the length still missing is written once. -/
theorem fillTo_once {content : Setter} (missing : buff < len)
    (exactly : buff + (content buffer buff).length = len) :
    fillTo len content len buffer buff = content buffer buff := by
  obtain ⟨count, rfl⟩ : ∃ count, len = count + 1 := ⟨len - 1, by omega⟩
  have done : fillTo (count + 1) content count buffer (count + 1) = [] := by
    cases count <;> simp [fillTo, Setter.bytes]
  have first : fillTo (count + 1) content (count + 1) buffer buff =
      (content ++ fillTo (count + 1) content count) buffer buff := if_pos missing
  rw [first, append_apply, exactly, done, List.append_nil]

/-- The bytes written are as many as computed ahead, where that is done, and as many
as the header declares. -/
def SizesAgree (message : Message) (written : List UInt8) : Prop :=
  (∀ len ∈ computedLen message, len = written.length) ∧
    (lengthField written).toNat * 4 + 4 = written.length

/-- A source routing policy has no hops, and a policy is of one of the two types. -/
def Policy.SizedExactly (policy : Policy) : Prop :=
  policy.policyType = policyTypeConnectivity ∨
    policy.policyType = policyTypeSourceRouting ∧ policy.sourceRouting.addressCount = 0

/-- An address of family IPv6. -/
def IpAddr.IsV6 (addr : IpAddr) : Prop := ∃ ip6, addr = .v6 ip6

/-- What a message must be like for its sizes to agree. A policy that is sent must have
its whole content written; tunnels and a location must take all of the room set
aside for them. -/
def Message.SizedExactly (message : Message) : Prop :=
  match message.body with
  | .policyReply data =>
    message.hdr.respStatus = 0 → data.dpsPolicyInfo.dpsPolicy.SizedExactly
  | .gwList _ tunnels =>
    message.hdr.respStatus = 0 → ∀ tunnel ∈ tunnels, tunnel.addr.IsV6
  | .tunnelRegDereg _ data =>
    message.hdr.respStatus = 0 →
      (∀ tunnel ∈ data.tunnelInfo, tunnel.addr.IsV6) ∧ data.dpsClientAddr.addr.IsV6
  | _ => True

section Agreement

variable {message : Message} {type : MsgType} {hdr : ClientHdr} {buffer : Memory}
  {content : Setter}

/-- A packet that declares the length computed ahead. -/
theorem agrees_ahead (computed : computedLen message = some len) (whole : 4 ∣ len)
    (long : 4 ≤ len) (fits : len < 65536) :
    SizesAgree message ((setPktHdr type hdr len ++ content) buffer 0) ↔
      len = 20 + (content buffer 20).length := by
  have declared : (lengthField ((setPktHdr type hdr len ++ content) buffer 0)).toNat * 4 + 4 =
      len := by
    rw [append_apply, lengthField_append]
    exact hdrLen_toNat whole long fits
  simp [SizesAgree, computed, declared]

/-- A packet that declares the length of what was written. -/
theorem agrees_packet (whole : 4 ∣ (content buffer 20).length)
    (fits : (packet type hdr content buffer 0).length < 65536) :
    SizesAgree message (packet type hdr content buffer 0) ↔
      ∀ len ∈ computedLen message, len = 20 + (content buffer 20).length := by
  have written : (packet type hdr content buffer 0).length = 20 + (content buffer 20).length := by
    simp [packet, pktHdrLen]
  have declared : (lengthField (packet type hdr content buffer 0)).toNat * 4 + 4 =
      20 + (content buffer 20).length := by
    have field : lengthField (packet type hdr content buffer 0) =
        hdrLen (20 + (content buffer 20).length) := by
      simp only [packet, lengthField_append, pktHdrLen, Nat.zero_add]
    rw [field]
    exact hdrLen_toNat (by omega) (by omega) (by omega)
  simp only [SizesAgree, written, declared, and_true]

/-- A reply whose content is left out with an error status, and is otherwise as long
as counted. -/
theorem agrees_reply (computed : computedLen message = some (replyLen message))
    (counted : calcPktLen message = 20 + (content buffer 20).length)
    (fits : calcPktLen message < 65536) :
    SizesAgree message ((setPktHdr type hdr (replyLen message) ++
      if replyLen message = pktHdrLen then bytes [] else content) buffer 0) := by
  have whole := four_dvd_calcPktLen message
  by_cases accepted : message.hdr.respStatus = 0
  · have length : replyLen message = calcPktLen message := by simp [replyLen, accepted]
    rw [agrees_ahead computed (by omega) (by omega) (by omega), length]
    split
    · next short => simpa [pktHdrLen] using short
    · exact counted
  · have length : replyLen message = pktHdrLen := by simp [replyLen, accepted]
    rw [agrees_ahead computed (by rw [length]; decide) (by rw [length]; decide)
      (by rw [length]; decide)]
    simp [length, pktHdrLen]

theorem tunnelInfosLen :
    (tunnels.map tunnelInfoLen).sum ≤ tunnels.length * 28 ∧
      (tunnels.length * 28 = (tunnels.map tunnelInfoLen).sum ↔
        ∀ tunnel ∈ tunnels, tunnel.addr.IsV6) := by
  induction tunnels with
  | nil => simp
  | cons tunnel tunnels induction =>
    obtain ⟨bounded, whenAll⟩ := induction
    rw [List.forall_mem_cons, ← whenAll]
    simp only [List.map_cons, List.sum_cons, List.length_cons, tunnelInfoLen, IpAddr.IsV6]
    cases tunnel.addr <;> simp <;> omega

/-- Tunnels take the room set aside for them exactly when all of them are IPv6. -/
theorem tunnelRoom_eq_iff :
    (if tunnels = [] then 0 else 4 + tunnels.length * 28) = calcTunnelTlvLen tunnels ↔
      ∀ tunnel ∈ tunnels, tunnel.addr.IsV6 := by
  rw [← (tunnelInfosLen tunnels).2, calcTunnelTlvLen]
  split
  · next empty => simp [empty]
  · omega

theorem tunnelRoom_ge :
    calcTunnelTlvLen tunnels ≤ if tunnels = [] then 0 else 4 + tunnels.length * 28 := by
  have items := (tunnelInfosLen tunnels).1
  unfold calcTunnelTlvLen
  split
  · next empty => simp [empty]
  · omega

theorem clientRoom :
    calcClientAddrLen client ≤ 24 ∧ (24 = calcClientAddrLen client ↔ client.addr.IsV6) := by
  unfold calcClientAddrLen IpAddr.IsV6
  cases client.addr <;> simp

/-- The content of a policy is as long as counted exactly when it is written whole. -/
theorem policyContentLen_eq_iff :
    calcPolicyLen policy = policyContentLen policy ↔ policy.SizedExactly := by
  unfold policyContentLen Policy.SizedExactly
  by_cases connectivity : policy.policyType = policyTypeConnectivity
  · simp [connectivity]
  · have hops : policy.sourceRouting.addressCount = 0 ↔
        policy.sourceRouting.addressCount.toNat = 0 := by
      rw [← UInt16.toNat_inj]
      simp
    by_cases routing : policy.policyType = policyTypeSourceRouting
    · have distinct : policyTypeSourceRouting ≠ policyTypeConnectivity := by decide
      simp only [calcPolicyLen, routing, distinct, ↓reduceIte, false_or, true_and, hops]
      split <;> omega
    · simp [calcPolicyLen, connectivity, routing]

end Agreement

/-- The declared, the computed and the real length of a packet agree exactly for the
messages whose content is written as it was counted. The cases follow the send
routines; what is left of each is an equation between two lengths. -/
theorem sizes_agree_iff (message : Message) (setter : Setter) (buffer : Memory)
    (sent : send message = some setter) (fits : (setter buffer 0).length < 65536)
    (computedFits : calcPktLen message < 65536) :
    SizesAgree message (setter buffer 0) ↔ message.SizedExactly := by
  obtain ⟨hdr, body⟩ := message
  have whole := four_dvd_calcPktLen ⟨hdr, body⟩
  have long : 20 ≤ calcPktLen ⟨hdr, body⟩ := Nat.le_add_right _ _
  cases body
  case policyInvalidate | addrReply | getDcsNode => simp [send] at sent
  case endpointUpdate data =>
    have more : calcPktLen ⟨hdr, .endpointUpdate data⟩ ≠ pktHdrLen := by
      simp [calcPktLen, pktHdrLen]
    simp only [send, more, ↓reduceIte, Option.some.injEq] at sent
    subst sent
    have content : 20 + ((setEndpointUpdateTlv data ++ setClientAddr data.dpsClientAddr)
        buffer 20).length = calcPktLen ⟨hdr, .endpointUpdate data⟩ := by
      simp [calcPktLen, pktHdrLen]
    rw [agrees_packet (by omega) fits, content]
    simp [Message.SizedExactly, computedLen]
  case endpointUpdateReply data =>
    have more : calcPktLen ⟨hdr, .endpointUpdateReply data⟩ ≠ pktHdrLen := by
      simp [calcPktLen, pktHdrLen]
    simp only [send, more, ↓reduceIte, Option.some.injEq] at sent
    subst sent
    rw [agrees_ahead rfl whole (by omega) computedFits]
    simp [Message.SizedExactly, calcPktLen, pktHdrLen]
  all_goals obtain rfl := Option.some.inj sent
  case endpointLocReq data | addrResolve data =>
    rw [agrees_ahead rfl whole (by omega) computedFits]
    cases address : data.vmIpAddr <;>
      simp [Message.SizedExactly, calcPktLen, pktHdrLen, setEndpointLocReqTlvs,
        calcVmIpAddrLen, address]
  case endpointLocReply _ data | internalGwReply _ data | bcastListReply _ data =>
    simp only [Message.SizedExactly, iff_true]
    exact agrees_reply rfl (by simp [calcPktLen, pktHdrLen]) computedFits
  case policyReq data =>
    rw [append_assoc, append_assoc, agrees_ahead rfl whole (by omega) computedFits]
    simp [Message.SizedExactly, calcPktLen, pktHdrLen, Nat.add_assoc]
  case policyReply data =>
    rw [agrees_ahead rfl whole (by omega) computedFits]
    by_cases accepted : hdr.respStatus = 0
    · simp only [Message.SizedExactly, calcPktLen, pktHdrLen, setPolicyReplyTlv, accepted,
        ↓reduceIte, length_append, length_setEndpointLocReplyTlv, length_setPolicyTlv,
        forall_const, ← policyContentLen_eq_iff]
      omega
    · simp [Message.SizedExactly, calcPktLen, pktHdrLen, setPolicyReplyTlv, accepted]
  case genMsgReq _ data | vnidPolicyList _ data =>
    rw [agrees_ahead rfl whole (by omega) computedFits]
    simp [Message.SizedExactly, calcPktLen, pktHdrLen]
  case vmMigrationEvent data =>
    rw [append_assoc, agrees_ahead rfl whole (by omega) computedFits]
    simp [Message.SizedExactly, calcPktLen, pktHdrLen, Nat.add_comm]
  case mcastSender _ data =>
    rw [agrees_ahead rfl whole (by omega) computedFits,
      fillTo_once (by simp [calcPktLen, pktHdrLen, calcMcastAddrLen])
        (by simp [calcPktLen, pktHdrLen])]
    simp [Message.SizedExactly, calcPktLen, pktHdrLen]
  case mcastReceiver _ data =>
    rw [agrees_ahead rfl whole (by omega) computedFits,
      fillTo_once (by simp [calcPktLen, pktHdrLen, calcMcastAddrLen])
        (by simp [calcPktLen, pktHdrLen]; omega)]
    simp [Message.SizedExactly, calcPktLen, pktHdrLen]
    omega
  case mcastReceiverDsList data =>
    have group := four_dvd_calcMcastAddrLen data.mcastAddr
    have records := four_dvd_setRecords data.mcastRecvrList data.numOfRec.toNat 0 buffer
      (20 + calcMcastAddrLen data.mcastAddr)
    rw [agrees_packet (by simp; omega) fits]
    simp [Message.SizedExactly, computedLen]
  case generalAck _ =>
    have declared : ∀ type, lengthField (setPktHdr type hdr pktHdrLen buffer 0) =
        hdrLen pktHdrLen := by
      intro type
      simpa using lengthField_append type hdr pktHdrLen buffer []
    simp [SizesAgree, Message.SizedExactly, computedLen, declared]
    decide
  case gwList _ tunnels =>
    have words := four_dvd_calcTunnelTlvLen tunnels
    rw [agrees_packet (by split <;> simp [words]) fits]
    by_cases accepted : hdr.respStatus = 0
    · by_cases empty : tunnels = []
      · simp [Message.SizedExactly, computedLen, replyLen, calcPktLen, pktHdrLen, empty]
      · have room := tunnelRoom_eq_iff tunnels
        simp only [empty, ↓reduceIte] at room
        simp [Message.SizedExactly, computedLen, replyLen, calcPktLen, pktHdrLen, accepted, empty,
          ← room]
    · simp [Message.SizedExactly, computedLen, replyLen, accepted, pktHdrLen]
  case tunnelRegDereg deregister data =>
    have words := four_dvd_calcTunnelTlvLen data.tunnelInfo
    have clientWords := four_dvd_calcClientAddrLen data.dpsClientAddr
    have content : ∀ short : Prop, [Decidable short] →
        4 ∣ ((if short then bytes [] else setTunnelListTlv data.tunnelInfo ++
          setClientAddr data.dpsClientAddr) buffer 20).length := by
      intro short _
      split
      · simp
      · simp only [length_append, length_setTunnelListTlv, length_setClientAddr]
        omega
    rw [agrees_packet (content _) fits]
    by_cases accepted : hdr.respStatus = 0
    · have more : replyLen ⟨hdr, .tunnelRegDereg deregister data⟩ ≠ pktHdrLen := by
        simp [replyLen, accepted, calcPktLen]
      have enough := tunnelRoom_ge data.tunnelInfo
      obtain ⟨clientEnough, clientExact⟩ := clientRoom data.dpsClientAddr
      simp only [more, ↓reduceIte, Message.SizedExactly, computedLen, Option.mem_def,
        Option.some.injEq, forall_eq', accepted, forall_const, ← tunnelRoom_eq_iff, ← clientExact]
      simp only [replyLen, accepted, ↓reduceIte, calcPktLen, pktHdrLen, length_append,
        length_setTunnelListTlv, length_setClientAddr]
      omega
    · simp [Message.SizedExactly, computedLen, replyLen, accepted, pktHdrLen]
  case vmLocInfo data =>
    have tunnels := four_dvd_calcTunnelTlvLen data.tunnelInfo
    rw [agrees_packet (by simp; omega) fits]
    simp [Message.SizedExactly, computedLen]

/-- A source routing policy over one hop, with an empty location. -/
def oneHop : PolicyReply where
  dpsPolicyInfo :=
    { policyId := 1, version := 1, ttl := 60
      dpsPolicy :=
        { version := 4, policyType := policyTypeSourceRouting
          vnidPolicy := { srcDstVnid := fun _ => {} }
          sourceRouting := { addressCount := 1, ipList := fun _ => 10 } } }

/-- A reply with this policy: the hop is counted and not written, so the computed
length is not the real one. -/
theorem oneHop_sizes_differ :
    ¬ ∀ (message : Message) (setter : Setter) (buffer : Memory), send message = some setter →
      (setter buffer 0).length < 65536 → calcPktLen message < 65536 →
        SizesAgree message (setter buffer 0) := by
  intro agree
  have agreed := agree ⟨⟨0, 1, 1, 7, 0, 3⟩, .policyReply oneHop⟩ _ (fun _ => 0) rfl (by decide)
    (by decide)
  have same := agreed.1 _ rfl
  revert same
  decide

/-- A list of one IPv6 gateway takes all of the room set aside for it. -/
theorem sizes_agree_ipv6_gateway :
    SizesAgree ⟨⟨0, 1, 1, 7, 0, 3⟩, .gwList .externalReply [⟨.v6 fun _ => 1, 4789, 7, 0, 0⟩]⟩
      (packet .externalGwListReply ⟨0, 1, 1, 7, 0, 3⟩
        (setTunnelListTlv [⟨.v6 fun _ => 1, 4789, 7, 0, 0⟩]) (fun _ => 0) 0) := by
  refine (sizes_agree_iff _ _ (fun _ => 0) rfl (by decide) (by decide)).mpr ?_
  intro _ tunnel member
  obtain rfl := List.mem_singleton.mp member
  exact ⟨_, rfl⟩

end OpenDove.Dps
