import Mathlib.Data.List.Induction

/-!
# Tunnel endpoints of the switch agent

The first packet of a VNID that a switch does not know makes the agent register the host of the
switch as a tunnel endpoint of the VNID. The destruction of the switch takes the endpoints back, with
the address of the host in the other byte order. The host of the agent is little-endian.
-/

namespace OpenDove

/-- `struct tunnel_ep`. -/
structure TunnelEp where
  pIP : UInt32
  vnid : UInt32

/-- What is read of a packet-in message; the tunnel id is in host order. -/
structure PacketIn where
  decoded : Bool
  noMatch : Bool
  reg0 : UInt32
  inPort : UInt16
  tunId : UInt64

/-- The part of `struct dove_switch` that the tunnel endpoints use. The address of the host is in
network order. -/
structure DoveSwitch where
  dovePort : UInt16
  host : UInt32
  eps : List TunnelEp

/-- `DPS_TUNNEL_REGISTER` and `DPS_TUNNEL_DEREGISTER`, with the address in host order. -/
inductive TunnelMsg where
  | register (pIP vnid : UInt32)
  | deregister (pIP vnid : UInt32)
  deriving DecidableEq

/-- `MAX_TUNNEL_EP`. -/
def maxTunnelEp : Nat := 128

namespace DoveSwitch

def ntohl (value : UInt32) : UInt32 :=
  let mask : UInt32 := 0xff00
  value <<< 24 ||| (value &&& mask) <<< 8 ||| (value >>> 8) &&& mask ||| value >>> 24

def registerTunnel (pIP vnid : UInt32) (on : Bool) : TunnelMsg :=
  if on then .register pIP vnid else .deregister pIP vnid

variable (sw : DoveSwitch)

/-- The domain and the group of a packet. -/
def extractIds (pi : PacketIn) : Option (UInt32 × UInt32) :=
  if pi.reg0 ≠ 0 then some (123, pi.reg0)
  else if pi.inPort = sw.dovePort ∧ pi.tunId ≠ 0 then some (0, pi.tunId.toUInt32)
  else none

def knownTunnelEp (vnid : UInt32) : Bool :=
  sw.eps.any fun ep => ep.pIP = sw.host ∧ ep.vnid = vnid

/-- The agent exits if there is no room. -/
def addTunnelEp (vnid : UInt32) : Option DoveSwitch :=
  if sw.eps.length < maxTunnelEp then some { sw with eps := sw.eps ++ [⟨sw.host, vnid⟩] } else none

/-- The VNID that a packet brings in. -/
def vnidOf (pi : PacketIn) : Option UInt32 :=
  if pi.decoded ∧ pi.noMatch then (sw.extractIds pi).map Prod.snd else none

/-- `process_packet_in` up to the registration, with the messages of it. -/
def processPacketIn (pi : PacketIn) : Option (DoveSwitch × List TunnelMsg) :=
  match sw.vnidOf pi with
  | none => some (sw, [])
  | some groupID =>
    if sw.knownTunnelEp groupID then some (sw, [])
    else (sw.addTunnelEp groupID).map fun sw =>
      (sw, [registerTunnel (ntohl sw.host) groupID true])

/-- Packets, one after the other. -/
def processPackets (packets : List PacketIn) : Option (DoveSwitch × List TunnelMsg) :=
  packets.foldlM (fun (sw, sent) pi =>
    (sw.processPacketIn pi).map fun (sw, more) => (sw, sent ++ more)) (sw, [])

/-- `dswitch_destroy`. -/
def dswitchDestroy : List TunnelMsg :=
  sw.eps.map fun ep => registerTunnel sw.host ep.vnid false

/-- The VNIDs of packets in the order in which they first occur. -/
def newVnids (packets : List PacketIn) : List UInt32 :=
  (packets.filterMap sw.vnidOf).eraseDups

/-- A switch that knows the VNIDs of a list. -/
def knowing (vnids : List UInt32) : DoveSwitch :=
  { sw with eps := vnids.map fun vnid => ⟨sw.host, vnid⟩ }

theorem newVnids_concat (packets : List PacketIn) (pi : PacketIn) :
    sw.newVnids (packets ++ [pi]) = sw.newVnids packets ++
      (sw.vnidOf pi).toList.filter (· ∉ sw.newVnids packets) := by
  cases brought : sw.vnidOf pi with
  | none => simp [newVnids, brought]
  | some vnid =>
    simp only [newVnids, List.filterMap_append, List.eraseDups_append, List.mem_eraseDups]
    by_cases known : vnid ∈ packets.filterMap sw.vnidOf
    · simp_all [List.removeAll]
    · simp_all [List.removeAll, List.eraseDups_cons]

/-- A packet registers the VNID that it brings in if the switch does not know it. -/
theorem processPacketIn_knowing {vnids : List UInt32} (pi : PacketIn)
    (room : (vnids ++ (sw.vnidOf pi).toList.filter (· ∉ vnids)).length ≤ maxTunnelEp) :
    (sw.knowing vnids).processPacketIn pi =
      some (sw.knowing (vnids ++ (sw.vnidOf pi).toList.filter (· ∉ vnids)),
        ((sw.vnidOf pi).toList.filter (· ∉ vnids)).map (.register (ntohl sw.host))) := by
  have same : (sw.knowing vnids).vnidOf pi = sw.vnidOf pi := rfl
  unfold processPacketIn
  rw [same]
  cases brought : sw.vnidOf pi with
  | none => simp
  | some vnid =>
    have known : (sw.knowing vnids).knownTunnelEp vnid = decide (vnid ∈ vnids) := by
      rw [Bool.eq_iff_iff]
      simp [knowing, knownTunnelEp]
    by_cases listed : vnid ∈ vnids
    · simp [known, listed]
    · have added : (sw.vnidOf pi).toList.filter (· ∉ vnids) = [vnid] := by simp [brought, listed]
      have free : (sw.knowing vnids).eps.length < maxTunnelEp := by
        rw [added, List.length_append] at room
        rw [knowing, List.length_map]
        exact room
      dsimp only
      rw [known, decide_eq_false listed, addTunnelEp, if_pos free]
      simp [listed, knowing, registerTunnel]

/-- Packets register the VNIDs that they bring in, each once. -/
theorem processPackets_eq (packets : List PacketIn)
    (few : (sw.newVnids packets).length ≤ maxTunnelEp) :
    (sw.knowing []).processPackets packets = some (sw.knowing (sw.newVnids packets),
      (sw.newVnids packets).map (.register (ntohl sw.host))) := by
  induction packets using List.reverseRecOn with
  | nil => rfl
  | append_singleton packets pi ih =>
    rw [newVnids_concat] at few ⊢
    have earlier := ih (by simp at few; omega)
    unfold processPackets at earlier ⊢
    rw [List.foldlM_append, earlier]
    simp [sw.processPacketIn_knowing pi few]

/-- The pairs that are deregistered are those that were registered exactly if no VNID came in or the
address of the host is the same in both byte orders. At every time the registered VNIDs are those
that came in so far, each once. -/
theorem deregistered_iff (packets : List PacketIn) (created : sw.eps = [])
    (few : (sw.newVnids packets).length ≤ maxTunnelEp) :
    (∀ first, first <+: packets → ∃ after, sw.processPackets first = some (after,
      (sw.newVnids first).map (.register (ntohl sw.host)))) ∧
    ∃ after sent, sw.processPackets packets = some (after, sent) ∧
      ((∀ pIP vnid, .deregister pIP vnid ∈ after.dswitchDestroy ↔ .register pIP vnid ∈ sent) ↔
        sw.newVnids packets = [] ∨ ntohl sw.host = sw.host) := by
  obtain ⟨dovePort, host, _⟩ := sw
  subst created
  set sw : DoveSwitch := ⟨dovePort, host, []⟩
  refine ⟨fun first ⟨rest, whole⟩ => ⟨_, sw.processPackets_eq first ?_⟩, _, _,
    sw.processPackets_eq packets few, ?_⟩
  · rw [← whole, newVnids, List.filterMap_append, List.eraseDups_append, List.length_append] at few
    exact Nat.le_of_add_right_le few
  · cases brought : sw.newVnids packets with
    | nil => simp [knowing, dswitchDestroy]
    | cons vnid vnids =>
      simp only [dswitchDestroy, knowing, registerTunnel, List.map_map, List.mem_map,
        Function.comp_apply, Bool.false_eq_true, if_false, TunnelMsg.deregister.injEq,
        TunnelMsg.register.injEq, reduceCtorEq, false_or]
      constructor
      · intro same
        obtain ⟨_, -, swapped, -⟩ :=
          (same sw.host vnid).mp ⟨vnid, List.mem_cons_self, rfl, rfl⟩
        exact swapped
      · intro same
        simp [same]

/-- Two packets of one VNID at a host whose address reads the same from both ends. -/
theorem palindromic_host_deregisters :
    ∃ after sent, (⟨1, 0x0a00000a, []⟩ : DoveSwitch).processPackets
        [⟨true, true, 7, 2, 0⟩, ⟨true, true, 7, 2, 0⟩] = some (after, sent) ∧
      ∀ pIP vnid, .deregister pIP vnid ∈ after.dswitchDestroy ↔ .register pIP vnid ∈ sent := by
  obtain ⟨after, sent, ran, same⟩ := (deregistered_iff ⟨1, 0x0a00000a, []⟩
    [⟨true, true, 7, 2, 0⟩, ⟨true, true, 7, 2, 0⟩] rfl (by decide)).2
  exact ⟨after, sent, ran, same.mpr (.inr (by decide))⟩

/-- The host 10.0.0.1 is registered for a VNID, and it is not the one that is deregistered. -/
theorem another_host_is_deregistered :
    ∃ after, (⟨1, 0x0100000a, []⟩ : DoveSwitch).processPackets [⟨true, true, 7, 2, 0⟩] =
        some (after, [.register 0x0a000001 7]) ∧ .deregister 0x0a000001 7 ∉ after.dswitchDestroy :=
  ⟨⟨1, 0x0100000a, [⟨0x0100000a, 7⟩]⟩, rfl, by decide⟩

end DoveSwitch

end OpenDove
