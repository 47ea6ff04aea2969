import Mathlib.Data.Fintype.Basic

/-!
# Tunnels of the gateway

The gateway deregisters the tunnels of a VNID that its service table no longer uses. The search for
external uses leaves out the multicast VNIDs, and when no VLAN map uses the VNID, the VNID that is
deregistered is read past the end of the VLAN maps, where the table has its first subnet.
-/

namespace OpenDove

/-- `DOVE_EXTERNAL_GATEWAY_AGENT_ID` and `DOVE_VLAN_GATEWAY_AGENT_ID`. -/
inductive GatewayAgent where
  | external
  | vlan
  deriving DecidableEq

/-- `dgwy_tunnel_info_t`; the address is always that of the gateway. -/
structure TunnelInfo where
  type : GatewayAgent
  vnid : UInt32

/-- An entry of `extipv4List` or of `extsharedVnidList`. -/
structure TenantVnid where
  vnid : UInt32
  tenantId : UInt32

/-- `MAX_EXTIPV4_ADDRESS`, `MAX_DOMIANS`, `MAX_DVMAP` and `MAX_EXT_VNIDS`, which are all the same. -/
abbrev maxDomains : Nat := 1024

/-- `MAX_VNID_SUBNETS`. -/
abbrev maxVnidSubnets : Nat := 32

/-- The lists of `dgwy_service_list_t` that name VNIDs. -/
structure ServiceTable where
  extipv4List : Fin maxDomains → TenantVnid
  dvList : Fin maxDomains → UInt32
  vnidSubnet : Fin maxVnidSubnets → UInt32
  extMcastVnids : Fin maxDomains → UInt32
  extsharedVnidList : Fin maxDomains → TenantVnid

namespace ServiceTable

variable (table : ServiceTable)

/-- The loop that sets `found` at the first entry with the id and leaves: the index at which it ends,
which is the size of the array if no entry has the id, and the flag. -/
def searchLoop {size : Nat} (entries : Fin size → UInt32) (id : UInt32) (found : Bool) :
    Nat × Bool :=
  let i := (List.finRange size).findIdx (entries · = id)
  (i, found || i < size)

/-- The word that `dvList[i].domain` reads. The structure is packed, so that behind the last map it
is the VNID of `vnid_subnet[0]`; no loop leaves a larger index. -/
def dvDomain (i : Nat) : UInt32 :=
  if inside : i < maxDomains then table.dvList ⟨i, inside⟩ else table.vnidSubnet 0

/-- `check_dregister_tunnel`, with the deregistrations that it sends. -/
def checkDregisterTunnel (vnid : UInt32) : List TunnelInfo :=
  let found := (searchLoop (fun i => (table.extipv4List i).vnid) vnid false).2
  let found := (searchLoop (fun i => (table.extsharedVnidList i).vnid) vnid found).2
  let external : List TunnelInfo := if found then [] else [⟨.external, vnid⟩]
  let (i, found) := searchLoop table.dvList vnid false
  external ++ if found then [] else [⟨.vlan, table.dvDomain i⟩]

/-- `is_vnid_empty_intenant`; the VNID is read before the first loop, at index 0. -/
def isVnidEmptyIntenant (tenantid : UInt32) : Bool × List TunnelInfo :=
  let vnid := (table.extipv4List 0).vnid
  let found := (searchLoop (fun i => (table.extipv4List i).tenantId) tenantid false).2
  let found := if found then found
    else (searchLoop (fun i => (table.extsharedVnidList i).tenantId) tenantid found).2
  (!found, table.checkDregisterTunnel vnid)

section Loops

variable {size : Nat} (entries : Fin size → UInt32) (id : UInt32)

theorem searchLoop_found (found : Bool) :
    (searchLoop entries id found).2 = (found || decide (∃ i, entries i = id)) := by
  have reached : (List.finRange size).findIdx (entries · = id) < size ↔ ∃ i, entries i = id := by
    have listed : ∀ p : Fin size → Bool,
        (List.finRange size).findIdx p < (List.finRange size).length ↔ _ :=
      fun p => List.findIdx_lt_length
    simpa using listed (entries · = id)
  simp only [searchLoop, reached]

/-- A loop that finds nothing leaves the index behind the last entry. -/
theorem searchLoop_index (absent : ¬∃ i, entries i = id) (found : Bool) :
    (searchLoop entries id found).1 = size := by
  have ended : (List.finRange size).findIdx (entries · = id) = (List.finRange size).length :=
    List.findIdx_eq_length_of_false fun i _ => decide_eq_false fun same => absent ⟨i, same⟩
  rw [searchLoop, ended, List.length_finRange]

end Loops

/-- The VLAN tunnel that is deregistered is the one of the first subnet. -/
theorem checkDregisterTunnel_eq (vnid : UInt32) : table.checkDregisterTunnel vnid =
    (if (∃ i, (table.extipv4List i).vnid = vnid) ∨ ∃ i, (table.extsharedVnidList i).vnid = vnid
      then [] else [⟨.external, vnid⟩]) ++
    if ∃ i, table.dvList i = vnid then [] else [⟨.vlan, table.vnidSubnet 0⟩] := by
  simp only [checkDregisterTunnel, searchLoop_found, Bool.false_or, Bool.or_eq_true,
    decide_eq_true_eq]
  by_cases used : ∃ i, table.dvList i = vnid
  · rw [if_pos used, if_pos used]
  · have behind : table.dvDomain (searchLoop table.dvList vnid false).1 = table.vnidSubnet 0 := by
      rw [searchLoop_index _ _ used, dvDomain, dif_neg (Nat.lt_irrefl _)]
    rw [if_neg used, if_neg used, behind]

/-- An entry of the table uses the VNID for a type of gateway. -/
def Uses : GatewayAgent → UInt32 → Prop
  | .external, vnid => (∃ i, (table.extipv4List i).vnid = vnid) ∨
      (∃ i, (table.extsharedVnidList i).vnid = vnid) ∨ ∃ i, table.extMcastVnids i = vnid
  | .vlan, vnid => ∃ i, table.dvList i = vnid

/-- VNIDs have 24 bits and are not zero. -/
def IsVnid (vnid : UInt32) : Prop :=
  0 < vnid ∧ vnid ≤ 0xFFFFFF

/-- The deregistered tunnel is in use. -/
def InUse (info : TunnelInfo) : Prop :=
  IsVnid info.vnid ∧ table.Uses info.type info.vnid

/-- Only the VNID is deregistered, and not while it is in use, exactly if the multicast VNIDs are not
the only external use of it, and a VLAN map uses it or it happens to be that of the first subnet. -/
theorem checkDregisterTunnel_iff (vnid : UInt32) :
    (∀ info ∈ table.checkDregisterTunnel vnid, info.vnid = vnid ∧ ¬table.InUse info) ↔
    ((∃ i, (table.extipv4List i).vnid = vnid) ∨ (∃ i, (table.extsharedVnidList i).vnid = vnid) ∨
      ¬(IsVnid vnid ∧ ∃ i, table.extMcastVnids i = vnid)) ∧
    ((∃ i, table.dvList i = vnid) ∨ table.vnidSubnet 0 = vnid) := by
  rw [checkDregisterTunnel_eq, List.forall_mem_append, ← or_assoc]
  refine and_congr ?_ ?_
  · split
    · next used => simp [used]
    · next unused =>
      rw [or_iff_right unused]
      simp [InUse, Uses, not_or.mp unused]
  · split
    · next used => simp [used]
    · next unused =>
      rw [or_iff_right unused, List.forall_mem_singleton, and_iff_left_of_imp]
      intro same used
      exact unused (same ▸ used.2)

/-- The VNID of the first external address is in use, so that only VLAN tunnels are deregistered. -/
theorem isVnidEmptyIntenant_iff (tenantid : UInt32) :
    (∀ info ∈ (table.isVnidEmptyIntenant tenantid).2, ¬table.InUse info) ↔
    (∃ i, table.dvList i = (table.extipv4List 0).vnid) ∨
      ¬(IsVnid (table.vnidSubnet 0) ∧ ∃ i, table.dvList i = table.vnidSubnet 0) := by
  change (∀ info ∈ table.checkDregisterTunnel (table.extipv4List 0).vnid, ¬table.InUse info) ↔ _
  rw [checkDregisterTunnel_eq, if_pos (.inl ⟨0, rfl⟩), List.nil_append]
  split
  · next used => simp [used]
  · next unused =>
    rw [or_iff_right unused, List.forall_mem_singleton]
    rfl

/-- When only unused tunnels are deregistered, by the check for a VNID and by the question for a
tenant. -/
theorem only_unused_deregistered_iff (vnid tenantid : UInt32) :
    ((∀ info ∈ table.checkDregisterTunnel vnid, info.vnid = vnid ∧ ¬table.InUse info) ∧
      ∀ info ∈ (table.isVnidEmptyIntenant tenantid).2, ¬table.InUse info) ↔
    (((∃ i, (table.extipv4List i).vnid = vnid) ∨ (∃ i, (table.extsharedVnidList i).vnid = vnid) ∨
        ¬(IsVnid vnid ∧ ∃ i, table.extMcastVnids i = vnid)) ∧
      ((∃ i, table.dvList i = vnid) ∨ table.vnidSubnet 0 = vnid)) ∧
    ((∃ i, table.dvList i = (table.extipv4List 0).vnid) ∨
      ¬(IsVnid (table.vnidSubnet 0) ∧ ∃ i, table.dvList i = table.vnidSubnet 0)) :=
  and_congr (table.checkDregisterTunnel_iff vnid) (table.isVnidEmptyIntenant_iff tenantid)

/-- A VNID that only multicast uses loses its tunnel, and so does the VLAN map of another VNID. -/
theorem tunnels_in_use_are_deregistered :
    ∃ table : ServiceTable, ∃ info ∈ table.checkDregisterTunnel 5, info.vnid = 5 ∧ table.InUse info ∧
      ∃ other ∈ table.checkDregisterTunnel 5, other.vnid ≠ 5 ∧ table.InUse other := by
  refine ⟨⟨fun _ => ⟨0, 0⟩, fun _ => 7, fun _ => 7, fun _ => 5, fun _ => ⟨0, 0⟩⟩, ⟨.external, 5⟩,
    ?_, rfl, ?_, ⟨.vlan, 7⟩, ?_, ?_⟩ <;> simp [checkDregisterTunnel_eq, InUse, IsVnid, Uses]

end ServiceTable

end OpenDove
