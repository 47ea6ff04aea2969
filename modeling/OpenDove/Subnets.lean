import OpenDove.Collection
import OpenDove.DirectoryFrames

/-!
# Subnet routines of domains and VNIDs

A VNID and its domain each keep a list of subnets. Adding a subnet to a VNID stores it in both
lists and announces its gateway. The first subnet of a VNID also sweeps the endpoints that were
there before it: an address outside the new subnet is taken away from its endpoint.

Two slips of the program shape the definitions. `get` never finds a subnet, so that every
addition writes and no deletion gets past its lookup. `flush` clears the list and then names a
variable that does not exist, so that it never returns.
-/

namespace OpenDove

/-- How a call ends when it does not return: it waits for a lock that nobody will release, or it
raises for a wrong number of arguments or for a name without a value. -/
inductive Fault where
  | blocked
  | typeError
  | nameError
  deriving DecidableEq, Repr

variable {other self : EndpointId} (dir : Directory) (list : IPSubnetList) (ipValue : UInt32)
  (state : Directory × DOVEStatus)

namespace IPSubnetList

/-- `lookup` of a virtual address. A byte string cannot be masked, and the exception is answered
with "not found". -/
def lookupIP (list : IPSubnetList) : IPValue → Option IPSubnet
  | .v4 value => list.lookup value
  | .v6 _ => none

/-- The address of the subnet that `lookup` reports, which is zero when it finds none. -/
def lookupSubnetIP (list : IPSubnetList) (value : IPValue) : UInt32 :=
  (list.lookupIP value).elim 0 IPSubnet.ipValue

/-- The status that `lookup` reports. -/
def lookupStatus (list : IPSubnetList) (value : IPValue) : DOVEStatus :=
  if (list.lookupIP value).isSome then .ok else .notFound

theorem lookupStatus_eq_ok (value : IPValue) :
    list.lookupStatus value = .ok ↔ (list.lookupIP value).isSome := by
  unfold lookupStatus
  split <;> simp_all

/-- Remove the subnet stored under an address and a mask. -/
def delete (list : IPSubnetList) (ipValue maskValue : UInt32) : IPSubnetList :=
  { pyList := list.pyList.erase (ipValue, maskValue), count := list.count - 1 }

/-- `flush`. The list is cleared before the return statement raises. -/
def flush (list : IPSubnetList) : IPSubnetList × Except Fault DOVEStatus :=
  (list.destroy, .error .nameError)

end IPSubnetList

/-! ## Sweeps over the addresses of a VNID -/

namespace Directory

/-- One address in the sweep of `DVG.ip_subnet_add`: it stays if the subnet it belongs to has the
address of the new one. The second component is `ret_val`. -/
def sweepAddress (list : IPSubnetList) (ipValue : UInt32) (self : EndpointId)
    (state : Directory × DOVEStatus) (vIP : VirtualIP) : Directory × DOVEStatus :=
  (if list.lookupSubnetIP vIP.ipValue = ipValue then state.1 else state.1.vIPDel self vIP,
    list.lookupStatus vIP.ipValue)

/-- One endpoint in the sweep of `DVG.ip_subnet_add`. -/
def sweepEndpoint (list : IPSubnetList) (ipValue : UInt32) (state : Directory × DOVEStatus)
    (self : EndpointId) : Directory × DOVEStatus :=
  (state.1.endpoint self).vIPSet.values.foldl (sweepAddress list ipValue self) state

/-- The sweep of `DVG.ip_subnet_add` over the endpoints of a VNID. -/
def sweep (dir : Directory) (list : IPSubnetList) (ipValue : UInt32) (status : DOVEStatus)
    (endpoints : List EndpointId) : Directory × DOVEStatus :=
  endpoints.foldl (sweepEndpoint list ipValue) (dir, status)

/-- One endpoint in the loop of `DVG.ip_subnet_delete`: the addresses of the subnet go. -/
def unsweepEndpoint (list : IPSubnetList) (ipValue : UInt32) (dir : Directory)
    (self : EndpointId) : Directory :=
  (dir.endpoint self).vIPSet.values.foldl (fun dir vIP =>
    if (list.lookupIP vIP.ipValue).isSome ∧ list.lookupSubnetIP vIP.ipValue = ipValue then
      dir.vIPDel self vIP
    else dir) dir

/-- The addresses of some endpoints, in the order in which a sweep looks at them. -/
def addresses (dir : Directory) (endpoints : List EndpointId) : List VirtualIP :=
  endpoints.flatMap fun endpoint => (dir.endpoint endpoint).vIPSet.values

theorem vIPDel_endpoint_of_ne (vIP : VirtualIP) (different : other ≠ self) :
    (dir.vIPDel self vIP).endpoint other = dir.endpoint other := by
  unfold vIPDel
  split
  · simp [modifyDvg, modifyDomain, modifyEndpoint, Function.update_of_ne different]
  · rfl

theorem sweepEndpoint_endpoint_of_ne (different : other ≠ self) :
    (sweepEndpoint list ipValue state self).1.endpoint other = state.1.endpoint other := by
  unfold sweepEndpoint
  refine List.foldlRecOn (motive := fun after : Directory × DOVEStatus =>
    after.1.endpoint other = state.1.endpoint other) _ _ rfl fun after same vIP _ => ?_
  unfold sweepAddress
  dsimp only
  split
  · exact same
  · rw [vIPDel_endpoint_of_ne _ _ different, same]

theorem sweepEndpoint_status (self : EndpointId) :
    (sweepEndpoint list ipValue state self).2 =
      (state.1.endpoint self).vIPSet.values.foldl
        (fun _ vIP => list.lookupStatus vIP.ipValue) state.2 :=
  (List.foldl_hom Prod.snd fun _ _ => rfl).symm

/-- The status of a sweep is that of the last address it looks at. A visit of one endpoint takes
addresses from that endpoint only, so that every endpoint still has its addresses when its
turn comes. -/
theorem sweep_status (status : DOVEStatus) {endpoints : List EndpointId}
    (distinct : endpoints.Nodup) :
    (dir.sweep list ipValue status endpoints).2 =
      (dir.addresses endpoints).foldl (fun _ vIP => list.lookupStatus vIP.ipValue) status := by
  suffices general : ∀ state : Directory × DOVEStatus,
      (endpoints.foldl (sweepEndpoint list ipValue) state).2 =
        (state.1.addresses endpoints).foldl (fun _ vIP => list.lookupStatus vIP.ipValue) state.2 from
    general (dir, status)
  induction endpoints with
  | nil => exact fun _ => rfl
  | cons self rest hypothesis =>
    intro state
    obtain ⟨fresh, distinct⟩ := List.nodup_cons.mp distinct
    have kept : (sweepEndpoint list ipValue state self).1.addresses rest =
        state.1.addresses rest := by
      refine List.flatMap_congr fun other member => ?_
      have different : other ≠ self := fun same => fresh (same ▸ member)
      rw [sweepEndpoint_endpoint_of_ne list ipValue state different]
    rw [List.foldl_cons, hypothesis distinct, kept, sweepEndpoint_status, addresses, addresses,
      List.flatMap_cons, List.foldl_append]

end Directory

namespace Collection

variable (s : Collection)

/-! ## Subnets of a domain -/

variable (domain : DomainId) (dvg : DvgId)

/-- `Domain.ip_subnet_add`. -/
def domainIpSubnetAdd (ipValue maskValue gateway : UInt32) (mode : SubnetMode) : Collection :=
  s.modifyDomain domain fun d =>
    { d with
      ipSubnetList := d.ipSubnetList.add ipValue maskValue gateway mode
      implicitGatewayIPListv4 := d.implicitGatewayIPListv4.add (.v4 gateway) }

/-- `Domain.ip_subnet_delete`. -/
def domainIpSubnetDelete (ipValue maskValue : UInt32) : Collection :=
  match (s.domain domain).ipSubnetList.get ipValue maskValue with
  | none => s
  | some subnet =>
    s.modifyDomain domain fun d =>
      { d with
        implicitGatewayIPListv4 := d.implicitGatewayIPListv4.remove (.v4 subnet.ipGateway)
        ipSubnetList := d.ipSubnetList.delete ipValue maskValue }

/-- `Domain.ip_subnet_flush`. -/
def domainIpSubnetFlush : Collection × Except Fault DOVEStatus :=
  let (list, ended) := (s.domain domain).ipSubnetList.flush
  (s.modifyDomain domain fun d => { d with ipSubnetList := list }, ended)

/-! ## Subnets of a VNID -/

/-- The endpoints of a VNID, in iteration order. -/
def dvgEndpoints : List EndpointId :=
  (s.directory.dvgTables dvg).endpointHashMAC.values

/-- What `DVG.ip_subnet_add` stores: the subnet and its gateway, here and in the domain. -/
def dvgIpSubnetStore (ipValue maskValue gateway : UInt32) (mode : SubnetMode) : Collection :=
  let s := s.modifyDvg dvg fun g =>
    { g with
      ipSubnetList := g.ipSubnetList.add ipValue maskValue gateway mode
      implicitGatewayIPListv4 := g.implicitGatewayIPListv4.add (.v4 gateway) }
  s.domainIpSubnetAdd (s.dvg dvg).domain ipValue maskValue gateway mode

/-- The loop of `DVG.ip_subnet_add` that the first subnet of a VNID runs. -/
def dvgIpSubnetSweep (ipValue : UInt32) (status : DOVEStatus) : Collection × DOVEStatus :=
  let (directory, status) :=
    s.directory.sweep (s.dvg dvg).ipSubnetList ipValue status (s.dvgEndpoints dvg)
  ({ s with directory }, status)

/-- `DVG.ip_subnet_add`. -/
def dvgIpSubnetAdd (ipValue maskValue gateway : UInt32) (mode : SubnetMode) :
    Collection × DOVEStatus :=
  let first := (s.dvg dvg).ipSubnetList.count = 0
  let finish (s : Collection) : Collection × DOVEStatus :=
    if first then s.dvgIpSubnetSweep dvg ipValue .ok else (s, .ok)
  match (s.dvg dvg).ipSubnetList.get ipValue maskValue with
  | some _ => finish s
  | none =>
    match (s.domain (s.dvg dvg).domain).ipSubnetList.get ipValue maskValue with
    | some subnet =>
      if subnet.mode ≠ mode ∨ subnet.ipGateway ≠ gateway then (s, .invalidParameter)
      else finish (s.dvgIpSubnetStore dvg ipValue maskValue gateway mode)
    | none => finish (s.dvgIpSubnetStore dvg ipValue maskValue gateway mode)

/-- `DVG.ip_subnet_delete`. Past the lookup it would name a module that is not imported. -/
def dvgIpSubnetDelete (ipValue maskValue : UInt32) : Collection × Except Fault DOVEStatus :=
  let s := s.onDirectory fun dir => (s.dvgEndpoints dvg).foldl
    (Directory.unsweepEndpoint (s.dvg dvg).ipSubnetList ipValue) dir
  match (s.dvg dvg).ipSubnetList.get ipValue maskValue with
  | none => (s, .ok .notFound)
  | some subnet =>
    let s := s.modifyDvg dvg fun g =>
      { g with
        implicitGatewayIPListv4 := g.implicitGatewayIPListv4.remove (.v4 subnet.ipGateway)
        ipSubnetList := g.ipSubnetList.delete ipValue maskValue }
    (s.domainIpSubnetDelete (s.dvg dvg).domain ipValue maskValue, .error .nameError)

/-- `DVG.ip_subnet_flush`. -/
def dvgIpSubnetFlush : Collection × Except Fault DOVEStatus :=
  let (list, ended) := (s.dvg dvg).ipSubnetList.flush
  (s.modifyDvg dvg fun g => { g with ipSubnetList := list }, ended)

/-! ## What the routines do to the rest -/

variable (dvg : DvgId)

/-- An addition always stores, since neither lookup finds anything. -/
theorem dvgIpSubnetAdd_eq (ipValue maskValue gateway : UInt32) (mode : SubnetMode) :
    s.dvgIpSubnetAdd dvg ipValue maskValue gateway mode =
      if (s.dvg dvg).ipSubnetList.count = 0 then
        (s.dvgIpSubnetStore dvg ipValue maskValue gateway mode).dvgIpSubnetSweep dvg ipValue .ok
      else (s.dvgIpSubnetStore dvg ipValue maskValue gateway mode, .ok) :=
  rfl

theorem dvgIpSubnetStore_list (ipValue maskValue gateway : UInt32)
    (mode : SubnetMode) :
    ((s.dvgIpSubnetStore dvg ipValue maskValue gateway mode).dvg dvg).ipSubnetList =
      (s.dvg dvg).ipSubnetList.add ipValue maskValue gateway mode := by
  simp [dvgIpSubnetStore, domainIpSubnetAdd, modifyDomain, modifyDvg]

/-- Storing a subnet leaves the transfers of all domains alone. -/
theorem dvgIpSubnetStore_massTransfer (ipValue maskValue gateway : UInt32)
    (mode : SubnetMode) (domain : DomainId) :
    ((s.dvgIpSubnetStore dvg ipValue maskValue gateway mode).domain domain).massTransfer =
      (s.domain domain).massTransfer := by
  dsimp only [dvgIpSubnetStore, domainIpSubnetAdd, modifyDomain, modifyDvg]
  rw [Function.update_apply]
  split
  · next same => rw [same]
  · rfl

/-- An addition to a VNID leaves the transfers of all domains alone. -/
theorem dvgIpSubnetAdd_massTransfer (ipValue maskValue gateway : UInt32)
    (mode : SubnetMode) (domain : DomainId) :
    ((s.dvgIpSubnetAdd dvg ipValue maskValue gateway mode).1.domain domain).massTransfer =
      (s.domain domain).massTransfer := by
  rw [dvgIpSubnetAdd_eq]
  split <;> exact s.dvgIpSubnetStore_massTransfer dvg ipValue maskValue gateway mode domain

/-- Every VNID lists its endpoints under their own MAC addresses. -/
def ListedByMAC : Prop :=
  ∀ dvg vMac endpoint, (s.directory.dvgTables dvg).findMAC vMac = some endpoint →
    (s.directory.endpoint endpoint).vMac = vMac

/-- The endpoints of a VNID are distinct when they are listed under their own MAC addresses. -/
theorem ListedByMAC.nodup {s : Collection} (listed : s.ListedByMAC) (dvg : DvgId) :
    (s.dvgEndpoints dvg).Nodup := by
  have keys := (s.directory.dvgTables dvg).endpointHashMAC.keys_nodup
  have named : (s.dvgEndpoints dvg).map (fun endpoint => (s.directory.endpoint endpoint).vMac) =
      (s.directory.dvgTables dvg).endpointHashMAC.keys := by
    simp only [dvgEndpoints, Dict.values, AList.keys, List.keys, List.map_map]
    refine List.map_congr_left fun entry member => ?_
    exact listed dvg entry.1 entry.2 (AList.mem_lookup_iff.mpr member)
  exact List.Nodup.of_map _ (named ▸ keys)

/-- The first subnet of a VNID answers with the status of the last address it swept, and every
other subnet with success. -/
theorem dvgIpSubnetAdd_status {s : Collection} (listed : s.ListedByMAC) (dvg : DvgId)
    (ipValue maskValue gateway : UInt32) (mode : SubnetMode) :
    (s.dvgIpSubnetAdd dvg ipValue maskValue gateway mode).2 = .ok ↔
      ((s.dvg dvg).ipSubnetList.count = 0 →
        ∀ vIP ∈ (s.directory.addresses (s.dvgEndpoints dvg)).getLast?,
          (((s.dvg dvg).ipSubnetList.add ipValue maskValue gateway mode).lookupIP
            vIP.ipValue).isSome) := by
  rw [dvgIpSubnetAdd_eq]
  split
  · next first =>
    have answer : ((s.dvgIpSubnetStore dvg ipValue maskValue gateway mode).dvgIpSubnetSweep dvg
        ipValue .ok).2 =
        (s.directory.sweep ((s.dvg dvg).ipSubnetList.add ipValue maskValue gateway mode) ipValue .ok
          (s.dvgEndpoints dvg)).2 := by
      dsimp only [dvgIpSubnetSweep]
      rw [dvgIpSubnetStore_list]
      rfl
    rw [answer, Directory.sweep_status _ _ _ _ (listed.nodup dvg)]
    simp only [first, forall_const]
    cases last : (s.directory.addresses (s.dvgEndpoints dvg)).getLast? with
    | none =>
      rw [List.getLast?_eq_none_iff.mp last]
      simp
    | some vIP =>
      obtain ⟨before, split⟩ := List.getLast?_eq_some_iff.mp last
      rw [split, List.foldl_append]
      simp [IPSubnetList.lookupStatus_eq_ok]
  · next more => simp [more]

end Collection

end OpenDove
