import OpenDove.Directory

/-!
# What the directory routines change

For every routine on the directory, one equation for each thing a later proof reads: the
attributes of an endpoint, the addresses it holds, and the entries of the tables. The
invariants are proved from these equations and never unfold a routine.
-/

namespace OpenDove.Directory

/-- The conflicts, the expiration queue and the counter are as before. -/
@[simp] abbrev SameQueues (dir after : Directory) : Prop :=
  after.conflicts = dir.conflicts ∧ after.conflictRequests = dir.conflictRequests ∧
    after.expirationQueue = dir.expirationQueue ∧ after.endpointsCount = dir.endpointsCount

/-- What lies outside the endpoints and the tables of domains and VNIDs is as before. -/
@[simp] abbrev SameRest (dir after : Directory) : Prop :=
  after.nextEndpoint = dir.nextEndpoint ∧ after.tunnelMAC = dir.tunnelMAC ∧ SameQueues dir after

/-- The endpoints and the tables of domains and VNIDs are as before. -/
@[simp] abbrev SameMaps (dir after : Directory) : Prop :=
  after.endpoint = dir.endpoint ∧ after.nextEndpoint = dir.nextEndpoint ∧
    after.domainTables = dir.domainTables ∧ after.dvgTables = dir.dvgTables

/-! ## Single writes -/

section Writes

variable (dir : Directory) (dvg : DvgId) (tunnel : TunnelId) (self : EndpointId)
  (domain other : DomainId) (table : Dict IPValue ConflictDetectionvIP)
  (change : EndpointTables → EndpointTables)

@[simp] theorem modifyEndpoint_endpoint (other : EndpointId) (change : Endpoint → Endpoint) :
    (dir.modifyEndpoint self change).endpoint other =
      if other = self then change (dir.endpoint self) else dir.endpoint other :=
  Function.update_apply ..

@[simp] theorem modifyDomain_domainTables :
    (dir.modifyDomain domain change).domainTables other =
      if other = domain then change (dir.domainTables domain) else dir.domainTables other :=
  Function.update_apply ..

@[simp] theorem modifyDvg_dvgTables (other : DvgId) (change : EndpointTables → EndpointTables) :
    (dir.modifyDvg dvg change).dvgTables other =
      if other = dvg then change (dir.dvgTables dvg) else dir.dvgTables other :=
  Function.update_apply ..

@[simp] theorem setTunnelMAC_tunnelMAC (other : TunnelId) (table : Dict Mac EndpointId) :
    (dir.setTunnelMAC tunnel table).tunnelMAC other =
      if other = tunnel then table else dir.tunnelMAC other :=
  Function.update_apply ..

@[simp] theorem setConflicts_conflicts :
    (dir.setConflicts domain table).conflicts other =
      if other = domain then table else dir.conflicts other :=
  Function.update_apply ..

/-- Assigning to an endpoint leaves the tables and queues alone. -/
@[simp] theorem modifyEndpoint_frame (change : Endpoint → Endpoint) :
    let after := dir.modifyEndpoint self change
    after.nextEndpoint = dir.nextEndpoint ∧ after.domainTables = dir.domainTables ∧
      after.dvgTables = dir.dvgTables ∧ after.tunnelMAC = dir.tunnelMAC ∧
      SameQueues dir after :=
  ⟨rfl, rfl, rfl, rfl, rfl, rfl, rfl, rfl⟩

/-- Writing to the tables of a domain changes nothing else. -/
@[simp] theorem modifyDomain_frame :
    let after := dir.modifyDomain domain change
    after.endpoint = dir.endpoint ∧ after.nextEndpoint = dir.nextEndpoint ∧
      after.dvgTables = dir.dvgTables ∧ after.tunnelMAC = dir.tunnelMAC ∧
      SameQueues dir after :=
  ⟨rfl, rfl, rfl, rfl, rfl, rfl, rfl, rfl⟩

/-- Writing to the tables of a VNID changes nothing else. -/
@[simp] theorem modifyDvg_frame :
    let after := dir.modifyDvg dvg change
    after.endpoint = dir.endpoint ∧ after.nextEndpoint = dir.nextEndpoint ∧
      after.domainTables = dir.domainTables ∧ after.tunnelMAC = dir.tunnelMAC ∧
      SameQueues dir after :=
  ⟨rfl, rfl, rfl, rfl, rfl, rfl, rfl, rfl⟩

/-- Replacing the table of a tunnel changes nothing else. -/
@[simp] theorem setTunnelMAC_frame (table : Dict Mac EndpointId) :
    let after := dir.setTunnelMAC tunnel table
    SameMaps dir after ∧ SameQueues dir after :=
  ⟨⟨rfl, rfl, rfl, rfl⟩, rfl, rfl, rfl, rfl⟩

/-- Replacing the conflicts of a domain changes nothing else. -/
@[simp] theorem setConflicts_frame :
    let after := dir.setConflicts domain table
    SameMaps dir after ∧ after.tunnelMAC = dir.tunnelMAC ∧
      after.conflictRequests = dir.conflictRequests ∧
      after.expirationQueue = dir.expirationQueue ∧ after.endpointsCount = dir.endpointsCount :=
  ⟨⟨rfl, rfl, rfl, rfl⟩, rfl, rfl, rfl, rfl⟩

end Writes

/-! ## Adding and removing a virtual address -/

section Addresses

variable (dir : Directory) (self : EndpointId) (vIP : VirtualIP) (dvg : DvgId) (other : EndpointId)
  (domain : DomainId)

/-- `vIP_add` changes no attribute of any endpoint. -/
@[simp] theorem vIPAdd_core :
    ((dir.vIPAdd self vIP).endpoint other).toEndpointCore =
      (dir.endpoint other).toEndpointCore := by
  by_cases same : other = self
  · subst same
    simp only [vIPAdd, modifyEndpoint_endpoint, modifyDvg_frame, modifyDomain_frame, if_true]
    split <;> rfl
  · simp [vIPAdd, same]

/-- `vIP_add` gives the endpoint the address. -/
@[simp] theorem vIPAdd_vIPSet :
    ((dir.vIPAdd self vIP).endpoint other).vIPSet =
      if other = self then (dir.endpoint self).vIPSet.add vIP
      else (dir.endpoint other).vIPSet := by
  by_cases same : other = self
  · subst same
    simp only [vIPAdd, modifyEndpoint_endpoint, modifyDvg_frame, modifyDomain_frame, if_true]
    split <;> rfl
  · simp [vIPAdd, same]

@[simp] theorem vIPAdd_domainTables :
    (dir.vIPAdd self vIP).domainTables domain =
      if domain = (dir.endpoint self).domain then
        (dir.domainTables domain).endpointVIPAdd self vIP
      else dir.domainTables domain := by
  by_cases same : domain = (dir.endpoint self).domain <;> simp [vIPAdd, same]

@[simp] theorem vIPAdd_dvgTables :
    (dir.vIPAdd self vIP).dvgTables dvg =
      if dvg = (dir.endpoint self).dvg then (dir.dvgTables dvg).endpointVIPAdd self vIP
      else dir.dvgTables dvg := by
  by_cases same : dvg = (dir.endpoint self).dvg <;> simp [vIPAdd, same]

variable (value : IPValue)

theorem vIPAdd_domainIP :
    ((dir.vIPAdd self vIP).domainTables domain).findIP value =
      if domain = (dir.endpoint self).domain ∧ value = vIP.ipValue then some self
      else (dir.domainTables domain).findIP value := by
  rw [vIPAdd_domainTables, ite_and]
  split <;> simp

theorem vIPAdd_dvgIP :
    ((dir.vIPAdd self vIP).dvgTables dvg).findIP value =
      if dvg = (dir.endpoint self).dvg ∧ value = vIP.ipValue then some self
      else (dir.dvgTables dvg).findIP value := by
  rw [vIPAdd_dvgTables, ite_and]
  split <;> simp

/-- `vIP_add` leaves tunnels, conflicts, queue and counter alone. -/
@[simp] theorem vIPAdd_frame :
    let after := dir.vIPAdd self vIP
    SameRest dir after := by
  simp [vIPAdd]

/-- `vIP_del` changes no attribute of any endpoint. -/
@[simp] theorem vIPDel_core :
    ((dir.vIPDel self vIP).endpoint other).toEndpointCore =
      (dir.endpoint other).toEndpointCore := by
  by_cases held : vIP.ipValue ∈ (dir.endpoint self).vIPSet
  · by_cases same : other = self
    · subst same
      simp [vIPDel, held]
    · simp [vIPDel, held, same]
  · simp [vIPDel, held]

/-- After `vIP_del` the endpoint does not have the address. -/
@[simp] theorem mem_vIPDel :
    value ∈ ((dir.vIPDel self vIP).endpoint other).vIPSet ↔
      ¬ (other = self ∧ value = vIP.ipValue) ∧ value ∈ (dir.endpoint other).vIPSet := by
  by_cases held : vIP.ipValue ∈ (dir.endpoint self).vIPSet
  · by_cases same : other = self
    · subst same
      simp [vIPDel, held]
    · simp [vIPDel, held, same]
  · simp only [vIPDel, held, if_false]
    refine ⟨fun member => ⟨?_, member⟩, And.right⟩
    rintro ⟨rfl, rfl⟩
    exact held member

/-- `vIP_del` unmaps the address in the domain if the endpoint had it. -/
@[simp] theorem vIPDel_domainTables :
    (dir.vIPDel self vIP).domainTables domain =
      if vIP.ipValue ∈ (dir.endpoint self).vIPSet ∧ domain = (dir.endpoint self).domain then
        (dir.domainTables domain).endpointVIPDel vIP
      else dir.domainTables domain := by
  by_cases held : vIP.ipValue ∈ (dir.endpoint self).vIPSet
  · by_cases same : domain = (dir.endpoint self).domain <;> simp [vIPDel, held, same]
  · simp [vIPDel, held]

/-- `vIP_del` unmaps the address in the VNID if the endpoint had it. -/
@[simp] theorem vIPDel_dvgTables :
    (dir.vIPDel self vIP).dvgTables dvg =
      if vIP.ipValue ∈ (dir.endpoint self).vIPSet ∧ dvg = (dir.endpoint self).dvg then
        (dir.dvgTables dvg).endpointVIPDel vIP
      else dir.dvgTables dvg := by
  by_cases held : vIP.ipValue ∈ (dir.endpoint self).vIPSet
  · by_cases same : dvg = (dir.endpoint self).dvg <;> simp [vIPDel, held, same]
  · simp [vIPDel, held]

theorem vIPDel_domainIP :
    ((dir.vIPDel self vIP).domainTables domain).findIP value =
      if (vIP.ipValue ∈ (dir.endpoint self).vIPSet ∧ domain = (dir.endpoint self).domain) ∧
        value = vIP.ipValue then none
      else (dir.domainTables domain).findIP value := by
  rw [vIPDel_domainTables, apply_ite (EndpointTables.findIP · value),
    EndpointTables.findIP_endpointVIPDel, ← ite_and]

theorem vIPDel_dvgIP :
    ((dir.vIPDel self vIP).dvgTables dvg).findIP value =
      if (vIP.ipValue ∈ (dir.endpoint self).vIPSet ∧ dvg = (dir.endpoint self).dvg) ∧
        value = vIP.ipValue then none
      else (dir.dvgTables dvg).findIP value := by
  rw [vIPDel_dvgTables, apply_ite (EndpointTables.findIP · value),
    EndpointTables.findIP_endpointVIPDel, ← ite_and]

/-- `vIP_del` leaves tunnels, conflicts, queue and counter alone. -/
@[simp] theorem vIPDel_frame :
    let after := dir.vIPDel self vIP
    SameRest dir after := by
  by_cases held : vIP.ipValue ∈ (dir.endpoint self).vIPSet <;> simp [vIPDel, held]

end Addresses

/-! ## Removing all addresses -/

section AllAddresses

variable (dir : Directory) (self : EndpointId)

/-- An endpoint has lost addresses, which are unmapped in its domain and in its VNID. Attributes and
the MAC addresses of domains are as before. -/
structure Dropped (self : EndpointId) (lost : IPValue → Prop) [DecidablePred lost]
    (after : Directory) : Prop where
  core : ∀ other, (after.endpoint other).toEndpointCore = (dir.endpoint other).toEndpointCore
  members : ∀ other value, value ∈ (after.endpoint other).vIPSet ↔
    ¬ (other = self ∧ lost value) ∧ value ∈ (dir.endpoint other).vIPSet
  domainMacs : ∀ domain vMac, (after.domainTables domain).findMAC vMac =
    (dir.domainTables domain).findMAC vMac
  domainIPs : ∀ domain value, (after.domainTables domain).findIP value =
    if domain = (dir.endpoint self).domain ∧ lost value then none
    else (dir.domainTables domain).findIP value
  dvgIPs : ∀ dvg value, (after.dvgTables dvg).findIP value =
    if dvg = (dir.endpoint self).dvg ∧ lost value then none else (dir.dvgTables dvg).findIP value

/-- A loop of `vIP_del` over some of an endpoint's addresses, each of which it holds when its
turn comes because their values differ. -/
private theorem foldl_vIPDel (vIPs : List VirtualIP)
    (distinct : (vIPs.map VirtualIP.ipValue).Nodup)
    (held : ∀ vIP ∈ vIPs, vIP.ipValue ∈ (dir.endpoint self).vIPSet) :
    let after := vIPs.foldl (fun dir vIP => dir.vIPDel self vIP) dir
    dir.Dropped self (fun value => ∃ vIP ∈ vIPs, vIP.ipValue = value) after := by
  induction vIPs generalizing dir with
  | nil => constructor <;> simp
  | cons vIP rest ih =>
    obtain ⟨different, distinctRest⟩ := List.nodup_cons.mp distinct
    have here : vIP.ipValue ∈ (dir.endpoint self).vIPSet := held vIP List.mem_cons_self
    have heldRest : ∀ next ∈ rest,
        next.ipValue ∈ ((dir.vIPDel self vIP).endpoint self).vIPSet := by
      intro next member
      refine (mem_vIPDel ..).mpr ⟨?_, held next (List.mem_cons_of_mem _ member)⟩
      rintro ⟨-, same⟩
      exact different (List.mem_map.mpr ⟨next, member, same⟩)
    obtain ⟨core, members, domainMacs, domainIPs, dvgIPs⟩ :=
      ih (dir.vIPDel self vIP) distinctRest heldRest
    refine ⟨fun other => (core other).trans (by simp), fun other value => ?_,
      fun domain vMac => (domainMacs domain vMac).trans ?_,
      fun domain value => (domainIPs domain value).trans ?_,
      fun dvg value => (dvgIPs dvg value).trans ?_⟩
    · rw [List.foldl_cons, members]
      simp only [mem_vIPDel, List.exists_mem_cons_iff]
      rcases eq_or_ne value vIP.ipValue with rfl | otherValue
      · tauto
      · simp [otherValue, otherValue.symm]
    · simp only [vIPDel_domainTables]
      split <;> rfl
    · simp only [vIPDel_domainIP, vIPDel_core, here, true_and, List.exists_mem_cons_iff]
      rw [← ite_or]
      exact if_congr (by rw [← and_or_left, or_comm, eq_comm (a := value)]) rfl rfl
    · simp only [vIPDel_dvgIP, vIPDel_core, here, true_and, List.exists_mem_cons_iff]
      rw [← ite_or]
      exact if_congr (by rw [← and_or_left, or_comm, eq_comm (a := value)]) rfl rfl

/-- What `vIP_delete_all` does to the endpoints and the tables. -/
theorem vIPDeleteAll_effect :
    dir.Dropped self (· ∈ (dir.endpoint self).vIPSet) (dir.vIPDeleteAll self) := by
  obtain ⟨core, members, domainMacs, domainIPs, dvgIPs⟩ :=
    foldl_vIPDel dir self _ (dir.endpoint self).vIPSet.values_nodup
      fun vIP member => ((dir.endpoint self).vIPSet.mem_iff_values _).mpr ⟨vIP, member, rfl⟩
  simp only [← VIPSet.mem_iff_values] at members domainIPs dvgIPs
  exact ⟨core, members, domainMacs, domainIPs, dvgIPs⟩

/-- `vIP_delete_all` leaves tunnels, conflicts, queue and counter alone. -/
@[simp] theorem vIPDeleteAll_frame :
    let after := dir.vIPDeleteAll self
    SameRest dir after := by
  unfold vIPDeleteAll
  generalize (dir.endpoint self).vIPSet.values = vIPs
  induction vIPs generalizing dir with
  | nil => simp
  | cons vIP rest ih =>
    simpa only [List.foldl_cons, SameRest, SameQueues, vIPDel_frame] using ih (dir.vIPDel self vIP)

end AllAddresses

/-! ## Moving between VNIDs and tunnels -/

section Moves

variable (dir : Directory) (self : EndpointId) (dvg : DvgId) (vnid : Nat) (clientType : ClientType)
  (tunnelEndpoint : TunnelId)

/-- What leaving a VNID does to the endpoints and the tables. -/
theorem leaveDvg_effect :
    dir.Dropped self (· ∈ (dir.endpoint self).vIPSet) (dir.leaveDvg self) := by
  obtain ⟨core, members, domainMacs, domainIPs, dvgIPs⟩ := vIPDeleteAll_effect
    (dir.modifyDvg (dir.endpoint self).dvg
      (·.endpointDel (dir.endpoint self).vMac (dir.endpoint self).vIPSet)) self
  simp only [modifyDvg_frame, modifyDvg_dvgTables] at core members domainMacs domainIPs dvgIPs
  refine ⟨fun other => ?_, fun other value => ?_, domainMacs, domainIPs, fun dvg value => ?_⟩
  · refine Eq.trans ?_ (core other)
    by_cases same : other = self <;> simp [leaveDvg, same]
  · refine Iff.trans ?_ (members other value)
    by_cases same : other = self <;> simp [leaveDvg, same]
  · refine (dvgIPs dvg value).trans ?_
    by_cases same : dvg = (dir.endpoint self).dvg
    · by_cases held : value ∈ (dir.endpoint self).vIPSet <;> simp [same, held]
    · simp [same]

/-- Leaving a VNID leaves tunnels, conflicts, queue and counter alone. -/
@[simp] theorem leaveDvg_frame :
    let after := dir.leaveDvg self
    SameRest dir after := by
  simp [leaveDvg]

/-- The tables of the VNID an endpoint enters; everything else stays. -/
@[simp] theorem enterDvg_dvgTables : (dir.enterDvg self).dvgTables dvg =
      if dvg = (dir.endpoint self).dvg then
        (dir.dvgTables dvg).endpointAdd self (dir.endpoint self).vMac (dir.endpoint self).vIPSet
      else dir.dvgTables dvg := by
  by_cases same : dvg = (dir.endpoint self).dvg <;> simp [enterDvg, same]

@[simp] theorem enterDvg_frame :
    let after := dir.enterDvg self
    after.endpoint = dir.endpoint ∧ after.nextEndpoint = dir.nextEndpoint ∧
      after.domainTables = dir.domainTables ∧ after.tunnelMAC = dir.tunnelMAC ∧
      SameQueues dir after := by
  simp [enterDvg]

/-- An endpoint arrives in a VNID with new attributes. It keeps its addresses only if it stays in its
VNID, otherwise they are unmapped in its domain. -/
structure Moved (endpoint : EndpointId) (dvg : DvgId) (attributes : EndpointCore)
    (after : Directory) : Prop where
  core : ∀ other, (after.endpoint other).toEndpointCore =
    if other = endpoint then attributes else (dir.endpoint other).toEndpointCore
  members : ∀ other value, value ∈ (after.endpoint other).vIPSet ↔
    ¬ (other = endpoint ∧ (dir.endpoint endpoint).dvg ≠ dvg) ∧ value ∈ (dir.endpoint other).vIPSet
  domainMacs : ∀ domain vMac, (after.domainTables domain).findMAC vMac =
    (dir.domainTables domain).findMAC vMac
  domainIPs : ∀ domain value, (after.domainTables domain).findIP value =
    if domain = (dir.endpoint endpoint).domain ∧ (dir.endpoint endpoint).dvg ≠ dvg ∧
      value ∈ (dir.endpoint endpoint).vIPSet then none
    else (dir.domainTables domain).findIP value

/-- What the arrival of a moved endpoint does to the endpoints and the tables. -/
theorem vmotionArrive_effect :
    let after := dir.vmotionArrive self dvg vnid clientType tunnelEndpoint
    let old := dir.endpoint self
    dir.Moved self dvg
      { old.toEndpointCore with dvg, vnid, clientType, tunnelEndpoint, inMigration := false } after ∧
    ∀ other value, (after.dvgTables other).findIP value =
      if other = old.dvg ∧ value ∈ old.vIPSet then (if old.dvg = dvg then some self else none)
      else (dir.dvgTables other).findIP value := by
  simp only [vmotionArrive, tunnelEndpointAdd]
  by_cases stays : (dir.endpoint self).dvg = dvg
  · refine ⟨⟨fun other => ?_, fun other value => ?_, fun domain vMac => ?_, fun domain value => ?_⟩,
      fun other value => ?_⟩
    · by_cases here : other = self <;> simp [stays, here]
    · by_cases here : other = self <;> simp [stays, here]
    · simp [stays]
    · simp [stays]
    · by_cases here : other = dvg
      · by_cases held : value ∈ (dir.endpoint self).vIPSet <;> simp [stays, here, held]
      · simp [stays, here]
  · obtain ⟨core, members, domainMacs, domainIPs, dvgIPs⟩ := leaveDvg_effect
      (dir.modifyDvg (dir.endpoint self).dvg
        (·.endpointDel (dir.endpoint self).vMac (dir.endpoint self).vIPSet)) self
    simp only [modifyDvg_frame] at core members domainMacs domainIPs dvgIPs
    refine ⟨⟨fun other => ?_, fun other value => ?_, fun domain vMac => ?_, fun domain value => ?_⟩,
      fun other value => ?_⟩
    · by_cases here : other = self <;> simp [stays, here, core]
    · by_cases here : other = self <;> simp [stays, here, members]
    · simp [stays, domainMacs]
    · simp [stays, domainIPs]
    · by_cases here : other = dvg
      · simp [stays, Ne.symm stays, here, members, dvgIPs]
      · by_cases there : other = (dir.endpoint self).dvg
        · subst there
          by_cases held : value ∈ (dir.endpoint self).vIPSet <;> simp [stays, held, dvgIPs]
        · simp [stays, here, there, dvgIPs]

/-- The arrival of a moved endpoint leaves conflicts, queue and counter alone. -/
@[simp] theorem vmotionArrive_frame :
    let after := dir.vmotionArrive self dvg vnid clientType tunnelEndpoint
    after.nextEndpoint = dir.nextEndpoint ∧ SameQueues dir after := by
  by_cases stays : (dir.endpoint self).dvg = dvg <;>
    simp [vmotionArrive, tunnelEndpointAdd, stays]

theorem vmotion_moved : dir.Moved self dvg { (dir.endpoint self).toEndpointCore with
    dvg, vnid, clientType, tunnelEndpoint, inMigration := false }
    (dir.vmotion self dvg vnid clientType tunnelEndpoint) := by
  obtain ⟨⟨core, members, domainMacs, domainIPs⟩, -⟩ := vmotionArrive_effect
    (dir.tunnelEndpointDel (dir.endpoint self).tunnelEndpoint self) self dvg vnid clientType
    tunnelEndpoint
  exact ⟨core, members, domainMacs, domainIPs⟩

/-- What the first half of an update does to the endpoints and the tables. -/
theorem updateArrive_effect :
    let after := dir.updateArrive self dvg vnid clientType
    let old := dir.endpoint self
    dir.Moved self dvg { old.toEndpointCore with dvg, vnid, clientType, inMigration := false } after ∧
    ∀ other value, (after.dvgTables other).findIP value =
      if old.dvg ≠ dvg ∧ other = old.dvg ∧ value ∈ old.vIPSet then none
      else (dir.dvgTables other).findIP value := by
  simp only [updateArrive]
  by_cases stays : (dir.endpoint self).dvg = dvg
  · refine ⟨⟨fun other => ?_, fun other value => ?_, ?_, ?_⟩, ?_⟩
    · by_cases here : other = self <;> simp [stays, here]
    · by_cases here : other = self <;> simp [stays, here]
    all_goals simp [stays]
  · -- The attributes are assigned before the endpoint leaves; the tables do not see them.
    let dir₁ := { dir.modifyEndpoint self fun e => { e with inMigration := false, clientType, vnid }
      with expirationQueue := dir.expirationQueue.erase self }
    obtain ⟨core, members, domainMacs, domainIPs, dvgIPs⟩ := leaveDvg_effect dir₁ self
    simp only [dir₁, modifyEndpoint_frame, modifyEndpoint_endpoint, if_true]
      at core members domainMacs domainIPs dvgIPs
    refine ⟨⟨fun other => ?_, fun other value => ?_, fun domain vMac => ?_, fun domain value => ?_⟩,
      fun other value => ?_⟩
    · by_cases here : other = self <;> simp [stays, here, core]
    · by_cases here : other = self <;> simp [stays, here, members]
    · simp [stays, domainMacs]
    · simp [stays, domainIPs]
    · by_cases here : other = dvg
      · simp [stays, Ne.symm stays, here, members, dvgIPs]
      · simp [stays, here, dvgIPs]

/-- The first half of an update touches neither conflicts nor counters. -/
@[simp] theorem updateArrive_frame :
    let after := dir.updateArrive self dvg vnid clientType
    after.nextEndpoint = dir.nextEndpoint ∧ after.conflicts = dir.conflicts ∧
      after.conflictRequests = dir.conflictRequests ∧ after.endpointsCount = dir.endpointsCount := by
  by_cases stays : (dir.endpoint self).dvg = dvg <;> simp [updateArrive, stays]

end Moves

/-! ## Deleting and creating an endpoint -/

section Lifetime

variable (dir : Directory) (self : EndpointId)

@[simp] theorem tunnelEndpointDel_tunnelMAC (tunnel other : TunnelId) :
    (dir.tunnelEndpointDel tunnel self).tunnelMAC other =
      if other = tunnel then (dir.tunnelMAC tunnel).erase (dir.endpoint self).vMac
      else dir.tunnelMAC other := by
  simp [tunnelEndpointDel]

/-- Taking an endpoint off a tunnel touches nothing else. -/
@[simp] theorem tunnelEndpointDel_frame (tunnel : TunnelId) :
    let after := dir.tunnelEndpointDel tunnel self
    SameMaps dir after ∧ SameQueues dir after := by
  simp [tunnelEndpointDel]

@[simp] theorem conflictEndpointDelete_conflicts (domain other : DomainId) :
    (dir.conflictEndpointDelete domain self).conflicts other =
      if other = domain then (dir.conflicts domain).mapValues (·.endpointDelete self)
      else dir.conflicts other := by
  simp [conflictEndpointDelete]

/-- Purging an endpoint from the conflicts of a domain touches nothing else. -/
@[simp] theorem conflictEndpointDelete_frame (domain : DomainId) :
    let after := dir.conflictEndpointDelete domain self
    SameMaps dir after ∧ after.tunnelMAC = dir.tunnelMAC ∧
      after.conflictRequests = dir.conflictRequests ∧
      after.expirationQueue = dir.expirationQueue ∧
      after.endpointsCount = dir.endpointsCount := by
  simp [conflictEndpointDelete]

/-- A dead endpoint is not deleted again. -/
theorem delete_of_dead (dead : (dir.endpoint self).valid = false) : dir.delete self = dir := by
  simp [delete, dead]

/-- What the deletion of a live endpoint does. -/
theorem delete_effect (live : (dir.endpoint self).valid = true) :
    let after := dir.delete self
    let old := dir.endpoint self
    (∀ other, (after.endpoint other).toEndpointCore =
      if other = self then { old.toEndpointCore with valid := false }
      else (dir.endpoint other).toEndpointCore) ∧
    (∀ other value, value ∈ (after.endpoint other).vIPSet ↔
      other ≠ self ∧ value ∈ (dir.endpoint other).vIPSet) ∧
    (∀ domain vMac, (after.domainTables domain).findMAC vMac =
      if domain = old.domain ∧ vMac = old.vMac then none
      else (dir.domainTables domain).findMAC vMac) ∧
    (∀ domain value, (after.domainTables domain).findIP value =
      if domain = old.domain ∧ value ∈ old.vIPSet then none
      else (dir.domainTables domain).findIP value) ∧
    (∀ dvg value, (after.dvgTables dvg).findIP value =
      if dvg = old.dvg ∧ value ∈ old.vIPSet then none
      else (dir.dvgTables dvg).findIP value) ∧
    (∀ tunnel, after.tunnelMAC tunnel =
      if tunnel = old.tunnelEndpoint then (dir.tunnelMAC tunnel).erase old.vMac
      else dir.tunnelMAC tunnel) ∧
    (∀ domain, after.conflicts domain =
      if domain = old.domain then (dir.conflicts domain).mapValues (·.endpointDelete self)
      else dir.conflicts domain) ∧
    after.nextEndpoint = dir.nextEndpoint ∧ after.conflictRequests = dir.conflictRequests := by
  simp only [delete, deleteStart, deleteFinish, live, if_true]
  refine ⟨fun other => ?_, fun other value => ?_, fun domain vMac => ?_, fun domain value => ?_,
    fun dvg value => ?_, fun tunnel => ?_, fun domain => ?_, ?_⟩
  · by_cases here : other = self <;> simp [here]
  · by_cases here : other = self <;> simp [here]
  · by_cases here : domain = (dir.endpoint self).domain <;> simp [here]
  · by_cases here : domain = (dir.endpoint self).domain <;> simp [here]
  · by_cases here : dvg = (dir.endpoint self).dvg <;> simp [here]
  · by_cases here : tunnel = (dir.endpoint self).tunnelEndpoint <;> simp [here]
  · by_cases here : domain = (dir.endpoint self).domain <;> simp [here]
  · simp

/-- What the construction of an endpoint does. -/
theorem create_effect {domain : DomainId} {dvg : DvgId} {vnid : Nat} {clientType : ClientType}
    {tunnelEndpoint : TunnelId} {vMac : Mac} {vIP : Option VirtualIP} {version : Nat}
    {after : Directory}
    (created : dir.create domain dvg vnid clientType tunnelEndpoint vMac vIP version = some after) :
    let new := dir.nextEndpoint
    (∀ other, (after.endpoint other).toEndpointCore =
      if other = new then
        { domain, dvg, vnid, clientType, vMac, tunnelEndpoint, version,
          valid := true, inMigration := false }
      else (dir.endpoint other).toEndpointCore) ∧
    (∀ other value, value ∈ (after.endpoint other).vIPSet ↔
      if other = new then vIP.map VirtualIP.ipValue = some value
      else value ∈ (dir.endpoint other).vIPSet) ∧
    (∀ other mac, (after.domainTables other).findMAC mac =
      if other = domain ∧ mac = vMac then some new else (dir.domainTables other).findMAC mac) ∧
    (∀ other value, (after.domainTables other).findIP value =
      if other = domain ∧ vIP.map VirtualIP.ipValue = some value then some new
      else (dir.domainTables other).findIP value) ∧
    (∀ other value, (after.dvgTables other).findIP value =
      if other = dvg ∧ vIP.map VirtualIP.ipValue = some value then some new
      else (dir.dvgTables other).findIP value) ∧
    after.nextEndpoint = new + 1 ∧ after.conflicts = dir.conflicts ∧
    after.conflictRequests = dir.conflictRequests := by
  intro new
  unfold create at created
  split at created
  · cases created
  obtain rfl := Option.some.inj created
  have member (value : IPValue) : value ∈ vIP.elim VIPSet.empty VIPSet.empty.add ↔
      vIP.map VirtualIP.ipValue = some value := by
    cases vIP <;> simp [eq_comm]
  refine ⟨fun other => ?_, fun other value => ?_, fun other mac => ?_, fun other value => ?_,
    fun other value => ?_, ?_⟩
  · by_cases here : other = new <;> simp [new, here, tunnelEndpointAdd]
  · by_cases here : other = new <;> simp [new, here, tunnelEndpointAdd, member]
  · by_cases here : other = domain <;> simp [new, here, tunnelEndpointAdd]
  · by_cases here : other = domain <;> simp [new, here, tunnelEndpointAdd, member]
  · by_cases here : other = dvg <;> simp [new, here, tunnelEndpointAdd, member]
  · simp [new, tunnelEndpointAdd]

end Lifetime

end OpenDove.Directory
