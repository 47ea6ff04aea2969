import OpenDove.ConfigurationFrames

/-!
# The maps of domains and VNIDs

A server records three times which VNIDs a domain has: in the global map from VNIDs to domains, in
the global map from domains to VNIDs, and, for a domain that it handles, in the domain itself. This
module has the requests of the controller on a state that has these maps only, and shows that the
requests of a server act on its maps in the same way.
-/

namespace OpenDove

open Function

/-- What the maps depend on of a VNID. -/
structure VnidRecord where
  domain : DomainId
  uniqueId : Nat
  valid : Bool

/-- What the maps depend on of a domain, with its own map of VNIDs. -/
structure DomainRecord where
  uniqueId : Nat
  valid : Bool
  dvgHash : Dict Nat DvgId

/-- The maps of domains and VNIDs. -/
@[ext] structure Registry where
  vnidHash : Dict Nat Nat
  domainHashGlobal : Dict Nat (List Nat)
  domainHash : Dict Nat DomainId
  dvg : DvgId → VnidRecord
  nextDvg : DvgId
  domain : DomainId → DomainRecord
  nextDomain : DomainId

namespace Registry

variable (r : Registry) (domainId : Nat)

/-- The VNIDs that the global map has for a domain. -/
def vnids : List Nat :=
  (r.domainHashGlobal.lookup domainId).getD []

/-- A new domain without VNIDs. -/
def domainCreate : Registry :=
  { r with
    nextDomain := r.nextDomain + 1
    domain := update r.domain r.nextDomain
      { uniqueId := domainId, valid := true, dvgHash := ∅ }
    domainHash := r.domainHash.insert domainId r.nextDomain }

/-- A new VNID of a domain that is handled. -/
def dvgCreate (domain : DomainId) (dvgId : Nat) : Registry :=
  { r with
    nextDvg := r.nextDvg + 1
    dvg := update r.dvg r.nextDvg { domain, uniqueId := dvgId, valid := true }
    domain := update r.domain domain
      { r.domain domain with dvgHash := (r.domain domain).dvgHash.insert dvgId r.nextDvg }
    vnidHash := r.vnidHash.insert dvgId (r.domain domain).uniqueId }

/-- The two entries of a VNID in the global maps. -/
def dvgRecord (dvgId : Nat) : Registry :=
  { r with
    vnidHash := r.vnidHash.insert dvgId domainId
    domainHashGlobal := r.domainHashGlobal.insert domainId ((r.vnids domainId).insert dvgId) }

/-- `Dvg_Add` on the maps. -/
def dvgAdd (dvgId : Nat) : Registry × DOVEStatus :=
  if (r.vnidHash.lookup dvgId).any (· ≠ domainId) then (r, .alreadyExists)
  else
    let r := r.dvgRecord domainId dvgId
    match r.domainHash.lookup domainId with
    | none => (r, .ok)
    | some domain =>
      if dvgId ∈ (r.domain domain).dvgHash then (r, .ok)
      else if dvgId > Collection.maxNumber then (r, .noMemory)
      else (r.dvgCreate domain dvgId, .ok)

/-- The domain of a VNID loses it. -/
def dvgLeave (self : DvgId) : Registry :=
  let g := r.dvg self
  { r with
    domain := update r.domain g.domain
      { r.domain g.domain with dvgHash := (r.domain g.domain).dvgHash.erase g.uniqueId } }

/-- `DVG.delete` on the maps. -/
def dvgDelete (self : DvgId) : Registry :=
  let g := r.dvg self
  if g.valid then
    { r with
      vnidHash := r.vnidHash.erase g.uniqueId
      dvg := update r.dvg self { g with valid := false } }.dvgLeave self
  else r

/-- The global maps lose a VNID. -/
def dvgForget (domainId : Option Nat) (vnid : Nat) : Registry :=
  { r with
    vnidHash := r.vnidHash.erase vnid
    domainHashGlobal := domainId.elim r.domainHashGlobal fun domainId =>
      let vnids := (r.vnids domainId).erase vnid
      if vnids = [] then r.domainHashGlobal.erase domainId
      else r.domainHashGlobal.insert domainId vnids }

/-- `Dvg_Delete` on the maps. -/
def dvgDeleteRequest (vnid : Nat) : Registry :=
  let domainId := r.vnidHash.lookup vnid
  let r := (domainId.bind r.domainHash.lookup).elim r fun domain =>
    ((r.domain domain).dvgHash.lookup vnid).elim r r.dvgDelete
  r.dvgForget domainId vnid

/-- `Domain.delete` on the maps, for a domain that was deleted. -/
def domainDelete (self : DomainId) : Registry :=
  let d := r.domain self
  if d.valid then
    let r := { r with
      domain := update r.domain self { d with valid := false }
      domainHash := r.domainHash.erase d.uniqueId }
    let r := d.dvgHash.values.foldl dvgDelete r
    { r with domain := update r.domain self { r.domain self with dvgHash := ∅ } }
  else r

/-- `Domain_Delete` on the maps. -/
def domainDeleteRequest : Registry :=
  let r := (r.domainHash.lookup domainId).elim r r.domainDelete
  { r with
    vnidHash := r.vnidHash.eraseAll (r.vnids domainId)
    domainHashGlobal := r.domainHashGlobal.erase domainId }

/-- Add the VNIDs that a domain is known to have. -/
def dvgAddAll (r : Registry) (domainId : Nat) : List Nat → Registry × DOVEStatus
  | [] => (r, .ok)
  | vnid :: vnids =>
    match r.dvgAdd domainId vnid with
    | (r, .ok) => r.dvgAddAll domainId vnids
    | (r, status) => (r.domainDeleteRequest domainId, status)

/-- `Domain_Add_Local` on the maps. -/
def domainAddLocal : Registry × DOVEStatus :=
  if domainId ∈ r.domainHash then r.dvgAddAll domainId (r.vnids domainId)
  else if domainId > Collection.maxNumber then (r, .noMemory)
  else (r.domainCreate domainId).dvgAddAll domainId (r.vnids domainId)

end Registry

/-- What the maps depend on of a VNID. -/
def DVG.record (g : DVG) : VnidRecord where
  domain := g.domain
  uniqueId := g.uniqueId
  valid := g.valid

/-- What the maps depend on of a domain. -/
def Domain.record (d : Domain) : DomainRecord where
  uniqueId := d.uniqueId
  valid := d.valid
  dvgHash := d.dvgHash

variable (s : Collection) (dvg : DvgId) (domain self : DomainId) (domainId dvgId : Nat)

namespace Collection

/-- The maps of a server. -/
def registry (s : Collection) : Registry where
  vnidHash := s.vnidHash
  domainHashGlobal := s.domainHashGlobal
  domainHash := s.domainHash
  dvg dvg := (s.dvg dvg).record
  nextDvg := s.nextDvg
  domain domain := (s.domain domain).record
  nextDomain := s.nextDomain

/-! ## What leaves the maps alone -/

section Frames

variable {s after : Collection}

theorem Settled.registry (settled : Settled s after) : after.registry = s.registry := by
  have dvgs : ∀ dvg, (after.dvg dvg).configured = (s.dvg dvg).configured :=
    congrFun (congrArg Configuration.dvg settled)
  have domains : ∀ domain, (after.domain domain).configured = (s.domain domain).configured :=
    congrFun (congrArg Configuration.domain settled)
  refine Registry.ext (congrArg Configuration.vnidHash settled)
    (congrArg Configuration.domainHashGlobal settled) (congrArg Configuration.domainHash settled)
    (funext fun dvg => ?_) (congrArg Configuration.nextDvg settled) (funext fun domain => ?_)
    (congrArg Configuration.nextDomain settled)
  · exact congrArg (fun g : VnidConfiguration => VnidRecord.mk g.domain g.uniqueId g.valid)
      (dvgs dvg)
  · exact congrArg (fun d : DomainConfiguration => DomainRecord.mk d.uniqueId d.valid d.dvgHash)
      (domains domain)

theorem registry_modifyDvg (change : DVG → DVG)
    (keeps : (change (s.dvg dvg)).record = (s.dvg dvg).record) :
    (s.modifyDvg dvg change).registry = s.registry :=
  Registry.ext rfl rfl rfl (funext (update_keeps DVG.record s.dvg keeps)) rfl rfl rfl

theorem registry_modifyDomain (change : Domain → Domain)
    (keeps : (change (s.domain domain)).record = (s.domain domain).record) :
    (s.modifyDomain domain change).registry = s.registry :=
  Registry.ext rfl rfl rfl rfl rfl (funext (update_keeps Domain.record s.domain keeps)) rfl

/-- A loop leaves the maps alone if its body does. -/
theorem registry_foldl {ν : Type} {body : Collection → ν → Collection}
    (round : ∀ s item, (body s item).registry = s.registry) (items : List ν) (s : Collection) :
    (items.foldl body s).registry = s.registry :=
  List.foldlRecOn items body (motive := fun mid => mid.registry = s.registry) rfl
    fun mid before item _ => (round mid item).trans before

@[simp] theorem setPolicies_record (g : DVG) (side : PolicyEnd) (trafficType : TrafficType)
    (table : Dict Nat PolicyId) : (g.setPolicies side trafficType table).record = g.record := by
  cases side <;> rfl

variable (s)

@[simp] theorem policyUpdate_registry (dvg : DvgId) (trafficType : TrafficType) :
    (s.policyUpdate dvg trafficType).registry = s.registry :=
  ((Settled.refl s).policyUpdate dvg trafficType).registry

@[simp] theorem domainPolicyDel_registry (domain : DomainId) (policy : PolicyId) :
    (s.domainPolicyDel domain policy).registry = s.registry :=
  registry_modifyDomain _ _ rfl

@[simp] theorem dvgPolicyDel_registry (dvg : DvgId) (side : PolicyEnd)
    (other : Nat) (trafficType : TrafficType) :
    (s.dvgPolicyDel dvg side other trafficType).registry = s.registry := by
  have written := registry_modifyDvg (s := s) dvg (fun g =>
    g.setPolicies side trafficType ((g.policies side trafficType).erase other)) (by simp)
  cases side
  · exact (policyUpdate_registry ..).trans written
  · exact written

@[simp] theorem policyDelete_registry (policy : PolicyId) :
    (s.policyDelete policy).1.registry = s.registry := by
  dsimp only [policyDelete]
  split
  · split
    · rfl
    · simp only [domainPolicyDel_registry, dvgPolicyDel_registry]
      rfl
  · rfl

@[simp] theorem dvgDeletePolicies_registry (dvg : DvgId) (side : PolicyEnd)
    (trafficType : TrafficType) :
    (s.dvgDeletePolicies dvg side trafficType).registry = s.registry := by
  refine (registry_modifyDvg _ _ (by simp)).trans (registry_foldl (fun s key => ?_) _ s)
  split
  · rfl
  · rw [policyDelete_registry, registry_modifyDvg _ _ (by simp), domainPolicyDel_registry]

/-- A policy can be created if its type is supported, and leaves the maps alone. -/
theorem policyCreate_registry (domain : DomainId) (trafficType : TrafficType)
    (srcDvg dstDvg : DvgId) (ttl action : Nat) :
    ∃ after, s.policyCreate domain trafficType typeConnectivity srcDvg dstDvg ttl action =
      some after ∧ after.registry = s.registry := by
  refine ⟨_, if_neg (by decide), ?_⟩
  rw [registry_modifyDvg _ _ (by simp), policyUpdate_registry, registry_modifyDvg _ _ (by simp),
    registry_modifyDomain _ _ rfl]
  rfl

end Frames

/-! ## Single writes -/

theorem modifyDvg_registry (change : DVG → DVG) :
    (s.modifyDvg dvg change).registry =
      { s.registry with
        dvg := Function.update s.registry.dvg dvg (change (s.dvg dvg)).record } :=
  Registry.ext rfl rfl rfl (funext fun other =>
    apply_update (fun _ => DVG.record) s.dvg dvg (change (s.dvg dvg)) other) rfl rfl rfl

theorem modifyDomain_registry (change : Domain → Domain) :
    (s.modifyDomain domain change).registry =
      { s.registry with
        domain := Function.update s.registry.domain domain (change (s.domain domain)).record } :=
  Registry.ext rfl rfl rfl rfl rfl (funext fun other =>
    apply_update (fun _ => Domain.record) s.domain domain (change (s.domain domain)) other)
    rfl

/-! ## The requests on the maps -/

theorem domainCreate_registry (active : Bool) :
    (s.domainCreate domainId active).map registry =
      if domainId > maxNumber then none else some (s.registry.domainCreate domainId) := by
  unfold domainCreate
  by_cases large : domainId > maxNumber
  · simp only [large, if_true, Option.map_none]
  · simp only [large, if_false, Option.map_some, Option.some.injEq]
    exact Registry.ext rfl rfl rfl rfl rfl (funext fun other =>
      apply_update (fun _ => Domain.record) s.domain s.nextDomain _ other) rfl

theorem dvgCreate_registry (small : ¬ dvgId > maxNumber) :
    ∃ after, s.dvgCreate domain dvgId = some (after, s.nextDvg) ∧
      after.registry = s.registry.dvgCreate domain dvgId := by
  refine ⟨_, if_neg small, ?_⟩
  refine Registry.ext ?_ rfl rfl (funext fun other => ?_) rfl (funext fun other => ?_) rfl
  · simp [registry, Registry.dvgCreate, modifyDomain, Domain.record]
  · exact apply_update (fun _ => DVG.record) s.dvg s.nextDvg _ other
  · exact apply_update (fun _ => Domain.record) s.domain domain _ other

theorem dvgAddLocal_registry :
    (s.dvgAddLocal domain dvgId).map registry =
      if dvgId > maxNumber then none else some (s.registry.dvgCreate domain dvgId) := by
  unfold dvgAddLocal
  by_cases large : dvgId > maxNumber
  · simp [dvgCreate, large]
  · obtain ⟨created, isCreated, maps⟩ := s.dvgCreate_registry domain dvgId large
    have told : (created.registerVnid domain dvgId true).1.registry = created.registry :=
      ((Settled.refl created).registerDelta ..).registry
    obtain ⟨unicast, isUnicast, same⟩ := policyCreate_registry (created.registerVnid domain dvgId
      true).1 domain .unicast s.nextDvg s.nextDvg defaultTTL actionForward
    obtain ⟨multicast, isMulticast, same'⟩ := unicast.policyCreate_registry domain .multicast
      s.nextDvg s.nextDvg defaultTTL actionForward
    simp only [isCreated, Option.bind_eq_bind, Option.bind_some, isUnicast, isMulticast, large,
      if_false, Option.map_some]
    rw [same', same, told, maps]

theorem dvgAdd_registry :
    ((s.dvgAdd domainId dvgId).1.registry, (s.dvgAdd domainId dvgId).2) =
      s.registry.dvgAdd domainId dvgId := by
  change (s.dvgAdd domainId dvgId).map registry id = _
  unfold dvgAdd Registry.dvgAdd
  by_cases other : (s.vnidHash.lookup dvgId).any (· ≠ domainId)
  · rw [if_pos other,
      if_pos (show (s.registry.vnidHash.lookup dvgId).any (· ≠ domainId) from other)]
    rfl
  · rw [if_neg other,
      if_neg (show ¬ (s.registry.vnidHash.lookup dvgId).any (· ≠ domainId) from other)]
    dsimp only
    set recorded : Collection := { s with
      vnidHash := s.vnidHash.insert dvgId domainId
      domainHashGlobal := s.domainHashGlobal.insert domainId
        (((s.domainHashGlobal.lookup domainId).getD []).insert dvgId) }
    have maps : s.registry.dvgRecord domainId dvgId = recorded.registry := rfl
    rw [maps, show recorded.registry.domainHash = s.domainHash from rfl]
    cases s.domainHash.lookup domainId with
    | none => rfl
    | some domain =>
      dsimp only
      by_cases present : dvgId ∈ (s.domain domain).dvgHash
      · rw [if_pos present,
          if_pos (show dvgId ∈ (recorded.registry.domain domain).dvgHash from present)]
        rfl
      · rw [if_neg present,
          if_neg (show dvgId ∉ (recorded.registry.domain domain).dvgHash from present)]
        have created := recorded.dvgAddLocal_registry domain dvgId
        cases known : recorded.dvgAddLocal domain dvgId with
        | none =>
          rw [known] at created
          split at created
          · next large =>
            rw [if_pos large]
            rfl
          · cases created
        | some after =>
          rw [known] at created
          split at created
          · cases created
          · next small =>
            rw [if_neg small, ← Option.some.inj created]
            rfl

theorem domainDvgDel_registry (self : DvgId) :
    (s.domainDvgDel (s.dvg self).domain self).registry = s.registry.dvgLeave self :=
  modifyDomain_registry ..

theorem dvgDelete_registry (self : DvgId) :
    (s.dvgDelete self).registry = s.registry.dvgDelete self := by
  by_cases valid : (s.dvg self).valid
  · have marked := s.modifyDvg_registry self fun g => { g with valid := false }
    have purged : ∀ mid : Collection, ((mid.sendVnidDeletion self).onPending fun p =>
        p.purgeDvg self (s.dvg self).uniqueId).registry = mid.registry := fun mid =>
      (((Settled.refl mid).sendVnidDeletion self).onPending _).registry
    have erased : ∀ mid : Collection, ({ mid with
        vnidHash := mid.vnidHash.erase (s.dvg self).uniqueId } : Collection).registry =
        { mid.registry with vnidHash := mid.registry.vnidHash.erase (s.dvg self).uniqueId } :=
      fun _ => rfl
    rw [dvgDelete, if_pos valid, Registry.dvgDelete]
    dsimp only
    rw [domainDvgDel_registry, Settled.dvgDeleteContents registry Settled.registry _ self fun _ =>
      registry_modifyDvg self _ (by rfl)]
    iterate 4 rw [dvgDeletePolicies_registry]
    rw [erased, purged, marked]
    exact (if_pos valid).symm
  · rw [dvgDelete, if_neg valid, Registry.dvgDelete]
    exact (if_neg valid).symm

theorem dvgDeleteRequest_registry (vnid : Nat) :
    (s.dvgDeleteRequest vnid).registry = s.registry.dvgDeleteRequest vnid := by
  have handled : ((((s.vnidHash.lookup vnid).bind s.domainHash.lookup).elim s fun domain =>
      ((s.domain domain).dvgHash.lookup vnid).elim s fun dvg =>
        ((s.dvgDelete dvg).registerVnid domain vnid true).1) : Collection).registry =
      ((s.vnidHash.lookup vnid).bind s.domainHash.lookup).elim s.registry fun domain =>
        ((s.domain domain).dvgHash.lookup vnid).elim s.registry s.registry.dvgDelete := by
    cases (s.vnidHash.lookup vnid).bind s.domainHash.lookup with
    | none => rfl
    | some domain =>
      simp only [Option.elim_some]
      cases (s.domain domain).dvgHash.lookup vnid with
      | none => rfl
      | some dvg =>
        exact ((Settled.refl _).registerDelta ..).registry.trans (s.dvgDelete_registry dvg)
  unfold dvgDeleteRequest Registry.dvgDeleteRequest
  dsimp only
  exact congrArg (fun r : Registry => r.dvgForget (s.vnidHash.lookup vnid) vnid) handled

theorem domainDeleteObjects_registry :
    (s.domainDeleteObjects self).registry =
      (s.registry.domain self).dvgHash.values.foldl Registry.dvgDelete s.registry := by
  have vnids : ((s.domain self).dvgHash.values.foldl dvgDelete s).registry =
      (s.domain self).dvgHash.values.foldl Registry.dvgDelete s.registry :=
    (List.foldl_hom registry fun s dvg => (s.dvgDelete_registry dvg).symm).symm
  have endpoints : ∀ s endpoint, Settled s (s.endpointDelete endpoint) :=
    fun s endpoint => (Settled.refl s).endpointDelete endpoint
  have tunnels : ∀ s tunnel, Settled s (s.tunnelDelete tunnel) :=
    fun s tunnel => (Settled.refl s).tunnelDelete tunnel
  have clients : ∀ s client, Settled s (s.dpsClientDelete client) :=
    fun s client => (Settled.refl s).dpsClientDelete client
  refine Eq.trans ?_ vnids
  dsimp only [domainDeleteObjects]
  generalize (s.domain self).dvgHash.values.foldl dvgDelete s = mid
  rw [registry_foldl fun s policy => s.policyDelete_registry policy,
    registry_foldl fun s policy => s.policyDelete_registry policy]
  exact ((((((((Settled.refl mid).foldl endpoints _).foldl endpoints _).foldl endpoints _).foldl
    tunnels _).foldl tunnels _).foldl clients _).foldl clients _).registry

theorem domainClear_registry :
    (s.domainClear self).registry =
      { s.registry with
        domain := Function.update s.registry.domain self
          { s.registry.domain self with dvgHash := ∅ } } :=
  modifyDomain_registry ..

/-- What `Domain.delete` does after the hosts: the domain is taken off the map of domains, its
objects are deleted and its tables are cleared. -/
theorem domainDeleteRest_registry (change : PendingUpdates → PendingUpdates) :
    (({ s.onPending change with
        domainHash := s.domainHash.erase (s.domain self).uniqueId }.domainDeleteObjects
          self).domainClear self).registry =
      let r := { s.registry with
        domainHash := s.registry.domainHash.erase (s.registry.domain self).uniqueId }
      let r := (s.registry.domain self).dvgHash.values.foldl Registry.dvgDelete r
      { r with domain := Function.update r.domain self { r.domain self with dvgHash := ∅ } } := by
  rw [domainClear_registry, domainDeleteObjects_registry]
  rfl

theorem domainDelete_registry :
    (s.domainDelete self true).registry = s.registry.domainDelete self := by
  by_cases valid : (s.domain self).valid
  · have marked := s.modifyDomain_registry self fun d => { d with valid := false }
    have left := ((Settled.refl (s.modifyDomain self fun d =>
      { d with valid := false })).domainDeletedLocally self).registry
    rw [domainDelete, if_pos valid, Registry.domainDelete]
    dsimp only
    rw [if_pos rfl]
    refine (domainDeleteRest_registry ..).trans ?_
    rw [left, marked]
    simp only [update_self]
    exact (if_pos valid).symm
  · rw [domainDelete, if_neg valid, Registry.domainDelete]
    exact (if_neg valid).symm

theorem domainDeleteRequest_registry :
    (s.domainDeleteRequest domainId).registry = s.registry.domainDeleteRequest domainId := by
  have handled : (((s.domainHash.lookup domainId).elim s fun domain =>
      s.domainDelete domain true) : Collection).registry =
      (s.domainHash.lookup domainId).elim s.registry s.registry.domainDelete := by
    cases s.domainHash.lookup domainId with
    | none => rfl
    | some domain => exact s.domainDelete_registry domain
  exact congrArg (fun r : Registry => { r with
    vnidHash := r.vnidHash.eraseAll (r.vnids domainId)
    domainHashGlobal := r.domainHashGlobal.erase domainId }) handled

theorem dvgAddAll_registry (vnids : List Nat) :
    (s.dvgAddAll domainId vnids).map registry id = s.registry.dvgAddAll domainId vnids := by
  induction vnids generalizing s with
  | nil => rfl
  | cons vnid vnids ih =>
    have added := s.dvgAdd_registry domainId vnid
    unfold dvgAddAll Registry.dvgAddAll
    rw [← added]
    generalize s.dvgAdd domainId vnid = result
    obtain ⟨after, status⟩ := result
    cases status
    case ok => exact ih after
    all_goals exact Prod.ext (after.domainDeleteRequest_registry domainId) rfl

theorem domainAddLocal_registry :
    (s.domainAddLocal domainId).map registry id = s.registry.domainAddLocal domainId := by
  unfold domainAddLocal Registry.domainAddLocal
  by_cases known : domainId ∈ s.domainHash
  · rw [if_pos known, if_pos (show domainId ∈ s.registry.domainHash from known)]
    exact s.dvgAddAll_registry domainId _
  · rw [if_neg known, if_neg (show domainId ∉ s.registry.domainHash from known)]
    have created := s.domainCreate_registry domainId true
    cases isCreated : s.domainCreate domainId true with
    | none =>
      rw [isCreated] at created
      split at created
      · rw [if_pos ‹_›]
        rfl
      · cases created
    | some after =>
      rw [isCreated] at created
      split at created
      · cases created
      · rw [if_neg ‹_›, ← Option.some.inj created]
        have same : after.registry.vnids domainId = s.registry.vnids domainId := by
          rw [Option.some.inj created]
          rfl
        rw [← same]
        exact after.dvgAddAll_registry domainId _

end Collection

end OpenDove
