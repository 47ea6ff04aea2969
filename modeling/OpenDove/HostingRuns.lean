import OpenDove.NodeDomains

/-!
# Hosting in every run

The routines that change the tables of nodes, and the runs of the cluster. A node that leaves the
table takes its domains out of the entries first, unless another node takes its address or the
whole cluster is deleted.
-/

namespace OpenDove

variable {s : Cluster} {self : NodeId} (nodes : List NodeId)

namespace Cluster

/-! ## Deleting a domain -/

/-- A loop that changes each node it visits, where a second visit changes nothing. -/
theorem foldl_modifyNode (change : DPSNode → DPSNode) (s : Cluster)
    (idempotent : ∀ fields, change (change fields) = change fields) :
    nodes.foldl (fun s self => s.modifyNode self change) s =
      { s with node := fun self => if self ∈ nodes then change (s.node self) else s.node self } := by
  induction nodes generalizing s with
  | nil => simp
  | cons first nodes ih =>
    rw [List.foldl_cons, ih]
    simp only [modifyNode, Cluster.mk.injEq, true_and, and_true]
    funext self
    by_cases same : self = first
    · subst same
      simp [idempotent]
    · simp [same]

/-- The loop of `domain_delete` over the nodes, once the entry of the domain is gone. -/
theorem nodesDeleteDomain (domainId : Nat) (s : Cluster) (running : s.valid = true)
    (gone : s.domainHash.lookup domainId = none) :
    nodes.foldl (fun s self => s.nodeDeleteDomain self domainId) s =
      { s with node := fun self =>
          if self ∈ nodes then (s.node self).domainDelete domainId else s.node self } := by
  rw [← foldl_modifyNode nodes (·.domainDelete domainId)]
  · induction nodes generalizing s with
    | nil => rfl
    | cons first nodes ih =>
      rw [List.foldl_cons, List.foldl_cons,
        ← ih (s.modifyNode first (·.domainDelete domainId)) running gone]
      simp [nodeDeleteDomain, leaveDomain, running, gone]
  · intro fields
    simp [DPSNode.domainDelete, Dict.erase_erase_self]

theorem consistent_domainDelete (consistent : s.hosting.Consistent) (domainId : Nat) :
    (s.domainDelete domainId).hosting.Consistent := by
  unfold domainDelete
  split
  · exact consistent
  · next running =>
    have running' : s.valid = true := by simpa using running
    let erased : Cluster := { s with
      domainHash := s.domainHash.erase domainId
      domainReplicationHash := s.domainReplicationHash.erase domainId }
    have gone : erased.domainHash.lookup domainId = none := AList.lookup_erase ..
    dsimp only
    rw [nodesDeleteDomain s.nodeHash.values domainId erased running' gone]
    let node := fun self => if self ∈ s.nodeHash.values then (s.node self).domainDelete domainId
      else s.node self
    have ip : ∀ self, (node self).ip = (s.node self).ip := by
      intro self
      simp only [node]
      split <;> rfl
    -- A node outside the table hosts nothing, so the loop reaches every node with the domain.
    have hosts : ∀ self other, other ∈ (node self).domains ↔
        other ∈ s.hosting.domains self ∧ other ≠ domainId := by
      intro self other
      simp only [node]
      split
      · exact AList.mem_erase.trans and_comm
      · next absent =>
        refine (and_iff_left_of_imp fun hosted => absurd ?_ absent).symm
        exact (Dict.mem_values ..).mpr ⟨_, consistent.hosting self other hosted⟩
    refine ⟨?_, ?_, ?_, consistent.localKnown, consistent.validLocal, ?_, ?_⟩
    · intro other ipVal self
      change erased.hostAt other ipVal = some self ↔
        s.hosting.nodeAt ipVal = some self ∧ other ∈ (node self).domains
      rw [hosts, ← and_assoc, ← consistent.entries]
      simp only [Cluster.hostAt, erased, hosting, Dict.lookup_erase]
      split
      · next equal => simp [equal]
      · next differs => exact (and_iff_left differs).symm
    · intro ipVal self found
      exact (congrArg (_ ∧ · = ipVal) (ip self)).mpr (consistent.members ipVal self found)
    · intro self other inside
      have there := consistent.hosting self other ((hosts self other).mp inside).1
      exact (congrArg s.nodeHash.lookup (ip self)).trans there
    · exact fun stopped => Bool.noConfusion (running'.symm.trans stopped)
    · intro self current
      have before : Records (s.node self) := consistent.records self current
      change Records (node self)
      simp only [node]
      split
      · exact before.domainDelete domainId
      · exact before

/-! ## The table of nodes -/

/-- A node hosts no domain. -/
def HostsNothing (s : Cluster) (self : NodeId) : Prop := (s.node self).domains.keys = []

instance (s : Cluster) (self : NodeId) : Decidable (s.HostsNothing self) :=
  inferInstanceAs (Decidable (_ = _))

theorem HostsNothing.not_mem (nothing : s.HostsNothing self) (domainId : Nat) :
    domainId ∉ s.hosting.domains self := by
  intro hosted
  have key := AList.mem_keys.mp hosted
  rw [nothing] at key
  exact List.not_mem_nil key

section Nodes

variable (consistent : s.hosting.Consistent)

include consistent

/-- A node leaves the table. -/
theorem consistent_nodeDelete (ipVal : IPValue) :
    (s.nodeDelete ipVal).hosting.Consistent := by
  unfold nodeDelete
  split
  · exact consistent
  · next self found =>
    have member := member_of_found consistent found
    have left := consistent_nodeDeleteAllDomains consistent member
    have table : (s.nodeDeleteAllDomains self).nodeHash = s.nodeHash :=
      congrArg (·.1.1) (s.offices_nodeDeleteAllDomains self)
    have nothing : ∀ domainId, domainId ∉ (s.nodeDeleteAllDomains self).hosting.domains self := by
      intro domainId
      cases running : s.valid with
      | false =>
        simp only [nodeDeleteAllDomains, running]
        exact consistent.idle running self domainId
      | true =>
        simp only [nodeDeleteAllDomains, running]
        simp [hosting, modifyNode, DPSNode.domainDeleteAll]
    generalize s.nodeDeleteAllDomains self = t at left table nothing
    have removed : ({ t with
        nodesInDifferentPartitionHint := t.nodesInDifferentPartitionHint.erase self
        nodeHash := t.nodeHash.erase ipVal } : Cluster).hosting.Consistent := by
      have still : ∀ key other, (t.nodeHash.erase ipVal).lookup key = some other →
          t.nodeHash.lookup key = some other := fun key other => Dict.lookup_of_erase
      refine left.retable rfl rfl rfl ?_ ?_ left.localKnown left.validLocal ?_
      · intro other domainId hosted
        have there : t.nodeHash.lookup (t.node other).ip = some other :=
          left.hosting other domainId hosted
        have apart : (t.node other).ip ≠ ipVal := by
          intro equal
          rw [equal, table, found] at there
          exact nothing domainId ((Option.some.inj there) ▸ hosted)
        exact ⟨rfl, (Dict.lookup_erase ..).trans ((if_neg apart).trans there)⟩
      · exact fun key other at_key => left.members key other (still key other at_key)
      · intro other isCurrent
        exact left.records other (isCurrent.imp_left (Exists.imp fun key => still key other))
    dsimp only
    split
    · rw [hosting_leaderElectionRun]
      exact removed
    · exact removed

/-- A node enters the table under its address with the domains it had, where the other hosting
nodes keep their places. -/
theorem consistent_place {fields : DPSNode}
    {table : Dict IPValue NodeId} {localNode : Option NodeId} {nextNode : NodeId}
    (known : self < nextNode) (grows : s.nextNode ≤ nextNode)
    (older : ∀ {ipVal other}, table.lookup ipVal = some other →
      s.nodeHash.lookup ipVal = some other ∧ other ≠ self)
    (domains : ∀ domainId, domainId ∈ fields.domains ↔ domainId ∈ s.hosting.domains self)
    (stays : ∀ domainId ∈ s.hosting.domains self, fields.ip = (s.node self).ip)
    (apart : ∀ other ≠ self, ∀ domainId ∈ s.hosting.domains other,
      (s.node other).ip ≠ fields.ip ∧ table.lookup (s.node other).ip = some other)
    (isLocal : ∀ other, localNode = some other → other = self ∨ s.localNode = some other)
    (present : s.valid → localNode.isSome) (records : Records fields) :
    ({ s with
        node := Function.update s.node self fields
        nextNode, localNode
        nodeHash := table.insert fields.ip self } : Cluster).hosting.Consistent := by
  have changed : Function.update s.node self fields self = fields := Function.update_self ..
  have others : ∀ other, other ≠ self → Function.update s.node self fields other = s.node other :=
    fun other differs => Function.update_of_ne differs ..
  have sets : { domainId | domainId ∈ fields.domains } = s.hosting.domains self :=
    Set.ext domains
  refine consistent.retable rfl rfl ?_ ?_ ?_ ?_ present ?_
  · funext other
    by_cases same : other = self
    · simp only [same, hosting, changed]
      exact sets
    · simp only [hosting, others other same]
  · intro other domainId hosted
    by_cases same : other = self
    · subst same
      simp only [hosting, changed, ← stays domainId hosted, AList.lookup_insert, true_and]
    · obtain ⟨differs, there⟩ := apart other same domainId hosted
      simp only [hosting, others other same, Dict.lookup_insert, if_neg differs, there, true_and]
  · intro ipVal other found
    simp only [hosting, Dict.lookup_insert] at found ⊢
    split at found
    · next here =>
      cases found
      rw [changed]
      exact ⟨known, here.symm⟩
    · obtain ⟨found, differs⟩ := older found
      obtain ⟨before, address⟩ := consistent.members ipVal other found
      rw [others other differs]
      exact ⟨before.trans_le grows, address⟩
  · intro other isThis
    rcases isLocal other isThis with same | before
    · exact same ▸ known
    · exact (consistent.localKnown other before).trans_le grows
  · intro other current
    by_cases same : other = self
    · subst same
      rw [← sets]
      simp only [hosting, changed]
      exact records
    · simp only [hosting, others other same]
      refine consistent.records other (current.imp ?_ fun isThis =>
        (isLocal other isThis).resolve_left same)
      rintro ⟨ipVal, found⟩
      simp only [hosting, Dict.lookup_insert] at found
      split at found
      · exact absurd (Option.some.inj found).symm same
      · exact ⟨ipVal, (older found).1⟩

/-- A new node without domains enters the table, where a node at its address hosted nothing. -/
theorem consistent_enroll (fields : DPSNode)
    (domains : fields.domains = ∅) (deactivated : fields.domainsDeactivated = ∅)
    (statistics : fields.domainStatistics = ∅)
    (free : ∀ other ∈ s.nodeHash.lookup fields.ip, s.HostsNothing other)
    (localNode : Option NodeId)
    (isLocal : ∀ self, localNode = some self → self = s.nextNode ∨ s.localNode = some self)
    (present : s.valid → localNode.isSome) :
    ({ s with
        node := Function.update s.node s.nextNode fields
        nextNode := s.nextNode + 1
        nodeHash := s.nodeHash.insert fields.ip s.nextNode
        localNode } : Cluster).hosting.Consistent := by
  have older : ∀ {ipVal other}, s.nodeHash.lookup ipVal = some other →
      s.nodeHash.lookup ipVal = some other ∧ other ≠ s.nextNode :=
    fun found => ⟨found, (consistent.members _ _ found).1.ne⟩
  have unhosted : ∀ domainId, domainId ∉ s.hosting.domains s.nextNode :=
    fun domainId hosted => (older (consistent.hosting _ domainId hosted)).2 rfl
  refine consistent_place consistent (Nat.lt_succ_self _) (Nat.le_succ _) older ?_
    (fun domainId hosted => absurd hosted (unhosted domainId)) ?_ isLocal present ?_
  · intro domainId
    rw [domains]
    exact iff_of_false (AList.notMem_empty domainId) (unhosted domainId)
  · intro other _ domainId hosted
    have there := consistent.hosting other domainId hosted
    exact ⟨fun taken => (free other (taken ▸ there)).not_mem domainId hosted, there⟩
  · rw [Records, domains, deactivated, statistics]
    exact ⟨le_rfl, rfl⟩

theorem consistent_nodeAdd (ipType : InetType) (ipVal : IPValue) (port : Nat)
    (contacted hinted : ℚ)
    (free : ∀ other ∈ s.nodeHash.lookup ipVal, s.HostsNothing other) :
    (s.nodeAdd ipType ipVal port contacted hinted).hosting.Consistent := by
  unfold nodeAdd
  split
  · exact consistent
  · let fields : DPSNode := { DPSNode.create false ipType ipVal port contacted hinted with
      state := if s.leaderLocal then .hintDown else .up }
    have enrolled := consistent_enroll consistent fields rfl rfl rfl free s.localNode
      (fun self isLocal => .inr isLocal) consistent.validLocal
    simp only [allocate, Function.update_self]
    exact enrolled

/-- The local node moves to another address. Neither address belongs to another hosting node, and
the local node hosts nothing unless its address stays. -/
theorem consistent_moveLocal (isLocal : s.localNode = some self) (change : DPSNode → DPSNode)
    (keeps : (change (s.node self)).domains = (s.node self).domains ∧
      (change (s.node self)).domainsDeactivated = (s.node self).domainsDeactivated ∧
      (change (s.node self)).domainStatistics = (s.node self).domainStatistics)
    (stays : (change (s.node self)).ip = (s.node self).ip ∨ s.HostsNothing self)
    (left : ∀ other ∈ s.nodeHash.lookup (s.node self).ip, other = self ∨ s.HostsNothing other)
    (free : ∀ other ∈ s.nodeHash.lookup (change (s.node self)).ip,
      other = self ∨ s.HostsNothing other) :
    ({ s.modifyNode self change with
        nodeHash := (s.nodeHash.erase (s.node self).ip).insert (change (s.node self)).ip self
        localNode := some self } : Cluster).hosting.Consistent := by
  refine consistent_place consistent (consistent.localKnown self isLocal) le_rfl ?_ ?_ ?_ ?_
    (fun other isThis => .inl (Option.some.inj isThis).symm) (fun _ => rfl) ?_
  · intro ipVal other found
    refine ⟨Dict.lookup_of_erase found, ?_⟩
    rintro rfl
    have address : (s.node other).ip = ipVal :=
      (consistent.members ipVal other (Dict.lookup_of_erase found)).2
    rw [address, AList.lookup_erase] at found
    cases found
  · exact fun _ => keeps.1 ▸ Iff.rfl
  · exact fun domainId hosted => stays.resolve_right fun nothing => nothing.not_mem domainId hosted
  · intro other differs domainId hosted
    have there := consistent.hosting other domainId hosted
    have elsewhere : ∀ ipVal, (∀ occupant ∈ s.nodeHash.lookup ipVal,
        occupant = self ∨ s.HostsNothing occupant) → (s.node other).ip ≠ ipVal := by
      intro ipVal unoccupied equal
      have occupied : s.nodeHash.lookup ipVal = some other := equal ▸ there
      exact ((unoccupied other occupied).resolve_left differs).not_mem domainId hosted
    exact ⟨elsewhere _ free, (Dict.lookup_erase ..).trans ((if_neg (elsewhere _ left)).trans there)⟩
  · have before : Records (s.node self) := consistent.records self (.inr isLocal)
    rw [Records, keeps.1, keeps.2.1, keeps.2.2]
    exact before

theorem consistent_nodeUpdateLocal (ipType : InetType) (ipVal : IPValue) (port : Nat)
    (contacted hinted : ℚ)
    (stays : ∀ self ∈ s.localNode, ipVal = (s.node self).ip ∨ s.HostsNothing self)
    (left : ∀ self ∈ s.localNode, ∀ other ∈ s.nodeHash.lookup (s.node self).ip,
      other = self ∨ s.HostsNothing other)
    (free : ∀ other ∈ s.nodeHash.lookup ipVal,
      s.localNode = some other ∨ s.HostsNothing other) :
    (s.nodeUpdateLocal ipType ipVal port contacted hinted).hosting.Consistent := by
  unfold nodeUpdateLocal
  cases isLocal : s.localNode with
  | some self =>
    have moved := consistent_moveLocal consistent isLocal
      (fun n => { n with flocal := true, location := .create ipType ipVal port })
      ⟨rfl, rfl, rfl⟩ (stays self isLocal) (left self isLocal)
      (fun other found => (free other found).imp_left fun same =>
        (Option.some.inj (isLocal.symm.trans same)).symm)
    simp only [modifyNode, Function.update_self]
    exact moved
  | none =>
    have enrolled := consistent_enroll consistent
      (DPSNode.create true ipType ipVal port contacted hinted) rfl rfl rfl
      (fun other found => (free other found).resolve_left (by simp [isLocal]))
      (some s.nextNode) (fun self isThis => .inl (Option.some.inj isThis).symm) (fun _ => rfl)
    simp only [allocate, Function.update_self]
    exact enrolled

end Nodes

/-! ## Deleting the cluster -/

/-- Without nodes in the tables and without hosted domains only the local node has records. -/
theorem Hosting.Consistent.of_empty {h : Hosting} (stopped : h.valid = false)
    (nodeAt : ∀ ipVal, h.nodeAt ipVal = none)
    (hostAt : ∀ domainId ipVal, h.hostAt domainId ipVal = none)
    (domains : ∀ self domainId, domainId ∉ h.domains self)
    (localKnown : ∀ self, h.localNode = some self → self < h.nextNode)
    (records : ∀ self, h.localNode = some self →
      h.deactivated self ⊆ h.domains self ∧ h.statistics self = h.domains self) : h.Consistent where
  entries _ _ _ := iff_of_false (by simp [hostAt]) (by simp [nodeAt])
  members _ _ found := by simp [nodeAt] at found
  hosting self domainId hosted := absurd hosted (domains self domainId)
  localKnown := localKnown
  validLocal running := by simp [stopped] at running
  idle _ := domains
  records self current := records self (current.resolve_left (by simp [nodeAt]))

theorem consistent_delete (consistent : s.hosting.Consistent)
    (idle : ∀ self ∈ s.localNode, s.HostsNothing self) : s.delete.hosting.Consistent := by
  let node := fun self => if self ∈ s.nodeHash.values then { s.node self with domains := ∅ }
    else s.node self
  have nothing : ∀ self domainId, domainId ∉ (node self).domains := by
    intro self domainId hosted
    simp only [node] at hosted
    split at hosted
    · exact AList.notMem_empty domainId hosted
    · next absent =>
      exact absent ((Dict.mem_values ..).mpr ⟨_, consistent.hosting self domainId hosted⟩)
  have kept : ∀ self, (node self).domainsDeactivated = (s.node self).domainsDeactivated ∧
      (node self).domainStatistics = (s.node self).domainStatistics := by
    intro self
    simp only [node]
    split <;> exact ⟨rfl, rfl⟩
  unfold delete
  dsimp only
  rw [foldl_modifyNode s.nodeHash.values (fun n => { n with domains := ∅ }) s fun _ => rfl]
  refine .of_empty rfl (fun _ => rfl) (fun _ _ => rfl) nothing consistent.localKnown ?_
  intro self isLocal
  obtain ⟨deactivated, statistics⟩ := consistent.records self (.inr isLocal)
  have hostless := (idle self isLocal).not_mem
  refine ⟨fun domainId stopped => ?_, Set.ext fun domainId => ?_⟩
  · change domainId ∈ (node self).domainsDeactivated at stopped
    rw [(kept self).1] at stopped
    exact absurd (deactivated stopped) (hostless domainId)
  · change domainId ∈ (node self).domainStatistics ↔ _
    rw [(kept self).2]
    exact iff_of_false (fun counted => hostless domainId (statistics ▸ counted))
      (nothing self domainId)

/-! ## Runs -/

/-- The address of a hosting node is neither changed nor taken by another node, and the cluster is
not deleted while the local node hosts a domain. -/
def KeepsHosts (s : Cluster) : ClusterEvent → Prop
  | .nodeAdd _ ipVal _ _ _ => ∀ other ∈ s.nodeHash.lookup ipVal, s.HostsNothing other
  | .nodeUpdateLocal _ ipVal _ _ _ =>
    (∀ self ∈ s.localNode, ipVal = (s.node self).ip ∨ s.HostsNothing self) ∧
    (∀ self ∈ s.localNode, ∀ other ∈ s.nodeHash.lookup (s.node self).ip,
      other = self ∨ s.HostsNothing other) ∧
    ∀ other ∈ s.nodeHash.lookup ipVal, s.localNode = some other ∨ s.HostsNothing other
  | .nodeLocalActivate factive =>
    factive = false → ∀ self ∈ s.localNode, s.nodeInactivateAllow self → s.HostsNothing self
  | .delete => ∀ self ∈ s.localNode, s.HostsNothing self
  | _ => True

instance (s : Cluster) : (event : ClusterEvent) → Decidable (s.KeepsHosts event)
  | .nodeAdd .. => inferInstanceAs (Decidable (∀ other ∈ _, s.HostsNothing other))
  | .nodeUpdateLocal .. => inferInstanceAs (Decidable (_ ∧ _ ∧ _))
  | .nodeLocalActivate _ => inferInstanceAs (Decidable (_ → _))
  | .delete => inferInstanceAs (Decidable (∀ self ∈ s.localNode, s.HostsNothing self))
  | .nodeAddRequest .. | .nodeDelete _ | .nodesUpdate .. | .nodeAddDomain .. | .nodeDeleteDomain ..
  | .nodeDeleteAllDomains _ | .domainDelete _ | .domainActivate .. | .domainDeactivate ..
  | .nodeSetDomainMapping .. | .nodeTouch .. | .nodeInactivate _ | .nodeHintDown ..
  | .nodeHeartbeat .. | .nodeHeartbeatRequest _ | .nodeHeartbeatProcess _ | .nodesStatus ..
  | .electionRun | .timeoutTimer _ | .leaderTimer _ | .nonLeaderTimer _ =>
    inferInstanceAs (Decidable True)

/-- Every path keeps the records in agreement. -/
theorem Path.consistent {sees : NodeId → DPSNode.Sighting → Prop} {s t : Cluster}
    {held : List Cluster} (path : Path sees s held t) (consistent : s.hosting.Consistent) :
    t.hosting.Consistent := by
  induction path with
  | @note s t same =>
    have kept : t.hosting = s.hosting := by
      simp only [core, Prod.mk.injEq] at same
      obtain ⟨valid, nodeHash, domainHash, localNode, -, node, nextNode⟩ := same
      have hosts : t.hostAt = s.hostAt := by
        unfold hostAt
        rw [domainHash]
      simp only [hosting, valid, nodeHash, hosts, localNode, node, nextNode]
    exact kept ▸ consistent
  | trans _ _ first second => exact second (first consistent)
  | elect s => exact s.hosting_leaderElectionRun ▸ consistent
  | appoint found => exact consistent
  | write self fields maps seen =>
    exact hosting_modifyNode _ self (fun _ => fields) maps ▸ consistent
  | redomain found fields ip watch domains records =>
    exact consistent_modifyNode consistent (member_of_found consistent found) (fun _ => fields) ip
      domains records
  | nodeDeleteDomain found domainId =>
    exact consistent_nodeDeleteDomain consistent (member_of_found consistent found) domainId
  | nodeDeleteAllDomains found =>
    exact consistent_nodeDeleteAllDomains consistent (member_of_found consistent found)
  | domainDelete s domainId => exact consistent_domainDelete consistent domainId
  | nodeAddDomain s ipVal domainId replicationFactor =>
    unfold nodeAddDomainRequest
    split
    · exact consistent
    · next found =>
      exact consistent_nodeAddDomain consistent (member_of_found consistent found) domainId
        replicationFactor
  | nodeAdd ipType port contacted hinted unknown =>
    exact consistent_nodeAdd consistent ipType _ port contacted hinted
      fun other found => absurd found (by simp [unknown])
  | nodeDelete s ipVal => exact consistent_nodeDelete consistent ipVal

theorem consistent_nodeLocalActivate (consistent : s.hosting.Consistent) (factive : Bool)
    (idle : factive = false → ∀ self ∈ s.localNode, s.nodeInactivateAllow self →
      s.HostsNothing self) : (s.nodeLocalActivate factive).hosting.Consistent := by
  unfold nodeLocalActivate
  split
  · exact consistent
  · next self isLocal =>
    split
    · have started : s.startThreads.hosting.Consistent :=
        ⟨consistent.entries, consistent.members, consistent.hosting, consistent.localKnown,
          fun _ => by simp [hosting, startThreads, isLocal], nofun, consistent.records⟩
      exact s.startThreads.hosting_modifyNode self (fun n => { n with state := .up }) rfl ▸ started
    · next stopping =>
      split
      · next allowed =>
        refine consistent_delete (s := { s.modifyNode self (fun n => { n with state := .inactive })
          with leaderElectionTrigger := false }) ?_ ?_
        · exact s.hosting_modifyNode self (fun n => { n with state := .inactive }) rfl ▸ consistent
        · intro other isThis
          have equal : other = self := (Option.some.inj (isLocal.symm.trans isThis)).symm
          have nothing := idle (by simpa using stopping) self isLocal allowed
          subst equal
          simp only [HostsNothing, modifyNode, Function.update_self]
          exact nothing
      · exact consistent

theorem consistent_step (consistent : s.hosting.Consistent) (event : ClusterEvent)
    (keeps : s.KeepsHosts event) : (s.step event).hosting.Consistent := by
  cases event with
  | nodeAdd ipType ipVal port contacted hinted =>
    exact consistent_nodeAdd consistent ipType ipVal port contacted hinted keeps
  | nodeUpdateLocal ipType ipVal port contacted hinted =>
    obtain ⟨stays, left, free⟩ := keeps
    exact consistent_nodeUpdateLocal consistent ipType ipVal port contacted hinted stays left free
  | nodeLocalActivate factive => exact consistent_nodeLocalActivate consistent factive keeps
  | delete => exact consistent_delete consistent keeps
  | _ =>
    refine Path.consistent (.step s _ ?_) consistent
    exact True.intro

theorem consistent_initial : initial.hosting.Consistent :=
  .of_empty rfl (fun _ => rfl) (fun _ _ => rfl) (fun _ => AList.notMem_empty) nofun nofun

/-- The maps from nodes to domains and from domains to nodes are inverse to each other after every
run that keeps the addresses of hosting nodes. -/
theorem node_and_domain_maps_are_inverse (events : List ClusterEvent)
    (admissible : Admissible step KeepsHosts initial events) :
    (run step initial events).Inverse :=
  .of_consistent (run_invariant (fun s => s.hosting.Consistent)
    (fun _ event consistent keeps => consistent_step consistent event keeps)
    consistent_initial admissible)

/-- Two nodes host domain 5. The remote one has it deactivated and comes back with domain 6. -/
theorem node_and_domain_maps_are_inverse_two_nodes :
    Admissible step KeepsHosts initial
      [.nodeUpdateLocal .inet (.v4 1) 902 0 0, .nodeLocalActivate true,
        .nodeAddRequest .inet (.v4 2) 902 1 1, .nodeAddDomain (.v4 1) 5 2,
        .nodeAddDomain (.v4 2) 5 2, .domainDeactivate (.v4 2) 5,
        .nodeSetDomainMapping (.v4 2) ((∅ : Dict Nat Nat).insert 6 2), .nodeDelete (.v4 1)] ∧
    (run step initial
      [.nodeUpdateLocal .inet (.v4 1) 902 0 0, .nodeLocalActivate true,
        .nodeAddRequest .inet (.v4 2) 902 1 1, .nodeAddDomain (.v4 1) 5 2,
        .nodeAddDomain (.v4 2) 5 2, .domainDeactivate (.v4 2) 5,
        .nodeSetDomainMapping (.v4 2) ((∅ : Dict Nat Nat).insert 6 2),
        .nodeDelete (.v4 1)]).Inverse :=
  have admissible : Admissible step KeepsHosts initial _ := by decide +kernel
  ⟨admissible, node_and_domain_maps_are_inverse _ admissible⟩

/-- A local node that hosts domain 5 moves to another address: the entry of the domain keeps the
old one. And a cluster is deleted under a local node that hosts domain 5: the node keeps the
statistics of a domain that it no longer has. -/
theorem node_and_domain_maps_disagree :
    ¬ (run step initial
      [.nodeUpdateLocal .inet (.v4 1) 902 0 0, .nodeLocalActivate true,
        .nodeAddDomain (.v4 1) 5 2, .nodeUpdateLocal .inet (.v4 2) 902 0 0]).Inverse ∧
    ¬ (run step initial
      [.nodeUpdateLocal .inet (.v4 1) 902 0 0, .nodeLocalActivate true,
        .nodeAddDomain (.v4 1) 5 2, .delete]).Inverse := by
  constructor
  · intro inverse
    have found := (inverse.hosts 0 (.inr (by decide +kernel)) 5).mp
      (AList.lookup_isSome.mp (by decide +kernel))
    exact absurd found (by decide +kernel)
  · intro inverse
    have hosted := (inverse.statistics 0 (.inr (by decide +kernel)) 5).mp
      (AList.lookup_isSome.mp (by decide +kernel))
    exact absurd (AList.lookup_isSome.mpr hosted) (by decide +kernel)

end Cluster

end OpenDove
