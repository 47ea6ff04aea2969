import OpenDove.ClusterPaths

/-!
# Nodes and the domains they host

The cluster records twice which node hosts which domain: each node keeps its domains, and the
cluster keeps for every domain the nodes that host it, under their addresses. Here the two records
are shown to agree in every run in which the address of a hosting node is neither changed nor
taken by another node, and the cluster is not deleted under a hosting local node.
-/

namespace OpenDove

variable (s : Cluster) (self : NodeId) (domainId : Nat) (ipVal : IPValue)

namespace Cluster

/-- The node that the entry of a domain holds under an address. -/
def hostAt (s : Cluster) (domainId : Nat) (ipVal : IPValue) : Option NodeId :=
  (s.domainHash.lookup domainId).bind fun mapping => mapping.lookup ipVal

/-- A node records a domain as one of its own. -/
def Hosts (s : Cluster) (self : NodeId) (domainId : Nat) : Prop :=
  domainId ∈ (s.node self).domains

/-- A node in the table of nodes, or the local node. -/
def Current (s : Cluster) (self : NodeId) : Prop :=
  (∃ ipVal, s.nodeHash.lookup ipVal = some self) ∨ s.localNode = some self

/-- The two records of the cluster agree, and each node keeps the deactivation and the statistics
of its own domains. -/
structure Inverse (s : Cluster) : Prop where
  hosts : ∀ self, s.Current self → ∀ domainId,
    s.Hosts self domainId ↔ s.hostAt domainId (s.node self).ip = some self
  entries : ∀ domainId ipVal self, s.hostAt domainId ipVal = some self →
    s.Current self ∧ (s.node self).ip = ipVal
  deactivated : ∀ self, s.Current self → ∀ domainId,
    domainId ∈ (s.node self).domainsDeactivated → s.Hosts self domainId
  statistics : ∀ self, s.Current self → ∀ domainId,
    domainId ∈ (s.node self).domainStatistics ↔ s.Hosts self domainId

/-! ## The hosting relation -/

/-- What the cluster says about which node hosts what, as functions and sets. -/
@[ext] structure Hosting where
  valid : Bool
  nodeAt : IPValue → Option NodeId
  hostAt : Nat → IPValue → Option NodeId
  localNode : Option NodeId
  nextNode : NodeId
  ip : NodeId → IPValue
  domains : NodeId → Set Nat
  deactivated : NodeId → Set Nat
  statistics : NodeId → Set Nat

/-- The hosting relation of a cluster. -/
def hosting (s : Cluster) : Hosting where
  valid := s.valid
  nodeAt ipVal := s.nodeHash.lookup ipVal
  hostAt := s.hostAt
  localNode := s.localNode
  nextNode := s.nextNode
  ip self := (s.node self).ip
  domains self := { domainId | domainId ∈ (s.node self).domains }
  deactivated self := { domainId | domainId ∈ (s.node self).domainsDeactivated }
  statistics self := { domainId | domainId ∈ (s.node self).domainStatistics }

/-- A change of one node that keeps its address and its domains keeps the hosting relation. -/
theorem hosting_modifyNode (change : DPSNode → DPSNode)
    (keeps : nodeMaps (change (s.node self)) = nodeMaps (s.node self)) :
    (s.modifyNode self change).hosting = s.hosting := by
  have same : ∀ other, nodeMaps ((s.modifyNode self change).node other) =
      nodeMaps (s.node other) := update_keeps nodeMaps s.node keeps
  simp only [nodeMaps, Prod.mk.injEq] at same
  ext1
  · rfl
  · rfl
  · rfl
  · rfl
  · rfl
  · exact funext fun other => (same other).1
  · exact funext fun other => congrArg (fun table => { d | d ∈ table }) (same other).2.1
  · exact funext fun other => congrArg (fun table => { d | d ∈ table }) (same other).2.2.1
  · exact funext fun other => congrArg (fun table => { d | d ∈ table }) (same other).2.2.2

theorem hosting_leaderElectionRun : s.leaderElectionRun.1.hosting = s.hosting := by
  unfold leaderElectionRun
  split <;> rfl

/-! ## The invariant -/

/-- A node in the table of nodes, or the local node. -/
def Hosting.Current (h : Hosting) (self : NodeId) : Prop :=
  (∃ ipVal, h.nodeAt ipVal = some self) ∨ h.localNode = some self

/-- The two records of the hosting relation agree: under an address a domain has the node of the
table if that node hosts it. A node that hosts a domain is in the table under its address. -/
structure Hosting.Consistent (h : Hosting) : Prop where
  entries : ∀ domainId ipVal self, h.hostAt domainId ipVal = some self ↔
    h.nodeAt ipVal = some self ∧ domainId ∈ h.domains self
  members : ∀ ipVal self, h.nodeAt ipVal = some self → self < h.nextNode ∧ h.ip self = ipVal
  hosting : ∀ self domainId, domainId ∈ h.domains self → h.nodeAt (h.ip self) = some self
  localKnown : ∀ self, h.localNode = some self → self < h.nextNode
  validLocal : h.valid → h.localNode.isSome
  idle : h.valid = false → ∀ self domainId, domainId ∉ h.domains self
  records : ∀ self, h.Current self →
    h.deactivated self ⊆ h.domains self ∧ h.statistics self = h.domains self

theorem Records.domainDelete {node : DPSNode} (records : Records node) (domainId : Nat) :
    Records (node.domainDelete domainId) := by
  refine ⟨fun other stopped => ?_, Set.ext fun other => ?_⟩
  · obtain ⟨differs, stopped⟩ := AList.mem_erase.mp stopped
    exact AList.mem_erase.mpr ⟨differs, records.1 stopped⟩
  · exact AList.mem_erase.trans ((and_congr_right' (Set.ext_iff.mp records.2 other)).trans
      AList.mem_erase.symm)

theorem Records.domainAdd {node : DPSNode} (records : Records node)
    (domainId replicationFactor : Nat) : Records (node.domainAdd domainId replicationFactor).1 := by
  refine ⟨fun other stopped => (AList.mem_insert _).mpr (.inr (records.1 stopped)),
    Set.ext fun other => ?_⟩
  exact (AList.mem_insert _).trans ((or_congr_right (Set.ext_iff.mp records.2 other)).trans
    (AList.mem_insert _).symm)

/-- A routine that changes the table of nodes keeps the records in agreement if the hosting nodes
keep their addresses and their places. -/
theorem Hosting.Consistent.retable {h after : Hosting} (consistent : h.Consistent)
    (valid : after.valid = h.valid) (hostAt : after.hostAt = h.hostAt)
    (domains : after.domains = h.domains)
    (stays : ∀ self domainId, domainId ∈ h.domains self →
      after.ip self = h.ip self ∧ after.nodeAt (h.ip self) = some self)
    (members : ∀ ipVal self, after.nodeAt ipVal = some self →
      self < after.nextNode ∧ after.ip self = ipVal)
    (localKnown : ∀ self, after.localNode = some self → self < after.nextNode)
    (validLocal : h.valid → after.localNode.isSome)
    (records : ∀ self, after.Current self →
      after.deactivated self ⊆ h.domains self ∧ after.statistics self = h.domains self) :
    after.Consistent := by
  refine ⟨?_, members, ?_, localKnown, valid ▸ validLocal, ?_, domains ▸ records⟩
  · intro domainId ipVal self
    rw [hostAt, domains, consistent.entries]
    refine and_congr_left fun inside => ⟨fun found => ?_, fun found => ?_⟩
    · rw [← (consistent.members ipVal self found).2]
      exact (stays self domainId inside).2
    · rw [← (members ipVal self found).2, (stays self domainId inside).1]
      exact consistent.hosting self domainId inside
  · intro self domainId inside
    rw [domains] at inside
    rw [(stays self domainId inside).1]
    exact (stays self domainId inside).2
  · rw [valid, domains]
    exact consistent.idle

/-- The records of a consistent cluster agree. -/
theorem Inverse.of_consistent {s : Cluster} (consistent : s.hosting.Consistent) : s.Inverse where
  hosts self _ domainId := by
    refine ⟨fun hosted => ?_, fun found => ((consistent.entries ..).mp found).2⟩
    exact (consistent.entries ..).mpr ⟨consistent.hosting self domainId hosted, hosted⟩
  entries domainId ipVal self found := by
    obtain ⟨member, -⟩ := (consistent.entries domainId ipVal self).mp found
    exact ⟨.inl ⟨ipVal, member⟩, (consistent.members ipVal self member).2⟩
  deactivated self current _ stopped := (consistent.records self current).1 stopped
  statistics self current domainId := Set.ext_iff.mp (consistent.records self current).2 domainId

/-! ## One node -/

theorem hostAt_leaveDomain (other : Nat) (ipVal ipVal' : IPValue) :
    (s.leaveDomain domainId ipVal).hostAt other ipVal' =
      if other = domainId ∧ ipVal' = ipVal then none else s.hostAt other ipVal' := by
  by_cases same : other = domainId
  · subst same
    unfold leaveDomain
    cases found : s.domainHash.lookup other with
    | none => simp [hostAt, found]
    | some mapping =>
      dsimp only
      split
      · split
        · next few =>
          have gone : ∀ key, (mapping.erase ipVal).lookup key = none := by
            have none : (mapping.erase ipVal).entries = [] := List.length_eq_zero_iff.mp few
            intro key
            change List.dlookup key (mapping.erase ipVal).entries = _
            rw [none, List.dlookup_nil]
          have left := gone ipVal'
          rw [Dict.lookup_erase] at left
          simp only [hostAt, found, AList.lookup_erase, Option.bind_none, Option.bind_some]
          split
          · rfl
          · next differs =>
            have apart : ipVal' ≠ ipVal := fun equal => differs ⟨trivial, equal⟩
            rw [if_neg apart] at left
            exact left.symm
        · simp only [hostAt, found, AList.lookup_insert, Option.bind_some, Dict.lookup_erase,
            true_and]
      · next missing =>
        simp only [Bool.not_eq_true, Option.isSome_eq_false_iff, Option.isNone_iff_eq_none]
          at missing
        simp only [hostAt, found, Option.bind_some, true_and]
        split
        · next equal => rw [equal, missing]
        · rfl
  · rw [if_neg fun both => same both.1]
    unfold leaveDomain
    split
    · rfl
    · split
      · dsimp only
        split
        · simp only [hostAt, Dict.lookup_erase, if_neg same]
        · simp only [hostAt, Dict.lookup_insert, if_neg same]
      · rfl

/-- Only the entries of the domains change when a node leaves one. -/
theorem leaveDomain_eq :
    s.leaveDomain domainId ipVal =
      { s with domainHash := (s.leaveDomain domainId ipVal).domainHash } := by
  unfold leaveDomain
  split
  · rfl
  · split
    · dsimp only
      split <;> rfl
    · rfl

/-- A node leaves several domains: only the entries change, and those of these domains lose it. -/
theorem leaveDomains (domainIds : List Nat) (s : Cluster) :
    ∃ domainHash, domainIds.foldl (fun s domainId => s.leaveDomain domainId (s.node self).ip) s =
        { s with domainHash } ∧
      ∀ domainId ipVal, ({ s with domainHash } : Cluster).hostAt domainId ipVal =
        if domainId ∈ domainIds ∧ ipVal = (s.node self).ip then none
        else s.hostAt domainId ipVal := by
  induction domainIds generalizing s with
  | nil => exact ⟨s.domainHash, rfl, fun _ _ => by simp⟩
  | cons first domainIds ih =>
    have left := s.leaveDomain_eq first (s.node self).ip
    have entry := fun domainId => s.hostAt_leaveDomain first domainId (s.node self).ip
    generalize (s.leaveDomain first (s.node self).ip).domainHash = entered at left
    rw [left] at entry
    obtain ⟨domainHash, after, entries⟩ := ih { s with domainHash := entered }
    refine ⟨domainHash, ?_, ?_⟩
    · rw [List.foldl_cons, left]
      exact after
    · intro domainId ipVal
      have later := entries domainId ipVal
      rw [entry] at later
      refine later.trans ?_
      by_cases address : ipVal = (s.node self).ip <;> by_cases equal : domainId = first <;>
        simp [address, equal]

theorem hostAt_enterDomain (other : Nat) (self : NodeId) (ipVal : IPValue) :
    (s.enterDomain domainId self).hostAt other ipVal =
      if other = domainId ∧ ipVal = (s.node self).ip then some self
      else s.hostAt other ipVal := by
  unfold enterDomain hostAt
  by_cases same : other = domainId
  · subst same
    simp only [AList.lookup_insert, Option.bind_some, Dict.lookup_insert, true_and]
    cases s.domainHash.lookup other <;> simp
  · simp [same]

/-- With a local node, an election after a partition changes only the leader and the hints. -/
theorem rejoins (fPartition : Bool) (present : s.localNode.isSome) :
    ∃ leader nodesInDifferentPartitionHint,
      (if fPartition then s.rejoin self else (s, false)) =
        ({ s with leader, nodesInDifferentPartitionHint }, false) := by
  have heard : s.localNode.isNone = false := by simpa using present
  cases fPartition with
  | false => exact ⟨s.leader, s.nodesInDifferentPartitionHint, rfl⟩
  | true =>
    simp only [if_true, rejoin, leaderElectionRun]
    split
    · exact ⟨s.leader, _, rfl⟩
    · next winner _ => exact ⟨some winner, _, by rw [heard]⟩

/-- A node of the table is found under its address. -/
theorem member_of_found {s : Cluster} (consistent : s.hosting.Consistent) {ipVal : IPValue}
    {self : NodeId} (found : s.nodeHash.lookup ipVal = some self) :
    s.nodeHash.lookup (s.node self).ip = some self := by
  have address : (s.node self).ip = ipVal := (consistent.members ipVal self found).2
  rw [address]
  exact found

section Routines

variable {s : Cluster} (consistent : s.hosting.Consistent) {self : NodeId}
  (member : s.nodeHash.lookup (s.node self).ip = some self)

include consistent member

/-- Under the address of a node in the table, a domain has that node if the node hosts it. -/
theorem hostAt_own {domainId : Nat} {host : NodeId} :
    s.hostAt domainId (s.node self).ip = some host ↔
      host = self ∧ domainId ∈ (s.node self).domains := by
  refine (consistent.entries ..).trans ?_
  change s.nodeHash.lookup (s.node self).ip = some host ∧ domainId ∈ (s.node host).domains ↔ _
  rw [member, Option.some.injEq, eq_comm]
  refine and_congr_right ?_
  rintro rfl
  rfl

/-- A node changes its domains, in its own records and in the entries. -/
theorem consistent_rehost {fields : DPSNode} {domainHash : Dict Nat (Dict IPValue NodeId)}
    {leader : Option NodeId} {domainReplicationHash : Dict Nat Nat}
    {nodesInDifferentPartitionHint : Dict NodeId Nat} (ip : fields.ip = (s.node self).ip)
    (entries : ∀ domainId ipVal host,
      ({ s with domainHash } : Cluster).hostAt domainId ipVal = some host ↔
        if ipVal = (s.node self).ip then host = self ∧ domainId ∈ fields.domains
        else s.hostAt domainId ipVal = some host)
    (idle : s.valid = false → ∀ domainId ∈ fields.domains, domainId ∈ (s.node self).domains)
    (records : Records (s.node self) → Records fields) :
    ({ s with
        node := Function.update s.node self fields
        domainHash, leader, domainReplicationHash
        nodesInDifferentPartitionHint } : Cluster).hosting.Consistent := by
  have changed : Function.update s.node self fields self = fields := Function.update_self ..
  have others : ∀ host, host ≠ self → Function.update s.node self fields host = s.node host :=
    fun host differs => Function.update_of_ne differs ..
  have address : ∀ host, (Function.update s.node self fields host).ip = (s.node host).ip :=
    update_keeps DPSNode.ip s.node ip
  refine ⟨?_, ?_, ?_, consistent.localKnown, consistent.validLocal, ?_, ?_⟩
  · intro domainId ipVal host
    refine (entries domainId ipVal host).trans ?_
    simp only [hosting]
    by_cases here : ipVal = (s.node self).ip
    · rw [if_pos here, here, member, Option.some.injEq, eq_comm]
      refine and_congr_right ?_
      rintro rfl
      rw [changed]
      rfl
    · rw [if_neg here]
      refine (consistent.entries ..).trans (and_congr_right fun found => ?_)
      have differs : host ≠ self := by
        rintro rfl
        exact here (consistent.members ipVal host found).2.symm
      rw [others host differs]
      rfl
  · intro ipVal host found
    simp only [hosting, address]
    exact consistent.members ipVal host found
  · intro host domainId inside
    simp only [hosting, address] at inside ⊢
    by_cases same : host = self
    · rw [same, member]
    · rw [others host same] at inside
      exact consistent.hosting host domainId inside
  · intro stopped host domainId inside
    simp only [hosting] at inside
    refine consistent.idle stopped host domainId ?_
    by_cases same : host = self
    · subst same
      exact idle stopped domainId (changed ▸ inside)
    · rw [others host same] at inside
      exact inside
  · intro host current
    have before := consistent.records host current
    simp only [hosting]
    by_cases same : host = self
    · subst same
      rw [changed]
      exact records before
    · rw [others host same]
      exact before

/-- A node withdraws from some domains. -/
theorem consistent_withdraw {domainHash : Dict Nat (Dict IPValue NodeId)}
    (change : DPSNode → DPSNode) (ip : (change (s.node self)).ip = (s.node self).ip)
    (removed : Nat → Prop) [DecidablePred removed]
    (entries : ∀ domainId ipVal, ({ s with domainHash } : Cluster).hostAt domainId ipVal =
      if removed domainId ∧ ipVal = (s.node self).ip then none else s.hostAt domainId ipVal)
    (domains : ∀ domainId, domainId ∈ (change (s.node self)).domains ↔
      domainId ∈ (s.node self).domains ∧ ¬ removed domainId)
    (records : Records (s.node self) → Records (change (s.node self))) :
    (({ s with domainHash } : Cluster).modifyNode self change).hosting.Consistent := by
  refine consistent_rehost consistent member ip (fun domainId ipVal host => ?_)
    (fun _ domainId inside => ((domains domainId).mp inside).1) records
  rw [entries]
  by_cases here : ipVal = (s.node self).ip
  · rw [if_pos here, here, domains]
    by_cases gone : removed domainId
    · simp [gone]
    · simp [gone, hostAt_own consistent member]
  · simp [here]

/-- A node keeps its domains. -/
theorem consistent_modifyNode (change : DPSNode → DPSNode)
    (ip : (change (s.node self)).ip = (s.node self).ip)
    (domains : ∀ domainId, domainId ∈ (change (s.node self)).domains ↔
      domainId ∈ (s.node self).domains)
    (records : Records (s.node self) → Records (change (s.node self))) :
    (s.modifyNode self change).hosting.Consistent :=
  consistent_withdraw consistent member change ip (fun _ => False) (by simp)
    (fun domainId => (domains domainId).trans (and_iff_left id).symm) records

theorem consistent_nodeDeleteDomain (domainId : Nat) :
    (s.nodeDeleteDomain self domainId).hosting.Consistent := by
  unfold nodeDeleteDomain
  split
  · exact consistent
  · have left := s.leaveDomain_eq domainId (s.node self).ip
    have entry := fun other => s.hostAt_leaveDomain domainId other (s.node self).ip
    generalize (s.leaveDomain domainId (s.node self).ip).domainHash = domainHash at left
    rw [left] at entry ⊢
    exact consistent_withdraw consistent member _ rfl (· = domainId) entry
      (fun _ => AList.mem_erase.trans and_comm) (·.domainDelete domainId)

theorem consistent_nodeDeleteAllDomains :
    (s.nodeDeleteAllDomains self).hosting.Consistent := by
  unfold nodeDeleteAllDomains
  split
  · exact consistent
  · obtain ⟨domainHash, left, entries⟩ := leaveDomains self (s.node self).domains.keys s
    dsimp only
    rw [left]
    refine consistent_withdraw consistent member _ rfl (· ∈ (s.node self).domains.keys) entries ?_
      fun _ => ⟨le_rfl, rfl⟩
    intro domainId
    refine iff_of_false (AList.notMem_empty domainId) fun both => ?_
    exact both.2 (AList.mem_keys.mp both.1)

theorem consistent_nodeAddDomain (domainId replicationFactor : Nat) :
    (s.nodeAddDomain self domainId replicationFactor).1.hosting.Consistent := by
  unfold nodeAddDomain
  split
  · exact consistent
  · next running =>
    split
    · exact consistent
    · have running' : s.valid = true := by simpa using running
      let added := s.modifyNode self fun n => (n.domainAdd domainId replicationFactor).1
      obtain ⟨leader, hints, joined⟩ := added.rejoins self
        ((s.node self).domainAdd domainId replicationFactor).2 (consistent.validLocal running')
      dsimp only
      rw [joined]
      have address : (added.node self).ip = (s.node self).ip := by
        rw [show added.node self = _ from Function.update_self ..]
        rfl
      refine consistent_rehost consistent member rfl (fun other ipVal host => ?_)
        (fun stopped => absurd (running'.symm.trans stopped) nofun)
        (·.domainAdd domainId replicationFactor)
      have entered := hostAt_enterDomain { added with
        leader, nodesInDifferentPartitionHint := hints } domainId other self ipVal
      rw [address] at entered
      refine (Eq.congr_left entered).trans ?_
      change (if _ then _ else s.hostAt other ipVal) = some host ↔ _
      by_cases here : ipVal = (s.node self).ip
      · subst here
        by_cases equal : other = domainId
        · simp [equal, DPSNode.domainAdd, eq_comm]
        · simp [equal, DPSNode.domainAdd, hostAt_own consistent member]
      · simp [here]

end Routines

end Cluster

end OpenDove
