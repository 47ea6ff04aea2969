import Mathlib.Data.Set.Basic
import OpenDove.ClusterEvents

/-!
# What an event writes

Every event of the cluster is a path of writes: bookkeeping, the change of one node, an election,
an appointed leader, and the routines that change which node hosts what. The path also lists the
states in which the event holds an election. An invariant of the cluster then needs one case for
each kind of write.
-/

namespace OpenDove

namespace DPSNode

/-- What the timers read and write of a node. -/
def watch (node : DPSNode) : ℚ × ℚ × DPSNodeState :=
  (node.lastContactedSecs, node.hintDownSecs, node.state)

/-- What an event can learn about a node. -/
inductive Sighting where
  | settle (active : Bool)
  | touch (now : ℚ)
  | report (allow : Bool) (now : ℚ)
  | leaderPass (allow : Bool) (now : ℚ)
  | nonLeaderPass (allow : Bool) (now : ℚ)

/-- What a node makes of a sighting. -/
def sighted (node : DPSNode) : Sighting → DPSNode
  | .settle active => { node with state := if active then .up else .inactive }
  | .touch now => (node.touch now).1
  | .report allow now => node.hintDown allow now
  | .leaderPass allow now => (node.timeoutLeader allow now).1
  | .nonLeaderPass allow now => (node.timeoutNonLeader allow now).1

/-- The timers see no change, or an allowed sighting. -/
def Seen (allowed : Sighting → Prop) (node node' : DPSNode) : Prop :=
  node'.watch = node.watch ∨ ∃ seen, allowed seen ∧ node'.watch = (node.sighted seen).watch

end DPSNode

namespace Cluster

variable (s : Cluster) (self : NodeId) (domainId : Nat) (ipVal : IPValue)

/-- The address of a node and what it records about its domains. -/
def nodeMaps (node : DPSNode) : IPValue × Dict Nat Nat × Dict Nat Nat × Dict Nat Unit :=
  (node.ip, node.domains, node.domainsDeactivated, node.domainStatistics)

theorem nodeMaps_expireHint (node : DPSNode) (now : ℚ) :
    nodeMaps (node.expireHint now).1 = nodeMaps node := by
  unfold DPSNode.expireHint
  split <;> rfl

/-- A sighting changes neither the address of a node nor its domains. -/
theorem nodeMaps_sighted (node : DPSNode) (seen : DPSNode.Sighting) :
    nodeMaps (node.sighted seen) = nodeMaps node := by
  cases seen with
  | settle active => rfl
  | touch now =>
    dsimp only [DPSNode.sighted, DPSNode.touch]
    cases node.state <;> rfl
  | report allow now =>
    dsimp only [DPSNode.sighted, DPSNode.hintDown]
    split <;> rfl
  | leaderPass allow now =>
    dsimp only [DPSNode.sighted, DPSNode.timeoutLeader]
    split
    · rfl
    · cases node.state with
      | hintDown => exact nodeMaps_expireHint node now
      | up =>
        dsimp only
        split <;> rfl
      | down | inactive => rfl
  | nonLeaderPass allow now =>
    dsimp only [DPSNode.sighted, DPSNode.timeoutNonLeader]
    split
    · rfl
    · cases node.state with
      | hintDown => exact nodeMaps_expireHint node now
      | up | down | inactive => rfl

/-! ## The elections of an event -/

/-- The states in which the rounds of a loop hold elections. -/
def heldByLoop {ν : Type} (body : Cluster → ν → Cluster) (held : Cluster → ν → List Cluster) :
    Cluster → List ν → List Cluster
  | _, [] => []
  | s, item :: items => held s item ++ heldByLoop body held (body s item) items

/-- `node_delete` without its election. -/
def nodeRemove (s : Cluster) (self : NodeId) (ipVal : IPValue) : Cluster :=
  let s := s.nodeDeleteAllDomains self
  { s with
    nodesInDifferentPartitionHint := s.nodesInDifferentPartitionHint.erase self
    nodeHash := s.nodeHash.erase ipVal }

theorem nodeDelete_eq :
    s.nodeDelete ipVal = match s.nodeHash.lookup ipVal with
      | none => s
      | some self =>
        if s.leader = some self then (s.nodeRemove self ipVal).leaderElectionRun.1
        else s.nodeRemove self ipVal := rfl

/-- The election of `node_delete`. -/
def heldByNodeDelete (s : Cluster) (ipVal : IPValue) : List Cluster :=
  match s.nodeHash.lookup ipVal with
  | none => []
  | some self => if s.leader = some self then [s.nodeRemove self ipVal] else []

/-- The loop of `Nodes_Reconcile_PYTHON` over the table, once the list is worked through. -/
def heldByNodesUpdate (s : Cluster) (nodeList : List (InetType × IPValue × Nat))
    (contacted hinted : ℚ) : List Cluster :=
  match s.localNode with
  | none => []
  | some self =>
    if (s.node self).isInactive then []
    else
      let (s, updated) := nodeList.foldl (reconcileRound contacted hinted) (s, [])
      heldByLoop
        (fun s self =>
          if self ∈ updated ∨ (s.node self).flocal then s else s.nodeDelete (s.node self).ip)
        (fun s self =>
          if self ∈ updated ∨ (s.node self).flocal then [] else s.heldByNodeDelete (s.node self).ip)
        s s.nodeHash.values

/-- The election of `node_add_domain` for a node that comes back from another partition. -/
def heldByNodeAddDomain (s : Cluster) (ipVal : IPValue) (domainId replicationFactor : Nat) :
    List Cluster :=
  match s.nodeHash.lookup ipVal with
  | none => []
  | some self =>
    if ¬ s.valid then []
    else if s.localNode ≠ some self ∧ (s.domainDeleted.lookup domainId).isSome then []
    else if ((s.node self).domainAdd domainId replicationFactor).2 then
      let s := s.modifyNode self fun n => (n.domainAdd domainId replicationFactor).1
      [{ s with nodesInDifferentPartitionHint := s.nodesInDifferentPartitionHint.erase self }]
    else []

/-- The election that one domain of a new mapping leads to. -/
def heldByMappingNew (self : NodeId) (ipVal : IPValue) (s : Cluster) (entry : Σ _ : Nat, Nat) :
    List Cluster :=
  let (node, supported) := (s.node self).domainSupported entry.1 entry.2
  let s := s.modifyNode self fun _ => node
  if supported then [] else s.heldByNodeAddDomain ipVal entry.1 entry.2

/-- The elections of `Node_Set_Domain_Mapping`. -/
def heldByNodeSetDomainMapping (s : Cluster) (ipVal : IPValue) (newDomainSet : Dict Nat Nat) :
    List Cluster :=
  match s.nodeHash.lookup ipVal with
  | none => []
  | some self =>
    let s := (s.node self).domainsDeactivated.keys.foldl (mappingDeactivated self newDomainSet) s
    let s := (s.node self).domains.keys.foldl (mappingActive self newDomainSet) s
    heldByLoop (mappingNew self ipVal) (heldByMappingNew self ipVal) s newDomainSet.entries

/-- The election of `Node_Heartbeat`. -/
def heldByNodeHeartbeat (s : Cluster) (ipVal : IPValue) (dmcConfigVersion : Nat)
    (factive : Bool) : List Cluster :=
  match s.nodeHash.lookup ipVal with
  | none => []
  | some self =>
    let s := s.modifyNode self fun n =>
      { n with dmcConfigVersion, state := if factive then .up else .inactive }
    let s := { s with dmcConfigVersion := max s.dmcConfigVersion dmcConfigVersion }
    if s.leaderLocal then [] else if s.leader = some self then [s] else []

/-- The election of `Timeout_Leader_Election`. -/
def heldByTimeoutLeaderElection (s : Cluster) : List Cluster :=
  if ¬ s.leaderElectionTrigger ∨ s.leader.isSome then []
  else if leaderNotPresentCountMax ≤ s.leaderNotPresentCount then [s]
  else []

/-- The election of `non_leader_timer_routine`. -/
def heldByNonLeaderTimer (s : Cluster) (clock : NodeId → ℚ) : List Cluster :=
  let visited := if s.localNode.isSome then s.nodeHash.values
    else s.nodeHash.values.takeWhile (fun self => s.leader ≠ some self)
  let raised := s.localNode.isNone ∧ visited.length ≠ s.nodeHash.values.length
  let (s, fRunLeaderElection) := visited.foldl (nonLeaderRound clock) (s, false)
  if ¬ raised ∧ fRunLeaderElection then [s] else []

/-- The elections of `Timeout_Timer`. -/
def heldByTimeoutTimer (s : Cluster) (clock : NodeId → ℚ) : List Cluster :=
  let s := s.timeoutNetworkPartition
  let first := s.heldByTimeoutLeaderElection
  let s := s.timeoutLeaderElection.timeoutClearDomainsFromDownNodes.timeoutRecycleDeletedDomains
  first ++ if s.leaderLocal then [] else s.heldByNonLeaderTimer clock

/-- The states in which an event calls `leader_election_run`, in order. -/
def held (s : Cluster) : ClusterEvent → List Cluster
  | .nodeDelete ipVal => s.heldByNodeDelete ipVal
  | .nodesUpdate nodeList contacted hinted => s.heldByNodesUpdate nodeList contacted hinted
  | .nodeAddDomain ipVal domainId replicationFactor =>
    s.heldByNodeAddDomain ipVal domainId replicationFactor
  | .nodeSetDomainMapping ipVal newDomainSet => s.heldByNodeSetDomainMapping ipVal newDomainSet
  | .nodeHeartbeat ipVal dmcConfigVersion factive =>
    s.heldByNodeHeartbeat ipVal dmcConfigVersion factive
  | .electionRun => [s]
  | .timeoutTimer clock => s.heldByTimeoutTimer clock
  | .nonLeaderTimer clock => s.heldByNonLeaderTimer clock
  | _ => []

/-! ## What routines on domains leave alone -/

/-- The table of nodes, the leader, and what the timers see of the nodes. -/
def offices (s : Cluster) : (Dict IPValue NodeId × Option NodeId) × NodeId ×
    (NodeId → ℚ × ℚ × DPSNodeState) :=
  ((s.nodeHash, s.leader), s.nextNode, fun self => (s.node self).watch)

theorem offices_modifyNode (change : DPSNode → DPSNode)
    (same : (change (s.node self)).watch = (s.node self).watch) :
    (s.modifyNode self change).offices = s.offices :=
  congrArg (fun watch => ((s.nodeHash, s.leader), s.nextNode, watch))
    (funext (update_keeps DPSNode.watch s.node same))

theorem offices_leaveDomain : (s.leaveDomain domainId ipVal).offices = s.offices := by
  unfold leaveDomain
  split
  · rfl
  · split
    · dsimp only
      split <;> rfl
    · rfl

theorem offices_nodeDeleteDomain : (s.nodeDeleteDomain self domainId).offices = s.offices := by
  unfold nodeDeleteDomain
  split
  · rfl
  · exact (offices_modifyNode _ self (·.domainDelete domainId) rfl).trans
      (s.offices_leaveDomain domainId _)

theorem offices_nodeDeleteAllDomains : (s.nodeDeleteAllDomains self).offices = s.offices := by
  unfold nodeDeleteAllDomains
  split
  · rfl
  · exact (offices_modifyNode _ self (·.domainDeleteAll) rfl).trans
      (foldl_view offices (fun s domainId => s.offices_leaveDomain domainId _) _ s)

theorem offices_domainDelete : (s.domainDelete domainId).offices = s.offices := by
  unfold domainDelete
  split
  · rfl
  · refine (foldl_view offices (fun s self => ?_) _ _).trans rfl
    exact s.offices_nodeDeleteDomain self domainId

/-- What stays while the node records the domain and rejoins its partition, and while the domain is
entered, stays in `node_add_domain`. -/
theorem nodeAddDomain_rule {motive : Cluster → Prop} (replicationFactor : Nat) (kept : motive s)
    (joined : s.valid → ¬ (s.localNode ≠ some self ∧ (s.domainDeleted.lookup domainId).isSome) →
      motive (if ((s.node self).domainAdd domainId replicationFactor).2
        then (s.modifyNode self fun n => (n.domainAdd domainId replicationFactor).1).rejoin self
        else (s.modifyNode self fun n => (n.domainAdd domainId replicationFactor).1, false)).1)
    (recorded : ∀ t, motive t → motive (t.recordDomain self domainId replicationFactor)) :
    motive (s.nodeAddDomain self domainId replicationFactor).1 := by
  have entered : ∀ rejoined : Cluster × Bool, motive rejoined.1 →
      motive (if rejoined.2 then (rejoined.1, true)
        else (rejoined.1.recordDomain self domainId replicationFactor, false)).1 := by
    intro rejoined after
    split
    · exact after
    · exact recorded _ after
  unfold nodeAddDomain
  split
  · exact kept
  · next valid =>
    split
    · exact kept
    · next allowed => exact entered _ (joined (not_not.mp valid) allowed)

theorem nodeAddDomain_nodeHash (replicationFactor : Nat) :
    (s.nodeAddDomain self domainId replicationFactor).1.nodeHash = s.nodeHash := by
  refine s.nodeAddDomain_rule self domainId replicationFactor (motive := (·.nodeHash = s.nodeHash))
    rfl (fun _ _ => ?_) fun _ same => same
  split
  · simp only [rejoin, leaderElectionRun]
    split <;> rfl
  · rfl

/-! ## Paths -/

/-- What a routine that hosts or watches nothing leaves alone. -/
def core (s : Cluster) : Bool × Dict IPValue NodeId × Dict Nat (Dict IPValue NodeId) ×
    Option NodeId × Option NodeId × (NodeId → DPSNode) × NodeId :=
  (s.valid, s.nodeHash, s.domainHash, s.localNode, s.leader, s.node, s.nextNode)

/-- What a node records of its domains beside them is in step with them. -/
def Records (node : DPSNode) : Prop :=
  { domainId | domainId ∈ node.domainsDeactivated } ⊆ { domainId | domainId ∈ node.domains } ∧
    { domainId | domainId ∈ node.domainStatistics } = { domainId | domainId ∈ node.domains }

/-- The writes of an event, one after the other, with the states in which it holds an election. Of
the nodes it learns only what is allowed. -/
inductive Path (sees : NodeId → DPSNode.Sighting → Prop) :
    Cluster → List Cluster → Cluster → Prop
  | note {s t : Cluster} (same : t.core = s.core) : Path sees s [] t
  | trans {s t u : Cluster} {held held' : List Cluster} (first : Path sees s held t)
      (second : Path sees t held' u) : Path sees s (held ++ held') u
  | elect (s : Cluster) : Path sees s [s] s.leaderElectionRun.1
  | appoint {s : Cluster} {ipVal : IPValue} {self : NodeId}
      (found : s.nodeHash.lookup ipVal = some self) : Path sees s [] { s with leader := some self }
  | write {s : Cluster} (self : NodeId) (fields : DPSNode)
      (maps : nodeMaps fields = nodeMaps (s.node self))
      (seen : DPSNode.Seen (sees self) (s.node self) fields) :
      Path sees s [] (s.modifyNode self fun _ => fields)
  | redomain {s : Cluster} {ipVal : IPValue} {self : NodeId}
      (found : s.nodeHash.lookup ipVal = some self) (fields : DPSNode)
      (ip : fields.ip = (s.node self).ip) (watch : fields.watch = (s.node self).watch)
      (domains : ∀ domainId, domainId ∈ fields.domains ↔ domainId ∈ (s.node self).domains)
      (records : Records (s.node self) → Records fields) :
      Path sees s [] (s.modifyNode self fun _ => fields)
  | nodeDeleteDomain {s : Cluster} {ipVal : IPValue} {self : NodeId}
      (found : s.nodeHash.lookup ipVal = some self) (domainId : Nat) :
      Path sees s [] (s.nodeDeleteDomain self domainId)
  | nodeDeleteAllDomains {s : Cluster} {ipVal : IPValue} {self : NodeId}
      (found : s.nodeHash.lookup ipVal = some self) : Path sees s [] (s.nodeDeleteAllDomains self)
  | domainDelete (s : Cluster) (domainId : Nat) : Path sees s [] (s.domainDelete domainId)
  | nodeAddDomain (s : Cluster) (ipVal : IPValue) (domainId replicationFactor : Nat) :
      Path sees s (s.heldByNodeAddDomain ipVal domainId replicationFactor)
        (s.nodeAddDomainRequest ipVal domainId replicationFactor).1
  | nodeAdd {s : Cluster} (ipType : InetType) {ipVal : IPValue} (port : Nat) (contacted hinted : ℚ)
      (unknown : s.nodeHash.lookup ipVal = none) :
      Path sees s [] (s.nodeAdd ipType ipVal port contacted hinted)
  | nodeDelete (s : Cluster) (ipVal : IPValue) :
      Path sees s (s.heldByNodeDelete ipVal) (s.nodeDelete ipVal)

namespace Path

variable {sees : NodeId → DPSNode.Sighting → Prop} {s t u : Cluster} {held : List Cluster}
  {ipVal : IPValue} {self : NodeId}

theorem refl (s : Cluster) : Path sees s [] s := .note rfl

theorem quietly (first : Path sees s held t) (second : Path sees t [] u) : Path sees s held u :=
  List.append_nil held ▸ first.trans second

/-- A node is sighted. -/
theorem sight {seen : DPSNode.Sighting} (self : NodeId) (allowed : sees self seen) :
    Path sees s [] (s.modifyNode self (·.sighted seen)) :=
  .write self _ (nodeMaps_sighted _ seen) (.inr ⟨seen, allowed, rfl⟩)

/-- A node changes in what neither the timers nor the domains show. -/
theorem edit (self : NodeId) (change : DPSNode → DPSNode)
    (same : ∀ node, nodeMaps (change node) = nodeMaps node ∧ (change node).watch = node.watch) :
    Path sees s [] (s.modifyNode self change) :=
  .write self _ (same _).1 (.inl (same _).2)

/-- A loop whose rounds hold no election. -/
theorem loop {ν : Type} (body : Cluster → ν → Cluster) (stays : Cluster → Prop) (items : List ν)
    (starts : stays s) (round : ∀ t, stays t → ∀ item ∈ items,
      Path sees t [] (body t item) ∧ stays (body t item)) :
    Path sees s [] (items.foldl body s) ∧ stays (items.foldl body s) :=
  List.foldlRecOn (motive := fun t => Path sees s [] t ∧ stays t) items body ⟨refl s, starts⟩
    fun t reached item inside =>
      have next := round t reached.2 item inside
      ⟨reached.1.trans next.1, next.2⟩

/-- A loop whose rounds hold elections. -/
theorem heldLoop {ν : Type} {body : Cluster → ν → Cluster} {held : Cluster → ν → List Cluster}
    (stays : Cluster → Prop) (items : List ν) (starts : stays s)
    (round : ∀ t item, stays t → Path sees t (held t item) (body t item) ∧ stays (body t item)) :
    Path sees s (heldByLoop body held s items) (items.foldl body s) := by
  induction items generalizing s with
  | nil => exact refl s
  | cons item items ih =>
    have next := round s item starts
    exact next.1.trans (ih next.2)

theorem nodeTouch (s : Cluster) (ipVal : IPValue) {now : ℚ}
    (allowed : ∀ self, sees self (.touch now)) : Path sees s [] (s.nodeTouch ipVal now) := by
  unfold Cluster.nodeTouch
  split
  · exact refl s
  · split
    · exact refl s
    · next self _ =>
      have touched : Path sees s [] (s.modifyNode self fun n => (n.touch now).1) :=
        sight self (allowed self)
      dsimp only
      split
      · exact touched
      · exact (touched.trans (edit self (fun n => { n with partitionState := .differentHint })
          fun _ => ⟨rfl, rfl⟩)).trans (.note rfl)

theorem nodeInactivate (s : Cluster) (ipVal : IPValue)
    (allowed : ∀ self, sees self (.settle false)) : Path sees s [] (s.nodeInactivate ipVal) := by
  unfold Cluster.nodeInactivate
  split
  · exact refl s
  · split
    · exact refl s
    · exact sight _ (allowed _)

theorem nodeHintDown (s : Cluster) (ipVal : IPValue) {now : ℚ}
    (allowed : ∀ self, s.nodeHash.lookup ipVal = some self →
      ∀ allow, sees self (.report allow now)) :
    Path sees s [] (s.nodeHintDown ipVal now) := by
  unfold Cluster.nodeHintDown
  split
  · exact refl s
  · next self found =>
    split
    · exact refl s
    · exact sight self (allowed self found _)

/-- What one entry of the list in `Nodes_Status` tells about a node. -/
def tells (s : Cluster) (entry : IPValue × DPSNodeClusterState × ℚ) (self : NodeId) :
    DPSNode.Sighting → Prop
  | .settle active => entry.2.1 = .inactive ∧ active = false
  | .touch now => entry.2.1 ≠ .down ∧ now = entry.2.2
  | .report _ now =>
    (entry.2.1 = .down ∧ s.nodeHash.lookup entry.1 = some self) ∧ now = entry.2.2
  | _ => False

theorem nodeStatus (s : Cluster) (entry : IPValue × DPSNodeClusterState × ℚ)
    (allowed : ∀ self seen, tells s entry self seen → sees self seen) :
    Path sees s [] (s.nodeStatus entry) := by
  obtain ⟨ipVal, state, now⟩ := entry
  cases state with
  | inactive =>
    exact (nodeInactivate s ipVal fun self => allowed self (.settle false) ⟨rfl, rfl⟩).trans
      (nodeTouch _ ipVal fun self => allowed self (.touch now) ⟨nofun, rfl⟩)
  | active => exact nodeTouch s ipVal fun self => allowed self (.touch now) ⟨nofun, rfl⟩
  | down =>
    exact nodeHintDown s ipVal fun self found allow =>
      allowed self (.report allow now) ⟨⟨rfl, found⟩, rfl⟩

/-- The list of `Nodes_Status` is worked through in a state with the same table of nodes, or not at
all. -/
theorem nodesStatus_cases (sees : NodeId → DPSNode.Sighting → Prop) (s : Cluster)
    (leaderIp : IPValue) (configVersion : Nat)
    (dpsNodes : List (IPValue × DPSNodeClusterState × ℚ)) :
    ∃ t, Path sees s [] t ∧ t.nodeHash = s.nodeHash ∧
      (s.nodesStatus leaderIp configVersion dpsNodes = t ∨
        s.nodesStatus leaderIp configVersion dpsNodes = dpsNodes.foldl Cluster.nodeStatus t) := by
  unfold nodesStatus
  split
  · exact ⟨s, refl s, rfl, .inl rfl⟩
  · next self found =>
    have led : ∃ t, (if (s.node self).partitionState = .same then { s with leader := some self }
        else s) = t ∧ Path sees s [] t ∧ t.nodeHash = s.nodeHash := by
      split
      · exact ⟨_, rfl, .appoint found, rfl⟩
      · exact ⟨_, rfl, refl s, rfl⟩
    obtain ⟨t, appointed, path, table⟩ := led
    dsimp only
    rw [appointed]
    split
    · exact ⟨t, path, table, .inl rfl⟩
    · exact ⟨{ t with dmcConfigVersion := max t.dmcConfigVersion configVersion },
        path.trans (.note rfl), table, .inr rfl⟩

variable (s)

theorem nodeStatus_nodeHash (entry : IPValue × DPSNodeClusterState × ℚ) :
    (s.nodeStatus entry).nodeHash = s.nodeHash := by
  have touched (s : Cluster) (ipVal : IPValue) (now : ℚ) :
      (s.nodeTouch ipVal now).nodeHash = s.nodeHash := by
    unfold Cluster.nodeTouch
    split
    · rfl
    · split
      · rfl
      · dsimp only
        split <;> rfl
  obtain ⟨ipVal, state, now⟩ := entry
  cases state with
  | inactive =>
    refine (touched _ ipVal now).trans ?_
    unfold Cluster.nodeInactivate
    split
    · rfl
    · split <;> rfl
  | active => exact touched s ipVal now
  | down =>
    dsimp only [Cluster.nodeStatus, Cluster.nodeHintDown]
    split
    · rfl
    · split <;> rfl

theorem nodesStatus (leaderIp : IPValue) (configVersion : Nat)
    (dpsNodes : List (IPValue × DPSNodeClusterState × ℚ))
    (allowed : ∀ entry ∈ dpsNodes, ∀ self seen, tells s entry self seen → sees self seen) :
    Path sees s [] (s.nodesStatus leaderIp configVersion dpsNodes) := by
  obtain ⟨t, path, table, same | same⟩ :=
    nodesStatus_cases sees s leaderIp configVersion dpsNodes
  · exact same ▸ path
  · rw [same]
    refine path.trans (loop _ (fun u => u.nodeHash = s.nodeHash) dpsNodes table ?_).1
    intro u table entry inside
    refine ⟨nodeStatus u entry ?_, (nodeStatus_nodeHash u entry).trans table⟩
    unfold tells
    rw [table]
    exact allowed entry inside

theorem nodeHeartbeat (ipVal : IPValue) (dmcConfigVersion : Nat) (factive : Bool)
    (allowed : ∀ self, sees self (.settle factive)) :
    Path sees s (s.heldByNodeHeartbeat ipVal dmcConfigVersion factive)
      (s.nodeHeartbeat ipVal dmcConfigVersion factive) := by
  unfold heldByNodeHeartbeat Cluster.nodeHeartbeat
  cases s.nodeHash.lookup ipVal with
  | none => exact refl s
  | some self =>
    have heard : Path sees s [] (s.modifyNode self fun n =>
        { n with dmcConfigVersion, state := if factive then .up else .inactive }) :=
      .write self _ rfl (.inr ⟨.settle factive, allowed self, rfl⟩)
    have decided (t : Cluster) :
        Path sees t (if t.leaderLocal then [] else if t.leader = some self then [t] else [])
          (if t.leaderLocal then t
            else if t.leader = some self then t.leaderElectionRun.1 else t) := by
      split_ifs
      · exact refl t
      · exact .elect t
      · exact refl t
    have versioned (t : Cluster) : Path sees t []
        { t with dmcConfigVersion := max t.dmcConfigVersion dmcConfigVersion } := .note rfl
    exact (heard.trans (versioned _)).trans (decided _)

theorem nodeHeartbeatRequest (ipVal : IPValue) : Path sees s [] (s.nodeHeartbeatRequest ipVal) := by
  unfold Cluster.nodeHeartbeatRequest
  split
  · exact refl s
  · next found =>
    split
    · exact .appoint found
    · exact refl s

theorem leaderTimerRoutine (clock : NodeId → ℚ)
    (allowed : ∀ self allow, sees self (.leaderPass allow (clock self))) :
    Path sees s [] (s.leaderTimerRoutine clock) := by
  refine (loop _ (fun _ => True) _ True.intro fun t _ self _ => ⟨?_, True.intro⟩).1
  split
  · exact refl t
  · exact sight self (allowed self _)

theorem nonLeaderTimerRoutine (clock : NodeId → ℚ)
    (leading : ∀ self allow, sees self (.leaderPass allow (clock self)))
    (following : ∀ self allow, sees self (.nonLeaderPass allow (clock self))) :
    Path sees s (s.heldByNonLeaderTimer clock) (s.nonLeaderTimerRoutine clock) := by
  unfold heldByNonLeaderTimer Cluster.nonLeaderTimerRoutine
  generalize (if s.localNode.isSome then s.nodeHash.values
    else s.nodeHash.values.takeWhile fun self => s.leader ≠ some self) = visited
  have rounds : Path sees s [] (visited.foldl (nonLeaderRound clock) (s, false)).1 := by
    refine List.foldlRecOn (motive := fun state : Cluster × Bool => Path sees s [] state.1)
      visited _ (refl s) fun state reached self _ => reached.trans ?_
    dsimp only [nonLeaderRound]
    split_ifs
    · exact refl _
    · exact sight self (following self _)
    · exact sight self (leading self _)
  dsimp only
  split
  · exact rounds.trans (.elect _)
  · exact rounds

theorem timeoutNetworkPartition : Path sees s [] s.timeoutNetworkPartition := by
  refine (loop _ (fun _ => True) _ True.intro fun t _ self _ => ⟨?_, True.intro⟩).1
  split
  · exact .note rfl
  · split
    · exact refl t
    · split
      · exact (edit self (fun n => { n with partitionState := .same })
          fun _ => ⟨rfl, rfl⟩).trans (.note rfl)
      · exact .note rfl

theorem timeoutLeaderElection :
    Path sees s s.heldByTimeoutLeaderElection s.timeoutLeaderElection := by
  unfold heldByTimeoutLeaderElection Cluster.timeoutLeaderElection
  split
  · exact .note rfl
  · split
    · dsimp only
      split
      · exact .elect s
      · exact quietly (.elect s) (.note rfl)
    · exact .note rfl

theorem timeoutClearDomains : Path sees s [] s.timeoutClearDomainsFromDownNodes := by
  refine (loop _ (·.nodeHash = s.nodeHash) _ rfl fun t table self listed => ?_).1
  obtain ⟨ipVal, found⟩ := (Dict.mem_values ..).mp listed
  split
  · exact ⟨.nodeDeleteAllDomains (table ▸ found),
      (congrArg (·.1.1) (t.offices_nodeDeleteAllDomains self)).trans table⟩
  · exact ⟨refl t, table⟩

theorem timeoutTimer (clock : NodeId → ℚ)
    (leading : ∀ self allow, sees self (.leaderPass allow (clock self)))
    (following : ∀ self allow, sees self (.nonLeaderPass allow (clock self))) :
    Path sees s (s.heldByTimeoutTimer clock) (s.timeoutTimer clock) := by
  have recycled (t : Cluster) : Path sees t [] t.timeoutRecycleDeletedDomains := by
    refine (loop _ (fun _ => True) _ True.intro fun u _ domainId _ => ⟨?_, True.intro⟩).1
    split <;> exact .note rfl
  unfold heldByTimeoutTimer Cluster.timeoutTimer
  refine ((timeoutNetworkPartition s).trans ((timeoutLeaderElection _).quietly
    ((timeoutClearDomains _).trans (recycled _)))).trans ?_
  dsimp only
  split
  · exact leaderTimerRoutine _ clock leading
  · exact nonLeaderTimerRoutine _ clock leading following

theorem nodesUpdate (nodeList : List (InetType × IPValue × Nat)) (contacted hinted : ℚ) :
    Path sees s (s.heldByNodesUpdate nodeList contacted hinted)
      (s.nodesUpdate nodeList contacted hinted) := by
  have reconciled : Path sees s []
      (nodeList.foldl (reconcileRound contacted hinted) (s, [])).1 := by
    refine List.foldlRecOn (motive := fun state : Cluster × List NodeId => Path sees s [] state.1)
      nodeList _ (refl s) fun state reached entry _ => reached.trans ?_
    dsimp only [reconcileRound]
    split
    · exact .write _ _ rfl (.inl rfl)
    · next unknown => exact .nodeAdd _ _ contacted hinted unknown
  unfold heldByNodesUpdate Cluster.nodesUpdate
  cases s.localNode with
  | none => exact refl s
  | some self =>
    dsimp only [nodesReconcile]
    split
    · exact refl s
    · refine reconciled.trans (quietly (heldLoop (fun _ => True) _ True.intro
        fun t self _ => ⟨?_, True.intro⟩) (.note rfl))
      split
      · exact refl t
      · exact .nodeDelete t _
variable {s}

theorem domainActivate (found : s.nodeHash.lookup ipVal = some self) (domainId : Nat) :
    Path sees s [] (s.modifyNode self (·.domainActivate domainId)) :=
  .redomain found _ rfl rfl (fun _ => Iff.rfl)
    fun records => ⟨fun _ stopped => records.1 (AList.mem_erase.mp stopped).2, records.2⟩

theorem domainDeactivate (found : s.nodeHash.lookup ipVal = some self) (domainId : Nat) :
    Path sees s [] (s.modifyNode self (·.domainDeactivate domainId)) := by
  have deactivated : Path sees s []
      (s.modifyNode self fun _ => (s.node self).domainDeactivate domainId) := by
    unfold DPSNode.domainDeactivate
    split
    · exact .write self _ rfl (.inl rfl)
    · next factor hosted =>
      refine .redomain found _ rfl rfl (fun _ => Iff.rfl) fun records => ⟨?_, records.2⟩
      intro other stopped
      rcases (AList.mem_insert _).mp stopped with equal | before
      · exact (Dict.mem_iff_lookup ..).mpr ⟨factor, equal ▸ hosted⟩
      · exact records.1 before
  exact deactivated

theorem nodeAddDomainRequest_nodeHash (s : Cluster) (ipVal : IPValue)
    (domainId replicationFactor : Nat) :
    (s.nodeAddDomainRequest ipVal domainId replicationFactor).1.nodeHash = s.nodeHash := by
  unfold nodeAddDomainRequest
  split
  · rfl
  · exact s.nodeAddDomain_nodeHash _ domainId replicationFactor

/-- One domain of a new mapping. -/
theorem mappingNew (found : s.nodeHash.lookup ipVal = some self) (entry : Σ _ : Nat, Nat) :
    Path sees s (heldByMappingNew self ipVal s entry) (Cluster.mappingNew self ipVal s entry) ∧
      (Cluster.mappingNew self ipVal s entry).nodeHash = s.nodeHash := by
  have supported : Path sees s []
      (s.modifyNode self fun _ => ((s.node self).domainSupported entry.1 entry.2).1) := by
    unfold DPSNode.domainSupported
    split
    · next hosted =>
      have same (domainId : Nat) : domainId ∈ (s.node self).domains.insert entry.1 entry.2 ↔
          domainId ∈ (s.node self).domains := by
        rw [AList.mem_insert]
        refine or_iff_right_of_imp ?_
        rintro rfl
        exact AList.lookup_isSome.mp hosted
      have sets := Set.ext same
      exact .redomain found _ rfl rfl same
        fun records => ⟨records.1.trans sets.ge, records.2.trans sets.symm⟩
    · exact .write self _ rfl (.inl rfl)
  unfold heldByMappingNew Cluster.mappingNew
  dsimp only
  split
  · exact ⟨supported.trans (.note rfl), rfl⟩
  · exact ⟨supported.trans (.nodeAddDomain ..), nodeAddDomainRequest_nodeHash ..⟩

theorem nodeSetDomainMapping (s : Cluster) (ipVal : IPValue) (newDomainSet : Dict Nat Nat) :
    Path sees s (s.heldByNodeSetDomainMapping ipVal newDomainSet)
      (s.nodeSetDomainMapping ipVal newDomainSet) := by
  unfold heldByNodeSetDomainMapping Cluster.nodeSetDomainMapping
  cases found : s.nodeHash.lookup ipVal with
  | none => exact refl s
  | some self =>
    let Found (t : Cluster) : Prop := t.nodeHash.lookup ipVal = some self
    obtain ⟨deactivated, found⟩ : Path sees s [] _ ∧ Found _ :=
      loop (mappingDeactivated self newDomainSet) Found (s.node self).domainsDeactivated.keys found
      fun t found domainId _ => by
        unfold mappingDeactivated
        split
        · exact ⟨domainActivate found domainId, found⟩
        · exact ⟨.nodeDeleteDomain found domainId,
            (congrArg (·.1.1.lookup ipVal) (t.offices_nodeDeleteDomain self domainId)).trans found⟩
    dsimp only
    generalize (s.node self).domainsDeactivated.keys.foldl (mappingDeactivated self newDomainSet)
      s = t at deactivated found
    obtain ⟨active, found⟩ : Path sees t [] _ ∧ Found _ :=
      loop (mappingActive self newDomainSet) Found (t.node self).domains.keys found
      fun t found domainId _ => by
        unfold mappingActive
        split
        · exact ⟨refl t, found⟩
        · exact ⟨domainDeactivate found domainId, found⟩
    refine deactivated.trans (active.trans (heldLoop Found _ found fun t entry found => ?_))
    obtain ⟨path, table⟩ : Path sees t _ _ ∧ _ := mappingNew found entry
    exact ⟨path, (congrArg (AList.lookup ipVal) table).trans found⟩

theorem onNode (routine : Cluster → NodeId → Cluster)
    (path : ∀ self, s.nodeHash.lookup ipVal = some self → Path sees s [] (routine s self)) :
    Path sees s [] (s.onNode ipVal routine) := by
  unfold Cluster.onNode
  split
  · exact refl s
  · next found => exact path _ found

end Path

end Cluster

namespace ClusterEvent

/-- The events whose paths do not depend on the state. -/
def Routine : ClusterEvent → Prop
  | .nodeAdd .. | .nodeUpdateLocal .. | .nodeLocalActivate _ | .delete => False
  | _ => True

end ClusterEvent

namespace Cluster

/-- What an event learns about the nodes. -/
def sees (s : Cluster) (event : ClusterEvent) (self : NodeId) (seen : DPSNode.Sighting) : Prop :=
  match event with
  | .nodeTouch ipVal now => Path.tells s (ipVal, .active, now) self seen
  | .nodeHintDown ipVal now => Path.tells s (ipVal, .down, now) self seen
  | .nodesStatus _ _ dpsNodes => ∃ entry ∈ dpsNodes, Path.tells s entry self seen
  | .nodeInactivate _ => seen = .settle false
  | .nodeHeartbeat _ _ active | .nodeLocalActivate active => seen = .settle active
  | .timeoutTimer clock | .leaderTimer clock | .nonLeaderTimer clock =>
    ∃ allow, seen = .leaderPass allow (clock self) ∨ seen = .nonLeaderPass allow (clock self)
  | _ => False

/-- The path of an event. -/
theorem Path.step (s : Cluster) (event : ClusterEvent) (routine : event.Routine) :
    Path (s.sees event) s (s.held event) (s.step event) := by
  cases event with
  | nodeAdd | nodeUpdateLocal | nodeLocalActivate | delete => exact routine.elim
  | nodeAddRequest ipType ipVal port contacted hinted =>
    change Path _ s [] (s.nodeAddRequest ipType ipVal port contacted hinted)
    unfold nodeAddRequest
    split
    · exact .write _ _ rfl (.inl rfl)
    · next unknown => exact .trans (.nodeAdd ipType port contacted hinted unknown) (.note rfl)
  | nodeDelete ipVal => exact .nodeDelete s ipVal
  | nodesUpdate nodeList contacted hinted => exact .nodesUpdate s nodeList contacted hinted
  | nodeAddDomain ipVal domainId replicationFactor => exact .nodeAddDomain s ipVal _ _
  | nodeDeleteDomain ipVal domainId =>
    exact .onNode (·.nodeDeleteDomain · domainId) fun _ found => .nodeDeleteDomain found domainId
  | nodeDeleteAllDomains ipVal =>
    exact .onNode Cluster.nodeDeleteAllDomains fun _ found => .nodeDeleteAllDomains found
  | domainDelete domainId => exact .domainDelete s domainId
  | domainActivate ipVal domainId =>
    exact .onNode (fun s self => s.modifyNode self (·.domainActivate domainId))
      fun _ found => .domainActivate found domainId
  | domainDeactivate ipVal domainId =>
    exact .onNode (fun s self => s.modifyNode self (·.domainDeactivate domainId))
      fun _ found => .domainDeactivate found domainId
  | nodeSetDomainMapping ipVal newDomainSet => exact .nodeSetDomainMapping s ipVal newDomainSet
  | nodeTouch ipVal now => exact .nodeTouch s ipVal fun _ => ⟨nofun, rfl⟩
  | nodeInactivate ipVal => exact .nodeInactivate s ipVal fun _ => rfl
  | nodeHintDown ipVal now => exact .nodeHintDown s ipVal fun _ found _ => ⟨⟨rfl, found⟩, rfl⟩
  | nodeHeartbeat ipVal dmcConfigVersion factive => exact .nodeHeartbeat s ipVal _ _ fun _ => rfl
  | nodeHeartbeatRequest ipVal => exact .nodeHeartbeatRequest s ipVal
  | nodeHeartbeatProcess fProcess => exact .note rfl
  | nodesStatus leaderIp configVersion dpsNodes =>
    exact .nodesStatus s leaderIp configVersion dpsNodes fun entry inside _ _ told =>
      ⟨entry, inside, told⟩
  | electionRun => exact .elect s
  | timeoutTimer clock =>
    exact .timeoutTimer s clock (fun _ allow => ⟨allow, .inl rfl⟩) fun _ allow => ⟨allow, .inr rfl⟩
  | leaderTimer clock => exact .leaderTimerRoutine s clock fun _ allow => ⟨allow, .inl rfl⟩
  | nonLeaderTimer clock =>
    exact .nonLeaderTimerRoutine s clock (fun _ allow => ⟨allow, .inl rfl⟩)
      fun _ allow => ⟨allow, .inr rfl⟩

end Cluster

end OpenDove
