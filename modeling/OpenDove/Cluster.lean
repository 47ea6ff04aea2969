import Mathlib.Algebra.Order.Ring.Unbundled.Rat
import OpenDove.Dictionary
import OpenDove.Addresses

/-!
# The cluster of servers

Every server keeps a table of the servers in its cluster, with the domains each of them hosts, and
elects one of them as leader. This module holds the data of `Cluster.py` and its routines on one
node and on the cluster as a whole.

A node object is a number, and the cluster maps the number to the fields of the object, so that a
node can leave the tables while other references to it live on. Clock readings are rational
seconds and are handed to the routines that read the clock. Messages to other servers and log
lines are left out, and so are the tables that only decide when to send them.
-/

namespace OpenDove

/-- `DPSNodeState`: the states of a node. -/
inductive DPSNodeState where
  | up
  | hintDown
  | down
  | inactive
  deriving DecidableEq, Repr

/-- `DPSNodePartitionState`: whether a node was seen in the network partition of the local node. -/
inductive DPSNodePartitionState where
  | same
  | differentHint
  | different
  deriving DecidableEq, Repr

/-- A reference to a node object. -/
abbrev NodeId := Nat

/-- `DPSNode`: one server of the cluster. The keys of `domainStatistics` are those of the
dictionary inside `DPSNodeStatistics`; the counters behind them are left out. -/
structure DPSNode where
  flocal : Bool
  dmcConfigVersion : Nat
  location : IPAddressLocation
  domains : Dict Nat Nat
  domainsDeactivated : Dict Nat Nat
  domainStatistics : Dict Nat Unit
  lastContactedSecs : ℚ
  hintDownSecs : ℚ
  state : DPSNodeState
  partitionState : DPSNodePartitionState

namespace DPSNode

/-- `MAX_NO_CONTACT`, in seconds. -/
def maxNoContact : ℚ := 15

/-- `HINT_NO_CONTACT`, in seconds. -/
def hintNoContact : ℚ := 10

/-- The constructor of `DPSNode`. It reads the clock twice. -/
def create (flocal : Bool) (ipType : InetType) (ipVal : IPValue) (port : Nat)
    (contacted hinted : ℚ) : DPSNode :=
  { flocal, dmcConfigVersion := 0, location := .create ipType ipVal port
    domains := ∅, domainsDeactivated := ∅, domainStatistics := ∅
    lastContactedSecs := contacted, hintDownSecs := hinted
    state := .up, partitionState := .same }

variable (node : DPSNode) (domainId : Nat)

/-- The address under which the tables of the cluster hold a node. -/
def ip : IPValue := node.location.ipValue

/-! ## Domains of a node -/

/-- `domain_add`. The flag tells whether a network partition was detected. -/
def domainAdd (replicationFactor : Nat) : DPSNode × Bool :=
  ({ node with
      partitionState := .same
      domains := node.domains.insert domainId replicationFactor
      domainStatistics := node.domainStatistics.insert domainId () },
    node.partitionState ≠ .same)

/-- `domain_delete`. -/
def domainDelete : DPSNode :=
  { node with
    domains := node.domains.erase domainId
    domainsDeactivated := node.domainsDeactivated.erase domainId
    domainStatistics := node.domainStatistics.erase domainId }

/-- `domain_delete_all`. -/
def domainDeleteAll : DPSNode :=
  { node with domains := ∅, domainsDeactivated := ∅, domainStatistics := ∅ }

/-- `domain_supported`: if the node hosts the domain, the replication factor is replaced. -/
def domainSupported (replicationFactor : Nat) : DPSNode × Bool :=
  if (node.domains.lookup domainId).isSome then
    ({ node with domains := node.domains.insert domainId replicationFactor }, true)
  else (node, false)

/-- `domain_deactivate`. -/
def domainDeactivate : DPSNode :=
  match node.domains.lookup domainId with
  | none => node
  | some factor =>
    { node with domainsDeactivated := node.domainsDeactivated.insert domainId factor }

/-- `domain_activate`. -/
def domainActivate : DPSNode :=
  { node with domainsDeactivated := node.domainsDeactivated.erase domainId }

/-! ## The state of a node -/

/-- `is_up`. -/
def isUp : Bool := node.state = .up

/-- `is_inactive`. -/
def isInactive : Bool := node.state = .inactive

/-- `is_down`. -/
def isDown : Bool := node.state = .down

/-- `touch`, called whenever the node is contacted. The flag tells whether the node was down. -/
def touch (now : ℚ) : DPSNode × Bool :=
  let contacted := { node with lastContactedSecs := now }
  match node.state with
  | .inactive => (contacted, false)
  | .down => ({ contacted with state := .up }, true)
  | .up | .hintDown => ({ contacted with state := .up }, false)

/-- `hint_down`, called when the leader reports the node as down. -/
def hintDown (node : DPSNode) (statusChangeAllow : Bool) (now : ℚ) : DPSNode :=
  if node.state = .up then
    { node with
      hintDownSecs := now
      state := if statusChangeAllow then .hintDown else .up }
  else node

/-- A node that was hinted down long enough ago goes down. The flag tells whether it did. -/
def expireHint (now : ℚ) : DPSNode × Bool :=
  if now - node.hintDownSecs > maxNoContact then ({ node with state := .down }, true)
  else (node, false)

/-- `timeout_non_leader`. The flag tells whether the node went down. -/
def timeoutNonLeader (statusChangeAllow : Bool) (now : ℚ) : DPSNode × Bool :=
  if ¬ statusChangeAllow then (node, false)
  else
    match node.state with
    | .hintDown => node.expireHint now
    | .up => ({ node with hintDownSecs := now }, false)
    | .down | .inactive => (node, false)

/-- `timeout_leader`. The flag tells whether the node went down. -/
def timeoutLeader (statusChangeAllow : Bool) (now : ℚ) : DPSNode × Bool :=
  if ¬ statusChangeAllow then (node, false)
  else
    match node.state with
    | .hintDown => node.expireHint now
    | .up =>
      if now - node.lastContactedSecs > hintNoContact then
        ({ node with state := .hintDown, hintDownSecs := now }, false)
      else (node, false)
    | .down | .inactive => (node, false)

end DPSNode

/-- `Cluster`, with the variables of `DPSNodeCollectionClass`. `node` gives the fields of the node
objects; those from `nextNode` on have not been created. -/
structure Cluster where
  valid : Bool
  nodeHash : Dict IPValue NodeId
  domainHash : Dict Nat (Dict IPValue NodeId)
  domainReplicationHash : Dict Nat Nat
  domainDeleted : Dict Nat Nat
  nodesInDifferentPartitionHint : Dict NodeId Nat
  localNode : Option NodeId
  leader : Option NodeId
  stateChangeAllow : Bool
  leaderElectionTrigger : Bool
  leaderNotPresentCount : Nat
  dmcConfigVersion : Nat
  node : NodeId → DPSNode
  nextNode : NodeId

namespace Cluster

/-- A cluster as a server starts with it: no node, and not valid before the local node is
activated. -/
def initial : Cluster :=
  { valid := false, nodeHash := ∅, domainHash := ∅, domainReplicationHash := ∅
    domainDeleted := ∅, nodesInDifferentPartitionHint := ∅, localNode := none, leader := none
    stateChangeAllow := true, leaderElectionTrigger := false, leaderNotPresentCount := 0
    dmcConfigVersion := 0, node := fun _ => .create false .inet .zero 0 0 0, nextNode := 0 }

variable (s : Cluster) (clock : NodeId → ℚ) (self : NodeId) (domainId : Nat) (ipVal : IPValue)

/-- Change the fields of one node object. -/
def modifyNode (change : DPSNode → DPSNode) : Cluster :=
  { s with node := Function.update s.node self (change (s.node self)) }

/-- A new node object. -/
def allocate (fields : DPSNode) : Cluster × NodeId :=
  ({ s with node := Function.update s.node s.nextNode fields, nextNode := s.nextNode + 1 },
    s.nextNode)

/-- `leader_local`: the local node and the leader are the same, which also holds while there is
neither. -/
def leaderLocal : Bool := s.localNode = s.leader

/-! ## The election -/

/-- `leader_amongst_2`: the node whose address text comes first. -/
def leaderAmongst2 (node1 node2 : NodeId) : NodeId :=
  if (s.node node1).location.showIp < (s.node node2).location.showIp then node1 else node2

/-- A node that can be elected. -/
def eligible : Bool :=
  ¬ (s.node self).isDown ∧ ¬ (s.node self).isInactive

/-- One round of the loop of `leader_election_run`. -/
def electionRound (best : Option NodeId) (self : NodeId) : Option NodeId :=
  if s.eligible self then
    match best with
    | none => some self
    | some current => some (s.leaderAmongst2 current self)
  else best

/-- The candidate that the loop of `leader_election_run` ends with. -/
def electionWinner : Option NodeId :=
  s.nodeHash.values.foldl s.electionRound none

/-- `leader_election_run`. Without a candidate the leader stays as it is. The flag tells whether
the routine raises: it reads the local node to report another node as leader. -/
def leaderElectionRun : Cluster × Bool :=
  match s.electionWinner with
  | none => (s, false)
  | some winner => ({ s with leader := some winner }, s.localNode.isNone)

/-! ## Domains and nodes -/

/-- Take a node out of the entry of a domain, and delete the entry with its last node. -/
def leaveDomain : Cluster :=
  match s.domainHash.lookup domainId with
  | none => s
  | some mapping =>
    if (mapping.lookup ipVal).isSome then
      let rest := mapping.erase ipVal
      if Dict.size rest = 0 then { s with domainHash := s.domainHash.erase domainId }
      else { s with domainHash := s.domainHash.insert domainId rest }
    else s

/-- The entry of a domain gets a node under its address. -/
def enterDomain (self : NodeId) : Cluster :=
  let mapping := (s.domainHash.lookup domainId).getD ∅
  { s with domainHash := s.domainHash.insert domainId (mapping.insert (s.node self).ip self) }

/-- What `node_add_domain` does for a node that comes back from another partition. -/
def rejoin : Cluster × Bool :=
  leaderElectionRun
    { s with nodesInDifferentPartitionHint := s.nodesInDifferentPartitionHint.erase self }

/-- The rest of `node_add_domain`: the entry of the domain and its replication factor. -/
def recordDomain (replicationFactor : Nat) : Cluster :=
  { s.enterDomain domainId self with
    domainReplicationHash := s.domainReplicationHash.insert domainId replicationFactor }

/-- `node_add_domain`. For a node other than the local one a recently deleted domain is not added
back. The flag tells whether the routine raises, which the election does without a local
node. -/
def nodeAddDomain (replicationFactor : Nat) : Cluster × Bool :=
  if ¬ s.valid then (s, false)
  else if s.localNode ≠ some self ∧ (s.domainDeleted.lookup domainId).isSome then (s, false)
  else
    let fPartition := ((s.node self).domainAdd domainId replicationFactor).2
    let s := s.modifyNode self fun n => (n.domainAdd domainId replicationFactor).1
    let (s, raised) := if fPartition then s.rejoin self else (s, false)
    if raised then (s, true) else (s.recordDomain self domainId replicationFactor, false)

/-- `node_delete_domain`. -/
def nodeDeleteDomain : Cluster :=
  if ¬ s.valid then s
  else (s.leaveDomain domainId (s.node self).ip).modifyNode self (·.domainDelete domainId)

/-- `node_delete_all_domains`. -/
def nodeDeleteAllDomains : Cluster :=
  if ¬ s.valid then s
  else
    let s := (s.node self).domains.keys.foldl
      (fun s domainId => s.leaveDomain domainId (s.node self).ip) s
    s.modifyNode self (·.domainDeleteAll)

/-- `DOMAIN_INVALIDATE_TIMEOUT_COUNT`. -/
def domainInvalidateTimeoutCount : Nat := 3

/-- `domain_delete`. -/
def domainDelete : Cluster :=
  if ¬ s.valid then s
  else
    let s := { s with
      domainHash := s.domainHash.erase domainId
      domainReplicationHash := s.domainReplicationHash.erase domainId }
    let s := s.nodeHash.values.foldl (fun s self => s.nodeDeleteDomain self domainId) s
    { s with domainDeleted := s.domainDeleted.insert domainId domainInvalidateTimeoutCount }

/-! ## Nodes -/

/-- `node_update_local`: the local node moves to another address, or is created. -/
def nodeUpdateLocal (ipType : InetType) (ipVal : IPValue) (port : Nat) (contacted hinted : ℚ) :
    Cluster :=
  let (s, self) := match s.localNode with
    | some self =>
      let s := { s with nodeHash := s.nodeHash.erase (s.node self).ip }
      (s.modifyNode self fun n => { n with flocal := true, location := .create ipType ipVal port },
        self)
    | none => s.allocate (.create true ipType ipVal port contacted hinted)
  { s with nodeHash := s.nodeHash.insert (s.node self).ip self, localNode := some self }

/-- `node_add`: a new remote node, which replaces a node of the same address. A leader waits for
its first message. -/
def nodeAdd (ipType : InetType) (ipVal : IPValue) (port : Nat) (contacted hinted : ℚ) : Cluster :=
  if ¬ s.valid then s
  else
    let state : DPSNodeState := if s.leaderLocal then .hintDown else .up
    let (s, self) := s.allocate
      { DPSNode.create false ipType ipVal port contacted hinted with state }
    { s with nodeHash := s.nodeHash.insert (s.node self).ip self }

/-- `node_delete`. The deletion of the leader is followed by an election. -/
def nodeDelete : Cluster :=
  match s.nodeHash.lookup ipVal with
  | none => s
  | some self =>
    let fLeaderDeleted := s.leader = some self
    let s := s.nodeDeleteAllDomains self
    let s := { s with
      nodesInDifferentPartitionHint := s.nodesInDifferentPartitionHint.erase self
      nodeHash := s.nodeHash.erase ipVal }
    if fLeaderDeleted then s.leaderElectionRun.1 else s

/-- `node_touch`. A remote node that comes back may have been in another network partition. -/
def nodeTouch (now : ℚ) : Cluster :=
  if ¬ s.valid then s
  else
    match s.nodeHash.lookup ipVal with
    | none => s
    | some self =>
      let changed := ((s.node self).touch now).2
      let s := s.modifyNode self fun n => (n.touch now).1
      if s.localNode = some self ∨ ¬ changed then s
      else
        let s := s.modifyNode self fun n => { n with partitionState := .differentHint }
        { s with nodesInDifferentPartitionHint := s.nodesInDifferentPartitionHint.insert self 0 }

/-- `node_inactivate`. -/
def nodeInactivate : Cluster :=
  if ¬ s.valid then s
  else
    match s.nodeHash.lookup ipVal with
    | none => s
    | some self => s.modifyNode self fun n => { n with state := .inactive }

/-- `node_hint_down`. The local node cannot be down. -/
def nodeHintDown (now : ℚ) : Cluster :=
  match s.nodeHash.lookup ipVal with
  | none => s
  | some self =>
    if s.localNode = some self then s
    else s.modifyNode self fun n => n.hintDown s.stateChangeAllow now

/-- `node_inactivate_allow`: every domain of the node but the shared one, number 0, has another
node that is up. -/
def nodeInactivateAllow : Bool :=
  (s.node self).domains.keys.all fun domainId =>
    domainId = 0 ||
      match s.domainHash.lookup domainId with
      | none => true
      | some mapping => mapping.values.any fun other => other ≠ self ∧ (s.node other).isUp

/-- `Delete`: the tables are cleared. Of a node only the domains are. -/
def delete : Cluster :=
  let s := s.nodeHash.values.foldl
    (fun s self => s.modifyNode self fun n => { n with domains := ∅ }) s
  { s with
    valid := false, nodeHash := ∅, domainHash := ∅, domainReplicationHash := ∅
    nodesInDifferentPartitionHint := ∅, leader := none, domainDeleted := ∅, dmcConfigVersion := 0 }

/-- `Start_Threads`. -/
def startThreads : Cluster := { s with valid := true }

/-- `Stop_Threads`. -/
def stopThreads : Cluster := { s with leaderElectionTrigger := false }.delete

/-! ## Timers -/

/-- The loop of `leader_timer_routine` over the nodes other than the local one. The clock is read
once per node. -/
def leaderTimerRoutine : Cluster :=
  s.nodeHash.values.foldl (fun s self =>
    if s.localNode = some self then s
    else s.modifyNode self fun n => (n.timeoutLeader s.stateChangeAllow (clock self)).1) s

/-- One round of the loop of `non_leader_timer_routine`. The flag tells whether the leader went
down. -/
def nonLeaderRound (state : Cluster × Bool) (self : NodeId) : Cluster × Bool :=
  let (s, fRunLeaderElection) := state
  if s.localNode = some self then (s, fRunLeaderElection)
  else if s.leader ≠ some self then
    (s.modifyNode self fun n => (n.timeoutNonLeader s.stateChangeAllow (clock self)).1,
      fRunLeaderElection)
  else
    (s.modifyNode self fun n => (n.timeoutLeader s.stateChangeAllow (clock self)).1,
      fRunLeaderElection ∨ ((s.node self).timeoutLeader s.stateChangeAllow (clock self)).2)

/-- `non_leader_timer_routine`. Without a local node the loop raises at the leader, and what it
did before stays done. -/
def nonLeaderTimerRoutine : Cluster :=
  let visited := if s.localNode.isSome then s.nodeHash.values
    else s.nodeHash.values.takeWhile (fun self => s.leader ≠ some self)
  let raised := s.localNode.isNone ∧ visited.length ≠ s.nodeHash.values.length
  let (s, fRunLeaderElection) := visited.foldl (nonLeaderRound clock) (s, false)
  if ¬ raised ∧ fRunLeaderElection then s.leaderElectionRun.1 else s

/-- `Timeout_Clear_Domains_From_Down_Nodes`. -/
def timeoutClearDomainsFromDownNodes : Cluster :=
  s.nodeHash.values.foldl (fun s self =>
    if s.localNode ≠ some self ∧ (s.node self).isDown then s.nodeDeleteAllDomains self else s) s

/-- `Timeout_Recycle_Deleted_Domains`. -/
def timeoutRecycleDeletedDomains : Cluster :=
  s.domainDeleted.keys.foldl (fun s domainId =>
    match s.domainDeleted.lookup domainId with
    | none => s
    | some 0 => { s with domainDeleted := s.domainDeleted.erase domainId }
    | some (count + 1) => { s with domainDeleted := s.domainDeleted.insert domainId count }) s

/-- `Nodes_In_Different_Partition_Hint_Timeout`. -/
def partitionHintTimeout : Nat := 3

/-- `Timeout_Network_Partition`. -/
def timeoutNetworkPartition : Cluster :=
  s.nodesInDifferentPartitionHint.keys.foldl (fun s self =>
    if (s.node self).partitionState ≠ .differentHint then
      { s with nodesInDifferentPartitionHint := s.nodesInDifferentPartitionHint.erase self }
    else
      match s.nodesInDifferentPartitionHint.lookup self with
      | none => s
      | some value =>
        if partitionHintTimeout ≤ value then
          let s := s.modifyNode self fun n => { n with partitionState := .same }
          { s with nodesInDifferentPartitionHint := s.nodesInDifferentPartitionHint.erase self }
        else
          { s with
            nodesInDifferentPartitionHint :=
              s.nodesInDifferentPartitionHint.insert self (value + 1) }) s

/-- `Leader_Not_Present_Count_Max`. -/
def leaderNotPresentCountMax : Nat := 3

/-- `Timeout_Leader_Election`: an election when there was no leader for some time. If the election
raises, the count stays. -/
def timeoutLeaderElection : Cluster :=
  if ¬ s.leaderElectionTrigger ∨ s.leader.isSome then { s with leaderNotPresentCount := 0 }
  else if leaderNotPresentCountMax ≤ s.leaderNotPresentCount then
    let (s, raised) := s.leaderElectionRun
    if raised then s else { s with leaderNotPresentCount := 0 }
  else { s with leaderNotPresentCount := s.leaderNotPresentCount + 1 }

/-- `Timeout_Timer`. -/
def timeoutTimer : Cluster :=
  let s := s.timeoutNetworkPartition.timeoutLeaderElection.timeoutClearDomainsFromDownNodes
  let s := s.timeoutRecycleDeletedDomains
  if s.leaderLocal then s.leaderTimerRoutine clock else s.nonLeaderTimerRoutine clock

end Cluster

end OpenDove
