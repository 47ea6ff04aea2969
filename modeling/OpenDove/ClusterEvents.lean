import OpenDove.Cluster
import OpenDove.Runs

/-!
# Requests to the cluster database

The routines of `cluster_database.py`, which look the named node up and hand it to the cluster, and
the events of a running server: these requests, the direct calls on the cluster and the passes of
its timer. Every routine takes the global lock, so that events do not overlap.

A request names a node by its address. An address that does not unpack is turned away before the
cluster is read; such requests are left out.
-/

namespace OpenDove

/-- `DPSNodeClusterState`: the state of a node as the leader reports it. -/
inductive DPSNodeClusterState where
  | down
  | active
  | inactive
  deriving DecidableEq, Repr

namespace Cluster

variable (self : NodeId) (s : Cluster) (ipVal : IPValue) (domainId : Nat)

/-- `Node_Add`: only the port of a known node is replaced. -/
def nodeAddRequest (ipType : InetType) (ipVal : IPValue) (port : Nat) (contacted hinted : ℚ) :
    Cluster :=
  match s.nodeHash.lookup ipVal with
  | some self => s.modifyNode self fun n => { n with location := { n.location with port } }
  | none =>
    { s.nodeAdd ipType ipVal port contacted hinted with leaderElectionTrigger := true }

/-- `Node_Add_Domain_PYTHON`. -/
def nodeAddDomainRequest (replicationFactor : Nat) : Cluster × DOVEStatus :=
  match s.nodeHash.lookup ipVal with
  | none => (s, .notFound)
  | some self =>
    let (s, raised) := s.nodeAddDomain self domainId replicationFactor
    (s, if raised then .noMemory else .ok)

/-- Run a routine on the node at an address, if there is one. -/
def onNode (routine : Cluster → NodeId → Cluster) : Cluster :=
  match s.nodeHash.lookup ipVal with
  | none => s
  | some self => routine s self

/-- `Node_Delete_Domain`. -/
def nodeDeleteDomainRequest : Cluster :=
  s.onNode ipVal fun s self => s.nodeDeleteDomain self domainId

/-- `Node_Delete_All_Domains`. -/
def nodeDeleteAllDomainsRequest : Cluster :=
  s.onNode ipVal nodeDeleteAllDomains

/-- `domain_deactivate` on the node at an address. -/
def domainDeactivateOn : Cluster :=
  s.onNode ipVal fun s self => s.modifyNode self (·.domainDeactivate domainId)

/-- `domain_activate` on the node at an address. -/
def domainActivateOn : Cluster :=
  s.onNode ipVal fun s self => s.modifyNode self (·.domainActivate domainId)

/-- `Node_Local_Activate`. A deactivation is refused while a domain of the local node has no other
node that is up. -/
def nodeLocalActivate (factive : Bool) : Cluster :=
  match s.localNode with
  | none => s
  | some self =>
    if factive then s.startThreads.modifyNode self fun n => { n with state := .up }
    else if s.nodeInactivateAllow self then
      (s.modifyNode self fun n => { n with state := .inactive }).stopThreads
    else s

/-- `Node_Heartbeat`. A heartbeat from the leader makes a server that is not the leader run an
election. -/
def nodeHeartbeat (dmcConfigVersion : Nat) (factive : Bool) : Cluster :=
  match s.nodeHash.lookup ipVal with
  | none => s
  | some self =>
    let s := s.modifyNode self fun n =>
      { n with dmcConfigVersion, state := if factive then .up else .inactive }
    let s := { s with dmcConfigVersion := max s.dmcConfigVersion dmcConfigVersion }
    if s.leaderLocal then s
    else if s.leader = some self then s.leaderElectionRun.1
    else s

/-- `Node_Heartbeat_Request`. A node of the same partition becomes the leader. -/
def nodeHeartbeatRequest : Cluster :=
  match s.nodeHash.lookup ipVal with
  | none => s
  | some self =>
    if (s.node self).partitionState = .same then { s with leader := some self } else s

/-- One entry of the list in `Nodes_Status`. The clock is read for each entry. -/
def nodeStatus (entry : IPValue × DPSNodeClusterState × ℚ) : Cluster :=
  let (ipVal, reported, now) := entry
  match reported with
  | .inactive => (s.nodeInactivate ipVal).nodeTouch ipVal now
  | .active => s.nodeTouch ipVal now
  | .down => s.nodeHintDown ipVal now

/-- `Nodes_Status`: the leader reports the state of the nodes. -/
def nodesStatus (leaderIp : IPValue) (configVersion : Nat)
    (dpsNodes : List (IPValue × DPSNodeClusterState × ℚ)) : Cluster :=
  match s.nodeHash.lookup leaderIp with
  | none => s
  | some self =>
    let s := if (s.node self).partitionState = .same then { s with leader := some self } else s
    if s.leader ≠ some self then s
    else
      let s := { s with dmcConfigVersion := max s.dmcConfigVersion configVersion }
      dpsNodes.foldl nodeStatus s

/-- One node of the list in `Nodes_Reconcile_PYTHON`, with the nodes of the list seen so far. -/
def reconcileRound (contacted hinted : ℚ) (state : Cluster × List NodeId)
    (entry : InetType × IPValue × Nat) : Cluster × List NodeId :=
  let (s, updated) := state
  let (ipType, ipVal, port) := entry
  match s.nodeHash.lookup ipVal with
  | some self =>
    (s.modifyNode self fun n => { n with location := { n.location with port } }, self :: updated)
  | none =>
    let s' := s.nodeAdd ipType ipVal port contacted hinted
    (s', if s.valid then s.nextNode :: updated else updated)

/-- `Nodes_Reconcile_PYTHON`: the remote nodes that the list does not name are deleted. -/
def nodesReconcile (nodeList : List (InetType × IPValue × Nat)) (contacted hinted : ℚ) : Cluster :=
  let (s, updated) := nodeList.foldl (reconcileRound contacted hinted) (s, [])
  let s := s.nodeHash.values.foldl (fun s self =>
    if self ∈ updated ∨ (s.node self).flocal then s else s.nodeDelete (s.node self).ip) s
  { s with leaderElectionTrigger := true }

/-- `Nodes_Update`: the controller sends the list of nodes. -/
def nodesUpdate (nodeList : List (InetType × IPValue × Nat)) (contacted hinted : ℚ) : Cluster :=
  match s.localNode with
  | none => s
  | some self =>
    if (s.node self).isInactive then s else s.nodesReconcile nodeList contacted hinted

/-- One deactivated domain in `Node_Set_Domain_Mapping`: it comes back, or is deleted. -/
def mappingDeactivated (newDomainSet : Dict Nat Nat) (s : Cluster) (domainId : Nat) : Cluster :=
  if (newDomainSet.lookup domainId).isSome then s.modifyNode self (·.domainActivate domainId)
  else s.nodeDeleteDomain self domainId

/-- One domain of the node in `Node_Set_Domain_Mapping`: it is deactivated if it is not in the new
mapping. -/
def mappingActive (newDomainSet : Dict Nat Nat) (s : Cluster) (domainId : Nat) : Cluster :=
  if (newDomainSet.lookup domainId).isSome then s
  else s.modifyNode self (·.domainDeactivate domainId)

/-- One domain of the new mapping in `Node_Set_Domain_Mapping`. -/
def mappingNew (s : Cluster) (entry : Σ _ : Nat, Nat) : Cluster :=
  let (node, supported) := (s.node self).domainSupported entry.1 entry.2
  let s := s.modifyNode self fun _ => node
  if supported then
    { s with domainReplicationHash := s.domainReplicationHash.insert entry.1 entry.2 }
  else (s.nodeAddDomainRequest ipVal entry.1 entry.2).1

/-- `Node_Set_Domain_Mapping`: a node reports the domains it hosts. -/
def nodeSetDomainMapping (newDomainSet : Dict Nat Nat) : Cluster :=
  match s.nodeHash.lookup ipVal with
  | none => s
  | some self =>
    let s := (s.node self).domainsDeactivated.keys.foldl (mappingDeactivated self newDomainSet) s
    let s := (s.node self).domains.keys.foldl (mappingActive self newDomainSet) s
    newDomainSet.entries.foldl (mappingNew self ipVal) s

end Cluster

/-- What can happen to the cluster of a server. -/
inductive ClusterEvent where
  | nodeAdd (ipType : InetType) (ipVal : IPValue) (port : Nat) (contacted hinted : ℚ)
  | nodeAddRequest (ipType : InetType) (ipVal : IPValue) (port : Nat) (contacted hinted : ℚ)
  | nodeDelete (ipVal : IPValue)
  | nodeUpdateLocal (ipType : InetType) (ipVal : IPValue) (port : Nat) (contacted hinted : ℚ)
  | nodesUpdate (nodeList : List (InetType × IPValue × Nat)) (contacted hinted : ℚ)
  | nodeAddDomain (ipVal : IPValue) (domainId replicationFactor : Nat)
  | nodeDeleteDomain (ipVal : IPValue) (domainId : Nat)
  | nodeDeleteAllDomains (ipVal : IPValue)
  | domainDelete (domainId : Nat)
  | domainActivate (ipVal : IPValue) (domainId : Nat)
  | domainDeactivate (ipVal : IPValue) (domainId : Nat)
  | nodeSetDomainMapping (ipVal : IPValue) (newDomainSet : Dict Nat Nat)
  | nodeLocalActivate (factive : Bool)
  | nodeTouch (ipVal : IPValue) (now : ℚ)
  | nodeInactivate (ipVal : IPValue)
  | nodeHintDown (ipVal : IPValue) (now : ℚ)
  | nodeHeartbeat (ipVal : IPValue) (dmcConfigVersion : Nat) (factive : Bool)
  | nodeHeartbeatRequest (ipVal : IPValue)
  | nodeHeartbeatProcess (fProcess : Bool)
  | nodesStatus (leaderIp : IPValue) (configVersion : Nat)
      (dpsNodes : List (IPValue × DPSNodeClusterState × ℚ))
  | electionRun
  | timeoutTimer (clock : NodeId → ℚ)
  | leaderTimer (clock : NodeId → ℚ)
  | nonLeaderTimer (clock : NodeId → ℚ)
  | delete

/-- One event. -/
def Cluster.step (s : Cluster) : ClusterEvent → Cluster
  | .nodeAdd ipType ipVal port contacted hinted => s.nodeAdd ipType ipVal port contacted hinted
  | .nodeAddRequest ipType ipVal port contacted hinted =>
    s.nodeAddRequest ipType ipVal port contacted hinted
  | .nodeDelete ipVal => s.nodeDelete ipVal
  | .nodeUpdateLocal ipType ipVal port contacted hinted =>
    s.nodeUpdateLocal ipType ipVal port contacted hinted
  | .nodesUpdate nodeList contacted hinted => s.nodesUpdate nodeList contacted hinted
  | .nodeAddDomain ipVal domainId replicationFactor =>
    (s.nodeAddDomainRequest ipVal domainId replicationFactor).1
  | .nodeDeleteDomain ipVal domainId => s.nodeDeleteDomainRequest ipVal domainId
  | .nodeDeleteAllDomains ipVal => s.nodeDeleteAllDomainsRequest ipVal
  | .domainDelete domainId => s.domainDelete domainId
  | .domainActivate ipVal domainId => s.domainActivateOn ipVal domainId
  | .domainDeactivate ipVal domainId => s.domainDeactivateOn ipVal domainId
  | .nodeSetDomainMapping ipVal newDomainSet => s.nodeSetDomainMapping ipVal newDomainSet
  | .nodeLocalActivate factive => s.nodeLocalActivate factive
  | .nodeTouch ipVal now => s.nodeTouch ipVal now
  | .nodeInactivate ipVal => s.nodeInactivate ipVal
  | .nodeHintDown ipVal now => s.nodeHintDown ipVal now
  | .nodeHeartbeat ipVal dmcConfigVersion factive => s.nodeHeartbeat ipVal dmcConfigVersion factive
  | .nodeHeartbeatRequest ipVal => s.nodeHeartbeatRequest ipVal
  | .nodeHeartbeatProcess fProcess => { s with stateChangeAllow := fProcess }
  | .nodesStatus leaderIp configVersion dpsNodes => s.nodesStatus leaderIp configVersion dpsNodes
  | .electionRun => s.leaderElectionRun.1
  | .timeoutTimer clock => s.timeoutTimer clock
  | .leaderTimer clock => s.leaderTimerRoutine clock
  | .nonLeaderTimer clock => s.nonLeaderTimerRoutine clock
  | .delete => s.delete

end OpenDove
