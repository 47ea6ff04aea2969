import OpenDove.Collection
import OpenDove.Cluster
import OpenDove.Replication

/-!
# Choosing the replicas of a request

The handler of replicated requests chooses the nodes that a request is sent to, draws a query id
for each of them and enters the request in the tracker. A request without nodes is entered too:
it has no query id, so neither a reply nor a tick of the timer ever reaches it.

The cluster, the nodes to which domains are forwarded after a mass transfer and the counter of
query ids are shared with the rest of the server, which may change them at any time.
-/

namespace OpenDove

/-- `DPSReplicationTracker`, with what it reads of the server. `tracker` is that of the shared
domain, which all requests use. `forwardNodes` has an entry for each domain of
`DpsCollection.Domain_Hash`, with its `mass_transfer_forward_nodes`. -/
structure DPSReplicationTracker where
  tracker : DPSDomainReplicationTracker
  cluster : Cluster
  forwardNodes : Dict Nat (Dict IPValue IPAddressLocation)
  queryId : Nat

/-- A server that a request is sent to. -/
abbrev ReplicationTarget := InetType × IPValue × Nat

namespace DPSReplicationTracker

/-- The tuple that stands for a node in the list of servers. -/
def target (location : IPAddressLocation) : ReplicationTarget :=
  (location.inetType, location.ipValuePacked, location.port)

variable (s : DPSReplicationTracker) (msgDomainId : Nat)

/-- The local node as the only server. Without a local node the routine raises. -/
def localTarget : Option (List ReplicationTarget) :=
  s.cluster.localNode.map fun self => [target (s.cluster.node self).location]

/-- The nodes of a normal request, by address: those of the domain that are not down, and those to
which the domain is forwarded. -/
def nodeSet (mapping : Dict IPValue NodeId) : Dict IPValue ReplicationTarget :=
  let clusterNodes := mapping.values.foldl (fun set self =>
    if (s.cluster.node self).isDown then set
    else set.insert (s.cluster.node self).ip (target (s.cluster.node self).location)) ∅
  match s.forwardNodes.lookup msgDomainId with
  | none => clusterNodes
  | some forward =>
    forward.values.foldl (fun set node => set.insert node.ipValue (target node)) clusterNodes

/-- `ReplicationDetermineDPSNodesPYTHON`, or nothing if it raises. -/
def replicationDetermineDPSNodes : TransactionType → Option (Nat × List ReplicationTarget)
  | .normal =>
    (s.cluster.domainHash.lookup msgDomainId).map fun mapping =>
      (dpsErrorNone, (s.nodeSet msgDomainId mapping).values)
  | .replication =>
    match s.forwardNodes.lookup msgDomainId with
    | none => some (dpsErrorNone, [])
    | some forward =>
      if 0 < Dict.size forward then some (dpsErrorRetry, [])
      else s.localTarget.map fun nodes => (dpsErrorNone, nodes)
  | .massTransfer => s.localTarget.map fun nodes => (dpsErrorNone, nodes)
  | .unknown _ => some (dpsErrorNone, [])

/-- The counter of query ids after one was drawn. -/
def nextQueryId (queryId : Nat) : Nat :=
  if queryId + 1 ≥ Collection.maxQueryID then 1 else queryId + 1

/-- Draw a number of query ids. -/
def generateQueryIds : Nat → Nat → List Nat × Nat
  | 0, queryId => ([], queryId)
  | count + 1, queryId =>
    let (queryIds, after) := generateQueryIds count (nextQueryId queryId)
    (queryId :: queryIds, after)

/-- `ReplicationQueryIDGenerate`: the status, the servers and their query ids. The status of the
choice of nodes is overwritten. -/
def replicationQueryIDGenerate (transactionType : TransactionType) (replyMessage : Nat) :
    DPSReplicationTracker × Nat × List ReplicationTarget × List Nat :=
  match s.replicationDetermineDPSNodes msgDomainId transactionType with
  | none => (s, dpsErrorRetry, [], [])
  | some (_, dpsNodes) =>
    let (queryIds, queryId) := generateQueryIds dpsNodes.length s.queryId
    match s.tracker.addReplicationRequest queryIds (some replyMessage) with
    | none => ({ s with queryId }, dpsErrorRetry, [], [])
    | some tracker => ({ s with tracker, queryId }, dpsErrorNone, dpsNodes, queryIds)

end DPSReplicationTracker

/-- What can happen to the handler: requests, replies, ticks of the timer, and changes elsewhere in
the server. -/
inductive HandlerEvent where
  | generate (msgDomainId : Nat) (transactionType : TransactionType) (replyMessage : Nat)
  | reply (queryId error : Nat)
  | tick
  | environment (cluster : Cluster) (forwardNodes : Dict Nat (Dict IPValue IPAddressLocation))
      (queryId : Nat)

/-- A tick of the timer. -/
def HandlerEvent.isTick : HandlerEvent → Bool
  | .tick => true
  | _ => false

namespace DPSReplicationTracker

variable (s : DPSReplicationTracker)

/-- One event. -/
def step : HandlerEvent → DPSReplicationTracker
  | .generate msgDomainId transactionType replyMessage =>
    (s.replicationQueryIDGenerate msgDomainId transactionType replyMessage).1
  | .reply queryId error =>
    { s with tracker := s.tracker.processReplicationReply queryId error }
  | .tick => { s with tracker := s.tracker.timer }
  | .environment cluster forwardNodes queryId => { s with cluster, forwardNodes, queryId }

/-- The query ids that a request draws are not those of outstanding replicas. -/
def FreshIds : HandlerEvent → Prop
  | .generate msgDomainId transactionType _ =>
    match s.replicationDetermineDPSNodes msgDomainId transactionType with
    | none => True
    | some (_, dpsNodes) => ∀ queryId ∈ (generateQueryIds dpsNodes.length s.queryId).1,
        queryId ∉ s.tracker.serverQueryIDHash
  | _ => True

instance (s : DPSReplicationTracker) (event : HandlerEvent) : Decidable (s.FreshIds event) := by
  cases event with
  | generate msgDomainId transactionType replyMessage =>
    dsimp only [FreshIds]
    split <;> infer_instance
  | reply | tick | environment => exact inferInstanceAs (Decidable True)

/-- There is a node to send the request to. -/
def Replicates (msgDomainId : Nat) : TransactionType → Prop
  | .normal =>
    (∃ mapping, s.cluster.domainHash.lookup msgDomainId = some mapping ∧
      ∃ self ∈ mapping.values, ¬ (s.cluster.node self).isDown) ∨
    ∃ forward, s.forwardNodes.lookup msgDomainId = some forward ∧ forward.values ≠ []
  | .replication => ∃ forward, s.forwardNodes.lookup msgDomainId = some forward ∧
      forward.values = []
  | .massTransfer => True
  | .unknown _ => False

/-! ## The nodes of a request -/

theorem nodeSet_eq_nil (msgDomainId : Nat)
    (mapping : Dict IPValue NodeId) : (s.nodeSet msgDomainId mapping).values = [] ↔
      (∀ self ∈ mapping.values, (s.cluster.node self).isDown) ∧
        ∀ forward, s.forwardNodes.lookup msgDomainId = some forward → forward.values = [] := by
  have clusterNodes := Dict.values_foldl_eq_nil (fun self => (s.cluster.node self).isDown)
    (fun self => (s.cluster.node self).ip) (fun self => target (s.cluster.node self).location)
    mapping.values ∅
  unfold nodeSet
  cases s.forwardNodes.lookup msgDomainId with
  | none =>
    dsimp only
    rw [clusterNodes]
    simp
  | some forward =>
    have forwarded := Dict.values_foldl_eq_nil (fun _ : IPAddressLocation => false)
      (·.ipValue) target forward.values
    simp only [Bool.false_eq_true, if_false] at forwarded
    dsimp only
    rw [forwarded, clusterNodes]
    simp [List.eq_nil_iff_forall_not_mem]

/-- The choice of nodes, when it does not raise. -/
theorem nodes_ne_nil_iff {s : DPSReplicationTracker} {msgDomainId : Nat}
    {transactionType : TransactionType} {status : Nat} {dpsNodes : List ReplicationTarget}
    (chosen : s.replicationDetermineDPSNodes msgDomainId transactionType = some (status, dpsNodes)) :
    dpsNodes ≠ [] ↔ s.Replicates msgDomainId transactionType := by
  have localNodes : ∀ {verdict : Nat},
      s.localTarget.map (fun nodes => (verdict, nodes)) = some (status, dpsNodes) →
      dpsNodes ≠ [] := by
    intro verdict some
    unfold localTarget at some
    cases present : s.cluster.localNode with
    | none => simp [present] at some
    | some self =>
      simp only [present, Option.map_some, Option.some.injEq, Prod.mk.injEq] at some
      simp [← some.2]
  cases transactionType with
  | normal =>
    obtain ⟨mapping, found, chosen⟩ := Option.map_eq_some_iff.mp chosen
    obtain rfl : (s.nodeSet msgDomainId mapping).values = dpsNodes := congrArg Prod.snd chosen
    rw [Ne, nodeSet_eq_nil]
    simp only [Replicates, found, Option.some.injEq, exists_eq_left']
    constructor
    · intro nonempty
      by_contra neither
      push Not at neither
      exact nonempty ⟨fun self inside => by simpa using neither.1 self inside, neither.2⟩
    · rintro (⟨self, inside, up⟩ | ⟨forward, forwarded, nonempty⟩) ⟨down, empty⟩
      · exact up (down self inside)
      · exact nonempty (empty forward forwarded)
  | replication =>
    unfold replicationDetermineDPSNodes at chosen
    unfold Replicates
    cases known : s.forwardNodes.lookup msgDomainId with
    | none =>
      simp only [known, Option.some.injEq, Prod.mk.injEq] at chosen
      simp [← chosen.2]
    | some forward =>
      have size : Dict.size forward = 0 ↔ forward.values = [] := by
        simp [Dict.size, Dict.values]
      simp only [known] at chosen
      split at chosen
      · next forwards =>
        simp only [Option.some.injEq, Prod.mk.injEq] at chosen
        have nonempty : forward.values ≠ [] := fun empty => by
          rw [size.mpr empty] at forwards
          exact Nat.lt_irrefl 0 forwards
        simp [← chosen.2, nonempty]
      · next none =>
        have empty : forward.values = [] := size.mp (by omega)
        simp [localNodes chosen, empty]
  | massTransfer => simp [localNodes chosen, Replicates]
  | unknown code =>
    simp only [replicationDetermineDPSNodes, Option.some.injEq, Prod.mk.injEq] at chosen
    simp [← chosen.2, Replicates]

theorem length_generateQueryIds (count queryId : Nat) :
    (generateQueryIds count queryId).1.length = count := by
  induction count generalizing queryId with
  | zero => rfl
  | succ count ih =>
    simp [generateQueryIds, ih]

/-- A request is turned away and leaves the tracker alone, or is accepted and entered. -/
theorem generate_cases (msgDomainId : Nat)
    (transactionType : TransactionType) (replyMessage : Nat) :
    ((s.replicationQueryIDGenerate msgDomainId transactionType replyMessage).2.1 = dpsErrorRetry ∧
      (s.step (.generate msgDomainId transactionType replyMessage)).tracker = s.tracker) ∨
    ∃ status dpsNodes,
      s.replicationDetermineDPSNodes msgDomainId transactionType = some (status, dpsNodes) ∧
      s.tracker.addReplicationRequest (generateQueryIds dpsNodes.length s.queryId).1
        (some replyMessage) =
          some (s.step (.generate msgDomainId transactionType replyMessage)).tracker := by
  have after : (s.step (.generate msgDomainId transactionType replyMessage)).tracker =
    (s.replicationQueryIDGenerate msgDomainId transactionType replyMessage).1.tracker := rfl
  rw [after]
  unfold replicationQueryIDGenerate
  cases chosen : s.replicationDetermineDPSNodes msgDomainId transactionType with
  | none => exact .inl ⟨rfl, rfl⟩
  | some choice =>
    obtain ⟨status, dpsNodes⟩ := choice
    dsimp only
    cases entered : s.tracker.addReplicationRequest (generateQueryIds dpsNodes.length s.queryId).1
      (some replyMessage) with
    | none => exact .inl ⟨rfl, rfl⟩
    | some tracker => exact .inr ⟨status, dpsNodes, rfl, entered⟩

end DPSReplicationTracker

end OpenDove
