import OpenDove.Election
import OpenDove.ClusterPaths

/-!
# The leader as a member

An election that finds a candidate makes a node of the table the leader. One that finds none keeps
the leader of before, which may have left the table or gone down. A run in which each election has
a candidate keeps the leader in the table.
-/

namespace OpenDove

variable (s : Cluster)

namespace Cluster

/-- The leader, if there is one, is a node of the table. -/
def LeaderListed (s : Cluster) : Prop := ∀ self ∈ s.leader, self ∈ s.nodes

/-- The leader, if there is one, can be elected. -/
def LeaderEligible (s : Cluster) : Prop := ∀ self ∈ s.leader, s.eligible self

/-- There is no leader to keep, or a node that can take its place. -/
def Contested (s : Cluster) : Prop := s.leader = none ∨ ∃ self ∈ s.nodes, s.eligible self

instance (s : Cluster) : Decidable s.LeaderListed :=
  inferInstanceAs (Decidable (∀ self ∈ s.leader, self ∈ s.nodes))

instance (s : Cluster) : Decidable s.LeaderEligible :=
  inferInstanceAs (Decidable (∀ self ∈ s.leader, s.eligible self))

instance (s : Cluster) : Decidable s.Contested :=
  inferInstanceAs (Decidable (s.leader = none ∨ ∃ self ∈ s.nodes, s.eligible self))

/-! ## One election -/

/-- An election changes the leader only. -/
theorem leaderElectionRun_keeps :
    s.leaderElectionRun.1.nodeHash = s.nodeHash ∧ s.leaderElectionRun.1.node = s.node := by
  unfold leaderElectionRun
  split <;> exact ⟨rfl, rfl⟩

/-- The leader after an election with a candidate. -/
theorem leader_of_contested {s : Cluster} (contested : s.Contested) {self : NodeId}
    (leader : self ∈ s.leaderElectionRun.1.leader) : self ∈ s.nodes ∧ s.eligible self := by
  have leads := s.leads_electionWinner
  unfold leaderElectionRun at leader
  cases result : s.electionWinner with
  | none =>
    rw [result] at leads leader
    rcases contested with vacant | ⟨other, inside, candidate⟩
    · rw [vacant] at leader
      cases leader
    · rw [leads other inside] at candidate
      cases candidate
  | some winner =>
    rw [result] at leads leader
    obtain rfl : winner = self := Option.some.inj leader
    exact ⟨leads.1, leads.2.1⟩

theorem leaderElectionRun_listed {s : Cluster} (contested : s.Contested) :
    s.leaderElectionRun.1.LeaderListed := by
  intro self leader
  unfold nodes
  rw [s.leaderElectionRun_keeps.1]
  exact (leader_of_contested contested leader).1

theorem leaderElectionRun_eligible {s : Cluster} (contested : s.Contested) :
    s.leaderElectionRun.1.LeaderEligible := by
  intro self leader
  unfold eligible
  rw [s.leaderElectionRun_keeps.2]
  exact (leader_of_contested contested leader).2

/-- Every election has a candidate, and no node takes the address of a leader other than itself.
The table is read in the state before the event, and for an election in the state before it. -/
def KeepsLeader (s : Cluster) (event : ClusterEvent) : Prop :=
  (∀ t ∈ s.held event, t.Contested) ∧
    match event with
    | .nodeAdd _ ipVal _ _ _ => ¬ s.valid ∨ s.leader = none ∨ s.nodeHash.lookup ipVal ≠ s.leader
    | .nodeUpdateLocal _ ipVal _ _ _ =>
      s.leader = none ∨ s.leader = s.localNode ∨
        s.nodeHash.lookup ipVal ≠ s.leader ∧
          ∀ self ∈ s.localNode, s.nodeHash.lookup (s.node self).ip ≠ s.leader
    | _ => True

instance (s : Cluster) (event : ClusterEvent) : Decidable (s.KeepsLeader event) := by
  unfold KeepsLeader
  cases event <;> infer_instance

/-! ## What keeps the table and the leader -/

theorem LeaderListed.of_offices {s t : Cluster} (listed : s.LeaderListed)
    (same : t.offices = s.offices) : t.LeaderListed := by
  have nodeHash : t.nodeHash = s.nodeHash := congrArg (·.1.1) same
  have leader : t.leader = s.leader := congrArg (·.1.2) same
  unfold LeaderListed nodes
  rw [nodeHash, leader]
  exact listed

/-! ## The events -/

namespace LeaderListed

variable {s : Cluster}

variable (listed : s.LeaderListed)

include listed

/-- A table that differs at one address keeps the leader unless the leader has that address. -/
theorem retable {ipVal : IPValue} {table : Dict IPValue NodeId}
    (elsewhere : ∀ other, other ≠ ipVal → table.lookup other = s.nodeHash.lookup other)
    (apart : s.leader = none ∨ s.nodeHash.lookup ipVal ≠ s.leader) :
    ∀ other ∈ s.leader, other ∈ Dict.values table := by
  intro other leader
  obtain ⟨ipVal', found⟩ := (Dict.mem_values ..).mp (listed other leader)
  refine (Dict.mem_values ..).mpr ⟨ipVal', (elsewhere ipVal' ?_).trans found⟩
  rintro rfl
  rcases apart with vacant | differs
  · rw [vacant] at leader
    cases leader
  · exact differs (found.trans leader.symm)

variable (ipType : InetType) (ipVal : IPValue)

theorem insert (self : NodeId)
    (apart : s.leader = none ∨ s.nodeHash.lookup ipVal ≠ s.leader) :
    ∀ other ∈ s.leader, other ∈ Dict.values (s.nodeHash.insert ipVal self) :=
  listed.retable (fun _ => AList.lookup_insert_ne) apart

theorem erase (apart : s.leader = none ∨ s.nodeHash.lookup ipVal ≠ s.leader) :
    ∀ other ∈ s.leader, other ∈ Dict.values (s.nodeHash.erase ipVal) :=
  listed.retable (fun _ => AList.lookup_erase_ne) apart

theorem nodeRemove {self : NodeId} {ipVal : IPValue}
    (found : s.nodeHash.lookup ipVal = some self) (other : s.leader ≠ some self) :
    (s.nodeRemove self ipVal).LeaderListed := by
  have same := s.offices_nodeDeleteAllDomains self
  have nodeHash : (s.nodeDeleteAllDomains self).nodeHash = s.nodeHash := congrArg (·.1.1) same
  have leader : (s.nodeDeleteAllDomains self).leader = s.leader := congrArg (·.1.2) same
  have removed := listed.erase ipVal (.inr (found ▸ other.symm))
  unfold LeaderListed nodes Cluster.nodeRemove
  simp only [nodeHash, leader]
  exact removed

theorem nodeDelete (contested : ∀ t ∈ s.heldByNodeDelete ipVal, t.Contested) :
    (s.nodeDelete ipVal).LeaderListed := by
  unfold heldByNodeDelete at contested
  rw [nodeDelete_eq]
  cases found : s.nodeHash.lookup ipVal with
  | none => exact listed
  | some self =>
    rw [found] at contested
    dsimp only at contested ⊢
    split
    · next led =>
      rw [if_pos led] at contested
      exact leaderElectionRun_listed (contested _ (List.mem_singleton.mpr rfl))
    · next other => exact listed.nodeRemove found other

theorem nodeAdd (port : Nat)
    (contacted hinted : ℚ)
    (apart : ¬ s.valid ∨ s.leader = none ∨ s.nodeHash.lookup ipVal ≠ s.leader) :
    (s.nodeAdd ipType ipVal port contacted hinted).LeaderListed := by
  unfold Cluster.nodeAdd
  split
  · exact listed
  · next valid =>
    have free := apart.resolve_left valid
    dsimp only [allocate]
    rw [Function.update_self]
    exact listed.insert ipVal s.nextNode free

/-- The local node moves: it stays in the table, and so does another leader. -/
theorem moveLocal (self : NodeId) (ipVal ipVal' : IPValue)
    (apart : s.leader = none ∨ s.leader = some self ∨
      s.nodeHash.lookup ipVal' ≠ s.leader ∧ s.nodeHash.lookup ipVal ≠ s.leader) :
    ∀ other ∈ s.leader, other ∈ Dict.values ((s.nodeHash.erase ipVal).insert ipVal' self) := by
  rcases apart with vacant | own | ⟨newAddress, oldAddress⟩
  · intro other leader
    rw [vacant] at leader
    cases leader
  · intro other leader
    rw [own] at leader
    obtain rfl : self = other := Option.some.inj leader
    exact (Dict.mem_values ..).mpr ⟨ipVal', AList.lookup_insert _⟩
  · have erased : ({ s with nodeHash := s.nodeHash.erase ipVal } : Cluster).LeaderListed :=
      listed.erase ipVal (.inr oldAddress)
    refine erased.insert ipVal' self ?_
    by_cases vacant : s.leader = none
    · exact .inl vacant
    · refine .inr ?_
      rw [Dict.lookup_erase]
      split
      · exact Ne.symm vacant
      · exact newAddress

theorem nodeUpdateLocal (port : Nat) (contacted hinted : ℚ)
    (apart : s.leader = none ∨ s.leader = s.localNode ∨
      s.nodeHash.lookup ipVal ≠ s.leader ∧
        ∀ self ∈ s.localNode, s.nodeHash.lookup (s.node self).ip ≠ s.leader) :
    (s.nodeUpdateLocal ipType ipVal port contacted hinted).LeaderListed := by
  unfold Cluster.nodeUpdateLocal
  cases present : s.localNode with
  | none =>
    have free : s.leader = none ∨ s.nodeHash.lookup ipVal ≠ s.leader := by
      rw [present] at apart
      rcases apart with vacant | vacant | ⟨free, -⟩
      · exact .inl vacant
      · exact .inl vacant
      · exact .inr free
    dsimp only [allocate]
    rw [Function.update_self]
    exact listed.insert ipVal s.nextNode free
  | some self =>
    dsimp only [modifyNode]
    rw [Function.update_self]
    refine listed.moveLocal self (s.node self).ip ipVal ?_
    rw [present] at apart
    exact apart.imp_right fun apart => apart.imp_right fun apart => ⟨apart.1, apart.2 self rfl⟩

theorem nodeAddDomain (domainId replicationFactor : Nat)
    (contested : ∀ t ∈ s.heldByNodeAddDomain ipVal domainId replicationFactor, t.Contested) :
    (s.nodeAddDomainRequest ipVal domainId replicationFactor).1.LeaderListed := by
  unfold heldByNodeAddDomain at contested
  unfold nodeAddDomainRequest
  cases found : s.nodeHash.lookup ipVal with
  | none => exact listed
  | some self =>
    rw [found] at contested
    dsimp only at contested ⊢
    refine s.nodeAddDomain_rule self domainId replicationFactor listed (fun valid allowed => ?_)
      fun t listed => listed
    rw [if_neg (not_not.mpr valid), if_neg allowed] at contested
    split
    · next partitioned =>
      rw [if_pos partitioned] at contested
      exact leaderElectionRun_listed (contested _ (List.mem_singleton.mpr rfl))
    · exact listed

/-- Every path keeps the leader in the table if its elections have a candidate. -/
theorem path {sees : NodeId → DPSNode.Sighting → Prop} {t : Cluster} {held : List Cluster}
    (path : Path sees s held t) (contested : ∀ u ∈ held, u.Contested) : t.LeaderListed := by
  induction path with
  | @note s t same =>
    simp only [core, Prod.mk.injEq] at same
    unfold LeaderListed nodes
    rw [same.2.1, same.2.2.2.2.1]
    exact listed
  | trans _ _ first second =>
    rw [List.forall_mem_append] at contested
    exact second (first listed contested.1) contested.2
  | elect s => exact leaderElectionRun_listed (contested s (List.mem_singleton.mpr rfl))
  | @appoint _ ipVal self found =>
    rintro other ⟨⟩
    exact (Dict.mem_values ..).mpr ⟨ipVal, found⟩
  | write | redomain => exact listed
  | nodeDeleteDomain => exact listed.of_offices (offices_nodeDeleteDomain ..)
  | nodeDeleteAllDomains => exact listed.of_offices (offices_nodeDeleteAllDomains ..)
  | domainDelete => exact listed.of_offices (offices_domainDelete ..)
  | nodeAddDomain s ipVal domainId replicationFactor =>
    exact listed.nodeAddDomain ipVal domainId replicationFactor contested
  | @nodeAdd s ipType ipVal port contacted hinted unknown =>
    refine listed.nodeAdd ipType ipVal port contacted hinted (.inr ?_)
    rw [unknown]
    cases s.leader with
    | none => exact .inl rfl
    | some self => exact .inr nofun
  | nodeDelete s ipVal => exact listed.nodeDelete ipVal contested

theorem nodeLocalActivate (factive : Bool) : (s.nodeLocalActivate factive).LeaderListed := by
  unfold Cluster.nodeLocalActivate
  split
  · exact listed
  · split
    · exact listed
    · split
      · rintro self ⟨⟩
      · exact listed

/-- Every event that meets the condition keeps the leader in the table. -/
theorem step (event : ClusterEvent) (keeps : s.KeepsLeader event) :
    (s.step event).LeaderListed := by
  obtain ⟨contested, apart⟩ := keeps
  cases event with
  | nodeAdd ipType ipVal port contacted hinted =>
    exact listed.nodeAdd ipType ipVal port contacted hinted apart
  | nodeUpdateLocal ipType ipVal port contacted hinted =>
    exact listed.nodeUpdateLocal ipType ipVal port contacted hinted apart
  | nodeLocalActivate factive => exact listed.nodeLocalActivate factive
  | delete => rintro self ⟨⟩
  | _ =>
    refine listed.path (.step s _ ?_) contested
    exact True.intro

end LeaderListed

/-- In a run whose elections all have a candidate, and in which no node takes the address of the
leader, the leader is a node of the table, and each election of the last event ends with a
leader that can be elected. -/
theorem recorded_leader_is_a_member (events : List ClusterEvent) (event : ClusterEvent)
    (admissible : Admissible step KeepsLeader initial (events ++ [event])) :
    (run step initial events).LeaderListed ∧ (run step initial (events ++ [event])).LeaderListed ∧
      ∀ t ∈ (run step initial events).held event, t.leaderElectionRun.1.LeaderEligible := by
  have initially : initial.LeaderListed := by
    rintro self ⟨⟩
  have reached : (run step initial events).LeaderListed :=
    run_invariant LeaderListed (fun _ event listed => listed.step event) initially
      admissible.of_append
  have ends : (run step initial (events ++ [event])).LeaderListed :=
    run_invariant LeaderListed (fun _ event listed => listed.step event) initially admissible
  refine ⟨reached, ends, ?_⟩
  intro t inside
  exact leaderElectionRun_eligible (admissible.last.1 t inside)

/-- Two servers, of which the second is elected, leads and is deleted. -/
theorem recorded_leader_is_a_member_two_nodes :
    Admissible step KeepsLeader initial
      ([.nodeUpdateLocal .inet (.v4 2) 902 0 0, .nodeLocalActivate true,
        .nodeAddRequest .inet (.v4 1) 902 1 1, .electionRun, .nodeHeartbeat (.v4 1) 0 true] ++
        [.nodeDelete (.v4 1)]) ∧
    (run step initial
      ([.nodeUpdateLocal .inet (.v4 2) 902 0 0, .nodeLocalActivate true,
        .nodeAddRequest .inet (.v4 1) 902 1 1, .electionRun, .nodeHeartbeat (.v4 1) 0 true] ++
        [.nodeDelete (.v4 1)])).LeaderListed :=
  have admissible : Admissible step KeepsLeader initial (_ ++ [_]) := by decide +kernel
  ⟨admissible, (recorded_leader_is_a_member _ _ admissible).2.1⟩

/-- The local node is deactivated and activated again, which leaves it out of the table. The only
node of the table is elected. When it reports itself inactive the election keeps it, and when
it is deleted the election keeps it too, out of the table. -/
theorem recorded_leader_is_stale :
    (∃ t ∈ (run step initial
      [.nodeUpdateLocal .inet (.v4 1) 902 0 0, .nodeLocalActivate true, .nodeLocalActivate false,
        .nodeLocalActivate true, .nodeAddRequest .inet (.v4 2) 902 1 1, .electionRun]).held
          (.nodeHeartbeat (.v4 2) 0 false), ¬ t.leaderElectionRun.1.LeaderEligible) ∧
    ¬ (run step initial
      [.nodeUpdateLocal .inet (.v4 1) 902 0 0, .nodeLocalActivate true, .nodeLocalActivate false,
        .nodeLocalActivate true, .nodeAddRequest .inet (.v4 2) 902 1 1, .electionRun,
        .nodeDelete (.v4 2)]).LeaderListed := by
  constructor <;> decide +kernel

end Cluster

end OpenDove
