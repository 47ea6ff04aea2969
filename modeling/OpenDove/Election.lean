import Mathlib.Data.List.Lex
import Mathlib.Data.Char
import OpenDove.ClusterEvents

/-!
# The election of a leader

The election folds a pairwise preference over the table of nodes: of two nodes the one whose
address text comes first. The texts are ordered as lists of characters, which is a linear order, so
the fold ends with the first of all eligible nodes whatever the order of the table.
-/

namespace OpenDove

variable {s : Cluster} {other winner self : NodeId} {ipVal : IPValue} {best : Option NodeId}
  {seen : List NodeId}

namespace Cluster

/-- The address text of a node. -/
def text (s : Cluster) (self : NodeId) : List Char := (s.node self).location.showIp

/-- The nodes of the table, in its iteration order. -/
def nodes (s : Cluster) : List NodeId := s.nodeHash.values

/-- An eligible node of the table that is preferred to every other one. -/
structure Elected (s : Cluster) (winner : NodeId) : Prop where
  listed : winner ∈ s.nodes
  eligible : s.eligible winner
  preferred : ∀ other ∈ s.nodes, s.eligible other → other ≠ winner →
    s.leaderAmongst2 winner other = winner ∧ s.leaderAmongst2 other winner = winner

/-- No two entries of the table show the same address. -/
def DistinctTexts (s : Cluster) : Prop :=
  ∀ entry ∈ s.nodeHash.entries, ∀ entry' ∈ s.nodeHash.entries,
    s.text entry.2 = s.text entry'.2 → entry.1 = entry'.1

instance (s : Cluster) : Decidable s.DistinctTexts :=
  inferInstanceAs (Decidable (∀ entry ∈ s.nodeHash.entries, ∀ entry' ∈ s.nodeHash.entries,
    s.text entry.2 = s.text entry'.2 → entry.1 = entry'.1))

/-- Two servers know the same addresses, and show and judge the node at each address alike. -/
def SameNodes (s t : Cluster) : Prop :=
  ∀ ipVal, (s.nodeHash.lookup ipVal).map (fun self => (s.text self, (s.node self).state)) =
    (t.nodeHash.lookup ipVal).map fun self => (t.text self, (t.node self).state)

/-- What the loop knows after some nodes: a first one among the eligible ones, if there is any. -/
def Leads (s : Cluster) (seen : List NodeId) : Option NodeId → Prop
  | none => ∀ other ∈ seen, s.eligible other = false
  | some winner => winner ∈ seen ∧ s.eligible winner ∧
      ∀ other ∈ seen, s.eligible other → s.text winner ≤ s.text other

theorem leaderAmongst2_cases (s : Cluster) (node1 node2 : NodeId) :
    (s.leaderAmongst2 node1 node2 = node1 ∧ s.text node1 < s.text node2) ∨
      (s.leaderAmongst2 node1 node2 = node2 ∧ s.text node2 ≤ s.text node1) := by
  unfold leaderAmongst2
  split
  · next first => exact .inl ⟨rfl, first⟩
  · next notFirst => exact .inr ⟨rfl, not_lt.mp notFirst⟩

/-- One round of the election. -/
theorem Leads.round (leads : s.Leads seen best) (self : NodeId) :
    s.Leads (seen ++ [self]) (s.electionRound best self) := by
  unfold electionRound
  split
  · next candidate =>
    cases best with
    | none =>
      refine ⟨by simp, candidate, ?_⟩
      intro other inside eligible
      rcases List.mem_append.mp inside with before | last
      · rw [leads other before] at eligible
        cases eligible
      · rw [List.mem_singleton.mp last]
    | some current =>
      obtain ⟨inside, eligible, least⟩ := leads
      rcases s.leaderAmongst2_cases current self with ⟨stays, before⟩ | ⟨changes, before⟩
      · dsimp only
        rw [stays]
        refine ⟨by simp [inside], eligible, ?_⟩
        intro other member candidate'
        rcases List.mem_append.mp member with earlier | last
        · exact least other earlier candidate'
        · rw [List.mem_singleton.mp last]
          exact before.le
      · dsimp only
        rw [changes]
        refine ⟨by simp, candidate, ?_⟩
        intro other member candidate'
        rcases List.mem_append.mp member with earlier | last
        · exact before.trans (least other earlier candidate')
        · rw [List.mem_singleton.mp last]
  · next ineligible =>
    have excluded : s.eligible self = false := by simpa using ineligible
    cases best with
    | none =>
      intro other member
      rcases List.mem_append.mp member with earlier | last
      · exact leads other earlier
      · rw [List.mem_singleton.mp last]
        exact excluded
    | some current =>
      obtain ⟨inside, eligible, least⟩ := leads
      refine ⟨by simp [inside], eligible, ?_⟩
      intro other member candidate
      rcases List.mem_append.mp member with earlier | last
      · exact least other earlier candidate
      · rw [List.mem_singleton.mp last, excluded] at candidate
        cases candidate

/-- The whole loop. -/
theorem Leads.foldl (later : List NodeId) (leads : s.Leads seen best) :
    s.Leads (seen ++ later) (later.foldl s.electionRound best) := by
  induction later generalizing seen best with
  | nil => simpa using leads
  | cons self later ih =>
    have next := ih (leads.round self)
    simpa using next

theorem leads_electionWinner (s : Cluster) : s.Leads s.nodes s.electionWinner := by
  have start : s.Leads [] none := fun other inside => absurd inside List.not_mem_nil
  exact start.foldl s.nodes

theorem distinctTexts_iff : s.DistinctTexts ↔
    ∀ ipVal ipVal' self other, s.nodeHash.lookup ipVal = some self →
      s.nodeHash.lookup ipVal' = some other → s.text self = s.text other → ipVal = ipVal' := by
  constructor
  · intro distinct ipVal ipVal' self other found found'
    exact distinct ⟨ipVal, self⟩ (AList.mem_lookup_iff.mp found)
      ⟨ipVal', other⟩ (AList.mem_lookup_iff.mp found')
  · intro distinct entry listed entry' listed'
    exact distinct entry.1 entry'.1 entry.2 entry'.2
      (AList.mem_lookup_iff.mpr listed) (AList.mem_lookup_iff.mpr listed')

theorem DistinctTexts.eq_of_text (distinct : s.DistinctTexts) (listed : self ∈ s.nodes)
    (listed' : other ∈ s.nodes) (same : s.text self = s.text other) : self = other := by
  obtain ⟨ipVal, found⟩ := (Dict.mem_values ..).mp listed
  obtain ⟨ipVal', found'⟩ := (Dict.mem_values ..).mp listed'
  have sameAddress := distinctTexts_iff.mp distinct ipVal ipVal' self other found found' same
  rw [sameAddress, found'] at found
  exact (Option.some.inj found).symm

/-- Among nodes with different address texts, the first eligible one is preferred to the others. -/
theorem Elected.of_least (distinct : s.DistinctTexts) (listed : winner ∈ s.nodes)
    (eligible : s.eligible winner)
    (least : ∀ other ∈ s.nodes, s.eligible other → s.text winner ≤ s.text other) :
    s.Elected winner := by
  refine ⟨listed, eligible, ?_⟩
  intro other inside candidate differs
  have first : s.text winner < s.text other := by
    refine lt_of_le_of_ne (least other inside candidate) ?_
    intro same
    exact differs (distinct.eq_of_text inside listed same.symm)
  refine ⟨if_pos first, if_neg (not_lt.mpr first.le)⟩

theorem Elected.least (elected : s.Elected winner) (listed : other ∈ s.nodes)
    (candidate : s.eligible other) : s.text winner ≤ s.text other := by
  rcases s.leaderAmongst2_cases winner other with ⟨-, first⟩ | ⟨chosen, -⟩
  · exact first.le
  · by_cases same : other = winner
    · rw [same]
    · have kept := (elected.preferred other listed candidate same).1
      exact absurd (chosen.symm.trans kept) same

/-- At most one node is preferred to all others. -/
theorem Elected.unique (elected : s.Elected winner) (elected' : s.Elected other) :
    other = winner := by
  by_contra differs
  have one := (elected.preferred other elected'.listed elected'.eligible differs).1
  have two := (elected'.preferred winner elected.listed elected.eligible (Ne.symm differs)).2
  exact differs (two.symm.trans one)

/-- With an eligible node the election ends with the elected one. -/
theorem elected_of_eligible (distinct : s.DistinctTexts)
    (candidate : ∃ self ∈ s.nodes, s.eligible self) :
    ∃ winner, s.leaderElectionRun.1.leader = some winner ∧ s.Elected winner := by
  have leads := s.leads_electionWinner
  obtain ⟨self, inside, candidate⟩ := candidate
  cases result : s.electionWinner with
  | none =>
    rw [result] at leads
    rw [leads self inside] at candidate
    cases candidate
  | some winner =>
    rw [result] at leads
    refine ⟨winner, ?_, .of_least distinct leads.1 leads.2.1 leads.2.2⟩
    simp [leaderElectionRun, result]

/-! ## Two servers -/

namespace SameNodes

variable {s t : Cluster}

theorem symm (same : s.SameNodes t) : t.SameNodes s := fun ipVal => (same ipVal).symm

/-- A node of one server has a counterpart at the other. -/
theorem counterpart (same : s.SameNodes t) (found : s.nodeHash.lookup ipVal = some self) :
    ∃ other, t.nodeHash.lookup ipVal = some other ∧ t.text other = s.text self ∧
      (t.node other).state = (s.node self).state := by
  have agree := same ipVal
  rw [found] at agree
  obtain ⟨other, there, view⟩ := Option.map_eq_some_iff.mp agree.symm
  exact ⟨other, there, congrArg Prod.fst view, congrArg Prod.snd view⟩

theorem eligible_iff (state : (t.node other).state = (s.node self).state) :
    t.eligible other = s.eligible self := by
  unfold eligible DPSNode.isDown DPSNode.isInactive
  rw [state]

theorem distinct (same : s.SameNodes t) (distinct : s.DistinctTexts) : t.DistinctTexts := by
  refine distinctTexts_iff.mpr ?_
  intro ipVal ipVal' self other found found' equal
  obtain ⟨here, foundHere, text, -⟩ := same.symm.counterpart found
  obtain ⟨here', foundHere', text', -⟩ := same.symm.counterpart found'
  exact distinctTexts_iff.mp distinct ipVal ipVal' here here' foundHere foundHere'
    (text.trans (equal.trans text'.symm))

/-- The counterpart of the node one server elects is elected at the other. -/
theorem elected (same : s.SameNodes t) (distinct : s.DistinctTexts) {winner' : NodeId}
    (elected : s.Elected winner) (found : s.nodeHash.lookup ipVal = some winner)
    (found' : t.nodeHash.lookup ipVal = some winner') : t.Elected winner' := by
  obtain ⟨here, foundHere, text, state⟩ := same.symm.counterpart found'
  obtain rfl : winner = here := Option.some.inj (found.symm.trans foundHere)
  refine .of_least (same.distinct distinct) ((Dict.mem_values ..).mpr ⟨ipVal, found'⟩) ?_ ?_
  · exact (eligible_iff state).symm.trans elected.eligible
  · intro other listed candidate
    obtain ⟨ipVal', there⟩ := (Dict.mem_values ..).mp listed
    obtain ⟨match', foundMatch, matchText, matchState⟩ := same.symm.counterpart there
    rw [← text, ← matchText]
    refine elected.least ((Dict.mem_values ..).mpr ⟨ipVal', foundMatch⟩) ?_
    exact (eligible_iff matchState).trans candidate

end SameNodes

/-- If any node of the table is eligible, the election selects the one eligible node that
`leader_amongst_2` prefers to every other one; and a server with the same nodes in the same
states, in whatever order, elects the node of the same address. -/
theorem leader_election_is_order_independent (s : Cluster) (distinct : s.DistinctTexts)
    (candidate : ∃ self ∈ s.nodes, s.eligible self) :
    ∃ winner, s.leaderElectionRun.1.leader = some winner ∧ s.Elected winner ∧
      (∀ other, s.Elected other → other = winner) ∧
      ∀ t : Cluster, s.SameNodes t → ∃ winner' ipVal,
        t.leaderElectionRun.1.leader = some winner' ∧
        s.nodeHash.lookup ipVal = some winner ∧ t.nodeHash.lookup ipVal = some winner' := by
  obtain ⟨winner, chosen, elected⟩ := elected_of_eligible distinct candidate
  refine ⟨winner, chosen, elected, fun other elected' => elected.unique elected', ?_⟩
  intro t same
  obtain ⟨ipVal, found⟩ := (Dict.mem_values ..).mp elected.listed
  obtain ⟨winner', there, -⟩ := same.counterpart found
  have elected' := same.elected distinct elected found there
  obtain ⟨chosen', leader, unique⟩ := elected_of_eligible (same.distinct distinct)
    ⟨winner', elected'.listed, elected'.eligible⟩
  obtain rfl : chosen' = winner' := elected'.unique unique
  exact ⟨chosen', ipVal, leader, found, there⟩

/-- The addresses 9.0.0.10 and 10.0.0.10: as texts the second comes first. -/
theorem leader_election_prefers_the_text :
    (run step initial
      [.nodeUpdateLocal .inet (.v4 0x0a000009) 902 0 0, .nodeLocalActivate true,
        .nodeAdd .inet (.v4 0x0a00000a) 902 1 1]).Elected 1 := by
  obtain ⟨winner, chosen, elected, -⟩ := leader_election_is_order_independent
    (run step initial
      [.nodeUpdateLocal .inet (.v4 0x0a000009) 902 0 0, .nodeLocalActivate true,
        .nodeAdd .inet (.v4 0x0a00000a) 902 1 1]) (by decide +kernel) (by decide +kernel)
  have second : (run step initial
      [.nodeUpdateLocal .inet (.v4 0x0a000009) 902 0 0, .nodeLocalActivate true,
        .nodeAdd .inet (.v4 0x0a00000a) 902 1 1]).leaderElectionRun.1.leader = some 1 := by
    decide +kernel
  obtain rfl : winner = 1 := Option.some.inj (chosen.symm.trans second)
  exact elected

end Cluster

end OpenDove
