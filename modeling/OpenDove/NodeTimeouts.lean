import Mathlib.Logic.Relation
import Mathlib.Tactic.Linarith
import OpenDove.ClusterPaths

/-!
# When a node is declared down

A node goes down in two waits: up to hinted down, and from there to down. The first ends when the
node was not contacted for `HINT_NO_CONTACT` seconds, or when the leader reports the node as down.
The second lasts `MAX_NO_CONTACT` seconds from then on. Leaders and followers run different timer
routines, and the role can change between two passes. Time is kept beside the cluster, and every
reading of the clock lies between the times before and after its event.
-/

namespace OpenDove

/-! ## Time -/

namespace ClusterEvent

/-- The clock is read in order, between two times. -/
def Within (before now : ℚ) : ClusterEvent → Prop
  | .nodeAdd _ _ _ contacted hinted | .nodeAddRequest _ _ _ contacted hinted
  | .nodeUpdateLocal _ _ _ contacted hinted | .nodesUpdate _ contacted hinted =>
    before ≤ contacted ∧ contacted ≤ hinted ∧ hinted ≤ now
  | .nodeTouch _ reading | .nodeHintDown _ reading => before ≤ reading ∧ reading ≤ now
  | .nodesStatus _ _ dpsNodes =>
    List.IsChain (· ≤ ·) (before :: dpsNodes.map (fun entry => entry.2.2) ++ [now])
  | .timeoutTimer clock | .leaderTimer clock | .nonLeaderTimer clock =>
    before ≤ now ∧ ∀ self, before ≤ clock self ∧ clock self ≤ now
  | _ => before ≤ now

/-- A pass of a timer routine with the given readings. -/
def Pass (clock : NodeId → ℚ) (event : ClusterEvent) : Prop :=
  event = .timeoutTimer clock ∨ event = .leaderTimer clock ∨ event = .nonLeaderTimer clock

end ClusterEvent

namespace Cluster

/-- An event, with the time after it. -/
def timedStep (state : Cluster × ℚ) (event : ClusterEvent × ℚ) : Cluster × ℚ :=
  (state.1.step event.1, event.2)

/-- The clock never goes back. -/
def OnTime (state : Cluster × ℚ) (event : ClusterEvent × ℚ) : Prop :=
  event.1.Within state.2 event.2

/-- The event reports a node as down at a reading of the clock. -/
def Hints (s : Cluster) (self : NodeId) (reading : ℚ) : ClusterEvent → Prop
  | .nodeHintDown ipVal now => s.nodeHash.lookup ipVal = some self ∧ reading = now
  | .nodesStatus _ _ dpsNodes => ∃ entry ∈ dpsNodes,
    (entry.2.1 = .down ∧ s.nodeHash.lookup entry.1 = some self) ∧ reading = entry.2.2
  | _ => False

/-- Some event of a run reports a node as down at a reading of the clock. -/
def Reported (start : Cluster × ℚ) (events : List (ClusterEvent × ℚ)) (self : NodeId)
    (reading : ℚ) : Prop :=
  ∃ before report after, events = before ++ report :: after ∧
    (run timedStep start before).1.Hints self reading report.1

end Cluster

/-! ## One node -/

variable {reading now before : ℚ} {s : Cluster} {reported : ℚ → Prop} {node' : DPSNode}

namespace DPSNode

/-- The sighting reads no time but the given one. -/
def Sighting.ReadAt (now : ℚ) : Sighting → Prop
  | .settle _ => True
  | .touch reading | .report _ reading | .leaderPass _ reading | .nonLeaderPass _ reading =>
    reading = now

/-- The sighting is a report, at the given time, that the node is down. -/
def Sighting.Reports (now : ℚ) : Sighting → Prop
  | .report _ reading => now = reading
  | _ => False

/-- The sighting is a pass of a timer. -/
def Sighting.Passes : Sighting → Prop
  | .leaderPass .. | .nonLeaderPass .. => True
  | _ => False

/-- What the watched fields of a node decide and every sighting keeps stays. -/
theorem seen_keeps (property : DPSNode → Prop) {allowed : Sighting → Prop} {node : DPSNode}
    (reached : Relation.ReflTransGen (Seen allowed) node node')
    (watched : ∀ node node', node'.watch = node.watch → property node → property node')
    (sighted : ∀ node seen, allowed seen → property node → property (node.sighted seen))
    (initially : property node) : property node' := by
  induction reached with
  | refl => exact initially
  | tail _ last ih =>
    obtain same | ⟨seen, told, same⟩ := last
    · exact watched _ _ same ih
    · exact watched _ _ same (sighted _ seen told ih)

/-- The contact and the hint of a node lie in the past. A node that is hinted down was not contacted
since, and the hint is of a time at which it was reported, or the first wait was over by then. -/
structure Watched (node : DPSNode) (reported : ℚ → Prop) (now : ℚ) : Prop where
  contact : node.lastContactedSecs ≤ now
  hint : node.state = .hintDown →
    node.lastContactedSecs ≤ node.hintDownSecs ∧ node.hintDownSecs ≤ now ∧
      (reported node.hintDownSecs ∨
        hintNoContact < node.hintDownSecs - node.lastContactedSecs)

namespace Watched

variable {node : DPSNode} {reported : ℚ → Prop} {before now : ℚ}

theorem later (watched : node.Watched reported before) (order : before ≤ now) :
    node.Watched reported now where
  contact := watched.contact.trans order
  hint := fun hinted =>
    have ⟨first, second, wait⟩ := watched.hint hinted
    ⟨first, second.trans order, wait⟩

theorem of_watch (watched : node.Watched reported now) (same : node'.watch = node.watch) :
    node'.Watched reported now := by
  have contact : node'.lastContactedSecs = node.lastContactedSecs := congrArg Prod.fst same
  have hint : node'.hintDownSecs = node.hintDownSecs := congrArg (·.2.1) same
  have state : node'.state = node.state := congrArg (·.2.2) same
  constructor
  · rw [contact]
    exact watched.contact
  · rw [contact, hint, state]
    exact watched.hint

/-- A node in another state than hinted down need only have been contacted. -/
theorem of_contact (contact : node.lastContactedSecs ≤ now) (state : node.state ≠ .hintDown) :
    node.Watched reported now :=
  ⟨contact, fun hinted => absurd hinted state⟩

theorem expireHint (watched : node.Watched reported now) (reading : ℚ) :
    (node.expireHint reading).1.Watched reported now := by
  unfold DPSNode.expireHint
  split
  · exact of_contact watched.contact (by simp)
  · exact watched

/-- A sighting at the current time. -/
theorem sighted (watched : node.Watched reported now) {seen : Sighting} (read : seen.ReadAt now)
    (told : ∀ at', seen.Reports at' → reported at') : (node.sighted seen).Watched reported now := by
  cases seen with
  | settle active => exact of_contact watched.contact (by cases active <;> simp [DPSNode.sighted])
  | touch reading =>
    obtain rfl := read
    dsimp only [DPSNode.sighted, DPSNode.touch]
    cases state : node.state with
    | up | hintDown | down => exact of_contact le_rfl (by simp)
    | inactive => exact of_contact le_rfl (by simp)
  | report allow reading =>
    obtain rfl := read
    dsimp only [DPSNode.sighted, DPSNode.hintDown]
    split
    · exact ⟨watched.contact, fun _ => ⟨watched.contact, le_rfl, .inl (told _ rfl)⟩⟩
    · exact watched
  | leaderPass allow reading =>
    obtain rfl := read
    dsimp only [DPSNode.sighted, DPSNode.timeoutLeader]
    split
    · exact watched
    · cases state : node.state with
      | hintDown => exact watched.expireHint reading
      | up =>
        dsimp only
        split
        · next wait => exact ⟨watched.contact, fun _ => ⟨watched.contact, le_rfl, .inr wait⟩⟩
        · exact watched
      | down | inactive => exact watched
  | nonLeaderPass allow reading =>
    dsimp only [DPSNode.sighted, DPSNode.timeoutNonLeader]
    split
    · exact watched
    · cases state : node.state with
      | hintDown => exact watched.expireHint reading
      | up => exact of_contact watched.contact (by simp)
      | down | inactive => exact watched

end Watched

/-- Only a timer takes a node down. -/
theorem sighted_not_down {node : DPSNode} {seen : Sighting} (still : ¬ seen.Passes)
    (up : node.state ≠ .down) : (node.sighted seen).state ≠ .down := by
  cases seen with
  | settle active => cases active <;> simp [sighted]
  | touch now =>
    dsimp only [sighted, touch]
    cases state : node.state <;> simp
  | report allow now =>
    dsimp only [sighted, hintDown]
    split
    · cases allow <;> simp
    · exact up
  | leaderPass | nonLeaderPass => exact absurd True.intro still

/-- A node that passes at one time took from another: if it went down, it was hinted down long
before, and if it is hinted down, it was so before or is since that time. -/
structure Passed (start node : DPSNode) (reading : ℚ) : Prop where
  down : node.state = .down → start.state = .down ∨
    start.state = .hintDown ∧ maxNoContact < reading - start.hintDownSecs
  hint : node.state = .hintDown →
    start.state = .hintDown ∧ node.hintDownSecs = start.hintDownSecs ∨ reading ≤ node.hintDownSecs

namespace Passed

variable {start node : DPSNode} {reading : ℚ}

theorem of_settled (up : node.state ≠ .down) (other : node.state ≠ .hintDown) :
    Passed start node reading :=
  ⟨fun down => absurd down up, fun hint => absurd hint other⟩

variable (passed : Passed start node reading)

include passed

theorem expireHint (hinted : node.state = .hintDown) :
    Passed start (node.expireHint reading).1 reading := by
  unfold DPSNode.expireHint
  split
  · next wait =>
    refine ⟨fun _ => ?_, fun hint => by cases hint⟩
    rcases passed.hint hinted with ⟨before, same⟩ | since
    · rw [same] at wait
      exact .inr ⟨before, wait⟩
    · have positive : (0 : ℚ) < maxNoContact := by norm_num [maxNoContact]
      linarith
  · exact passed

/-- A sighting at the time. -/
theorem sighted {seen : Sighting} (read : seen.ReadAt reading) :
    Passed start (node.sighted seen) reading := by
  cases seen with
  | settle active => cases active <;> exact of_settled (by nofun) (by nofun)
  | touch now =>
    dsimp only [DPSNode.sighted, DPSNode.touch]
    cases state : node.state with
    | up | hintDown | down => exact of_settled (by simp) (by simp)
    | inactive => exact of_settled (by simp) (by simp)
  | report allow now =>
    obtain rfl := read
    dsimp only [DPSNode.sighted, DPSNode.hintDown]
    split
    · refine ⟨fun down => ?_, fun _ => .inr le_rfl⟩
      cases allow <;> cases down
    · exact passed
  | leaderPass allow now =>
    obtain rfl := read
    dsimp only [DPSNode.sighted, DPSNode.timeoutLeader]
    split
    · exact passed
    · cases state : node.state with
      | hintDown => exact passed.expireHint state
      | up =>
        dsimp only
        split
        · refine ⟨fun down => ?_, fun _ => .inr le_rfl⟩
          cases down
        · exact passed
      | down | inactive => exact passed
  | nonLeaderPass allow now =>
    obtain rfl := read
    dsimp only [DPSNode.sighted, DPSNode.timeoutNonLeader]
    split
    · exact passed
    · cases state : node.state with
      | hintDown => exact passed.expireHint state
      | up => exact of_settled (by simp) (by simp)
      | down | inactive => exact passed

theorem of_watch (same : node'.watch = node.watch) : Passed start node' reading := by
  have hint : node'.hintDownSecs = node.hintDownSecs := congrArg (·.2.1) same
  have state : node'.state = node.state := congrArg (·.2.2) same
  constructor
  · rw [state]
    exact passed.down
  · rw [state, hint]
    exact passed.hint

end Passed

end DPSNode

/-! ## The events -/

namespace Cluster

/-- What happens to the nodes that exist, and to each of them only what is allowed. -/
structure Affects (sees : NodeId → DPSNode.Sighting → Prop) (s t : Cluster) : Prop where
  created : s.nextNode ≤ t.nextNode
  node : ∀ self, self < s.nextNode →
    Relation.ReflTransGen (DPSNode.Seen (sees self)) (s.node self) (t.node self)

namespace Affects

variable {s t u : Cluster} {sees : NodeId → DPSNode.Sighting → Prop} {held : List Cluster}

theorem of_offices (same : t.offices.2 = s.offices.2) : Affects sees s t where
  created := (congrArg Prod.fst same).ge
  node := fun self _ => .single (.inl (congrFun (congrArg Prod.snd same) self))

theorem trans (first : Affects sees s t) (second : Affects sees t u) : Affects sees s u where
  created := first.created.trans second.created
  node := fun self inside =>
    (first.node self inside).trans (second.node self (inside.trans_le first.created))

theorem modifyNode (self : NodeId) (change : DPSNode → DPSNode)
    (seen : DPSNode.Seen (sees self) (s.node self) (change (s.node self))) :
    Affects sees s (s.modifyNode self change) where
  created := le_rfl
  node := fun other _ => by
    by_cases equal : other = self
    · subst equal
      simpa [Cluster.modifyNode] using Relation.ReflTransGen.single seen
    · simpa [Cluster.modifyNode, equal] using Relation.ReflTransGen.refl

/-- A new node is none of the existing ones. -/
theorem allocate (fields : DPSNode) : Affects sees s (s.allocate fields).1 where
  created := Nat.le_succ s.nextNode
  node := fun other inside => by
    simpa [Cluster.allocate, inside.ne] using Relation.ReflTransGen.refl

theorem leaderElectionRun (s : Cluster) : Affects sees s s.leaderElectionRun.1 := by
  refine of_offices ?_
  unfold Cluster.leaderElectionRun
  split <;> rfl

theorem nodeAdd (ipType : InetType) (ipVal : IPValue) (port : Nat) (contacted hinted : ℚ) :
    Affects sees s (s.nodeAdd ipType ipVal port contacted hinted) := by
  unfold Cluster.nodeAdd
  split
  · exact of_offices rfl
  · exact (allocate _).trans (of_offices rfl)

theorem nodeAddDomain (self : NodeId) (domainId replicationFactor : Nat) :
    Affects sees s (s.nodeAddDomain self domainId replicationFactor).1 := by
  have added : Affects sees s
      (s.modifyNode self fun n => (n.domainAdd domainId replicationFactor).1) :=
    modifyNode self _ (.inl rfl)
  refine s.nodeAddDomain_rule self domainId replicationFactor (of_offices rfl) (fun _ _ => ?_)
    fun t affects => affects.trans (of_offices rfl)
  split
  · have forgiven (t : Cluster) : Affects sees t { t with
        nodesInDifferentPartitionHint := t.nodesInDifferentPartitionHint.erase self } :=
      of_offices rfl
    exact added.trans ((forgiven _).trans (leaderElectionRun _))
  · exact added

theorem nodeDelete (s : Cluster) (ipVal : IPValue) : Affects sees s (s.nodeDelete ipVal) := by
  rw [nodeDelete_eq]
  split
  · exact of_offices rfl
  · next self _ =>
    have withdrawn := congrArg Prod.snd (s.offices_nodeDeleteAllDomains self)
    have removed : Affects sees s (s.nodeRemove self ipVal) := of_offices withdrawn
    split
    · exact removed.trans (leaderElectionRun _)
    · exact removed

/-- Every path. -/
theorem of_path (path : Path sees s held t) : Affects sees s t := by
  induction path with
  | @note s t same =>
    simp only [core, Prod.mk.injEq] at same
    obtain ⟨-, -, -, -, -, node, nextNode⟩ := same
    exact of_offices (by simp only [offices, node, nextNode])
  | trans _ _ first second => exact first.trans second
  | elect s => exact leaderElectionRun s
  | appoint => exact of_offices rfl
  | write self fields maps seen => exact modifyNode self (fun _ => fields) seen
  | @redomain s ipVal self found fields ip watch =>
    exact modifyNode self (fun _ => fields) (.inl watch)
  | nodeDeleteDomain => exact of_offices (congrArg Prod.snd (offices_nodeDeleteDomain ..))
  | nodeDeleteAllDomains => exact of_offices (congrArg Prod.snd (offices_nodeDeleteAllDomains ..))
  | domainDelete => exact of_offices (congrArg Prod.snd (offices_domainDelete ..))
  | nodeAddDomain s ipVal domainId replicationFactor =>
    unfold nodeAddDomainRequest
    split
    · exact of_offices rfl
    · exact nodeAddDomain _ domainId replicationFactor
  | nodeAdd ipType port contacted hinted => exact nodeAdd ipType _ port contacted hinted
  | nodeDelete s ipVal => exact nodeDelete s ipVal

theorem delete (s : Cluster) : Affects sees s s.delete := by
  have cleared := congrArg Prod.snd (foldl_view offices (fun s self => offices_modifyNode s self
    (fun n => { n with domains := ∅ }) rfl) s.nodeHash.values s)
  exact of_offices cleared

theorem nodeUpdateLocal (ipType : InetType) (ipVal : IPValue) (port : Nat) (contacted hinted : ℚ) :
    Affects sees s (s.nodeUpdateLocal ipType ipVal port contacted hinted) := by
  unfold Cluster.nodeUpdateLocal
  cases s.localNode with
  | none => exact (allocate _).trans (of_offices rfl)
  | some self =>
    have moved : Affects sees s (s.modifyNode self fun n =>
        { n with flocal := true, location := .create ipType ipVal port }) :=
      modifyNode self _ (.inl rfl)
    exact moved.trans (of_offices rfl)

theorem nodeLocalActivate (factive : Bool) (allowed : ∀ self, sees self (.settle factive)) :
    Affects sees s (s.nodeLocalActivate factive) := by
  unfold Cluster.nodeLocalActivate
  split
  · exact of_offices rfl
  · next self _ =>
    have settled (t : Cluster) : Affects sees t (t.modifyNode self (·.sighted (.settle factive))) :=
      modifyNode self _ (.inr ⟨_, allowed self, rfl⟩)
    split
    · next active =>
      subst active
      exact Affects.trans (t := s.startThreads) (of_offices rfl) (settled _)
    · next inactive =>
      obtain rfl : factive = false := by simpa using inactive
      split
      · have untriggered (t : Cluster) : Affects sees t { t with leaderElectionTrigger := false } :=
          of_offices rfl
        exact (settled s).trans ((untriggered _).trans (delete _))
      · exact of_offices rfl

/-- What an event does to the nodes that exist before it. -/
theorem step (s : Cluster) (event : ClusterEvent) : Affects (s.sees event) s (s.step event) := by
  cases event with
  | nodeAdd ipType ipVal port contacted hinted => exact nodeAdd ipType ipVal port contacted hinted
  | nodeUpdateLocal ipType ipVal port contacted hinted =>
    exact nodeUpdateLocal ipType ipVal port contacted hinted
  | nodeLocalActivate factive => exact nodeLocalActivate factive fun _ => rfl
  | delete => exact delete s
  | _ =>
    refine of_path (.step s _ ?_)
    exact True.intro

/-- At one time a node stays as the timers rely on it. -/
theorem watched {self : NodeId} (affects : Affects sees s t) (created : self < s.nextNode)
    (read : ∀ seen, sees self seen → seen.ReadAt now)
    (told : ∀ seen, sees self seen → ∀ at', seen.Reports at' → reported at')
    (watched : (s.node self).Watched reported now) : (t.node self).Watched reported now :=
  DPSNode.seen_keeps (·.Watched reported now) (affects.node self created)
    (fun _ _ same watched => watched.of_watch same)
    (fun _ seen allowed watched => watched.sighted (read seen allowed) (told seen allowed))
    watched

end Affects

theorem tells_readAt {entry : IPValue × DPSNodeClusterState × ℚ} {self : NodeId}
    {seen : DPSNode.Sighting} (told : Path.tells s entry self seen) : seen.ReadAt entry.2.2 := by
  cases seen with
  | settle => exact True.intro
  | touch | report => exact told.2
  | leaderPass | nonLeaderPass => exact told.elim

/-- Only an event that reports the node lets it be seen as reported. -/
theorem hints_of_reports {event : ClusterEvent} {self : NodeId} {seen : DPSNode.Sighting}
    (told : s.sees event self seen) (reports : seen.Reports reading) :
    s.Hints self reading event := by
  cases seen with
  | report allow now =>
    obtain rfl := reports
    cases event with
    | nodeTouch => cases told.1.1
    | nodeHintDown => exact ⟨told.1.2, told.2⟩
    | nodesStatus => exact told
    | nodeInactivate | nodeHeartbeat | nodeLocalActivate => cases told
    | timeoutTimer | leaderTimer | nonLeaderTimer =>
      obtain ⟨_, never | never⟩ := told <;> cases never
    | _ => exact told.elim
  | settle | touch | leaderPass | nonLeaderPass => exact reports.elim

/-- Only a pass of the timers lets a node be seen as passed, at its own reading. -/
theorem pass_of_passes {event : ClusterEvent} {self : NodeId} {seen : DPSNode.Sighting}
    (told : s.sees event self seen) (passes : seen.Passes) : ∃ clock, event.Pass clock := by
  cases event with
  | timeoutTimer clock => exact ⟨clock, .inl rfl⟩
  | leaderTimer clock => exact ⟨clock, .inr (.inl rfl)⟩
  | nonLeaderTimer clock => exact ⟨clock, .inr (.inr rfl)⟩
  | nodeTouch | nodeHintDown => cases seen <;> first | exact passes.elim | exact told.elim
  | nodesStatus =>
    obtain ⟨entry, -, told⟩ := told
    cases seen <;> first | exact passes.elim | exact told.elim
  | nodeInactivate | nodeHeartbeat | nodeLocalActivate =>
    subst told
    exact passes.elim
  | _ => exact told.elim

theorem readAt_of_pass {event : ClusterEvent} {clock : NodeId → ℚ} (pass : event.Pass clock)
    {self : NodeId} {seen : DPSNode.Sighting} (told : s.sees event self seen) :
    seen.ReadAt (clock self) := by
  rcases pass with rfl | rfl | rfl <;> obtain ⟨_, rfl | rfl⟩ := told <;> rfl

/-- The list of the leader, whose entries are read in order. -/
theorem watched_nodeStatuses {self : NodeId}
    (dpsNodes : List (IPValue × DPSNodeClusterState × ℚ)) (s : Cluster)
    (created : self < s.nextNode)
    (chain : List.IsChain (· ≤ ·) (before :: dpsNodes.map (fun entry => entry.2.2) ++ [now]))
    (told : ∀ entry ∈ dpsNodes, entry.2.1 = .down → s.nodeHash.lookup entry.1 = some self →
      reported entry.2.2)
    (watched : (s.node self).Watched reported before) :
    ((dpsNodes.foldl nodeStatus s).node self).Watched reported now := by
  induction dpsNodes generalizing s before with
  | nil =>
    have order : before ≤ now := by simpa using chain
    exact watched.later order
  | cons entry dpsNodes ih =>
    simp only [List.map_cons, List.cons_append, List.isChain_cons_cons] at chain
    have affects := Affects.of_path (.nodeStatus s entry fun self seen told => told)
    refine ih (s.nodeStatus entry) (created.trans_le affects.created) chain.2 ?_ ?_
    · intro other inside
      rw [Path.nodeStatus_nodeHash]
      exact told other (List.mem_cons_of_mem entry inside)
    · refine affects.watched created (fun seen => tells_readAt) (fun seen heard at' reports => ?_)
        (watched.later chain.1)
      cases seen with
      | report =>
        rw [reports, heard.2]
        exact told entry List.mem_cons_self heard.1.1 heard.1.2
      | settle | touch | leaderPass | nonLeaderPass => exact reports.elim

theorem le_of_chain (readings : List ℚ)
    (chain : List.IsChain (· ≤ ·) (before :: readings ++ [now])) : before ≤ now := by
  induction readings generalizing before with
  | nil => simpa using chain
  | cons reading readings ih =>
    simp only [List.cons_append, List.isChain_cons_cons] at chain
    exact chain.1.trans (ih chain.2)

theorem watched_nodesStatus {self : NodeId} {leaderIp : IPValue} {configVersion : Nat}
    {dpsNodes : List (IPValue × DPSNodeClusterState × ℚ)}
    (chain : List.IsChain (· ≤ ·) (before :: dpsNodes.map (fun entry => entry.2.2) ++ [now]))
    (created : self < s.nextNode)
    (told : ∀ at', s.Hints self at' (.nodesStatus leaderIp configVersion dpsNodes) → reported at')
    (watched : (s.node self).Watched reported before) :
    ((s.nodesStatus leaderIp configVersion dpsNodes).node self).Watched reported now := by
  obtain ⟨t, path, table, same⟩ :=
    Path.nodesStatus_cases (fun _ _ => False) s leaderIp configVersion dpsNodes
  have affects := Affects.of_path path
  have reached := affects.watched created (fun _ => False.elim) (fun _ => False.elim) watched
  obtain same | same := same
  · rw [same]
    exact reached.later (le_of_chain _ chain)
  · rw [same]
    refine watched_nodeStatuses dpsNodes t (created.trans_le affects.created) chain ?_ reached
    intro entry inside down found
    exact told _ ⟨entry, inside, ⟨down, table ▸ found⟩, rfl⟩

/-- The times that an event other than `Nodes_Status` reads for a node are one time. -/
theorem reading_of_within {event : ClusterEvent} (timed : event.Within before now) (self : NodeId)
    (single : ∀ leaderIp configVersion dpsNodes,
      event ≠ .nodesStatus leaderIp configVersion dpsNodes) :
    ∃ reading, before ≤ reading ∧ reading ≤ now ∧
      ∀ seen, s.sees event self seen → seen.ReadAt reading := by
  cases event with
  | nodesStatus leaderIp configVersion dpsNodes => exact (single _ _ _ rfl).elim
  | nodeTouch ipVal reading | nodeHintDown ipVal reading =>
    exact ⟨reading, timed.1, timed.2, fun _ => tells_readAt⟩
  | timeoutTimer clock =>
    exact ⟨_, (timed.2 self).1, (timed.2 self).2, fun _ => readAt_of_pass (.inl rfl)⟩
  | leaderTimer clock =>
    exact ⟨_, (timed.2 self).1, (timed.2 self).2, fun _ => readAt_of_pass (.inr (.inl rfl))⟩
  | nonLeaderTimer clock =>
    exact ⟨_, (timed.2 self).1, (timed.2 self).2, fun _ => readAt_of_pass (.inr (.inr rfl))⟩
  | nodeInactivate | nodeHeartbeat | nodeLocalActivate =>
    refine ⟨now, timed, le_rfl, ?_⟩
    rintro seen rfl
    exact True.intro
  | nodeAdd | nodeAddRequest | nodeUpdateLocal | nodesUpdate =>
    exact ⟨now, timed.1.trans (timed.2.1.trans timed.2.2), le_rfl, nofun⟩
  | _ => exact ⟨now, timed, le_rfl, nofun⟩

/-! ## The runs -/

/-- An event that is on time keeps what the timers rely on, with the times of its own reports. -/
theorem watched_step {self : NodeId} {event : ClusterEvent} (timed : event.Within before now)
    (created : self < s.nextNode) (told : ∀ at', s.Hints self at' event → reported at')
    (watched : (s.node self).Watched reported before) :
    ((s.step event).node self).Watched reported now := by
  by_cases single : ∀ leaderIp configVersion dpsNodes,
    event ≠ .nodesStatus leaderIp configVersion dpsNodes
  · obtain ⟨reading, after, until', read⟩ := reading_of_within timed self single
    refine DPSNode.Watched.later ?_ until'
    exact (Affects.step s event).watched created read
      (fun seen heard at' reports => told at' (hints_of_reports heard reports))
      (watched.later after)
  · push Not at single
    obtain ⟨leaderIp, configVersion, dpsNodes, rfl⟩ := single
    exact watched_nodesStatus timed created told watched

/-- A run of events that are on time keeps what the timers rely on, with the times of the reports
in it. -/
theorem watched_run {self : NodeId} {start : ℚ} (created : self < s.nextNode)
    (watched : (s.node self).Watched reported start) {events : List (ClusterEvent × ℚ)}
    (timed : Admissible timedStep OnTime (s, start) events)
    (told : Admissible timedStep (fun state event => ∀ at', state.1.Hints self at' event.1 →
      reported at') (s, start) events) :
    self < (run timedStep (s, start) events).1.nextNode ∧
      ((run timedStep (s, start) events).1.node self).Watched reported
        (run timedStep (s, start) events).2 := by
  induction events generalizing s start with
  | nil => exact ⟨created, watched⟩
  | cons event events ih =>
    refine ih (created.trans_le (Affects.step s event.1).created) ?_ timed.2 told.2
    exact watched_step timed.1 created told.1 watched

/-- An event that takes a node down is a pass of the timers, and the node was hinted down for
longer than the second wait. -/
theorem goes_down {self : NodeId} {event : ClusterEvent}
    (created : self < s.nextNode) (up : (s.node self).state ≠ .down)
    (down : ((s.step event).node self).state = .down) :
    ∃ clock, event.Pass clock ∧ (s.node self).state = .hintDown ∧
      DPSNode.maxNoContact < clock self - (s.node self).hintDownSecs := by
  have reached := (Affects.step s event).node self created
  by_cases pass : ∃ clock, event.Pass clock
  · obtain ⟨clock, pass⟩ := pass
    have passed := DPSNode.seen_keeps (DPSNode.Passed (s.node self) · (clock self)) reached
      (fun _ _ same passed => passed.of_watch same)
      (fun _ seen told passed => passed.sighted (readAt_of_pass pass told))
      ⟨fun already => .inl already, fun hinted => .inl ⟨hinted, rfl⟩⟩
    exact ⟨clock, pass, (passed.down down).resolve_left up⟩
  · refine absurd down (DPSNode.seen_keeps (·.state ≠ .down) reached ?_ ?_ up)
    · intro node node' same up
      have state : node'.state = node.state := congrArg (·.2.2) same
      rw [state]
      exact up
    · intro node seen told up
      exact DPSNode.sighted_not_down (fun passes => pass (pass_of_passes told passes)) up

/-- A touch of a node that is not inactive makes it up. -/
theorem nodeTouch_up {self : NodeId} {ipVal : IPValue} (valid : s.valid)
    (found : s.nodeHash.lookup ipVal = some self) (active : (s.node self).state ≠ .inactive)
    (reading : ℚ) : ((s.nodeTouch ipVal reading).node self).state = .up ∧
      ((s.nodeTouch ipVal reading).node self).lastContactedSecs = reading := by
  have touched : ((s.node self).touch reading).1.state = .up ∧
      ((s.node self).touch reading).1.lastContactedSecs = reading := by
    unfold DPSNode.touch
    cases state : (s.node self).state with
    | inactive => exact absurd state active
    | up | hintDown | down => exact ⟨rfl, rfl⟩
  unfold nodeTouch
  rw [if_neg (not_not.mpr valid), found]
  dsimp only [modifyNode]
  split
  all_goals
    simp only [Function.update_self]
    exact touched

/-- A node that is up goes down only by a pass of the timers, and only if the maximum wait is over.
That wait begins after the last contact: at a report of the node as down, or when the hint threshold
is over. Until then a touch makes the node up again and is its last contact. -/
theorem remote_node_is_not_declared_down_early (s : Cluster) (self : NodeId) (start : ℚ)
    (created : self < s.nextNode) (up : (s.node self).isUp)
    (contact : (s.node self).lastContactedSecs ≤ start)
    (events : List (ClusterEvent × ℚ)) (event : ClusterEvent) (now : ℚ)
    (timed : Admissible timedStep OnTime (s, start) (events ++ [(event, now)])) :
    let t := (run timedStep (s, start) events).1
    (¬ (t.node self).isDown → ((t.step event).node self).isDown →
      ∃ clock hinted, event.Pass clock ∧
        DPSNode.maxNoContact < clock self - hinted ∧
        (t.node self).lastContactedSecs ≤ hinted ∧
        (Reported (s, start) events self hinted ∨
          DPSNode.hintNoContact < hinted - (t.node self).lastContactedSecs)) ∧
    ∀ ipVal reading, t.valid → t.nodeHash.lookup ipVal = some self →
      ¬ (t.node self).isInactive →
      ((t.nodeTouch ipVal reading).node self).isUp ∧
        ((t.nodeTouch ipVal reading).node self).lastContactedSecs = reading := by
  intro t
  constructor
  · intro notDown down
    have before : (t.node self).state ≠ .down := by simpa [DPSNode.isDown] using notDown
    have after : ((t.step event).node self).state = .down := by simpa [DPSNode.isDown] using down
    have state : (s.node self).state = .up := by simpa [DPSNode.isUp] using up
    have told : Admissible timedStep (fun state event => ∀ at', state.1.Hints self at' event.1 →
        Reported (s, start) events self at') (s, start) events :=
      .of_splits fun before report after split _ hints => ⟨before, report, after, split, hints⟩
    obtain ⟨exists', reached⟩ := watched_run created (.of_contact contact (by simp [state]))
      timed.of_append told
    obtain ⟨clock, pass, hinted, wait⟩ := goes_down exists' before after
    obtain ⟨sinceContact, -, begins⟩ := reached.hint hinted
    exact ⟨clock, (t.node self).hintDownSecs, pass, wait, sinceContact, begins⟩
  · intro ipVal reading valid found active
    have state : (t.node self).state ≠ .inactive := by simpa [DPSNode.isInactive] using active
    have touched := nodeTouch_up valid found state reading
    exact ⟨by simpa [DPSNode.isUp] using touched.1, touched.2⟩

/-- The local node and another one, which was contacted at time 0. -/
def pair : Cluster :=
  run step initial [.nodeUpdateLocal .inet (.v4 1) 902 0 0, .nodeLocalActivate true,
    .nodeAddRequest .inet (.v4 2) 902 0 0]

/-- A follower that hears at time 1 of a node that the leader reports as down may declare it down at
time 17. -/
theorem remote_node_is_not_declared_down_early_follower :
    ∃ clock hinted, ClusterEvent.Pass clock (.timeoutTimer fun _ => 17) ∧
      DPSNode.maxNoContact < clock 1 - hinted ∧
      (Reported (pair, 0) [(.nodeHintDown (.v4 2) 1, 1)] 1 hinted ∨
        DPSNode.hintNoContact < hinted - 0) := by
  have timed : Admissible timedStep OnTime (pair, 0)
      ([(.nodeHintDown (.v4 2) 1, 1)] ++ [(.timeoutTimer fun _ => 17, 17)]) := by
    have later : (1 : ℚ) ≤ 17 := by decide +kernel
    refine ⟨⟨?_, le_rfl⟩, ⟨later, fun _ => ⟨later, le_rfl⟩⟩, True.intro⟩
    decide +kernel
  obtain ⟨falls, -⟩ := remote_node_is_not_declared_down_early pair 1 0 (by decide +kernel)
    (by decide +kernel) (by decide +kernel) _ _ _ timed
  obtain ⟨clock, hinted, pass, wait, -, begins⟩ := falls (by decide +kernel) (by decide +kernel)
  exact ⟨clock, hinted, pass, wait, begins⟩

/-- The wait of that follower began at the report, and not when the hint threshold was over: 17
seconds after the last contact the threshold and then the maximum wait cannot both have passed. -/
theorem reported_node_goes_down_before_both_waits :
    let t := run timedStep (pair, 0) [(.nodeHintDown (.v4 2) 1, 1)]
    (pair.node 1).isUp ∧ (pair.node 1).lastContactedSecs = 0 ∧
      (t.1.node 1).lastContactedSecs = 0 ∧
      ((t.1.step (.timeoutTimer fun _ => 17)).node 1).isDown ∧
      (17 : ℚ) < DPSNode.hintNoContact + DPSNode.maxNoContact := by
  decide +kernel

end Cluster

end OpenDove
