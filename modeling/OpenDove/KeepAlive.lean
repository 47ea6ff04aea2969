import OpenDove.Runs

/-!
# Keep-alive of the gateway peers

A gateway keeps a small table of peers. For each it has a connection to write its own keep-alive
messages to, and the time of the last message that came from the peer. A timer runs over the
table: it writes to the connection or opens it again, and marks a peer inactive that has been
silent for longer than the timeout.

The times are the values of `clock()`, and what `send()` and `connect()` return is part of the
event. Notifications of the control task are always delivered. Those about one peer alternate
between up and down, whichever routine sends them.
-/

namespace OpenDove

/-- The `state` of a slot of the peer table: 0, 1 and 2. -/
inductive PeerState where
  | free
  | inactive
  | active
  deriving DecidableEq, Repr

/-- `dgwy_ha_peer_table_t`. -/
structure HaPeer where
  peerIpv4 : UInt32
  localIpv4 : UInt32
  state : PeerState
  fdWrite : Int
  last : Int

/-- The messages to the control task, with the address of the peer. -/
inductive PeerNotice where
  | up (peerIpv4 : UInt32)
  | down (peerIpv4 : UInt32)
  deriving DecidableEq, Repr

/-- What a pass finds at one slot: the number of bytes written, the descriptor of a new
connection, and the time. -/
structure KeepAliveOutcome where
  wrote : Int
  connected : Int
  clock : Int

namespace HaPeer

/-- `DGWY_HA_KEEP_ALIVE_TIMOUT`, in seconds. -/
def keepAliveTimeout : Int := 30

/-- `CLOCKS_PER_SEC`. -/
def clocksPerSec : Int := 1000000

/-- Keep the descriptor of a connection that was opened. -/
def reconnect (peer : HaPeer) (connected : Int) : HaPeer :=
  { peer with fdWrite := if connected > 0 then connected else 0 }

/-- Write the local message, whose first byte counts the addresses in it. A write that falls short
closes the connection and opens it again. -/
def write (peer : HaPeer) (localMsg : Int) (outcome : KeepAliveOutcome) : HaPeer :=
  let ret := localMsg * 6 + 1
  if ret > 0 ∧ outcome.wrote ≠ ret then peer.reconnect outcome.connected else peer

/-- `timsince`, the whole seconds of a time, which has 32 bits. -/
def timsince (elapsed : Int) : Int := (elapsed.tdiv clocksPerSec).bmod 4294967296

/-- The body of the loop of `keep_alive_peers`, with the messages it sends. -/
def keepAlive (localMsg : Int) (outcome : KeepAliveOutcome) (peer : HaPeer) :
    HaPeer × List PeerNotice :=
  if peer.peerIpv4 = 0 then (peer, [])
  else if peer.fdWrite > 0 then
    let peer := peer.write localMsg outcome
    if peer.state = .active ∧ timsince (outcome.clock - peer.last) > keepAliveTimeout then
      ({ peer with state := .inactive }, [.down peer.peerIpv4])
    else (peer, [])
  else (peer.reconnect outcome.connected, [])

/-- The body of the loop of `update_peer_clock`. -/
def updateClock (peerIpv4 : UInt32) (clock : Int) (peer : HaPeer) : HaPeer × List PeerNotice :=
  if peerIpv4 = peer.peerIpv4 then
    ({ peer with last := clock, state := .active },
      if peer.state = .inactive then [.up peer.peerIpv4] else [])
  else (peer, [])

/-- The last message of an active peer is older than the timeout. -/
def Overdue (peer : HaPeer) (clock : Int) : Prop :=
  peer.peerIpv4 ≠ 0 ∧ peer.state = .active ∧ clock - peer.last > keepAliveTimeout * clocksPerSec

instance (peer : HaPeer) (clock : Int) : Decidable (peer.Overdue clock) :=
  inferInstanceAs (Decidable (_ ∧ _ ∧ _))

/-- A write changes the connection only. -/
theorem write_eq (peer : HaPeer) (localMsg : Int) (outcome : KeepAliveOutcome) :
    ∃ fdWrite, peer.write localMsg outcome = { peer with fdWrite } := by
  by_cases short : localMsg * 6 + 1 > 0 ∧ outcome.wrote ≠ localMsg * 6 + 1
  · exact ⟨_, if_pos short⟩
  · exact ⟨peer.fdWrite, if_neg short⟩

/-- A silence lasts for a second more than the timeout, in what 32 bits keep of its seconds. -/
def SilentTooLong (elapsed : Int) : Prop :=
  (keepAliveTimeout + 1) * clocksPerSec ≤ elapsed % (4294967296 * clocksPerSec) ∧
    elapsed % (4294967296 * clocksPerSec) < 2147483648 * clocksPerSec

instance (elapsed : Int) : Decidable (SilentTooLong elapsed) := inferInstanceAs (Decidable (_ ∧ _))

/-- Whole seconds of silence exceed the timeout one second after the silence itself does. -/
theorem timeout_lt_timsince {elapsed : Int} (overdue : elapsed > keepAliveTimeout * clocksPerSec) :
    timsince elapsed > keepAliveTimeout ↔ SilentTooLong elapsed := by
  unfold SilentTooLong timsince keepAliveTimeout clocksPerSec at *
  rw [Int.tdiv_eq_ediv_of_nonneg (by omega), Int.bmod_def]
  omega

/-- A pass detects an overdue peer, and sends a message for it, exactly if there is a connection
to write to and the silence lasts for a second more than the timeout. -/
theorem keepAlive_of_overdue {peer : HaPeer} {outcome : KeepAliveOutcome} (localMsg : Int)
    (overdue : peer.Overdue outcome.clock) :
    if peer.fdWrite > 0 ∧ SilentTooLong (outcome.clock - peer.last) then
      (keepAlive localMsg outcome peer).1.state = .inactive ∧
        (keepAlive localMsg outcome peer).2 = [.down peer.peerIpv4]
    else (keepAlive localMsg outcome peer).1.state = .active := by
  obtain ⟨present, active, silent⟩ := overdue
  obtain ⟨fdWrite, written⟩ := peer.write_eq localMsg outcome
  simp only [← timeout_lt_timsince silent]
  unfold keepAlive
  rw [if_neg present, written]
  by_cases connected : peer.fdWrite > 0
  · by_cases late : timsince (outcome.clock - peer.last) > keepAliveTimeout
    · simp [active, late, connected]
    · simp [active, late, connected]
  · simp [connected, active, reconnect]

end HaPeer

/-- `MAX_PEERS`. -/
def maxPeers : Nat := 2

/-- The globals of the task: `ha_peers`, the first byte of `vlan_ha_local_msg`, and the messages
sent to the control task so far. -/
structure HaTask where
  peers : Fin maxPeers → HaPeer
  localMsg : Int
  notices : List PeerNotice

/-- What the task does: a message arrives from a peer, a peer is added, or the timer runs. The
timer reads the local addresses again while there are fewer than four. -/
inductive HaEvent where
  | peerMsg (peerIpv4 : UInt32) (clock : Fin maxPeers → Int)
  | addPeer (peerIpv4 localIpv4 : UInt32) (clock connected : Int)
  | keepAlive (macs : Int) (outcome : Fin maxPeers → KeepAliveOutcome)

namespace HaTask

/-- The globals before the task starts. -/
def initial : HaTask where
  peers := fun _ => { peerIpv4 := 0, localIpv4 := 0, state := .free, fdWrite := 0, last := 0 }
  localMsg := 0
  notices := []

variable (task : HaTask)

/-- Run over the slots of the table. -/
def eachPeer (visit : Fin maxPeers → HaPeer → HaPeer × List PeerNotice) : HaTask :=
  { task with
    peers := fun slot => (visit slot (task.peers slot)).1
    notices := task.notices ++
      (List.finRange maxPeers).flatMap fun slot => (visit slot (task.peers slot)).2 }

/-- `update_peers_table`. -/
def updatePeersTable (peerIpv4 localIpv4 : UInt32) (clock connected : Int) : HaTask :=
  if (List.finRange maxPeers).any fun slot => (task.peers slot).peerIpv4 = peerIpv4 then task
  else match (List.finRange maxPeers).find? fun slot => (task.peers slot).state = .free with
    | none => task
    | some slot =>
      let fdWrite := if connected > 0 then connected else (task.peers slot).fdWrite
      { task with
        peers := Function.update task.peers slot
          { peerIpv4, localIpv4, state := .inactive, fdWrite, last := clock } }

/-- One event. -/
def step : HaEvent → HaTask
  | .peerMsg peerIpv4 clock =>
    task.eachPeer fun slot => HaPeer.updateClock peerIpv4 (clock slot)
  | .addPeer peerIpv4 localIpv4 clock connected =>
    task.updatePeersTable peerIpv4 localIpv4 clock connected
  | .keepAlive macs outcome =>
    let task := if task.localMsg < 4 then { task with localMsg := macs } else task
    task.eachPeer fun slot => HaPeer.keepAlive task.localMsg (outcome slot)

/-- A pass marks every overdue peer inactive and sends a message for it. -/
def Honours : HaEvent → Prop
  | .keepAlive macs outcome => ∀ slot, (task.peers slot).Overdue (outcome slot).clock →
      let after := task.step (.keepAlive macs outcome)
      (after.peers slot).state = .inactive ∧
        .down (task.peers slot).peerIpv4 ∈ after.notices.drop task.notices.length
  | .peerMsg _ _ | .addPeer _ _ _ _ => True

/-- Every overdue peer has a connection, and has been silent for a second more than the
timeout. -/
def Meets : HaEvent → Prop
  | .keepAlive _ outcome => ∀ slot, (task.peers slot).Overdue (outcome slot).clock →
      (task.peers slot).fdWrite > 0 ∧
        HaPeer.SilentTooLong ((outcome slot).clock - (task.peers slot).last)
  | .peerMsg _ _ | .addPeer _ _ _ _ => True

instance (task : HaTask) (event : HaEvent) : Decidable (task.Honours event) :=
  match event with
  | .keepAlive _ _ => inferInstanceAs (Decidable (∀ _, _ → _ ∧ _))
  | .peerMsg _ _ | .addPeer _ _ _ _ => inferInstanceAs (Decidable True)

/-- A pass visits every slot and keeps the messages sent before it. -/
theorem step_keepAlive (macs : Int) (outcome : Fin maxPeers → KeepAliveOutcome) :
    ∃ localMsg, task.step (.keepAlive macs outcome) =
      { task.eachPeer (fun slot => HaPeer.keepAlive localMsg (outcome slot)) with localMsg } := by
  by_cases few : task.localMsg < 4
  · exact ⟨macs, by simp only [step, if_pos few]; rfl⟩
  · exact ⟨task.localMsg, by simp only [step, if_neg few]; rfl⟩

theorem honours_iff_meets (event : HaEvent) : task.Honours event ↔ task.Meets event := by
  cases event with
  | peerMsg => exact Iff.rfl
  | addPeer => exact Iff.rfl
  | keepAlive macs outcome =>
    obtain ⟨localMsg, passed⟩ := task.step_keepAlive macs outcome
    refine forall_congr' fun slot => forall_congr' fun overdue => ?_
    have detection := HaPeer.keepAlive_of_overdue localMsg overdue
    simp only [passed, eachPeer, List.drop_left]
    by_cases met : (task.peers slot).fdWrite > 0 ∧
        HaPeer.SilentTooLong ((outcome slot).clock - (task.peers slot).last)
    · rw [if_pos met] at detection
      refine iff_of_true ⟨detection.1, List.mem_flatMap.mpr ⟨slot, List.mem_finRange slot, ?_⟩⟩ met
      rw [detection.2]
      exact List.mem_singleton_self _
    · rw [if_neg met] at detection
      refine iff_of_false (fun detected => ?_) met
      cases detection.symm.trans detected.1

/-- A run detects every silent peer in every pass exactly if, at every pass, each overdue peer has
a connection to write to and has been silent for a second more than the timeout. -/
theorem silent_peers_are_detected (start : HaTask) (events : List HaEvent) :
    Admissible step Honours start events ↔ Admissible step Meets start events :=
  admissible_iff (fun _ => True) (fun _ _ _ _ => True.intro)
    (fun task event _ => task.honours_iff_meets event) True.intro

/-- The peer falls silent while its connection is down: the pass that finds it overdue only opens
the connection again. -/
theorem unconnected_peer_is_not_detected :
    ¬Admissible step Honours initial
      [.addPeer 7 1 0 5, .peerMsg 7 fun _ => 1000000,
        .keepAlive 4 fun _ => { wrote := -1, connected := -1, clock := 2000000 },
        .keepAlive 4 fun _ => { wrote := 25, connected := 6, clock := 100000000 }] := by
  decide

end HaTask

/-- The peer that a message is about. -/
def PeerNotice.peerIpv4 : PeerNotice → UInt32
  | .up peerIpv4 | .down peerIpv4 => peerIpv4

/-- The messages about a peer alternate, beginning with an up, and leave the peer in a state. -/
inductive Alternates (peerIpv4 : UInt32) : List PeerNotice → PeerState → Prop where
  | start : Alternates peerIpv4 [] .inactive
  | up {sent : List PeerNotice} (before : Alternates peerIpv4 sent .inactive) :
    Alternates peerIpv4 (sent ++ [.up peerIpv4]) .active
  | down {sent : List PeerNotice} (before : Alternates peerIpv4 sent .active) :
    Alternates peerIpv4 (sent ++ [.down peerIpv4]) .inactive

theorem Alternates.ne_free {peerIpv4 : UInt32} {sent : List PeerNotice} {state : PeerState}
    (alternates : Alternates peerIpv4 sent state) : state ≠ .free := by
  cases alternates <;> exact PeerState.noConfusion

namespace HaPeer

/-- A slot is free without an address, or it has one that was added, and the messages about it
alternate. -/
def Seated (added : UInt32 → Prop) (sentFor : UInt32 → List PeerNotice) (peer : HaPeer) : Prop :=
  peer.peerIpv4 = 0 ∧ peer.state = .free ∨ peer.peerIpv4 ≠ 0 ∧ added peer.peerIpv4 ∧
    Alternates peer.peerIpv4 (sentFor peer.peerIpv4) peer.state

/-- What a visit of a slot does: it keeps the address, and it keeps the state and sends nothing, or
marks the peer and says so. -/
inductive Visits (peer : HaPeer) : HaPeer × List PeerNotice → Prop where
  | keeps {after : HaPeer} (address : after.peerIpv4 = peer.peerIpv4)
    (state : after.state = peer.state) : Visits peer (after, [])
  | marksUp {after : HaPeer} (address : after.peerIpv4 = peer.peerIpv4)
    (before : peer.state = .inactive) (state : after.state = .active) :
    Visits peer (after, [.up peer.peerIpv4])
  | marksDown {after : HaPeer} (address : after.peerIpv4 = peer.peerIpv4)
    (before : peer.state = .active) (state : after.state = .inactive) :
    Visits peer (after, [.down peer.peerIpv4])

variable {added : UInt32 → Prop} {sentFor : UInt32 → List PeerNotice} {peer : HaPeer}

theorem visits_keepAlive (peer : HaPeer) (localMsg : Int) (outcome : KeepAliveOutcome) :
    peer.Visits (peer.keepAlive localMsg outcome) := by
  obtain ⟨fdWrite, written⟩ := peer.write_eq localMsg outcome
  unfold keepAlive
  rw [written]
  split
  · exact .keeps rfl rfl
  · split
    · dsimp only
      split
      · next late => exact .marksDown rfl late.1 rfl
      · exact .keeps rfl rfl
    · exact .keeps rfl rfl

theorem Seated.visits_updateClock (seated : peer.Seated added sentFor) {peerIpv4 : UInt32}
    (clock : Int) (present : peerIpv4 ≠ 0) : peer.Visits (peer.updateClock peerIpv4 clock) := by
  unfold updateClock
  split
  · next named =>
    subst named
    cases state : peer.state with
    | free =>
      rcases seated with ⟨zero, -⟩ | ⟨-, -, alternates⟩
      · exact (present zero).elim
      · exact (alternates.ne_free state).elim
    | active => exact .keeps rfl state.symm
    | inactive => exact .marksUp rfl state rfl
  · exact .keeps rfl rfl

/-- After a visit the address is the same, messages are about that peer, and they alternate. -/
theorem Visits.seated {outcome : HaPeer × List PeerNotice} (visits : peer.Visits outcome)
    (seated : peer.Seated added sentFor) :
    outcome.1.peerIpv4 = peer.peerIpv4 ∧
      (∀ notice ∈ outcome.2, notice.peerIpv4 = peer.peerIpv4 ∧ peer.peerIpv4 ≠ 0) ∧
      outcome.1.Seated added fun peerIpv4 => sentFor peerIpv4 ++ outcome.2 := by
  have present : peer.state ≠ .free → peer.peerIpv4 ≠ 0 ∧ added peer.peerIpv4 ∧
      Alternates peer.peerIpv4 (sentFor peer.peerIpv4) peer.state :=
    fun used => seated.resolve_left fun free => used free.2
  unfold Seated
  cases visits with
  | keeps address state =>
    refine ⟨address, by simp, ?_⟩
    simp only [address, state, List.append_nil]
    exact seated
  | marksUp address before state =>
    obtain ⟨nonzero, known, alternates⟩ := present (by simp [before])
    refine ⟨address, by simp [PeerNotice.peerIpv4, nonzero], .inr ?_⟩
    simp only [address, state]
    exact ⟨nonzero, known, (before ▸ alternates).up⟩
  | marksDown address before state =>
    obtain ⟨nonzero, known, alternates⟩ := present (by simp [before])
    refine ⟨address, by simp [PeerNotice.peerIpv4, nonzero], .inr ?_⟩
    simp only [address, state]
    exact ⟨nonzero, known, (before ▸ alternates).down⟩

end HaPeer

namespace HaTask

/-- The messages about one peer. -/
def sentFor (task : HaTask) (peerIpv4 : UInt32) : List PeerNotice :=
  task.notices.filter fun notice => notice.peerIpv4 = peerIpv4

/-- No two slots have the same address, and there are messages about peers of the table only. -/
structure Ordered (added : UInt32 → Prop) (task : HaTask) : Prop where
  seated : ∀ slot, (task.peers slot).Seated added task.sentFor
  unique : ∀ slot other, (task.peers slot).peerIpv4 = (task.peers other).peerIpv4 →
    (task.peers slot).peerIpv4 ≠ 0 → slot = other
  known : ∀ notice ∈ task.notices,
    notice.peerIpv4 ≠ 0 ∧ ∃ slot, (task.peers slot).peerIpv4 = notice.peerIpv4

variable {added : UInt32 → Prop} {task : HaTask}

theorem Ordered.eachPeer {visit : Fin maxPeers → HaPeer → HaPeer × List PeerNotice}
    (ordered : Ordered added task)
    (visits : ∀ slot, (task.peers slot).Visits (visit slot (task.peers slot))) :
    Ordered added (task.eachPeer visit) := by
  have visited := fun slot => (visits slot).seated (ordered.seated slot)
  have same : ∀ slot, ((task.eachPeer visit).peers slot).peerIpv4 = (task.peers slot).peerIpv4 :=
    fun slot => (visited slot).1
  refine ⟨fun slot => ?_, fun slot other => ?_, fun notice listed => ?_⟩
  · -- Of the messages of the pass, those about the peer of the slot are those of its visit.
    refine (visited slot).2.2.imp_right fun ⟨present, known, alternates⟩ => ⟨present, known, ?_⟩
    have others : ∀ other, (visit other (task.peers other)).2.filter
        (fun notice => notice.peerIpv4 = (visit slot (task.peers slot)).1.peerIpv4) =
        if other = slot then (visit slot (task.peers slot)).2 else [] := by
      intro other
      have own := (visited other).2.1
      split
      · next here =>
        subst here
        exact List.filter_eq_self.mpr fun notice sent =>
          decide_eq_true ((own notice sent).1.trans (same other).symm)
      · next different =>
        refine List.filter_eq_nil_iff.mpr fun notice sent about => different ?_
        have about := (own notice sent).1.symm.trans (of_decide_eq_true about)
        exact ordered.unique other slot (about.trans (same slot)) (own notice sent).2
    have whole : (task.eachPeer visit).sentFor (visit slot (task.peers slot)).1.peerIpv4 =
        task.sentFor (visit slot (task.peers slot)).1.peerIpv4 ++
          (visit slot (task.peers slot)).2 := by
      simp only [sentFor, HaTask.eachPeer, List.filter_append, List.filter_flatMap, others]
      refine congrArg _ ?_
      match slot with
      | ⟨0, _⟩ | ⟨1, _⟩ => exact List.append_nil _
    exact whole ▸ alternates
  · rw [same, same]
    exact ordered.unique slot other
  · simp only [same]
    rcases List.mem_append.mp listed with earlier | now
    · exact ordered.known notice earlier
    · obtain ⟨slot, -, sent⟩ := List.mem_flatMap.mp now
      obtain ⟨about, nonzero⟩ := (visited slot).2.1 notice sent
      exact ⟨about ▸ nonzero, slot, about.symm⟩

/-- A peer is added only if it has no slot, and so without messages about it, in a slot that has no
address. -/
theorem Ordered.updatePeersTable (ordered : Ordered added task) {peerIpv4 : UInt32}
    (adds : added peerIpv4) (localIpv4 : UInt32) (clock connected : Int) :
    Ordered added (task.updatePeersTable peerIpv4 localIpv4 clock connected) := by
  unfold HaTask.updatePeersTable
  split
  · exact ordered
  · next absent =>
    have new : ∀ slot, (task.peers slot).peerIpv4 ≠ peerIpv4 := by simpa using absent
    split
    · exact ordered
    · next slot found =>
      have unused : (task.peers slot).peerIpv4 = 0 :=
        (ordered.seated slot).elim And.left fun ⟨_, _, alternates⟩ =>
          (alternates.ne_free (by simpa using List.find?_some found)).elim
      have silent : task.sentFor peerIpv4 = [] :=
        List.filter_eq_nil_iff.mpr fun notice listed => by
          obtain ⟨-, seat, named⟩ := ordered.known notice listed
          simpa [← named] using new seat
      have present : peerIpv4 ≠ 0 := fun zero => new slot (unused.trans zero.symm)
      refine ⟨fun seat => ?_, fun seat other same => ?_, fun notice listed => ?_⟩
      · by_cases here : seat = slot
        · simp only [here, Function.update_self]
          exact .inr ⟨present, adds, (silent ▸ .start : Alternates _ (task.sentFor peerIpv4) _)⟩
        · simp only [Function.update_of_ne here]
          exact ordered.seated seat
      · by_cases here : seat = slot <;> by_cases there : other = slot
        · exact fun _ => here.trans there.symm
        · simp only [here, Function.update_self, Function.update_of_ne there] at same
          exact (new other same.symm).elim
        · simp only [there, Function.update_self, Function.update_of_ne here] at same
          exact (new seat same).elim
        · simp only [Function.update_of_ne here, Function.update_of_ne there] at same ⊢
          exact ordered.unique seat other same
      · obtain ⟨nonzero, seat, named⟩ := ordered.known notice listed
        have other : seat ≠ slot := fun same => nonzero (named.symm.trans (same ▸ unused))
        exact ⟨nonzero, seat, by simpa only [Function.update_of_ne other] using named⟩

/-- A message comes from an address that is not zero. -/
def FromPeer : HaEvent → Prop
  | .peerMsg peerIpv4 _ => peerIpv4 ≠ 0
  | .addPeer .. | .keepAlive .. => True

theorem Ordered.step (ordered : Ordered added task) {event : HaEvent} (fromPeer : FromPeer event)
    (adds : ∀ peerIpv4 localIpv4 clock connected,
      event = .addPeer peerIpv4 localIpv4 clock connected → added peerIpv4) :
    Ordered added (task.step event) := by
  cases event with
  | peerMsg peerIpv4 clock =>
    exact ordered.eachPeer fun slot => (ordered.seated slot).visits_updateClock (clock slot) fromPeer
  | addPeer peerIpv4 localIpv4 clock connected =>
    exact ordered.updatePeersTable (adds _ _ _ _ rfl) localIpv4 clock connected
  | keepAlive macs outcome =>
    obtain ⟨localMsg, passed⟩ := task.step_keepAlive macs outcome
    have kept := ordered.eachPeer fun slot =>
      (task.peers slot).visits_keepAlive localMsg (outcome slot)
    rw [passed]
    exact ⟨kept.seated, kept.unique, kept.known⟩

/-- In every run with messages from addresses that are not zero, the messages about each peer
alternate, they are about peers that were added, and no address is twice in the table. -/
theorem notices_alternate (events : List HaEvent) (fromPeers : ∀ event ∈ events, FromPeer event) :
    let task := run HaTask.step initial events
    (∀ peerIpv4, ∃ state, Alternates peerIpv4 (task.sentFor peerIpv4) state) ∧
    (∀ notice ∈ task.notices, ∃ localIpv4 clock connected,
      .addPeer notice.peerIpv4 localIpv4 clock connected ∈ events) ∧
    ∀ slot other, (task.peers slot).peerIpv4 = (task.peers other).peerIpv4 →
      (task.peers slot).peerIpv4 ≠ 0 → slot = other := by
  intro task
  have ordered : Ordered (fun peerIpv4 => ∃ localIpv4 clock connected,
      .addPeer peerIpv4 localIpv4 clock connected ∈ events) task :=
    List.foldlRecOn events HaTask.step
      ⟨fun _ => .inl ⟨rfl, rfl⟩, fun _ _ _ present => (present rfl).elim, by simp [initial]⟩
      fun task ordered event listed => ordered.step (fromPeers event listed)
        fun _ localIpv4 clock connected named => ⟨localIpv4, clock, connected, named ▸ listed⟩
  have seated : ∀ notice ∈ task.notices, ∃ slot, (task.peers slot).peerIpv4 = notice.peerIpv4 ∧
      (task.peers slot).peerIpv4 ≠ 0 := fun notice sent =>
    have ⟨nonzero, slot, same⟩ := ordered.known notice sent
    ⟨slot, same, same ▸ nonzero⟩
  have used : ∀ slot, (task.peers slot).peerIpv4 ≠ 0 → _ := fun slot present =>
    (ordered.seated slot).resolve_left fun free => present free.1
  refine ⟨fun peerIpv4 => ?_, fun notice sent => ?_, ordered.unique⟩
  · cases about : task.sentFor peerIpv4 with
    | nil => exact ⟨_, .start⟩
    | cons notice rest =>
      have listed : notice ∈ task.sentFor peerIpv4 := about ▸ List.mem_cons_self
      obtain ⟨sent, named⟩ := List.mem_filter.mp listed
      obtain ⟨slot, same, present⟩ := seated notice sent
      obtain rfl := same.trans (of_decide_eq_true named)
      exact ⟨_, about ▸ (used slot present).2.2⟩
  · obtain ⟨slot, same, present⟩ := seated notice sent
    exact same ▸ (used slot present).2.1

/-- A peer that was added sends a message, is silent for too long and comes back. -/
theorem silent_peer_alternates :
    let events : List HaEvent := [.addPeer 7 1 0 5, .peerMsg 7 fun _ => 0, .keepAlive 4 fun _ =>
      { wrote := 25, connected := 6, clock := 100000000 }, .peerMsg 7 fun _ => 0]
    (run HaTask.step initial events).sentFor 7 = [.up 7, .down 7, .up 7] ∧
      ∃ state, Alternates 7 ((run HaTask.step initial events).sentFor 7) state :=
  ⟨by decide, (notices_alternate _ (by simp [FromPeer])).1 7⟩

end HaTask

end OpenDove
