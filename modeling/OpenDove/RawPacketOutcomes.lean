import OpenDove.RawPacketSteps

/-!
# A started retransmission has one outcome

Since every step carries the packets on, whatever is seen of a started packet is a number of sends,
at most one outcome, and stops that find nothing. A packet that waits is reached by the first pass
that begins after its interval is over, and can be sent only so many times, so it has its outcome as
passes go on.
-/

namespace OpenDove

variable {packet : RawPacket} {trace : List RawEffect} {event : RawEvent} {count : Nat}
  {timer : RawTimer} {lists : Int → List Nat} {todo : List Nat} {record : RawNode}

namespace RawTimer

/-- The table is well formed, and every id takes its course. -/
structure Sound (timer : RawTimer) (lists : Int → List Nat) (todo : List Nat) : Prop where
  shape : timer.Shape lists todo
  course : ∀ pktId, Course (timer.Holds lists) (timer.trace pktId) pktId

theorem Sound.initial (rptCallbacks : Nat → Bool) :
    (initial rptCallbacks).Sound (fun _ => []) [] where
  shape := ⟨fun _ => rfl, fun _ => List.nodup_nil, by simp, by simp, rfl⟩
  course := fun _ => .fresh 0 (fun _ ⟨_, _, listed, _⟩ => absurd listed List.not_mem_nil) rfl

/-- Every step that meets the condition carries the packets on. -/
theorem Sound.carries (sound : timer.Sound lists todo) (meets : timer.Meets event) :
    timer.Carries lists todo event (timer.step event) := by
  have shape := sound.shape
  cases event with
  | start packet address now =>
    obtain ⟨⟨available, -, fresh, unused⟩, positive, registered⟩ := meets
    rw [step, if_pos available]
    cases address with
    | none => exact shape.carries_self
    | some address =>
      by_cases valid : IsValidRptOwner packet.owner
      · simp only [rawProtoTimerStart, if_pos valid]
        obtain ⟨early, absent, -⟩ :=
          (sound.course packet.pktId).of_fresh fun other started => fresh _ started
        obtain ⟨next, table, inserts, chain⟩ :=
          shape.insertRawPkt_eq packet now (unused address rfl)
        rw [inserts]
        exact shape.carries_started available (unused address rfl) positive ⟨valid, registered⟩
          fresh absent chain
      · simp only [rawProtoTimerStart, if_neg valid]
        exact shape.carries_self
  | stop pktId => exact shape.carries_stop meets
  | pass =>
    have isIdle : timer.phase = .idle := meets.1
    rw [step, if_pos isIdle]
    refine shape.moves [] rfl shape.allocated fun record _ _ ahead => ?_
    rw [Ahead, isIdle] at ahead
    exact ahead.elim
  | advance now => exact shape.carries_advance now

theorem Sound.step (sound : timer.Sound lists todo) (meets : timer.Meets event) :
    ∃ lists' todo' effects, (timer.step event).Sound lists' todo' ∧
      (timer.step event).log = timer.log ++ effects ∧
      Change (timer.Holds lists) ((timer.step event).Holds lists') timer.log effects ∧
      ∀ record, (timer.step event).Holds lists' record → Due event record →
        timer.Ahead todo record → (timer.step event).Ahead todo' record := by
  obtain ⟨lists', todo', effects, shape, logged, change, keeps⟩ := sound.carries meets
  refine ⟨lists', todo', effects, ⟨shape, fun pktId => ?_⟩, logged, change, keeps⟩
  rw [RawTimer.trace, logged]
  exact change.course sound.shape.unique (sound.course pktId)

/-- The table of every state that is reached is well formed. -/
def Reached (timer : RawTimer) : Prop :=
  ∃ lists todo, timer.Sound lists todo

theorem Reached.step (reached : timer.Reached) (meets : timer.Meets event) :
    (timer.step event).Reached := by
  obtain ⟨lists, todo, sound⟩ := reached
  obtain ⟨lists', todo', effects, sound', -⟩ := sound.step meets
  exact ⟨lists', todo', sound'⟩

theorem started_mem_trace :
    .started packet ∈ timer.trace packet.pktId ↔ .started packet ∈ timer.log := by
  rw [RawTimer.trace, List.mem_filter, decide_eq_true_eq]
  exact and_iff_left rfl

/-- The packet of a record was started. -/
theorem Sound.started (sound : timer.Sound lists todo) (held : timer.Holds lists record) :
    .started record.packet ∈ timer.log := by
  obtain ⟨early, sends, -, -, traced⟩ := (sound.course _).of_held sound.shape.unique held
  rw [← started_mem_trace, traced]
  exact List.mem_append_right _ List.mem_cons_self

/-- A started packet waits in a record or has ended. -/
theorem Sound.waits_or_ended (sound : timer.Sound lists todo) (started : .started packet ∈ timer.log) :
    (∃ (sends : Nat) (last : Int), timer.Holds lists ⟨packet, last, sends + 1⟩ ∧
      (sends : Int) ≤ max packet.maxNumRetransmit 0 ∧ Retransmits packet (timer.trace packet.pktId)) ∨
      Ended packet (timer.trace packet.pktId) := by
  have inTrace := started_mem_trace.mpr started
  have only : ∀ {other : RawPacket} {early sends : Nat}, .started packet ∈
      List.replicate early (missed other.pktId) ++
        .started other :: List.replicate sends (.sent other) → packet = other := by
    intro other early sends listed
    rcases List.mem_append.mp listed with isMissed | listed
    · cases List.eq_of_mem_replicate isMissed
    · rcases List.mem_cons.mp listed with isStarted | isSent
      · exact RawEffect.started.inj isStarted
      · cases List.eq_of_mem_replicate isSent
  cases sound.course packet.pktId with
  | fresh early absent traced =>
    rw [traced] at inTrace
    cases List.eq_of_mem_replicate inTrace
  | pending other early sends last isPacket held bounded traced =>
    rw [traced] at inTrace
    obtain rfl := only inTrace
    exact .inl ⟨sends, last, held, bounded, early, sends, bounded, traced⟩
  | ended other isPacket absent ended =>
    obtain ⟨before, ⟨early, sends, bounded, rfl⟩, outcome, isOutcome, late, traced⟩ := ended
    have isOther : packet = other := by
      rw [traced] at inTrace
      rcases List.mem_append.mp inTrace with inBefore | later
      · exact only inBefore
      · rcases List.mem_cons.mp later with isOutcome' | isMissed
        · rw [← isOutcome'] at isOutcome
          rcases List.mem_pair.mp isOutcome with isStop | isExceeded
          · cases isStop
          · cases isExceeded
        · cases List.eq_of_mem_replicate isMissed
    subst isOther
    exact .inr ⟨_, ⟨early, sends, bounded, rfl⟩, outcome, isOutcome, late, traced⟩

section Liveness

/-- The retransmission thread begins ever new passes. -/
def PassesGoOn (events : Nat → RawEvent) : Prop :=
  ∀ count, ∃ later, count ≤ later ∧ events later = .pass

/-- The clock that the passes read exceeds every time. -/
def TimePasses (events : Nat → RawEvent) : Prop :=
  ∀ time : Int, ∃ count, ∀ later, count ≤ later → ∀ now, events later = .advance now → time ≤ now

/-- A packet waits in a record of a well formed table, to which the pass may be said to come. -/
def Waits (close : Prop) (packet : RawPacket) (sends : Nat) (last : Int) (timer : RawTimer) : Prop :=
  ∃ lists todo, timer.Sound lists todo ∧ timer.Holds lists ⟨packet, last, sends + 1⟩ ∧
    (close → timer.Ahead todo ⟨packet, last, sends + 1⟩)

/-- A packet was sent once more, or had its outcome. -/
def Progresses (packet : RawPacket) (sends : Nat) (timer : RawTimer) : Prop :=
  (∃ now, Waits False packet (sends + 1) now timer) ∨ Ended packet (timer.trace packet.pktId)

variable {close : Prop} {sends : Nat} {last : Int}

/-- A packet goes on to wait, and the pass comes closer to it if it is due. -/
theorem Waits.step (waits : Waits close packet sends last timer) (meets : timer.Meets event)
    (due : close → Due event ⟨packet, last, sends + 1⟩) :
    Waits close packet sends last (timer.step event) ∨
      Progresses packet sends (timer.step event) := by
  obtain ⟨lists, todo, sound, held, ahead⟩ := waits
  obtain ⟨lists', todo', effects, sound', logged, change, keeps⟩ := sound.step meets
  have started := sound.started held
  have started' : .started packet ∈ (timer.step event).log := by
    rw [logged]
    exact List.mem_append_left _ started
  rcases sound'.waits_or_ended started' with ⟨sends', last', held', -⟩ | ended
  · rcases change.later sound.shape.unique held held' started rfl with same | ⟨now, same⟩
    · rw [same] at held'
      exact .inl ⟨lists', todo', sound', held', fun isClose =>
        keeps _ held' (due isClose) (ahead isClose)⟩
    · rw [same] at held'
      exact .inr (.inl ⟨now, lists', todo', sound', held', False.elim⟩)
  · exact .inr (.inr ended)

/-- A new pass will come to every record. -/
theorem Waits.pass (waits : Waits close packet sends last (timer.step .pass))
    (isIdle : timer.phase = .idle) : Waits True packet sends last (timer.step .pass) := by
  obtain ⟨lists, todo, sound, held, -⟩ := waits
  refine ⟨lists, todo, sound, held, fun _ => ?_⟩
  obtain ⟨node, listed, -⟩ := sound.shape.home held
  rw [RawTimer.step, if_pos isIdle]
  exact (sound.shape.hash_bounds listed).1

theorem Waits.not_idle (waits : Waits True packet sends last timer) : timer.phase ≠ .idle := by
  obtain ⟨lists, todo, -, -, ahead⟩ := waits
  intro isIdle
  have ahead := ahead True.intro
  rw [Ahead, isIdle] at ahead
  exact ahead

section EndlessRun

variable {start : RawTimer} {events : Nat → RawEvent}

variable (meets : ∀ count, (stateAt step start events count).Meets (events count))

include meets

/-- Between two passes after a packet is due, it is sent or ends. -/
theorem waits_progresses
    (passes : PassesGoOn events) (time : TimePasses events)
    (waits : Waits False packet sends last (stateAt step start events count)) :
    ∃ later, count ≤ later ∧ Progresses packet sends (stateAt step start events later) := by
  obtain ⟨dueFrom, due⟩ := time (calculateRetryInterval (sends + 1) + last)
  obtain ⟨pass, afterStart, isPass⟩ := passes (max count dueFrom)
  obtain ⟨next, afterPass, isNext⟩ := passes (pass + 1)
  have idleAtPass := meets pass
  have idleAtNext := meets next
  rw [isPass] at idleAtPass
  rw [isNext] at idleAtNext
  have kept : ∀ index, count ≤ index →
      Waits False packet sends last (stateAt step start events index) →
      Waits False packet sends last (stateAt step start events (index + 1)) ∨
        Progresses packet sends (stateAt step start events (index + 1)) :=
    fun index _ waits => waits.step (meets index) False.elim
  rcases stateAt_unless waits kept (by omega : count ≤ pass + 1) with waits | progressed
  · have isStep : stateAt step start events (pass + 1) =
        (stateAt step start events pass).step .pass := by
      rw [stateAt, isPass]
    rw [isStep] at waits
    have waitsAhead := waits.pass idleAtPass.1
    rw [← isStep] at waitsAhead
    have keptAhead : ∀ index, pass + 1 ≤ index →
        Waits True packet sends last (stateAt step start events index) →
        Waits True packet sends last (stateAt step start events (index + 1)) ∨
          Progresses packet sends (stateAt step start events (index + 1)) := by
      intro index later waits
      refine waits.step (meets index) fun _ now isAdvance => ?_
      have late := due index (by omega) now isAdvance
      dsimp only
      omega
    rcases stateAt_unless waitsAhead keptAhead afterPass with waits | ⟨later, after, progressed⟩
    · exact absurd idleAtNext.1 waits.not_idle
    · exact ⟨later, by omega, progressed⟩
  · exact progressed

/-- A packet that waits ends: it can be sent only so many times. -/
theorem waits_ends
    (passes : PassesGoOn events) (time : TimePasses events)
    (waits : Waits False packet sends last (stateAt step start events count)) :
    ∃ later, count ≤ later ∧
      Ended packet ((stateAt step start events later).trace packet.pktId) := by
  -- The sends that are left decrease.
  induction left : (max packet.maxNumRetransmit 0 - sends).toNat generalizing sends last count with
  | zero =>
    obtain ⟨later, after, ⟨now, again⟩ | ended⟩ := waits_progresses meets passes time waits
    · obtain ⟨lists, todo, sound, held, -⟩ := again
      obtain ⟨_, sends', count', bounded, -⟩ := (sound.course _).of_held sound.shape.unique held
      dsimp only at count' bounded
      omega
    · exact ⟨later, after, ended⟩
  | succ left fewer =>
    obtain ⟨later, after, ⟨now, again⟩ | ended⟩ := waits_progresses meets passes time waits
    · obtain ⟨last, further, ended⟩ := fewer again (by omega)
      exact ⟨last, Nat.le_trans after further, ended⟩
    · exact ⟨later, after, ended⟩

end EndlessRun

end Liveness

/-- In every run in which ids are positive, owners have registered a callback and no stop during a
callback is for a packet whose node the pass still holds, a started packet is sent again at most
as often as it allows and has at most one outcome, after which it is not sent and stops find
nothing. As passes go on and time passes, it has its outcome. -/
theorem started_packet_has_one_outcome (rptCallbacks : Nat → Bool) :
    (∀ events : List RawEvent, Admissible step Meets (initial rptCallbacks) events →
      let timer := run step (initial rptCallbacks) events
      ∀ packet, .started packet ∈ timer.log →
        Retransmits packet (timer.trace packet.pktId) ∨
          Ended packet (timer.trace packet.pktId)) ∧
    ∀ events : Nat → RawEvent,
      (∀ count, (stateAt step (initial rptCallbacks) events count).Meets (events count)) →
      PassesGoOn events → TimePasses events → ∀ packet count,
      .started packet ∈ (stateAt step (initial rptCallbacks) events count).log →
      ∃ later, count ≤ later ∧
        Ended packet ((stateAt step (initial rptCallbacks) events later).trace packet.pktId) := by
  constructor
  · intro events meets timer packet started
    obtain ⟨lists, todo, sound⟩ : timer.Reached :=
      run_invariant Reached (fun _ _ reached meets => reached.step meets)
        ⟨_, _, Sound.initial rptCallbacks⟩ meets
    exact (sound.waits_or_ended started).imp_left fun ⟨_, _, _, _, retransmits⟩ => retransmits
  · intro events meets passes time packet count started
    obtain ⟨lists, todo, sound⟩ : (stateAt step (initial rptCallbacks) events count).Reached :=
      stateAt_invariant Reached (fun _ _ reached meets => reached.step meets)
        ⟨_, _, Sound.initial rptCallbacks⟩ meets count
    rcases sound.waits_or_ended started with ⟨sends, last, held, -⟩ | ended
    · exact waits_ends meets passes time ⟨lists, todo, sound, held, False.elim⟩
    · exact ⟨count, Nat.le_refl count, ended⟩

/-- A packet of the first bucket. -/
def bucketPacket (pktId : Int) (maxNumRetransmit : Int) : RawPacket where
  pktId := pktId
  data := []
  retransmitInterval := 4
  maxNumRetransmit := maxNumRetransmit
  context := 7
  owner := rptOwnerFirst
  sockFd := 0
  addr := 1

/-- A packet is started and stopped, and then one pass follows another. -/
def endlessPasses : Nat → RawEvent
  | 0 => .start (bucketPacket 2000 1) (some 2) 0
  | 1 => .stop 2000
  | count + 2 => if count % 1002 = 0 then .pass else .advance count

/-- The table is empty from the stop on, and a pass looks at one bucket after the other. -/
theorem endlessPasses_phase (count : Nat) :
    let timer := stateAt step (initial fun _ => true) endlessPasses (count + 2)
    (∀ index, timer.gHashTab index = none) ∧
      timer.phase = if count % 1002 = 0 then .idle else .bucket (count % 1002 - 1) := by
  induction count with
  | zero =>
    refine ⟨fun index => ?_, rfl⟩
    change Function.update (Function.update (fun _ => none) 0 (some 2)) 0 none index = none
    simp [Function.update_apply]
  | succ count ih =>
    obtain ⟨empty, phase⟩ := ih
    intro timer
    have passed : timer = step (stateAt step (initial fun _ => true) endlessPasses (count + 2))
      (if count % 1002 = 0 then .pass else .advance count) := rfl
    rw [passed]
    by_cases start : count % 1002 = 0
    · rw [if_pos start] at phase ⊢
      simp only [step, if_pos phase]
      refine ⟨empty, ?_⟩
      rw [show (count + 1) % 1002 = 1 by omega]
      rfl
    · rw [if_neg start] at phase ⊢
      by_cases last : count % 1002 = 1001
      · simp only [step, advance, phase, last, maxHashBucket, show (count + 1) % 1002 = 0 by omega]
        exact ⟨empty, rfl⟩
      · simp only [step, advance, phase, maxHashBucket, if_pos (show count % 1002 - 1 < 1000 by omega),
          empty, if_neg (show (count + 1) % 1002 ≠ 0 by omega)]
        exact ⟨fun _ => trivial, congrArg PassPhase.bucket (by omega)⟩

/-- A packet is sent again, and another is stopped while the callback of a third runs. A packet that
is stopped at once has its outcome in an endless run. -/
theorem packet_sent_and_stopped_has_one_outcome :
    let events : List RawEvent :=
      [.start (bucketPacket 1000 0) (some 1) 0, .start (bucketPacket 2000 1) (some 2) 0,
        .start (bucketPacket 3000 1) (some 3) 0, .pass, .advance 2, .advance 2, .stop 3000,
        .advance 2, .advance 2]
    let timer := run step (initial fun _ => true) events
    (Retransmits (bucketPacket 2000 1) (timer.trace 2000) ∨
      Ended (bucketPacket 2000 1) (timer.trace 2000)) ∧
    ∃ later, 1 ≤ later ∧ Ended (bucketPacket 2000 1)
      ((stateAt step (initial fun _ => true) endlessPasses later).trace 2000) := by
  obtain ⟨runs, ends⟩ := started_packet_has_one_outcome fun _ => true
  refine ⟨runs _ (by decide) (bucketPacket 2000 1) (by decide),
    ends endlessPasses ?_ ?_ ?_ _ 1 (by decide)⟩
  · rintro (_ | _ | count)
    · decide
    · decide
    · have phase := (endlessPasses_phase count).2
      change RawTimer.Meets _ (if count % 1002 = 0 then .pass else .advance count)
      split
      next start => exact ⟨phase.trans (if_pos start), trivial⟩
      next => exact ⟨trivial, trivial⟩
  · exact fun count => ⟨1002 * count + 2, by omega, if_pos (by omega)⟩
  · refine fun time => ⟨time.toNat + 2, fun later after now isNow => ?_⟩
    obtain ⟨later, rfl⟩ := Nat.exists_eq_add_of_le' (Nat.le_of_add_left_le after)
    change (if later % 1002 = 0 then RawEvent.pass else .advance later) = .advance now at isNow
    split at isNow <;> cases isNow
    omega

theorem Retransmits.not_mem_stopped (retransmits : Retransmits packet trace) (pktId : Int)
    (context owner : Nat) : .stopped pktId true context owner ∉ trace := by
  obtain ⟨early, sends, -, rfl⟩ := retransmits
  intro listed
  rcases List.mem_append.mp listed with isMissed | listed
  · cases List.eq_of_mem_replicate isMissed
  · rcases List.mem_cons.mp listed with isStarted | isSent
    · cases isStarted
    · cases List.eq_of_mem_replicate isSent

theorem Ended.getLast?_ne_sent (ended : Ended packet trace) (other : RawPacket) :
    trace.getLast? ≠ some (.sent other) := by
  obtain ⟨before, -, outcome, isOutcome, late, rfl⟩ := ended
  intro isLast
  rw [List.getLast?_append_of_ne_nil before (List.cons_ne_nil _ _)] at isLast
  rcases List.mem_cons.mp (List.mem_of_getLast? isLast) with rfl | isMissed
  · rcases List.mem_cons.mp isOutcome with isStop | isExceeded
    · cases isStop
    · cases List.mem_singleton.mp isExceeded
  · cases List.eq_of_mem_replicate isMissed

/-- A packet is sent after its stop has returned. -/
theorem packet_is_sent_after_stop :
    ¬∀ (rptCallbacks : Nat → Bool) (events : List RawEvent),
      Admissible step Orderly (initial rptCallbacks) events →
      let timer := run step (initial rptCallbacks) events
      ∀ packet, .started packet ∈ timer.log →
        Retransmits packet (timer.trace packet.pktId) ∨
          Ended packet (timer.trace packet.pktId) := by
  intro always
  have seen := always (fun _ => true)
    [.start (bucketPacket 1000 0) (some 1) 0, .start (bucketPacket 2000 1) (some 2) 0, .pass,
      .advance 2, .advance 2, .stop 2000, .advance 2, .advance 2]
    (by decide) (bucketPacket 2000 1) (by decide)
  rcases seen with retransmits | ended
  · exact retransmits.not_mem_stopped 2000 7 rptOwnerFirst (by decide)
  · exact ended.getLast?_ne_sent (bucketPacket 2000 1) (by decide)

end RawTimer

end OpenDove
