import OpenDove.TimerWheel

/-!
# Timers fire when they are due

While a timer waits, the visit of its slot has not passed, and a timer that is hashed again is never
left behind the walk. Both rest on the links of the slots, which hold as long as no pending timer is
started again. So every such step carries each other timer on: it still waits, or it has fired at
its deadline. A started timer therefore fires once, at its deadline, and since a walk only shortens
the rest of its slot, every tick comes to its end.
-/

namespace OpenDove

open Function

/-- The vector whose slot is being walked. -/
def TimerPhase.walked : TimerPhase → Option Tvec
  | .idle => none
  | .tvec vec _ _ => some vec

theorem Tvec.visit_tv1 (due : Nat) : Tvec.tv1.visit due = due :=
  (Nat.one_mul _).trans (Nat.div_one due)

variable {timer due count added : Nat} {slot other : Slot} {vec : Tvec} {calling : Bool}
  {earlier history' : TimerHistory} {event : TimerEvent} {hnode : Link Nat}
  {lists' : Slot → List Nat} {rest' : List Nat} {expires : UInt64}

namespace TimerHistory

/-- The links of the wheel spell the lists, and a walk stands before the rest of the list of its
slot. -/
structure Walked (history : TimerHistory) (lists : Slot → List Nat) (rest : List Nat) : Prop where
  linked : history.wheel.heap.Linked lists
  clock : history.wheel.ticks = UInt64.ofNat history.count
  walk : ∀ vec hnode calling, history.wheel.phase = .tvec vec hnode calling →
    vec.interval.toNat ∣ history.count ∧ hnode = linkOf rest ∧
      ∃ front, lists (slotAt vec history.wheel.ticks) = front ++ rest

/-- A timer hangs in a slot of its deadline whose visit has not passed. If the tick has come to the
vector of the slot, the walk is still before the timer or the visit is at a later tick. -/
structure Waiting (history : TimerHistory) (lists : Slot → List Nat) (rest : List Nat)
    (timer due : Nat) : Prop where
  expires : history.wheel.expires timer = UInt64.ofNat due
  near : due < history.count + 2 ^ 64
  placed : ∃ vec : Tvec, timer ∈ lists (slotAt vec (UInt64.ofNat due)) ∧
    history.count ≤ vec.visit due ∧
    ∀ current, history.wheel.phase.walked = some current → vec.rank ≤ current.rank →
      timer ∈ rest ∨ history.count < vec.visit due

/-- What became of a timer that was started with a deadline, and the firings of it since then. -/
inductive Fate (history : TimerHistory) (lists : Slot → List Nat) (rest : List Nat)
    (timer due : Nat) : List Firing → Prop where
  | waiting (waiting : history.Waiting lists rest timer due) : Fate history lists rest timer due []
  | fired (absent : ∀ slot, timer ∉ lists slot) :
    Fate history lists rest timer due [⟨due, timer, history.wheel.expiry timer⟩]

variable {history : TimerHistory} {lists : Slot → List Nat} {rest : List Nat}

theorem Waiting.count_le_due (waiting : history.Waiting lists rest timer due) :
    history.count ≤ due := by
  obtain ⟨vec, -, notPassed, -⟩ := waiting.placed
  exact Nat.le_trans notPassed (vec.visit_le due)

/-- The time that is left until a deadline. -/
theorem toNat_expires_sub (notPassed : count ≤ due) (near : due < count + 2 ^ 64) :
    (UInt64.ofNat due - UInt64.ofNat count).toNat = due - count := by
  rw [UInt64.toNat_sub, UInt64.toNat_ofNat', UInt64.toNat_ofNat']
  omega

/-- A timer whose deadline has not passed hangs, once added, in a slot that is visited later unless
it is due now. -/
theorem lt_visit_vectorFor (later : count < due) (near : due < count + 2 ^ 64) :
    count < (vectorFor (UInt64.ofNat due - UInt64.ofNat count)).visit due := by
  have left := toNat_expires_sub (Nat.le_of_lt later) near
  have positive : UInt64.ofNat due - UInt64.ofNat count ≠ 0 := by
    intro zero
    rw [zero, UInt64.toNat_zero] at left
    omega
  apply Tvec.lt_visit
  have bound := interval_vectorFor_le positive
  omega

/-- The addition of a timer that is in no list. -/
theorem Walked.addTimer (walked : history.Walked lists rest) (absent : ∀ slot, timer ∉ lists slot)
    (isSlot : slot = slotAt (vectorFor (history.wheel.expires timer - history.wheel.ticks))
      (history.wheel.expires timer)) :
    Walked { history with wheel := history.wheel.addTimer timer }
      (update lists slot (timer :: lists slot)) rest where
  linked := by
    rw [isSlot]
    exact walked.linked.headAdd absent _
  clock := walked.clock
  walk := by
    intro vec hnode calling phase
    obtain ⟨divides, next, front, split⟩ := walked.walk vec hnode calling phase
    refine ⟨divides, next, ?_⟩
    by_cases same : slotAt vec history.wheel.ticks = slot
    · refine ⟨timer :: front, ?_⟩
      change update lists slot (timer :: lists slot) (slotAt vec history.wheel.ticks) = _
      rw [same, update_self, ← same, split, List.cons_append]
    · refine ⟨front, ?_⟩
      change update lists slot (timer :: lists slot) (slotAt vec history.wheel.ticks) = _
      rw [update_of_ne same, split]

/-- A timer that is added before its deadline waits for it. -/
theorem Walked.waiting_addTimer (walked : history.Walked lists rest)
    (isSlot : slot = slotAt (vectorFor (history.wheel.expires timer - history.wheel.ticks))
      (history.wheel.expires timer)) (expires : history.wheel.expires timer = UInt64.ofNat due)
    (near : due < history.count + 2 ^ 64)
    (later : history.count < due ∨ history.count = due ∧ history.wheel.phase = .idle) :
    Waiting { history with wheel := history.wheel.addTimer timer }
      (update lists slot (timer :: lists slot)) rest timer due where
  expires := expires
  near := near
  placed := by
    rw [expires, walked.clock] at isSlot
    refine ⟨vectorFor (UInt64.ofNat due - UInt64.ofNat history.count), ?_, ?_⟩
    · rw [← isSlot, update_self]
      exact List.mem_cons_self
    · rcases later with later | ⟨now, isIdle⟩
      · have ahead := lt_visit_vectorFor later near
        exact ⟨Nat.le_of_lt ahead, fun _ _ _ => .inr ahead⟩
      · constructor
        · rw [now, UInt64.sub_self]
          exact Nat.le_of_eq (Tvec.visit_tv1 due).symm
        · intro current walking
          change history.wheel.phase.walked = some current at walking
          rw [isIdle] at walking
          cases walking

theorem mem_update_cons (listed : timer ∈ lists other) :
    timer ∈ update lists slot (added :: lists slot) other := by
  rw [update_apply]
  split
  case isTrue same =>
    exact List.mem_cons_of_mem added (same ▸ listed)
  case isFalse => exact listed

theorem not_mem_update_cons (differs : timer ≠ added) (absent : timer ∉ lists other) :
    timer ∉ update lists slot (added :: lists slot) other := by
  rw [update_apply]
  split
  case isTrue same =>
    exact fun listed => (List.mem_cons.mp listed).elim differs (same ▸ absent)
  case isFalse => exact absent

/-- A timer waits on while its lists keep it and the walk does not pass it. -/
theorem Waiting.keep (waiting : history.Waiting lists rest timer due)
    (sameCount : history'.count = history.count)
    (sameExpires : history'.wheel.expires timer = history.wheel.expires timer)
    (sameWalk : history'.wheel.phase.walked = history.wheel.phase.walked)
    (listed : ∀ slot, timer ∈ lists slot → timer ∈ lists' slot)
    (before : timer ∈ rest → timer ∈ rest') : history'.Waiting lists' rest' timer due where
  expires := sameExpires.trans waiting.expires
  near := sameCount ▸ waiting.near
  placed := by
    obtain ⟨vec, inSlot, notPassed, ahead⟩ := waiting.placed
    refine ⟨vec, listed _ inSlot, sameCount ▸ notPassed, ?_⟩
    intro current walking reached
    rcases ahead current (sameWalk ▸ walking) reached with inRest | later
    · exact .inl (before inRest)
    · exact .inr (sameCount ▸ later)

/-- When the walk of a vector begins, a timer whose visit is this tick is in the walked slot. -/
theorem Waiting.processTvec (waiting : history.Waiting lists rest timer due)
    (clock : history.wheel.ticks = UInt64.ofNat history.count) (next : Tvec)
    (passed : ∀ vec : Tvec, vec.rank < next.rank →
      rest = [] ∧ ∃ current, history.wheel.phase.walked = some current ∧ vec.rank ≤ current.rank) :
    Waiting { history with wheel := history.wheel.processTvec next } lists
      (lists (slotAt next history.wheel.ticks)) timer due where
  expires := waiting.expires
  near := waiting.near
  placed := by
    obtain ⟨vec, inSlot, notPassed, ahead⟩ := waiting.placed
    refine ⟨vec, inSlot, notPassed, ?_⟩
    intro current walking reached
    cases walking
    rcases Nat.lt_or_eq_of_le reached with earlier | same
    · obtain ⟨isOver, current, walking, reached⟩ := passed vec earlier
      rcases ahead current walking reached with inRest | later
      · rw [isOver] at inRest
        cases inRest
      · exact .inr later
    · obtain rfl := Tvec.eq_of_rank_eq same
      rcases Nat.lt_or_eq_of_le notPassed with later | now
      · exact .inr later
      · refine .inl ?_
        rw [clock, now, slotAt_visit]
        exact inSlot

/-- When a tick ends, the visits of the slots that it did not walk are at later ticks. -/
theorem Waiting.endTick (waiting : history.Waiting lists [] timer due) {current : Tvec}
    (walking : history.wheel.phase.walked = some current)
    (ends : ∀ vec : Tvec, current.rank < vec.rank → ¬vec.interval.toNat ∣ history.count)
    (rest' : List Nat) :
    Waiting
      { history with
        wheel := { history.wheel with ticks := history.wheel.ticks + 1, phase := .idle }
        count := history.count + 1 } lists rest' timer due where
  expires := waiting.expires
  near := by
    have near := waiting.near
    change due < history.count + 1 + 2 ^ 64
    omega
  placed := by
    obtain ⟨vec, inSlot, notPassed, ahead⟩ := waiting.placed
    refine ⟨vec, inSlot, ?_, fun _ idle => by cases idle⟩
    change history.count < vec.visit due
    by_cases reached : vec.rank ≤ current.rank
    · rcases ahead current walking reached with inRest | later
      · cases inRest
      · exact later
    · apply Nat.lt_of_le_of_ne notPassed
      intro now
      apply ends vec (Nat.lt_of_not_le reached)
      rw [now]
      exact vec.interval_dvd_visit due

theorem Walked.processTvec (walked : history.Walked lists rest) {next : Tvec}
    (divides : next.interval.toNat ∣ history.count) :
    Walked { history with wheel := history.wheel.processTvec next } lists
      (lists (slotAt next history.wheel.ticks)) where
  linked := walked.linked
  clock := walked.clock
  walk := by
    intro vec hnode calling phase
    cases phase
    exact ⟨divides, walked.linked.first _, [], rfl⟩

theorem Walked.endTick (walked : history.Walked lists rest) (rest' : List Nat) :
    Walked
      { history with
        wheel := { history.wheel with ticks := history.wheel.ticks + 1, phase := .idle }
        count := history.count + 1 } lists rest' where
  linked := walked.linked
  clock := by
    change history.wheel.ticks + 1 = UInt64.ofNat (history.count + 1)
    rw [walked.clock, UInt64.ofNat_add]
    rfl
  walk := by
    intro vec hnode calling phase
    cases phase

/-- The first node of the rest is unlinked and the walk goes on behind it. -/
theorem Walked.unlink (walked : history.Walked lists (timer :: rest))
    (phase : history.wheel.phase = .tvec vec hnode calling) (calling' : Bool) :
    ∃ lists', Walked
      { history with
        wheel :=
          { history.wheel with
            heap := history.wheel.heap.nodeRemove timer
            phase := .tvec vec (history.wheel.heap.next timer) calling' } } lists' rest ∧
      (∀ slot, timer ∉ lists' slot) ∧
      ∀ other, other ≠ timer → ∀ slot, other ∈ lists' slot ↔ other ∈ lists slot := by
  obtain ⟨divides, -, front, split⟩ := walked.walk vec hnode calling phase
  have segment := walked.linked.segment (slotAt vec history.wheel.ticks)
  rw [split] at segment
  have without := walked.linked.mem_without split
  refine ⟨update lists (slotAt vec history.wheel.ticks) (front ++ rest),
    ⟨walked.linked.nodeRemove split, walked.clock, ?_⟩, ?_, ?_⟩
  · intro vec' hnode' calling'' phase'
    cases phase'
    exact ⟨divides, segment.next_eq, front, update_self _ _ _⟩
  · exact fun slot listed => ((without timer slot).mp listed).1 rfl
  · exact fun other isOther slot => (without other slot).trans (and_iff_right isOther)

/-- A step to a state keeps the shape of the wheel, and every timer that it does not concern waits
on, or fires if it is due. -/
def Carries (history : TimerHistory) (lists : Slot → List Nat) (rest : List Nat)
    (history' : TimerHistory) (rest' : List Nat) (concerned : Nat → Prop) : Prop :=
  ∃ lists' new, history'.Walked lists' rest' ∧ history'.fired = history.fired ++ new ∧
    history'.wheel.expiry = history.wheel.expiry ∧
    ∀ timer due firings, ¬concerned timer → history.Fate lists rest timer due firings →
      history'.Fate lists' rest' timer due
        (firings ++ new.filter fun firing => firing.timer = timer)

/-- A step at which no timer fires. -/
theorem carries_of_quiet {concerned : Nat → Prop} (walked : history'.Walked lists' rest')
    (fired : history'.fired = history.fired)
    (expiry : history'.wheel.expiry = history.wheel.expiry)
    (waits : ∀ timer due, ¬concerned timer → history.Waiting lists rest timer due →
      history'.Waiting lists' rest' timer due)
    (absent : ∀ timer, ¬concerned timer → (∀ slot, timer ∉ lists slot) →
      ∀ slot, timer ∉ lists' slot) : history.Carries lists rest history' rest' concerned := by
  refine ⟨lists', [], walked, fired.trans (List.append_nil _).symm, expiry, ?_⟩
  intro timer due firings others fate
  rw [List.filter_nil, List.append_nil]
  cases fate with
  | waiting waiting => exact .waiting (waits timer due others waiting)
  | fired outside =>
    rw [← expiry]
    exact .fired (absent timer others outside)

section Walk

variable (walked : history.Walked lists rest)

include walked

theorem Walked.carries_self (concerned : Nat → Prop) :
    history.Carries lists rest history rest concerned :=
  carries_of_quiet walked rfl rfl (fun _ _ _ waiting => waiting) fun _ _ outside => outside

/-- A timer that does not pass the test of `stop_timer` is in no list. -/
theorem Walked.not_mem_of_not_pending (idle : ¬history.wheel.Pending timer) (slot : Slot) :
    timer ∉ lists slot := by
  intro listed
  obtain ⟨notNull, notPoison⟩ := (walked.linked.mem_iff timer).mp ⟨slot, listed⟩
  apply idle
  refine ⟨notNull, ?_, notPoison⟩
  obtain ⟨before, after, split⟩ := List.append_of_mem listed
  have segment := walked.linked.segment slot
  rw [split] at segment
  rw [segment.next_eq]
  cases after with
  | nil => exact nofun
  | cons first after => exact nofun

/-- The wheel with the deadline of a timer that is about to be added. -/
def withExpires (history : TimerHistory) (timer : Nat) (expires : UInt64) : TimerHistory :=
  { history with
    wheel := { history.wheel with
      expires := update history.wheel.expires timer (expires + history.wheel.ticks) } }

theorem Walked.carries_start (idle : ¬history.wheel.Pending timer) (expires : UInt64) :
    history.Carries lists rest
      { history with wheel := history.wheel.startTimerInternal timer expires } rest
      fun other => timer = other := by
  have absent := walked.not_mem_of_not_pending idle
  have set : (history.withExpires timer expires).Walked lists rest :=
    ⟨walked.linked, walked.clock, walked.walk⟩
  refine carries_of_quiet (set.addTimer absent rfl) rfl rfl ?_ ?_
  · intro other due isOther waiting
    refine waiting.keep rfl ?_ rfl (fun slot => mem_update_cons) id
    exact update_of_ne (Ne.symm isOther) _ _
  · intro other isOther outside slot
    exact not_mem_update_cons (Ne.symm isOther) (outside slot)

/-- A timer that is started waits for its deadline. -/
theorem Walked.waiting_start (later : history.wheel.phase ≠ .idle → expires ≠ 0)
    (idle : ¬history.wheel.Pending timer) :
    ∃ lists' rest', Walked { history with wheel := history.wheel.startTimerInternal timer expires }
        lists' rest' ∧
      Waiting { history with wheel := history.wheel.startTimerInternal timer expires } lists' rest'
        timer (history.count + expires.toNat) := by
  have absent := walked.not_mem_of_not_pending idle
  have set : (history.withExpires timer expires).Walked lists rest :=
    ⟨walked.linked, walked.clock, walked.walk⟩
  have expiresAt : (history.withExpires timer expires).wheel.expires timer =
      UInt64.ofNat (history.count + expires.toNat) := by
    change update history.wheel.expires timer (expires + history.wheel.ticks) timer = _
    rw [update_self, walked.clock, UInt64.ofNat_add, UInt64.ofNat_toNat, UInt64.add_comm]
  have near : history.count + expires.toNat < history.count + 2 ^ 64 :=
    Nat.add_lt_add_left expires.toNat_lt _
  have ahead : history.count < history.count + expires.toNat ∨
      history.count = history.count + expires.toNat ∧ history.wheel.phase = .idle := by
    by_cases zero : expires = 0
    · refine .inr ⟨by rw [zero]; rfl, ?_⟩
      by_contra notIdle
      exact later notIdle zero
    · refine .inl (Nat.lt_add_of_pos_right (Nat.pos_of_ne_zero ?_))
      exact fun toNatZero => zero (UInt64.toNat_inj.mp toNatZero)
  exact ⟨_, rest, set.addTimer absent rfl, set.waiting_addTimer rfl expiresAt near ahead⟩

/-- A timer that is not the next one of the walk is unlinked from its list. -/
theorem Walked.stop_rest (other : history.wheel.phase.saved ≠ .node timer) {before after : List Nat}
    (split : lists slot = before ++ timer :: after) :
    ∃ rest', (∀ node ∈ rest, node ≠ timer → node ∈ rest') ∧
      ∀ vec hnode calling, history.wheel.phase = .tvec vec hnode calling →
        vec.interval.toNat ∣ history.count ∧ hnode = linkOf rest' ∧ ∃ front,
          update lists slot (before ++ after) (slotAt vec history.wheel.ticks) =
            front ++ rest' := by
  cases phase : history.wheel.phase with
  | idle => exact ⟨rest, fun _ listed _ => listed, nofun⟩
  | tvec vec hnode calling =>
    obtain ⟨divides, stands, front, walk⟩ := walked.walk vec hnode calling phase
    rw [phase, TimerPhase.saved, stands] at other
    have place (rest' : List Nat) (next : linkOf rest = linkOf rest')
        (found : ∃ front, update lists slot (before ++ after)
          (slotAt vec history.wheel.ticks) = front ++ rest') (vec' hnode' calling')
        (same : TimerPhase.tvec vec hnode calling = .tvec vec' hnode' calling') :
        vec'.interval.toNat ∣ history.count ∧ hnode' = linkOf rest' ∧ ∃ front,
          update lists slot (before ++ after) (slotAt vec' history.wheel.ticks) =
            front ++ rest' := by
      cases same
      exact ⟨divides, stands.trans next, found⟩
    by_cases same : slotAt vec history.wheel.ticks = slot
    · rw [same] at place
      rw [same, split, List.append_eq_append_iff] at walk
      obtain ⟨passed, rfl, later⟩ | ⟨ahead, rfl, rfl⟩ := walk
      · cases passed with
        | nil =>
          rw [List.nil_append] at later
          exact absurd (later ▸ rfl) other
        | cons first passed =>
          rw [List.cons_append] at later
          obtain ⟨rfl, rfl⟩ := List.cons.inj later
          refine ⟨rest, fun _ listed _ => listed, place rest rfl ⟨before ++ passed, ?_⟩⟩
          rw [update_self, List.append_assoc]
      · have inhabited : ahead ≠ [] := by
          rintro rfl
          exact other rfl
        refine ⟨ahead ++ after, fun node listed isOther => ?_,
          place _ (LinkHeap.linkOf_append_of_ne_nil inhabited _ _) ⟨front, ?_⟩⟩
        · rw [List.perm_middle.mem_iff] at listed
          exact (List.mem_cons.mp listed).resolve_left isOther
        · rw [update_self, List.append_assoc]
    · refine ⟨rest, fun _ listed _ => listed, place rest rfl ⟨front, ?_⟩⟩
      rw [update_of_ne same, walk]

theorem Walked.carries_stop (other : history.wheel.phase.saved ≠ .node timer) :
    ∃ rest', history.Carries lists rest { history with wheel := history.wheel.stopTimer timer }
      rest' fun other => timer = other := by
  by_cases pending : history.wheel.Pending timer
  · obtain ⟨slot, listed⟩ := (walked.linked.mem_iff timer).mpr ⟨pending.1, pending.2.2⟩
    obtain ⟨before, after, split⟩ := List.append_of_mem listed
    have stops : history.wheel.stopTimer timer =
        { history.wheel with heap := history.wheel.heap.nodeRemove timer } := if_pos pending
    rw [stops]
    have without := walked.linked.mem_without split
    obtain ⟨rest', kept, walk⟩ := walked.stop_rest other split
    have unlinked : Walked { history with wheel := { history.wheel with heap := _ } } _ rest' :=
      ⟨walked.linked.nodeRemove split, walked.clock, walk⟩
    refine ⟨rest', carries_of_quiet unlinked rfl rfl ?_ ?_⟩
    · intro other due isOther waiting
      exact waiting.keep rfl rfl rfl (fun slot listed => (without other slot).mpr
        ⟨Ne.symm isOther, listed⟩) fun listed => kept other listed (Ne.symm isOther)
    · exact fun other _ outside slot listed => outside slot ((without other slot).mp listed).2
  · have stays : history.wheel.stopTimer timer = history.wheel := if_neg pending
    rw [stays]
    exact ⟨rest, walked.carries_self _⟩

theorem Walked.carries_tick :
    history.Carries lists rest { history with wheel := history.wheel.processTvec .tv1 }
      (lists (slotAt .tv1 history.wheel.ticks)) fun _ => False := by
  refine carries_of_quiet (walked.processTvec (Nat.one_dvd _)) rfl rfl ?_ ?_
  · intro timer due _ waiting
    refine waiting.processTvec walked.clock .tv1 ?_
    intro vec earlier
    exfalso
    revert earlier
    cases vec <;> decide
  · exact fun timer _ outside => outside

/-- The timers before which a walk stands are in its slot. -/
theorem Walked.mem_of_mem_rest (phase : history.wheel.phase = .tvec vec hnode calling)
    (inRest : timer ∈ rest) : timer ∈ lists (slotAt vec history.wheel.ticks) := by
  obtain ⟨-, -, front, split⟩ := walked.walk vec hnode calling phase
  rw [split]
  exact List.mem_append_right front inRest

end Walk

section ProcessTimer

variable {timer : Nat} {vec : Tvec} {hnode : Link Nat} {calling : Bool}

variable (walked : history.Walked lists (timer :: rest))
  (phase : history.wheel.phase = .tvec vec hnode calling)

include walked phase

/-- A due timer at which the walk stands is unlinked and fires. -/
theorem Walked.carries_fire
    (isDue : history.wheel.expires timer - history.wheel.ticks = 0) (calling' : Bool) :
    history.Carries lists (timer :: rest)
      { history with
        wheel :=
          { history.wheel with
            heap := history.wheel.heap.nodeRemove timer
            phase := .tvec vec (history.wheel.heap.next timer) calling' }
        fired := history.fired ++ [⟨history.count, timer, history.wheel.expiry timer⟩] }
      rest fun _ => False := by
  obtain ⟨lists', walked', absent, kept⟩ := walked.unlink phase calling'
  refine ⟨lists', [⟨history.count, timer, history.wheel.expiry timer⟩],
    ⟨walked'.linked, walked'.clock, walked'.walk⟩, rfl, rfl, ?_⟩
  intro other due firings _ fate
  by_cases isTimer : timer = other
  · subst isTimer
    rw [List.filter_singleton, decide_eq_true rfl, cond_true]
    cases fate with
    | waiting waiting =>
      have notPassed := waiting.count_le_due
      have left := toNat_expires_sub notPassed waiting.near
      rw [← waiting.expires, ← walked.clock, isDue, UInt64.toNat_zero] at left
      obtain rfl : due = history.count := by omega
      exact .fired absent
    | fired outside =>
      exact absurd (walked.mem_of_mem_rest phase List.mem_cons_self) (outside _)
  · rw [List.filter_singleton, decide_eq_false isTimer, cond_false, List.append_nil]
    cases fate with
    | waiting waiting =>
      refine .waiting (waiting.keep rfl rfl (congrArg TimerPhase.walked phase).symm ?_ ?_)
      · exact fun slot => (kept other (Ne.symm isTimer) slot).mpr
      · exact fun listed => (List.mem_cons.mp listed).resolve_left (Ne.symm isTimer)
    | fired outside =>
      exact .fired fun slot listed => outside slot ((kept other (Ne.symm isTimer) slot).mp listed)

/-- A timer at which the walk stands and that is not due is unlinked and added again. -/
theorem Walked.carries_add
    (notDue : history.wheel.expires timer - history.wheel.ticks ≠ 0) :
    history.Carries lists (timer :: rest)
      { history with
        wheel := TimerWheel.addTimer
          { history.wheel with
            heap := history.wheel.heap.nodeRemove timer
            phase := .tvec vec (history.wheel.heap.next timer) false } timer }
      rest fun _ => False := by
  obtain ⟨lists', walked', absent, kept⟩ := walked.unlink phase false
  refine carries_of_quiet (walked'.addTimer absent rfl) rfl rfl ?_ ?_
  · intro other due _ waiting
    by_cases isTimer : other = timer
    · subst isTimer
      have left := toNat_expires_sub waiting.count_le_due waiting.near
      rw [← waiting.expires, ← walked.clock] at left
      have later : history.count < due := by
        apply Nat.lt_of_le_of_ne waiting.count_le_due
        intro now
        rw [now, Nat.sub_self] at left
        exact notDue (UInt64.toNat_inj.mp left)
      exact walked'.waiting_addTimer rfl waiting.expires waiting.near (.inl later)
    · refine waiting.keep rfl rfl (congrArg TimerPhase.walked phase).symm ?_ ?_
      · exact fun slot listed => mem_update_cons ((kept other isTimer slot).mpr listed)
      · exact fun listed => (List.mem_cons.mp listed).resolve_left isTimer
  · intro other _ outside slot
    have isOther : other ≠ timer := by
      rintro rfl
      exact outside _ (walked.mem_of_mem_rest phase List.mem_cons_self)
    exact not_mem_update_cons isOther fun listed =>
      outside slot ((kept other isOther slot).mp listed)

/-- The timer at which the walk stands is unlinked without a fault. -/
theorem Walked.nodeRemove_intact :
    ¬ (history.wheel.heap.nodeRemove timer).faulted = true := by
  obtain ⟨lists', walked', -⟩ := walked.unlink phase false
  exact Bool.eq_false_iff.mp walked'.linked.intact

theorem Walked.carries_processTimer :
    history.Carries lists (timer :: rest) (history.processTimer vec timer) rest fun _ => False := by
  rw [processTimer, if_neg (walked.nodeRemove_intact phase)]
  by_cases isDue : history.wheel.expires timer - history.wheel.ticks = 0
  · rw [if_pos isDue]
    exact walked.carries_fire phase isDue _
  · rw [if_neg isDue]
    exact walked.carries_add phase isDue

end ProcessTimer

/-- When a walk is over, the walk of the next vector begins or the tick ends. -/
theorem Walked.carries_endTvec (walked : history.Walked lists [])
    (phase : history.wheel.phase = .tvec vec hnode calling) :
    ∃ rest', history.Carries lists []
      { history with
        wheel := history.wheel.endTvec vec
        count :=
          if (history.wheel.endTvec vec).phase = .idle then history.count + 1 else history.count }
      rest' fun _ => False := by
  obtain ⟨divides, -⟩ := walked.walk vec hnode calling phase
  have walking : history.wheel.phase.walked = some vec := congrArg TimerPhase.walked phase
  have ends (last : ∀ other : Tvec, vec.rank < other.rank → ¬other.interval.toNat ∣ history.count) :
      history.Carries lists []
        { history with
          wheel := { history.wheel with ticks := history.wheel.ticks + 1, phase := .idle }
          count := history.count + 1 } [] fun _ => False :=
    carries_of_quiet (walked.endTick []) rfl rfl
      (fun timer due _ waiting => waiting.endTick walking last []) fun _ _ outside => outside
  cases overflows : vec.overflow with
  | none =>
    simp only [TimerWheel.endTvec, overflows, if_true]
    refine ⟨[], ends ?_⟩
    intro other later
    exact absurd (Tvec.rank_le_of_overflow_none overflows other) (Nat.not_le_of_lt later)
  | some next =>
    have overflowsWhen := index_eq_zero_iff overflows divides
    have ranks := Tvec.rank_overflow overflows
    rw [← walked.clock] at overflowsWhen
    by_cases zero : (slotAt vec history.wheel.ticks).index = 0
    · simp only [TimerWheel.endTvec, overflows, if_pos zero]
      refine ⟨_, carries_of_quiet (walked.processTvec (overflowsWhen.mp zero)) rfl rfl ?_
        fun _ _ outside => outside⟩
      intro timer due _ waiting
      refine waiting.processTvec walked.clock next fun other earlier => ⟨rfl, vec, walking, ?_⟩
      omega
    · simp only [TimerWheel.endTvec, overflows, if_neg zero, if_true]
      refine ⟨[], ends ?_⟩
      intro other later divided
      have nextDivides : next.interval.toNat ∣ other.interval.toNat :=
        Tvec.interval_dvd_interval (by omega)
      exact zero (overflowsWhen.mpr (Nat.dvd_trans nextDivides divided))

section

variable (walked : history.Walked lists rest)

include walked

theorem Walked.carries_advance :
    ∃ rest', history.Carries lists rest history.advance rest' fun _ => False := by
  cases phase : history.wheel.phase with
  | idle =>
    simp only [advance, phase]
    exact ⟨rest, walked.carries_self _⟩
  | tvec vec hnode calling =>
    obtain ⟨-, stands, -⟩ := walked.walk vec hnode calling phase
    cases rest with
    | nil =>
      simp only [advance, phase, stands, linkOf]
      exact walked.carries_endTvec phase
    | cons timer rest =>
      simp only [advance, phase, stands, linkOf]
      exact ⟨rest, walked.carries_processTimer phase⟩

theorem Walked.step_eq (event : TimerEvent) : history.step event = history.take event :=
  if_neg (Bool.eq_false_iff.mp walked.linked.intact)

theorem Walked.carries_step (careful : history.Careful event) :
    ∃ rest', history.Carries lists rest (history.step event) rest'
      fun timer => Concerns timer event := by
  rw [walked.step_eq]
  cases event with
  | start timer expires =>
    obtain ⟨available, -, idle⟩ := careful
    rw [take, if_pos available]
    exact ⟨rest, walked.carries_start idle expires⟩
  | stop timer =>
    obtain ⟨available, other⟩ := careful
    rw [take, if_pos available]
    exact walked.carries_stop other
  | tick =>
    rw [take]
    by_cases isIdle : history.wheel.phase = .idle
    · rw [if_pos isIdle]
      exact ⟨_, walked.carries_tick⟩
    · rw [if_neg isIdle]
      exact ⟨rest, walked.carries_self _⟩
  | advance => exact walked.carries_advance

end

/-- The timer thread stands at a well formed place of a well linked wheel. -/
def Sound (history : TimerHistory) : Prop :=
  ∃ lists rest, history.Walked lists rest

theorem Sound.step (sound : history.Sound) (careful : history.Careful event) :
    (history.step event).Sound := by
  obtain ⟨lists, rest, walked⟩ := sound
  obtain ⟨rest', lists', -, walked', -⟩ := walked.carries_step careful
  exact ⟨lists', rest', walked'⟩

theorem Sound.initial (expiry : Nat → Expiry) (count : Nat) : (initial expiry count).Sound := by
  refine ⟨fun _ => [], [], .empty, rfl, ?_⟩
  intro vec hnode calling phase
  cases phase

/-- Since an earlier point, a timer waits for its deadline or has fired when it was due. -/
def Scheduled (history earlier : TimerHistory) (timer due : Nat) : Prop :=
  ∃ lists rest later, history.Walked lists rest ∧ history.fired = earlier.fired ++ later ∧
    history.Fate lists rest timer due (later.filter fun firing => firing.timer = timer)

theorem Scheduled.step (scheduled : history.Scheduled earlier timer due)
    (careful : history.Careful event) (other : ¬Concerns timer event) :
    (history.step event).Scheduled earlier timer due := by
  obtain ⟨lists, rest, later, walked, fired, fate⟩ := scheduled
  obtain ⟨rest', lists', new, walked', fired', -, carries⟩ := walked.carries_step careful
  refine ⟨lists', rest', later ++ new, walked', ?_, ?_⟩
  · rw [fired', fired, List.append_assoc]
  · rw [List.filter_append]
    exact carries timer due _ other fate

theorem Scheduled.firesOnce (scheduled : history.Scheduled earlier timer due) :
    history.FiresOnce earlier timer due := by
  obtain ⟨lists, rest, later, -, fired, fate⟩ := scheduled
  have since : history.firingsSince earlier timer =
      later.filter fun firing => firing.timer = timer := by
    rw [firingsSince, fired, List.drop_left]
  rw [FiresOnce, since]
  generalize (later.filter fun firing => firing.timer = timer) = firings at fate ⊢
  cases fate with
  | waiting waiting => exact .inr ⟨rfl, waiting.count_le_due⟩
  | fired _ => exact .inl rfl

theorem Walked.endsTick_of_advance (walked : history.Walked lists rest)
    (ends : history.advance.EndsTick) : history.EndsTick := by
  obtain ⟨steps, ended⟩ := ends
  refine ⟨steps + 1, ?_⟩
  change (run step (history.step .advance) (List.replicate steps .advance)).wheel.phase = .idle
  rw [walked.step_eq]
  exact ended

theorem endsTick_of_idle (isIdle : history.wheel.phase = .idle) : history.EndsTick :=
  ⟨0, isIdle⟩

theorem Walked.walked_processTimer (walked : history.Walked lists (timer :: rest))
    (phase : history.wheel.phase = .tvec vec hnode calling) :
    (history.processTimer vec timer).wheel.phase.walked = some vec := by
  rw [processTimer, if_neg (walked.nodeRemove_intact phase)]
  split_ifs <;> rfl

theorem walked_endTvec (wheel : TimerWheel) (vec : Tvec) :
    (wheel.endTvec vec).phase = .idle ∨
      ∃ next, vec.overflow = some next ∧ (wheel.endTvec vec).phase.walked = some next := by
  rw [TimerWheel.endTvec]
  cases vec.overflow with
  | none => exact .inl rfl
  | some next =>
    by_cases zero : (slotAt vec wheel.ticks).index = 0
    · exact .inr ⟨next, rfl, congrArg _ (congrArg TimerWheel.phase (if_pos zero))⟩
    · exact .inl (congrArg TimerWheel.phase (if_neg zero))

/-- Every tick that has come to the walk of a vector ends. -/
def WalkEnds (vec : Tvec) : Prop :=
  ∀ history lists rest, Walked history lists rest → history.wheel.phase.walked = some vec →
    history.EndsTick

theorem phase_of_walked {phase : TimerPhase} (walking : phase.walked = some vec) :
    ∃ hnode calling, phase = .tvec vec hnode calling := by
  cases phase with
  | idle => cases walking
  | tvec walked hnode calling =>
    obtain rfl := Option.some.inj walking
    exact ⟨hnode, calling, rfl⟩

/-- A walk ends: each node it takes shortens the rest, and at its end the tick is over or goes on
with the next vector. -/
theorem walkEnds_of_overflow (later : ∀ next, vec.overflow = some next → WalkEnds next) :
    WalkEnds vec := by
  intro history lists rest walked walking
  induction rest generalizing history lists with
  | nil =>
    obtain ⟨hnode, calling, phase⟩ := phase_of_walked walking
    obtain ⟨-, stands, -⟩ := walked.walk vec hnode calling phase
    apply walked.endsTick_of_advance
    obtain ⟨rest', lists', -, walked', -⟩ := walked.carries_endTvec phase
    simp only [advance, phase, stands, linkOf]
    rcases walked_endTvec history.wheel vec with isIdle | ⟨next, overflows, walking'⟩
    · exact endsTick_of_idle isIdle
    · exact later next overflows _ lists' rest' walked' walking'
  | cons timer rest ih =>
    obtain ⟨hnode, calling, phase⟩ := phase_of_walked walking
    obtain ⟨-, stands, -⟩ := walked.walk vec hnode calling phase
    apply walked.endsTick_of_advance
    obtain ⟨lists', -, walked', -⟩ := walked.carries_processTimer phase
    simp only [advance, phase, stands, linkOf]
    exact ih _ lists' walked' (walked.walked_processTimer phase)

theorem walkEnds (vec : Tvec) : WalkEnds vec := by
  have fifth : WalkEnds .tv5 := walkEnds_of_overflow nofun
  have before {vec next : Tvec} (overflows : vec.overflow = some next) (later : WalkEnds next) :
      WalkEnds vec :=
    walkEnds_of_overflow fun _ same => Option.some.inj (overflows.symm.trans same) ▸ later
  have fourth : WalkEnds .tv4 := before rfl fifth
  have third : WalkEnds .tv3 := before rfl fourth
  have second : WalkEnds .tv2 := before rfl third
  have first : WalkEnds .tv1 := before rfl second
  cases vec <;> assumption

theorem Sound.endsTick (sound : history.Sound) : history.EndsTick := by
  obtain ⟨lists, rest, walked⟩ := sound
  cases phase : history.wheel.phase with
  | idle => exact endsTick_of_idle phase
  | tvec vec hnode calling =>
    exact walkEnds vec history lists rest walked (congrArg TimerPhase.walked phase)

theorem Scheduled.sound (scheduled : history.Scheduled earlier timer due) : history.Sound := by
  obtain ⟨lists, rest, -, walked, -⟩ := scheduled
  exact ⟨lists, rest, walked⟩

/-- A timer that is started waits for its deadline. -/
theorem Sound.scheduled_start (sound : history.Sound)
    (careful : history.Careful (.start timer expires)) :
    (history.step (.start timer expires)).Scheduled history timer
      (history.count + expires.toNat) := by
  obtain ⟨lists, rest, walked⟩ := sound
  obtain ⟨available, later, idle⟩ := careful
  obtain ⟨lists', rest', walked', waiting⟩ := walked.waiting_start later idle
  rw [walked.step_eq, take, if_pos available]
  exact ⟨lists', rest', [], walked', (List.append_nil _).symm, .waiting waiting⟩

section Runs

variable (expiry : Nat → Expiry) (count : Nat) (before after : List TimerEvent)

theorem sound_run (careful : Admissible step Careful (initial expiry count) before) :
    (run step (initial expiry count) before).Sound :=
  run_invariant Sound (fun _ _ sound careful => sound.step careful) (Sound.initial expiry count)
    careful

theorem scheduled_run (timer : Nat) (expires : UInt64)
    (careful : Admissible step Careful (initial expiry count)
      (before ++ .start timer expires :: after))
    (alone : ∀ event ∈ after, ¬Concerns timer event) :
    let started := run step (initial expiry count) before
    let reached := run step (initial expiry count) (before ++ .start timer expires :: after)
    reached.FiresOnce started timer (started.count + expires.toNat) ∧ reached.EndsTick := by
  intro started reached
  have later := careful.after_append
  have scheduled : reached.Scheduled started timer (started.count + expires.toNat) := by
    have splits : reached = run step (started.step (.start timer expires)) after :=
      run_append step _ before _
    rw [splits]
    apply run_invariant (fun history : TimerHistory => history.Scheduled started timer _) ?_
      ((sound_run expiry count before careful.of_append).scheduled_start later.1)
      (later.2.and_of_forall_mem alone)
    intro history event scheduled careful
    exact scheduled.step careful.1 careful.2
  exact ⟨scheduled.firesOnce, scheduled.sound.endsTick⟩

/-- Where no pending timer is started, a timer that is started and then neither started nor stopped
fires once, during the processing of the tick of its deadline, and every tick comes to its
end. -/
theorem timer_fires_once_when_due (expiry : Nat → Expiry) (count : Nat)
    (before after : List TimerEvent) (timer : Nat) (expires : UInt64)
    (meets : Admissible step Meets (initial expiry count)
      (before ++ .start timer expires :: after))
    (alone : ∀ event ∈ after, ¬Concerns timer event) :
    let started := run step (initial expiry count) before
    let reached := run step (initial expiry count) (before ++ .start timer expires :: after)
    reached.FiresOnce started timer (started.count + expires.toNat) ∧ reached.EndsTick :=
  scheduled_run expiry count before after timer expires
    (.imp (fun _ => True) (fun _ _ _ _ => trivial) (fun _ _ _ => Meets.careful) trivial meets) alone

end Runs

theorem timer_started_from_callback_fires :
    let start := initial (fun _ => .callback 0) 126
    let started := run step start [.start 2 1, .tick, .advance, .tick, .advance]
    let reached := run step start
      [.start 2 1, .tick, .advance, .tick, .advance, .start 1 1, .advance, .tick, .advance]
    reached.FiresOnce started 1 128 ∧ reached.EndsTick :=
  timer_fires_once_when_due (fun _ => .callback 0) 126
    [.start 2 1, .tick, .advance, .tick, .advance] [.advance, .tick, .advance] 1 1 (by decide)
    (by decide)

/-- A timer whose slot a pending timer was moved from by a second start never fires. -/
theorem second_start_cuts_off_timer :
    ¬∀ (expiry : Nat → Expiry) (count : Nat) (before after : List TimerEvent) (timer : Nat)
      (expires : UInt64),
      Admissible step Orderly (initial expiry count) (before ++ .start timer expires :: after) →
      ¬(run step (initial expiry count) before).wheel.Pending timer →
      (∀ event ∈ after, ¬Concerns timer event) →
      let started := run step (initial expiry count) before
      let reached := run step (initial expiry count) (before ++ .start timer expires :: after)
      reached.FiresOnce started timer (started.count + expires.toNat) ∧ reached.EndsTick := by
  intro always
  obtain ⟨fires, -⟩ := always (fun _ => .event 0 0) 1 []
    [.start 2 1, .start 2 2, .tick, .advance, .tick, .advance, .advance] 1 1 (by decide)
    (by decide) (by decide)
  revert fires
  unfold FiresOnce
  decide

/-! ## Stopped timers -/

theorem not_pending_stopTimer (wheel : TimerWheel) (timer : Nat) :
    ¬(wheel.stopTimer timer).Pending timer := by
  rw [TimerWheel.stopTimer]
  split
  case isTrue => exact fun pending => pending.2.1 (update_self _ _ _)
  case isFalse idle => exact idle

theorem Fate.absent_of_cons {firing : Firing} {firings : List Firing}
    (fate : history.Fate lists rest timer due (firing :: firings)) :
    (∀ slot, timer ∉ lists slot) ∧ firings = [] := by
  cases fate with
  | fired absent => exact ⟨absent, rfl⟩

/-- A timer is in no list, and has not fired since an earlier point. -/
def Stopped (history earlier : TimerHistory) (timer : Nat) : Prop :=
  ∃ lists rest later, history.Walked lists rest ∧ history.fired = earlier.fired ++ later ∧
    (∀ slot, timer ∉ lists slot) ∧ (later.filter fun firing => firing.timer = timer) = []

theorem Sound.stopped (sound : history.Sound) (careful : history.Careful (.stop timer)) :
    (history.step (.stop timer)).Stopped history timer := by
  obtain ⟨lists, rest, walked⟩ := sound
  obtain ⟨rest', lists', -, walked', -⟩ := walked.carries_step careful
  rw [walked.step_eq, take, if_pos careful.1] at walked' ⊢
  exact ⟨lists', rest', [], walked', (List.append_nil _).symm,
    walked'.not_mem_of_not_pending (not_pending_stopTimer history.wheel timer), rfl⟩

theorem Stopped.step (stopped : history.Stopped earlier timer) (careful : history.Careful event)
    (notStarted : ∀ expires, event ≠ .start timer expires) :
    (history.step event).Stopped earlier timer := by
  obtain ⟨lists, rest, later, walked, fired, absent, silent⟩ := stopped
  by_cases again : event = .stop timer
  · subst again
    have stays : history.wheel.stopTimer timer = history.wheel := if_neg fun pending =>
      ((walked.linked.mem_iff timer).mpr ⟨pending.1, pending.2.2⟩).elim absent
    rw [walked.step_eq, take, if_pos careful.1, stays]
    exact ⟨lists, rest, later, walked, fired, absent, silent⟩
  · have other : ¬Concerns timer event := by
      cases event with
      | start other expires =>
        rintro rfl
        exact notStarted expires rfl
      | stop other =>
        rintro rfl
        exact again rfl
      | tick | advance => exact id
    obtain ⟨rest', lists', new, walked', fired', -, carries⟩ := walked.carries_step careful
    -- what is said of a timer that has fired holds of every timer that is in no list
    obtain ⟨absent', quiet⟩ := (carries timer 0 _ other (.fired absent)).absent_of_cons
    refine ⟨lists', rest', later ++ new, walked', ?_, absent', ?_⟩
    · rw [fired', fired, List.append_assoc]
    · rw [List.filter_append, silent]
      exact quiet

/-- Where callbacks start no pending timer, and none without a delay, and do not stop the timer that
the walk takes next: a timer that is stopped does not fire unless it is started again, and a timer
that is started and then neither started nor stopped fires once, at its deadline. -/
theorem callbacks_stop_and_start_timers (expiry : Nat → Expiry) (count : Nat)
    (before after : List TimerEvent) (event : TimerEvent) (timer : Nat)
    (careful : Admissible step Careful (initial expiry count) (before ++ event :: after)) :
    let point := run step (initial expiry count) before
    let reached := run step (initial expiry count) (before ++ event :: after)
    (event = .stop timer → (∀ expires, .start timer expires ∉ after) →
      reached.firingsSince point timer = []) ∧
    ∀ expires, event = .start timer expires → (∀ event ∈ after, ¬Concerns timer event) →
      reached.FiresOnce point timer (point.count + expires.toNat) ∧ reached.EndsTick := by
  intro point reached
  constructor
  · rintro rfl notStarted
    have splits : reached = run step (point.step (.stop timer)) after :=
      run_append step _ before _
    have later := careful.after_append
    have others : ∀ event ∈ after, ∀ expires, event ≠ .start timer expires := by
      rintro _ listed expires rfl
      exact notStarted expires listed
    obtain ⟨-, -, since, -, fired, -, silent⟩ : reached.Stopped point timer := by
      rw [splits]
      exact run_invariant (fun history : TimerHistory => history.Stopped point timer)
        (fun _ _ stopped careful => stopped.step careful.1 careful.2)
        ((sound_run expiry count before careful.of_append).stopped later.1)
        (later.2.and_of_forall_mem others)
    rw [firingsSince, fired, List.drop_left]
    exact silent
  · rintro expires rfl alone
    exact scheduled_run expiry count before after timer expires careful alone

/-- The callback of timer 3 stops timer 1, which is due at the same tick and not the next one. -/
theorem callback_stops_due_timer :
    let start := initial (fun _ => .callback 0) 1
    let before : List TimerEvent :=
      [.start 1 1, .start 2 1, .start 3 1, .tick, .advance, .tick, .advance]
    let reached := run step start (before ++ [.stop 1, .advance, .advance])
    reached.firingsSince (run step start before) 1 = [] ∧
      reached.fired.map Firing.timer = [3, 2] :=
  ⟨(callbacks_stop_and_start_timers (fun _ => .callback 0) 1
    [.start 1 1, .start 2 1, .start 3 1, .tick, .advance, .tick, .advance] [.advance, .advance]
    (.stop 1) 1 (by decide)).1 rfl (by simp), by decide⟩

/-- Nothing happens after a fault. -/
theorem run_of_faulted (faulted : history.wheel.heap.faulted = true) (events : List TimerEvent) :
    run step history events = history := by
  induction events with
  | nil => rfl
  | cons event events ih =>
    have stays : history.step event = history := if_pos faulted
    change run step (history.step event) events = history
    rw [stays, ih]

/-- Timers 3, 2 and 1 are due at the same tick, and the callback of timer 3 stops timer 2. The walk
goes on with timer 2, whose links are poisoned, and never comes to timer 1. -/
theorem stopped_timer_ends_the_program :
    ¬∀ (expiry : Nat → Expiry) (count : Nat) (before after : List TimerEvent) (timer : Nat)
      (expires : UInt64),
      Admissible step (fun history event => event matches .start .. → history.Careful event)
        (initial expiry count) (before ++ .start timer expires :: after) →
      (∀ event ∈ after, ¬Concerns timer event) →
      let started := run step (initial expiry count) before
      let reached := run step (initial expiry count) (before ++ .start timer expires :: after)
      reached.FiresOnce started timer (started.count + expires.toNat) ∧ reached.EndsTick := by
  intro always
  obtain ⟨-, steps, ended⟩ := always (fun _ => .callback 0) 1 []
    [.start 2 1, .start 3 1, .tick, .advance, .tick, .advance, .stop 2, .advance] 1 1 (by decide)
    (by decide)
  rw [run_of_faulted (by decide)] at ended
  revert ended
  decide

end TimerHistory

end OpenDove
