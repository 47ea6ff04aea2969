import OpenDove.IntrusiveLists
import OpenDove.Runs
import Mathlib.Data.Nat.ModEq

/-!
# The timer wheel

Pending timers hang in the slots of five vectors of growing interval. A tick walks the slot of the
first vector that its count names, and the slot of the next vector each time a vector overflows;
every timer of a walked slot is unlinked, and fires if it is due or is hashed again by the time that
is left. The walk keeps the next node while a callback runs, and the callback may start timers.

A timer with deadline `due` hangs in a slot of a vector with interval `i` that is walked at the tick
`i * (due / i)`, at the latest. The arithmetic of the vectors, of their overflows and of these
visits is at the end.
-/

namespace OpenDove

/-- The vectors of `tvec_base`. -/
inductive Tvec where
  | tv1
  | tv2
  | tv3
  | tv4
  | tv5
  deriving DecidableEq, Repr

namespace Tvec

/-- `TV1_SIZE` to `TV5_SIZE`. -/
def size : Tvec → UInt64
  | tv1 => 64
  | tv2 | tv3 | tv4 | tv5 => 16

/-- `TV1_OFFSET` to `TV5_OFFSET`. -/
def offset : Tvec → UInt64
  | tv1 => 64
  | tv2 => 1024
  | tv3 => 16384
  | tv4 => 262144
  | tv5 => 4194304

/-- `TV1_INTERVAL` to `TV5_INTERVAL`. -/
def interval : Tvec → UInt64
  | tv1 => 1
  | tv2 => 64
  | tv3 => 1024
  | tv4 => 16384
  | tv5 => 262144

/-- The vector that a tick processes when this one overflows. -/
def overflow : Tvec → Option Tvec
  | tv1 => some tv2
  | tv2 => some tv3
  | tv3 => some tv4
  | tv4 => some tv5
  | tv5 => none

/-- The place of a vector in the order in which a tick processes them. -/
def rank : Tvec → Nat
  | tv1 => 1
  | tv2 => 2
  | tv3 => 3
  | tv4 => 4
  | tv5 => 5

end Tvec

/-- A list head of the wheel. -/
structure Slot where
  vec : Tvec
  index : UInt64
  deriving DecidableEq, Repr

/-- The slot of a vector for a moment. -/
def slotAt (vec : Tvec) (moment : UInt64) : Slot :=
  ⟨vec, moment / vec.interval % vec.size⟩

/-- The vector for the time that is left until a deadline. -/
def vectorFor (offset : UInt64) : Tvec :=
  if offset < Tvec.tv1.offset then .tv1
  else if offset < Tvec.tv2.offset then .tv2
  else if offset < Tvec.tv3.offset then .tv3
  else if offset < Tvec.tv4.offset then .tv4
  else .tv5

/-- What a timer does when it expires, as `create_timer` was told: call back or send an event to a
task. -/
inductive Expiry where
  | callback (data : UInt64)
  | event (tid : Nat) (event : UInt32)
  deriving DecidableEq, Repr

/-- Where the timer thread is: between ticks, or in the walk of a slot with the saved next node. A
callback may be running. -/
inductive TimerPhase where
  | idle
  | tvec (vec : Tvec) (hnode : Link Nat) (calling : Bool)
  deriving DecidableEq, Repr

/-- The node that a walk takes next. -/
def TimerPhase.saved : TimerPhase → Link Nat
  | .idle => .null
  | .tvec _ hnode _ => hnode

/-- `tvec_base` and the timers, with the position of the timer thread. -/
structure TimerWheel where
  ticks : UInt64
  heap : LinkHeap Nat Slot
  expires : Nat → UInt64
  expiry : Nat → Expiry
  phase : TimerPhase

/-- The expiry of a timer during the processing of a tick. -/
structure Firing where
  tick : Nat
  timer : Nat
  expiry : Expiry
  deriving DecidableEq, Repr

/-- A wheel with the number of ticks that have been processed, which does not wrap, and the timers
that have fired. -/
structure TimerHistory where
  wheel : TimerWheel
  count : Nat
  fired : List Firing

/-- What the threads do: a start or a stop takes the lock, a tick begins, and the timer thread goes
on with the tick. -/
inductive TimerEvent where
  | start (timer : Nat) (expires : UInt64)
  | stop (timer : Nat)
  | tick
  | advance
  deriving DecidableEq, Repr

namespace TimerWheel

variable (wheel : TimerWheel) (timer : Nat)

/-- The lock can be taken: between ticks, or by the callback that the timer thread runs. -/
def Available : Prop :=
  match wheel.phase with
  | .idle => True
  | .tvec _ _ calling => calling = true

instance (wheel : TimerWheel) : Decidable wheel.Available := by
  unfold Available
  cases wheel.phase <;> infer_instance

/-- The test of `stop_timer` for a timer that is in a list. -/
def Pending : Prop :=
  wheel.heap.pprevious timer ≠ .null ∧ wheel.heap.next timer ≠ .poison ∧
    wheel.heap.pprevious timer ≠ .poison

instance (wheel : TimerWheel) (timer : Nat) : Decidable (wheel.Pending timer) :=
  inferInstanceAs (Decidable (_ ∧ _))

def addTimer : TimerWheel :=
  let expires := wheel.expires timer
  let offset := expires - wheel.ticks
  { wheel with heap := wheel.heap.headAdd (slotAt (vectorFor offset) expires) timer }

def startTimerInternal (expires : UInt64) : TimerWheel :=
  { wheel with
    expires := Function.update wheel.expires timer (expires + wheel.ticks) }.addTimer timer

def stopTimer : TimerWheel :=
  if wheel.Pending timer then { wheel with heap := wheel.heap.nodeRemove timer } else wheel

/-- The walk of a slot begins. -/
def processTvec (vec : Tvec) : TimerWheel :=
  { wheel with phase := .tvec vec (wheel.heap.first (slotAt vec wheel.ticks)) false }

/-- The walk of a slot is over: the next vector is processed if this one overflows, and otherwise
the tick ends. -/
def endTvec (vec : Tvec) : TimerWheel :=
  match vec.overflow with
  | some next =>
    if (slotAt vec wheel.ticks).index = 0 then wheel.processTvec next
    else { wheel with ticks := wheel.ticks + 1, phase := .idle }
  | none => { wheel with ticks := wheel.ticks + 1, phase := .idle }

end TimerWheel

namespace TimerHistory

def initial (expiry : Nat → Expiry) (count : Nat) : TimerHistory where
  wheel :=
    { ticks := UInt64.ofNat count
      heap := .empty
      expires := fun _ => 0
      expiry := expiry
      phase := .idle }
  count := count
  fired := []

variable (history : TimerHistory)

/-- A timer of the walked slot is unlinked, and fires or is added again. A timer that is in no list
cannot be unlinked. -/
def processTimer (vec : Tvec) (timer : Nat) : TimerHistory :=
  let wheel := history.wheel
  let hnode := wheel.heap.next timer
  let removed := { wheel with heap := wheel.heap.nodeRemove timer }
  if removed.heap.faulted then { history with wheel := removed }
  else if wheel.expires timer - wheel.ticks = 0 then
    let calling := match wheel.expiry timer with
      | .callback _ => true
      | .event _ _ => false
    { history with
      wheel := { removed with phase := .tvec vec hnode calling }
      fired := history.fired ++ [⟨history.count, timer, wheel.expiry timer⟩] }
  else
    { history with wheel := { removed.addTimer timer with phase := .tvec vec hnode false } }

/-- The timer thread goes on: a running callback returns, and the walk takes its next node or ends.
A walk that meets a poisoned link reads through it. -/
def advance : TimerHistory :=
  match history.wheel.phase with
  | .idle => history
  | .tvec vec (.node timer) _ => history.processTimer vec timer
  | .tvec _ .poison _ =>
    { history with
      wheel := { history.wheel with heap := { history.wheel.heap with faulted := true } } }
  | .tvec vec .null _ =>
    let wheel := history.wheel.endTvec vec
    { history with
      wheel := wheel
      count := if wheel.phase = .idle then history.count + 1 else history.count }

/-- What an event does. A start and a stop wait while the lock is taken. -/
def take : TimerEvent → TimerHistory
  | .start timer expires =>
    if history.wheel.Available then
      { history with wheel := history.wheel.startTimerInternal timer expires }
    else history
  | .stop timer =>
    if history.wheel.Available then { history with wheel := history.wheel.stopTimer timer }
    else history
  | .tick =>
    if history.wheel.phase = .idle then { history with wheel := history.wheel.processTvec .tv1 }
    else history
  | .advance => history.advance

/-- After a fault the program is gone. -/
def step (event : TimerEvent) : TimerHistory :=
  if history.wheel.heap.faulted then history else history.take event

/-- Timers are started between ticks, or from a callback with a delay, and stopped between ticks. -/
def Orderly : TimerEvent → Prop
  | .start _ expires =>
    history.wheel.Available ∧ (history.wheel.phase ≠ .idle → expires ≠ 0)
  | .stop _ => history.wheel.phase = .idle
  | .tick | .advance => True

/-- Moreover, no pending timer is started. -/
def Meets (event : TimerEvent) : Prop :=
  history.Orderly event ∧
    match event with
    | .start timer _ => ¬history.wheel.Pending timer
    | .stop _ | .tick | .advance => True

/-- Timers that are not pending are started, from a callback with a delay, and a callback stops any
timer but the one that the walk takes next. -/
def Careful : TimerEvent → Prop
  | .start timer expires => history.wheel.Available ∧
    (history.wheel.phase ≠ .idle → expires ≠ 0) ∧ ¬history.wheel.Pending timer
  | .stop timer => history.wheel.Available ∧ history.wheel.phase.saved ≠ .node timer
  | .tick | .advance => True

instance (history : TimerHistory) (event : TimerEvent) : Decidable (history.Careful event) := by
  cases event <;> unfold Careful <;> infer_instance

theorem Meets.careful {history : TimerHistory} {event : TimerEvent} (meets : history.Meets event) :
    history.Careful event := by
  cases event with
  | start timer expires => exact ⟨meets.1.1, meets.1.2, meets.2⟩
  | stop timer =>
    have idle : history.wheel.phase = .idle := meets.1
    unfold Careful TimerWheel.Available
    rw [idle]
    exact ⟨True.intro, nofun⟩
  | tick | advance => exact True.intro

instance (history : TimerHistory) (event : TimerEvent) : Decidable (history.Orderly event) := by
  cases event <;> unfold Orderly <;> infer_instance

instance (history : TimerHistory) (event : TimerEvent) : Decidable (history.Meets event) := by
  cases event <;> unfold Meets <;> infer_instance

/-- An event starts or stops a timer. -/
def Concerns (timer : Nat) : TimerEvent → Prop
  | .start other _ | .stop other => other = timer
  | .tick | .advance => False

instance (timer : Nat) (event : TimerEvent) : Decidable (Concerns timer event) := by
  cases event <;> unfold Concerns <;> infer_instance

/-- The expiries of a timer since an earlier point of the history. -/
def firingsSince (earlier : TimerHistory) (timer : Nat) : List Firing :=
  (history.fired.drop earlier.fired.length).filter fun firing => firing.timer = timer

/-- Since an earlier point, a timer has fired once, during the processing of the tick at which it is
due, or it has not fired and this tick has not passed. -/
def FiresOnce (earlier : TimerHistory) (timer due : Nat) : Prop :=
  history.firingsSince earlier timer = [⟨due, timer, history.wheel.expiry timer⟩] ∨
    history.firingsSince earlier timer = [] ∧ history.count ≤ due

/-- The timer thread comes to the end of the tick. -/
def EndsTick : Prop :=
  ∃ steps, (run step history (List.replicate steps .advance)).wheel.phase = .idle

end TimerHistory

namespace Tvec

/-- The tick at which the slot of a deadline is walked, at the latest. -/
def visit (vec : Tvec) (due : Nat) : Nat :=
  vec.interval.toNat * (due / vec.interval.toNat)

variable (vec : Tvec)

theorem interval_pos : 0 < vec.interval.toNat := by
  cases vec <;> decide

theorem visit_le (due : Nat) : vec.visit due ≤ due :=
  Nat.mul_div_le due vec.interval.toNat

theorem interval_dvd_visit (due : Nat) : vec.interval.toNat ∣ vec.visit due :=
  Nat.dvd_mul_right _ _

/-- A deadline that is a whole interval away is visited later. -/
theorem lt_visit {vec : Tvec} {count due : Nat} (away : count + vec.interval.toNat ≤ due) :
    count < vec.visit due := by
  have later := Nat.lt_mul_div_succ due vec.interval_pos
  have distributed : vec.interval.toNat * (due / vec.interval.toNat + 1) =
      vec.visit due + vec.interval.toNat := Nat.mul_succ _ _
  omega

/-- The intervals of the vectors divide one another in their order. -/
theorem interval_dvd_interval {vec other : Tvec} (ordered : vec.rank ≤ other.rank) :
    vec.interval.toNat ∣ other.interval.toNat := by
  revert ordered
  cases vec <;> cases other <;> decide

theorem rank_overflow {vec next : Tvec} (overflows : vec.overflow = some next) :
    next.rank = vec.rank + 1 := by
  cases vec <;> cases overflows <;> rfl

theorem rank_le_of_overflow_none {vec : Tvec} (last : vec.overflow = none) (other : Tvec) :
    other.rank ≤ vec.rank := by
  cases vec <;> cases last
  cases other <;> decide

theorem eq_of_rank_eq {vec other : Tvec} (same : vec.rank = other.rank) : vec = other := by
  revert same
  cases vec <;> cases other <;> decide

end Tvec

theorem toNat_index (vec : Tvec) (moment : Nat) :
    (slotAt vec (UInt64.ofNat moment)).index.toNat =
      moment / vec.interval.toNat % vec.size.toNat := by
  simp only [slotAt, UInt64.toNat_mod, UInt64.toNat_div, UInt64.toNat_ofNat']
  cases vec <;> simp only [Tvec.interval, Tvec.size, UInt64.reduceToNat] <;> omega

/-- A vector overflows exactly at the ticks that the next interval divides. -/
theorem index_eq_zero_iff {vec next : Tvec} (overflows : vec.overflow = some next) {count : Nat}
    (divides : vec.interval.toNat ∣ count) :
    (slotAt vec (UInt64.ofNat count)).index = 0 ↔ next.interval.toNat ∣ count := by
  rw [← UInt64.toNat_inj, toNat_index]
  obtain ⟨quotient, rfl⟩ := divides
  cases vec <;> cases overflows <;>
    simp only [Tvec.interval, Tvec.size, UInt64.reduceToNat, UInt64.toNat_zero] <;> omega

/-- A timer hangs in the slot that is walked at its visit. -/
theorem slotAt_visit (vec : Tvec) (due : Nat) :
    slotAt vec (UInt64.ofNat (vec.visit due)) = slotAt vec (UInt64.ofNat due) := by
  have same : (slotAt vec (UInt64.ofNat (vec.visit due))).index =
      (slotAt vec (UInt64.ofNat due)).index := by
    rw [← UInt64.toNat_inj, toNat_index, toNat_index, Tvec.visit,
      Nat.mul_div_cancel_left _ vec.interval_pos]
  exact congrArg (Slot.mk vec) same

/-- The vector of a delay is one whose interval is not longer than the delay. -/
theorem interval_vectorFor_le {offset : UInt64} (positive : offset ≠ 0) :
    (vectorFor offset).interval.toNat ≤ offset.toNat := by
  have positive' : 0 < offset.toNat :=
    Nat.pos_of_ne_zero fun zero => positive (UInt64.toNat_inj.mp zero)
  simp only [vectorFor, UInt64.lt_iff_toNat_lt, Tvec.offset, UInt64.reduceToNat]
  split_ifs <;> simp only [Tvec.interval, UInt64.reduceToNat] <;> omega

/-! ## The loop that makes the ticks -/

structure TimeVal where
  tvSec : Nat
  tvUsec : Nat
  deriving DecidableEq

def TimeVal.usecs (time : TimeVal) : Nat := time.tvSec * 1000000 + time.tvUsec

/-- `COMPUTE_ELAPSED_TIME`, whose cases fall through. -/
def computeElapsedTime (tv1 tv2 : TimeVal) : Int :=
  let deltaSec : Int := tv1.tvSec - tv2.tvSec
  let deltaUsec : Int := tv1.tvUsec - tv2.tvUsec
  if deltaSec = 2 then deltaUsec + 1000000 + 1000000
  else if deltaSec = 1 then deltaUsec + 1000000
  else if deltaSec = 0 then deltaUsec
  else deltaSec * 1000000 + deltaUsec

/-- `MSEC_PER_TICK`. -/
def msecPerTick : Nat := 100

def usecPerTick : Nat := 1000 * msecPerTick

theorem usecPerTick_pos : 0 < usecPerTick := by decide

/-- The variables of `timer_main`, whose sums have 64 bits, with the number of calls of
`process_tick`. -/
structure TickLoop where
  last : TimeVal := ⟨0, 0⟩
  totalElapsedUsec : Nat := 0
  totalTicks : Nat := 0
  processed : Nat := 0

namespace TickLoop

/-- One loop of `timer_main`, with what `gettimeofday` returns. -/
def timerMain (loop : TickLoop) (cur : TimeVal) : TickLoop :=
  let last := if loop.last = ⟨0, 0⟩ then cur else loop.last
  let elapsedUsec := (computeElapsedTime cur last % 18446744073709551616).toNat
  let ticks := elapsedUsec / usecPerTick
  let totalElapsedUsec := (loop.totalElapsedUsec + elapsedUsec) % 18446744073709551616
  let realTotalTicks := totalElapsedUsec / usecPerTick
  let totalTicks := (loop.totalTicks + ticks) % 18446744073709551616
  if realTotalTicks ≠ totalTicks then
    { last := cur
      processed := loop.processed +
        (ticks + (realTotalTicks + 18446744073709551616 - totalTicks)) % 18446744073709551616 }
  else { last := cur, totalElapsedUsec, totalTicks, processed := loop.processed + ticks }

/-- The clock does not go back, the sum does not wrap, and what was left over of a tick and what the
interval has over whole ticks are not more than a tick together. More would be lost with the
correction. -/
def LosesNothing (loop : TickLoop) (cur : TimeVal) : Prop :=
  0 < cur.usecs ∧ loop.last.usecs ≤ cur.usecs ∧
    loop.totalElapsedUsec + (cur.usecs - loop.last.usecs) < 18446744073709551616 ∧
    loop.totalElapsedUsec % usecPerTick +
      (cur.usecs - loop.last.usecs) % usecPerTick ≤ usecPerTick

instance (loop : TickLoop) (cur : TimeVal) : Decidable (loop.LosesNothing cur) :=
  inferInstanceAs (Decidable (_ ∧ _))

theorem computeElapsedTime_eq (tv1 tv2 : TimeVal) :
    computeElapsedTime tv1 tv2 = tv1.usecs - tv2.usecs := by
  unfold computeElapsedTime TimeVal.usecs
  grind

/-- The ticks processed and what is left over are the time since the first reading. -/
structure Exact (first : TimeVal) (loop : TickLoop) : Prop where
  started : 0 < first.usecs
  total : loop.totalTicks = loop.totalElapsedUsec / usecPerTick
  elapsed : first.usecs + loop.processed * usecPerTick + loop.totalElapsedUsec % usecPerTick =
    loop.last.usecs

theorem Exact.timerMain {first cur : TimeVal} {loop : TickLoop} (exact : Exact first loop)
    (keeps : loop.LosesNothing cur) : Exact first (loop.timerMain cur) := by
  obtain ⟨positive, total, elapsed⟩ := exact
  obtain ⟨-, ordered, small, fits⟩ := keeps
  have started : loop.last ≠ ⟨0, 0⟩ := by
    intro zero
    have none : loop.last.usecs = 0 := congrArg TimeVal.usecs zero
    omega
  obtain ⟨interval, next⟩ := Nat.exists_eq_add_of_le ordered
  rw [next, Nat.add_sub_cancel_left] at small fits
  have between : (computeElapsedTime cur loop.last % 18446744073709551616).toNat = interval := by
    rw [computeElapsedTime_eq, next]
    omega
  have whole := Nat.div_add_mod interval usecPerTick
  have few : loop.totalElapsedUsec / usecPerTick + interval / usecPerTick ≤
      loop.totalElapsedUsec + interval := Nat.div_add_div_le_add_div.trans (Nat.div_le_self _ _)
  simp only [TickLoop.timerMain, if_neg started, between, total, Nat.mod_eq_of_lt small,
    Nat.mod_eq_of_lt (few.trans_lt small)]
  obtain within | carried := Nat.lt_or_eq_of_le fits
  · have sum := Nat.add_div_eq_of_add_mod_lt within
    have left := Nat.add_mod_of_add_mod_lt within
    rw [if_neg (not_not.mpr sum)]
    refine ⟨positive, sum.symm, ?_⟩
    simp only [next, left, Nat.mul_comm _ usecPerTick, Nat.mul_add] at elapsed ⊢
    omega
  · have sum := Nat.add_div_eq_of_le_mod_add_mod carried.ge usecPerTick_pos
    have fewer := Nat.div_le_self (loop.totalElapsedUsec + interval) usecPerTick
    have corrected (ticks total : Nat) (few : ticks + 1 < 18446744073709551616) :
        (ticks + (total + 1 + 18446744073709551616 - total)) % 18446744073709551616 =
          ticks + 1 := by omega
    rw [if_pos (by omega), sum, corrected _ _ (by omega)]
    refine ⟨positive, (Nat.zero_div _).symm, ?_⟩
    simp only [next, Nat.zero_mod, Nat.mul_comm _ usecPerTick, Nat.mul_add] at elapsed ⊢
    omega

/-- In every run that loses nothing to the corrections the number of ticks processed is that of the
whole ticks since the first reading. -/
theorem ticks_do_not_drift (first : TimeVal) (readings : List TimeVal)
    (keeps : Admissible timerMain LosesNothing {} (first :: readings)) :
    let loop := run timerMain {} (first :: readings)
    loop.processed = (loop.last.usecs - first.usecs) / usecPerTick := by
  intro loop
  have start : Exact first (timerMain {} first) := by
    have none : computeElapsedTime first first = 0 := by rw [computeElapsedTime_eq, Int.sub_self]
    simp only [TickLoop.timerMain, if_true, none, Int.zero_emod, Int.toNat_zero, Nat.add_zero,
      Nat.zero_div, Nat.zero_mod, ne_eq, not_true_eq_false, if_false]
    exact ⟨keeps.1.1, (Nat.zero_div _).symm, by simp⟩
  have exact : Exact first (run timerMain (timerMain {} first) readings) :=
    run_invariant (Exact first) (fun _ _ exact keeps => exact.timerMain keeps) start keeps.2
  rw [← show first.usecs + loop.processed * _ + _ = loop.last.usecs from exact.elapsed,
    Nat.add_assoc, Nat.add_sub_cancel_left, Nat.add_comm, Nat.add_mul_div_right _ _ usecPerTick_pos,
    Nat.div_eq_of_lt (Nat.mod_lt _ usecPerTick_pos), Nat.zero_add]

/-- Intervals of two and a half ticks are corrected every second time. -/
theorem half_ticks_do_not_drift :
    let readings : List TimeVal := [⟨1, 250000⟩, ⟨1, 500000⟩, ⟨1, 750000⟩]
    Admissible timerMain LosesNothing {} (⟨1, 0⟩ :: readings) ∧
      (run timerMain {} (⟨1, 0⟩ :: readings)).processed = 7 :=
  have keeps : Admissible timerMain LosesNothing {} _ := by decide
  ⟨keeps, (ticks_do_not_drift ⟨1, 0⟩ [⟨1, 250000⟩, ⟨1, 500000⟩, ⟨1, 750000⟩] keeps).trans
    (by decide)⟩

/-- Intervals of 199 milliseconds lose 98 of them with every correction. -/
theorem ticks_drift :
    ¬ ∀ (first : TimeVal) (readings : List TimeVal),
      List.IsChain (fun earlier later => earlier.usecs ≤ later.usecs) (first :: readings) →
      let loop := run timerMain {} (first :: readings)
      let whole := (loop.last.usecs - first.usecs) / usecPerTick
      loop.processed ≤ whole + 1 ∧ whole ≤ loop.processed + 1 := by
  intro close
  have within := close ⟨1, 0⟩ [⟨1, 199000⟩, ⟨1, 398000⟩, ⟨1, 597000⟩, ⟨1, 796000⟩, ⟨1, 995000⟩,
    ⟨2, 194000⟩] (by simp [TimeVal.usecs])
  revert within
  decide

end TickLoop

end OpenDove
