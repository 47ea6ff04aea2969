import OpenDove.ByteStreams
import OpenDove.RingBuffers
import OpenDove.Runs
import Mathlib.Data.List.GetD

/-!
# The message queue

A queue keeps up to `msg_num` messages of at most `msg_len` bytes in a ring of slots. A send copies
its message into the next free slot or fails when there is none; a receive copies the oldest slot
out. A receive finds an empty queue in one of three ways: it fails at once, it waits on the
condition variable and looks again after every wake-up, or it waits until a deadline and takes the
oldest slot after any return of the wait that is not a timeout.

Each step below is what a thread does while it holds the lock of the queue. A waiting thread may be
woken up at any time, by a signal or without one, and a thread that waits until a deadline may time
out at any time. A slot keeps the bytes of earlier messages behind a shorter one, and no length is
stored, so a receiver gets the message as the beginning of what it asked for.
-/

namespace OpenDove

/-- `queue_info`, without its name and its place in the list of queues. -/
structure MessageQueue where
  msgLen : Nat
  msgNum : Nat
  buffer : Memory
  writeIndex : Nat
  readIndex : Nat
  availNum : Nat

/-- A thread in the condition wait of `queue_receive`: the number of bytes it asked for, and whether
it waits until a deadline. -/
structure Waiter where
  msgLen : Nat
  timed : Bool
  deriving DecidableEq, Repr

/-- A queue and the threads that wait for a message of it. -/
structure QueueSystem where
  queue : MessageQueue
  waiting : Nat → Option Waiter

/-- What a thread does while it holds the lock. A receive is given the clock it may read. -/
inductive QueueEvent where
  | send (msg : List UInt8)
  | receive (thread : Nat) (msgLen : Nat) (timeout : Int) (tvUsec : Nat)
  | wake (thread : Nat)
  | timeOut (thread : Nat)
  deriving DecidableEq, Repr

/-- How a step ends for its caller. -/
inductive QueueResult where
  | sent
  | received (bytes : List UInt8)
  | error
  | blocked
  deriving DecidableEq, Repr

/-- The bytes copied to a position of a memory. -/
def copyTo (memory : Memory) (position : Nat) (bytes : List UInt8) : Memory := fun address =>
  if position ≤ address then bytes.getD (address - position) (memory address) else memory address

/-- The bytes copied from a position of a memory. -/
def copyFrom (memory : Memory) (position count : Nat) : List UInt8 :=
  (List.range count).map fun index => memory (position + index)

namespace MessageQueue

/-- `create_queue`. The bytes of the new buffer are whatever was there. -/
def create (msgLen msgNum : UInt32) (buffer : Memory) : MessageQueue :=
  { msgLen := msgLen.toNat, msgNum := msgNum.toNat, buffer, writeIndex := 0, readIndex := 0,
    availNum := 0 }

/-- The position of a slot, computed with unsigned integers. -/
def slot (queue : MessageQueue) (index : Nat) : Nat := index * queue.msgLen % 2 ^ 32

/-- `queue_send`, with whether it succeeded. -/
def send (queue : MessageQueue) (msg : List UInt8) : MessageQueue × QueueResult :=
  if msg.length > queue.msgLen then (queue, .error)
  else if queue.availNum ≥ queue.msgNum then (queue, .error)
  else
    ({ queue with
        buffer := copyTo queue.buffer (queue.slot queue.writeIndex) msg
        writeIndex := (queue.writeIndex + 1) % queue.msgNum
        availNum := (queue.availNum + 1) % 2 ^ 32 }, .sent)

/-- The end of `queue_receive`: the oldest slot is copied out, whether or not it holds a message. -/
def takeOldest (queue : MessageQueue) (msgLen : Nat) : MessageQueue × QueueResult :=
  ({ queue with
      readIndex := (queue.readIndex + 1) % queue.msgNum
      availNum := (queue.availNum + (2 ^ 32 - 1)) % 2 ^ 32 },
    .received (copyFrom queue.buffer (queue.slot queue.readIndex) (min msgLen queue.msgLen)))

end MessageQueue

namespace QueueSystem

/-- `OSW_NO_WAIT`. -/
def noWait : Int := 0

/-- `OSW_WAIT` as an integer. -/
def wait : Int := -1

/-- The nanoseconds of the deadline. -/
def deadlineNsec (timeout : Int) (tvUsec : Nat) : Nat :=
  let usec := ((tvUsec + timeout * 1000) % 2 ^ 32).toNat
  (if usec > 1000000 then usec % 1000000 else usec) * 1000

variable (system : QueueSystem) (thread : Nat)

/-- The thread waits on the condition variable. -/
def block (waiter : Waiter) : QueueSystem × QueueResult :=
  ({ system with waiting := Function.update system.waiting thread (some waiter) }, .blocked)

/-- The thread leaves `queue_receive` with a slot. -/
def take (msgLen : Nat) : QueueSystem × QueueResult :=
  ({ queue := (system.queue.takeOldest msgLen).1
     waiting := Function.update system.waiting thread none },
    (system.queue.takeOldest msgLen).2)

/-- `queue_receive` up to its first wait. The wait refuses a deadline whose nanoseconds are not less
than a second, with a result that is not a timeout. -/
def receive (msgLen : Nat) (timeout : Int) (tvUsec : Nat) : QueueSystem × QueueResult :=
  if (system.waiting thread).isSome then (system, .blocked)
  else if timeout = noWait then
    if system.queue.availNum = 0 then (system, .error) else system.take thread msgLen
  else if timeout = wait then
    if system.queue.availNum = 0 then system.block thread { msgLen, timed := false }
    else system.take thread msgLen
  else if system.queue.availNum = 0 then
    if deadlineNsec timeout tvUsec < 1000000000 then
      system.block thread { msgLen, timed := true }
    else system.take thread msgLen
  else system.take thread msgLen

/-- The return of a condition wait without a timeout: `pthread_cond_wait` is in a loop that tests
for messages, `pthread_cond_timedwait` is not. -/
def wake : QueueSystem × QueueResult :=
  match system.waiting thread with
  | none => (system, .blocked)
  | some waiter =>
    if waiter.timed then system.take thread waiter.msgLen
    else if system.queue.availNum = 0 then (system, .blocked)
    else system.take thread waiter.msgLen

/-- The return of a condition wait with a timeout. -/
def timeOut : QueueSystem × QueueResult :=
  match system.waiting thread with
  | none => (system, .blocked)
  | some waiter =>
    if waiter.timed then
      ({ system with waiting := Function.update system.waiting thread none }, .error)
    else (system, .blocked)

/-- A step and how it ends. -/
def next : QueueEvent → QueueSystem × QueueResult
  | .send msg =>
    ({ system with queue := (system.queue.send msg).1 }, (system.queue.send msg).2)
  | .receive thread msgLen timeout tvUsec => system.receive thread msgLen timeout tvUsec
  | .wake thread => system.wake thread
  | .timeOut thread => system.timeOut thread

end QueueSystem

/-- The system with the messages of the successful sends, in their order, and the number of
successful receives. -/
structure QueueHistory where
  system : QueueSystem
  sent : List (List UInt8)
  received : Nat

namespace QueueHistory

/-- A new queue that no thread waits for. -/
def start (msgLen msgNum : UInt32) (buffer : Memory) : QueueHistory :=
  { system := { queue := MessageQueue.create msgLen msgNum buffer, waiting := fun _ => none }
    sent := [], received := 0 }

/-- The message of a send that succeeded. -/
def sentBy : QueueEvent → QueueResult → List (List UInt8)
  | .send msg, .sent => [msg]
  | _, _ => []

/-- One for a receive that succeeded. -/
def receivedBy : QueueResult → Nat
  | .received _ => 1
  | _ => 0

variable (history : QueueHistory)

/-- The history after one more step. -/
def step (event : QueueEvent) : QueueHistory where
  system := (history.system.next event).1
  sent := history.sent ++ sentBy event (history.system.next event).2
  received := history.received + receivedBy (history.system.next event).2

/-- The queue holds the messages that were sent and not received, at most `msg_num` of them. -/
def Bounded : Prop :=
  history.received + history.system.queue.availNum = history.sent.length ∧
    history.system.queue.availNum ≤ history.system.queue.msgNum

/-- A step of a bounded queue that is first in, first out: a successful receive gets the oldest
message that was sent and not received. -/
def Honours (event : QueueEvent) : Prop :=
  (history.step event).Bounded ∧
    ∀ bytes, (history.system.next event).2 = .received bytes →
      ∃ message, history.sent[history.received]? = some message ∧
        bytes.take message.length = message.take bytes.length

/-- A wait until a deadline does not return without a timeout while the queue is empty, neither at
once because the deadline is refused nor later. -/
def Meets : QueueEvent → Prop
  | .receive thread _ timeout tvUsec =>
    history.system.waiting thread = none → history.system.queue.availNum = 0 →
      timeout ≠ QueueSystem.noWait → timeout ≠ QueueSystem.wait →
      QueueSystem.deadlineNsec timeout tvUsec < 1000000000
  | .wake thread =>
    (history.system.waiting thread).any Waiter.timed → history.system.queue.availNum ≠ 0
  | .send _ | .timeOut _ => True

instance (history : QueueHistory) (event : QueueEvent) : Decidable (history.Meets event) := by
  cases event <;> unfold Meets <;> infer_instance

end QueueHistory

theorem holds_copyTo (memory : Memory) (position : Nat) (bytes : List UInt8) :
    Holds (copyTo memory position bytes) position bytes := by
  intro index inside
  have above : position ≤ position + index := Nat.le_add_right position index
  rw [copyTo, if_pos above, Nat.add_sub_cancel_left]
  exact List.getD_eq_getElem bytes _ inside

variable {event : QueueEvent} {message msg : List UInt8} {queue : MessageQueue}
  {position index : Nat} {history : QueueHistory} {memory : Memory}

/-- Bytes that lie before or behind the copied ones stay. -/
theorem Holds.copyTo {other : Nat} {bytes : List UInt8} (held : Holds memory other message)
    (apart : other + message.length ≤ position ∨ position + bytes.length ≤ other) :
    Holds (copyTo memory position bytes) other message := by
  intro index inside
  rw [← held index inside, OpenDove.copyTo]
  by_cases above : position ≤ other + index
  · rw [if_pos above]
    exact List.getD_eq_default bytes _ (by omega)
  · rw [if_neg above]

/-- What is copied from a message that lies in memory begins as the message does. -/
theorem take_copyFrom (held : Holds memory position message) (count : Nat) :
    (copyFrom memory position count).take message.length =
      message.take (copyFrom memory position count).length := by
  apply List.ext_getElem
  · simp only [List.length_take]
    omega
  · intro index left right
    simp only [List.length_take, lt_inf_iff] at left
    simp only [copyFrom, List.getElem_take, List.getElem_map, List.getElem_range]
    exact held index left.1

namespace MessageQueue

/-- A slot holds a message at its beginning. -/
def HoldsAt (queue : MessageQueue) (index : Nat) (message : List UInt8) : Prop :=
  message.length ≤ queue.msgLen ∧ Holds queue.buffer (queue.slot index) message

/-- The slots of a buffer whose size is an unsigned integer lie one behind another. -/
theorem slot_eq (fits : queue.msgLen * queue.msgNum < 2 ^ 32) (bound : index < queue.msgNum) :
    queue.slot index = index * queue.msgLen := by
  refine Nat.mod_eq_of_lt (lt_of_le_of_lt ?_ fits)
  rw [Nat.mul_comm]
  exact Nat.mul_le_mul_left _ bound.le

/-- A message that is copied into one slot leaves the other slots alone. -/
theorem holdsAt_copyTo (fits : queue.msgLen * queue.msgNum < 2 ^ 32) {place : Nat}
    (short : msg.length ≤ queue.msgLen) (placeBound : place < queue.msgNum)
    (indexBound : index < queue.msgNum) (apart : index ≠ place)
    (held : queue.HoldsAt index message) :
    Holds (copyTo queue.buffer (queue.slot place) msg) (queue.slot index) message := by
  refine held.2.copyTo ?_
  rw [slot_eq fits placeBound, slot_eq fits indexBound]
  have length := held.1
  rcases lt_or_gt_of_ne apart with before | behind
  · left
    calc index * queue.msgLen + message.length ≤ index * queue.msgLen + queue.msgLen := by omega
      _ = (index + 1) * queue.msgLen := (Nat.succ_mul index queue.msgLen).symm
      _ ≤ place * queue.msgLen := Nat.mul_le_mul_right _ before
  · right
    calc place * queue.msgLen + msg.length ≤ place * queue.msgLen + queue.msgLen := by omega
      _ = (place + 1) * queue.msgLen := (Nat.succ_mul place queue.msgLen).symm
      _ ≤ index * queue.msgLen := Nat.mul_le_mul_right _ behind

end MessageQueue

namespace QueueHistory

open QueueSystem

/-- What a step can be: it leaves the queue as it is, it sends a message, or it takes a slot, and it
takes the slot of an empty queue exactly when it does not meet the condition. -/
inductive Kind (history : QueueHistory) (event : QueueEvent) : Prop where
  | quiet (same : (history.system.next event).1.queue = history.system.queue)
      (noSend : sentBy event (history.system.next event).2 = [])
      (noReceive : ∀ bytes, (history.system.next event).2 ≠ .received bytes)
      (meets : history.Meets event)
  | sends (msg : List UInt8) (short : msg.length ≤ history.system.queue.msgLen)
      (room : history.system.queue.availNum < history.system.queue.msgNum) (is : event = .send msg)
  | takes (msgLen : Nat)
      (taken : ((history.system.next event).1.queue, (history.system.next event).2) =
        history.system.queue.takeOldest msgLen)
      (noSend : ∀ msg, event ≠ .send msg)
      (exact : history.Meets event ↔ history.system.queue.availNum ≠ 0)

theorem Kind.of_take (thread msgLen : Nat)
    (is : history.system.next event = history.system.take thread msgLen)
    (noSend : ∀ msg, event ≠ .send msg)
    (exact : history.Meets event ↔ history.system.queue.availNum ≠ 0) : history.Kind event :=
  .takes msgLen (by rw [is, take]) noSend exact

theorem Kind.of_quiet (system : QueueSystem) (result : QueueResult)
    (is : history.system.next event = (system, result))
    (same : system.queue = history.system.queue) (ends : result = .error ∨ result = .blocked)
    (meets : history.Meets event) : history.Kind event := by
  refine .quiet (by rw [is]; exact same) ?_ ?_ meets
  · rw [is]
    rcases ends with rfl | rfl <;> cases event <;> rfl
  · rw [is]
    rcases ends with rfl | rfl <;> exact fun _ => QueueResult.noConfusion

theorem kind_receive (history : QueueHistory) (thread msgLen : Nat) (timeout : Int)
    (tvUsec : Nat) : history.Kind (.receive thread msgLen timeout tvUsec) := by
  by_cases busy : (history.system.waiting thread).isSome
  · refine .of_quiet history.system .blocked (if_pos busy) rfl (.inr rfl) fun notWaiting => ?_
    rw [notWaiting] at busy
    cases busy
  · have notWaiting := Option.not_isSome_iff_eq_none.mp busy
    by_cases empty : history.system.queue.availNum = 0
    · by_cases atOnce : timeout = noWait
      · refine .of_quiet history.system .error ?_ rfl (.inl rfl)
          fun _ _ notNow => absurd atOnce notNow
        simp [next, receive, notWaiting, atOnce, empty]
      · by_cases forever : timeout = wait
        · refine .of_quiet (history.system.block thread { msgLen, timed := false }).1 .blocked ?_
            rfl (.inr rfl) fun _ _ _ notForever => absurd forever notForever
          simp only [next, receive, if_neg busy, if_neg atOnce,
            if_pos forever, if_pos empty, block]
        · by_cases valid : deadlineNsec timeout tvUsec < 1000000000
          · refine .of_quiet (history.system.block thread { msgLen, timed := true }).1 .blocked ?_
              rfl (.inr rfl) fun _ _ _ _ => valid
            simp only [next, receive, if_neg busy, if_neg atOnce,
              if_neg forever, if_pos empty, if_pos valid, block]
          · refine .of_take thread msgLen ?_ (fun _ => QueueEvent.noConfusion)
              ⟨fun meets => absurd (meets notWaiting empty atOnce forever) valid,
                fun available => absurd empty available⟩
            simp only [next, receive, if_neg busy, if_neg atOnce,
              if_neg forever, if_pos empty, if_neg valid]
    · refine .of_take thread msgLen ?_ (fun _ => QueueEvent.noConfusion)
        ⟨fun _ => empty, fun _ _ isEmpty => absurd isEmpty empty⟩
      simp only [next, receive, if_neg busy, if_neg empty, ite_self]

theorem kind (history : QueueHistory) (event : QueueEvent) : history.Kind event := by
  cases event with
  | send msg =>
    by_cases long : msg.length > history.system.queue.msgLen
    · refine .quiet ?_ ?_ ?_ True.intro <;>
        simp [next, MessageQueue.send, long, sentBy]
    · by_cases full : history.system.queue.availNum ≥ history.system.queue.msgNum
      · refine .quiet ?_ ?_ ?_ True.intro <;>
          simp [next, MessageQueue.send, long, full, sentBy]
      · exact .sends msg (not_lt.mp long) (not_le.mp full) rfl
  | receive thread msgLen timeout tvUsec => exact history.kind_receive thread msgLen timeout tvUsec
  | wake thread =>
    cases waits : history.system.waiting thread with
    | none =>
      refine .of_quiet history.system .blocked ?_ rfl (.inr rfl) ?_
      · simp only [next, wake, waits]
      · simp only [Meets, waits, Option.any_none, Bool.false_eq_true, false_implies]
    | some waiter =>
      by_cases timed : waiter.timed
      · refine .of_take thread waiter.msgLen ?_
          (fun _ => QueueEvent.noConfusion) ?_
        · simp only [next, wake, waits, if_pos timed]
        · simp only [Meets, waits, Option.any_some, timed, true_implies]
      · have meets : history.Meets (.wake thread) := by
          simp only [Meets, waits, Option.any_some, timed, Bool.false_eq_true, false_implies]
        by_cases empty : history.system.queue.availNum = 0
        · refine .of_quiet history.system .blocked ?_ rfl (.inr rfl) meets
          simp only [next, wake, waits, if_neg timed, if_pos empty]
        · refine .of_take thread waiter.msgLen ?_
            (fun _ => QueueEvent.noConfusion) ⟨fun _ => empty, fun _ => meets⟩
          simp only [next, wake, waits, if_neg timed, if_neg empty]
  | timeOut thread =>
    cases waits : history.system.waiting thread with
    | none =>
      refine .of_quiet history.system .blocked ?_ rfl (.inr rfl) True.intro
      simp only [next, timeOut, waits]
    | some waiter =>
      by_cases timed : waiter.timed
      · refine .of_quiet
          { history.system with waiting := Function.update history.system.waiting thread none }
          .error ?_ rfl (.inl rfl) True.intro
        simp only [next, timeOut, waits, if_pos timed]
      · refine .of_quiet history.system .blocked ?_ rfl (.inr rfl)
          True.intro
        simp only [next, timeOut, waits, if_neg timed]

/-- The messages that were sent and not received lie in the ring of slots, the oldest one at the
read index, and the write index is behind the newest one. -/
structure Fifo (history : QueueHistory) : Prop where
  bounded : history.Bounded
  limit : history.system.queue.msgNum < 2 ^ 32
  fits : history.system.queue.msgLen * history.system.queue.msgNum < 2 ^ 32
  read : 0 < history.system.queue.msgNum →
    history.system.queue.readIndex < history.system.queue.msgNum
  write : history.system.queue.writeIndex =
    (history.system.queue.readIndex + history.system.queue.availNum) % history.system.queue.msgNum
  around : Around history.system.queue.HoldsAt history.system.queue.msgNum
    history.system.queue.readIndex (history.sent.drop history.received)

namespace Fifo

variable {history : QueueHistory}

variable (fifo : history.Fifo)

include fifo

theorem length_pending :
    (history.sent.drop history.received).length = history.system.queue.availNum := by
  have counted := fifo.bounded.1
  rw [List.length_drop]
  omega

/-- A step that leaves the queue alone changes nothing of what is waiting in it. -/
theorem quiet
    (same : (history.system.next event).1.queue = history.system.queue)
    (noSend : sentBy event (history.system.next event).2 = [])
    (noReceive : ∀ bytes, (history.system.next event).2 ≠ .received bytes) :
    (history.step event).Fifo := by
  have sent : (history.step event).sent = history.sent := by
    simp only [step, noSend, List.append_nil]
  have received : (history.step event).received = history.received := by
    simp only [step]
    cases ends : (history.system.next event).2 with
    | received bytes => exact absurd ends (noReceive bytes)
    | sent | error | blocked => rfl
  have queue : (history.step event).system.queue = history.system.queue := same
  constructor
  case bounded =>
    rw [Bounded, sent, received, queue]
    exact fifo.bounded
  case around =>
    rw [sent, received, queue]
    exact fifo.around
  all_goals rw [queue]
  · exact fifo.limit
  · exact fifo.fits
  · exact fifo.read
  · exact fifo.write

/-- A send puts its message behind the others. -/
theorem sends (short : msg.length ≤ history.system.queue.msgLen)
    (room : history.system.queue.availNum < history.system.queue.msgNum) :
    (history.step (.send msg)).Fifo := by
  have pending := fifo.length_pending
  obtain ⟨⟨queue, waiting⟩, sent, received⟩ := history
  obtain ⟨⟨counted, -⟩, limit, fits, read, write, around⟩ := fifo
  simp only at short room pending counted limit fits read write around
  have counter : (queue.availNum + 1) % 2 ^ 32 = queue.availNum + 1 := Nat.mod_eq_of_lt (by omega)
  have after : step ⟨⟨queue, waiting⟩, sent, received⟩ (.send msg) =
      { system :=
          { queue :=
              { queue with
                buffer := copyTo queue.buffer (queue.slot queue.writeIndex) msg
                writeIndex := (queue.writeIndex + 1) % queue.msgNum
                availNum := queue.availNum + 1 }
            waiting }
        sent := sent ++ [msg], received } := by
    simp only [step, next, MessageQueue.send, if_neg (not_lt.mpr short),
      if_neg (not_le.mpr room), sentBy, receivedBy, Nat.add_zero, counter]
  rw [after]
  have dropped : (sent ++ [msg]).drop received = sent.drop received ++ [msg] :=
    List.drop_append_of_le_length (by omega)
  have place :
      queue.writeIndex = (queue.readIndex + (sent.drop received).length) % queue.msgNum := by
    rw [pending]
    exact write
  have placeBound : queue.writeIndex < queue.msgNum := by
    rw [write]
    exact Nat.mod_lt _ (Nat.zero_lt_of_lt room)
  constructor
  case bounded =>
    refine ⟨?_, room⟩
    simp only [List.length_append, List.length_singleton]
    omega
  case limit => exact limit
  case fits => exact fits
  case read => exact read
  case write =>
    simp only
    rw [write, Nat.mod_add_mod, Nat.add_assoc]
  case around =>
    simp only [dropped]
    refine around.push (by omega) ⟨short, ?_⟩ fun index element bound apart held => ⟨held.1, ?_⟩
    · rw [← place]
      exact holds_copyTo queue.buffer (queue.slot queue.writeIndex) msg
    · rw [← place] at apart
      exact MessageQueue.holdsAt_copyTo fits short placeBound bound apart held

/-- A receive of a queue that is not empty gets the oldest message. -/
theorem takes {msgLen : Nat}
    (taken : ((history.system.next event).1.queue, (history.system.next event).2) =
      history.system.queue.takeOldest msgLen) (noSend : ∀ msg, event ≠ .send msg)
    (available : history.system.queue.availNum ≠ 0) :
    (history.step event).Fifo ∧ ∀ bytes, (history.system.next event).2 = .received bytes →
      ∃ message, history.sent[history.received]? = some message ∧
        bytes.take message.length = message.take bytes.length := by
  have queue := congrArg Prod.fst taken
  have result := congrArg Prod.snd taken
  simp only [MessageQueue.takeOldest] at queue result
  obtain ⟨⟨counted, bounded⟩, limit, fits, read, write, around⟩ := fifo
  have inside : history.received < history.sent.length := by omega
  rw [List.drop_eq_getElem_cons inside] at around
  have sent : (history.step event).sent = history.sent := by
    simp only [step, result]
    cases event with
    | send msg => exact absurd rfl (noSend msg)
    | receive | wake | timeOut => exact List.append_nil _
  have received : (history.step event).received = history.received + 1 := by
    simp only [step, result, receivedBy]
  have counter : (history.system.queue.availNum + (2 ^ 32 - 1)) % 2 ^ 32 =
      history.system.queue.availNum - 1 := by omega
  have after : (history.step event).system.queue =
      { history.system.queue with
        readIndex := (history.system.queue.readIndex + 1) % history.system.queue.msgNum
        availNum := history.system.queue.availNum - 1 } := by
    simp only [step, queue, counter]
  refine ⟨?_, fun bytes ends => ?_⟩
  · constructor
    case bounded =>
      rw [Bounded, sent, received, after]
      refine ⟨?_, ?_⟩ <;> simp only <;> omega
    case limit =>
      rw [after]
      exact limit
    case fits =>
      rw [after]
      exact fits
    case read =>
      rw [after]
      exact fun positive => Nat.mod_lt _ positive
    case write =>
      have shifted : history.system.queue.readIndex + 1 + (history.system.queue.availNum - 1) =
          history.system.queue.readIndex + history.system.queue.availNum := by omega
      rw [after]
      simp only
      rw [write, Nat.mod_add_mod, shifted]
    case around =>
      rw [sent, received, after]
      exact around.tail
  · have held := around.head (read (by omega))
    obtain rfl := QueueResult.received.inj (result.symm.trans ends)
    exact ⟨_, List.getElem?_eq_getElem inside, take_copyFrom held.2 _⟩

/-- The steps of a queue that is first in, first out are those that meet the condition. -/
theorem honours_iff (event : QueueEvent) :
    history.Honours event ↔ history.Meets event := by
  cases history.kind event with
  | quiet same noSend noReceive meets =>
    refine ⟨fun _ => meets, fun _ => ⟨(fifo.quiet same noSend noReceive).bounded, ?_⟩⟩
    exact fun bytes ends => absurd ends (noReceive bytes)
  | sends msg short room is =>
    subst is
    refine ⟨fun _ => True.intro, fun _ => ⟨(fifo.sends short room).bounded, ?_⟩⟩
    intro bytes ends
    simp [next, MessageQueue.send, not_lt.mpr short, not_le.mpr room] at ends
  | takes msgLen taken noSend exact =>
    rw [exact]
    constructor
    · rintro ⟨-, oldest⟩ empty
      obtain ⟨message, found, -⟩ := oldest _ (congrArg Prod.snd taken)
      obtain ⟨inside, -⟩ := List.getElem?_eq_some_iff.mp found
      have counted := fifo.bounded.1
      omega
    · intro available
      obtain ⟨after, oldest⟩ := fifo.takes taken noSend available
      exact ⟨after.bounded, oldest⟩

theorem step (meets : history.Meets event) : (history.step event).Fifo := by
  cases history.kind event with
  | quiet same noSend noReceive _ => exact fifo.quiet same noSend noReceive
  | sends msg short room is =>
    subst is
    exact fifo.sends short room
  | takes msgLen taken noSend exact => exact (fifo.takes taken noSend (exact.mp meets)).1

end Fifo

theorem start_fifo {msgLen msgNum : UInt32} (fits : msgLen.toNat * msgNum.toNat < 2 ^ 32)
    (buffer : Memory) : (start msgLen msgNum buffer).Fifo where
  bounded := ⟨rfl, Nat.zero_le _⟩
  limit := msgNum.toNat_lt
  fits := fits
  read := id
  write := (Nat.zero_mod _).symm
  around := Around.nil

/-- A queue whose buffer size is an unsigned integer is a bounded queue that is first in, first out,
in exactly the histories in which no wait until a deadline returns without a timeout while the
queue is empty. -/
theorem fifo_iff {msgLen msgNum : UInt32} (fits : msgLen.toNat * msgNum.toNat < 2 ^ 32)
    (buffer : Memory) (events : List QueueEvent) :
    Admissible step Honours (start msgLen msgNum buffer) events ↔
      Admissible step Meets (start msgLen msgNum buffer) events :=
  admissible_iff Fifo (fun _ _ fifo meets => fifo.step meets)
    (fun _ event fifo => fifo.honours_iff event) (start_fifo fits buffer)

/-- Messages of different lengths, a full queue, a blocked receiver and one that times out. -/
theorem senders_and_receivers_are_fifo :
    Admissible step Honours (start 4 2 fun _ => 0)
      [.receive 0 4 (-1) 0, .receive 1 4 50 0, .send [1, 2, 3], .wake 0, .timeOut 1, .send [4],
        .send [5], .send [6], .receive 2 4 0 0, .receive 2 4 0 0, .receive 2 4 0 0] :=
  (fifo_iff (by decide) _ _).mpr (by decide)

/-- Two threads wait for a message, one of them until a deadline. One message arrives, the first
thread takes it, and the second one, woken up behind it, takes a slot of the empty queue. -/
theorem timed_receiver_takes_from_empty_queue :
    ¬ Admissible step Honours (start 4 2 fun _ => 0)
      [.receive 0 4 (-1) 0, .receive 1 4 50 0, .send [1, 2, 3], .wake 0, .wake 1] := by
  rintro ⟨-, -, -, -, ⟨bounded, -⟩, -⟩
  exact absurd bounded.2 (by decide)

end QueueHistory

end OpenDove
