import OpenDove.Runs
import OpenDove.Totals

/-!
# The retransmit handler

Messages that wait for an answer are kept by query id, with the number of retransmissions that are
left and their size. A timer pass retransmits every message or, when none is left, takes it out
and reports a timeout. The lock is held over each call of `Queue` and `DeQueue` and over the scan
of a timer pass, but not over the timeout calls that follow the scan: those interleave with the
other threads, and the timer is armed again only after the last of them.

Messages are objects that the handler never looks into, so the model is generic in their type. A
traced run uses that: it hands the handler each message together with the number of the event
that queued it, and so tells apart two acceptances of the same object.
-/

namespace OpenDove

/-- An entry of `Query_ID_Hash`: a message, its remaining retransmissions and its size. -/
structure QueuedMessage (μ : Type) where
  msg : μ
  count : Nat
  msgSize : Int

/-- `DPSRetransmitHandler`. -/
structure RetransmitHandler (μ : Type) where
  queryIdHash : Dict Int (QueuedMessage μ)
  msgSizeTotal : Int
  retransmitTotal : Nat

/-- The state of the loop of a timer pass. -/
structure TimerPass (μ : Type) where
  handler : RetransmitHandler μ
  expiredMsgs : List μ
  retransmitted : List μ

namespace RetransmitHandler

variable {μ : Type}

def maxRetransmit : Nat := 3

def maxQueueLen : Nat := 8192

/-- The handler at the start. -/
def create : RetransmitHandler μ := { queryIdHash := ∅, msgSizeTotal := 0, retransmitTotal := 0 }

/-- `Queue`. The result is 0 when the message was accepted. -/
def queue (handler : RetransmitHandler μ) (queryId : Int) (msg : μ) (msgSize : Int) :
    RetransmitHandler μ × Int :=
  if handler.queryIdHash.size > maxQueueLen then (handler, -1)
  else
    match handler.queryIdHash.lookup queryId with
    | some _ => (handler, -1)
    | none =>
      ({ handler with
          queryIdHash :=
            handler.queryIdHash.insert queryId { msg, count := maxRetransmit, msgSize }
          msgSizeTotal := handler.msgSizeTotal + msgSize }, 0)

/-- `DeQueue`. -/
def deQueue (handler : RetransmitHandler μ) (queryId : Int) :
    RetransmitHandler μ × Int × Option μ :=
  match handler.queryIdHash.lookup queryId with
  | none => (handler, -1, none)
  | some entry =>
    ({ handler with
        queryIdHash := handler.queryIdHash.erase queryId
        msgSizeTotal := handler.msgSizeTotal - entry.msgSize }, 0, some entry.msg)

/-- One round of the loop of `Timer_Routine`. -/
def timerKey (pass : TimerPass μ) (key : Int) : TimerPass μ :=
  match pass.handler.queryIdHash.lookup key with
  | none => pass
  | some entry =>
    if entry.count = 0 then
      { pass with
        handler := { pass.handler with
          queryIdHash := pass.handler.queryIdHash.erase key
          msgSizeTotal := pass.handler.msgSizeTotal - entry.msgSize }
        expiredMsgs := pass.expiredMsgs ++ [entry.msg] }
    else
      { pass with
        handler := { pass.handler with
          queryIdHash := pass.handler.queryIdHash.insert key { entry with count := entry.count - 1 }
          retransmitTotal := pass.handler.retransmitTotal + 1 }
        retransmitted := pass.retransmitted ++ [entry.msg] }

/-- The part of `Timer_Routine` that holds the lock. -/
def timerRoutine (handler : RetransmitHandler μ) : TimerPass μ :=
  handler.queryIdHash.keys.foldl timerKey { handler, expiredMsgs := [], retransmitted := [] }

end RetransmitHandler

/-! ## Threads -/

/-- Where the timer thread is: waiting for the timer, or calling `retransmit_timeout` on the
messages that expired. -/
inductive TimerThread (μ : Type) where
  | armed
  | calling (expiredMsgs : List μ)

/-- The messages on which `retransmit_timeout` is still to be called. -/
def TimerThread.pending {μ : Type} : TimerThread μ → List μ
  | .armed => []
  | .calling expiredMsgs => expiredMsgs

/-- The handler and the timer thread. -/
structure RetransmitThreads (μ : Type) where
  handler : RetransmitHandler μ
  timer : TimerThread μ

/-- The atomic steps of the threads. `timerCalls` is the next timeout call of a pass or, after the
last one, arming the timer. -/
inductive RetransmitEvent (μ : Type) where
  | queue (queryId : Int) (msg : μ) (msgSize : Int)
  | deQueue (queryId : Int)
  | timerFires
  | timerCalls

/-- What a step does that a caller or the network can see. -/
inductive RetransmitOutcome (μ : Type) where
  | accepted (msg : μ)
  | returned (msg : μ)
  | retransmitted (msg : μ)
  | timedOut (msg : μ)
  | passed
  deriving DecidableEq

namespace RetransmitThreads

variable {μ : Type}

/-- Before the first event. -/
def create : RetransmitThreads μ := { handler := .create, timer := .armed }

/-- One step. The timer does not fire while the previous pass is at its calls. -/
def step (s : RetransmitThreads μ) :
    RetransmitEvent μ → RetransmitThreads μ × List (RetransmitOutcome μ)
  | .queue queryId msg msgSize =>
    let (handler, status) := s.handler.queue queryId msg msgSize
    ({ s with handler }, if status = 0 then [.accepted msg] else [])
  | .deQueue queryId =>
    let (handler, _, msg) := s.handler.deQueue queryId
    ({ s with handler }, (msg.map .returned).toList)
  | .timerFires =>
    match s.timer with
    | .armed =>
      let pass := s.handler.timerRoutine
      ({ handler := pass.handler, timer := .calling pass.expiredMsgs },
        .passed :: pass.retransmitted.map .retransmitted)
    | .calling _ => (s, [])
  | .timerCalls =>
    match s.timer with
    | .armed => (s, [])
    | .calling [] => ({ s with timer := .armed }, [])
    | .calling (msg :: rest) => ({ s with timer := .calling rest }, [.timedOut msg])

/-- One step without what it shows. -/
def advance (s : RetransmitThreads μ) (event : RetransmitEvent μ) : RetransmitThreads μ :=
  (s.step event).1

end RetransmitThreads

/-! ## Forgetting what messages are -/

section Erasure

variable {μ ν : Type} (f : μ → ν)

/-- An entry with another message. -/
def QueuedMessage.map (entry : QueuedMessage μ) : QueuedMessage ν :=
  { msg := f entry.msg, count := entry.count, msgSize := entry.msgSize }

/-- A handler with other messages. -/
def RetransmitHandler.map (handler : RetransmitHandler μ) : RetransmitHandler ν :=
  { queryIdHash := handler.queryIdHash.mapValues (QueuedMessage.map f)
    msgSizeTotal := handler.msgSizeTotal
    retransmitTotal := handler.retransmitTotal }

/-- A timer thread with other messages. -/
def TimerThread.map : TimerThread μ → TimerThread ν
  | .armed => .armed
  | .calling expiredMsgs => .calling (expiredMsgs.map f)

/-- Threads with other messages. -/
def RetransmitThreads.map (s : RetransmitThreads μ) : RetransmitThreads ν :=
  { handler := s.handler.map f, timer := s.timer.map f }

/-- An event with another message. -/
def RetransmitEvent.map : RetransmitEvent μ → RetransmitEvent ν
  | .queue queryId msg msgSize => .queue queryId (f msg) msgSize
  | .deQueue queryId => .deQueue queryId
  | .timerFires => .timerFires
  | .timerCalls => .timerCalls

/-- The state of a timer loop with other messages. -/
def TimerPass.map (pass : TimerPass μ) : TimerPass ν :=
  { handler := pass.handler.map f
    expiredMsgs := pass.expiredMsgs.map f
    retransmitted := pass.retransmitted.map f }

namespace RetransmitHandler

variable (handler : RetransmitHandler μ)

include handler

theorem lookup_map (key : Int) :
    (handler.map f).queryIdHash.lookup key
      = (handler.queryIdHash.lookup key).map (QueuedMessage.map f) :=
  Dict.lookup_mapValues _ _ _

theorem queue_map (queryId : Int) (msg : μ) (msgSize : Int) :
    (handler.map f).queue queryId (f msg) msgSize
      = ((handler.queue queryId msg msgSize).1.map f, (handler.queue queryId msg msgSize).2) := by
  have sameSize : (handler.map f).queryIdHash.size = handler.queryIdHash.size := by
    simp [Dict.size, map, Dict.mapValues]
  unfold queue
  rw [sameSize, lookup_map]
  split
  · rfl
  · cases handler.queryIdHash.lookup queryId with
    | some entry => rfl
    | none => simp [map, Dict.mapValues_insert, QueuedMessage.map]

theorem deQueue_map (queryId : Int) :
    (handler.map f).deQueue queryId
      = ((handler.deQueue queryId).1.map f, (handler.deQueue queryId).2.1,
          (handler.deQueue queryId).2.2.map f) := by
  unfold deQueue
  rw [lookup_map]
  cases handler.queryIdHash.lookup queryId with
  | none => rfl
  | some entry => simp [map, Dict.mapValues_erase, QueuedMessage.map]

omit handler in
theorem timerKey_map (pass : TimerPass μ) (key : Int) :
    timerKey (pass.map f) key = (timerKey pass key).map f := by
  unfold timerKey
  rw [show (pass.map f).handler = pass.handler.map f from rfl, lookup_map]
  cases pass.handler.queryIdHash.lookup key with
  | none => rfl
  | some entry =>
    by_cases spent : entry.count = 0
    · simp [spent, TimerPass.map, map, Dict.mapValues_erase, QueuedMessage.map]
    · simp [spent, TimerPass.map, map, Dict.mapValues_insert, QueuedMessage.map]

theorem timerRoutine_map :
    (handler.map f).timerRoutine = handler.timerRoutine.map f := by
  have sameKeys : (handler.map f).queryIdHash.keys = handler.queryIdHash.keys := by
    simp [AList.keys, List.keys, map, Dict.mapValues, Function.comp_def]
  unfold timerRoutine
  rw [sameKeys]
  rw [← List.foldl_hom (TimerPass.map f) (timerKey_map f)]
  rfl

end RetransmitHandler

/-- The threads do not look into messages. -/
theorem RetransmitThreads.advance_map (s : RetransmitThreads μ) (event : RetransmitEvent μ) :
    (s.map f).advance (event.map f) = (s.advance event).map f := by
  cases event with
  | queue queryId msg msgSize =>
    simp [advance, step, map, RetransmitEvent.map, RetransmitHandler.queue_map]
  | deQueue queryId =>
    simp [advance, step, map, RetransmitEvent.map, RetransmitHandler.deQueue_map]
  | timerFires =>
    cases timer : s.timer with
    | armed =>
      simp [advance, step, map, RetransmitEvent.map, TimerThread.map, timer,
        RetransmitHandler.timerRoutine_map, TimerPass.map]
    | calling expiredMsgs =>
      simp [advance, step, map, RetransmitEvent.map, TimerThread.map, timer]
  | timerCalls =>
    rcases timer : s.timer with - | ⟨- | ⟨msg, rest⟩⟩ <;>
      simp [advance, step, map, RetransmitEvent.map, TimerThread.map, timer]

end Erasure

/-! ## What a step keeps -/

namespace RetransmitHandler

variable {μ : Type}

/-- The running total is the sum of the sizes of the queued messages. -/
def SizeExact (handler : RetransmitHandler μ) : Prop :=
  handler.msgSizeTotal = Dict.total (·.msgSize) handler.queryIdHash

variable {handler : RetransmitHandler μ} (pass : TimerPass μ) (key : Int)

theorem SizeExact.queue (exact : handler.SizeExact) (queryId : Int) (msg : μ) (msgSize : Int) :
    (handler.queue queryId msg msgSize).1.SizeExact := by
  unfold RetransmitHandler.queue
  split
  · exact exact
  · cases known : handler.queryIdHash.lookup queryId with
    | some entry => exact exact
    | none =>
      have added := Dict.total_insert_of_lookup_eq_none (fun entry : QueuedMessage μ => entry.msgSize)
        known { msg, count := maxRetransmit, msgSize }
      unfold SizeExact at exact ⊢
      simp only [added]
      omega

theorem SizeExact.deQueue (exact : handler.SizeExact) (queryId : Int) :
    (handler.deQueue queryId).1.SizeExact := by
  unfold RetransmitHandler.deQueue
  cases known : handler.queryIdHash.lookup queryId with
  | none => exact exact
  | some entry =>
    have removed := Dict.total_erase (fun entry : QueuedMessage μ => entry.msgSize) known
    unfold SizeExact at exact ⊢
    simp only
    omega

theorem SizeExact.timerKey {pass : TimerPass μ} (exact : pass.handler.SizeExact) (key : Int) :
    (timerKey pass key).handler.SizeExact := by
  unfold RetransmitHandler.timerKey
  cases known : pass.handler.queryIdHash.lookup key with
  | none => exact exact
  | some entry =>
    have removed := Dict.total_erase (fun entry : QueuedMessage μ => entry.msgSize) known
    unfold SizeExact at exact
    by_cases spent : entry.count = 0
    · simp only [spent, if_true, SizeExact]
      omega
    · simp only [spent, if_false, SizeExact, Dict.total_insert]
      omega

theorem SizeExact.timerRoutine (exact : handler.SizeExact) :
    handler.timerRoutine.handler.SizeExact :=
  List.foldlRecOn (motive := fun pass : TimerPass μ => pass.handler.SizeExact) _ _ exact
    fun _ kept key _ => kept.timerKey key

/-- A timer pass leaves of each entry what its remaining retransmissions allow. -/
def afterPass (entry : QueuedMessage μ) : Option (QueuedMessage μ) :=
  if entry.count = 0 then none else some { entry with count := entry.count - 1 }

theorem lookup_timerKey (other : Int) :
    (timerKey pass key).handler.queryIdHash.lookup other =
      if other = key then (pass.handler.queryIdHash.lookup other).bind afterPass
      else pass.handler.queryIdHash.lookup other := by
  unfold timerKey afterPass
  by_cases same : other = key
  · subst same
    cases known : pass.handler.queryIdHash.lookup other with
    | none => simp [known]
    | some entry => by_cases spent : entry.count = 0 <;> simp [spent]
  · cases pass.handler.queryIdHash.lookup key with
    | none => simp [same]
    | some entry => by_cases spent : entry.count = 0 <;> simp [spent, same]

theorem lookup_timerRoutine (handler : RetransmitHandler μ) (key : Int) :
    handler.timerRoutine.handler.queryIdHash.lookup key
      = (handler.queryIdHash.lookup key).bind afterPass :=
  Dict.lookup_foldl_keys (fun pass : TimerPass μ => pass.handler.queryIdHash) lookup_timerKey
    { handler, expiredMsgs := [], retransmitted := [] } key

/-- The message that a timer pass retransmits under a query id. -/
def toRetransmit (handler : RetransmitHandler μ) (key : Int) : Option μ :=
  (handler.queryIdHash.lookup key).bind fun entry =>
    if entry.count = 0 then none else some entry.msg

theorem retransmitted_timerKey :
    (timerKey pass key).retransmitted =
      pass.retransmitted ++ (pass.handler.toRetransmit key).toList := by
  unfold timerKey toRetransmit
  cases known : pass.handler.queryIdHash.lookup key with
  | none => simp
  | some entry => by_cases spent : entry.count = 0 <;> simp [spent]

theorem retransmitted_foldl_timerKey (keys : List Int) (distinct : keys.Nodup)
    (pass : TimerPass μ) : (keys.foldl timerKey pass).retransmitted
      = pass.retransmitted ++ keys.filterMap pass.handler.toRetransmit := by
  induction keys generalizing pass with
  | nil => simp
  | cons key keys ih =>
    obtain ⟨absent, distinct⟩ := List.nodup_cons.mp distinct
    -- The later rounds still see what was there before this one.
    have later : keys.filterMap (timerKey pass key).handler.toRetransmit
        = keys.filterMap pass.handler.toRetransmit := by
      refine List.filterMap_congr fun other listed => ?_
      have different : other ≠ key := fun same => absent (same ▸ listed)
      unfold toRetransmit
      rw [lookup_timerKey, if_neg different]
    rw [List.foldl_cons, ih distinct, later, retransmitted_timerKey,
      List.append_assoc, List.filterMap_cons]
    cases pass.handler.toRetransmit key <;> rfl

theorem mem_retransmitted {msg : μ} :
    msg ∈ handler.timerRoutine.retransmitted ↔
      ∃ key entry, handler.queryIdHash.lookup key = some entry ∧ entry.count ≠ 0 ∧
        entry.msg = msg := by
  rw [timerRoutine, retransmitted_foldl_timerKey _ handler.queryIdHash.keys_nodup]
  simp only [List.nil_append, List.mem_filterMap, toRetransmit, Option.bind_eq_some_iff]
  constructor
  · rintro ⟨key, -, entry, known, sent⟩
    split at sent
    next => cases sent
    next remaining => exact ⟨key, entry, known, remaining, Option.some.inj sent⟩
  · rintro ⟨key, entry, known, remaining, rfl⟩
    exact ⟨key, (Dict.mem_iff_lookup _ _).mpr ⟨entry, known⟩, entry, known, if_neg remaining⟩

variable [DecidableEq μ]

/-- How often a message is in the queue. -/
def queued (handler : RetransmitHandler μ) (msg : μ) : Nat :=
  Dict.total (fun entry => if entry.msg = msg then 1 else 0) handler.queryIdHash

theorem queued_timerKey (msg : μ) :
    (timerKey pass key).handler.queued msg + (timerKey pass key).expiredMsgs.count msg
      = pass.handler.queued msg + pass.expiredMsgs.count msg := by
  unfold timerKey
  cases known : pass.handler.queryIdHash.lookup key with
  | none => rfl
  | some entry =>
    have removed := Dict.total_erase
      (fun entry : QueuedMessage μ => if entry.msg = msg then 1 else 0) known
    by_cases spent : entry.count = 0
    · simp only [spent, if_true, queued, List.count_append, List.count_singleton, beq_iff_eq]
      omega
    · simp only [spent, if_false, queued, Dict.total_insert]
      omega

/-- A timer pass moves messages from the queue to the expired ones and loses none. -/
theorem queued_timerRoutine (handler : RetransmitHandler μ) (msg : μ) :
    handler.timerRoutine.handler.queued msg + handler.timerRoutine.expiredMsgs.count msg
      = handler.queued msg :=
  List.foldlRecOn (motive := fun pass : TimerPass μ =>
      pass.handler.queued msg + pass.expiredMsgs.count msg = handler.queued msg) _ _ rfl
    fun pass kept key _ => (queued_timerKey pass key msg).trans kept

variable {handler : RetransmitHandler μ} {entry : QueuedMessage μ} {key : Int}

theorem one_le_queued (known : handler.queryIdHash.lookup key = some entry) :
    1 ≤ handler.queued entry.msg := by
  have removed := Dict.total_erase
    (fun other : QueuedMessage μ => if other.msg = entry.msg then 1 else 0) known
  simp only [if_true] at removed
  unfold queued
  omega

/-- A message that is queued once is under one query id. -/
theorem key_unique {other : Int} {otherEntry : QueuedMessage μ}
    (once : handler.queued entry.msg ≤ 1) (known : handler.queryIdHash.lookup key = some entry)
    (otherKnown : handler.queryIdHash.lookup other = some otherEntry)
    (same : otherEntry.msg = entry.msg) : other = key := by
  by_contra different
  have remains : (handler.queryIdHash.erase key).lookup other = some otherEntry := by
    rw [Dict.lookup_erase, if_neg different, otherKnown]
  have first := Dict.total_erase
    (fun other : QueuedMessage μ => if other.msg = entry.msg then 1 else 0) known
  have second := Dict.total_erase
    (fun other : QueuedMessage μ => if other.msg = entry.msg then 1 else 0) remains
  simp only [if_true, same] at first second
  unfold queued at once
  omega

theorem exists_of_queued {msg : μ} (queued : handler.queued msg ≠ 0) :
    ∃ key entry, handler.queryIdHash.lookup key = some entry ∧ entry.msg = msg := by
  by_contra! absent
  refine queued (List.sum_eq_zero ?_)
  intro weight listed
  obtain ⟨entry, stored, rfl⟩ := List.mem_map.mp listed
  obtain ⟨key, known⟩ := (Dict.mem_values _ _).mp stored
  exact if_neg (absent key entry known)

/-- When no message is queued twice, a timer pass retransmits none twice. -/
theorem retransmitted_nodup (once : ∀ msg, handler.queued msg ≤ 1) :
    handler.timerRoutine.retransmitted.Nodup := by
  rw [timerRoutine, retransmitted_foldl_timerKey _ handler.queryIdHash.keys_nodup]
  refine List.Nodup.filterMap ?_ handler.queryIdHash.keys_nodup
  intro key other msg sent otherSent
  obtain ⟨entry, known, sent⟩ := Option.bind_eq_some_iff.mp sent
  obtain ⟨otherEntry, otherKnown, otherSent⟩ := Option.bind_eq_some_iff.mp otherSent
  have isMsg : entry.msg = msg := by
    split at sent <;> simp_all
  have otherIsMsg : otherEntry.msg = msg := by
    split at otherSent <;> simp_all
  exact key_unique (once _) otherKnown known (isMsg.trans otherIsMsg.symm)

end RetransmitHandler

namespace RetransmitOutcome

variable {μ : Type} [DecidableEq μ]

/-- A list of retransmissions shows nothing else. -/
theorem count_map_retransmitted (msgs : List μ) {outcome : RetransmitOutcome μ}
    (other : ∀ msg, .retransmitted msg ≠ outcome) :
    (msgs.map .retransmitted).count outcome = 0 := by
  refine List.count_eq_zero.mpr fun listed => ?_
  obtain ⟨msg, -, same⟩ := List.mem_map.mp listed
  exact other msg same

/-- The scan of a timer pass shows each message that it retransmits once. -/
theorem count_scan_eq_one {msgs : List μ} (distinct : msgs.Nodup) {msg : μ} (listed : msg ∈ msgs) :
    (passed :: msgs.map retransmitted).count (retransmitted msg) = 1 := by
  have injective : Function.Injective (retransmitted : μ → RetransmitOutcome μ) :=
    fun _ _ same => RetransmitOutcome.retransmitted.inj same
  rw [List.count_cons_of_ne (by simp)]
  exact List.count_eq_one_of_mem (distinct.map injective) (List.mem_map_of_mem listed)

end RetransmitOutcome

/-- A message that was queued carries the number that its event was given. -/
theorem RetransmitEvent.number_of_map_eq_queue {μ : Type} {event : RetransmitEvent μ}
    {number : Nat} {queryId : Int} {msg : Nat × μ} {msgSize : Int}
    (same : event.map (number, ·) = .queue queryId msg msgSize) : msg.1 = number := by
  cases event with
  | queue eventId eventMsg eventSize =>
    simp only [RetransmitEvent.map, RetransmitEvent.queue.injEq] at same
    rw [← same.2.1]
  | deQueue | timerFires | timerCalls => cases same

namespace RetransmitThreads

variable {μ : Type} [DecidableEq μ]

/-- How often a message is in the queue or waits for its timeout call. -/
def held (s : RetransmitThreads μ) (msg : μ) : Nat :=
  s.handler.queued msg + s.timer.pending.count msg

variable (s : RetransmitThreads μ) (event : RetransmitEvent μ)

/-- A step that takes a message out shows it, and a step that shows an acceptance takes one in. -/
theorem step_conserves (msg : μ) :
    (s.step event).1.held msg + (s.step event).2.count (.returned msg)
        + (s.step event).2.count (.timedOut msg)
      = s.held msg + (s.step event).2.count (.accepted msg) := by
  cases event with
  | queue queryId queuedMsg msgSize =>
    simp only [step, RetransmitHandler.queue]
    split
    · simp [held]
    · cases known : s.handler.queryIdHash.lookup queryId with
      | some entry => simp [held]
      | none =>
        have added := Dict.total_insert_of_lookup_eq_none
          (fun entry : QueuedMessage μ => if entry.msg = msg then 1 else 0) known
          { msg := queuedMsg, count := RetransmitHandler.maxRetransmit, msgSize }
        simp [held, RetransmitHandler.queued, added, List.count_singleton]
        omega
  | deQueue queryId =>
    simp only [step, RetransmitHandler.deQueue]
    cases known : s.handler.queryIdHash.lookup queryId with
    | none => simp [held]
    | some entry =>
      have removed := Dict.total_erase
        (fun entry : QueuedMessage μ => if entry.msg = msg then 1 else 0) known
      simp [held, RetransmitHandler.queued, List.count_singleton]
      omega
  | timerFires =>
    cases timer : s.timer with
    | calling expiredMsgs => simp [step, timer]
    | armed =>
      have moved := s.handler.queued_timerRoutine msg
      simp [step, timer, held, TimerThread.pending, moved,
        RetransmitOutcome.count_map_retransmitted]
  | timerCalls =>
    rcases timer : s.timer with - | ⟨- | ⟨first, rest⟩⟩
    · simp [step, timer]
    · simp [step, timer, held, TimerThread.pending]
    · simp [step, timer, held, TimerThread.pending, List.count_cons]
      omega

omit [DecidableEq μ] in
theorem sizeExact_step {s : RetransmitThreads μ} (sizes : s.handler.SizeExact)
    (event : RetransmitEvent μ) : (s.step event).1.handler.SizeExact := by
  cases event with
  | queue queryId msg msgSize => exact sizes.queue queryId msg msgSize
  | deQueue queryId => exact sizes.deQueue queryId
  | timerFires =>
    cases timer : s.timer with
    | armed => simpa [step, timer] using sizes.timerRoutine
    | calling expiredMsgs => simpa [step, timer] using sizes
  | timerCalls =>
    rcases timer : s.timer with - | ⟨- | ⟨first, rest⟩⟩ <;> simpa [step, timer] using sizes

omit [DecidableEq μ] in
/-- A step accepts one message, is the scan of a timer pass, or neither adds nor changes an
entry. -/
theorem step_cases :
    (∃ queryId entry, event = .queue queryId entry.msg entry.msgSize ∧ entry.count = 3 ∧
        (s.step event).1.handler.queryIdHash = s.handler.queryIdHash.insert queryId entry ∧
        (s.step event).2 = [.accepted entry.msg]) ∨
      ((s.step event).1.handler = s.handler.timerRoutine.handler ∧
        (s.step event).2 = .passed :: s.handler.timerRoutine.retransmitted.map .retransmitted) ∨
      (∀ key entry, (s.step event).1.handler.queryIdHash.lookup key = some entry →
          s.handler.queryIdHash.lookup key = some entry) ∧
        ∀ outcome ∈ (s.step event).2, ∃ msg, outcome = .returned msg ∨ outcome = .timedOut msg := by
  cases event with
  | queue queryId msg msgSize =>
    simp only [step, RetransmitHandler.queue]
    split
    · exact Or.inr (Or.inr (by simp))
    · cases s.handler.queryIdHash.lookup queryId with
      | some entry => exact Or.inr (Or.inr (by simp))
      | none =>
        exact Or.inl ⟨queryId, { msg, count := RetransmitHandler.maxRetransmit, msgSize }, rfl, rfl,
          rfl, rfl⟩
  | deQueue queryId =>
    refine Or.inr (Or.inr ?_)
    simp only [step, RetransmitHandler.deQueue]
    cases s.handler.queryIdHash.lookup queryId with
    | none => simp
    | some entry => exact ⟨fun _ _ => Dict.lookup_of_erase, by simp⟩
  | timerFires =>
    cases timer : s.timer with
    | armed => exact Or.inr (Or.inl (by simp [step, timer]))
    | calling expiredMsgs => exact Or.inr (Or.inr (by simp [step, timer]))
  | timerCalls =>
    refine Or.inr (Or.inr ?_)
    rcases timer : s.timer with - | ⟨- | ⟨first, rest⟩⟩ <;> simp [step, timer]

end RetransmitThreads

/-! ## Traced runs -/

/-- A run with everything it showed, the newest first. Each message carries the number of the
event that queued it. -/
structure RetransmitTrace (μ : Type) where
  threads : RetransmitThreads (Nat × μ)
  history : List (RetransmitOutcome (Nat × μ))
  next : Nat

namespace RetransmitTrace

open RetransmitHandler

variable {μ : Type}

/-- Before the first event. -/
def create : RetransmitTrace μ := { threads := .create, history := [], next := 0 }

/-- One step. -/
def step (s : RetransmitTrace μ) (event : RetransmitEvent μ) : RetransmitTrace μ :=
  let (threads, outcomes) := s.threads.step (event.map (s.next, ·))
  { threads, history := outcomes ++ s.history, next := s.next + 1 }

/-- Without the numbers a traced run is the run of the threads. -/
theorem run_erases (events : List (RetransmitEvent μ)) (s : RetransmitTrace μ) :
    (run step s events).threads.map Prod.snd
      = run RetransmitThreads.advance (s.threads.map Prod.snd) events := by
  induction events generalizing s with
  | nil => rfl
  | cons event events ih =>
    have plain : (event.map (s.next, ·)).map Prod.snd = event := by cases event <;> rfl
    have once := RetransmitThreads.advance_map Prod.snd s.threads (event.map (s.next, ·))
    rw [plain] at once
    exact (ih (s.step event)).trans (congrArg (run _ · events) once.symm)

variable [DecidableEq μ]

/-- The timer passes since a message was accepted. -/
def passesSince (s : RetransmitTrace μ) (msg : Nat × μ) : Nat :=
  (s.history.takeWhile (· ≠ .accepted msg)).count .passed

/-- What every step keeps. -/
structure Accounted (s : RetransmitTrace μ) : Prop where
  sizes : s.threads.handler.SizeExact
  conserved : ∀ msg, s.history.count (.accepted msg)
    = s.threads.held msg + s.history.count (.returned msg) + s.history.count (.timedOut msg)
  once : ∀ msg, s.history.count (.accepted msg) ≤ 1
  fresh : ∀ msg, s.next ≤ msg.1 → s.history.count (.accepted msg) = 0
  sent : ∀ msg, s.history.count (.retransmitted msg) ≤ 3 * s.history.count (.accepted msg)
  budget : ∀ key entry, s.threads.handler.queryIdHash.lookup key = some entry →
    s.history.count (.retransmitted entry.msg) + entry.count = 3
  passes : ∀ key entry, s.threads.handler.queryIdHash.lookup key = some entry →
    s.passesSince entry.msg + entry.count = 3

theorem accounted_create : (create : RetransmitTrace μ).Accounted where
  sizes := rfl
  conserved _ := rfl
  once _ := Nat.zero_le 1
  fresh _ _ := rfl
  sent _ := Nat.zero_le _
  budget key entry known := by
    simp [create, RetransmitThreads.create, RetransmitHandler.create] at known
  passes key entry known := by
    simp [create, RetransmitThreads.create, RetransmitHandler.create] at known

namespace Accounted

variable {s : RetransmitTrace μ}

variable (accounted : s.Accounted)

include accounted

theorem queued_le_one (msg : Nat × μ) :
    s.threads.handler.queued msg ≤ 1 := by
  have conserved := accounted.conserved msg
  have once := accounted.once msg
  unfold RetransmitThreads.held at conserved
  omega

variable (event : RetransmitEvent μ)

variable {entry : QueuedMessage (Nat × μ)} {key : Int} (msg : Nat × μ)

omit accounted in
/-- An acceptance shows the number of its own event. -/
theorem accepted_step :
    (s.threads.step (event.map (s.next, ·))).2.count (.accepted msg)
      ≤ if msg.1 = s.next then 1 else 0 := by
  rcases s.threads.step_cases (event.map (s.next, ·)) with
    ⟨queryId, entry, same, -, -, outcomes⟩ | ⟨-, outcomes⟩ | ⟨-, outcomes⟩
  · rw [outcomes, List.count_singleton]
    split
    next isMsg =>
      have own := RetransmitEvent.number_of_map_eq_queue same
      simp only [beq_iff_eq, RetransmitOutcome.accepted.injEq] at isMsg
      simp [← isMsg, own]
    next => exact Nat.zero_le _
  · simp [outcomes, RetransmitOutcome.count_map_retransmitted]
  · have absent : .accepted msg ∉ (s.threads.step (event.map (s.next, ·))).2 := fun listed => by
      obtain ⟨other, same | same⟩ := outcomes _ listed <;> cases same
    simp [List.count_eq_zero.mpr absent]

section Known

variable (known : s.threads.handler.queryIdHash.lookup key = some entry)

include known

theorem accepted_of_known : s.history.count (.accepted entry.msg) = 1 := by
  have inQueue := one_le_queued known
  have conserved := accounted.conserved entry.msg
  have once := accounted.once entry.msg
  unfold RetransmitThreads.held at conserved
  omega

/-- Nothing is shown of a message after it was accepted but in the queue. -/
theorem not_accepted_again :
    .accepted entry.msg ∉ (s.threads.step (event.map (s.next, ·))).2 := by
  have earlier := accounted.accepted_of_known known
  have older : entry.msg.1 ≠ s.next := fun same => by
    have unused := accounted.fresh entry.msg (le_of_eq same.symm)
    omega
  have shown := accepted_step (s := s) event entry.msg
  rw [if_neg older] at shown
  exact List.count_eq_zero.mp (Nat.le_zero.mp shown)

/-- The passes since an acceptance are those before a step and those of the step. -/
theorem passesSince_step :
    (s.step event).passesSince entry.msg
      = (s.threads.step (event.map (s.next, ·))).2.count .passed + s.passesSince entry.msg := by
  have absent := accounted.not_accepted_again event known
  have others : ∀ outcome ∈ (s.threads.step (event.map (s.next, ·))).2,
      decide (outcome ≠ .accepted entry.msg) = true := fun outcome listed =>
    decide_eq_true fun same => absent (same ▸ listed)
  unfold passesSince RetransmitTrace.step
  rw [List.takeWhile_append_of_pos others, List.count_append]

/-- What a step shows of an entry that was there before adds to what was shown. -/
theorem entry_shown :
    let outcomes := (s.threads.step (event.map (s.next, ·))).2
    (s.step event).history.count (.retransmitted entry.msg) + entry.count
        = outcomes.count (.retransmitted entry.msg) + 3 ∧
      (s.step event).passesSince entry.msg + entry.count = outcomes.count .passed + 3 := by
  have budget := accounted.budget key entry known
  have passes := accounted.passes key entry known
  have counted : (s.step event).history.count (.retransmitted entry.msg)
      = (s.threads.step (event.map (s.next, ·))).2.count (.retransmitted entry.msg)
        + s.history.count (.retransmitted entry.msg) := List.count_append
  rw [counted, accounted.passesSince_step event known]
  omega

end Known

/-- A queued message has used up, one in each pass, the retransmissions that it has not left. -/
theorem entry_step (known : (s.step event).threads.handler.queryIdHash.lookup key = some entry) :
    (s.step event).history.count (.retransmitted entry.msg) + entry.count = 3 ∧
      (s.step event).passesSince entry.msg + entry.count = 3 := by
  rcases s.threads.step_cases (event.map (s.next, ·)) with
    ⟨queryId, accepted, same, full, table, outcomes⟩ | ⟨scanned, outcomes⟩ | ⟨older, outcomes⟩
  · change (s.threads.step (event.map (s.next, ·))).1.handler.queryIdHash.lookup key = _ at known
    rw [table, Dict.lookup_insert] at known
    split at known
    next =>
      cases known
      have own := RetransmitEvent.number_of_map_eq_queue same
      have unused := accounted.fresh entry.msg (le_of_eq own.symm)
      have unsent := accounted.sent entry.msg
      simp only [RetransmitTrace.step, passesSince, outcomes]
      simp
      omega
    next =>
      have shown := accounted.entry_shown event known
      simpa [outcomes] using shown
  · change (s.threads.step (event.map (s.next, ·))).1.handler.queryIdHash.lookup key = _ at known
    rw [scanned, lookup_timerRoutine] at known
    obtain ⟨before, knownBefore, left⟩ := Option.bind_eq_some_iff.mp known
    unfold afterPass at left
    split at left
    next => cases left
    next remaining =>
      cases left
      have sentOnce := RetransmitOutcome.count_scan_eq_one
        (retransmitted_nodup accounted.queued_le_one)
        (mem_retransmitted.mpr ⟨key, before, knownBefore, remaining, rfl⟩)
      have shown := accounted.entry_shown event knownBefore
      have onePass : (.passed :: s.threads.handler.timerRoutine.retransmitted.map .retransmitted :
          List (RetransmitOutcome (Nat × μ))).count .passed = 1 := by
        simp [RetransmitOutcome.count_map_retransmitted]
      simp only [outcomes, sentOnce, onePass] at shown
      exact ⟨by simp only; omega, by simp only; omega⟩
  · have shown := accounted.entry_shown event (older key entry known)
    have noPass : .passed ∉ (s.threads.step (event.map (s.next, ·))).2 := fun listed => by
      obtain ⟨msg, same | same⟩ := outcomes _ listed <;> cases same
    have noSent : .retransmitted entry.msg ∉ (s.threads.step (event.map (s.next, ·))).2 :=
      fun listed => by obtain ⟨msg, same | same⟩ := outcomes _ listed <;> cases same
    simpa [List.count_eq_zero.mpr noPass, List.count_eq_zero.mpr noSent] using shown

/-- No step sends a message that has used up its retransmissions. -/
theorem sent_step :
    (s.step event).history.count (.retransmitted msg)
      ≤ 3 * (s.step event).history.count (.accepted msg) := by
  have before := accounted.sent msg
  have counted (outcome : RetransmitOutcome (Nat × μ)) : (s.step event).history.count outcome
      = (s.threads.step (event.map (s.next, ·))).2.count outcome + s.history.count outcome :=
    List.count_append
  rw [counted, counted]
  by_cases shown : .retransmitted msg ∈ (s.threads.step (event.map (s.next, ·))).2
  swap
  · rw [List.count_eq_zero.mpr shown]
    omega
  rcases s.threads.step_cases (event.map (s.next, ·)) with
    ⟨queryId, accepted, -, -, -, outcomes⟩ | ⟨-, outcomes⟩ | ⟨-, outcomes⟩
  · simp [outcomes] at shown
  · rw [outcomes] at shown
    have scanned : msg ∈ s.threads.handler.timerRoutine.retransmitted := by simpa using shown
    have sentOnce := RetransmitOutcome.count_scan_eq_one
      (retransmitted_nodup accounted.queued_le_one) scanned
    obtain ⟨key, entry, known, remaining, rfl⟩ := mem_retransmitted.mp scanned
    have budget := accounted.budget key entry known
    have accepted := accounted.accepted_of_known known
    rw [outcomes]
    omega
  · obtain ⟨other, same | same⟩ := outcomes _ shown <;> cases same

omit accounted

protected theorem step (accounted : s.Accounted) (event : RetransmitEvent μ) :
    (s.step event).Accounted where
  sizes := RetransmitThreads.sizeExact_step accounted.sizes _
  conserved msg := by
    have conserves := s.threads.step_conserves (event.map (s.next, ·)) msg
    have before := accounted.conserved msg
    simp only [RetransmitTrace.step, List.count_append]
    omega
  once msg := by
    have shown := accepted_step (s := s) event msg
    have before := accounted.once msg
    have unused := accounted.fresh msg
    simp only [RetransmitTrace.step, List.count_append]
    split at shown
    next own => have := unused (le_of_eq own.symm); omega
    next => omega
  fresh msg later := by
    have shown := accepted_step (s := s) event msg
    change s.next + 1 ≤ msg.1 at later
    have unused := accounted.fresh msg (by omega)
    rw [if_neg (by omega)] at shown
    simp only [RetransmitTrace.step, List.count_append]
    omega
  sent := accounted.sent_step event
  budget _ _ known := (accounted.entry_step event known).1
  passes _ _ known := (accounted.entry_step event known).2

end Accounted

/-- Every reachable state is accounted for. -/
theorem accounted_run (events : List (RetransmitEvent μ)) : (run step create events).Accounted :=
  List.foldlRecOn events step accounted_create fun _ accounted event _ => accounted.step event

/-- Once four timer passes went by and their calls were made, an accepted message has left. -/
theorem Accounted.left {s : RetransmitTrace μ} (accounted : s.Accounted) {msg : Nat × μ}
    (accepted : .accepted msg ∈ s.history) (passes : 4 ≤ s.passesSince msg)
    (armed : s.threads.timer = .armed) :
    s.history.count (.returned msg) + s.history.count (.timedOut msg) = 1 := by
  have once := accounted.once msg
  have shown : 0 < s.history.count (.accepted msg) := List.count_pos_iff.mpr accepted
  have conserved := accounted.conserved msg
  have notQueued : s.threads.handler.queued msg = 0 := by
    by_contra queued
    obtain ⟨key, entry, known, rfl⟩ := exists_of_queued queued
    have left := accounted.passes key entry known
    omega
  simp only [RetransmitThreads.held, notQueued, armed, TimerThread.pending, List.count_nil] at conserved
  omega

/-- In every run the running total is the sum of the queued sizes, an accepted message is exactly
one of queued, about to time out, returned once or timed out once, and it is sent again at
most three times. After four timer passes it has been returned or has timed out. -/
theorem retransmit_queue_conserved (events : List (RetransmitEvent μ)) :
    let s := run step create events
    s.threads.map Prod.snd = run RetransmitThreads.advance .create events ∧
      s.threads.handler.msgSizeTotal = Dict.total (·.msgSize) s.threads.handler.queryIdHash ∧
      (∀ msg, s.history.count (.accepted msg) ≤ 1 ∧
        s.history.count (.accepted msg) = s.threads.held msg + s.history.count (.returned msg)
          + s.history.count (.timedOut msg) ∧
        s.history.count (.retransmitted msg) ≤ 3) ∧
      ∀ msg, .accepted msg ∈ s.history → 4 ≤ s.passesSince msg → s.threads.timer = .armed →
        s.history.count (.returned msg) + s.history.count (.timedOut msg) = 1 := by
  have accounted := accounted_run events
  refine ⟨run_erases events create, accounted.sizes, fun msg => ?_, fun msg => accounted.left⟩
  have sent := accounted.sent msg
  have once := accounted.once msg
  exact ⟨once, accounted.conserved msg, by omega⟩

/-- One message, four passes with their calls and a late answer: the message times out after three
retransmissions. -/
theorem retransmit_queue_conserved_one_message :
    let events : List (RetransmitEvent Unit) := .queue 7 () 40 ::
      (List.replicate 4 [.timerFires, .timerCalls, .timerCalls]).flatten ++ [.deQueue 7]
    (run step create events).history.count (.timedOut (0, ())) = 1 := by
  intro events
  have left := (retransmit_queue_conserved events).2.2.2 (0, ()) (by decide +kernel)
    (by decide +kernel) (by rfl)
  have notReturned : (run step create events).history.count (.returned (0, ())) = 0 := by
    decide +kernel
  omega

end RetransmitTrace

end OpenDove
