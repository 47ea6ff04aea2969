import OpenDove.SinglyLinked
import OpenDove.Runs
import Mathlib.Logic.Function.Iterate

/-!
# The retransmission timer of raw packets

Packets that wait for an answer hang in the buckets of a hash table. A start appends a packet to its
bucket, a stop unlinks it and returns its context. Once a second a pass goes through the buckets: a
packet whose interval is over is sent again, or, if it was sent often enough, is unlinked and
reported to its owner. The pass holds the mutex while it is in a bucket, except while the callback
of an owner runs; it keeps pointers to the head of the bucket, to the current node and to the one
before it over the callback.

Nodes are addresses of a heap. A freed node keeps its content until the allocator gives its address
away again, so a pass that still holds a pointer to it reads what was there.
-/

namespace OpenDove

/-- What `raw_proto_timer_start` is given. Null pointers are the number zero. -/
structure RawPacket where
  pktId : Int
  data : List UInt8
  retransmitInterval : Int
  maxNumRetransmit : Int
  context : Nat
  owner : Nat
  sockFd : Int
  addr : Nat
  deriving DecidableEq, Repr

/-- `raw_proto_pkt_timer_t`, without its link. -/
structure RawNode where
  packet : RawPacket
  lastSentTime : Int
  transmitCount : Int
  deriving DecidableEq, Repr

/-- Where the retransmission thread is: between passes, before a bucket, at a node of a bucket with
the mutex, or in a callback without it. The node that the callback is about is freed after
it. -/
inductive PassPhase where
  | idle
  | bucket (index : Nat)
  | walking (index : Nat) (head prev curr : Option Nat)
  | calling (index : Nat) (head prev curr : Option Nat) (del : Nat)
  deriving DecidableEq, Repr

/-- What callers and owners see. -/
inductive RawEffect where
  | started (packet : RawPacket)
  | sent (packet : RawPacket)
  | stopped (pktId : Int) (nodeFound : Bool) (context : Nat) (owner : Nat)
  | maxNumRetransmitExceeded (packet : RawPacket)
  deriving DecidableEq, Repr

/-- The hash table, the heap of its nodes, the registered callbacks and the retransmission thread,
with what has been seen so far. -/
structure RawTimer where
  gHashTab : Int → Option Nat
  nodes : Nat → RawNode
  next : Nat → Option Nat
  allocated : List Nat
  rptCallbacks : Nat → Bool
  phase : PassPhase
  log : List RawEffect

/-- What the threads do. A start is given the address that the allocator returns, if it has one, and
the time; the steps of a pass are given the time. -/
inductive RawEvent where
  | start (packet : RawPacket) (address : Option Nat) (now : Int)
  | stop (pktId : Int)
  | pass
  | advance (now : Int)
  deriving DecidableEq, Repr

/-- `MAX_HASH_BUCKET`. -/
def maxHashBucket : Nat := 1000

/-- `RPT_OWNER_FIRST`. -/
def rptOwnerFirst : Nat := 1

/-- `RPT_OWNER_LAST`. -/
def rptOwnerLast : Nat := 4

/-- `IS_VALID_RPT_OWNER`. -/
def IsValidRptOwner (owner : Nat) : Prop :=
  rptOwnerFirst ≤ owner ∧ owner ≤ rptOwnerLast

instance (owner : Nat) : Decidable (IsValidRptOwner owner) :=
  inferInstanceAs (Decidable (_ ∧ _))

/-- The remainder of C, which has the sign of the key. -/
def hash (key : Int) : Int :=
  key.tmod maxHashBucket

/-- `1 + (2 ^ n - 1) / 2`, rounded up. The shift takes its distance modulo the width of an integer,
and the half is lost once a float has no bit for it. -/
def calculateRetryInterval (n : Int) : Int :=
  let distance := (n % 32).toNat
  if distance = 0 then 1
  else if distance ≤ 23 then 2 ^ (distance - 1) + 1
  else 2 ^ (distance - 1)

namespace RawTimer

def initial (rptCallbacks : Nat → Bool) : RawTimer where
  gHashTab := fun _ => none
  nodes := fun _ => ⟨⟨0, [], 0, 0, 0, 0, 0, 0⟩, 0, 0⟩
  next := fun _ => none
  allocated := []
  rptCallbacks := rptCallbacks
  phase := .idle
  log := []

variable (timer : RawTimer) (packet : RawPacket) (pktId : Int)

/-- Append a packet to its bucket. The walk to the end of a bucket takes no more steps than there
are nodes. -/
def insertRawPkt (address : Nat) (now : Int) : RawTimer :=
  let bucketIndex := hash packet.pktId
  let filled : RawTimer :=
    { timer with
      nodes := Function.update timer.nodes address ⟨packet, now, 1⟩
      next := Function.update timer.next address none
      allocated := address :: timer.allocated }
  match timer.gHashTab bucketIndex with
  | none => { filled with gHashTab := Function.update timer.gHashTab bucketIndex (some address) }
  | some first =>
    match lastFrom filled.next filled.allocated.length first with
    | some last => { filled with next := Function.update filled.next last (some address) }
    | none => filled

/-- `raw_proto_timer_start`: the owner is checked, and both allocations may fail. -/
def rawProtoTimerStart (address : Option Nat) (now : Int) : RawTimer :=
  match address with
  | none => timer
  | some address =>
    if IsValidRptOwner packet.owner then
      let inserted := timer.insertRawPkt packet address now
      { inserted with log := timer.log ++ [.started packet] }
    else timer

/-- Unlink and free the node of a packet. The index of the bucket is an unsigned number here. -/
def deleteRawPkt (rawPktId : Int) : RawTimer × Option RawPacket :=
  let hashval := hash rawPktId % 2 ^ 32
  match timer.gHashTab hashval with
  | none => (timer, none)
  | some bucketHeadNode =>
    if (timer.nodes bucketHeadNode).packet.pktId = rawPktId then
      ({ timer with
          gHashTab := Function.update timer.gHashTab hashval (timer.next bucketHeadNode)
          allocated := timer.allocated.erase bucketHeadNode },
        some (timer.nodes bucketHeadNode).packet)
    else
      match searchFrom timer.next (fun node => (timer.nodes node).packet.pktId = rawPktId)
          timer.allocated.length bucketHeadNode (timer.next bucketHeadNode) with
      | none => (timer, none)
      | some (prevTimerNode, timerNode) =>
        ({ timer with
            next := Function.update timer.next prevTimerNode (timer.next timerNode)
            allocated := timer.allocated.erase timerNode },
          some (timer.nodes timerNode).packet)

/-- `raw_proto_timer_stop`, which returns a null context and the first owner if it finds no node. -/
def rawProtoTimerStop (rawPktId : Int) : RawTimer :=
  if rawPktId = 0 then timer
  else
    match timer.deleteRawPkt rawPktId with
    | (deleted, some packet) =>
      { deleted with log := timer.log ++ [.stopped rawPktId true packet.context packet.owner] }
    | (deleted, none) =>
      { deleted with log := timer.log ++ [.stopped rawPktId false 0 rptOwnerFirst] }

/-- A packet is reported if its owner has registered a callback. -/
def notify : List RawEffect :=
  if IsValidRptOwner packet.owner ∧ timer.rptCallbacks packet.owner then
    [.maxNumRetransmitExceeded packet]
  else []

/-- The pass unlinks the current node and calls its owner. -/
def removeCurrent (index : Nat) (head prev : Option Nat) (curr : Nat) : RawTimer :=
  let next := match prev with
    | some previous => Function.update timer.next previous (timer.next curr)
    | none => timer.next
  let following := next curr
  let unlinked : RawTimer :=
    { timer with next := next, log := timer.log ++ timer.notify (timer.nodes curr).packet }
  if head = some curr then
    { unlinked with
      gHashTab := Function.update timer.gHashTab index following
      phase := .calling index following following following curr }
  else { unlinked with phase := .calling index head prev following curr }

/-- The pass looks at the current node. -/
def visit (now : Int) (index : Nat) (head prev : Option Nat) (curr : Nat) : RawTimer :=
  let node := timer.nodes curr
  let goOn := PassPhase.walking index head (some curr) (timer.next curr)
  if now - node.lastSentTime ≥ calculateRetryInterval node.transmitCount then
    if node.transmitCount ≤ node.packet.maxNumRetransmit then
      { timer with
        nodes := Function.update timer.nodes curr ⟨node.packet, now, node.transmitCount + 1⟩
        log := timer.log ++ [.sent node.packet]
        phase := goOn }
    else timer.removeCurrent index head prev curr
  else { timer with phase := goOn }

/-- The retransmission thread goes on with its pass. -/
def advance (now : Int) : RawTimer :=
  match timer.phase with
  | .idle => timer
  | .bucket index =>
    if index < maxHashBucket then
      match timer.gHashTab index with
      | none => { timer with phase := .bucket (index + 1) }
      | some head => { timer with phase := .walking index (some head) (some head) (some head) }
    else { timer with phase := .idle }
  | .walking index head prev (some curr) => timer.visit now index head prev curr
  | .walking index _ _ none => { timer with phase := .bucket (index + 1) }
  | .calling index head prev curr del =>
    { timer with
      allocated := timer.allocated.erase del
      phase := .walking index head prev curr }

/-- The mutex can be taken. -/
def Available : Prop :=
  match timer.phase with
  | .walking _ _ _ _ => False
  | .idle | .bucket _ | .calling _ _ _ _ _ => True

instance (timer : RawTimer) : Decidable timer.Available := by
  unfold Available
  cases timer.phase <;> infer_instance

/-- A start and a stop wait while the mutex is taken. -/
def step : RawEvent → RawTimer
  | .start packet address now =>
    if timer.Available then timer.rawProtoTimerStart packet address now else timer
  | .stop pktId => if timer.Available then timer.rawProtoTimerStop pktId else timer
  | .pass => if timer.phase = .idle then { timer with phase := .bucket 0 } else timer
  | .advance now => timer.advance now

/-- No packet was started with this id. -/
def Fresh : Prop :=
  ∀ effect ∈ timer.log,
    match effect with
    | .started packet => packet.pktId ≠ pktId
    | .sent _ | .stopped _ _ _ _ | .maxNumRetransmitExceeded _ => True

instance (timer : RawTimer) (pktId : Int) : Decidable (timer.Fresh pktId) :=
  have (effect : RawEffect) : Decidable
      (match effect with
        | .started packet => packet.pktId ≠ pktId
        | .sent _ | .stopped _ _ _ _ | .maxNumRetransmitExceeded _ => True : Prop) := by
    cases effect <;> infer_instance
  inferInstanceAs (Decidable (∀ effect ∈ timer.log, _))

/-- Packets are started with distinct ids other than zero, and the allocator returns no address that
is in use. -/
def Orderly : RawEvent → Prop
  | .start packet address _ =>
    timer.Available ∧ packet.pktId ≠ 0 ∧ timer.Fresh packet.pktId ∧
      ∀ node ∈ address, node ∉ timer.allocated
  | .stop _ => timer.Available
  | .pass => timer.phase = .idle
  | .advance _ => True

/-- The nodes that a pass goes on with when the callback returns. -/
def heldNodes : List Nat :=
  match timer.phase with
  | .calling _ head prev (some curr) _ => curr :: (head.toList ++ prev.toList)
  | .calling _ _ _ none _ | .idle | .bucket _ | .walking _ _ _ _ => []

/-- Moreover, ids are positive, owners have registered a callback, and no stop during a callback is
for a packet whose node the pass still holds. -/
def Meets (event : RawEvent) : Prop :=
  timer.Orderly event ∧
    match event with
    | .start packet _ _ => 0 < packet.pktId ∧ timer.rptCallbacks packet.owner
    | .stop pktId => ∀ node ∈ timer.heldNodes, (timer.nodes node).packet.pktId ≠ pktId
    | .pass | .advance _ => True

instance (timer : RawTimer) (event : RawEvent) : Decidable (timer.Orderly event) := by
  cases event <;> unfold Orderly <;> infer_instance

instance (timer : RawTimer) (event : RawEvent) : Decidable (timer.Meets event) := by
  cases event <;> unfold Meets <;> infer_instance

/-- An effect concerns the packet with an id. -/
def Concerns : RawEffect → Prop
  | .started packet | .sent packet | .maxNumRetransmitExceeded packet => packet.pktId = pktId
  | .stopped rawPktId _ _ _ => rawPktId = pktId

instance (pktId : Int) (effect : RawEffect) : Decidable (Concerns pktId effect) := by
  cases effect <;> unfold Concerns <;> infer_instance

/-- What has been seen of a packet, in order. -/
def trace : List RawEffect :=
  timer.log.filter fun effect => Concerns pktId effect

/-- A stop that found no node. -/
def missed : RawEffect :=
  .stopped pktId false 0 rptOwnerFirst

/-- The ways in which a started retransmission ends. -/
def outcomes : List RawEffect :=
  [.stopped packet.pktId true packet.context packet.owner, .maxNumRetransmitExceeded packet]

/-- A packet that was started is sent again at most as often as it allows. -/
def Retransmits (trace : List RawEffect) : Prop :=
  ∃ early sends : Nat, (sends : Int) ≤ max packet.maxNumRetransmit 0 ∧
    trace = List.replicate early (missed packet.pktId) ++
      .started packet :: List.replicate sends (.sent packet)

/-- A packet had one outcome, after which it is not sent and stops find nothing. -/
def Ended (trace : List RawEffect) : Prop :=
  ∃ before, Retransmits packet before ∧ ∃ outcome ∈ outcomes packet, ∃ late : Nat,
    trace = before ++ outcome :: List.replicate late (missed packet.pktId)

end RawTimer

/-! ## Query ids -/

/-- `raw_proto_query_id_generate`: the next value of its static counter is the id. -/
def rawProtoQueryIdGenerate (queryId : BitVec 32) : BitVec 32 :=
  if queryId = 0xFFFFFFFF#32 then 1#32 else queryId + 1#32

theorem rawProtoQueryIdGenerate_iterate (count : Nat) :
    (rawProtoQueryIdGenerate^[count + 1] 0#32).toNat = count % (2 ^ 32 - 1) + 1 := by
  induction count with
  | zero => rfl
  | succ count ih =>
    rw [Function.iterate_succ_apply', rawProtoQueryIdGenerate]
    split
    · next last =>
      rw [last] at ih
      simp only [BitVec.toNat_ofNat] at ih ⊢
      omega
    · next other =>
      rw [← BitVec.toNat_inj, BitVec.toNat_ofNat] at other
      rw [BitVec.toNat_add, BitVec.toNat_ofNat]
      omega

/-- The remainder of a negative key is not a bucket, unless the key is a multiple of the size. -/
theorem hash_nonneg_iff (key : Int) : 0 ≤ hash key ↔ 0 ≤ key ∨ key % maxHashBucket = 0 := by
  have remainder := Int.tmod_eq_emod (a := key) (b := maxHashBucket)
  rw [hash, remainder, maxHashBucket]
  split <;> omega

namespace RawTimer

/-- A packet of this id is put into a bucket of the table, and a stop takes it out of it. -/
def InTable (pktId : Int) : Prop :=
  ∃ index : Int, 0 ≤ index ∧ index < maxHashBucket ∧
    ∀ (timer : RawTimer) (packet : RawPacket) (address : Nat) (now : Int),
      packet.pktId = pktId → timer.gHashTab index = none →
      let inserted := timer.insertRawPkt packet address now
      inserted.gHashTab index = some address ∧
        (inserted.rawProtoTimerStop pktId).gHashTab index = none

theorem inTable_iff (pktId : Int) : InTable pktId ↔ pktId ≠ 0 ∧ 0 ≤ hash pktId := by
  constructor
  · rintro ⟨index, nonneg, -, taken⟩
    have both := taken (initial fun _ => false) ⟨pktId, [], 0, 0, 0, 0, 0, 0⟩ 0 0 rfl rfl
    have inserted : index = hash pktId := by
      by_contra other
      simpa [insertRawPkt, initial, other] using both.1
    refine ⟨?_, inserted ▸ nonneg⟩
    rintro rfl
    simpa [rawProtoTimerStop, both.1] using both.2
  · rintro ⟨accepted, nonneg⟩
    have small : hash pktId < maxHashBucket := Int.tmod_lt_of_pos pktId (by decide)
    have same : hash pktId % 4294967296 = hash pktId :=
      Int.emod_eq_of_lt nonneg (Int.lt_trans small (by decide))
    refine ⟨hash pktId, nonneg, small, ?_⟩
    rintro timer packet address now rfl empty
    simp [insertRawPkt, rawProtoTimerStop, deleteRawPkt, accepted, same, empty]

/-- Ids stay in the table while the counter is in its lower half. In the upper half they are
negative, and so is the index of their bucket unless it is zero. -/
theorem query_id_inTable_iff (count : Nat) :
    InTable (rawProtoQueryIdGenerate^[count + 1] 0#32).toInt ↔
      count % (2 ^ 32 - 1) + 1 < 2 ^ 31 ∨
        (2 ^ 32 - (count % (2 ^ 32 - 1) + 1)) % maxHashBucket = 0 := by
  rw [inTable_iff, hash_nonneg_iff, BitVec.toInt_eq_toNat_cond, rawProtoQueryIdGenerate_iterate,
    maxHashBucket]
  split <;> omega

theorem query_id_leaves_table :
    ¬ ∀ count, InTable (rawProtoQueryIdGenerate^[count + 1] 0#32).toInt := by
  intro always
  have half := always (2 ^ 31 - 1)
  rw [inTable_iff, hash_nonneg_iff, BitVec.toInt_eq_toNat_cond, rawProtoQueryIdGenerate_iterate,
    maxHashBucket] at half
  omega

end RawTimer

end OpenDove
