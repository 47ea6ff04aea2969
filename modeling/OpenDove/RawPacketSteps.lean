import OpenDove.RawPacketTimer
import Mathlib.Data.List.Perm.Subperm

/-!
# Steps of the retransmission timer

The buckets of the table are lists of nodes for different packets, and the pointers that a pass
holds are right for the list of its bucket: it is behind the end, at the first node with all
pointers on it, or at a later node with a pointer to the one before it. A start appends and keeps
these pointers right, and so does a stop of a packet whose node the pass does not hold. Under this
shape each step makes one change to the records in the table, and the pass comes closer to those
that it has still to look at.
-/

namespace OpenDove

open Function

variable {node other address index : Nat} {bucket pktId now : Int} {list todo after : List Nat}
  {curr prev head : Option Nat} {event : RawEvent} {next : Nat → Option Nat} {packet : RawPacket}
  {effect : RawEffect} {effects log : List RawEffect} {table : Int → Option Nat} {record : RawNode}
  {holds holds' : RawNode → Prop}

namespace RawTimer

/-! ## Records -/

/-- What a step does to the records in the table, and what is seen of it. -/
inductive Change (holds holds' : RawNode → Prop) (log : List RawEffect) : List RawEffect → Prop where
  | none (same : ∀ other, holds' other ↔ holds other) : Change holds holds' log []
  | missed (pktId : Int) (absent : ∀ other, holds other → other.packet.pktId ≠ pktId)
    (same : ∀ other, holds' other ↔ holds other) : Change holds holds' log [missed pktId]
  | started (packet : RawPacket) (now : Int)
    (fresh : ∀ other, .started other ∈ log → other.pktId ≠ packet.pktId)
    (added : ∀ other, holds' other ↔ holds other ∨ other = ⟨packet, now, 1⟩) :
    Change holds holds' log [.started packet]
  | sent (record : RawNode) (now : Int) (held : holds record)
    (more : record.transmitCount ≤ record.packet.maxNumRetransmit)
    (replaced : ∀ other, holds' other ↔ holds other ∧ other.packet.pktId ≠ record.packet.pktId ∨
      other = ⟨record.packet, now, record.transmitCount + 1⟩) :
    Change holds holds' log [.sent record.packet]
  | ended (record : RawNode) (held : holds record) (outcome : RawEffect)
    (isOutcome : outcome ∈ outcomes record.packet)
    (removed : ∀ other, holds' other ↔ holds other ∧ other.packet.pktId ≠ record.packet.pktId) :
    Change holds holds' log [outcome]

/-- What became of an id: no packet was started with it, its packet waits, or it had its outcome. -/
inductive Course (holds : RawNode → Prop) (trace : List RawEffect) (pktId : Int) : Prop where
  | fresh (early : Nat) (absent : ∀ record, holds record → record.packet.pktId ≠ pktId)
    (traced : trace = List.replicate early (missed pktId))
  | pending (packet : RawPacket) (early sends : Nat) (last : Int) (isPacket : packet.pktId = pktId)
    (held : holds ⟨packet, last, sends + 1⟩) (bounded : (sends : Int) ≤ max packet.maxNumRetransmit 0)
    (traced : trace = List.replicate early (missed packet.pktId) ++
      .started packet :: List.replicate sends (.sent packet))
  | ended (packet : RawPacket) (isPacket : packet.pktId = pktId)
    (absent : ∀ record, holds record → record.packet.pktId ≠ pktId) (ended : Ended packet trace)

/-- What has been seen of a packet in a log. -/
def traceOf (log : List RawEffect) (pktId : Int) : List RawEffect :=
  log.filter fun effect => Concerns pktId effect

theorem traceOf_concat (log : List RawEffect) (effect : RawEffect) (pktId : Int) :
    traceOf (log ++ [effect]) pktId =
      if Concerns pktId effect then traceOf log pktId ++ [effect] else traceOf log pktId := by
  rw [traceOf, List.filter_append, List.filter_singleton]
  split
  · next concerns => rw [decide_eq_true concerns, cond_true, traceOf]
  · next other => rw [decide_eq_false other, cond_false, List.append_nil, traceOf]

/-- An id takes its course as before if the records of its packet and what is seen of it stay. -/
theorem Course.congr {trace trace' : List RawEffect} (course : Course holds trace pktId)
    (same : ∀ record, record.packet.pktId = pktId → (holds' record ↔ holds record))
    (traced : trace' = trace) : Course holds' trace' pktId := by
  have gone : (∀ record, holds record → record.packet.pktId ≠ pktId) →
      ∀ record, holds' record → record.packet.pktId ≠ pktId :=
    fun absent record held isPacket => absent record ((same record isPacket).mp held) isPacket
  subst traced
  cases course with
  | fresh early absent traced => exact .fresh early (gone absent) traced
  | pending packet early sends last isPacket held bounded traced =>
    exact .pending packet early sends last isPacket ((same _ isPacket).mpr held) bounded traced
  | ended packet isPacket absent ended => exact .ended packet isPacket (gone absent) ended

/-- A packet that waits is that of its record. -/
theorem Course.of_held {trace : List RawEffect} (course : Course holds trace record.packet.pktId)
    (unique : ∀ record other, holds record → holds other →
      record.packet.pktId = other.packet.pktId → record = other) (held : holds record) :
    ∃ early sends : Nat, record.transmitCount = sends + 1 ∧
      (sends : Int) ≤ max record.packet.maxNumRetransmit 0 ∧
      trace = List.replicate early (missed record.packet.pktId) ++
        .started record.packet :: List.replicate sends (.sent record.packet) := by
  cases course with
  | fresh early absent _ => exact absurd rfl (absent record held)
  | pending packet early sends last isPacket held' bounded traced =>
    obtain rfl := unique record _ held held' isPacket.symm
    exact ⟨early, sends, rfl, bounded, traced⟩
  | ended packet _ absent _ => exact absurd rfl (absent record held)

/-- An id with which no packet was started is free. -/
theorem Course.of_fresh (course : Course holds (traceOf log pktId) pktId)
    (fresh : ∀ other, .started other ∈ log → other.pktId ≠ pktId) :
    ∃ early : Nat, (∀ record, holds record → record.packet.pktId ≠ pktId) ∧
      traceOf log pktId = List.replicate early (missed pktId) := by
  have notStarted : ∀ packet, packet.pktId = pktId → .started packet ∉ traceOf log pktId :=
    fun packet isPacket seen => fresh packet (List.mem_filter.mp seen).1 isPacket
  cases course with
  | fresh early absent traced => exact ⟨early, absent, traced⟩
  | pending packet early sends last isPacket held bounded traced =>
    refine absurd ?_ (notStarted packet isPacket)
    rw [traced]
    exact List.mem_append_right _ List.mem_cons_self
  | ended packet isPacket absent ended =>
    obtain ⟨before, ⟨early, sends, -, rfl⟩, outcome, -, late, traced⟩ := ended
    refine absurd ?_ (notStarted packet isPacket)
    rw [traced]
    exact List.mem_append_left _ (List.mem_append_right _ List.mem_cons_self)

/-- Every change carries every id on. -/
theorem Change.course (change : Change holds holds' log effects)
    (unique : ∀ record other, holds record → holds other →
      record.packet.pktId = other.packet.pktId → record = other)
    (course : Course holds (traceOf log pktId) pktId) :
    Course holds' (traceOf (log ++ effects) pktId) pktId := by
  cases change with
  | none same => exact course.congr (fun record _ => same record) (by rw [List.append_nil])
  | missed missedId absent same =>
    rw [traceOf_concat]
    split
    · next concerns =>
      obtain rfl : missedId = pktId := concerns
      cases course with
      | fresh early _ traced =>
        refine .fresh (early + 1) (fun record held => absent record ((same record).mp held)) ?_
        rw [traced, List.replicate_succ']
      | pending packet early sends last isPacket held => exact absurd isPacket (absent _ held)
      | ended packet isPacket _ ended =>
        obtain ⟨before, retransmits, outcome, isOutcome, late, traced⟩ := ended
        refine .ended packet isPacket (fun record held => absent record ((same record).mp held))
          ⟨before, retransmits, outcome, isOutcome, late + 1, ?_⟩
        rw [traced, List.append_assoc, List.cons_append, List.replicate_succ', isPacket]
    · exact course.congr (fun record _ => same record) rfl
  | started packet now fresh added =>
    rw [traceOf_concat]
    split
    · next concerns =>
      obtain rfl : packet.pktId = pktId := concerns
      obtain ⟨early, -, traced⟩ := course.of_fresh fresh
      refine .pending packet early 0 now rfl ((added _).mpr (.inr rfl)) (Int.le_max_right _ _) ?_
      rw [traced]
      rfl
    · next other =>
      refine course.congr (fun record isPacket => (added record).trans (or_iff_left ?_)) rfl
      rintro rfl
      exact other isPacket
  | sent record now held more replaced =>
    rw [traceOf_concat]
    split
    · next concerns =>
      obtain rfl : record.packet.pktId = pktId := concerns
      obtain ⟨early, sends, count, bounded, traced⟩ := course.of_held unique held
      refine .pending record.packet early (sends + 1) now rfl ?_ ?_ ?_
      · exact (replaced _).mpr (.inr (by rw [count]; rfl))
      · push_cast
        omega
      · rw [traced, List.append_assoc, List.cons_append, List.replicate_succ']
    · next other =>
      refine course.congr (fun record' isPacket => (replaced record').trans ?_) rfl
      have differs : record'.packet.pktId ≠ record.packet.pktId := fun same =>
        other (same.symm.trans isPacket)
      rw [and_iff_left differs, or_iff_left]
      rintro rfl
      exact differs rfl
  | ended record held outcome isOutcome removed =>
    have concerns : Concerns pktId outcome ↔ record.packet.pktId = pktId := by
      rcases List.mem_pair.mp isOutcome with rfl | rfl <;> rfl
    rw [traceOf_concat]
    split
    · next concerns' =>
      obtain rfl := concerns.mp concerns'
      obtain ⟨early, sends, -, bounded, traced⟩ := course.of_held unique held
      exact .ended record.packet rfl (fun other held' => ((removed other).mp held').2)
        ⟨_, ⟨early, sends, bounded, traced⟩, outcome, isOutcome, 0, rfl⟩
    · next other =>
      refine course.congr (fun record' isPacket => (removed record').trans (and_iff_left ?_)) rfl
      exact fun same => other (concerns.mpr (same.symm.trans isPacket))

/-- A record that waits stays, or makes room for one with another send. -/
theorem Change.later (change : Change holds holds' log effects)
    (unique : ∀ record other, holds record → holds other →
      record.packet.pktId = other.packet.pktId → record = other) {later : RawNode}
    (held : holds record) (held' : holds' later) (started : .started record.packet ∈ log)
    (same : later.packet.pktId = record.packet.pktId) :
    later = record ∨ ∃ now, later = ⟨record.packet, now, record.transmitCount + 1⟩ := by
  cases change with
  | none kept => exact .inl (unique _ _ ((kept later).mp held') held same)
  | missed _ _ kept => exact .inl (unique _ _ ((kept later).mp held') held same)
  | started packet now fresh added =>
    rcases (added later).mp held' with old | rfl
    · exact .inl (unique _ _ old held same)
    · exact absurd same.symm (fresh _ started)
  | sent record' now old more replaced =>
    rcases (replaced later).mp held' with ⟨kept, -⟩ | rfl
    · exact .inl (unique _ _ kept held same)
    · obtain rfl := unique record' record old held same
      exact .inr ⟨now, rfl⟩
  | ended record' _ _ _ removed => exact .inl (unique _ _ ((removed later).mp held').1 held same)

/-! ## The shape of the table -/

/-- The id of the packet in a node. -/
def idOf (timer : RawTimer) (node : Nat) : Int :=
  (timer.nodes node).packet.pktId

/-- Where a pass stands in the list of its bucket, and the nodes that it has still to look at: behind
the end, at the first node with all pointers on it, or at a later one with a pointer to the node
before it. -/
inductive Cursor : List Nat → List Nat → Option Nat → Option Nat → Option Nat → Prop where
  | behind (list : List Nat) (head prev : Option Nat) : Cursor list [] head prev none
  | first (curr : Nat) (rest : List Nat) :
    Cursor (curr :: rest) (curr :: rest) (some curr) (some curr) (some curr)
  | later (first : Nat) (before : List Nat) (curr : Nat) (rest : List Nat) :
    Cursor (first :: before ++ curr :: rest) (curr :: rest) (some first)
      (some (before.getLastD first)) (some curr)

/-- The pointers that the pass holds are right for the lists. -/
def Stands (lists : Int → List Nat) (allocated todo : List Nat) : PassPhase → Prop
  | .idle | .bucket _ => todo = []
  | .walking index head prev curr => Cursor (lists index) todo head prev curr
  | .calling index head prev curr del =>
    Cursor (lists index) todo head prev curr ∧ del ∈ allocated ∧ ∀ other, del ∉ lists other

/-- A packet is in its bucket, has a positive id, and its owner has registered a callback. -/
structure Seated (rptCallbacks : Nat → Bool) (bucket : Int) (packet : RawPacket) : Prop where
  home : hash packet.pktId = bucket
  positive : 0 < packet.pktId
  registered : IsValidRptOwner packet.owner ∧ rptCallbacks packet.owner

/-- The table spells the lists, which hold the nodes of different packets, each in its bucket. -/
structure Shape (timer : RawTimer) (lists : Int → List Nat) (todo : List Nat) : Prop where
  chain : ∀ bucket, Chain timer.next (timer.gHashTab bucket) (lists bucket)
  distinct : ∀ bucket, ((lists bucket).map timer.idOf).Nodup
  allocated : ∀ bucket, ∀ node ∈ lists bucket, node ∈ timer.allocated
  seated : ∀ bucket, ∀ node ∈ lists bucket,
    Seated timer.rptCallbacks bucket (timer.nodes node).packet
  stands : Stands lists timer.allocated todo timer.phase

/-- The table holds a record. -/
def Holds (timer : RawTimer) (lists : Int → List Nat) (record : RawNode) : Prop :=
  ∃ bucket, ∃ node ∈ lists bucket, timer.nodes node = record

/-- The pass will still come to a record. -/
def Ahead (timer : RawTimer) (todo : List Nat) (record : RawNode) : Prop :=
  match timer.phase with
  | .idle => False
  | .bucket index => (index : Int) ≤ hash record.packet.pktId
  | .walking index _ _ _ | .calling index _ _ _ _ =>
    (index : Int) < hash record.packet.pktId ∨ ∃ node ∈ todo, timer.nodes node = record

/-- A record is due if a pass goes on now. -/
def Due (event : RawEvent) (record : RawNode) : Prop :=
  ∀ now, event = .advance now →
    calculateRetryInterval record.transmitCount ≤ now - record.lastSentTime

/-- What a step does: it keeps the shape of the table, makes a change to its records, and the pass
goes on to come to those that stay, if they are due. -/
def Carries (timer : RawTimer) (lists : Int → List Nat) (todo : List Nat) (event : RawEvent)
    (timer' : RawTimer) : Prop :=
  ∃ lists' todo' effects, timer'.Shape lists' todo' ∧ timer'.log = timer.log ++ effects ∧
    Change (timer.Holds lists) (timer'.Holds lists') timer.log effects ∧
    ∀ record, timer'.Holds lists' record → Due event record → timer.Ahead todo record →
      timer'.Ahead todo' record

variable {timer timer' : RawTimer} {lists lists' : Int → List Nat} {todo' : List Nat}

variable {current : Nat}

theorem Cursor.eq_nil (cursor : Cursor list todo head prev none) : todo = [] := by
  cases cursor
  rfl

theorem Cursor.subset (cursor : Cursor list todo head prev curr) : todo ⊆ list := by
  cases cursor with
  | behind => exact List.nil_subset _
  | first curr rest => exact List.Subset.refl _
  | later first before curr rest => exact List.subset_append_right _ _

/-- The pass goes on to the next node. -/
theorem Cursor.goOn (cursor : Cursor list todo head prev (some current)) {start : Option Nat}
    (chain : Chain next start list) :
    ∃ rest, todo = current :: rest ∧ Cursor list rest head (some current) (next current) := by
  cases cursor with
  | first _ rest =>
    refine ⟨rest, rfl, ?_⟩
    rw [chain.2.start_eq]
    cases rest with
    | nil => exact .behind _ _ _
    | cons following rest => exact .later current [] following rest
  | later first before _ rest =>
    refine ⟨rest, rfl, ?_⟩
    rw [chain.next_eq]
    cases rest with
    | nil => exact .behind _ _ _
    | cons following rest =>
      have goesOn := Cursor.later first (before ++ [current]) following rest
      rw [List.getLastD_concat, ← List.cons_append, ← List.append_cons] at goesOn
      exact goesOn

/-- The lists without a node. -/
def without (lists : Int → List Nat) (node : Nat) (bucket : Int) : List Nat :=
  (lists bucket).filter fun other => other ≠ node

theorem mem_without : other ∈ without lists node bucket ↔ other ∈ lists bucket ∧ other ≠ node := by
  rw [without, List.mem_filter, decide_eq_true_eq]

theorem filter_ne_self (absent : node ∉ list) : (list.filter fun other => other ≠ node) = list := by
  apply List.filter_eq_self.mpr
  intro other listed
  apply decide_eq_true
  rintro rfl
  exact absent listed

theorem filter_ne_split {before : List Nat} (distinct : (before ++ node :: after).Nodup) :
    ((before ++ node :: after).filter fun other => other ≠ node) = before ++ after := by
  obtain ⟨-, distinctAfter, apart⟩ := List.nodup_append.mp distinct
  have notBefore : node ∉ before := fun listed => apart node listed node List.mem_cons_self rfl
  have notAfter : node ∉ after := (List.nodup_cons.mp distinctAfter).1
  rw [List.filter_append, filter_ne_self notBefore, List.filter_cons_of_neg,
    filter_ne_self notAfter]
  exact fun differs => of_decide_eq_true differs rfl

section Steps

variable (shape : timer.Shape lists todo)

include shape

theorem Shape.nodup (bucket : Int) : (lists bucket).Nodup :=
  .of_map _ (shape.distinct bucket)

/-- There are enough steps for the walk of a bucket. -/
theorem Shape.length_le (bucket : Int) : (lists bucket).length ≤ timer.allocated.length :=
  ((shape.nodup bucket).subperm (shape.allocated bucket)).length_le

theorem Shape.node_eq {bucket' : Int} (listed : node ∈ lists bucket)
    (listed' : other ∈ lists bucket') (same : timer.idOf node = timer.idOf other) : node = other := by
  obtain rfl : bucket = bucket' := by
    rw [← (shape.seated bucket node listed).home, ← (shape.seated bucket' other listed').home]
    exact congrArg hash same
  exact List.inj_on_of_nodup_map (shape.distinct bucket) listed listed' same

theorem Shape.unique (record other : RawNode)
    (held : timer.Holds lists record) (held' : timer.Holds lists other)
    (same : record.packet.pktId = other.packet.pktId) : record = other := by
  obtain ⟨_, node, listed, rfl⟩ := held
  obtain ⟨_, node', listed', rfl⟩ := held'
  rw [shape.node_eq listed listed' same]

/-- A record is in the bucket of its id. -/
theorem Shape.home (held : timer.Holds lists record) :
    ∃ node ∈ lists (hash record.packet.pktId), timer.nodes node = record := by
  obtain ⟨bucket, node, listed, rfl⟩ := held
  exact ⟨node, (shape.seated bucket node listed).home ▸ listed, rfl⟩

theorem Shape.hash_bounds (listed : node ∈ lists bucket) : 0 ≤ bucket ∧ bucket < maxHashBucket := by
  have seated := shape.seated bucket node listed
  rw [← seated.home]
  exact ⟨(hash_nonneg_iff _).2 (.inl (Int.le_of_lt seated.positive)),
    Int.tmod_lt_of_pos _ (by decide)⟩

/-- The shape of the table after a step that starts no packet. -/
theorem Shape.of_sublist
    (chain : ∀ bucket, Chain timer'.next (timer'.gHashTab bucket) (lists' bucket))
    (sublist : ∀ bucket, (lists' bucket).Sublist (lists bucket))
    (packets : ∀ node, (timer'.nodes node).packet = (timer.nodes node).packet)
    (callbacks : timer'.rptCallbacks = timer.rptCallbacks)
    (allocated : ∀ bucket, ∀ node ∈ lists' bucket, node ∈ timer'.allocated)
    (stands : Stands lists' timer'.allocated todo' timer'.phase) : timer'.Shape lists' todo' := by
  have sameIds : timer'.idOf = timer.idOf := funext fun node => congrArg RawPacket.pktId (packets node)
  refine ⟨chain, fun bucket => ?_, allocated, fun bucket node listed => ?_, stands⟩
  · rw [sameIds]
    exact (shape.distinct bucket).sublist ((sublist bucket).map _)
  · rw [packets, callbacks]
    exact shape.seated bucket node ((sublist bucket).subset listed)

/-- A step that only moves the pass. -/
theorem Shape.moves (todo' : List Nat) {phase : PassPhase}
    {allocated : List Nat} (stands : Stands lists allocated todo' phase)
    (inUse : ∀ bucket, ∀ node ∈ lists bucket, node ∈ allocated)
    (ahead : ∀ record, timer.Holds lists record → Due event record → timer.Ahead todo record →
      Ahead { timer with phase := phase, allocated := allocated } todo' record) :
    timer.Carries lists todo event { timer with phase := phase, allocated := allocated } :=
  ⟨lists, todo', [], shape.of_sublist shape.chain (fun _ => .refl _) (fun _ => rfl) rfl inUse stands,
    (List.append_nil _).symm, .none fun _ => Iff.rfl, ahead⟩

theorem Shape.carries_bucket (phase : timer.phase = .bucket index) :
    timer.Carries lists todo (.advance now) (timer.advance now) := by
  have chain := shape.chain index
  simp only [advance, phase]
  split
  · cases head : timer.gHashTab index with
    | none =>
      rw [head] at chain
      refine shape.moves [] rfl shape.allocated fun record held _ ahead => ?_
      rw [Ahead, phase] at ahead
      have notHere : (index : Int) ≠ hash record.packet.pktId := by
        intro here
        obtain ⟨node, listed, -⟩ := shape.home held
        rw [← here, List.head?_eq_none_iff.mp chain.start_eq.symm] at listed
        cases listed
      change ((index + 1 : Nat) : Int) ≤ hash record.packet.pktId
      omega
    | some first =>
      have cursor : Cursor (lists index) (lists index) (some first) (some first) (some first) := by
        cases split : lists index with
        | nil =>
          rw [split, head] at chain
          cases chain
        | cons node rest =>
          rw [split, head] at chain
          obtain rfl : first = node := Option.some.inj chain.1
          exact .first first rest
      refine shape.moves _ cursor shape.allocated fun record held _ ahead => ?_
      rw [Ahead, phase] at ahead
      refine (Int.lt_or_eq_of_le ahead).imp_right fun here => ?_
      rw [here]
      exact shape.home held
  · next past =>
    refine shape.moves [] rfl shape.allocated fun record held _ ahead => ?_
    rw [Ahead, phase] at ahead
    obtain ⟨node, listed, -⟩ := shape.home held
    have bounds := shape.hash_bounds listed
    omega

theorem Shape.carries_walked (phase : timer.phase = .walking index head prev none) :
    timer.Carries lists todo (.advance now) (timer.advance now) := by
  have cursor := shape.stands
  rw [phase] at cursor
  obtain rfl := Cursor.eq_nil cursor
  simp only [advance, phase]
  refine shape.moves [] rfl shape.allocated fun record _ _ ahead => ?_
  rw [Ahead, phase] at ahead
  rcases ahead with earlier | ⟨node, listed, -⟩
  · change ((index + 1 : Nat) : Int) ≤ hash record.packet.pktId
    omega
  · cases listed

theorem Shape.carries_called {del : Nat} (phase : timer.phase = .calling index head prev curr del) :
    timer.Carries lists todo (.advance now) (timer.advance now) := by
  have stands := shape.stands
  rw [phase] at stands
  obtain ⟨cursor, -, unlinked⟩ := stands
  simp only [advance, phase]
  refine shape.moves todo cursor (fun bucket node listed => ?_) fun record _ _ ahead => ?_
  · have differs : node ≠ del := fun same => unlinked bucket (same ▸ listed)
    exact (List.mem_erase_of_ne differs).mpr (shape.allocated bucket node listed)
  · rw [Ahead, phase] at ahead
    exact ahead

/-! ## The current node -/

/-- The chains of the other buckets stay when a node is unlinked from one. -/
theorem Shape.chain_without (before after : List Nat)
    (split : lists bucket = before ++ node :: after)
    (own : Chain next (table bucket) (before ++ after))
    (tables : ∀ other, other ≠ bucket → table other = timer.gHashTab other)
    (nexts : ∀ other, other ∉ lists bucket → next other = timer.next other) (other : Int) :
    Chain next (table other) (without lists node other) := by
  have distinct := shape.nodup bucket
  by_cases same : other = bucket
  · rw [same, without, split, filter_ne_split (split ▸ distinct)]
    exact own
  · have apart : ∀ node' ∈ lists other, node' ∉ lists bucket := fun node' listed listed' =>
      same ((shape.seated other node' listed).home.symm.trans
        (shape.seated bucket node' listed').home)
    have absent : node ∉ lists other := by
      intro listed
      apply apart node listed
      rw [split]
      exact List.mem_append_right before List.mem_cons_self
    rw [without, filter_ne_self absent, tables other same]
    exact (shape.chain other).congr fun node' listed => nexts node' (apart node' listed)

/-- The first node of a bucket is unlinked. -/
theorem Shape.chain_without_head (split : lists bucket = node :: after) (other : Int) :
    Chain timer.next (update timer.gHashTab bucket (timer.next node) other)
      (without lists node other) := by
  have chain := shape.chain bucket
  rw [split] at chain
  apply shape.chain_without [] after split
  · rw [update_self]
    exact chain.2
  · exact fun other differs => update_of_ne differs _ _
  · exact fun _ _ => rfl

/-- A later node of a bucket is unlinked. -/
theorem Shape.chain_without_next {first : Nat} {before : List Nat}
    (split : lists bucket = first :: before ++ node :: after) (other : Int) :
    Chain (update timer.next (before.getLastD first) (timer.next node))
      (timer.gHashTab other) (without lists node other) := by
  have chain := shape.chain bucket
  have distinct := shape.nodup bucket
  rw [split] at chain distinct
  apply shape.chain_without (first :: before) after split (chain.remove_next distinct)
  · exact fun _ _ => rfl
  · intro other absent
    apply update_of_ne
    rintro rfl
    apply absent
    rw [split]
    exact List.mem_append_left _ List.getLastD_mem_cons

/-- A node is unlinked with an outcome for its packet. -/
theorem Shape.removes (todo' : List Nat) (listed : node ∈ lists bucket)
    (isOutcome : effect ∈ outcomes (timer.nodes node).packet)
    (chain : ∀ bucket, Chain timer'.next (timer'.gHashTab bucket) (without lists node bucket))
    (nodes : timer'.nodes = timer.nodes) (callbacks : timer'.rptCallbacks = timer.rptCallbacks)
    (allocated : ∀ other, other ≠ node → other ∈ timer.allocated → other ∈ timer'.allocated)
    (logged : timer'.log = timer.log ++ [effect])
    (stands : Stands (without lists node) timer'.allocated todo' timer'.phase)
    (ahead : ∀ record, record.packet.pktId ≠ timer.idOf node → timer.Ahead todo record →
      timer'.Ahead todo' record) : timer.Carries lists todo event timer' := by
  have removed : ∀ record, timer'.Holds (without lists node) record ↔
      timer.Holds lists record ∧ record.packet.pktId ≠ (timer.nodes node).packet.pktId := by
    intro record
    unfold Holds
    rw [nodes]
    constructor
    · rintro ⟨bucket', other, listed', rfl⟩
      obtain ⟨listed', differs⟩ := mem_without.mp listed'
      exact ⟨⟨bucket', other, listed', rfl⟩, fun same => differs (shape.node_eq listed' listed same)⟩
    · rintro ⟨⟨bucket', other, listed', rfl⟩, differs⟩
      refine ⟨bucket', other, mem_without.mpr ⟨listed', ?_⟩, rfl⟩
      rintro rfl
      exact differs rfl
  refine ⟨without lists node, todo', [effect], ?_, logged,
    .ended _ ⟨bucket, node, listed, rfl⟩ effect isOutcome removed,
    fun record held _ => ahead record ((removed record).mp held).2⟩
  refine shape.of_sublist chain (fun _ => List.filter_sublist) (fun _ => by rw [nodes]) callbacks ?_
    stands
  intro bucket' other listed'
  obtain ⟨listed', differs⟩ := mem_without.mp listed'
  exact allocated other differs (shape.allocated bucket' other listed')

section Current

variable (phase : timer.phase = .walking index head prev (some current))

include phase

omit shape in
/-- The pass leaves the current node behind, and comes closer to the others. -/
theorem Ahead.goOn {rest : List Nat} (ahead : timer.Ahead (current :: rest) record)
    (differs : timer.nodes current ≠ record) :
    (index : Int) < hash record.packet.pktId ∨ ∃ node ∈ rest, timer.nodes node = record := by
  rw [Ahead, phase] at ahead
  refine ahead.imp_right fun ⟨node, listed, isRecord⟩ => ⟨node, ?_, isRecord⟩
  refine (List.mem_cons.mp listed).resolve_left ?_
  rintro rfl
  exact differs isRecord

/-- The current node is not due. -/
theorem Shape.carries_skip
    (notDue : ¬now - (timer.nodes current).lastSentTime ≥
      calculateRetryInterval (timer.nodes current).transmitCount) :
    timer.Carries lists todo (.advance now)
      { timer with phase := .walking index head (some current) (timer.next current) } := by
  have stands := shape.stands
  rw [phase] at stands
  obtain ⟨rest, rfl, goesOn⟩ := Cursor.goOn stands (shape.chain index)
  refine shape.moves rest goesOn shape.allocated fun record _ due ahead => ahead.goOn phase ?_
  rintro rfl
  exact notDue (due now rfl)

/-- The current node is due and sent again. -/
theorem Shape.carries_send
    (more : (timer.nodes current).transmitCount ≤ (timer.nodes current).packet.maxNumRetransmit) :
    timer.Carries lists todo (.advance now)
      { timer with
        nodes := update timer.nodes current
          ⟨(timer.nodes current).packet, now, (timer.nodes current).transmitCount + 1⟩
        log := timer.log ++ [.sent (timer.nodes current).packet]
        phase := .walking index head (some current) (timer.next current) } := by
  have stands := shape.stands
  rw [phase] at stands
  have listed := Cursor.subset stands
  obtain ⟨rest, rfl, goesOn⟩ := Cursor.goOn stands (shape.chain index)
  replace listed : current ∈ lists index := listed List.mem_cons_self
  set sent : RawNode :=
    ⟨(timer.nodes current).packet, now, (timer.nodes current).transmitCount + 1⟩
  have packets : ∀ node, (update timer.nodes current sent node).packet =
      (timer.nodes node).packet := by
    intro node
    by_cases isCurrent : node = current
    · rw [isCurrent, update_self]
    · rw [update_of_ne isCurrent]
  have replaced : ∀ record, (∃ bucket, ∃ node ∈ lists bucket,
      update timer.nodes current sent node = record) ↔ timer.Holds lists record ∧
        record.packet.pktId ≠ (timer.nodes current).packet.pktId ∨ record = sent := by
    intro record
    constructor
    · rintro ⟨bucket, node, listed', rfl⟩
      by_cases isCurrent : node = current
      · rw [isCurrent, update_self]
        exact .inr rfl
      · rw [update_of_ne isCurrent]
        exact .inl ⟨⟨bucket, node, listed', rfl⟩, fun same =>
          isCurrent (shape.node_eq listed' listed same)⟩
    · rintro (⟨⟨bucket, node, listed', rfl⟩, differs⟩ | rfl)
      · refine ⟨bucket, node, listed', update_of_ne ?_ _ _⟩
        rintro rfl
        exact differs rfl
      · exact ⟨index, current, listed, update_self _ _ _⟩
  refine ⟨lists, rest, _, shape.of_sublist shape.chain (fun _ => .refl _) packets rfl shape.allocated
    goesOn, rfl, .sent _ now ⟨index, current, listed, rfl⟩ more replaced, fun record held _ ahead => ?_⟩
  have differs : timer.nodes current ≠ record := by
    rintro rfl
    rcases (replaced _).mp held with ⟨-, differs⟩ | same
    · exact differs rfl
    · have count := congrArg RawNode.transmitCount same
      dsimp only [sent] at count
      omega
  refine (ahead.goOn phase differs).imp_right fun ⟨node, later, isRecord⟩ => ⟨node, later, ?_⟩
  refine (update_of_ne ?_ _ _).trans isRecord
  rintro rfl
  exact differs isRecord

omit phase in
theorem Shape.notify_eq (listed : node ∈ lists bucket) :
    timer.notify (timer.nodes node).packet =
      [.maxNumRetransmitExceeded (timer.nodes node).packet] :=
  if_pos (shape.seated bucket node listed).registered

/-- The current node was sent often enough: it is unlinked and its owner is called. -/
theorem Shape.carries_removeCurrent :
    timer.Carries lists todo (.advance now) (timer.removeCurrent index head prev current) := by
  have cursor := shape.stands
  rw [phase] at cursor
  have listed := Cursor.subset cursor
  obtain ⟨rest, rfl, -⟩ := Cursor.goOn cursor (shape.chain index)
  replace listed : current ∈ lists index := listed List.mem_cons_self
  have inUse := shape.allocated index current listed
  have unlinked : ∀ other, current ∉ without lists current other :=
    fun other listed => (mem_without.mp listed).2 rfl
  have isOutcome : .maxNumRetransmitExceeded (timer.nodes current).packet ∈
      outcomes (timer.nodes current).packet := List.mem_cons_of_mem _ List.mem_cons_self
  have ahead : ∀ record, record.packet.pktId ≠ timer.idOf current →
      timer.Ahead (current :: rest) record → (index : Int) < hash record.packet.pktId ∨
        ∃ node ∈ rest, timer.nodes node = record := by
    intro record differs ahead
    refine ahead.goOn phase ?_
    rintro rfl
    exact differs rfl
  have chain := shape.chain index
  have distinct := shape.nodup index
  change Cursor (lists index) (current :: rest) head prev (some current) at cursor
  generalize split : lists index = list at cursor chain distinct
  cases cursor with
  | first _ _ =>
    rw [removeCurrent, if_pos rfl, shape.notify_eq listed]
    simp only [update_eq_self]
    refine shape.removes rest listed isOutcome (shape.chain_without_head split) rfl rfl
      (fun _ _ inUse => inUse) rfl ⟨?_, inUse, unlinked⟩ ahead
    have unsplit : ((current :: rest).filter fun other => other ≠ current) = rest :=
      @filter_ne_split current rest [] distinct
    rw [without, split, unsplit, chain.2.start_eq]
    cases rest with
    | nil => exact .behind _ _ _
    | cons following rest => exact .first following rest
  | later first before _ _ =>
    have apart : ∀ other ∈ first :: before, other ≠ current :=
      fun other listed => (List.nodup_append.mp distinct).2.2 other listed current List.mem_cons_self
    have notHead : some first ≠ some current := fun same =>
      apart first List.mem_cons_self (Option.some.inj same)
    rw [removeCurrent, if_neg notHead, shape.notify_eq listed]
    simp only [update_of_ne (apart _ List.getLastD_mem_cons).symm]
    refine shape.removes rest listed isOutcome (shape.chain_without_next split) rfl rfl
      (fun _ _ inUse => inUse) rfl ⟨?_, inUse, unlinked⟩ ahead
    rw [without, split, filter_ne_split distinct, chain.next_eq]
    cases rest with
    | nil => exact .behind _ _ _
    | cons following rest => exact .later first before following rest

theorem Shape.carries_visit :
    timer.Carries lists todo (.advance now) (timer.visit now index head prev current) := by
  rw [visit]
  split
  · split
    · next more => exact shape.carries_send phase more
    · exact shape.carries_removeCurrent phase
  · next notDue => exact shape.carries_skip phase notDue

end Current

/-- A step that changes nothing. -/
theorem Shape.carries_self :
    timer.Carries lists todo event timer :=
  shape.moves todo shape.stands shape.allocated fun _ _ _ ahead => ahead

theorem Shape.carries_advance (now : Int) :
    timer.Carries lists todo (.advance now) (timer.advance now) := by
  cases phase : timer.phase with
  | idle =>
    rw [advance, phase]
    exact shape.carries_self
  | bucket index => exact shape.carries_bucket phase
  | walking index head prev curr =>
    cases curr with
    | none => exact shape.carries_walked phase
    | some current =>
      rw [advance, phase]
      exact shape.carries_visit phase
  | calling index head prev curr del => exact shape.carries_called phase

/-! ## Stop -/

theorem Shape.deleteRawPkt_absent
    (absent : ∀ record, timer.Holds lists record → record.packet.pktId ≠ pktId) :
    timer.deleteRawPkt pktId = (timer, none) := by
  have chain := shape.chain (hash pktId % 2 ^ 32)
  have absentHere : ∀ node ∈ lists (hash pktId % 2 ^ 32), (timer.nodes node).packet.pktId ≠ pktId :=
    fun node listed => absent _ ⟨_, node, listed, rfl⟩
  rw [deleteRawPkt]
  generalize lists (hash pktId % 2 ^ 32) = list at chain absentHere
  cases list with
  | nil =>
    simp only [chain.start_eq]
    rfl
  | cons first rest =>
    have none_found : searchFrom timer.next
        (fun node => (timer.nodes node).packet.pktId = pktId) timer.allocated.length first
        (timer.next first) = none :=
      chain.2.searchFrom_eq_none fun other listed =>
        decide_eq_false (absentHere other (List.mem_cons_of_mem first listed))
    simp only [chain.1, if_neg (absentHere first List.mem_cons_self), none_found]

/-- What a stop does that finds a node. -/
theorem Shape.deleteRawPkt_present (listed : node ∈ lists bucket) :
    ∃ next table, timer.deleteRawPkt (timer.idOf node) =
        ({ timer with
            next := next
            gHashTab := table
            allocated := timer.allocated.erase node }, some (timer.nodes node).packet) ∧
      ∀ bucket, Chain next (table bucket) (without lists node bucket) := by
  have bounds := shape.hash_bounds listed
  have sameIndex : hash (timer.idOf node) % 2 ^ 32 = bucket := by
    have home : hash (timer.idOf node) = bucket := (shape.seated bucket node listed).home
    rw [maxHashBucket] at bounds
    omega
  have chain := shape.chain bucket
  have distinct := shape.nodup bucket
  have enough := shape.length_le bucket
  obtain ⟨before, after, split⟩ := List.append_of_mem listed
  have others : ∀ other ∈ before, timer.idOf other ≠ timer.idOf node := by
    intro other earlier same
    rw [split] at distinct
    have listed' : other ∈ lists bucket := by
      rw [split]
      exact List.mem_append_left _ earlier
    exact (List.nodup_append.mp distinct).2.2 other earlier node List.mem_cons_self
      (shape.node_eq listed' listed same)
  rw [deleteRawPkt]
  simp only [sameIndex]
  rw [split] at chain enough
  cases before with
  | nil =>
    refine ⟨timer.next, update timer.gHashTab bucket (timer.next node), ?_,
      shape.chain_without_head split⟩
    simp only [chain.1]
    exact if_pos rfl
  | cons first before =>
    have found : searchFrom timer.next (fun other => timer.idOf other = timer.idOf node)
        timer.allocated.length first (timer.next first) = some (before.getLastD first, node) := by
      refine chain.2.searchFrom_eq ?_ (decide_eq_true rfl) fun other earlier =>
        decide_eq_false (others other (List.mem_cons_of_mem first earlier))
      simp only [List.length_append, List.length_cons] at enough
      omega
    refine ⟨update timer.next (before.getLastD first) (timer.next node), timer.gHashTab, ?_,
      shape.chain_without_next split⟩
    unfold idOf at found others ⊢
    simp only [chain.1, if_neg (others first List.mem_cons_self), found]

omit shape in
/-- The pointers of a pass stay right when a node that it does not hold is unlinked. -/
theorem Cursor.without (cursor : Cursor list todo head prev curr)
    (free : ∀ held ∈ curr, node ∉ held :: (head.toList ++ prev.toList)) :
    Cursor (list.filter fun other => other ≠ node) (todo.filter fun other => other ≠ node) head prev
      curr := by
  have kept : ∀ {other : Nat} {list : List Nat}, node ≠ other →
      ((other :: list).filter fun other => other ≠ node) =
        other :: list.filter fun other => other ≠ node :=
    fun differs => List.filter_cons_of_pos (decide_eq_true differs.symm)
  cases cursor with
  | behind => exact .behind _ _ _
  | first curr rest =>
    rw [kept (List.ne_of_not_mem_cons (free curr rfl))]
    exact .first curr _
  | later first before curr rest =>
    have free := free curr rfl
    simp only [Option.toList_some, List.cons_append, List.nil_append, List.mem_cons,
      List.not_mem_nil, or_false, not_or] at free
    obtain ⟨notCurr, notFirst, notLast⟩ := free
    have sameLast : (before.filter fun other => other ≠ node).getLastD first =
        before.getLastD first := by
      rcases List.eq_nil_or_concat before with rfl | ⟨front, last, rfl⟩
      · rfl
      · rw [List.concat_eq_append, List.getLastD_concat] at notLast ⊢
        rw [List.filter_append, kept notLast, List.filter_nil, List.getLastD_concat]
    rw [List.filter_append, kept notFirst, kept notCurr, ← sameLast]
    exact .later first _ curr _

/-- While a start or a stop runs, the pass holds pointers only in a callback. -/
theorem Shape.restands (available : timer.Available) (kept : List Nat → Nat → Prop)
    {allocated : List Nat}
    (calling : ∀ index head prev curr del, timer.phase = .calling index head prev curr del →
      Cursor (lists index) todo head prev curr → del ∈ timer.allocated → (∀ other, del ∉ lists other) →
      ∃ todo', Stands lists' allocated todo' (.calling index head prev curr del) ∧
        ∀ node ∈ todo, kept todo' node) :
    ∃ todo', Stands lists' allocated todo' timer.phase ∧ ∀ node ∈ todo, kept todo' node := by
  have stands := shape.stands
  cases phase : timer.phase with
  | idle | bucket _ =>
    rw [phase] at stands
    obtain rfl : todo = [] := stands
    exact ⟨[], rfl, fun node listed => by cases listed⟩
  | walking index head prev curr =>
    rw [Available, phase] at available
    exact available.elim
  | calling index head prev curr del =>
    rw [phase] at stands
    exact calling index head prev curr del phase stands.1 stands.2.1 stands.2.2

omit shape in
/-- The pass comes to a record as before if its node stays. -/
theorem Ahead.of_subset (ahead : timer.Ahead todo record) (samePhase : timer'.phase = timer.phase)
    (kept : ∀ node ∈ todo, timer.nodes node = record → node ∈ todo' ∧ timer'.nodes node = record) :
    timer'.Ahead todo' record := by
  have later : (∃ node ∈ todo, timer.nodes node = record) →
      ∃ node ∈ todo', timer'.nodes node = record :=
    fun ⟨node, listed, isRecord⟩ => ⟨node, kept node listed isRecord⟩
  unfold Ahead at ahead ⊢
  rw [samePhase]
  split at ahead
  · exact ahead
  · exact ahead
  · exact ahead.imp_right later
  · exact ahead.imp_right later

/-- A stop that unlinks a node which the pass does not hold. -/
theorem Shape.carries_found (available : timer.Available) (listed : node ∈ lists bucket)
    (free : node ∉ timer.heldNodes)
    (chain : ∀ bucket, Chain next (table bucket) (RawTimer.without lists node bucket)) :
    timer.Carries lists todo event
      { timer with
        next := next
        gHashTab := table
        allocated := timer.allocated.erase node
        log := timer.log ++ [.stopped (timer.idOf node) true (timer.nodes node).packet.context
          (timer.nodes node).packet.owner] } := by
  obtain ⟨todo', stands, kept⟩ : ∃ todo', Stands (RawTimer.without lists node)
      (timer.allocated.erase node) todo' timer.phase ∧
        ∀ other ∈ todo, other ≠ node → other ∈ todo' := by
    refine shape.restands available (fun todo' other => other ≠ node → other ∈ todo') fun index
      head prev curr del phase cursor inUse unlinked => ?_
    rw [heldNodes, phase] at free
    have differs : del ≠ node := fun same => unlinked bucket (same ▸ listed)
    refine ⟨_, ⟨cursor.without ?_, (List.mem_erase_of_ne differs).mpr inUse, fun other listed' =>
      unlinked other (mem_without.mp listed').1⟩, fun other listed' differs =>
        List.mem_filter.mpr ⟨listed', decide_eq_true differs⟩⟩
    rintro held rfl
    exact free
  refine shape.removes todo' listed List.mem_cons_self chain rfl rfl
    (fun other differs inUse => (List.mem_erase_of_ne differs).mpr inUse) rfl stands ?_
  intro record differs ahead
  refine ahead.of_subset rfl fun other listed' isRecord => ⟨kept other listed' ?_, isRecord⟩
  rintro rfl
  exact differs (isRecord ▸ rfl)

theorem Shape.carries_stop (meets : timer.Meets (.stop pktId)) :
    timer.Carries lists todo (.stop pktId) (timer.step (.stop pktId)) := by
  obtain ⟨available, free⟩ := meets
  change timer.Available at available
  rw [step, if_pos available, rawProtoTimerStop]
  split
  · exact shape.carries_self
  · by_cases absent : ∀ record, timer.Holds lists record → record.packet.pktId ≠ pktId
    · rw [shape.deleteRawPkt_absent absent]
      exact ⟨lists, todo, _, shape.of_sublist shape.chain (fun _ => .refl _) (fun _ => rfl) rfl
        shape.allocated shape.stands, rfl, .missed pktId absent fun _ => Iff.rfl,
        fun _ _ _ ahead => ahead⟩
    · push Not at absent
      obtain ⟨_, ⟨bucket, node, listed, rfl⟩, rfl⟩ := absent
      obtain ⟨next, table, deletes, chain⟩ := shape.deleteRawPkt_present listed
      unfold idOf at deletes
      rw [deletes]
      exact shape.carries_found available listed (fun held => free node held rfl) chain

/-! ## Start -/

/-- The lists with a node at the end of a bucket. -/
def appended (lists : Int → List Nat) (bucket : Int) (node : Nat) : Int → List Nat :=
  update lists bucket (lists bucket ++ [node])

omit shape in
/-- What holds of the list of a bucket with the node, and of the lists of the others, holds of every
list. -/
theorem forall_appended {property : Int → List Nat → Prop}
    (own : property bucket (lists bucket ++ [node]))
    (others : ∀ other, other ≠ bucket → property other (lists other)) (other : Int) :
    property other (appended lists bucket node other) := by
  unfold appended
  by_cases same : other = bucket
  · rw [same, update_self]
    exact own
  · rw [update_of_ne same]
    exact others other same

omit shape in
theorem mem_appended {bucket' : Int} : other ∈ appended lists bucket node bucket' ↔
    other ∈ lists bucket' ∨ bucket' = bucket ∧ other = node := by
  refine @forall_appended node bucket lists (fun bucket' list =>
    other ∈ list ↔ other ∈ lists bucket' ∨ bucket' = bucket ∧ other = node) ?_ ?_ bucket'
  · simp
  · simp +contextual

/-- The links after an insertion. -/
theorem Shape.insertRawPkt_eq (packet : RawPacket) (now : Int) (fresh : address ∉ timer.allocated) :
    ∃ next table, timer.insertRawPkt packet address now =
        { timer with
          nodes := update timer.nodes address ⟨packet, now, 1⟩
          next := next
          gHashTab := table
          allocated := address :: timer.allocated } ∧
      ∀ bucket, Chain next (table bucket) (appended lists (hash packet.pktId) address bucket) := by
  have notListed : ∀ bucket, address ∉ lists bucket :=
    fun bucket listed => fresh (shape.allocated bucket address listed)
  have chains : ∀ bucket, Chain (update timer.next address none) (timer.gHashTab bucket)
      (lists bucket) := by
    intro bucket
    refine (shape.chain bucket).congr fun node listed => update_of_ne ?_ _ _
    rintro rfl
    exact notListed bucket listed
  have chain := chains (hash packet.pktId)
  have enough := shape.length_le (hash packet.pktId)
  rw [insertRawPkt]
  rcases List.eq_nil_or_concat (lists (hash packet.pktId)) with empty | ⟨before, last, split⟩
  · rw [empty] at chain
    have isHead : timer.gHashTab (hash packet.pktId) = none := chain.start_eq
    refine ⟨update timer.next address none,
      update timer.gHashTab (hash packet.pktId) (some address), by simp only [isHead],
      forall_appended ?_ fun bucket differs => ?_⟩
    · rw [update_self, empty]
      exact ⟨rfl, update_self _ _ _⟩
    · rw [update_of_ne differs]
      exact chains bucket
  · rw [List.concat_eq_append] at split
    have original := shape.chain (hash packet.pktId)
    have distinct := shape.nodup (hash packet.pktId)
    rw [split] at chain enough original distinct
    obtain ⟨first, isHead⟩ : ∃ first, timer.gHashTab (hash packet.pktId) = some first := by
      rw [chain.start_eq]
      cases before with
      | nil => exact ⟨last, rfl⟩
      | cons first before => exact ⟨first, rfl⟩
    have isLast : lastFrom (update timer.next address none)
        (address :: timer.allocated).length first = some last := by
      rw [isHead] at chain
      exact (chain.lastFrom_eq (Nat.le_succ_of_le enough)).trans List.getLast?_concat
    refine ⟨update (update timer.next address none) last (some address),
      timer.gHashTab, by simp only [isHead, isLast],
      forall_appended ?_ fun bucket differs => ?_⟩
    · rw [split]
      exact original.append_last distinct (split ▸ notListed _)
    · refine (chains bucket).congr fun node listed => update_of_ne ?_ _ _
      rintro rfl
      have home : node ∈ lists (hash packet.pktId) := by
        rw [split]
        exact List.mem_append_right before List.mem_cons_self
      exact differs ((shape.seated bucket node listed).home.symm.trans
        (shape.seated _ node home).home)

omit shape in
/-- The pointers of a pass stay right when a node is appended, and it may come to the node. -/
theorem Cursor.append (cursor : Cursor list todo head prev curr) (node : Nat) :
    ∃ todo', Cursor (list ++ [node]) todo' head prev curr ∧ todo ⊆ todo' := by
  cases cursor with
  | behind => exact ⟨[], .behind _ _ _, List.Subset.refl _⟩
  | first curr rest => exact ⟨_, .first curr (rest ++ [node]), List.subset_append_left _ _⟩
  | later first before curr rest =>
    rw [List.append_assoc]
    exact ⟨_, .later first before curr (rest ++ [node]), List.subset_append_left _ _⟩

/-- A packet with an id that was not used is appended to its bucket. -/
theorem Shape.carries_started (available : timer.Available) (unused : address ∉ timer.allocated)
    (positive : 0 < packet.pktId)
    (registered : IsValidRptOwner packet.owner ∧ timer.rptCallbacks packet.owner)
    (fresh : timer.Fresh packet.pktId)
    (absent : ∀ record, timer.Holds lists record → record.packet.pktId ≠ packet.pktId)
    (chain : ∀ bucket,
      Chain next (table bucket) (appended lists (hash packet.pktId) address bucket)) :
    timer.Carries lists todo event { timer with
      nodes := update timer.nodes address ⟨packet, now, 1⟩
      next := next
      gHashTab := table
      allocated := address :: timer.allocated
      log := timer.log ++ [.started packet] } := by
  have old : ∀ bucket, ∀ node ∈ lists bucket,
      update timer.nodes address ⟨packet, now, 1⟩ node = timer.nodes node := by
    refine fun bucket node listed => update_of_ne ?_ _ _
    rintro rfl
    exact unused (shape.allocated bucket node listed)
  obtain ⟨todo', stands, kept⟩ : ∃ todo', Stands (appended lists (hash packet.pktId) address)
      (address :: timer.allocated) todo' timer.phase ∧
        ∀ node ∈ todo, node ∈ todo' ∧ node ≠ address := by
    refine shape.restands available (fun todo' node => node ∈ todo' ∧ node ≠ address) fun index
      head prev curr del _ cursor inUse unlinked => ?_
    have inList := cursor.subset
    obtain ⟨todo', cursor, more⟩ : ∃ todo', Cursor (appended lists (hash packet.pktId) address index)
        todo' head prev curr ∧ todo ⊆ todo' := by
      rw [appended, update_apply]
      split
      · next here => exact here ▸ cursor.append address
      · exact ⟨todo, cursor, List.Subset.refl _⟩
    refine ⟨todo', ⟨cursor, List.mem_cons_of_mem _ inUse, fun other listed => ?_⟩,
      fun node listed => ⟨more listed, ?_⟩⟩
    · rcases mem_appended.mp listed with inList | ⟨-, rfl⟩
      · exact unlinked other inList
      · exact unused inUse
    · rintro rfl
      exact unused (shape.allocated _ node (inList listed))
  have added : ∀ record, (∃ bucket, ∃ node ∈ appended lists (hash packet.pktId) address bucket,
      update timer.nodes address ⟨packet, now, 1⟩ node = record) ↔
        timer.Holds lists record ∨ record = ⟨packet, now, 1⟩ := by
    intro record
    constructor
    · rintro ⟨bucket, node, listed, rfl⟩
      rcases mem_appended.mp listed with inList | ⟨-, rfl⟩
      · exact .inl ⟨bucket, node, inList, (old bucket node inList).symm⟩
      · exact .inr (update_self _ _ _)
    · rintro (⟨bucket, node, listed, rfl⟩ | rfl)
      · exact ⟨bucket, node, mem_appended.mpr (.inl listed), old bucket node listed⟩
      · exact ⟨_, address, mem_appended.mpr (.inr ⟨rfl, rfl⟩), update_self _ _ _⟩
  refine ⟨_, todo', [.started packet], ⟨chain, ?_, ?_, ?_, stands⟩, rfl,
    .started packet now (fun other started => fresh _ started) added, ?_⟩
  · have oldIds : ∀ bucket, ((lists bucket).map fun node => (update timer.nodes address
        (⟨packet, now, 1⟩ : RawNode) node).packet.pktId) = (lists bucket).map timer.idOf :=
      fun bucket => List.map_congr_left fun node listed =>
        congrArg (fun record : RawNode => record.packet.pktId) (old bucket node listed)
    intro bucket
    rw [appended, update_apply]
    split
    · refine (List.map_append ▸ List.nodup_append.mpr
        ⟨oldIds _ ▸ shape.distinct _, List.nodup_singleton _, ?_⟩)
      rintro _ listed _ isNew rfl
      obtain ⟨node, inList, isOld⟩ := List.mem_map.mp (oldIds _ ▸ listed)
      refine absent _ ⟨_, node, inList, rfl⟩ (isOld.trans ((List.mem_singleton.mp isNew).trans ?_))
      simp only [idOf, update_self]
    · exact oldIds bucket ▸ shape.distinct bucket
  · intro bucket node listed
    rcases mem_appended.mp listed with inList | ⟨-, rfl⟩
    · exact List.mem_cons_of_mem address (shape.allocated bucket node inList)
    · exact List.mem_cons_self
  · intro bucket node listed
    rcases mem_appended.mp listed with inList | ⟨rfl, rfl⟩
    · simp only [old bucket node inList]
      exact shape.seated bucket node inList
    · simp only [update_self]
      exact ⟨rfl, positive, registered⟩
  · intro record _ _ ahead
    refine ahead.of_subset rfl fun node listed isRecord => ⟨(kept node listed).1, ?_⟩
    exact (update_of_ne (kept node listed).2 _ _).trans isRecord

end Steps

end RawTimer

end OpenDove
