import Mathlib.Data.List.Nodup
import Mathlib.Logic.Function.Basic

/-!
# Intrusive lists with back links

Nodes carry their own links: the next node, and the place that points to the node, which is either
the head of a list or the next link of another node. Adding at a head and removing a node write only
a few links, and a write through a pointer that leads nowhere is a fault. The predicate below says
which lists the links of a heap spell; under it, an addition of a node that is in no list puts it in
front, the removal of a node takes it out of its list and changes nothing else, and neither faults.
-/

namespace OpenDove

open Function

/-- A pointer to a node. -/
inductive Link (α : Type) where
  | null
  | poison
  | node (node : α)
  deriving DecidableEq, Repr

/-- A pointer to the place that points to a node. -/
inductive BackLink (α β : Type) where
  | null
  | poison
  | head (head : β)
  | next (node : α)
  deriving DecidableEq, Repr

/-- The heads and the links of the nodes. An access through a null or a poisoned pointer is a fault,
which ends the program. -/
structure LinkHeap (α β : Type) where
  first : β → Link α
  next : α → Link α
  pprevious : α → BackLink α β
  faulted : Bool := false

/-- The pointer to the first node of a list. -/
def linkOf {α : Type} : List α → Link α
  | [] => .null
  | node :: _ => .node node

namespace LinkHeap

variable {α β : Type}

/-- No node is in a list. -/
def empty : LinkHeap α β where
  first := fun _ => .null
  next := fun _ => .null
  pprevious := fun _ => .null

section Operations

variable [DecidableEq α] [DecidableEq β]

/-- Write the back link of a node, if a pointer is not null. -/
def setBack (heap : LinkHeap α β) (link : Link α) (back : BackLink α β) : LinkHeap α β :=
  match link with
  | .node node => { heap with pprevious := update heap.pprevious node back }
  | .null => heap
  | .poison => { heap with faulted := true }

/-- Write a link at the place that a back link names. -/
def setLink (heap : LinkHeap α β) (back : BackLink α β) (link : Link α) : LinkHeap α β :=
  match back with
  | .head head => { heap with first := update heap.first head link }
  | .next node => { heap with next := update heap.next node link }
  | .null | .poison => { heap with faulted := true }

/-- Add a node at a head. -/
def headAdd (heap : LinkHeap α β) (head : β) (node : α) : LinkHeap α β :=
  let linked : LinkHeap α β :=
    { heap with next := update heap.next node (heap.first head) }
  let backed := linked.setBack (heap.first head) (.next node)
  { backed with
    first := update backed.first head (.node node)
    pprevious := update backed.pprevious node (.head head) }

/-- Remove a node. -/
def nodeRemove (heap : LinkHeap α β) (node : α) : LinkHeap α β :=
  let unlinked :=
    (heap.setLink (heap.pprevious node) (heap.next node)).setBack (heap.next node)
      (heap.pprevious node)
  { unlinked with
    next := update unlinked.next node .poison
    pprevious := update unlinked.pprevious node .poison }

end Operations

/-- The nodes of a list are linked to one another, the first one back to a given place. -/
def Segment (heap : LinkHeap α β) : BackLink α β → List α → Prop
  | _, [] => True
  | back, node :: rest =>
    heap.pprevious node = back ∧ heap.next node = linkOf rest ∧ heap.Segment (.next node) rest

/-- The links of a heap spell the lists: each head leads to its list, no node is in two places, and
a node that is in no list has no back link. No access was a fault. -/
structure Linked (heap : LinkHeap α β) (lists : β → List α) : Prop where
  intact : heap.faulted = false
  first : ∀ head, heap.first head = linkOf (lists head)
  segment : ∀ head, heap.Segment (.head head) (lists head)
  distinct : ∀ head, (lists head).Nodup
  apart : ∀ head other node, node ∈ lists head → node ∈ lists other → head = other
  free : ∀ node, (∀ head, node ∉ lists head) →
    heap.pprevious node = .null ∨ heap.pprevious node = .poison

variable {back : BackLink α β} {heap : LinkHeap α β} {after before : List α} {node : α}

/-- A segment depends only on the links of its nodes. -/
theorem Segment.congr {heap' : LinkHeap α β} {list : List α} (segment : heap.Segment back list)
    (same : ∀ node ∈ list, heap'.next node = heap.next node ∧
      heap'.pprevious node = heap.pprevious node) : heap'.Segment back list := by
  induction list generalizing back with
  | nil => exact True.intro
  | cons node rest ih =>
    obtain ⟨backward, forward, later⟩ := segment
    obtain ⟨sameNext, sameBack⟩ := same node List.mem_cons_self
    exact ⟨sameBack.trans backward, sameNext.trans forward,
      ih later fun other listed => same other (List.mem_cons_of_mem node listed)⟩

theorem Segment.next_eq (segment : heap.Segment back (before ++ node :: after)) :
    heap.next node = linkOf after := by
  induction before generalizing back with
  | nil => exact segment.2.1
  | cons first before ih => exact ih segment.2.2

/-- The back link of a node names the node before it, or the place of the list. -/
theorem Segment.pprevious_eq (segment : heap.Segment back (before ++ node :: after)) :
    heap.pprevious node = back ∧ before = [] ∨
      ∃ previous ∈ before, heap.pprevious node = .next previous := by
  induction before generalizing back with
  | nil => exact .inl ⟨segment.1, rfl⟩
  | cons first before ih =>
    rcases ih segment.2.2 with ⟨backward, -⟩ | ⟨previous, listed, backward⟩
    · exact .inr ⟨first, List.mem_cons_self, backward⟩
    · exact .inr ⟨previous, List.mem_cons_of_mem first listed, backward⟩

theorem linkOf_ne_node {list : List α} {node : α} (absent : node ∉ list) :
    linkOf list ≠ .node node := by
  cases list with
  | nil =>
    intro same
    cases same
  | cons first rest =>
    intro same
    exact absent (Link.node.inj same ▸ List.mem_cons_self)

theorem linkOf_append_of_ne_nil (inhabited : before ≠ [])
    (after after' : List α) : linkOf (before ++ after) = linkOf (before ++ after') := by
  cases before with
  | nil => exact absurd rfl inhabited
  | cons first rest => rfl

theorem Linked.empty : (LinkHeap.empty : LinkHeap α β).Linked fun _ => [] where
  intact := rfl
  first := fun _ => rfl
  segment := fun _ => True.intro
  distinct := fun _ => List.nodup_nil
  apart := fun _ _ _ listed => absurd listed List.not_mem_nil
  free := fun _ _ => .inl rfl

/-- A node with a back link is in a list, and one that is in a list has a back link. -/
theorem Linked.mem_iff {lists : β → List α} (linked : heap.Linked lists) (node : α) :
    (∃ head, node ∈ lists head) ↔
      heap.pprevious node ≠ .null ∧ heap.pprevious node ≠ .poison := by
  constructor
  · rintro ⟨head, listed⟩
    obtain ⟨before, after, split⟩ := List.append_of_mem listed
    have segment := linked.segment head
    rw [split] at segment
    rcases segment.pprevious_eq with ⟨backward, -⟩ | ⟨previous, -, backward⟩
    · rw [backward]
      exact ⟨nofun, nofun⟩
    · rw [backward]
      exact ⟨nofun, nofun⟩
  · rintro ⟨notNull, notPoison⟩
    by_contra absent
    rcases linked.free node (not_exists.mp absent) with isNull | isPoison
    · exact notNull isNull
    · exact notPoison isPoison

variable [DecidableEq α] [DecidableEq β] (heap : LinkHeap α β)

/-- The back link of a node other than a removed one changes only if the removed one was before
it. -/
theorem pprevious_nodeRemove {node other : α} (differs : other ≠ node) :
    (heap.nodeRemove node).pprevious other =
      if heap.next node = .node other then heap.pprevious node else heap.pprevious other := by
  have kept : ∀ back link, (heap.setLink back link).pprevious = heap.pprevious := by
    intro back link
    cases back <;> rfl
  simp only [nodeRemove, update_of_ne differs]
  cases heap.next node with
  | null => simp [setBack, kept]
  | poison => simp [setBack, kept]
  | node next =>
    simp only [setBack, kept, update_apply, Link.node.injEq]
    exact if_congr eq_comm rfl rfl

/-- The next link of a node other than a removed one changes only if the removed one was behind
it. -/
theorem next_nodeRemove {node other : α} (differs : other ≠ node) :
    (heap.nodeRemove node).next other =
      if heap.pprevious node = .next other then heap.next node else heap.next other := by
  have kept : ∀ (heap : LinkHeap α β) link back, (heap.setBack link back).next = heap.next := by
    intro heap link back
    cases link <;> rfl
  simp only [nodeRemove, update_of_ne differs, kept]
  cases heap.pprevious node with
  | null => simp [setLink]
  | poison => simp [setLink]
  | head head => simp [setLink]
  | next previous =>
    simp only [setLink, update_apply, BackLink.next.injEq]
    exact if_congr eq_comm rfl rfl

theorem first_nodeRemove (node : α) (head : β) :
    (heap.nodeRemove node).first head =
      if heap.pprevious node = .head head then heap.next node else heap.first head := by
  have kept : ∀ (heap : LinkHeap α β) link back, (heap.setBack link back).first = heap.first := by
    intro heap link back
    cases link <;> rfl
  simp only [nodeRemove, kept]
  cases heap.pprevious node with
  | null => simp [setLink]
  | poison => simp [setLink]
  | next previous => simp [setLink]
  | head other =>
    simp only [setLink, update_apply, BackLink.head.injEq]
    exact if_congr eq_comm rfl rfl

/-- The nodes around a removed node are linked to each other. -/
theorem Segment.nodeRemove {heap : LinkHeap α β} {back : BackLink α β} {before after : List α}
    {node : α} (segment : heap.Segment back (before ++ node :: after))
    (distinct : (before ++ node :: after).Nodup)
    (outside : ∀ other ∈ before ++ node :: after, back ≠ .next other) :
    (heap.nodeRemove node).Segment back (before ++ after) := by
  have forward := segment.next_eq
  induction before generalizing back with
  | nil =>
    obtain ⟨backward, -, later⟩ := segment
    obtain ⟨fresh, distinctAfter⟩ := List.nodup_cons.mp distinct
    have differs : ∀ other ∈ after, other ≠ node := fun other listed same => fresh (same ▸ listed)
    have nextKept : ∀ other ∈ after, (heap.nodeRemove node).next other = heap.next other := by
      intro other listed
      rw [next_nodeRemove heap (differs other listed), backward,
        if_neg (outside other (List.mem_cons_of_mem node listed))]
    cases after with
    | nil => exact True.intro
    | cons first rest =>
      obtain ⟨-, forward', later'⟩ := later
      obtain ⟨fresh', -⟩ := List.nodup_cons.mp distinctAfter
      refine ⟨?_, (nextKept first List.mem_cons_self).trans forward', later'.congr ?_⟩
      · rw [pprevious_nodeRemove heap (differs first List.mem_cons_self), forward, linkOf,
          if_pos rfl]
        exact backward
      · intro other listed
        have listedAfter := List.mem_cons_of_mem first listed
        refine ⟨nextKept other listedAfter, ?_⟩
        rw [pprevious_nodeRemove heap (differs other listedAfter), forward, if_neg]
        rintro same
        exact fresh' (Link.node.inj same ▸ listed)
  | cons first before ih =>
    obtain ⟨backward, forward', later⟩ := segment
    obtain ⟨fresh, distinctRest⟩ := List.nodup_cons.mp distinct
    have differs : first ≠ node := by
      rintro rfl
      exact fresh (List.mem_append_right before List.mem_cons_self)
    have notAfter : first ∉ after := fun listed =>
      fresh (List.mem_append_right before (List.mem_cons_of_mem node listed))
    refine ⟨?_, ?_, ih later distinctRest ?_⟩
    · rw [pprevious_nodeRemove heap differs, forward, if_neg (linkOf_ne_node notAfter)]
      exact backward
    · rw [next_nodeRemove heap differs]
      rcases later.pprevious_eq with ⟨backward', rfl⟩ | ⟨previous, listed, backward'⟩
      · rw [if_pos backward']
        exact forward
      · have other : previous ≠ first := fun same =>
          fresh (List.mem_append_left _ (same ▸ listed))
        rw [backward', if_neg fun same => other (BackLink.next.inj same), forward']
        exact linkOf_append_of_ne_nil (List.ne_nil_of_mem listed) _ _
    · intro other listed same
      exact fresh (BackLink.next.inj same ▸ listed)

variable {lists : β → List α}

theorem first_headAdd (head other : β) (node : α) :
    (heap.headAdd head node).first other =
      if other = head then .node node else heap.first other := by
  simp only [LinkHeap.headAdd]
  cases heap.first head <;> exact update_apply _ _ _ _

theorem next_headAdd (head : β) (node other : α) :
    (heap.headAdd head node).next other =
      if other = node then heap.first head else heap.next other := by
  simp only [LinkHeap.headAdd]
  cases heap.first head <;> exact update_apply _ _ _ _

theorem pprevious_headAdd (head : β) {node other : α}
    (differs : other ≠ node) :
    (heap.headAdd head node).pprevious other =
      if heap.first head = .node other then .next node else heap.pprevious other := by
  simp only [LinkHeap.headAdd, update_of_ne differs]
  cases heap.first head with
  | null => rfl
  | poison => rfl
  | node first =>
    simp only [setBack, update_apply, Link.node.injEq]
    exact if_congr eq_comm rfl rfl

theorem pprevious_headAdd_self (head : β) (node : α) :
    (heap.headAdd head node).pprevious node = .head head :=
  update_self _ _ _

variable {heap}

variable {node : α} {back : BackLink α β} {head : β} {list : List α}

/-- The links of the nodes of another list stay when a node is added. -/
theorem Segment.headAdd (segment : heap.Segment back list) (absent : node ∉ list)
    (elsewhere : ∀ other ∈ list, heap.first head ≠ .node other) :
    (heap.headAdd head node).Segment back list := by
  apply segment.congr
  intro other listed
  have differs : other ≠ node := fun same => absent (same ▸ listed)
  constructor
  · rw [next_headAdd, if_neg differs]
  · rw [pprevious_headAdd heap head differs, if_neg (elsewhere other listed)]

/-- A node that is in no list is put in front of the list it is added to. -/
theorem Linked.headAdd (linked : heap.Linked lists) (absent : ∀ head, node ∉ lists head)
    (head : β) :
    (heap.headAdd head node).Linked (update lists head (node :: lists head)) where
  intact := by
    simp only [LinkHeap.headAdd, linked.first head]
    cases lists head <;> exact linked.intact
  first := by
    intro other
    rw [first_headAdd, update_apply]
    by_cases same : other = head
    · rw [if_pos same, if_pos same, linkOf]
    · rw [if_neg same, if_neg same, linked.first other]
  segment := by
    intro other
    rw [update_apply]
    by_cases same : other = head
    · rw [if_pos same]
      subst same
      have segment := linked.segment other
      have forward := linked.first other
      have distinct := linked.distinct other
      refine ⟨pprevious_headAdd_self heap other node, ?_, ?_⟩
      · rw [next_headAdd, if_pos rfl, forward]
      · have fresh := absent other
        cases list : lists other with
        | nil => exact True.intro
        | cons first rest =>
          rw [list] at segment forward distinct fresh
          obtain ⟨-, forward', later⟩ := segment
          have differs : first ≠ node := fun same => fresh (same ▸ List.mem_cons_self)
          have notLater : node ∉ rest := fun listed => fresh (List.mem_cons_of_mem first listed)
          refine ⟨?_, ?_, later.headAdd notLater ?_⟩
          · rw [pprevious_headAdd heap other differs, forward, linkOf, if_pos rfl]
          · rw [next_headAdd, if_neg differs, forward']
          · intro later' listed same
            rw [forward] at same
            exact (List.nodup_cons.mp distinct).1 (Link.node.inj same ▸ listed)
    · rw [if_neg same]
      apply (linked.segment other).headAdd (absent other)
      intro node' listed
      rw [linked.first head]
      apply linkOf_ne_node
      exact fun listed' => same (linked.apart other head node' listed listed')
  distinct := by
    intro other
    rw [update_apply]
    by_cases same : other = head
    · rw [if_pos same]
      exact List.nodup_cons.mpr ⟨absent head, linked.distinct head⟩
    · rw [if_neg same]
      exact linked.distinct other
  apart := by
    have places : ∀ head' node',
        node' ∈ update lists head (node :: lists head) head' →
          node' = node ∧ head' = head ∨ node' ∈ lists head' := by
      intro head' node' listed
      rw [update_apply] at listed
      by_cases same : head' = head
      · rw [if_pos same] at listed
        rcases List.mem_cons.mp listed with isNode | listed
        · exact .inl ⟨isNode, same⟩
        · exact .inr (same ▸ listed)
      · rw [if_neg same] at listed
        exact .inr listed
    intro head' other node' listed listed'
    rcases places head' node' listed with ⟨rfl, atHead⟩ | old
    · rcases places other node' listed' with ⟨-, atHead'⟩ | old'
      · exact atHead.trans atHead'.symm
      · exact absurd old' (absent other)
    · rcases places other node' listed' with ⟨rfl, -⟩ | old'
      · exact absurd old (absent head')
      · exact linked.apart head' other node' old old'
  free := by
    intro other absent'
    have notHead := absent' head
    rw [update_self] at notHead
    have differs : other ≠ node := fun same => notHead (same ▸ List.mem_cons_self)
    have old : ∀ head', other ∉ lists head' := by
      intro head' listed
      by_cases same : head' = head
      · exact notHead (List.mem_cons_of_mem node (same ▸ listed))
      · apply absent' head'
        rw [update_of_ne same]
        exact listed
    rw [pprevious_headAdd heap head differs, linked.first head, if_neg (linkOf_ne_node (old head))]
    exact linked.free other old

/-- The links of the nodes of another list stay when a node is removed. -/
theorem Segment.nodeRemove_of_not_mem (segment : heap.Segment back list) (absent : node ∉ list)
    (behind : ∀ other ∈ list, heap.pprevious node ≠ .next other)
    (before : ∀ other ∈ list, heap.next node ≠ .node other) :
    (heap.nodeRemove node).Segment back list := by
  apply segment.congr
  intro other listed
  have differs : other ≠ node := fun same => absent (same ▸ listed)
  constructor
  · rw [next_nodeRemove heap differs, if_neg (behind other listed)]
  · rw [pprevious_nodeRemove heap differs, if_neg (before other listed)]

omit [DecidableEq α] in
/-- Without a node, the lists have the other nodes that they had. -/
theorem Linked.mem_without (linked : heap.Linked lists) {before after : List α}
    (split : lists head = before ++ node :: after) (other : α) (place : β) :
    other ∈ update lists head (before ++ after) place ↔
      other ≠ node ∧ other ∈ lists place := by
  have distinct := linked.distinct head
  rw [split, List.nodup_middle, List.nodup_cons] at distinct
  by_cases same : place = head
  · rw [same, update_self, split, List.perm_middle.mem_iff, List.mem_cons]
    constructor
    · exact fun listed => ⟨fun isNode => distinct.1 (isNode ▸ listed), .inr listed⟩
    · exact fun listed => listed.2.resolve_left listed.1
  · rw [update_of_ne same]
    refine ⟨fun listed => ⟨?_, listed⟩, And.right⟩
    rintro rfl
    exact same (linked.apart place head other listed (split ▸ by simp))

/-- The removal of a node takes it out of its list and changes no other list. -/
theorem Linked.nodeRemove (linked : heap.Linked lists) {before after : List α}
    (split : lists head = before ++ node :: after) :
    (heap.nodeRemove node).Linked (update lists head (before ++ after)) := by
  have segment := linked.segment head
  have distinct := linked.distinct head
  rw [split] at segment distinct
  have forward := segment.next_eq
  have inHead : node ∈ lists head := split ▸ List.mem_append_right before List.mem_cons_self
  have behindIn : ∀ previous, heap.pprevious node = .next previous → previous ∈ lists head := by
    intro previous backward
    rcases segment.pprevious_eq with ⟨atHead, -⟩ | ⟨other, listed, backward'⟩
    · rw [atHead] at backward
      cases backward
    · rw [backward'] at backward
      rw [split, ← BackLink.next.inj backward]
      exact List.mem_append_left _ listed
  have beforeIn : ∀ next, heap.next node = .node next → next ∈ lists head := by
    intro next follows
    rw [forward] at follows
    have listed : next ∈ after := by_contra fun absent => linkOf_ne_node absent follows
    rw [split]
    exact List.mem_append_right before (List.mem_cons_of_mem node listed)
  refine ⟨?_, ?_, ?_, ?_, ?_, ?_⟩
  · have placed := (linked.mem_iff node).mp ⟨head, inHead⟩
    simp only [LinkHeap.nodeRemove, forward]
    cases backward : heap.pprevious node with
    | null => exact absurd backward placed.1
    | poison => exact absurd backward placed.2
    | head | next => cases after <;> exact linked.intact
  · intro other
    rw [first_nodeRemove, update_apply]
    rcases segment.pprevious_eq with ⟨atHead, rfl⟩ | ⟨previous, listed, backward⟩
    · rw [atHead]
      by_cases same : other = head
      · rw [if_pos (congrArg _ same.symm), if_pos same, forward, List.nil_append]
      · rw [if_neg fun equal => same (BackLink.head.inj equal).symm, if_neg same,
          linked.first other]
    · rw [backward, if_neg nofun, linked.first other]
      by_cases same : other = head
      · rw [if_pos same, same, split]
        exact linkOf_append_of_ne_nil (List.ne_nil_of_mem listed) _ _
      · rw [if_neg same]
  · intro other
    rw [update_apply]
    by_cases same : other = head
    · rw [if_pos same, same]
      exact segment.nodeRemove distinct fun _ _ => nofun
    · rw [if_neg same]
      apply (linked.segment other).nodeRemove_of_not_mem
      · exact fun listed => same (linked.apart other head node listed inHead)
      · intro previous listed backward
        exact same (linked.apart other head previous listed (behindIn previous backward))
      · intro next listed follows
        exact same (linked.apart other head next listed (beforeIn next follows))
  · intro other
    rw [update_apply]
    by_cases same : other = head
    · rw [if_pos same]
      exact distinct.sublist (List.Sublist.append_left (List.sublist_cons_self node after) before)
    · rw [if_neg same]
      exact linked.distinct other
  · intro other other' node' listed listed'
    exact linked.apart other other' node' ((linked.mem_without split ..).mp listed).2
      ((linked.mem_without split ..).mp listed').2
  · intro other absent
    by_cases isNode : other = node
    · rw [isNode]
      exact .inr (update_self _ _ _)
    · have old : ∀ head', other ∉ lists head' := fun head' listed =>
        absent head' ((linked.mem_without split ..).mpr ⟨isNode, listed⟩)
      have notNext : heap.next node ≠ .node other := fun follows =>
        old head (beforeIn other follows)
      rw [pprevious_nodeRemove heap isNode, if_neg notNext]
      exact linked.free other old

end LinkHeap

end OpenDove
