import Mathlib.Data.List.Nodup
import Mathlib.Logic.Function.Basic

/-!
# Singly linked lists

A chain of next pointers spells a list of nodes. The two loops over a chain, the walk to its last
node and the search for a node together with the one before it, are given a number of steps they may
take; the length of the list is enough for both. A node is appended by a write to the last one, and
removed by a write to the one before it or to the head.
-/

namespace OpenDove

variable {α : Type}

/-- The chain of next pointers from a start spells a list. -/
def Chain (next : α → Option α) : Option α → List α → Prop
  | start, [] => start = none
  | start, node :: rest => start = some node ∧ Chain next (next node) rest

/-- The last node of the chain from a node. -/
def lastFrom (next : α → Option α) : Nat → α → Option α
  | 0, _ => none
  | steps + 1, node =>
    match next node with
    | none => some node
    | some following => lastFrom next steps following

/-- The first node of a chain that is looked for, and the one before it. -/
def searchFrom (next : α → Option α) (wanted : α → Bool) : Nat → α → Option α → Option (α × α)
  | _, _, none => none
  | 0, _, some _ => none
  | steps + 1, previous, some node =>
    if wanted node then some (previous, node) else searchFrom next wanted steps node (next node)

namespace Chain

variable {next : α → Option α} {start : Option α} {list before after : List α} {node : α}

theorem start_eq (chain : Chain next start list) : start = list.head? := by
  cases list with
  | nil => exact chain
  | cons first rest => exact chain.1

/-- A chain depends only on the next pointers of its nodes. -/
theorem congr {next' : α → Option α} (chain : Chain next start list)
    (same : ∀ node ∈ list, next' node = next node) : Chain next' start list := by
  induction list generalizing start with
  | nil => exact chain
  | cons first rest ih =>
    refine ⟨chain.1, ?_⟩
    rw [same first List.mem_cons_self]
    exact ih chain.2 fun node listed =>
      same node (List.mem_cons_of_mem first listed)

/-- The chain goes on with every rest of its list. -/
theorem drop (chain : Chain next start (before ++ after)) : Chain next after.head? after := by
  induction before generalizing start with
  | nil =>
    rw [List.nil_append] at chain
    rw [← chain.start_eq]
    exact chain
  | cons first before ih => exact ih chain.2

theorem next_eq (chain : Chain next start (before ++ node :: after)) : next node = after.head? :=
  chain.drop.2.start_eq

variable {steps : Nat} {previous : α} {wanted : α → Bool}

theorem lastFrom_eq (chain : Chain next (some node) list) (enough : list.length ≤ steps) :
    lastFrom next steps node = list.getLast? := by
  induction list generalizing node steps with
  | nil => cases chain
  | cons first rest ih =>
    obtain rfl : node = first := Option.some.inj chain.1
    cases steps with
    | zero => exact absurd enough (Nat.not_succ_le_zero _)
    | succ steps =>
      rw [lastFrom]
      have later := chain.2
      cases rest with
      | nil =>
        rw [later.start_eq]
        rfl
      | cons second rest =>
        have isSecond := later.1
        rw [isSecond] at later
        rw [isSecond, List.getLast?_cons_cons]
        exact ih later (Nat.le_of_succ_le_succ enough)

/-- The search finds the only node that is looked for, and the one before it. -/
theorem searchFrom_eq (chain : Chain next start (before ++ node :: after))
    (enough : before.length < steps) (found : wanted node = true)
    (only : ∀ other ∈ before, wanted other = false) :
    searchFrom next wanted steps previous start = some (before.getLastD previous, node) := by
  induction before generalizing start steps previous with
  | nil =>
    cases steps with
    | zero => cases enough
    | succ steps =>
      rw [chain.1, searchFrom, if_pos found]
      rfl
  | cons first before ih =>
    cases steps with
    | zero => cases enough
    | succ steps =>
      rw [chain.1, searchFrom, only first List.mem_cons_self, if_neg Bool.false_ne_true,
        List.getLastD_cons]
      exact ih chain.2 (Nat.lt_of_succ_lt_succ enough) fun other listed =>
        only other (List.mem_cons_of_mem first listed)

theorem searchFrom_eq_none (chain : Chain next start list)
    (absent : ∀ other ∈ list, wanted other = false) :
    searchFrom next wanted steps previous start = none := by
  induction list generalizing start steps previous with
  | nil =>
    rw [chain.start_eq]
    cases steps <;> rfl
  | cons first rest ih =>
    rw [chain.1]
    cases steps with
    | zero => rfl
    | succ steps =>
      rw [searchFrom, absent first List.mem_cons_self, if_neg Bool.false_ne_true]
      exact ih chain.2 fun other listed =>
        absent other (List.mem_cons_of_mem first listed)

variable [DecidableEq α]

/-- The last node is linked to a new one. -/
theorem append_last {last : α} (chain : Chain next start (before ++ [last]))
    (distinct : (before ++ [last]).Nodup) (fresh : node ∉ before ++ [last]) :
    Chain (Function.update (Function.update next node none) last (some node)) start
      (before ++ [last] ++ [node]) := by
  have lastIsOld : node ≠ last := by
    rintro rfl
    exact fresh (List.mem_append_right before List.mem_cons_self)
  induction before generalizing start with
  | nil =>
    refine ⟨chain.1, ?_, ?_⟩
    · rw [Function.update_self]
    · rw [Function.update_of_ne lastIsOld, Function.update_self]
      rfl
  | cons first before ih =>
    obtain ⟨notLater, distinct⟩ := List.nodup_cons.mp distinct
    have notNode : first ≠ node := by
      rintro rfl
      exact fresh List.mem_cons_self
    have notLast : first ≠ last := by
      rintro rfl
      exact notLater (List.mem_append_right before List.mem_cons_self)
    refine ⟨chain.1, ?_⟩
    rw [Function.update_of_ne notLast, Function.update_of_ne notNode]
    exact ih chain.2 distinct fun listed =>
      fresh (List.mem_cons_of_mem first listed)

/-- The node before a removed one is linked to the one behind it. -/
theorem remove_next (chain : Chain next start (previous :: before ++ node :: after))
    (distinct : (previous :: before ++ node :: after).Nodup) :
    Chain (Function.update next (before.getLastD previous) (next node)) start
      (previous :: before ++ after) := by
  induction before generalizing start previous with
  | nil =>
    obtain ⟨isStart, -, later⟩ := chain
    refine ⟨isStart, ?_⟩
    rw [List.getLastD_nil, Function.update_self]
    apply later.congr
    intro other listed
    apply Function.update_of_ne
    rintro rfl
    exact (List.nodup_cons.mp distinct).1 (List.mem_cons_of_mem node listed)
  | cons second before ih =>
    obtain ⟨notLater, distinct⟩ := List.nodup_cons.mp distinct
    have notLast : previous ≠ before.getLastD second := by
      rintro rfl
      exact notLater (List.mem_append_left _ List.getLastD_mem_cons)
    refine ⟨chain.1, ?_⟩
    rw [List.getLastD_cons, Function.update_of_ne notLast]
    exact ih chain.2 distinct

end Chain

end OpenDove
