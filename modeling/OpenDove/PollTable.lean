import OpenDove.Addresses
import OpenDove.Runs
import Mathlib.Algebra.Order.Group.Int

/-!
# The table of polled descriptors

The poll thread watches a fixed number of slots. A slot in use holds a descriptor with the callback
and the context it was added with; a free slot holds −1. The slots in use come first, and the first
of them watches the read end of a pipe that wakes the thread up. Adding takes the first free slot,
deleting moves the last slot in use into the gap.

Both calls hold the lock of the table from beginning to end, so a history of the table is a list
of calls. Callbacks and contexts are pointers that the table never follows. Slots are numbered by
integers because deleting −1 can take the number of slots in use below zero.
-/

namespace OpenDove

open Function

/-- An entry of `pfd` with the entry of `poll_callback_array` at the same index. -/
structure PollSlot (κ χ : Type) where
  fd : Int
  callback : Option κ
  context : Option χ
  deriving DecidableEq

/-- The poll table: its slots and `fd_count_total`. -/
structure PollTable (κ χ : Type) where
  slots : Int → PollSlot κ χ
  fdCountTotal : Int

/-- A call of `fd_process_add_fd` or of `fd_process_del_fd`. -/
inductive PollCall (κ χ : Type) where
  | addFd (fd : Int) (callback : Option κ) (context : Option χ)
  | delFd (fd : Int)

/-- A slot that is not in use. -/
def PollSlot.free {κ χ : Type} : PollSlot κ χ := { fd := -1, callback := none, context := none }

namespace PollTable

variable {κ χ : Type}

/-- `CORE_API_P1_POLL_FD_MAX`: the slot of the pipe and one for each of the four sockets. -/
def pollFdMax : Nat := 1 + 4

/-- The indexes that the loops over the table visit. -/
def indexes : List Int := (List.range pollFdMax).map Int.ofNat

/-- `poll_array_init` when the pipe could be created: slot 0 watches its read end. -/
def pollArrayInit (dummyFd : Int) (dummyInfoProcess : κ) : PollTable κ χ where
  slots := update (fun _ => PollSlot.free) 0
    { fd := dummyFd, callback := some dummyInfoProcess, context := none }
  fdCountTotal := 1

/-- The search for a free slot in `fd_process_add_fd`. The test for a descriptor that exists comes
after the slots in use have been passed over. -/
def addFrom (table : PollTable κ χ) (slot : PollSlot κ χ) : List Int → PollTable κ χ × DOVEStatus
  | [] => (table, .noResources)
  | index :: rest =>
    if 0 ≤ (table.slots index).fd then table.addFrom slot rest
    else if (table.slots index).fd = slot.fd then (table, .alreadyExists)
    else
      ({ slots := update table.slots index slot
         fdCountTotal := table.fdCountTotal + 1 }, .ok)

/-- `fd_process_add_fd`. -/
def fdProcessAddFd (table : PollTable κ χ) (fd : Int) (callback : Option κ)
    (context : Option χ) : PollTable κ χ × DOVEStatus :=
  if fd < 0 ∨ callback.isNone then (table, .invalidParameter)
  else table.addFrom { fd, callback, context } indexes

/-- One round of the loop of `fd_process_del_fd`: a slot with the descriptor is filled with the
last slot in use, which becomes free. -/
def delAt (fd : Int) (result : PollTable κ χ × DOVEStatus) (index : Int) :
    PollTable κ χ × DOVEStatus :=
  let table := result.1
  if fd ≠ (table.slots index).fd then result
  else
    let last := table.fdCountTotal - 1
    ({ slots :=
        update (update table.slots index (table.slots last)) last PollSlot.free
       fdCountTotal := last }, .ok)

/-- `fd_process_del_fd`. -/
def fdProcessDelFd (table : PollTable κ χ) (fd : Int) : PollTable κ χ × DOVEStatus :=
  indexes.foldl (delAt fd) (table, .noResources)

/-- A call and its status. -/
def call (table : PollTable κ χ) : PollCall κ χ → PollTable κ χ × DOVEStatus
  | .addFd fd callback context => table.fdProcessAddFd fd callback context
  | .delFd fd => table.fdProcessDelFd fd

/-- The indexes of the slots in use. -/
def used (table : PollTable κ χ) : List Int :=
  (List.range table.fdCountTotal.toNat).map Int.ofNat

/-- A slot in use holds the descriptor. -/
def Polls (table : PollTable κ χ) (fd : Int) : Prop :=
  ∃ index ∈ table.used, (table.slots index).fd = fd

instance (table : PollTable κ χ) (fd : Int) : Decidable (table.Polls fd) :=
  inferInstanceAs (Decidable (∃ index ∈ table.used, _))

theorem mem_map_range {limit : Nat} {index : Int} :
    index ∈ (List.range limit).map Int.ofNat ↔ 0 ≤ index ∧ index < limit := by
  constructor
  · intro listed
    obtain ⟨number, inRange, rfl⟩ := List.mem_map.mp listed
    have below := List.mem_range.mp inRange
    exact ⟨Int.natCast_nonneg number, Int.ofNat_lt.mpr below⟩
  · rintro ⟨lower, upper⟩
    refine List.mem_map.mpr ⟨index.toNat, List.mem_range.mpr ?_, Int.toNat_of_nonneg lower⟩
    omega

theorem mem_used {table : PollTable κ χ} {index : Int} :
    index ∈ table.used ↔ 0 ≤ index ∧ index < table.fdCountTotal := by
  rw [used, mem_map_range]
  omega

theorem mem_indexes {index : Int} : index ∈ indexes ↔ 0 ≤ index ∧ index < pollFdMax :=
  mem_map_range

/-- The loops reach an index after the smaller ones and before the greater ones. -/
theorem indexes_split {index : Int} (lower : 0 ≤ index) (upper : index < pollFdMax) :
    ∃ before after, indexes = before ++ index :: after ∧
      (∀ other ∈ before, 0 ≤ other ∧ other < index) ∧
      ∀ other ∈ after, index < other ∧ other < pollFdMax := by
  obtain ⟨before, after, split⟩ := List.append_of_mem (mem_indexes.mpr ⟨lower, upper⟩)
  have ascending : indexes.Pairwise (· < ·) := by decide
  rw [split, List.pairwise_append, List.pairwise_cons] at ascending
  obtain ⟨-, ⟨afterwards, -⟩, ordered⟩ := ascending
  refine ⟨before, after, split, fun other listed => ?_, fun other listed => ?_⟩
  · have visited : other ∈ indexes := split ▸ List.mem_append_left _ listed
    exact ⟨(mem_indexes.mp visited).1, ordered other listed index List.mem_cons_self⟩
  · have visited : other ∈ indexes :=
      split ▸ List.mem_append_right _ (List.mem_cons_of_mem _ listed)
    exact ⟨afterwards other listed, (mem_indexes.mp visited).2⟩

variable (table : PollTable κ χ)

/-- The search passes over slots in use. -/
theorem addFrom_append (slot : PollSlot κ χ) {before : List Int}
    (used : ∀ index ∈ before, 0 ≤ (table.slots index).fd) (after : List Int) :
    table.addFrom slot (before ++ after) = table.addFrom slot after := by
  induction before with
  | nil => rfl
  | cons index before ih =>
    have inUse := used index List.mem_cons_self
    rw [List.cons_append, addFrom, if_pos inUse]
    exact ih fun other listed => used other (List.mem_cons_of_mem index listed)

/-- Whatever the table holds, the answer of an addition is never that the descriptor exists. -/
theorem addFrom_ne_alreadyExists {slot : PollSlot κ χ}
    (descriptor : 0 ≤ slot.fd) (list : List Int) :
    (table.addFrom slot list).2 ≠ .alreadyExists := by
  induction list with
  | nil => exact DOVEStatus.noConfusion
  | cons index list ih =>
    by_cases inUse : 0 ≤ (table.slots index).fd
    · rw [addFrom, if_pos inUse]
      exact ih
    · have differs : (table.slots index).fd ≠ slot.fd := by omega
      rw [addFrom, if_neg inUse, if_neg differs]
      exact DOVEStatus.noConfusion

theorem fdProcessAddFd_ne_alreadyExists (fd : Int) (callback : Option κ)
    (context : Option χ) : (table.fdProcessAddFd fd callback context).2 ≠ .alreadyExists := by
  by_cases refused : fd < 0 ∨ callback.isNone
  · rw [fdProcessAddFd, if_pos refused]
    exact DOVEStatus.noConfusion
  · rw [fdProcessAddFd, if_neg refused]
    exact table.addFrom_ne_alreadyExists (by simp only; omega) indexes

/-- Slots without the descriptor are left alone by a deletion. -/
theorem delAt_eq_self {fd : Int} (result : PollTable κ χ × DOVEStatus) {list : List Int}
    (differ : ∀ index ∈ list, fd ≠ (result.1.slots index).fd) :
    list.foldl (delAt fd) result = result := by
  induction list with
  | nil => rfl
  | cons index list ih =>
    have unchanged : delAt fd result index = result := if_pos (differ index List.mem_cons_self)
    rw [List.foldl_cons, unchanged]
    exact ih fun other listed => differ other (List.mem_cons_of_mem index listed)

/-- The table after the last slot in use has been moved to an index. -/
def compressed (table : PollTable κ χ) (index : Int) : PollTable κ χ :=
  let last := table.fdCountTotal - 1
  { slots :=
      update (update table.slots index (table.slots last)) last PollSlot.free
    fdCountTotal := last }

theorem slots_compressed (index other : Int) :
    (table.compressed index).slots other =
      if other = table.fdCountTotal - 1 then PollSlot.free
      else if other = index then table.slots (table.fdCountTotal - 1) else table.slots other := by
  simp only [compressed, update_apply]

end PollTable

/-- The poll table together with what its calls said they did: each descriptor whose last
successful call was an addition, with the callback and the context of that call. -/
structure PollHistory (κ χ : Type) where
  table : PollTable κ χ
  added : Int → Option (Option κ × Option χ)

namespace PollHistory

open PollTable

variable {κ χ : Type}

/-- The history after the initialization, which adds the read end of the pipe. -/
def start (dummyFd : Int) (dummyInfoProcess : κ) : PollHistory κ χ where
  table := pollArrayInit dummyFd dummyInfoProcess
  added := update (fun _ => none) dummyFd (some (some dummyInfoProcess, none))

/-- What a call that returned a status has added or taken away. -/
def recorded (added : Int → Option (Option κ × Option χ)) (status : DOVEStatus) :
    PollCall κ χ → Int → Option (Option κ × Option χ)
  | .addFd fd callback context =>
    if status = .ok then update added fd (some (callback, context)) else added
  | .delFd fd => if status = .ok then update added fd none else added

/-- The history after one more call. -/
def step (history : PollHistory κ χ) (call : PollCall κ χ) : PollHistory κ χ where
  table := (history.table.call call).1
  added := recorded history.added (history.table.call call).2 call

/-- The table holds exactly the added descriptors: the slots in use come first and hold distinct
descriptors with the callback and the context they were added with, every added descriptor has
a slot, and every other slot holds −1. -/
structure Exact (history : PollHistory κ χ) : Prop where
  bounds : 0 ≤ history.table.fdCountTotal ∧ history.table.fdCountTotal ≤ pollFdMax
  used : ∀ index, 0 ≤ index → index < history.table.fdCountTotal →
    0 ≤ (history.table.slots index).fd ∧
      history.added (history.table.slots index).fd =
        some ((history.table.slots index).callback, (history.table.slots index).context)
  distinct : ∀ first second, 0 ≤ first → first < second → second < history.table.fdCountTotal →
    (history.table.slots first).fd ≠ (history.table.slots second).fd
  complete : ∀ fd, history.added fd ≠ none → history.table.Polls fd
  unused : ∀ index, history.table.fdCountTotal ≤ index → index < pollFdMax →
    (history.table.slots index).fd = -1

/-- What a call promises: the table is exact after it, an addition of a descriptor that is present
answers that it exists and changes nothing, and a deletion of a value that was not added
answers an error and changes nothing. -/
def Honours (history : PollHistory κ χ) (call : PollCall κ χ) : Prop :=
  (history.step call).Exact ∧
    match call with
    | .addFd fd _ _ => history.added fd ≠ none →
        history.table.call call = (history.table, .alreadyExists)
    | .delFd fd => history.added fd = none →
        (history.table.call call).1 = history.table ∧ (history.table.call call).2 ≠ .ok

/-- No slot in use holds the descriptor that a call adds, and −1 is deleted only when no slot is
free. -/
def Meets (history : PollHistory κ χ) : PollCall κ χ → Prop
  | .addFd fd _ _ => ¬ history.table.Polls fd
  | .delFd fd => fd = -1 → history.table.fdCountTotal = pollFdMax

instance (history : PollHistory κ χ) (call : PollCall κ χ) : Decidable (history.Meets call) := by
  cases call <;> unfold Meets <;> infer_instance

theorem start_exact {dummyFd : Int} (descriptor : 0 ≤ dummyFd) (dummyInfoProcess : κ) :
    (start dummyFd dummyInfoProcess : PollHistory κ χ).Exact := by
  have first : ∀ index : Int, 0 ≤ index → index < 1 → index = 0 := by omega
  constructor
  case bounds => exact ⟨Int.one_nonneg, by show (1 : Int) ≤ pollFdMax; decide⟩
  case used =>
    intro index lower upper
    obtain rfl := first index lower upper
    exact ⟨descriptor, update_self dummyFd _ fun _ => none⟩
  case distinct =>
    intro index other lower order upper
    have below : other < 1 := upper
    omega
  case complete =>
    intro fd present
    by_cases same : fd = dummyFd
    · exact ⟨0, mem_used.mpr ⟨le_rfl, Int.zero_lt_one⟩, same.symm⟩
    · exact absurd (update_of_ne same _ fun _ => none) present
  case unused =>
    intro index lower upper
    have positive : 1 ≤ index := lower
    have later : index ≠ 0 := by omega
    exact congrArg PollSlot.fd (update_of_ne later _ fun _ => PollSlot.free)

namespace Exact

variable {history : PollHistory κ χ}

variable (exact : history.Exact)

include exact

theorem polls_iff (fd : Int) :
    history.table.Polls fd ↔ history.added fd ≠ none := by
  constructor
  · rintro ⟨index, listed, rfl⟩
    have range := mem_used.mp listed
    rw [(exact.used index range.1 range.2).2]
    exact Option.some_ne_none _
  · exact exact.complete fd

/-- Different slots in use hold different descriptors. -/
theorem fd_injective {first second : Int} (lower : 0 ≤ first)
    (upper : first < history.table.fdCountTotal) (lower' : 0 ≤ second)
    (upper' : second < history.table.fdCountTotal)
    (same : (history.table.slots first).fd = (history.table.slots second).fd) :
    first = second := by
  rcases lt_trichotomy first second with order | equal | order
  · exact absurd same (exact.distinct first second lower order upper')
  · exact equal
  · exact absurd same.symm (exact.distinct second first lower' order upper)

/-- An addition takes the slot after the ones in use, or is refused when there is none. -/
theorem addFrom_indexes (slot : PollSlot κ χ) (descriptor : 0 ≤ slot.fd) :
    history.table.addFrom slot indexes =
      if history.table.fdCountTotal < pollFdMax then
        ({ slots := update history.table.slots history.table.fdCountTotal slot
           fdCountTotal := history.table.fdCountTotal + 1 }, .ok)
      else (history.table, .noResources) := by
  by_cases room : history.table.fdCountTotal < pollFdMax
  · obtain ⟨before, after, split, smaller, -⟩ :=
      indexes_split exact.bounds.1 room
    have free := exact.unused _ le_rfl room
    have notUsed : ¬ 0 ≤ (history.table.slots history.table.fdCountTotal).fd := by omega
    have differs : (history.table.slots history.table.fdCountTotal).fd ≠ slot.fd := by omega
    rw [if_pos room, split, history.table.addFrom_append slot fun index listed =>
        (exact.used index (smaller index listed).1 (smaller index listed).2).1,
      addFrom, if_neg notUsed, if_neg differs]
  · have full : ∀ index ∈ indexes, 0 ≤ (history.table.slots index).fd := by
      intro index listed
      have range := mem_indexes.mp listed
      exact (exact.used index range.1 (by omega)).1
    rw [if_neg room, ← List.append_nil indexes, history.table.addFrom_append slot full,
      addFrom]

/-- The history with a new descriptor in the slot after the ones in use is exact. -/
theorem extended {slot : PollSlot κ χ} (descriptor : 0 ≤ slot.fd)
    (room : history.table.fdCountTotal < pollFdMax)
    (fresh : ¬ history.table.Polls slot.fd) :
    Exact
      { table :=
          { slots := update history.table.slots history.table.fdCountTotal slot
            fdCountTotal := history.table.fdCountTotal + 1 }
        added := update history.added slot.fd (some (slot.callback, slot.context)) } := by
  have nonnegative := exact.bounds.1
  have new : update history.table.slots history.table.fdCountTotal slot
      history.table.fdCountTotal = slot := update_self ..
  have old : ∀ index, index < history.table.fdCountTotal →
      update history.table.slots history.table.fdCountTotal slot index =
        history.table.slots index :=
    fun index below => update_of_ne (ne_of_lt below) ..
  have differs : ∀ index, 0 ≤ index → index < history.table.fdCountTotal →
      (history.table.slots index).fd ≠ slot.fd :=
    fun index lower upper same => fresh ⟨index, mem_used.mpr ⟨lower, upper⟩, same⟩
  have place : ∀ index, index < history.table.fdCountTotal + 1 →
      index < history.table.fdCountTotal ∨ index = history.table.fdCountTotal := by omega
  constructor
  case bounds => exact ⟨by simp only; omega, by simp only; omega⟩
  case used =>
    intro index lower upper
    rcases place index upper with below | rfl
    · simp only [old index below, update_of_ne (differs index lower below)]
      exact exact.used index lower below
    · simp only [new, update_self]
      exact ⟨descriptor, trivial⟩
  case distinct =>
    intro first second lower order upper
    rcases place second upper with below | rfl
    · simp only [old second below, old first (order.trans below)]
      exact exact.distinct first second lower order below
    · simp only [new, old first order]
      exact differs first lower order
  case complete =>
    intro fd present
    by_cases same : fd = slot.fd
    · refine ⟨history.table.fdCountTotal, mem_used.mpr ⟨nonnegative, Int.lt_succ _⟩, ?_⟩
      rw [same]
      exact congrArg PollSlot.fd new
    · have before : history.added fd ≠ none := by
        rwa [← update_of_ne same (some (slot.callback, slot.context)) history.added]
      obtain ⟨index, listed, found⟩ := exact.complete fd before
      have range := mem_used.mp listed
      refine ⟨index, mem_used.mpr ⟨range.1, Int.lt_add_one_of_le range.2.le⟩, ?_⟩
      rw [← found]
      exact congrArg PollSlot.fd (old index range.2)
  case unused =>
    intro index lower upper
    have later : index ≠ history.table.fdCountTotal := by
      simp only at lower
      omega
    simp only [update_of_ne later]
    exact exact.unused index (by simp only at lower; omega) upper

/-- A deletion of a descriptor in a slot in use moves the last slot there. -/
theorem fdProcessDelFd_used {index : Int} (lower : 0 ≤ index)
    (upper : index < history.table.fdCountTotal) :
    history.table.fdProcessDelFd (history.table.slots index).fd =
      (history.table.compressed index, .ok) := by
  have inTable : index < pollFdMax := lt_of_lt_of_le upper exact.bounds.2
  obtain ⟨before, after, split, smaller, greater⟩ := indexes_split lower inTable
  have descriptor := (exact.used index lower upper).1
  have earlier : ∀ other ∈ before,
      (history.table.slots index).fd ≠ (history.table.slots other).fd := fun other listed =>
    (exact.distinct other index (smaller other listed).1 (smaller other listed).2 upper).symm
  have moved : delAt (history.table.slots index).fd (history.table, .noResources) index =
      (history.table.compressed index, .ok) := if_neg (not_not_intro rfl)
  have later : ∀ other ∈ after,
      (history.table.slots index).fd ≠ ((history.table.compressed index).slots other).fd := by
    intro other listed
    have order := greater other listed
    rw [slots_compressed]
    by_cases last : other = history.table.fdCountTotal - 1
    · rw [if_pos last]
      exact ne_of_gt (lt_of_lt_of_le (Int.negSucc_lt_zero 0) descriptor)
    · rw [if_neg last, if_neg (ne_of_gt order.1)]
      by_cases inUse : other < history.table.fdCountTotal
      · exact exact.distinct index other lower order.1 inUse
      · rw [exact.unused other (not_lt.mp inUse) order.2]
        omega
  rw [fdProcessDelFd, split, List.foldl_append,
    delAt_eq_self (history.table, .noResources) earlier, List.foldl_cons, moved]
  exact delAt_eq_self _ later

/-- The history without the descriptor of a slot in use is exact once the last slot has been moved
there. -/
theorem removed {index : Int} (lower : 0 ≤ index)
    (upper : index < history.table.fdCountTotal) :
    Exact
      { table := history.table.compressed index
        added := update history.added (history.table.slots index).fd none } := by
  -- Every slot that stays in use holds what one of the other slots held before.
  have origin : ∀ other, 0 ≤ other → other < history.table.fdCountTotal - 1 →
      ∃ old, 0 ≤ old ∧ old < history.table.fdCountTotal ∧ old ≠ index ∧
        (history.table.compressed index).slots other = history.table.slots old ∧
        (old = other ∨ old = history.table.fdCountTotal - 1 ∧ other = index) := by
    intro other lower' upper'
    rw [slots_compressed, if_neg (ne_of_lt upper')]
    by_cases same : other = index
    · rw [if_pos same]
      exact ⟨history.table.fdCountTotal - 1, by omega, by omega, by omega, rfl, .inr ⟨rfl, same⟩⟩
    · rw [if_neg same]
      exact ⟨other, lower', by omega, same, rfl, .inl rfl⟩
  constructor
  case bounds =>
    have bounds := exact.bounds
    refine ⟨?_, ?_⟩ <;> simp only [compressed] <;> omega
  case used =>
    intro other lower' upper'
    obtain ⟨old, oldLower, oldUpper, distinct, same, -⟩ := origin other lower' upper'
    have differs : (history.table.slots old).fd ≠ (history.table.slots index).fd :=
      fun equal => distinct (exact.fd_injective oldLower oldUpper lower upper equal)
    simp only [same, update_of_ne differs]
    exact exact.used old oldLower oldUpper
  case distinct =>
    intro first second lower' order upper'
    have below : second < history.table.fdCountTotal - 1 := upper'
    obtain ⟨old, oldLower, oldUpper, -, same, place⟩ := origin first lower' (order.trans below)
    obtain ⟨old', oldLower', oldUpper', -, same', place'⟩ := origin second (by omega) below
    simp only [same, same']
    intro equal
    have := exact.fd_injective oldLower oldUpper oldLower' oldUpper' equal
    omega
  case complete =>
    intro fd present
    have differs : fd ≠ (history.table.slots index).fd := by
      rintro rfl
      exact present (update_self ..)
    have before : history.added fd ≠ none := by
      rwa [← update_of_ne differs none history.added]
    obtain ⟨old, listed, rfl⟩ := exact.complete fd before
    have range := mem_used.mp listed
    have distinct : old ≠ index := fun same => differs (congrArg (history.table.slots · |>.fd) same)
    by_cases last : old = history.table.fdCountTotal - 1
    · refine ⟨index, mem_used.mpr ⟨lower, ?_⟩, ?_⟩
      · simp only [compressed]
        omega
      · have notLast : index ≠ history.table.fdCountTotal - 1 := by omega
        simp only [slots_compressed, if_neg notLast, if_true, last]
    · refine ⟨old, mem_used.mpr ⟨range.1, ?_⟩, ?_⟩
      · simp only [compressed]
        omega
      · simp only [slots_compressed, if_neg last, if_neg distinct]
  case unused =>
    intro other lower' upper'
    have above : history.table.fdCountTotal - 1 ≤ other := lower'
    simp only [slots_compressed]
    by_cases last : other = history.table.fdCountTotal - 1
    · rw [if_pos last]
      rfl
    · rw [if_neg last, if_neg (by omega)]
      exact exact.unused other (by omega) upper'

/-- A deletion of a value that no slot holds changes nothing. -/
theorem fdProcessDelFd_absent {fd : Int}
    (absent : ¬ history.table.Polls fd)
    (notFree : fd = -1 → history.table.fdCountTotal = pollFdMax) :
    history.table.fdProcessDelFd fd = (history.table, .noResources) := by
  refine delAt_eq_self (history.table, .noResources) fun index listed same => ?_
  have range := mem_indexes.mp listed
  by_cases inUse : index < history.table.fdCountTotal
  · exact absent ⟨index, mem_used.mpr ⟨range.1, inUse⟩, same.symm⟩
  · have free := exact.unused index (not_lt.mp inUse) range.2
    have full := notFree (same.trans free)
    omega

/-- A deletion of −1 while a slot is free is answered with success. -/
theorem fdProcessDelFd_free
    (room : history.table.fdCountTotal < pollFdMax) :
    (history.table.fdProcessDelFd (-1)).2 = .ok := by
  obtain ⟨before, after, split, smaller, -⟩ := indexes_split exact.bounds.1 room
  have earlier : ∀ index ∈ before, (-1 : Int) ≠ (history.table.slots index).fd := by
    intro index listed
    have descriptor := (exact.used index (smaller index listed).1 (smaller index listed).2).1
    omega
  have free := exact.unused _ le_rfl room
  rw [fdProcessDelFd, split, List.foldl_append,
    delAt_eq_self (history.table, .noResources) earlier, List.foldl_cons]
  refine List.foldlRecOn (motive := fun result : PollTable κ χ × DOVEStatus => result.2 = .ok)
    after _ ?_ fun result succeeded index _ => ?_
  · rw [delAt, if_neg (not_not_intro free.symm)]
  · by_cases differs : (-1 : Int) ≠ (result.1.slots index).fd
    · rw [delAt, if_pos differs]
      exact succeeded
    · rw [delAt, if_neg differs]

/-- A call that meets the condition leaves an exact table. -/
theorem step {call : PollCall κ χ} (meets : history.Meets call) :
    (history.step call).Exact := by
  cases call with
  | addFd fd callback context =>
    by_cases refused : fd < 0 ∨ callback.isNone
    · have unchanged : history.step (.addFd fd callback context) = history := by
        simp only [PollHistory.step, call, fdProcessAddFd, if_pos refused]
        rfl
      rwa [unchanged]
    · have descriptor : 0 ≤ fd := by omega
      have answer : history.table.call (.addFd fd callback context) = _ :=
        (if_neg refused).trans (exact.addFrom_indexes { fd, callback, context } descriptor)
      simp only [PollHistory.step, answer]
      by_cases room : history.table.fdCountTotal < pollFdMax
      · simp only [if_pos room, recorded, if_true]
        exact exact.extended descriptor room meets
      · simp only [if_neg room, recorded]
        exact exact
  | delFd fd =>
    by_cases present : history.table.Polls fd
    · obtain ⟨index, listed, rfl⟩ := present
      have range := mem_used.mp listed
      simp only [PollHistory.step, call, exact.fdProcessDelFd_used range.1 range.2,
        recorded, if_true]
      exact exact.removed range.1 range.2
    · simp only [PollHistory.step, call, exact.fdProcessDelFd_absent present meets,
        recorded]
      exact exact

/-- In an exact table the calls that keep their promise are those that meet the condition. -/
theorem honours_iff (call : PollCall κ χ) :
    history.Honours call ↔ history.Meets call := by
  constructor
  · rintro ⟨-, promise⟩
    cases call with
    | addFd fd callback context =>
      intro present
      have answer := promise ((exact.polls_iff fd).mp present)
      exact history.table.fdProcessAddFd_ne_alreadyExists fd callback context
        (congrArg Prod.snd answer)
    | delFd fd =>
      rintro rfl
      by_contra notFull
      have room : history.table.fdCountTotal < pollFdMax :=
        lt_of_le_of_ne exact.bounds.2 notFull
      have notAdded : history.added (-1) = none := by
        by_contra added
        obtain ⟨index, listed, same⟩ := exact.complete (-1) added
        have range := mem_used.mp listed
        have descriptor := (exact.used index range.1 range.2).1
        omega
      exact (promise notAdded).2 (exact.fdProcessDelFd_free room)
  · intro meets
    refine ⟨exact.step meets, ?_⟩
    cases call with
    | addFd fd callback context => exact fun added => absurd (exact.complete fd added) meets
    | delFd fd =>
      intro notAdded
      have absent : ¬ history.table.Polls fd := fun present =>
        (exact.polls_iff fd).mp present notAdded
      simp only [call, exact.fdProcessDelFd_absent absent meets]
      exact ⟨trivial, DOVEStatus.noConfusion⟩

end Exact

/-- After the initialization, every call of a history keeps its promise exactly when no call adds
a descriptor that a slot in use holds and none deletes −1 while a slot is free. -/
theorem every_call_honours_iff {dummyFd : Int} (descriptor : 0 ≤ dummyFd) (dummyInfoProcess : κ)
    (calls : List (PollCall κ χ)) :
    Admissible step Honours (start dummyFd dummyInfoProcess) calls ↔
      Admissible step Meets (start dummyFd dummyInfoProcess) calls :=
  admissible_iff Exact (fun _ _ exact meets => exact.step meets)
    (fun _ call exact => exact.honours_iff call) (start_exact descriptor dummyInfoProcess)

/-- Three additions, a deletion and the deletion of a value that was not added. -/
theorem additions_and_deletions_honour :
    Admissible step Honours (start 3 () : PollHistory Unit Nat)
      [.addFd 5 (some ()) (some 1), .addFd 6 (some ()) (some 2), .addFd 7 none none, .delFd 5,
        .delFd 9] :=
  (every_call_honours_iff (by decide) () _).mpr (by decide)

/-- A descriptor that is added twice is answered with success both times and takes two slots. -/
theorem second_addition_is_not_refused :
    ¬ Admissible step Honours (start 3 () : PollHistory Unit Nat)
      [.addFd 5 (some ()) (some 1), .addFd 5 (some ()) (some 2)] := by
  rintro ⟨-, ⟨exact, -⟩, -⟩
  exact exact.distinct 1 2 (by decide) (by decide) (by decide) (by decide)

end PollHistory

end OpenDove
