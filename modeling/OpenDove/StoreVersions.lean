import OpenDove.ObjectStore

/-!
# Versions of the object store

Each change of an object is numbered with the next version of the view it goes through, and a view
derives its counter from the keys that are in the store. As long as the greatest key stays there, or
goes only once every view counts beyond it and no view is new, a view that catches up counts beyond
every version that was ever assigned.
-/

namespace OpenDove

/-- The store with the versions that were assigned so far. -/
structure VersionHistory where
  store : ObjectStore
  assigned : List Int

variable {history : VersionHistory} {event : StoreEvent} {store : ObjectStore}

namespace ObjectStore

/-- The object that a call changes, if it changes one. -/
def changed (store : ObjectStore) : StoreEvent → Option Nat
  | .putIfAbsent index s obj =>
    match store.views[index]? with
    | none => none
    | some view =>
      if ((store.updateConcurrentMap view).str2OpenDoveObjectMap s).isNone then some obj else none
  | .update index _ obj => store.views[index]?.map fun _ => obj
  | _ => none

/-- A change stores its object under the counter of a view that has caught up. Nothing else but the
collector touches the map behind the views. -/
theorem step_cases (store : ObjectStore) (kept : event ≠ .gcRemove) :
    (store.changed event = none ∧ (store.step event).objectDB = store.objectDB) ∨
      ∃ obj index, ∃ view ∈ store.views, ∃ before seen, store.changed event = some obj ∧
        store.step event = storeNext before index seen obj ∧ before.objectDB = store.objectDB ∧
        seen.objectIntegerCounter = (store.updateConcurrentMap view).objectIntegerCounter := by
  cases event with
  | putIfAbsent index s obj =>
    cases built : store.views[index]? with
    | none => simp [changed, step, putIfAbsent, built]
    | some view =>
      cases known : (store.updateConcurrentMap view).str2OpenDoveObjectMap s with
      | some present => simp [changed, step, putIfAbsent, built, known]
      | none =>
        simp only [changed, step, putIfAbsent, built, known]
        exact .inr ⟨obj, index, view, List.mem_of_getElem? built, _, _, rfl, rfl, rfl, rfl⟩
  | update index s obj =>
    cases built : store.views[index]? with
    | none => simp [changed, step, update, built]
    | some view =>
      simp only [changed, step, update, built]
      exact .inr ⟨obj, index, view, List.mem_of_getElem? built, _, _, rfl, rfl, rfl, rfl⟩
  | get index s => cases built : store.views[index]? <;> simp [changed, step, get, built]
  | remove index s => cases built : store.views[index]? <;> simp [changed, step, remove, built]
  | gcBegin =>
    obtain ⟨collector, same⟩ := store.gcBegin_eq
    exact .inl ⟨rfl, by rw [step, same]⟩
  | gcVisit appliances =>
    obtain ⟨collector, same⟩ := store.gcVisit_eq appliances
    exact .inl ⟨rfl, by rw [step, same]⟩
  | gcRemove => exact absurd rfl kept
  | newView | setTombstoneFlag | setPolicyAction => exact .inl ⟨rfl, rfl⟩

/-- A change gives the object a version beyond every key, and not before the counters of all views,
and stores it there. -/
structure Numbers (before after : ObjectStore) (obj : Nat) (version : Int) : Prop where
  beyond : ∀ key other, before.objectDB.lookup key = some other → key < version
  counted : ∃ view ∈ before.views, view.objectIntegerCounter ≤ version
  noted : (after.objects obj).lastChangeVersion = version
  stored : ∀ key, after.objectDB.lookup key =
    if key = version then some obj else before.objectDB.lookup key

theorem WellNumbered.numbers (wellNumbered : store.WellNumbered) {obj : Nat}
    (change : store.changed event = some obj) :
    ∃ version, Numbers store (store.step event) obj version := by
  have kept : event ≠ .gcRemove := by
    rintro rfl
    cases change
  obtain ⟨unchanged, -⟩ | ⟨_, index, view, built, before, seen, changed, stepped, same, counted⟩ :=
    store.step_cases kept
  · cases unchanged.symm.trans change
  · obtain rfl := Option.some.inj (changed.symm.trans change)
    have beyond : ∀ key other, store.objectDB.lookup key = some other →
        key < seen.objectIntegerCounter :=
      fun key other found => counted ▸ wellNumbered.passed view found
    refine ⟨seen.objectIntegerCounter, beyond,
      ⟨view, built, counted ▸ (wellNumbered.caughtUp view).grows⟩, ?_, fun key => ?_⟩
    · simp only [stepped, ObjectStore.storeNext, Function.update_self]
    · rw [stepped, lookup_storeNext index seen (same ▸ beyond), same]

/-- Views only count on, unless one is new. -/
theorem WellNumbered.views_grow (wellNumbered : store.WellNumbered) (room : store.HasRoom event)
    (old : ∀ cls, event ≠ .newView cls) {view : StoreView} (listed : view ∈ (store.step event).views) :
    ∃ before ∈ store.views, before.objectIntegerCounter ≤ view.objectIntegerCounter := by
  have replaced {index : Nat} {before after : StoreView} (built : store.views[index]? = some before)
      (listed : view ∈ store.views.set index after)
      (grows : (store.updateConcurrentMap before).objectIntegerCounter ≤
        after.objectIntegerCounter) :
      ∃ before ∈ store.views, before.objectIntegerCounter ≤ view.objectIntegerCounter := by
    rcases List.mem_or_eq_of_mem_set listed with same | rfl
    · exact ⟨view, same, le_rfl⟩
    · exact ⟨before, List.mem_of_getElem? built, (wellNumbered.caughtUp before).grows.trans grows⟩
  have counts {index : Nat} {before : StoreView} (built : store.views[index]? = some before)
      (room : store.Room index) : (store.updateConcurrentMap before).objectIntegerCounter ≤
        javaInt ((store.updateConcurrentMap before).objectIntegerCounter + 1) := by
    have small := wellNumbered.counter_lt built room
    have positive := (wellNumbered.fit_caughtUp built).1.1
    rw [javaInt_eq (by omega) (by omega)]
    omega
  have same (unchanged : (store.step event).views = store.views) :
      ∃ before ∈ store.views, before.objectIntegerCounter ≤ view.objectIntegerCounter :=
    ⟨view, unchanged ▸ listed, le_rfl⟩
  cases event with
  | newView cls => exact absurd rfl (old cls)
  | putIfAbsent index s obj =>
    simp only [ObjectStore.step, ObjectStore.putIfAbsent] at listed
    split at listed
    · exact ⟨view, listed, le_rfl⟩
    next built =>
      split at listed
      · exact replaced built listed le_rfl
      · exact replaced built listed (counts built room)
  | update | get | remove =>
    simp only [ObjectStore.step, ObjectStore.update, ObjectStore.get, ObjectStore.remove] at listed
    split at listed
    · exact ⟨view, listed, le_rfl⟩
    next built =>
      first
      | exact replaced built listed le_rfl
      | exact replaced built listed (counts built room)
  | gcBegin => exact same (by obtain ⟨_, isStep⟩ := store.gcBegin_eq; rw [ObjectStore.step, isStep])
  | gcVisit appliances =>
    exact same (by obtain ⟨_, isStep⟩ := store.gcVisit_eq appliances; rw [ObjectStore.step, isStep])
  | gcRemove =>
    rcases store.gcRemove_eq with isStep | ⟨_, _, -, isStep⟩ <;>
      exact same (by rw [ObjectStore.step, isStep])
  | setTombstoneFlag | setPolicyAction => exact same rfl

end ObjectStore

namespace VersionHistory

def start (objects : Nat → OpenDoveObject) : VersionHistory :=
  { store := ObjectStore.start objects, assigned := [] }

/-- The history after one more event. -/
def step (history : VersionHistory) (event : StoreEvent) : VersionHistory where
  store := history.store.step event
  assigned :=
    match history.store.changed event with
    | none => history.assigned
    | some obj =>
      history.assigned ++ [((history.store.step event).objects obj).lastChangeVersion]

/-- A call that changes an object gives it a version greater than every version before and stores
it there. -/
def Honours (history : VersionHistory) (event : StoreEvent) : Prop :=
  ∀ obj, history.store.changed event = some obj →
    (∀ version ∈ history.assigned,
      version < ((history.store.step event).objects obj).lastChangeVersion) ∧
    (history.store.step event).objectDB.lookup
      ((history.store.step event).objects obj).lastChangeVersion = some obj

/-- The collector does not remove the greatest key while a view lags behind it, a view is not made
while a version is beyond every key, and a call finds room for its version. -/
def Meets (history : VersionHistory) : StoreEvent → Prop
  | .gcRemove =>
    match history.store.collector with
    | .cleaning key _ => (∃ greater ∈ history.store.objectDB.keys, key < greater) ∨
      ∀ view ∈ history.store.views, key < view.objectIntegerCounter
    | .idle | .scanning _ => True
  | .newView _ =>
    ∀ version ∈ history.assigned, ∃ key ∈ history.store.objectDB.keys, version ≤ key
  | event => history.store.HasRoom event

instance (history : VersionHistory) : (event : StoreEvent) → Decidable (history.Meets event)
  | .gcRemove =>
    match found : history.store.collector with
    | .cleaning key _ =>
      decidable_of_iff ((∃ greater ∈ history.store.objectDB.keys, key < greater) ∨
        ∀ view ∈ history.store.views, key < view.objectIntegerCounter) (by simp [Meets, found])
    | .idle | .scanning _ => isTrue (by simp [Meets, found])
  | .putIfAbsent view _ _ | .update view _ _ => inferInstanceAs (Decidable (history.store.Room view))
  | .newView _ => inferInstanceAs (Decidable
    (∀ version ∈ history.assigned, ∃ key ∈ history.store.objectDB.keys, version ≤ key))
  | .get .. | .remove .. | .setTombstoneFlag .. | .setPolicyAction .. | .gcBegin | .gcVisit _ =>
    inferInstanceAs (Decidable True)

/-- No version that was assigned is beyond every key, unless all views count beyond it. -/
structure Covered (history : VersionHistory) : Prop where
  wellNumbered : history.store.WellNumbered
  covered : ∀ version ∈ history.assigned,
    (∃ key obj, history.store.objectDB.lookup key = some obj ∧ version ≤ key) ∨
      ∀ view ∈ history.store.views, version < view.objectIntegerCounter

theorem Meets.hasRoom (meets : history.Meets event) : history.store.HasRoom event := by
  cases event
  case gcRemove | newView => exact True.intro
  all_goals exact meets

section

variable (covered : history.Covered)

include covered

/-- A change is numbered beyond every version before. -/
theorem Covered.lt_version {obj : Nat} {after : ObjectStore}
    {version new : Int} (numbers : ObjectStore.Numbers history.store after obj new)
    (listed : version ∈ history.assigned) : version < new := by
  rcases covered.covered version listed with ⟨key, other, found, below⟩ | behind
  · exact lt_of_le_of_lt below (numbers.beyond key other found)
  · obtain ⟨view, built, counted⟩ := numbers.counted
    exact lt_of_lt_of_le (behind view built) counted

theorem Covered.honours (event : StoreEvent) : history.Honours event := by
  intro obj change
  obtain ⟨version, numbers⟩ := covered.wellNumbered.numbers change
  refine ⟨fun earlier listed => ?_, ?_⟩
  · rw [numbers.noted]
    exact covered.lt_version numbers listed
  · rw [numbers.noted, numbers.stored, if_pos rfl]

/-- The greatest key is still there after the collector has removed a smaller one, and if it removed
the greatest, all views count beyond it. -/
theorem Covered.gcRemove (meets : history.Meets .gcRemove) {version : Int}
    (listed : version ∈ history.assigned) :
    (∃ key obj, history.store.gcRemove.objectDB.lookup key = some obj ∧ version ≤ key) ∨
      ∀ view ∈ history.store.gcRemove.views, version < view.objectIntegerCounter := by
  rcases history.store.gcRemove_eq with same | ⟨gone, rest, place, same⟩
  · rw [same]
    exact covered.covered version listed
  · simp only [Meets, place] at meets
    rw [same]
    simp only [Dict.lookup_erase]
    refine (covered.covered version listed).elim (fun ⟨key, obj, found, below⟩ => ?_) .inr
    by_cases removed : key = gone
    · rcases meets with ⟨greater, present, above⟩ | beyond
      · obtain ⟨other, found⟩ := (Dict.mem_iff_lookup _ _).mp (AList.mem_keys.mpr present)
        refine .inl ⟨greater, other, ?_, by omega⟩
        rw [if_neg (ne_of_gt above)]
        exact found
      · exact .inr fun view built => lt_of_le_of_lt (removed ▸ below) (beyond view built)
    · refine .inl ⟨key, obj, ?_, below⟩
      rw [if_neg removed]
      exact found

theorem Covered.step (meets : history.Meets event) : (history.step event).Covered := by
  refine ⟨covered.wellNumbered.step event meets.hasRoom, fun version listed => ?_⟩
  cases change : history.store.changed event with
  | some obj =>
    obtain ⟨new, numbers⟩ := covered.wellNumbered.numbers change
    simp only [VersionHistory.step, change, List.mem_append, List.mem_singleton] at listed
    refine .inl ⟨new, obj, (numbers.stored new).trans (if_pos rfl), ?_⟩
    rcases listed with before | rfl
    · exact (covered.lt_version numbers before).le
    · exact numbers.noted.le
  | none =>
    simp only [VersionHistory.step, change] at listed
    by_cases collects : event = .gcRemove
    · subst collects
      exact covered.gcRemove meets listed
    · obtain ⟨-, same⟩ | ⟨obj, -, -, -, -, -, changed, -⟩ := history.store.step_cases collects
      · simp only [VersionHistory.step, same]
        by_cases isNew : ∃ cls, event = .newView cls
        · obtain ⟨cls, rfl⟩ := isNew
          obtain ⟨key, stored, below⟩ := meets version listed
          obtain ⟨obj, found⟩ := (Dict.mem_iff_lookup _ _).mp (AList.mem_keys.mpr stored)
          exact .inl ⟨key, obj, found, below⟩
        · refine (covered.covered version listed).imp_right fun behind view built => ?_
          obtain ⟨before, listed, grows⟩ := covered.wellNumbered.views_grow meets.hasRoom
            (not_exists.mp isNew) built
          exact lt_of_lt_of_le (behind before listed) grows
      · cases changed.symm.trans change

end

theorem start_covered (objects : Nat → OpenDoveObject) : (start objects).Covered :=
  ⟨ObjectStore.start_wellNumbered objects, fun _ listed => absurd listed List.not_mem_nil⟩

/-- In a history in which the collector removes the greatest key only once every view counts beyond
it, no view is made until a greater key is there, and the versions stay below the greatest integer,
every call that changes an object gives it a version greater than every
version before and stores the object under it. -/
theorem versions_increase (objects : Nat → OpenDoveObject) (events : List StoreEvent)
    (admissible : Admissible step Meets (start objects) events) :
    Admissible step Honours (start objects) events :=
  admissible.imp Covered (fun _ _ covered meets => covered.step meets)
    (fun _ event covered _ => covered.honours event) (start_covered objects)

/-- A domain that no view has stored yet. -/
def newDomain : OpenDoveObject :=
  { cls := .domain, uuid := "domain", domainId := none, vnid := 0, subnetUuid := "",
    policyAction := 0, tombstoneFlag := false, createVersion := 0, lastChangeVersion := 0 }

/-- Two views write, the collector removes both versions of a deleted object, and a new view goes on
with the next version. -/
theorem versions_increase_past_collection :
    Admissible step Honours (start fun _ => newDomain)
      [.newView .domain, .newView .domain, .putIfAbsent 0 "a" 0, .putIfAbsent 1 "b" 1,
        .setTombstoneFlag 0 true, .update 0 "a" 0, .putIfAbsent 1 "c" 2, .gcBegin, .gcVisit [],
        .gcRemove, .gcVisit [], .gcVisit [], .gcRemove, .newView .domain,
        .putIfAbsent 2 "d" 3] :=
  versions_increase _ _ (by decide)

/-- The collector removes the only version, and a new view assigns it again. -/
theorem removed_version_is_assigned_again :
    ¬ Admissible step Honours (start fun _ => newDomain)
      [.newView .domain, .putIfAbsent 0 "a" 0, .setTombstoneFlag 0 true, .gcBegin, .gcVisit [],
        .gcRemove, .newView .domain, .putIfAbsent 1 "b" 1] := by
  rintro ⟨-, -, -, -, -, -, -, last, -⟩
  obtain ⟨greater, -⟩ := last 1 (by decide)
  exact absurd (greater 1 (by decide)) (by decide)

end VersionHistory

end OpenDove
