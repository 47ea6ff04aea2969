import OpenDove.StoreVersions

/-!
# Agreement of the views

Several views over one store are meant to show the same objects: those of other cluster nodes, or
those that a restart builds over the content it finds. A view, however, asks whether the class
literal it was given is an instance of the class of an object, which no class literal is, so it
never learns of an object that another view has stored. The views agree as long as each object is
put through the only view of its class, and that view is older than the objects.
-/

namespace OpenDove

/-- An operation of a history of puts. -/
inductive PutEvent where
  | newView (cls : ObjectClass)
  | putIfAbsent (view : Nat) (s : String) (obj : Nat)
  | get (view : Nat) (s : String)

/-- An operation of a history of puts as an event of the store. -/
def PutEvent.toEvent : PutEvent → StoreEvent
  | newView cls => .newView cls
  | putIfAbsent view s obj => .putIfAbsent view s obj
  | get view s => .get view s

variable {index : Nat} {view : StoreView} {s : String} {event : PutEvent}

namespace ObjectStore

variable (store : ObjectStore)

/-- The store after an operation of a history of puts. -/
def stepPut (event : PutEvent) : ObjectStore := store.step event.toEvent

/-- Every view finds by UUID every object of its class in the store, and no object of another
class. -/
structure Agrees (store : ObjectStore) : Prop where
  complete : ∀ index view cls, store.views[index]? = some view →
    view.myInterestedClass = .classLiteral cls → ∀ key obj,
    store.objectDB.lookup key = some obj → (store.objects obj).cls = cls →
    (store.get index (store.objects obj).uuid).2 = some obj
  sound : ∀ index view cls, store.views[index]? = some view →
    view.myInterestedClass = .classLiteral cls → ∀ s obj,
    (store.get index s).2 = some obj → (store.objects obj).cls = cls

/-- What an operation promises: the views agree after it, and a put of a UUID that is in the store
returns the object with it and stores nothing. -/
def HonoursPut (event : PutEvent) : Prop :=
  (store.stepPut event).Agrees ∧
    match event with
    | .putIfAbsent index s obj => ∀ view, store.views[index]? = some view → ∀ key other,
        store.objectDB.lookup key = some other → (store.objects other).uuid = s →
        (store.putIfAbsent index s obj).2 = some other ∧
          (store.putIfAbsent index s obj).1.objectDB = store.objectDB
    | _ => True

/-- An object may be added through a view: it is of the class of the view and goes by its own UUID,
no other view is of that class, and the store holds no object with that UUID. -/
def MayAdd (index : Nat) (view : StoreView) (s : String) (obj : Nat) : Prop :=
  view.myInterestedClass = .classLiteral (store.objects obj).cls ∧ (store.objects obj).uuid = s ∧
    (∀ other ∈ store.views.eraseIdx index, other.myInterestedClass ≠ view.myInterestedClass) ∧
    ∀ other ∈ store.objectDB.values, (store.objects other).uuid ≠ s

/-- A put is of a UUID that the view knows, or it may add the object. -/
def MayPut (index : Nat) (s : String) (obj : Nat) : Prop :=
  match store.views[index]? with
  | none => True
  | some view => (view.str2OpenDoveObjectMap s).isSome ∨ store.MayAdd index view s obj

/-- A view is built while the store has no object of its class, and a put is one that may be
made. -/
def MeetsPut : PutEvent → Prop
  | .newView cls => ∀ obj ∈ store.objectDB.values, (store.objects obj).cls ≠ cls
  | .putIfAbsent index s obj => store.Room index ∧ store.MayPut index s obj
  | .get _ _ => True

instance (store : ObjectStore) (index : Nat) (view : StoreView) (s : String) (obj : Nat) :
    Decidable (store.MayAdd index view s obj) := by
  unfold MayAdd
  infer_instance

instance (store : ObjectStore) (index : Nat) (s : String) (obj : Nat) :
    Decidable (store.MayPut index s obj) :=
  match found : store.views[index]? with
  | none => isTrue (by simp [MayPut, found])
  | some view =>
    decidable_of_iff ((view.str2OpenDoveObjectMap s).isSome ∨ store.MayAdd index view s obj)
      (by simp [MayPut, found])

instance (store : ObjectStore) (event : PutEvent) : Decidable (store.MeetsPut event) := by
  cases event <;> unfold MeetsPut <;> infer_instance

/-- A view knows exactly the objects of its class, by their UUIDs. -/
def Knows (store : ObjectStore) (view : StoreView) : Prop :=
  (∀ key obj, store.objectDB.lookup key = some obj →
    view.myInterestedClass = .classLiteral (store.objects obj).cls →
    view.str2OpenDoveObjectMap (store.objects obj).uuid = some obj) ∧
  ∀ s obj, view.str2OpenDoveObjectMap s = some obj →
    view.myInterestedClass = .classLiteral (store.objects obj).cls ∧
      (store.objects obj).uuid = s ∧ ∃ key, store.objectDB.lookup key = some obj

/-- Each view knows the objects of its class, and the objects in the store have different UUIDs. -/
structure Shared (store : ObjectStore) : Prop where
  wellNumbered : store.WellNumbered
  knows : ∀ view ∈ store.views, store.Knows view
  unique : ∀ key obj key' obj', store.objectDB.lookup key = some obj →
    store.objectDB.lookup key' = some obj' →
    (store.objects obj).uuid = (store.objects obj').uuid → obj = obj'

namespace Shared

variable {store : ObjectStore}

variable (shared : store.Shared)

include shared

/-- A view that catches up knows what it knew. -/
theorem str_updateConcurrentMap (listed : view ∈ store.views) :
    (store.updateConcurrentMap view).str2OpenDoveObjectMap = view.str2OpenDoveObjectMap := by
  obtain ⟨-, cls, literal⟩ := shared.wellNumbered.fit view listed
  exact (shared.wellNumbered.caughtUp view).known cls literal

theorem get_eq (built : store.views[index]? = some view) (s : String) :
    (store.get index s).2 = view.str2OpenDoveObjectMap s := by
  simp only [ObjectStore.get, built]
  rw [shared.str_updateConcurrentMap (List.mem_of_getElem? built)]

theorem agrees : store.Agrees := by
  constructor
  case complete =>
    intro index view cls built literal key obj found same
    rw [shared.get_eq built]
    exact (shared.knows view (List.mem_of_getElem? built)).1 key obj found (same ▸ literal)
  case sound =>
    intro index view cls built literal s obj found
    rw [shared.get_eq built] at found
    have mine := ((shared.knows view (List.mem_of_getElem? built)).2 s obj found).1
    exact JavaValue.classLiteral.inj (mine.symm.trans literal)

/-- A view may catch up. -/
theorem catchUp (built : store.views[index]? = some view) :
    Shared { store with views := store.views.set index (store.updateConcurrentMap view) } := by
  have listed := List.mem_of_getElem? built
  refine ⟨shared.wellNumbered.setView (shared.wellNumbered.fit_caughtUp built) index,
    fun other present => ?_, shared.unique⟩
  rcases List.mem_or_eq_of_mem_set present with before | rfl
  · exact shared.knows other before
  · unfold Knows
    rw [(shared.wellNumbered.caughtUp view).interested, shared.str_updateConcurrentMap listed]
    exact shared.knows view listed

/-- A put of a known UUID returns the object the view knows and stores nothing. -/
theorem putIfAbsent_known (built : store.views[index]? = some view)
    {present : Nat} (known : view.str2OpenDoveObjectMap s = some present) (obj : Nat) :
    store.putIfAbsent index s obj =
      ({ store with views := store.views.set index (store.updateConcurrentMap view) },
        some present) := by
  have caughtUp := shared.str_updateConcurrentMap (List.mem_of_getElem? built)
  simp only [ObjectStore.putIfAbsent, built, caughtUp, known]

/-- A put of another UUID adds the object to the view. -/
theorem putIfAbsent_unknown (built : store.views[index]? = some view)
    (unknown : view.str2OpenDoveObjectMap s = none) (obj : Nat) :
    ∃ view', (store.putIfAbsent index s obj).1.views = store.views.set index view' ∧
      view'.myInterestedClass = view.myInterestedClass ∧
      view'.str2OpenDoveObjectMap = Function.update view.str2OpenDoveObjectMap s (some obj) := by
  have caughtUp := shared.str_updateConcurrentMap (List.mem_of_getElem? built)
  have interested := (shared.wellNumbered.caughtUp view).interested
  simp only [ObjectStore.putIfAbsent, built, caughtUp, unknown]
  exact ⟨_, rfl, interested, rfl⟩

omit shared in
/-- What a list holds after one place was set is the new element, or it stands elsewhere. -/
theorem mem_set_cases {α : Type} {list : List α} {element other : α}
    (present : other ∈ list.set index element) : other = element ∨ other ∈ list.eraseIdx index := by
  obtain ⟨place, found⟩ := List.mem_iff_getElem?.mp present
  rw [List.getElem?_set] at found
  by_cases same : index = place
  · rw [if_pos same] at found
    by_cases inside : index < list.length
    · rw [if_pos inside] at found
      exact .inl (Option.some.inj found).symm
    · rw [if_neg inside] at found
      cases found
  · rw [if_neg same] at found
    exact .inr (List.mem_eraseIdx_iff_getElem?.mpr ⟨place, Ne.symm same, found⟩)

omit shared in
/-- A put changes neither the class nor the UUID of an object. -/
theorem identity_putIfAbsent (store : ObjectStore) (index : Nat) (s : String) (obj other : Nat) :
    ((store.putIfAbsent index s obj).1.objects other).cls = (store.objects other).cls ∧
      ((store.putIfAbsent index s obj).1.objects other).uuid = (store.objects other).uuid := by
  cases built : store.views[index]? with
  | none => simp only [ObjectStore.putIfAbsent, built, and_self]
  | some view =>
    cases known : (store.updateConcurrentMap view).str2OpenDoveObjectMap s with
    | some present => simp only [ObjectStore.putIfAbsent, built, known, and_self]
    | none =>
      simp only [ObjectStore.putIfAbsent, built, known, ObjectStore.storeNext,
        Function.update_idem, Function.update_self]
      by_cases same : other = obj
      · subst same
        simp only [Function.update_self, and_self]
      · simp only [Function.update_of_ne same, and_self]

/-- A put that may add its object leaves every view with exactly the objects of its class. -/
theorem add (built : store.views[index]? = some view)
    (room : store.Room index) {obj : Nat} (unknown : view.str2OpenDoveObjectMap s = none)
    (may : store.MayAdd index view s obj) : (store.putIfAbsent index s obj).1.Shared := by
  obtain ⟨literal, named, only, fresh⟩ := may
  have listed := List.mem_of_getElem? built
  have change : store.changed (.putIfAbsent index s obj) = some obj := by
    simp only [changed, built, shared.str_updateConcurrentMap listed, unknown, Option.isNone_none,
      if_true]
  obtain ⟨version, numbers⟩ := shared.wellNumbered.numbers change
  have identity := identity_putIfAbsent store index s obj
  obtain ⟨view', views, interested, known⟩ := shared.putIfAbsent_unknown built unknown obj
  -- An object in the store afterwards is the new one, or it was there and has another UUID.
  have origin : ∀ key other, (store.putIfAbsent index s obj).1.objectDB.lookup key = some other →
      other = obj ∨ store.objectDB.lookup key = some other ∧ (store.objects other).uuid ≠ s := by
    intro key other found
    have stored := numbers.stored key
    rw [show store.step (.putIfAbsent index s obj) = (store.putIfAbsent index s obj).1 from rfl,
      found] at stored
    by_cases new : key = version
    · rw [if_pos new] at stored
      exact .inl (Option.some.inj stored)
    · rw [if_neg new] at stored
      exact .inr ⟨stored.symm, fresh other ((Dict.mem_values _ _).mpr ⟨key, stored.symm⟩)⟩
  have kept : ∀ key other, store.objectDB.lookup key = some other →
      (store.putIfAbsent index s obj).1.objectDB.lookup key = some other := by
    intro key other found
    refine (numbers.stored key).trans ?_
    rw [if_neg (ne_of_lt (numbers.beyond key other found))]
    exact found
  have added : (store.putIfAbsent index s obj).1.objectDB.lookup version = some obj :=
    (numbers.stored version).trans (if_pos rfl)
  refine ⟨shared.wellNumbered.step (.putIfAbsent index s obj) room,
    fun other present => ⟨?_, ?_⟩, ?_⟩
  all_goals try rw [views] at present
  · intro key stored found mine
    rw [(identity stored).1] at mine
    rw [(identity stored).2]
    rcases mem_set_cases present with rfl | elsewhere
    · rw [known]
      rcases origin key stored found with rfl | ⟨before, differs⟩
      · rw [named, Function.update_self]
      · rw [Function.update_of_ne differs]
        exact (shared.knows view listed).1 key stored before (interested ▸ mine)
    · rcases origin key stored found with rfl | ⟨before, -⟩
      · exact absurd (mine.trans literal.symm) (only other elsewhere)
      · exact (shared.knows other (List.mem_of_mem_eraseIdx elsewhere)).1 key stored before mine
  · intro name stored found
    rw [(identity stored).1, (identity stored).2]
    have carried : ∀ old ∈ store.views, old.str2OpenDoveObjectMap name = some stored →
        old.myInterestedClass = .classLiteral (store.objects stored).cls ∧
          (store.objects stored).uuid = name ∧
          ∃ key, (store.putIfAbsent index s obj).1.objectDB.lookup key = some stored := by
      intro old listedBefore foundBefore
      obtain ⟨mine, own, key, before⟩ := (shared.knows old listedBefore).2 name stored foundBefore
      exact ⟨mine, own, key, kept key stored before⟩
    rcases mem_set_cases present with rfl | elsewhere
    · rw [known] at found
      rw [interested]
      by_cases new : name = s
      · rw [new, Function.update_self] at found
        obtain rfl := Option.some.inj found
        exact ⟨literal, named.trans new.symm, version, added⟩
      · rw [Function.update_of_ne new] at found
        exact carried view listed found
    · exact carried other (List.mem_of_mem_eraseIdx elsewhere) found
  · intro key first key' second found found' same
    rw [(identity first).2, (identity second).2] at same
    rcases origin key first found with rfl | ⟨before, differs⟩
    · rcases origin key' second found' with rfl | ⟨-, differs'⟩
      · rfl
      · exact absurd (same.symm.trans named) differs'
    · rcases origin key' second found' with rfl | ⟨before', -⟩
      · exact absurd (same.trans named) differs
      · exact shared.unique key first key' second before before' same

/-- Every operation that meets the condition leaves every view with exactly the objects of its
class. -/
theorem stepPut (meets : store.MeetsPut event) :
    (store.stepPut event).Shared := by
  cases event with
  | newView cls =>
    have new := shared.wellNumbered.caughtUp
      { str2OpenDoveObjectMap := fun _ => none, objectIntegerCounter := 1,
        myInterestedClass := .classLiteral cls }
    refine ⟨shared.wellNumbered.step (.newView cls) True.intro, fun view listed => ?_,
      shared.unique⟩
    rcases List.mem_append.mp listed with before | last
    · exact shared.knows view before
    · rw [List.mem_singleton.mp last]
      constructor
      · intro key obj found mine
        rw [new.interested] at mine
        have same := (JavaValue.classLiteral.inj mine).symm
        exact absurd same (meets obj ((Dict.mem_values _ _).mpr ⟨key, found⟩))
      · intro s obj found
        rw [new.known cls rfl] at found
        cases found
  | putIfAbsent index s obj =>
    obtain ⟨room, may⟩ := meets
    rw [ObjectStore.stepPut, PutEvent.toEvent, step]
    cases built : store.views[index]? with
    | none =>
      simp only [ObjectStore.putIfAbsent, built]
      exact shared
    | some view =>
      simp only [MayPut, built] at may
      cases known : view.str2OpenDoveObjectMap s with
      | some present =>
        rw [shared.putIfAbsent_known built known]
        exact shared.catchUp built
      | none =>
        rcases may with some | may
        · rw [known] at some
          cases some
        · exact shared.add built room known may
  | get index s =>
    rw [ObjectStore.stepPut, PutEvent.toEvent, step]
    cases built : store.views[index]? with
    | none =>
      simp only [ObjectStore.get, built]
      exact shared
    | some view =>
      simp only [ObjectStore.get, built]
      exact shared.catchUp built

theorem honoursPut (meets : store.MeetsPut event) :
    store.HonoursPut event := by
  refine ⟨(shared.stepPut meets).agrees, ?_⟩
  cases event with
  | putIfAbsent index s obj =>
    intro view built key other found same
    have listed := List.mem_of_getElem? built
    obtain ⟨-, may⟩ := meets
    simp only [MayPut, built] at may
    cases known : view.str2OpenDoveObjectMap s with
    | some present =>
      obtain ⟨-, named, key', found'⟩ := (shared.knows view listed).2 s present known
      have equal := shared.unique key other key' present found found' (same.trans named.symm)
      rw [shared.putIfAbsent_known built known]
      exact ⟨congrArg some equal.symm, rfl⟩
    | none =>
      rcases may with some | ⟨-, -, -, fresh⟩
      · rw [known] at some
        cases some
      · exact absurd same (fresh other ((Dict.mem_values _ _).mpr ⟨key, found⟩))
  | newView cls => exact True.intro
  | get index s => exact True.intro

end Shared

theorem start_shared (objects : Nat → OpenDoveObject) : (start objects).Shared where
  wellNumbered := start_wellNumbered objects
  knows := fun _ listed => absurd listed List.not_mem_nil
  unique := fun key obj _ _ found =>
    absurd (found.symm.trans (AList.lookup_empty key)) (Option.some_ne_none obj)

/-- In a history in which every view is older than the objects of its class and every object is
added under its own UUID, which is new, through the only view of its class, the views agree
after each operation and a put of a UUID in the store returns the object with it. -/
theorem views_agree (objects : Nat → OpenDoveObject) (events : List PutEvent)
    (admissible : Admissible stepPut MeetsPut (start objects) events) :
    Admissible stepPut HonoursPut (start objects) events :=
  admissible.imp Shared (fun _ _ shared meets => shared.stepPut meets)
    (fun _ _ shared meets => shared.honoursPut meets) (start_shared objects)

/-- A domain and a network are put through the views of their classes, the domain twice. -/
theorem views_of_domain_and_network_agree :
    Admissible stepPut HonoursPut
      (start fun obj => { VersionHistory.newDomain with
        cls := if obj = 1 then .network else .domain
        uuid := if obj = 1 then "network" else "domain" })
      [.newView .domain, .newView .network, .putIfAbsent 0 "domain" 0,
        .putIfAbsent 1 "network" 1, .putIfAbsent 0 "domain" 2, .get 1 "network"] :=
  views_agree _ _ (by decide)

/-- A view that is built after a domain was stored does not find it. -/
theorem later_view_misses_stored_domain :
    ¬ Admissible stepPut HonoursPut (start fun _ => VersionHistory.newDomain)
      [.newView .domain, .putIfAbsent 0 "domain" 0, .newView .domain] := by
  rintro ⟨-, -, ⟨agrees, -⟩, -⟩
  have found := agrees.complete 1 _ .domain rfl rfl 1 0 (by decide) (by decide)
  exact absurd found (by decide)

end ObjectStore

end OpenDove
