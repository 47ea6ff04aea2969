import OpenDove.Dictionary
import OpenDove.Runs
import Mathlib.Data.List.Sort

/-!
# The controller's object store

The controller keeps its objects in one map from version numbers to objects: every change of an
object stores the same object again under the next version. Each class of objects is read and
written through a view, which finds its objects by UUID and keeps its own counter of versions; a
view catches up with the store before every operation. A collector removes the versions of objects
that are marked as deleted once every service appliance has seen their last change.

Objects are shared and mutable, so the store holds references to them. Versions are Java integers.
Calls of the views do not overlap; the collector is a thread of its own, and the calls that it makes
itself while it cleans up the references to an object are calls of the views like any others.
-/

namespace OpenDove

open Function

/-- The classes that extend `OpenDoveObject`. -/
inductive ObjectClass where
  | domain
  | network
  | switch
  | vgwVnidMapping
  | subnet
  | policy
  | networkSubnetAssociation
  | egwSnatPool
  | gwIpv4
  | egwFwdRule
  deriving DecidableEq, Repr

/-- A Java reference as a test for instances sees it: an object of a class, or a class literal,
which is an object of the class `Class`. -/
inductive JavaValue where
  | object (cls : ObjectClass)
  | classLiteral (cls : ObjectClass)
  deriving DecidableEq, Repr

/-- `Class.isInstance`. -/
def ObjectClass.isInstance (cls : ObjectClass) : JavaValue → Bool
  | .object other => cls = other
  | .classLiteral _ => false

/-- `OpenDoveObject`, with the fields of its classes that the store or the change feed reads. -/
structure OpenDoveObject where
  cls : ObjectClass
  uuid : String
  domainId : Option Int
  vnid : Int
  subnetUuid : String
  policyAction : Int
  tombstoneFlag : Bool
  createVersion : Int
  lastChangeVersion : Int
  deriving DecidableEq, Repr

/-- `OpenDoveConcurrentBackedMap` without the map behind it. -/
structure StoreView where
  str2OpenDoveObjectMap : String → Option Nat
  objectIntegerCounter : Int
  myInterestedClass : JavaValue

/-- Where the collector is: between two passes, in the loop over the keys it has collected, or
cleaning up the references to the object of a key. -/
inductive Collector where
  | idle
  | scanning (rest : List Int)
  | cleaning (key : Int) (rest : List Int)
  deriving DecidableEq

/-- `OpenDoveServiceAppliance`, with the fields the collector reads. -/
structure ServiceAppliance where
  isDCS : Bool
  dcsConfigVersion : Int
  isDGW : Bool
  dgwConfigVersion : Int

/-- The objects, the map behind the views, the views and the collector. -/
structure ObjectStore where
  objects : Nat → OpenDoveObject
  objectDB : Dict Int Nat
  views : List StoreView
  collector : Collector

/-- What can happen to the store. A view is named by its number in the order of creation. -/
inductive StoreEvent where
  | newView (cls : ObjectClass)
  | putIfAbsent (view : Nat) (s : String) (obj : Nat)
  | update (view : Nat) (s : String) (obj : Nat)
  | get (view : Nat) (s : String)
  | remove (view : Nat) (s : String)
  | setTombstoneFlag (obj : Nat) (flag : Bool)
  | setPolicyAction (obj : Nat) (action : Int)
  | gcBegin
  | gcVisit (appliances : List ServiceAppliance)
  | gcRemove

/-- A number as a Java integer. -/
def javaInt (value : Int) : Int := value.bmod (2 ^ 32)

/-- `Integer.MAX_VALUE`. -/
def maxJavaInt : Int := 2 ^ 31 - 1

theorem one_le_maxJavaInt : 1 ≤ maxJavaInt := by decide

theorem javaInt_eq {value : Int} (lower : 0 ≤ value) (upper : value ≤ maxJavaInt) :
    javaInt value = value := by
  have small : value < 2 ^ 31 := by
    unfold maxJavaInt at upper
    omega
  rw [javaInt, Int.bmod_eq_of_le] <;> omega

variable {view : StoreView} {index : Nat} {db : Dict Int Nat} (store : ObjectStore)

namespace ObjectStore

/-- The store before any view was built. The objects exist, but none of them is stored. -/
def start (objects : Nat → OpenDoveObject) : ObjectStore :=
  { objects, objectDB := ∅, views := [], collector := .idle }

/-- `getOrderedBackingKeys`. -/
def orderedBackingKeys (db : Dict Int Nat) : List Int := db.keys.insertionSort (· ≤ ·)

/-- One round of the loop of `updateConcurrentMap`. A view never removes what it knows, and the
interested class is what the test for instances is asked about. -/
def learn (store : ObjectStore) (view : StoreView) (i : Int) : StoreView :=
  match store.objectDB.lookup i with
  | none => view
  | some obj =>
    if view.objectIntegerCounter ≤ i then
      let key := (store.objects obj).uuid
      { view with
        str2OpenDoveObjectMap :=
          if (store.objects obj).cls.isInstance view.myInterestedClass ∧
              (view.str2OpenDoveObjectMap key).isNone then
            update view.str2OpenDoveObjectMap key (some obj)
          else view.str2OpenDoveObjectMap
        objectIntegerCounter := javaInt (i + 1) }
    else view

/-- `updateConcurrentMap`. -/
def updateConcurrentMap (store : ObjectStore) (view : StoreView) : StoreView :=
  (orderedBackingKeys store.objectDB).foldl store.learn view

/-- The constructor of `OpenDoveConcurrentBackedMap`, which is given a class literal. -/
def newView (store : ObjectStore) (cls : ObjectClass) : ObjectStore :=
  { store with
    views := store.views ++ [store.updateConcurrentMap
      { str2OpenDoveObjectMap := fun _ => none, objectIntegerCounter := 1,
        myInterestedClass := .classLiteral cls }] }

/-- `ConcurrentMap.putIfAbsent`. -/
def dbPutIfAbsent (db : Dict Int Nat) (version : Int) (obj : Nat) : Dict Int Nat :=
  match db.lookup version with
  | some _ => db
  | none => db.insert version obj

/-- What `putIfAbsent` and `update` do with an object: store it under the counter of the view, note
the version in the object and count on. -/
def storeNext (store : ObjectStore) (index : Nat) (view : StoreView) (obj : Nat) : ObjectStore :=
  { store with
    objects := update store.objects obj
      { store.objects obj with lastChangeVersion := view.objectIntegerCounter }
    objectDB := dbPutIfAbsent store.objectDB view.objectIntegerCounter obj
    views := store.views.set index
      { view with objectIntegerCounter := javaInt (view.objectIntegerCounter + 1) } }

/-- `putIfAbsent`, with the object it returns. -/
def putIfAbsent (store : ObjectStore) (index : Nat) (s : String) (obj : Nat) :
    ObjectStore × Option Nat :=
  match store.views[index]? with
  | none => (store, none)
  | some view =>
    let view := store.updateConcurrentMap view
    match view.str2OpenDoveObjectMap s with
    | some present => ({ store with views := store.views.set index view }, some present)
    | none =>
      let created :=
        { store with
          objects := update store.objects obj
            { store.objects obj with createVersion := view.objectIntegerCounter } }
      (created.storeNext index
        { view with
          str2OpenDoveObjectMap := update view.str2OpenDoveObjectMap s (some obj) } obj,
        some obj)

/-- `update`. -/
def update (store : ObjectStore) (index : Nat) (obj : Nat) : ObjectStore :=
  match store.views[index]? with
  | none => store
  | some view => store.storeNext index (store.updateConcurrentMap view) obj

/-- `get`, with what it finds. -/
def get (store : ObjectStore) (index : Nat) (s : String) : ObjectStore × Option Nat :=
  match store.views[index]? with
  | none => (store, none)
  | some view =>
    let view := store.updateConcurrentMap view
    ({ store with views := store.views.set index view }, view.str2OpenDoveObjectMap s)

/-- `remove`, which takes an object out of the view only. -/
def remove (store : ObjectStore) (index : Nat) (s : String) : ObjectStore :=
  match store.views[index]? with
  | none => store
  | some view =>
    let view := store.updateConcurrentMap view
    { store with
      views := store.views.set index
        { view with
          str2OpenDoveObjectMap := Function.update view.str2OpenDoveObjectMap s none } }

/-- `canBeRemoved`. -/
def canBeRemoved (object : OpenDoveObject) : Bool :=
  if object.cls = .policy then object.policyAction = 0 else object.tombstoneFlag

/-- Every appliance of a kind has reached the last change of an object. -/
def purgeable (appliances : List ServiceAppliance) (object : OpenDoveObject) : Bool :=
  appliances.all fun appliance =>
    ¬ (appliance.isDCS ∧ appliance.dcsConfigVersion < object.lastChangeVersion) ∧
      ¬ (appliance.isDGW ∧ appliance.dgwConfigVersion < object.lastChangeVersion)

/-- One round of the loop of the collector, up to the clean-up of the references. -/
def gcVisit (store : ObjectStore) (appliances : List ServiceAppliance) : ObjectStore :=
  match store.collector with
  | .scanning [] => { store with collector := .idle }
  | .scanning (i :: rest) =>
    match store.objectDB.lookup i with
    | none => { store with collector := .scanning rest }
    | some obj =>
      if canBeRemoved (store.objects obj) ∧ purgeable appliances (store.objects obj) then
        { store with collector := .cleaning i rest }
      else { store with collector := .scanning rest }
  | .idle | .cleaning _ _ => store

/-- The end of a round of the collector: the key is removed from the map. -/
def gcRemove (store : ObjectStore) : ObjectStore :=
  match store.collector with
  | .cleaning i rest =>
    { store with objectDB := store.objectDB.erase i, collector := .scanning rest }
  | .idle | .scanning _ => store

/-- The beginning of a pass of the collector. -/
def gcBegin (store : ObjectStore) : ObjectStore :=
  match store.collector with
  | .idle => { store with collector := .scanning (orderedBackingKeys store.objectDB) }
  | .scanning _ | .cleaning _ _ => store

/-- The store after an event. -/
def step (store : ObjectStore) : StoreEvent → ObjectStore
  | .newView cls => store.newView cls
  | .putIfAbsent view s obj => (store.putIfAbsent view s obj).1
  | .update view _ obj => store.update view obj
  | .get view s => (store.get view s).1
  | .remove view s => store.remove view s
  | .setTombstoneFlag obj flag =>
    { store with
      objects := Function.update store.objects obj
        { store.objects obj with tombstoneFlag := flag } }
  | .setPolicyAction obj action =>
    { store with
      objects := Function.update store.objects obj
        { store.objects obj with policyAction := action } }
  | .gcBegin => store.gcBegin
  | .gcVisit appliances => store.gcVisit appliances
  | .gcRemove => store.gcRemove

theorem mem_orderedBackingKeys {i : Int} :
    i ∈ orderedBackingKeys db ↔ ∃ obj, db.lookup i = some obj := by
  rw [orderedBackingKeys, List.mem_insertionSort, ← AList.mem_keys]
  exact Dict.mem_iff_lookup db i

theorem pairwise_orderedBackingKeys (db : Dict Int Nat) :
    (orderedBackingKeys db).Pairwise (· ≤ ·) :=
  List.pairwise_insertionSort (· ≤ ·) db.keys

/-- A pass that begins changes only the place of the collector. -/
theorem gcBegin_eq : ∃ collector, store.gcBegin = { store with collector } := by
  obtain ⟨objects, db, views, collector⟩ := store
  cases collector with
  | idle => exact ⟨_, rfl⟩
  | scanning rest => exact ⟨_, rfl⟩
  | cleaning key rest => exact ⟨_, rfl⟩

/-- The visit of a key changes only the place of the collector. -/
theorem gcVisit_eq (appliances : List ServiceAppliance) :
    ∃ collector, store.gcVisit appliances = { store with collector } := by
  obtain ⟨objects, db, views, collector⟩ := store
  rcases collector with _ | ⟨_ | ⟨key, rest⟩⟩ | ⟨key, rest⟩
  · exact ⟨_, rfl⟩
  · exact ⟨_, rfl⟩
  · cases found : db.lookup key with
    | none => exact ⟨.scanning rest, by simp only [gcVisit, found]⟩
    | some obj =>
      by_cases purged : canBeRemoved (objects obj) ∧ purgeable appliances (objects obj)
      · exact ⟨.cleaning key rest, by simp only [gcVisit, found, if_pos purged]⟩
      · exact ⟨.scanning rest, by simp only [gcVisit, found, if_neg purged]⟩
  · exact ⟨_, rfl⟩

/-- The collector removes the key it has cleaned up after. -/
theorem gcRemove_eq :
    store.gcRemove = store ∨ ∃ key rest, store.collector = .cleaning key rest ∧
      store.gcRemove =
        { store with objectDB := store.objectDB.erase key, collector := .scanning rest } := by
  obtain ⟨objects, db, views, collector⟩ := store
  cases collector with
  | idle => exact .inl rfl
  | scanning rest => exact .inl rfl
  | cleaning key rest => exact .inr ⟨key, rest, rfl, rfl⟩

/-- What catching up does to a view: its counter passes every key and grows only to pass a key. A
class literal is no instance of any class of objects, so a view that was given one learns of
no object. -/
structure CaughtUp (store : ObjectStore) (keys : List Int) (before after : StoreView) : Prop where
  passed : ∀ key ∈ keys, key < after.objectIntegerCounter
  grows : before.objectIntegerCounter ≤ after.objectIntegerCounter
  origin : after.objectIntegerCounter = before.objectIntegerCounter ∨
    ∃ key ∈ keys, after.objectIntegerCounter = key + 1
  interested : after.myInterestedClass = before.myInterestedClass
  known : ∀ cls, before.myInterestedClass = .classLiteral cls →
    after.str2OpenDoveObjectMap = before.str2OpenDoveObjectMap

/-- Keys in the range of the versions are counted without an overflow. -/
theorem foldl_learn_caughtUp {keys : List Int} (range : ∀ key ∈ keys, 1 ≤ key ∧ key < maxJavaInt)
    (stored : ∀ key ∈ keys, ∃ obj, store.objectDB.lookup key = some obj) (view : StoreView) :
    store.CaughtUp keys view (keys.foldl store.learn view) := by
  induction keys generalizing view with
  | nil =>
    exact ⟨fun _ listed => absurd listed List.not_mem_nil, le_rfl, .inl rfl, rfl, fun _ _ => rfl⟩
  | cons key keys ih =>
    have later := ih
      (fun other listed => range other (List.mem_cons_of_mem key listed))
      (fun other listed => stored other (List.mem_cons_of_mem key listed)) (store.learn view key)
    obtain ⟨obj, found⟩ := stored key List.mem_cons_self
    have bounds := range key List.mem_cons_self
    have counted : javaInt (key + 1) = key + 1 := javaInt_eq (by omega) (by omega)
    have interested : (store.learn view key).myInterestedClass = view.myInterestedClass := by
      simp only [learn, found]
      split <;> rfl
    have known : ∀ cls, view.myInterestedClass = .classLiteral cls →
        (store.learn view key).str2OpenDoveObjectMap = view.str2OpenDoveObjectMap := by
      intro cls literal
      simp only [learn, found, literal, ObjectClass.isInstance]
      split <;> simp
    have counter : (store.learn view key).objectIntegerCounter =
        if view.objectIntegerCounter ≤ key then key + 1 else view.objectIntegerCounter := by
      simp only [learn, found, counted]
      split <;> rfl
    have first : key < (store.learn view key).objectIntegerCounter ∧
        view.objectIntegerCounter ≤ (store.learn view key).objectIntegerCounter ∧
        ((store.learn view key).objectIntegerCounter = view.objectIntegerCounter ∨
          (store.learn view key).objectIntegerCounter = key + 1) := by
      rw [counter]
      split <;> omega
    constructor
    case passed =>
      intro other listed
      rcases List.mem_cons.mp listed with rfl | listed
      · exact lt_of_lt_of_le first.1 later.grows
      · exact later.passed other listed
    case grows => exact first.2.1.trans later.grows
    case origin =>
      rcases later.origin with same | ⟨other, listed, next⟩
      · rcases first.2.2 with kept | next
        · exact .inl (same.trans kept)
        · exact .inr ⟨key, List.mem_cons_self, same.trans next⟩
      · exact .inr ⟨other, List.mem_cons_of_mem key listed, next⟩
    case interested => exact later.interested.trans interested
    case known =>
      intro cls literal
      exact (later.known cls (interested.trans literal)).trans (known cls literal)

/-- A view counts in the range of the versions, and was given a class literal. -/
def Fit (view : StoreView) : Prop :=
  (1 ≤ view.objectIntegerCounter ∧ view.objectIntegerCounter ≤ maxJavaInt) ∧
    ∃ cls, view.myInterestedClass = .classLiteral cls

/-- The versions are in range, an object has a last change that is not before any version it is
stored under, and every view is fit. -/
structure WellNumbered (store : ObjectStore) : Prop where
  keys : ∀ key obj, store.objectDB.lookup key = some obj →
    1 ≤ key ∧ key ≤ (store.objects obj).lastChangeVersion ∧
      (store.objects obj).lastChangeVersion < maxJavaInt
  fit : ∀ view ∈ store.views, Fit view

/-- The version that a call through a view would assign is smaller than the greatest integer. -/
def Room (store : ObjectStore) (index : Nat) : Prop :=
  match store.views[index]? with
  | none => True
  | some view => view.objectIntegerCounter < maxJavaInt ∧
      ∀ key ∈ store.objectDB.keys, key + 1 < maxJavaInt

instance (store : ObjectStore) (index : Nat) : Decidable (store.Room index) := by
  unfold Room
  split <;> infer_instance

/-- A call that may change an object finds room for a version. -/
def HasRoom (store : ObjectStore) : StoreEvent → Prop
  | .putIfAbsent view _ _ => store.Room view
  | .update view _ _ => store.Room view
  | _ => True

instance (store : ObjectStore) (event : StoreEvent) : Decidable (store.HasRoom event) := by
  cases event <;> unfold HasRoom <;> infer_instance

theorem start_wellNumbered (objects : Nat → OpenDoveObject) : (start objects).WellNumbered where
  keys := fun key obj found =>
    absurd (found.symm.trans (AList.lookup_empty key)) (Option.some_ne_none obj)
  fit := fun _ listed => absurd listed List.not_mem_nil

namespace WellNumbered

variable {store : ObjectStore}

variable (wellNumbered : store.WellNumbered)

include wellNumbered

theorem caughtUp (view : StoreView) :
    store.CaughtUp (orderedBackingKeys store.objectDB) view (store.updateConcurrentMap view) := by
  refine store.foldl_learn_caughtUp (fun key listed => ?_)
    (fun key listed => mem_orderedBackingKeys.mp listed) view
  obtain ⟨obj, found⟩ := mem_orderedBackingKeys.mp listed
  have numbered := wellNumbered.keys key obj found
  exact ⟨numbered.1, lt_of_le_of_lt numbered.2.1 numbered.2.2⟩

/-- A view that has caught up counts beyond every key. -/
theorem passed (view : StoreView) {key : Int} {obj : Nat}
    (found : store.objectDB.lookup key = some obj) :
    key < (store.updateConcurrentMap view).objectIntegerCounter :=
  (wellNumbered.caughtUp view).passed key (mem_orderedBackingKeys.mpr ⟨obj, found⟩)

/-- A view that has caught up is fit. -/
theorem fit_updateConcurrentMap (fit : Fit view) : Fit (store.updateConcurrentMap view) := by
  obtain ⟨counted, cls, literal⟩ := fit
  have caughtUp := wellNumbered.caughtUp view
  refine ⟨⟨counted.1.trans caughtUp.grows, ?_⟩, cls, caughtUp.interested.trans literal⟩
  rcases caughtUp.origin with same | ⟨key, listed, next⟩
  · rw [same]
    exact counted.2
  · obtain ⟨obj, found⟩ := mem_orderedBackingKeys.mp listed
    have numbered := wellNumbered.keys key obj found
    omega

theorem fit_caughtUp (built : store.views[index]? = some view) :
    Fit (store.updateConcurrentMap view) :=
  wellNumbered.fit_updateConcurrentMap (wellNumbered.fit view (List.mem_of_getElem? built))

/-- With room, the next version is smaller than the greatest integer. -/
theorem counter_lt (built : store.views[index]? = some view)
    (room : store.Room index) :
    (store.updateConcurrentMap view).objectIntegerCounter < maxJavaInt := by
  simp only [Room, built] at room
  rcases (wellNumbered.caughtUp view).origin with same | ⟨key, listed, next⟩
  · rw [same]
    exact room.1
  · rw [next]
    exact room.2 key ((List.mem_insertionSort _).mp listed)

/-- A view may be replaced by a fit one. -/
theorem setView {view' : StoreView} (fit : Fit view') (index : Nat) :
    WellNumbered { store with views := store.views.set index view' } := by
  refine ⟨wellNumbered.keys, fun other listed => ?_⟩
  rcases List.mem_or_eq_of_mem_set listed with before | rfl
  · exact wellNumbered.fit other before
  · exact fit

/-- The objects may change in anything but their last change. -/
theorem setObject (obj : Nat) (object : OpenDoveObject)
    (same : object.lastChangeVersion = (store.objects obj).lastChangeVersion) :
    WellNumbered { store with objects := Function.update store.objects obj object } := by
  refine ⟨fun key other found => ?_, wellNumbered.fit⟩
  have numbered := wellNumbered.keys key other found
  by_cases changed : other = obj
  · subst changed
    simp only [update_self, same]
    exact numbered
  · simp only [update_of_ne changed]
    exact numbered

omit wellNumbered in
/-- The version of the next change is new, so the object is stored under it. -/
theorem lookup_storeNext (index : Nat) (view : StoreView)
    (passed : ∀ key obj, store.objectDB.lookup key = some obj → key < view.objectIntegerCounter)
    (obj : Nat) (key : Int) :
    (store.storeNext index view obj).objectDB.lookup key =
      if key = view.objectIntegerCounter then some obj else store.objectDB.lookup key := by
  have fresh : store.objectDB.lookup view.objectIntegerCounter = none := by
    by_contra taken
    obtain ⟨other, found⟩ := Option.ne_none_iff_exists'.mp taken
    exact absurd (passed _ other found) (lt_irrefl _)
  simp only [storeNext, dbPutIfAbsent, fresh]
  exact Dict.lookup_insert store.objectDB view.objectIntegerCounter key obj

/-- A change keeps the store well numbered when its version is new and smaller than the greatest
integer. -/
theorem storeNext (index : Nat) {view' : StoreView} (fit : Fit view')
    (passed : ∀ key obj, store.objectDB.lookup key = some obj → key < view'.objectIntegerCounter)
    (upper : view'.objectIntegerCounter < maxJavaInt) (obj : Nat) :
    (store.storeNext index view' obj).WellNumbered := by
  obtain ⟨⟨lower, -⟩, literal⟩ := fit
  have counted : javaInt (view'.objectIntegerCounter + 1) = view'.objectIntegerCounter + 1 :=
    javaInt_eq (by omega) (by omega)
  constructor
  case keys =>
    intro key other found
    rw [lookup_storeNext index view' passed] at found
    by_cases new : key = view'.objectIntegerCounter
    · rw [if_pos new] at found
      obtain rfl := Option.some.inj found
      simp only [ObjectStore.storeNext, update_self]
      omega
    · rw [if_neg new] at found
      have numbered := wellNumbered.keys key other found
      have before := passed key other found
      by_cases changed : other = obj
      · subst changed
        simp only [ObjectStore.storeNext, update_self]
        omega
      · simp only [ObjectStore.storeNext, update_of_ne changed]
        exact numbered
  case fit =>
    intro other listed
    rcases List.mem_or_eq_of_mem_set listed with before | rfl
    · exact wellNumbered.fit other before
    · refine ⟨?_, literal⟩
      simp only [counted]
      omega

/-- Keys may go away, and the collector may be anywhere. -/
theorem shrink (collector : Collector)
    (kept : ∀ key obj, db.lookup key = some obj → store.objectDB.lookup key = some obj) :
    WellNumbered { store with objectDB := db, collector } :=
  ⟨fun key obj found => wellNumbered.keys key obj (kept key obj found), wellNumbered.fit⟩

/-- Every event that finds room for its version keeps the store well numbered. -/
theorem step (event : StoreEvent)
    (room : store.HasRoom event) : (store.step event).WellNumbered := by
  cases event with
  | newView cls =>
    refine ⟨wellNumbered.keys, fun view listed => ?_⟩
    rcases List.mem_append.mp listed with before | last
    · exact wellNumbered.fit view before
    · rw [List.mem_singleton.mp last]
      exact wellNumbered.fit_updateConcurrentMap ⟨⟨le_rfl, one_le_maxJavaInt⟩, cls, rfl⟩
  | putIfAbsent index s obj =>
    simp only [ObjectStore.step, ObjectStore.putIfAbsent]
    cases built : store.views[index]? with
    | none => exact wellNumbered
    | some view =>
      have fit := wellNumbered.fit_caughtUp built
      cases known : (store.updateConcurrentMap view).str2OpenDoveObjectMap s with
      | some present =>
        simp only [known]
        exact wellNumbered.setView fit index
      | none =>
        simp only [known]
        have created := wellNumbered.setObject obj
          { store.objects obj with
            createVersion := (store.updateConcurrentMap view).objectIntegerCounter } rfl
        refine created.storeNext index ?_ (fun key other found => ?_) ?_ obj
        · exact fit
        · exact wellNumbered.passed view found
        · exact wellNumbered.counter_lt built room
  | update index s obj =>
    simp only [ObjectStore.step, ObjectStore.update]
    cases built : store.views[index]? with
    | none => exact wellNumbered
    | some view =>
      exact wellNumbered.storeNext index (wellNumbered.fit_caughtUp built)
        (fun key other found => wellNumbered.passed view found)
        (wellNumbered.counter_lt built room) obj
  | get index s =>
    simp only [ObjectStore.step, ObjectStore.get]
    cases built : store.views[index]? with
    | none => exact wellNumbered
    | some view => exact wellNumbered.setView (wellNumbered.fit_caughtUp built) index
  | remove index s =>
    simp only [ObjectStore.step, ObjectStore.remove]
    cases built : store.views[index]? with
    | none => exact wellNumbered
    | some view =>
      refine wellNumbered.setView ?_ index
      exact wellNumbered.fit_caughtUp built
  | setTombstoneFlag obj flag => exact wellNumbered.setObject obj _ rfl
  | setPolicyAction obj action => exact wellNumbered.setObject obj _ rfl
  | gcBegin =>
    obtain ⟨collector, same⟩ := store.gcBegin_eq
    rw [ObjectStore.step, same]
    exact wellNumbered.shrink collector fun _ _ found => found
  | gcVisit appliances =>
    obtain ⟨collector, same⟩ := store.gcVisit_eq appliances
    rw [ObjectStore.step, same]
    exact wellNumbered.shrink collector fun _ _ found => found
  | gcRemove =>
    rw [ObjectStore.step]
    rcases store.gcRemove_eq with same | ⟨key, rest, -, same⟩
    · rw [same]
      exact wellNumbered
    · rw [same]
      exact wellNumbered.shrink _ fun _ _ found => Dict.lookup_of_erase found

end WellNumbered

end ObjectStore

end OpenDove
