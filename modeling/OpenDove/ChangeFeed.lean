import OpenDove.StoreVersions

/-!
# The feed of changes

The servers and the gateways follow the changes of the store by version. A query for a version
names the object that is stored under it, as a resource to get or to delete, and the version to
query next, which is the first one after the last change of that object. The feed has no further
version when no key is as great as the queried version.

An object is stored under every version it ever had. The jump past its last change therefore skips
every object whose last change lies between, and a version whose object was collected has no answer
at all.
-/

namespace OpenDove

/-- `OpenDoveChange`. -/
structure OpenDoveChange where
  nextChange : Int
  uri : String
  method : String
  deriving DecidableEq, Repr

/-- The two feeds, of the servers and of the gateways. -/
inductive FeedKind where
  | dcs
  | dgw
  deriving DecidableEq, Repr

namespace OpenDoveObject

/-- The common beginning of the resource names. -/
def sbRoot : String := "/controller/sb/v2/opendove/odmc/"

/-- A boxed integer in a text. -/
def boxed : Option Int → String
  | none => "null"
  | some value => toString value

/-- `getSBDcsUri`. There is none when the class is not tracked by the servers, and a network without
a scoping domain raises an exception. -/
def sbDcsUri (object : OpenDoveObject) : Option String :=
  match object.cls with
  | .domain => some (sbRoot ++ "domains/bynumber/" ++ toString object.createVersion)
  | .network =>
    object.domainId.map fun domainId =>
      sbRoot ++ "domains/bynumber/" ++ toString domainId ++ "/networks/" ++ toString object.vnid
  | .policy =>
    some (sbRoot ++ "domains/bynumber/" ++ boxed object.domainId ++ "/policy/" ++ object.uuid)
  | .networkSubnetAssociation =>
    some (sbRoot ++ "networks/" ++ toString object.vnid ++ "/subnets/" ++ object.subnetUuid)
  | .switch | .vgwVnidMapping | .subnet | .egwSnatPool | .gwIpv4 | .egwFwdRule => none

/-- `getSBDgwUri`. -/
def sbDgwUri (object : OpenDoveObject) : Option String :=
  match object.cls with
  | .network => object.domainId.map fun _ => sbRoot ++ "networks/" ++ object.uuid
  | .networkSubnetAssociation =>
    some (sbRoot ++ "networks/" ++ toString object.vnid ++ "/networkSubnets/" ++ object.subnetUuid)
  | .vgwVnidMapping => some (sbRoot ++ "vlan-gws/" ++ object.uuid)
  | .egwSnatPool => some (sbRoot ++ "ext-gws/" ++ object.uuid)
  | .gwIpv4 => some (sbRoot ++ "odgw/ipv4/" ++ object.uuid)
  | .egwFwdRule => some (sbRoot ++ "ext-fwd-rules/" ++ object.uuid)
  | .domain | .switch | .subnet | .policy => none

end OpenDoveObject

variable {version key : Int} {obj : Nat} {store : ObjectStore}

namespace ObjectStore

/-- `versionExists`: 200 when some key is as great as the version, 204 otherwise. -/
def versionExists (store : ObjectStore) (version : Int) : Nat :=
  if (orderedBackingKeys store.objectDB).any (version ≤ ·) then 200 else 204

/-- The first key after a version, or the next number when there is none. -/
def firstKeyAfter (store : ObjectStore) (changeIndex : Int) : Int :=
  ((orderedBackingKeys store.objectDB).find? (changeIndex < ·)).getD (javaInt (changeIndex + 1))

/-- What `getNextOdgwChange` and `getNextOdcsChange` have in common. They differ in the resource
name; a class that has none is answered with empty texts. No result stands for the exception
that the last change of a missing object raises. -/
def nextChange (store : ObjectStore) (uriOf : OpenDoveObject → Option String) (version : Int) :
    Option OpenDoveChange :=
  match store.objectDB.lookup version with
  | none => none
  | some obj =>
    let currentChange := store.objects obj
    some
      { nextChange := store.firstKeyAfter currentChange.lastChangeVersion
        uri := (uriOf currentChange).getD ""
        method :=
          if (uriOf currentChange).isSome then
            if currentChange.tombstoneFlag then "DELETE" else "GET"
          else "" }

/-- `getNextOdcsChange`. -/
def getNextOdcsChange (store : ObjectStore) (version : Int) : Option OpenDoveChange :=
  store.nextChange OpenDoveObject.sbDcsUri version

/-- `getNextOdgwChange`. -/
def getNextOdgwChange (store : ObjectStore) (version : Int) : Option OpenDoveChange :=
  store.nextChange OpenDoveObject.sbDgwUri version

/-- A query of one of the feeds. -/
def query (store : ObjectStore) : FeedKind → Int → Option OpenDoveChange
  | .dcs => store.getNextOdcsChange
  | .dgw => store.getNextOdgwChange

/-- Following a feed from a version leads to the query of another one. -/
inductive Follows (store : ObjectStore) (kind : FeedKind) : Int → Int → Prop where
  | here {version : Int} (further : store.versionExists version = 200) :
      Follows store kind version version
  | next {version target : Int} {change : OpenDoveChange}
      (further : store.versionExists version = 200)
      (answered : store.query kind version = some change)
      (follows : Follows store kind change.nextChange target) :
      Follows store kind version target

/-- The feed is complete from a version: the query is answered with a greater version, and
following it each object in the store whose last change is not before the version is the
current object of a query. -/
structure CompleteFrom (store : ObjectStore) (kind : FeedKind) (version : Int) : Prop where
  answers : ∃ change, store.query kind version = some change ∧ version < change.nextChange
  visits : ∀ key obj, store.objectDB.lookup key = some obj →
    version ≤ (store.objects obj).lastChangeVersion →
    ∃ target, store.Follows kind version target ∧ store.objectDB.lookup target = some obj

/-- Some object in the store has changed at a version or after it. -/
def ChangedSince (store : ObjectStore) (version : Int) : Prop :=
  ∃ obj ∈ store.objectDB.values, version ≤ (store.objects obj).lastChangeVersion

/-- Both feeds are complete from every version that some object has changed since. -/
def Complete (store : ObjectStore) : Prop :=
  ∀ kind version, 1 ≤ version → store.ChangedSince version → store.CompleteFrom kind version

/-- The versions from the first one to a given one. -/
def versionsUpTo (version : Int) : List Int :=
  (List.range version.toNat).map fun number : Nat => (number : Int) + 1

theorem mem_versionsUpTo {limit : Int} :
    version ∈ versionsUpTo limit ↔ 1 ≤ version ∧ version ≤ limit := by
  rw [versionsUpTo, List.mem_map]
  constructor
  · rintro ⟨number, inRange, rfl⟩
    have below := List.mem_range.mp inRange
    omega
  · rintro ⟨lower, upper⟩
    refine ⟨(version - 1).toNat, List.mem_range.mpr ?_, ?_⟩
    · omega
    · omega

/-- No version up to the last change of an object is missing, and the last change of an object does
not lie between a version of another object and the last change of that one. -/
def Followable (store : ObjectStore) : Prop :=
  (∀ obj ∈ store.objectDB.values,
    ∀ version ∈ versionsUpTo (store.objects obj).lastChangeVersion,
      version ∈ store.objectDB.keys) ∧
  ∀ entry ∈ store.objectDB.entries, ∀ other ∈ store.objectDB.values,
    entry.1 ≤ (store.objects other).lastChangeVersion →
    (store.objects other).lastChangeVersion ≤ (store.objects entry.2).lastChangeVersion →
    other = entry.2

instance (store : ObjectStore) : Decidable store.Followable := by
  unfold Followable
  infer_instance

theorem query_eq_nextChange (store : ObjectStore) (kind : FeedKind) :
    ∃ uriOf, store.query kind = store.nextChange uriOf := by
  cases kind with
  | dcs => exact ⟨OpenDoveObject.sbDcsUri, rfl⟩
  | dgw => exact ⟨OpenDoveObject.sbDgwUri, rfl⟩

/-- A query is answered exactly when the version is a key, and then it leads to the first key after
the last change of its object. -/
theorem query_eq_some_iff (kind : FeedKind) {next : Int} :
    (∃ change, store.query kind version = some change ∧ change.nextChange = next) ↔
      ∃ obj, store.objectDB.lookup version = some obj ∧
        store.firstKeyAfter (store.objects obj).lastChangeVersion = next := by
  obtain ⟨uriOf, same⟩ := store.query_eq_nextChange kind
  rw [same]
  cases found : store.objectDB.lookup version with
  | none => simp [nextChange, found]
  | some obj => simp [nextChange, found]

theorem versionExists_of_le (found : store.objectDB.lookup key = some obj) (below : version ≤ key) :
    store.versionExists version = 200 :=
  if_pos (List.any_eq_true.mpr
    ⟨key, mem_orderedBackingKeys.mpr ⟨obj, found⟩, decide_eq_true below⟩)

/-- The feed goes on after the last change of an object. -/
theorem lt_firstKeyAfter (store : ObjectStore) (lower : 0 ≤ version)
    (upper : version < maxJavaInt) : version < store.firstKeyAfter version := by
  rw [firstKeyAfter]
  cases found : (orderedBackingKeys store.objectDB).find? (version < ·) with
  | none =>
    rw [Option.getD_none, javaInt_eq (by omega) (by omega)]
    exact Int.lt_succ version
  | some key =>
    have above := List.find?_some found
    exact of_decide_eq_true above

/-- The next number comes next when it is a key. -/
theorem firstKeyAfter_eq (found : store.objectDB.lookup (version + 1) = some obj) :
    store.firstKeyAfter version = version + 1 := by
  have listed : version + 1 ∈ orderedBackingKeys store.objectDB :=
    mem_orderedBackingKeys.mpr ⟨obj, found⟩
  have ascending := pairwise_orderedBackingKeys store.objectDB
  rw [firstKeyAfter]
  cases first : (orderedBackingKeys store.objectDB).find? (version < ·) with
  | none =>
    have passed := List.find?_eq_none.mp first (version + 1) listed
    exact absurd (decide_eq_true (Int.lt_succ version)) passed
  | some key =>
    obtain ⟨above, before, after, split, skipped⟩ := List.find?_eq_some_iff_append.mp first
    have greater : version < key := of_decide_eq_true above
    rw [split, List.pairwise_append, List.pairwise_cons] at ascending
    rw [split, List.mem_append, List.mem_cons] at listed
    rw [Option.getD_some]
    rcases listed with early | rfl | late
    · have passed := (Bool.not_eq_true' _).mp (skipped (version + 1) early)
      exact absurd (Int.lt_succ version) (of_decide_eq_false passed)
    · rfl
    · have smaller := ascending.2.1.1 (version + 1) late
      omega

namespace WellNumbered

variable {store : ObjectStore} (wellNumbered : store.WellNumbered)

include wellNumbered

/-- An answered query leads beyond the last change of its object. -/
theorem lt_nextChange {kind : FeedKind} {change : OpenDoveChange}
    (found : store.objectDB.lookup version = some obj)
    (answered : store.query kind version = some change) :
    (store.objects obj).lastChangeVersion < change.nextChange := by
  obtain ⟨other, found', next⟩ := (query_eq_some_iff _).mp ⟨change, answered, rfl⟩
  obtain rfl := Option.some.inj (found.symm.trans found')
  have numbered := wellNumbered.keys version obj found
  rw [← next]
  exact store.lt_firstKeyAfter (by omega) numbered.2.2

/-- Following a feed leads to greater versions. -/
theorem follows_le {kind : FeedKind} {target : Int}
    (follows : store.Follows kind version target) : version ≤ target := by
  induction follows with
  | here => exact le_rfl
  | next further answered follows ih =>
    obtain ⟨obj, found, -⟩ := (query_eq_some_iff _).mp ⟨_, answered, rfl⟩
    have numbered := wellNumbered.keys _ obj found
    have beyond := wellNumbered.lt_nextChange found answered
    omega

/-- In a store that can be followed, every query up to the last change of an object leads on to
it. -/
theorem visits (followable : store.Followable) (kind : FeedKind)
    (stored : store.objectDB.lookup key = some obj) (version : Int) (lower : 1 ≤ version)
    (upper : version ≤ (store.objects obj).lastChangeVersion) :
    ∃ target, store.Follows kind version target ∧ store.objectDB.lookup target = some obj := by
  have valued : obj ∈ store.objectDB.values := (Dict.mem_values _ _).mpr ⟨key, stored⟩
  have isKey : ∀ number, 1 ≤ number → number ≤ (store.objects obj).lastChangeVersion →
      ∃ other, store.objectDB.lookup number = some other := fun number above below =>
    (Dict.mem_iff_lookup _ _).mp (AList.mem_keys.mpr
      (followable.1 obj valued number (mem_versionsUpTo.mpr ⟨above, below⟩)))
  obtain ⟨current, found⟩ := isKey version lower upper
  have further := versionExists_of_le found le_rfl
  by_cases same : current = obj
  · exact ⟨version, .here further, same ▸ found⟩
  · -- The object was not skipped: its last change lies after that of the current object.
    have listed : (⟨version, current⟩ : Sigma fun _ : Int => Nat) ∈ store.objectDB.entries :=
      AList.mem_lookup_iff.mp found
    have later : (store.objects current).lastChangeVersion <
        (store.objects obj).lastChangeVersion := by
      by_contra skipped
      exact same (followable.2 _ listed obj valued upper (not_lt.mp skipped)).symm
    have numbered := wellNumbered.keys version current found
    obtain ⟨next, isNext⟩ :=
      isKey ((store.objects current).lastChangeVersion + 1) (by omega) (by omega)
    obtain ⟨change, answered, leads⟩ := (query_eq_some_iff kind).mpr
      ⟨current, found, firstKeyAfter_eq isNext⟩
    obtain ⟨target, follows, reached⟩ := visits followable kind stored
      ((store.objects current).lastChangeVersion + 1) (by omega) (by omega)
    exact ⟨target, .next further answered (leads ▸ follows), reached⟩
termination_by ((store.objects obj).lastChangeVersion - version).toNat
decreasing_by omega

theorem complete_iff : store.Complete ↔ store.Followable := by
  constructor
  · intro complete
    refine ⟨fun obj valued version inRange => ?_, fun entry listed other valued above below => ?_⟩
    · have bounds := mem_versionsUpTo.mp inRange
      obtain ⟨change, answered, -⟩ :=
        (complete .dcs version bounds.1 ⟨obj, valued, bounds.2⟩).answers
      obtain ⟨current, found, -⟩ := (query_eq_some_iff _).mp ⟨change, answered, rfl⟩
      exact AList.mem_keys.mp ((Dict.mem_iff_lookup _ _).mpr ⟨current, found⟩)
    · have found : store.objectDB.lookup entry.1 = some entry.2 := AList.mem_lookup_iff.mpr listed
      have numbered := wellNumbered.keys entry.1 entry.2 found
      obtain ⟨key, stored⟩ := (Dict.mem_values _ _).mp valued
      obtain ⟨target, follows, reached⟩ :=
        (complete .dcs entry.1 numbered.1 ⟨other, valued, above⟩).visits key other stored above
      cases follows with
      | here => exact Option.some.inj (reached.symm.trans found)
      | next further answered follows =>
        have beyond := wellNumbered.lt_nextChange found answered
        have reachedLater := wellNumbered.follows_le follows
        have limit := (wellNumbered.keys target other reached).2.1
        omega
  · intro followable kind version lower changedSince
    obtain ⟨obj, valued, upper⟩ := changedSince
    constructor
    case answers =>
      have isKey := followable.1 obj valued version (mem_versionsUpTo.mpr ⟨lower, upper⟩)
      obtain ⟨current, found⟩ := (Dict.mem_iff_lookup _ _).mp (AList.mem_keys.mpr isKey)
      obtain ⟨change, answered, -⟩ := (query_eq_some_iff kind).mpr ⟨current, found, rfl⟩
      have numbered := wellNumbered.keys version current found
      have beyond := wellNumbered.lt_nextChange found answered
      exact ⟨change, answered, by omega⟩
    case visits =>
      exact fun key other stored above =>
        wellNumbered.visits followable kind stored version lower above

end WellNumbered

/-- The store after every history whose versions stay below the greatest integer is well
numbered. -/
theorem run_wellNumbered {objects : Nat → OpenDoveObject} {events : List StoreEvent}
    (admissible : Admissible step HasRoom (start objects) events) :
    (run step (start objects) events).WellNumbered :=
  run_invariant WellNumbered (fun _ event wellNumbered room => wellNumbered.step event room)
    (start_wellNumbered objects) admissible

/-- After every history whose versions stay below the greatest integer, the feeds are complete
exactly when the store can be followed. -/
theorem feeds_complete_iff (objects : Nat → OpenDoveObject) (events : List StoreEvent)
    (admissible : Admissible step HasRoom (start objects) events) :
    (run step (start objects) events).Complete ↔ (run step (start objects) events).Followable :=
  (run_wellNumbered admissible).complete_iff

/-- The feeds are complete after two additions and an update of the later object. -/
theorem feeds_complete_after_update_of_newest :
    (run step (start fun _ => VersionHistory.newDomain)
      [.newView .domain, .newView .domain, .putIfAbsent 0 "a" 0, .putIfAbsent 1 "b" 1,
        .update 1 "b" 1]).Complete :=
  (feeds_complete_iff _ _ (by decide)).mpr (by decide)

/-- An object that was changed between two changes of another one is never the current object. -/
theorem feed_skips_object_between_changes :
    ¬ (run step (start fun _ => VersionHistory.newDomain)
      [.newView .domain, .putIfAbsent 0 "a" 0, .putIfAbsent 0 "b" 1,
        .update 0 "a" 0]).Complete := by
  rw [(run_wellNumbered (by decide)).complete_iff]
  decide

end ObjectStore

end OpenDove
