import OpenDove.Configuration
import OpenDove.EndpointUpdate
import OpenDove.Subnets

/-!
# Locks of the entry points

The network layer and the controller call into the server through entry points that take a
lock, act on the tables and release the lock again. The release is written by hand on each way
out. Two locks matter here: the global one, which guards the tables, and the one of the mass
transfers, which guards the mapping of query numbers. Neither may be taken twice.

An entry point is a computation that keeps its writes when it raises, as Python does. A call
with a wrong number of arguments and a name without a value are exceptions; waiting for a lock
that is never released is a fault of its own.
-/

namespace OpenDove

/-- `global_lock` and `mass_transfer_lock` of `DpsCollection`. -/
inductive ServerLock where
  | global
  | massTransfer
  deriving DecidableEq, Repr

/-- A server node with its locks. -/
structure Server where
  collection : Collection
  /-- `MassTransfer_QueryID_Mapping`, with the domain of each transfer. -/
  queryIDMapping : Dict Nat DomainId
  held : ServerLock → Bool

/-- A call into the server. -/
abbrev Entry := ExceptT Fault (StateM Server)

variable {s : Server} {α : Type}

namespace Entry

/-- `lock.acquire()`. -/
def acquire (lock : ServerLock) : Entry Unit := do
  if (← get).held lock then throw .blocked
  else modify fun s => { s with held := Function.update s.held lock true }

/-- `lock.release()`. Every entry point holds the lock when it gets here. -/
def release (lock : ServerLock) : Entry Unit :=
  modify fun s => { s with held := Function.update s.held lock false }

/-- A routine that acts on the tables and may raise. -/
def onCollection {α : Type} (routine : Collection → Collection × Except Fault α) : Entry α := do
  let (collection, ended) := routine (← get).collection
  modify fun s => { s with collection }
  MonadExcept.ofExcept ended

/-- Run a call, with the way it ended and the server it leaves behind. -/
def exec {α : Type} (entry : Entry α) (s : Server) : Except Fault α × Server :=
  entry.run.run s

section Exec

variable {α β : Type} (s : Server)

@[simp] theorem exec_pure (value : α) : exec (pure value) s = (.ok value, s) := rfl

@[simp] theorem exec_throw (fault : Fault) : exec (throw fault : Entry α) s = (.error fault, s) := rfl

@[simp] theorem exec_get : exec get s = (.ok s, s) := rfl

/-- A call goes on only if what it did so far raised nothing, and its writes stay. -/
theorem exec_bind (entry : Entry α) (next : α → Entry β) :
    exec (entry >>= next) s =
      match exec entry s with
      | (.ok value, after) => exec (next value) after
      | (.error fault, after) => (.error fault, after) := by
  unfold exec
  change (StateT.run (entry.run >>= ExceptT.bindCont next) s) = _
  rw [StateT.run_bind]
  rcases entry.run.run s with ⟨ended, after⟩
  cases ended <;> rfl

@[simp] theorem exec_bind_ok {entry : Entry α} {s after : Server} {value : α}
    (ends : exec entry s = (.ok value, after)) (next : α → Entry β) :
    exec (entry >>= next) s = exec (next value) after := by
  rw [exec_bind, ends]

theorem exec_acquire {s : Server} {lock : ServerLock} (free : s.held lock = false) :
    exec (acquire lock) s = (.ok (), { s with held := Function.update s.held lock true }) := by
  unfold acquire
  rw [exec_bind_ok (exec_get s), free]
  rfl

@[simp] theorem exec_release (lock : ServerLock) :
    exec (release lock) s = (.ok (), { s with held := Function.update s.held lock false }) := rfl

@[simp] theorem exec_onCollection (routine : Collection → Collection × Except Fault α) :
    exec (onCollection routine) s =
      ((routine s.collection).2, { s with collection := (routine s.collection).1 }) := by
  unfold onCollection
  rw [exec_bind_ok (exec_get s)]
  rcases routine s.collection with ⟨collection, ended⟩
  cases ended <;> rfl

@[simp] theorem exec_map (change : α → β) (entry : Entry α) :
    exec (change <$> entry) s = ((exec entry s).1.map change, (exec entry s).2) := by
  rw [map_eq_pure_bind, exec_bind]
  rcases exec entry s with ⟨ended, after⟩
  cases ended <;> rfl

@[simp] theorem map_ok (change : α → β) (value : α) :
    Except.map change (.ok value : Except Fault α) = .ok (change value) := rfl

theorem exec_discard (entry : Entry α) :
    exec (discard entry) s = ((exec entry s).1.map fun _ => (), (exec entry s).2) := by
  have mapped : discard entry = (fun _ => ()) <$> entry := rfl
  rw [mapped, exec_map]

end Exec

end Entry

open Entry

/-- `socket.AF_INET`. -/
def afInet : Nat := 2

namespace AssociatedType

/-- The codes of `IPSUBNETAssociatedType`. -/
def ofCode : Nat → Option AssociatedType
  | 1 => some .domain
  | 2 => some .vnid
  | _ => none

end AssociatedType

namespace Collection

/-- The domain and the VNID object of a VNID number, through `VNID_Hash`, `Domain_Hash` and
`DVG_Hash`. -/
def findDvg (s : Collection) (vnid : Nat) : Option (DomainId × DvgId) := do
  let domainId ← s.vnidHash.lookup vnid
  let domain ← s.domainHash.lookup domainId
  let dvg ← (s.domain domain).dvgHash.lookup vnid
  return (domain, dvg)

/-- Whether a domain is being transferred. -/
def inTransfer (s : Collection) (domain : DomainId) : Bool :=
  (s.domain domain).massTransfer.isSome

end Collection

/-! ## The entry points -/

namespace Server

/-- `Transfer_Ack`. An unknown query number leaves the loop before the release. -/
def transferAck (queryId status : Nat) : Entry Unit := do
  acquire .massTransfer
  match (← get).queryIDMapping.lookup queryId with
  | none => return
  | some domain =>
    release .massTransfer
    onCollection fun s =>
      (s.modifyDomain domain fun d =>
        { d with massTransfer := d.massTransfer.map (·.transferAck queryId status) }, .ok ())

/-- `IP_Subnet_Add`. The branch for domains always leaves the loop, without a status if the domain
exists. -/
def ipSubnetAdd (associatedType associatedId ipType : Nat) (ipValue maskValue : UInt32)
    (mode : SubnetMode) (gateway : UInt32) : Entry DOVEStatus := do
  acquire .global
  match AssociatedType.ofCode associatedType with
  | some .domain =>
    let found := (← get).collection.domainHash.lookup associatedId
    release .global
    match found with
    | some _ => throw .nameError
    | none => return .invalidDomain
  | some .vnid =>
    match (← get).collection.findDvg associatedId with
    | none =>
      release .global
      return .invalidDvg
    | some (domain, dvg) =>
      if ipType = afInet then
        let status ← onCollection fun s =>
          let (s, status) := s.dvgIpSubnetAdd dvg ipValue maskValue gateway mode
          (s, .ok status)
        if status = .ok ∧ (← get).collection.inTransfer domain then
          -- `register_subnet` is called without the number of the domain or the VNID
          throw .typeError
        release .global
        return status
      else
        release .global
        return .notSupported
  | none =>
    release .global
    return .notSupported

/-- `IP_Subnet_Delete` from the point where the object is known. -/
def ipSubnetDeleteFrom (domain : DomainId) (ipType : Nat)
    (routine : Collection → Collection × Except Fault DOVEStatus) : Entry DOVEStatus := do
  if ipType = afInet then
    let _ ← onCollection routine
    if (← get).collection.inTransfer domain then throw .typeError
  release .global
  return .ok

/-- `IP_Subnet_Delete`. -/
def ipSubnetDelete (associatedType associatedId ipType : Nat) (ipValue maskValue : UInt32) :
    Entry DOVEStatus := do
  acquire .global
  match AssociatedType.ofCode associatedType with
  | some .domain =>
    match (← get).collection.domainHash.lookup associatedId with
    | none =>
      release .global
      return .ok
    | some domain =>
      ipSubnetDeleteFrom domain ipType fun s =>
        (s.domainIpSubnetDelete domain ipValue maskValue, .ok .ok)
  | some .vnid =>
    match (← get).collection.findDvg associatedId with
    | none =>
      release .global
      return .ok
    | some (domain, dvg) =>
      ipSubnetDeleteFrom domain ipType fun s => s.dvgIpSubnetDelete dvg ipValue maskValue
  | none =>
    -- no branch assigned the object
    if ipType = afInet then throw .nameError
    release .global
    return .ok

/-- `IP_Subnet_Flush` from the point where the object is known. -/
def ipSubnetFlushFrom (domain : DomainId) (ipType : Nat) (list : Collection → IPSubnetList)
    (routine : Collection → Collection × Except Fault DOVEStatus) : Entry DOVEStatus := do
  if ipType = afInet then
    let s := (← get).collection
    if s.inTransfer domain ∧ (list s).pyList.values ≠ [] then throw .typeError
    let status ← onCollection routine
    release .global
    return status
  else
    release .global
    return .notSupported

/-- `IP_Subnet_Flush`. -/
def ipSubnetFlush (associatedType associatedId ipType : Nat) : Entry DOVEStatus := do
  acquire .global
  match AssociatedType.ofCode associatedType with
  | some .domain =>
    match (← get).collection.domainHash.lookup associatedId with
    | none =>
      release .global
      return .invalidDomain
    | some domain =>
      ipSubnetFlushFrom domain ipType (fun s => (s.domain domain).ipSubnetList)
        fun s => s.domainIpSubnetFlush domain
  | some .vnid =>
    match (← get).collection.findDvg associatedId with
    | none =>
      release .global
      return .invalidDvg
    | some (domain, dvg) =>
      ipSubnetFlushFrom domain ipType (fun s => (s.dvg dvg).ipSubnetList)
        fun s => s.dvgIpSubnetFlush dvg
  | none =>
    -- no branch assigned the domain
    if ipType = afInet then throw .nameError
    release .global
    return .notSupported

end Server

/-- The calls of the network layer and of the controller. -/
inductive Request where
  | transferAck (queryId status : Nat)
  | ipSubnetAdd (associatedType associatedId ipType : Nat) (ipValue maskValue : UInt32)
      (mode : SubnetMode) (gateway : UInt32)
  | ipSubnetDelete (associatedType associatedId ipType : Nat) (ipValue maskValue : UInt32)
  | ipSubnetFlush (associatedType associatedId ipType : Nat)

/-- The entry point of a request. -/
def Request.entry : Request → Entry Unit
  | .transferAck queryId status => Server.transferAck queryId status
  | .ipSubnetAdd associatedType associatedId ipType ipValue maskValue mode gateway =>
    discard (Server.ipSubnetAdd associatedType associatedId ipType ipValue maskValue mode gateway)
  | .ipSubnetDelete associatedType associatedId ipType ipValue maskValue =>
    discard (Server.ipSubnetDelete associatedType associatedId ipType ipValue maskValue)
  | .ipSubnetFlush associatedType associatedId ipType =>
    discard (Server.ipSubnetFlush associatedType associatedId ipType)

namespace Server

/-- A call, with the way it ended and the server it leaves behind. -/
def call (s : Server) (request : Request) : Except Fault Unit × Server :=
  exec request.entry s

/-- Nobody holds a lock. -/
def Unlocked (s : Server) : Prop := ∀ lock, s.held lock = false

/-- A call did not wait, and leaves no lock held exactly under a condition. -/
def Ends (result : Except Fault α × Server) (releases : Prop) : Prop :=
  result.1 ≠ .error .blocked ∧ (result.2.Unlocked ↔ releases)

/-- The first subnet of a VNID meets an address outside it last, so that the addition is answered
with "not found". -/
def SweepsOutside (s : Collection) (dvg : DvgId) (ipValue maskValue gateway : UInt32)
    (mode : SubnetMode) : Prop :=
  (s.dvg dvg).ipSubnetList.count = 0 ∧
    ∃ vIP ∈ (s.directory.addresses (s.dvgEndpoints dvg)).getLast?,
      ((s.dvg dvg).ipSubnetList.add ipValue maskValue gateway mode).lookupIP vIP.ipValue = none

end Server

/-- When an entry point gives its lock back. An acknowledgement must carry a known query number. An
addition to a VNID in transfer must fail in its sweep. A deletion must not find its domain in
transfer, and a flush must not find its object at all; neither may name anything else than a
domain or a VNID. The subnet requests for another family than IPv4 always give it back. -/
def Request.Releases (s : Server) : Request → Prop
  | .transferAck queryId _ => queryId ∈ s.queryIDMapping
  | .ipSubnetAdd associatedType associatedId ipType ipValue maskValue mode gateway =>
    AssociatedType.ofCode associatedType = some .vnid → ipType = afInet →
      ∀ domain dvg, s.collection.findDvg associatedId = some (domain, dvg) →
        s.collection.inTransfer domain →
          Server.SweepsOutside s.collection dvg ipValue maskValue gateway mode
  | .ipSubnetDelete associatedType associatedId ipType _ _ =>
    ipType = afInet →
      match AssociatedType.ofCode associatedType with
      | some .domain => ∀ domain, s.collection.domainHash.lookup associatedId = some domain →
          s.collection.inTransfer domain = false
      | some .vnid => ∀ domain dvg, s.collection.findDvg associatedId = some (domain, dvg) →
          s.collection.inTransfer domain = false
      | none => False
  | .ipSubnetFlush associatedType associatedId ipType =>
    ipType = afInet →
      match AssociatedType.ofCode associatedType with
      | some .domain => s.collection.domainHash.lookup associatedId = none
      | some .vnid => s.collection.findDvg associatedId = none
      | none => False

namespace Server

/-- A lock that was taken is held. -/
@[simp] theorem not_unlocked_taken (collection : Collection) (queryIDMapping : Dict Nat DomainId)
    (held : ServerLock → Bool) (lock : ServerLock) :
    ¬ Unlocked { collection, queryIDMapping, held := Function.update held lock true } := by
  intro free
  simpa using free lock

variable (free : s.Unlocked)

include free

/-- Releasing a lock leaves the others as they are. -/
theorem unlocked_released (collection : Collection)
    (queryIDMapping : Dict Nat DomainId) (lock : ServerLock) :
    Unlocked { collection, queryIDMapping, held := Function.update s.held lock false } := by
  intro other
  change Function.update s.held lock false other = false
  rw [Function.update_apply]
  split
  · rfl
  · exact free other

/-! ## When the locks are free again -/

omit free in
theorem ends_discard {entry : Entry α} {releases : Prop} (ends : Ends (exec entry s) releases) :
    Ends (exec (discard entry) s) releases := by
  rw [exec_discard]
  revert ends
  rcases exec entry s with ⟨_ | value, after⟩ <;> simp [Ends, Except.map]

/-- An acknowledgement keeps the lock of the transfers exactly when its query number is unknown. -/
theorem transferAck_ends (queryId status : Nat) :
    Ends (exec (transferAck queryId status) s) (queryId ∈ s.queryIDMapping) := by
  rw [transferAck, exec_bind_ok (exec_acquire (free .massTransfer)), ← AList.lookup_isSome]
  cases found : s.queryIDMapping.lookup queryId with
  | none => simp [Ends, exec_bind, found]
  | some domain => simp [Ends, exec_bind, found, unlocked_released free]

variable (associatedType associatedId ipType : Nat)

/-- An addition keeps the global lock exactly when it succeeds on a domain in transfer. -/
theorem ipSubnetAdd_ends (ipValue maskValue : UInt32)
    (mode : SubnetMode) (gateway : UInt32) :
    Ends (exec (ipSubnetAdd associatedType associatedId ipType ipValue maskValue mode gateway) s)
      (AssociatedType.ofCode associatedType = some .vnid → ipType = afInet →
        ∀ domain dvg, s.collection.findDvg associatedId = some (domain, dvg) →
          s.collection.inTransfer domain →
            (s.collection.dvgIpSubnetAdd dvg ipValue maskValue gateway mode).2 ≠ .ok) := by
  rw [ipSubnetAdd, exec_bind_ok (exec_acquire (free .global))]
  cases AssociatedType.ofCode associatedType with
  | none => simp [Ends, unlocked_released free]
  | some associatedType =>
    cases associatedType with
    | domain =>
      cases found : s.collection.domainHash.lookup associatedId <;>
        simp [Ends, exec_bind, found, unlocked_released free]
    | vnid =>
      rcases found : s.collection.findDvg associatedId with _ | ⟨domain, dvg⟩
      · simp [Ends, exec_bind, found, unlocked_released free]
      · by_cases inet : ipType = afInet
        · have transfer : (s.collection.dvgIpSubnetAdd dvg ipValue maskValue gateway
              mode).1.inTransfer domain = s.collection.inTransfer domain := by
            unfold Collection.inTransfer
            rw [Collection.dvgIpSubnetAdd_massTransfer]
          simp only [exec_bind, exec_get, found, inet, if_true, exec_onCollection, transfer]
          split
          · next registered => simp [Ends, registered]
          · next registered =>
            simpa [Ends, unlocked_released free] using
              fun moving status => registered ⟨status, moving⟩
        · simp [Ends, exec_bind, found, inet, unlocked_released free]

/-- A deletion from a known object keeps the global lock exactly when its domain is in transfer. -/
theorem ipSubnetDeleteFrom_ends (domain : DomainId) (ipType : Nat)
    (routine : Collection → Collection × Except Fault DOVEStatus) {status : DOVEStatus}
    (returns : (routine s.collection).2 = .ok status)
    (transfer : (routine s.collection).1.inTransfer domain = s.collection.inTransfer domain) :
    Ends (exec (ipSubnetDeleteFrom domain ipType routine)
        { s with held := Function.update s.held .global true })
      (ipType = afInet → s.collection.inTransfer domain = false) := by
  unfold ipSubnetDeleteFrom
  by_cases inet : ipType = afInet
  · cases moving : s.collection.inTransfer domain <;>
      simp [Ends, exec_bind, inet, returns, transfer, moving, unlocked_released free]
  · simp [Ends, inet, unlocked_released free]

/-- A deletion keeps the global lock when its domain is in transfer, and when it names neither a
domain nor a VNID. -/
theorem ipSubnetDelete_ends (ipValue maskValue : UInt32) :
    Ends (exec (ipSubnetDelete associatedType associatedId ipType ipValue maskValue) s)
      ((Request.ipSubnetDelete associatedType associatedId ipType ipValue maskValue).Releases s) := by
  rw [ipSubnetDelete, exec_bind_ok (exec_acquire (free .global)), Request.Releases]
  cases AssociatedType.ofCode associatedType with
  | none =>
    by_cases inet : ipType = afInet <;> simp [Ends, inet, unlocked_released free]
  | some associatedType =>
    cases associatedType with
    | domain =>
      cases found : s.collection.domainHash.lookup associatedId with
      | none => simp [Ends, exec_bind, found, unlocked_released free]
      | some domain =>
        have deleted := ipSubnetDeleteFrom_ends free domain ipType
          (fun s => (s.domainIpSubnetDelete domain ipValue maskValue, .ok .ok)) rfl rfl
        simpa [exec_bind, found] using deleted
    | vnid =>
      rcases found : s.collection.findDvg associatedId with _ | ⟨domain, dvg⟩
      · simp [Ends, exec_bind, found, unlocked_released free]
      · have deleted := ipSubnetDeleteFrom_ends free domain ipType
          (fun s => s.dvgIpSubnetDelete dvg ipValue maskValue) rfl rfl
        simpa [exec_bind, found] using deleted

/-- A flush of a known object keeps the global lock whatever the object holds. -/
theorem ipSubnetFlushFrom_ends (domain : DomainId) (ipType : Nat)
    (list : Collection → IPSubnetList)
    (routine : Collection → Collection × Except Fault DOVEStatus)
    (raises : (routine s.collection).2 = .error .nameError) :
    Ends (exec (ipSubnetFlushFrom domain ipType list routine)
        { s with held := Function.update s.held .global true }) (ipType ≠ afInet) := by
  unfold ipSubnetFlushFrom
  by_cases inet : ipType = afInet
  · simp only [inet, if_true, exec_bind, exec_get]
    split <;> simp [Ends, exec_bind, raises]
  · simp [Ends, inet, unlocked_released free]

/-- A flush keeps the global lock unless its object is unknown. -/
theorem ipSubnetFlush_ends :
    Ends (exec (ipSubnetFlush associatedType associatedId ipType) s)
      ((Request.ipSubnetFlush associatedType associatedId ipType).Releases s) := by
  rw [ipSubnetFlush, exec_bind_ok (exec_acquire (free .global)), Request.Releases]
  cases AssociatedType.ofCode associatedType with
  | none =>
    by_cases inet : ipType = afInet <;> simp [Ends, inet, unlocked_released free]
  | some associatedType =>
    cases associatedType with
    | domain =>
      cases found : s.collection.domainHash.lookup associatedId with
      | none => simp [Ends, exec_bind, found, unlocked_released free]
      | some domain =>
        have flushed := ipSubnetFlushFrom_ends free domain ipType
          (fun s => (s.domain domain).ipSubnetList)
          (fun s => s.domainIpSubnetFlush domain) rfl
        simpa [exec_bind, found] using flushed
    | vnid =>
      rcases found : s.collection.findDvg associatedId with _ | ⟨domain, dvg⟩
      · simp [Ends, exec_bind, found, unlocked_released free]
      · have flushed := ipSubnetFlushFrom_ends free domain ipType
          (fun s => (s.dvg dvg).ipSubnetList)
          (fun s => s.dvgIpSubnetFlush dvg) rfl
        simpa [exec_bind, found] using flushed

omit free in
theorem sweepsOutside_iff {s : Collection} (listed : s.ListedByMAC) (dvg : DvgId)
    (ipValue maskValue gateway : UInt32) (mode : SubnetMode) :
    SweepsOutside s dvg ipValue maskValue gateway mode ↔
      (s.dvgIpSubnetAdd dvg ipValue maskValue gateway mode).2 ≠ .ok := by
  rw [Ne, Collection.dvgIpSubnetAdd_status listed, SweepsOutside]
  simp only [Classical.not_imp, not_forall, Bool.not_eq_true, Option.isSome_eq_false_iff,
    Option.isNone_iff_eq_none]

/-- A server without held locks makes no call wait, and the call gives back what it takes exactly
when its request releases. -/
theorem call_ends (request : Request) :
    (s.call request).1 ≠ .error .blocked ∧ (s.collection.ListedByMAC →
      ((s.call request).2.Unlocked ↔ request.Releases s)) := by
  cases request with
  | transferAck => exact (transferAck_ends free ..).imp_right fun ends _ => ends
  | ipSubnetAdd =>
    refine (ends_discard (ipSubnetAdd_ends free ..)).imp_right fun ends listed => ends.trans ?_
    simp only [Request.Releases, sweepsOutside_iff listed]
  | ipSubnetDelete => exact (ends_discard (ipSubnetDelete_ends free ..)).imp_right fun ends _ => ends
  | ipSubnetFlush => exact (ends_discard (ipSubnetFlush_ends free ..)).imp_right fun ends _ => ends

omit free

/-- A call gives back the locks it takes, so that no later call waits for them, exactly when its
request releases. -/
theorem locks_free_after_iff (s : Server) (free : s.Unlocked) (listed : s.collection.ListedByMAC)
    (request : Request) :
    ((s.call request).2.Unlocked ∧
        ∀ later, ((s.call request).2.call later).1 ≠ .error .blocked) ↔
      request.Releases s := by
  have once := (call_ends free request).2 listed
  constructor
  · exact fun after => once.mp after.1
  · intro releases
    have after := once.mpr releases
    exact ⟨after, fun later => (call_ends after later).1⟩

/-- The two switches before any call. -/
def idle : Server :=
  { collection := .twoSwitches, queryIDMapping := ∅, held := fun _ => false }

/-- One of the switches has told of a machine. -/
def machineKnown : Server :=
  { idle with collection :=
      (Collection.endpointUpdate .listed .twoSwitches (Collection.machineUpdate 1 9 .add 5) false).1 }

theorem machineKnown_listed : machineKnown.collection.ListedByMAC := by
  rintro (_ | dvg) vMac endpoint found
  · have only : (machineKnown.collection.directory.dvgTables 0).endpointHashMAC =
        AList.insert 9 0 ∅ := AList.ext rfl
    rw [EndpointTables.findMAC, only, Dict.lookup_insert] at found
    split at found
    next same =>
      obtain rfl := Option.some.inj found
      exact same.symm
    next => cases found
  · cases found

/-- A subnet is added to the VNID of the machine, whose domain is not in transfer. -/
theorem locks_free_after_iff_known_vnid :
    let after := (machineKnown.call (.ipSubnetAdd 2 70 afInet 0 0xffffff00 .dedicated 1)).2
    after.Unlocked ∧ ∀ later, (after.call later).1 ≠ .error .blocked := by
  refine (locks_free_after_iff machineKnown (fun _ => rfl) machineKnown_listed _).mpr ?_
  intro _ _ domain dvg found transfer
  have known : machineKnown.collection.findDvg 70 = some (0, 0) := rfl
  cases known.symm.trans found
  cases transfer

/-- An acknowledgement with an unknown query number keeps the lock of the transfers. -/
theorem transferAck_keeps_lock :
    ¬ ∀ (s : Server) (request : Request), s.Unlocked →
      (s.call request).2.Unlocked ∧
        ∀ later, ((s.call request).2.call later).1 ≠ .error .blocked := by
  intro released
  have again := (released idle (.transferAck 5 0) fun _ => rfl).2 (.transferAck 5 0)
  exact again rfl

end Server

end OpenDove
