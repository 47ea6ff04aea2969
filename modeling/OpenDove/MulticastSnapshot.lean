import Mathlib.Data.List.Induction
import OpenDove.Configuration

/-!
# The multicast snapshot of a mass transfer

At the start of a mass transfer the multicast registrations of the domain are collected: nested
loops over the groups, their VNIDs and the sets of sender and receiver tunnels flatten them into
one set of objects. The key of an object has the VNID, the client type, the group's MAC and
address and the primary address of the tunnel. It has neither the kind of the registration nor its
scope, and there is one object for each client type of the tunnel.
-/

namespace OpenDove

/-! ## Registering -/

namespace MulticastVNIDGroup

/-- A group without tunnels. -/
def create (globalScope : Bool) : MulticastVNIDGroup :=
  { globalScope, receiverAll := ∅, receiverIphash := ∅, senderAll := ∅, senderIphash := ∅ }

/-- Add a tunnel to the set of one address. -/
def iphashAdd (iphash : Dict IPValue (Dict TunnelId Unit)) (ipValue : IPValue)
    (tunnel : TunnelId) : Dict IPValue (Dict TunnelId Unit) :=
  iphash.insert ipValue (((iphash.lookup ipValue).getD ∅).insert tunnel ())

variable (group : MulticastVNIDGroup)

/-- `receiver_add`. -/
def receiverAdd (address : Option IPValue) (tunnel : TunnelId) : MulticastVNIDGroup :=
  match address with
  | none => { group with receiverAll := group.receiverAll.insert tunnel () }
  | some ipValue => { group with receiverIphash := iphashAdd group.receiverIphash ipValue tunnel }

/-- `sender_add`. -/
def senderAdd (address : Option IPValue) (tunnel : TunnelId) : MulticastVNIDGroup :=
  match address with
  | none => { group with senderAll := group.senderAll.insert tunnel () }
  | some ipValue => { group with senderIphash := iphashAdd group.senderIphash ipValue tunnel }

/-- The tunnels that are registered as senders or receivers, for an address or for any. -/
def tunnels (fsender : Bool) : Option IPValue → Dict TunnelId Unit
  | none => if fsender then group.senderAll else group.receiverAll
  | some ipValue =>
    ((if fsender then group.senderIphash else group.receiverIphash).lookup ipValue).getD ∅

end MulticastVNIDGroup

/-- Act on the tunnels of a VNID in a group. A VNID that is not in the group is entered. -/
def MulticastGroup.onVnid (group : MulticastGroup) (vnid : Nat) (globalScope : Bool)
    (change : MulticastVNIDGroup → MulticastVNIDGroup) : MulticastGroup :=
  group.insert vnid (change ((group.lookup vnid).getD (.create globalScope)))

namespace Multicast

/-- Act on the tunnels of a VNID in the group of a MAC. -/
def onMac (multicast : Multicast) (mac : Mac) (vnid : Nat)
    (change : MulticastVNIDGroup → MulticastVNIDGroup) : Multicast :=
  { multicast with
    macGroup := multicast.macGroup.insert mac
      (((multicast.macGroup.lookup mac).getD ∅ : MulticastGroup).onVnid vnid false change) }

/-- `receiver_add`, without the updates to the senders. -/
def receiverAdd (multicast : Multicast) (vnid : Nat) (globalScope allMulti : Bool) (mac : Mac)
    (address : Option IPValue) (tunnel : TunnelId) : Multicast :=
  if globalScope then
    { multicast with globalScope :=
        multicast.globalScope.onVnid vnid true (·.receiverAdd address tunnel) }
  else if allMulti then
    { multicast with all := multicast.all.onVnid vnid false (·.receiverAdd address tunnel) }
  else multicast.onMac mac vnid (·.receiverAdd address tunnel)

/-- `sender_add`, without the update to the sender. -/
def senderAdd (multicast : Multicast) (vnid : Nat) (mac : Mac) (address : Option IPValue)
    (tunnel : TunnelId) : Multicast :=
  multicast.onMac mac vnid (·.senderAdd address tunnel)

end Multicast

/-! ## Collecting -/

/-- The objects that were collected. -/
abbrev MulticastSet := Dict TransferKey TransferEntry

/-- `Multicast_All_MAC`. -/
def multicastAllMAC : Mac := 0x01005E000000

namespace Collection

variable (s : Collection) (domain : DomainId) (place : MulticastPlace) (mac : Mac)
  (tunnel : TunnelId)

/-- `primary_ip`. -/
def primaryIp : IPAddressLocation :=
  match ((s.tunnel tunnel).ipList .inet).getPrimary with
  | some ip => .create .inet ip 0
  | none =>
    match ((s.tunnel tunnel).ipList .inet6).getPrimary with
    | some ip => .create .inet6 ip 0
    | none => .create .inet .zero 0

/-- `tunnel_types_supported`: the client types for which the tunnel is in a VNID. -/
def tunnelTypesSupported : List ClientType :=
  ClientType.types.filter fun clientType =>
    (s.tunnel tunnel).valid && Dict.size ((s.tunnel tunnel).dvgHash clientType) ≠ 0

/-- What a round of the innermost loops is about: the group, the VNID in it with its scope, the
kind of registration and its address. -/
structure MulticastPlace where
  mac : Mac
  vnid : Nat
  globalScope : Bool
  fsender : Bool
  address : Option IPValue
  deriving DecidableEq

/-- The key of an object. Registrations for any address have 0 in place of the address. -/
def multicastKey (clientType : ClientType) : TransferKey :=
  .multicast place.vnid clientType.code place.mac (place.address.getD .zero)
    (s.primaryIp tunnel).ipValue

/-- The object of a registration for one client type. -/
def multicastObject (clientType : ClientType) : MulticastTransfer where
  domainId := (s.domain domain).uniqueId
  vnid := place.vnid
  fsender := place.fsender
  fregister := true
  clientType := clientType.code
  globalScope := place.globalScope
  multicastMac := place.mac
  multicastIpFamily := place.address.map IPValue.family
  multicastIp := place.address.getD .zero
  tunnelIp := (s.primaryIp tunnel).ipValuePacked

/-- The objects of one tunnel. The loops change the counter of query ids and the set, so they are
handed on, and read the rest of the server. -/
def collectTunnel (state : Nat × MulticastSet) (tunnel : TunnelId) : Nat × MulticastSet :=
  (s.tunnelTypesSupported tunnel).foldl (fun state clientType =>
    let (queryId, after) := { s with queryId := state.1 }.generateQueryId
    (after.queryId, state.2.insert (s.multicastKey place tunnel clientType)
      { objId := .vnid place.vnid
        object := .multicast (s.multicastObject domain place tunnel clientType), queryId })) state

/-- The receivers or the senders of a VNID in a group: first those for any address, then those of
each address. -/
def collectKind (vnid : Nat) (group : MulticastVNIDGroup) (fsender : Bool)
    (all : Dict TunnelId Unit) (iphash : Dict IPValue (Dict TunnelId Unit))
    (state : Nat × MulticastSet) : Nat × MulticastSet :=
  let place := { mac, vnid, globalScope := group.globalScope, fsender, address := none }
  let state := all.keys.foldl (s.collectTunnel domain place) state
  iphash.keys.foldl (fun state ipValue =>
    match iphash.lookup ipValue with
    | none => state
    | some ipHash =>
      ipHash.keys.foldl (s.collectTunnel domain { place with address := some ipValue }) state) state

/-- `transfer_start_get_multicast_vnid_group`. -/
def transferStartGetMulticastVnidGroup (vnid : Nat) (group : MulticastVNIDGroup)
    (state : Nat × MulticastSet) : Nat × MulticastSet :=
  let state :=
    s.collectKind domain mac vnid group false group.receiverAll group.receiverIphash state
  s.collectKind domain mac vnid group true group.senderAll group.senderIphash state

/-- `transfer_start_get_multicast_group`. -/
def transferStartGetMulticastGroup (group : MulticastGroup) (state : Nat × MulticastSet) :
    Nat × MulticastSet :=
  group.keys.foldl (fun state vnid =>
    match group.lookup vnid with
    | none => state
    | some vnidGroup => s.transferStartGetMulticastVnidGroup domain mac vnid vnidGroup state) state

/-- `transfer_start_get_multicasts`, which starts with an empty set. -/
def transferStartGetMulticasts : Collection × MulticastSet :=
  let mcast := (s.domain domain).multicast
  let state := s.transferStartGetMulticastGroup domain multicastAllMAC mcast.globalScope
    (s.queryId, ∅)
  let state := s.transferStartGetMulticastGroup domain multicastAllMAC mcast.all state
  let state := mcast.macGroup.entries.foldl
    (fun state entry => s.transferStartGetMulticastGroup domain entry.1 entry.2 state) state
  ({ s with queryId := state.1 }, state.2)

end Collection

/-! ## Registrations -/

/-- The three kinds of groups of a domain. -/
inductive MulticastScope where
  | globalScope
  | all
  | mac (mac : Mac)
  deriving DecidableEq

/-- The MAC of a group. -/
def MulticastScope.groupMac : MulticastScope → Mac
  | .globalScope | .all => multicastAllMAC
  | .mac own => own

/-- A registration: the tunnel is a sender or receiver of a VNID in a group, for an address or for
any. -/
structure MulticastRegistration where
  scope : MulticastScope
  vnid : Nat
  fsender : Bool
  address : Option IPValue
  tunnel : TunnelId
  deriving DecidableEq

namespace Multicast

/-- The group of a scope. -/
def groupAt (multicast : Multicast) : MulticastScope → MulticastGroup
  | .globalScope => multicast.globalScope
  | .all => multicast.all
  | .mac mac => (multicast.macGroup.lookup mac).getD ∅

/-- The tunnels of a VNID in a group that are registered as senders or receivers. -/
def Registered (multicast : Multicast) (r : MulticastRegistration) : Prop :=
  ∃ group, (multicast.groupAt r.scope).lookup r.vnid = some group ∧
    r.tunnel ∈ group.tunnels r.fsender r.address

/-- Whether the VNID of a registration is in its group with global scope. -/
def scopeFlag (multicast : Multicast) (r : MulticastRegistration) : Bool :=
  ((multicast.groupAt r.scope).lookup r.vnid).any (·.globalScope)

end Multicast

namespace Collection

/-- An object says what a registration is. -/
structure Describes (s : Collection) (multicast : Multicast) (object : MulticastTransfer)
    (r : MulticastRegistration) : Prop where
  vnid : object.vnid = r.vnid
  mac : object.multicastMac = r.scope.groupMac
  family : object.multicastIpFamily = r.address.map IPValue.family
  address : object.multicastIp = r.address.getD .zero
  tunnel : object.tunnelIp = (s.primaryIp r.tunnel).ipValuePacked
  kind : object.fsender = r.fsender
  scope : object.globalScope = multicast.scopeFlag r

/-- The objects are in bijection with the registrations, and for each registration there is
exactly one object that describes it. -/
def Mirrors (s : Collection) (multicast : Multicast) (set : MulticastSet) : Prop :=
  ∃ place : MulticastRegistration → TransferKey,
    (∀ r, multicast.Registered r → ∃ object entry, set.lookup (place r) = some entry ∧
      entry.object = .multicast object ∧ s.Describes multicast object r ∧
      ∀ key other otherEntry, set.lookup key = some otherEntry →
        otherEntry.object = .multicast other → s.Describes multicast other r → key = place r) ∧
    (∀ r r', multicast.Registered r → multicast.Registered r' → place r = place r' → r = r') ∧
    ∀ key entry, set.lookup key = some entry → ∃ r, multicast.Registered r ∧ place r = key

/-! ## The loops as one loop over the registrations -/

/-- What the loops know of a registration when they come to it. -/
def placeOf (multicast : Multicast) (r : MulticastRegistration) : MulticastPlace :=
  { mac := r.scope.groupMac, vnid := r.vnid, globalScope := multicast.scopeFlag r
    fsender := r.fsender, address := r.address }

/-- One registration. -/
def collect (s : Collection) (domain : DomainId) (multicast : Multicast)
    (state : Nat × MulticastSet) (r : MulticastRegistration) : Nat × MulticastSet :=
  s.collectTunnel domain (placeOf multicast r) state r.tunnel

end Collection

/-- The senders or the receivers of a VNID in a group, in the order of the loops. -/
def MulticastVNIDGroup.listKind (scope : MulticastScope) (vnid : Nat) (fsender : Bool)
    (all : Dict TunnelId Unit) (iphash : Dict IPValue (Dict TunnelId Unit)) :
    List MulticastRegistration :=
  all.keys.map (fun tunnel => { scope, vnid, fsender, address := none, tunnel }) ++
    iphash.keys.flatMap fun ipValue =>
      ((iphash.lookup ipValue).getD ∅).keys.map fun tunnel =>
        { scope, vnid, fsender, address := some ipValue, tunnel }

/-- The registrations of a VNID in a group. -/
def MulticastVNIDGroup.registrations (group : MulticastVNIDGroup) (scope : MulticastScope)
    (vnid : Nat) : List MulticastRegistration :=
  listKind scope vnid false group.receiverAll group.receiverIphash ++
    listKind scope vnid true group.senderAll group.senderIphash

/-- The registrations of a group. -/
def MulticastGroup.registrations (group : MulticastGroup) (scope : MulticastScope) :
    List MulticastRegistration :=
  group.keys.flatMap fun vnid =>
    ((group.lookup vnid).map fun vnidGroup => vnidGroup.registrations scope vnid).getD []

/-- The registrations of a domain. -/
def Multicast.registrations (multicast : Multicast) : List MulticastRegistration :=
  multicast.globalScope.registrations .globalScope ++ multicast.all.registrations .all ++
    multicast.macGroup.entries.flatMap fun entry =>
      MulticastGroup.registrations entry.2 (.mac entry.1)

variable {r r' : MulticastRegistration} {scope : MulticastScope} {vnid : Nat}
  {group : MulticastVNIDGroup} {clientType : ClientType}

namespace MulticastVNIDGroup

theorem mem_listKind {fsender : Bool} {all : Dict TunnelId Unit}
    {iphash : Dict IPValue (Dict TunnelId Unit)} : r ∈ listKind scope vnid fsender all iphash ↔
      r.scope = scope ∧ r.vnid = vnid ∧ r.fsender = fsender ∧
        r.tunnel ∈ (r.address.map fun ipValue => (iphash.lookup ipValue).getD ∅).getD all := by
  obtain ⟨rScope, rVnid, rSender, rAddress, rTunnel⟩ := r
  unfold listKind
  rw [List.mem_append, List.mem_map, List.mem_flatMap]
  constructor
  · rintro (⟨tunnel, listed, same⟩ | ⟨ipValue, -, within⟩)
    · cases same
      exact ⟨rfl, rfl, rfl, listed⟩
    · obtain ⟨tunnel, listed, same⟩ := List.mem_map.mp within
      cases same
      exact ⟨rfl, rfl, rfl, listed⟩
  · rintro ⟨rfl, rfl, rfl, member⟩
    cases rAddress with
    | none => exact Or.inl ⟨rTunnel, member, rfl⟩
    | some ipValue =>
      refine Or.inr ⟨ipValue, ?_, List.mem_map.mpr ⟨rTunnel, member, rfl⟩⟩
      change rTunnel ∈ (iphash.lookup ipValue).getD ∅ at member
      cases known : iphash.lookup ipValue with
      | none =>
        rw [known] at member
        exact absurd member (AList.notMem_empty rTunnel)
      | some tunnels => exact (Dict.mem_iff_lookup _ _).mpr ⟨tunnels, known⟩

theorem mem_registrations : r ∈ group.registrations scope vnid ↔
      r.scope = scope ∧ r.vnid = vnid ∧ r.tunnel ∈ group.tunnels r.fsender r.address := by
  unfold registrations
  rw [List.mem_append, mem_listKind, mem_listKind]
  obtain ⟨rScope, rVnid, rSender, rAddress, rTunnel⟩ := r
  cases rSender <;> cases rAddress <;> simp [tunnels]

end MulticastVNIDGroup

theorem MulticastGroup.mem_registrations {group : MulticastGroup} : r ∈ group.registrations scope ↔
      r.scope = scope ∧ ∃ vnidGroup, group.lookup r.vnid = some vnidGroup ∧
        r.tunnel ∈ vnidGroup.tunnels r.fsender r.address := by
  unfold registrations
  rw [List.mem_flatMap]
  constructor
  · rintro ⟨vnid, -, within⟩
    cases known : group.lookup vnid with
    | none => simp [known] at within
    | some vnidGroup =>
      rw [known] at within
      obtain ⟨same, rfl, member⟩ := MulticastVNIDGroup.mem_registrations.mp within
      exact ⟨same, vnidGroup, known, member⟩
  · rintro ⟨same, vnidGroup, known, member⟩
    refine ⟨r.vnid, (Dict.mem_iff_lookup _ _).mpr ⟨vnidGroup, known⟩, ?_⟩
    rw [known]
    exact MulticastVNIDGroup.mem_registrations.mpr ⟨same, rfl, member⟩

theorem Multicast.mem_registrations {multicast : Multicast} :
    r ∈ multicast.registrations ↔ multicast.Registered r := by
  unfold registrations Registered
  rw [List.mem_append, List.mem_append, MulticastGroup.mem_registrations,
    MulticastGroup.mem_registrations, List.mem_flatMap]
  obtain ⟨scope, vnid, fsender, address, tunnel⟩ := r
  constructor
  · rintro ((⟨rfl, member⟩ | ⟨rfl, member⟩) | ⟨entry, listed, within⟩)
    · exact member
    · exact member
    · obtain ⟨rfl, member⟩ := MulticastGroup.mem_registrations.mp within
      have known : multicast.macGroup.lookup entry.1 = some entry.2 :=
        AList.mem_lookup_iff.mpr listed
      simpa only [groupAt, known, Option.getD_some] using member
  · intro registered
    cases scope with
    | globalScope => exact Or.inl (Or.inl ⟨rfl, registered⟩)
    | all => exact Or.inl (Or.inr ⟨rfl, registered⟩)
    | mac mac =>
      right
      cases known : multicast.macGroup.lookup mac with
      | none =>
        obtain ⟨group, listed, -⟩ := registered
        simp [groupAt, known] at listed
      | some group =>
        simp only [groupAt, known] at registered
        exact ⟨⟨mac, group⟩, AList.mem_lookup_iff.mp known,
          MulticastGroup.mem_registrations.mpr ⟨rfl, registered⟩⟩

namespace Collection

section Loops

variable {s : Collection} {domain : DomainId} {multicast : Multicast}

theorem collectKind_eq (known : (multicast.groupAt scope).lookup vnid = some group)
    (fsender : Bool) (all : Dict TunnelId Unit) (iphash : Dict IPValue (Dict TunnelId Unit))
    (state : Nat × MulticastSet) :
    s.collectKind domain scope.groupMac vnid group fsender all iphash state =
      (MulticastVNIDGroup.listKind scope vnid fsender all iphash).foldl
        (s.collect domain multicast) state := by
  have flag : ∀ address tunnel, multicast.scopeFlag { scope, vnid, fsender, address, tunnel } =
      group.globalScope := by
    intro address tunnel
    simp [Multicast.scopeFlag, known]
  unfold collectKind MulticastVNIDGroup.listKind
  rw [List.foldl_append, List.foldl_map, List.foldl_flatMap]
  simp only [collect, placeOf, flag]
  congr 1
  funext state ipValue
  cases iphash.lookup ipValue with
  | none => rfl
  | some ipHash => simp only [Option.getD_some, List.foldl_map, collect, placeOf, flag]

theorem transferStartGetMulticastGroup_eq {group : MulticastGroup}
    (same : multicast.groupAt scope = group) (state : Nat × MulticastSet) :
    s.transferStartGetMulticastGroup domain scope.groupMac group state =
      (group.registrations scope).foldl (s.collect domain multicast) state := by
  subst same
  unfold transferStartGetMulticastGroup MulticastGroup.registrations
  rw [List.foldl_flatMap]
  congr 1
  funext state vnid
  cases known : (multicast.groupAt scope).lookup vnid with
  | none => rfl
  | some vnidGroup =>
    simp only [Option.map_some, Option.getD_some, MulticastVNIDGroup.registrations,
      List.foldl_append]
    rw [← collectKind_eq known, ← collectKind_eq known]
    rfl

end Loops

/-- The loops together are one loop over the registrations. -/
theorem transferStartGetMulticasts_eq (s : Collection) (domain : DomainId) :
    (s.transferStartGetMulticasts domain).2 =
      ((s.domain domain).multicast.registrations.foldl
        (s.collect domain (s.domain domain).multicast) (s.queryId, ∅)).2 := by
  unfold transferStartGetMulticasts Multicast.registrations
  set multicast := (s.domain domain).multicast
  have group : ∀ scope state, s.transferStartGetMulticastGroup domain scope.groupMac
      (multicast.groupAt scope) state =
        ((multicast.groupAt scope).registrations scope).foldl (s.collect domain multicast) state :=
    fun _ => transferStartGetMulticastGroup_eq rfl
  have macs : ∀ state, multicast.macGroup.entries.foldl (fun state entry =>
        s.transferStartGetMulticastGroup domain entry.1 entry.2 state) state =
      (multicast.macGroup.entries.flatMap fun entry =>
        MulticastGroup.registrations entry.2 (.mac entry.1)).foldl
          (s.collect domain multicast) state := by
    intro state
    rw [List.foldl_flatMap]
    refine List.foldl_ext _ _ _ fun state entry listed => ?_
    have found : multicast.macGroup.lookup entry.1 = some entry.2 :=
      AList.mem_lookup_iff.mpr listed
    have known : multicast.groupAt (.mac entry.1) = entry.2 := by simp [Multicast.groupAt, found]
    exact transferStartGetMulticastGroup_eq known state
  have globalScope := group .globalScope
  have all := group .all
  simp only [MulticastScope.groupMac, Multicast.groupAt] at globalScope all
  simp only [List.foldl_append, ← macs, globalScope, all]

/-! ## What the loop writes -/

/-- The keys of two registrations differ at most in the client type. -/
def SharesKey (s : Collection) (r r' : MulticastRegistration) : Prop :=
  r.vnid = r'.vnid ∧ r.scope.groupMac = r'.scope.groupMac ∧
    r.address.getD .zero = r'.address.getD .zero ∧
    (s.primaryIp r.tunnel).ipValue = (s.primaryIp r'.tunnel).ipValue

/-- The key of a registration for one client type. -/
def keyOf (s : Collection) (multicast : Multicast) (r : MulticastRegistration)
    (clientType : ClientType) : TransferKey :=
  s.multicastKey (placeOf multicast r) r.tunnel clientType

/-- The object of a registration for one client type. -/
def objectOf (s : Collection) (domain : DomainId) (multicast : Multicast)
    (r : MulticastRegistration) (clientType : ClientType) : MulticastTransfer :=
  s.multicastObject domain (placeOf multicast r) r.tunnel clientType

section Writes

variable {s : Collection} {domain : DomainId} {multicast : Multicast}

theorem keyOf_eq_iff {clientType' : ClientType} :
    s.keyOf multicast r clientType = s.keyOf multicast r' clientType' ↔
      s.SharesKey r r' ∧ clientType = clientType' := by
  have codes : clientType.code = clientType'.code ↔ clientType = clientType' := by
    cases clientType <;> cases clientType' <;> decide
  simp only [keyOf, multicastKey, placeOf, SharesKey, TransferKey.multicast.injEq, codes]
  tauto

theorem objectOf_describes (r : MulticastRegistration) (clientType : ClientType) :
    s.Describes multicast (s.objectOf domain multicast r clientType) r :=
  ⟨rfl, rfl, rfl, rfl, rfl, rfl, rfl⟩

/-- A round of the loop writes the keys of its registration and no others. -/
theorem collect_lookup (s : Collection) (domain : DomainId) (multicast : Multicast)
    (state : Nat × MulticastSet) (r : MulticastRegistration) (key : TransferKey) :
    (∃ clientType ∈ s.tunnelTypesSupported r.tunnel, key = s.keyOf multicast r clientType ∧
      ∃ entry, (s.collect domain multicast state r).2.lookup key = some entry ∧
        entry.object = .multicast (s.objectOf domain multicast r clientType)) ∨
    ((∀ clientType ∈ s.tunnelTypesSupported r.tunnel, key ≠ s.keyOf multicast r clientType) ∧
      (s.collect domain multicast state r).2.lookup key = state.2.lookup key) := by
  unfold collect collectTunnel
  induction s.tunnelTypesSupported r.tunnel using List.reverseRecOn with
  | nil => exact Or.inr ⟨by simp, rfl⟩
  | append_singleton earlier clientType ih =>
    rw [List.foldl_append]
    simp only [List.foldl_cons, List.foldl_nil]
    rw [Dict.lookup_insert]
    by_cases same : key = s.multicastKey (placeOf multicast r) r.tunnel clientType
    · exact Or.inl ⟨clientType, by simp, same, _, if_pos same, rfl⟩
    · rw [if_neg same]
      rcases ih with ⟨other, listed, isKey, written⟩ | ⟨others, unchanged⟩
      · exact Or.inl ⟨other, List.mem_append_left _ listed, isKey, written⟩
      · refine Or.inr ⟨fun other listed => ?_, unchanged⟩
        rcases List.mem_append.mp listed with early | last
        · exact others other early
        · rwa [List.mem_singleton.mp last]

/-- A set of objects holds what the loop has written for a list of registrations: each object is
that of a registration, and of the registrations that share their keys one has written all its
objects last. -/
structure Collected (s : Collection) (domain : DomainId) (multicast : Multicast)
    (registrations : List MulticastRegistration) (set : MulticastSet) : Prop where
  written : ∀ key entry, set.lookup key = some entry → ∃ r ∈ registrations,
    ∃ clientType ∈ s.tunnelTypesSupported r.tunnel, key = s.keyOf multicast r clientType ∧
      entry.object = .multicast (s.objectOf domain multicast r clientType)
  last : ∀ r ∈ registrations, ∃ writer ∈ registrations, s.SharesKey r writer ∧
    ∀ clientType ∈ s.tunnelTypesSupported r.tunnel, ∃ entry,
      set.lookup (s.keyOf multicast r clientType) = some entry ∧
      entry.object = .multicast (s.objectOf domain multicast writer clientType)

theorem collected (state : Nat × MulticastSet) (none : state.2 = ∅)
    (registrations : List MulticastRegistration)
    (distinct : ∀ r ∈ registrations, ∀ r' ∈ registrations,
      s.SharesKey r r' → r.tunnel = r'.tunnel) :
    s.Collected domain multicast registrations
      (registrations.foldl (s.collect domain multicast) state).2 := by
  induction registrations using List.reverseRecOn with
  | nil => exact ⟨by simp [none], by simp⟩
  | append_singleton earlier r ih =>
    have before := ih fun r' early r'' early' => distinct r' (List.mem_append_left _ early) r''
      (List.mem_append_left _ early')
    rw [List.foldl_append, List.foldl_cons, List.foldl_nil]
    have round := collect_lookup s domain multicast
      (earlier.foldl (s.collect domain multicast) state) r
    constructor
    · intro key entry present
      rcases round key with ⟨clientType, listed, isKey, entry', present', isObject⟩ | ⟨-, unchanged⟩
      · rw [present] at present'
        cases present'
        exact ⟨r, by simp, clientType, listed, isKey, isObject⟩
      · rw [unchanged] at present
        obtain ⟨r', early, rest⟩ := before.written key entry present
        exact ⟨r', List.mem_append_left _ early, rest⟩
    · intro r' listed
      by_cases shares : s.SharesKey r' r
      · have sameTunnel := distinct r' listed r (by simp) shares
        refine ⟨r, by simp, shares, fun clientType supported => ?_⟩
        have isKey : s.keyOf multicast r' clientType = s.keyOf multicast r clientType :=
          keyOf_eq_iff.mpr ⟨shares, rfl⟩
        rcases round (s.keyOf multicast r' clientType) with
          ⟨other, -, isKey', written⟩ | ⟨others, -⟩
        · obtain ⟨-, rfl⟩ := keyOf_eq_iff.mp isKey'
          exact written
        · exact absurd isKey (others clientType (sameTunnel ▸ supported))
      · rcases List.mem_append.mp listed with early | own
        · obtain ⟨writer, early', shares', objects⟩ := before.last r' early
          refine ⟨writer, List.mem_append_left _ early', shares', fun clientType supported => ?_⟩
          rcases round (s.keyOf multicast r' clientType) with ⟨other, -, isKey, -⟩ | ⟨-, unchanged⟩
          · exact absurd (keyOf_eq_iff.mp isKey).1 shares
          · rw [unchanged]
            exact objects clientType supported
        · rw [List.mem_singleton.mp own] at shares
          exact absurd ⟨rfl, rfl, rfl, rfl⟩ shares

end Writes

/-! ## When the snapshot mirrors the registrations -/

variable (s : Collection) (multicast : Multicast)

/-- The primary address of a tunnel, as a value and as it is packed, tells the registered tunnels
apart. -/
def DistinctPrimaries : Prop :=
  ∀ r r', multicast.Registered r → multicast.Registered r' →
    ((s.primaryIp r.tunnel).ipValue = (s.primaryIp r'.tunnel).ipValue ∨
      (s.primaryIp r.tunnel).ipValuePacked = (s.primaryIp r'.tunnel).ipValuePacked) →
    r.tunnel = r'.tunnel

/-- Each registered tunnel has one client type. -/
def OneClientType : Prop :=
  ∀ r, multicast.Registered r → (s.tunnelTypesSupported r.tunnel).length = 1

/-- No two registrations share their keys. -/
def DistinctKeys : Prop :=
  ∀ r r', multicast.Registered r → multicast.Registered r' → s.SharesKey r r' → r = r'

section Decidable

variable (s : Collection) (multicast : Multicast)

instance : Decidable (s.DistinctPrimaries multicast) :=
  decidable_of_iff (∀ r ∈ multicast.registrations, ∀ r' ∈ multicast.registrations,
      ((s.primaryIp r.tunnel).ipValue = (s.primaryIp r'.tunnel).ipValue ∨
        (s.primaryIp r.tunnel).ipValuePacked = (s.primaryIp r'.tunnel).ipValuePacked) →
      r.tunnel = r'.tunnel) <| by
    simp only [Multicast.mem_registrations, DistinctPrimaries]
    exact ⟨fun all r r' registered => all r registered r',
      fun all r registered r' => all r r' registered⟩

instance : Decidable (s.OneClientType multicast) :=
  decidable_of_iff
    (∀ r ∈ multicast.registrations, (s.tunnelTypesSupported r.tunnel).length = 1) <| by
    simp only [Multicast.mem_registrations, OneClientType]

instance (r r' : MulticastRegistration) : Decidable (s.SharesKey r r') :=
  inferInstanceAs (Decidable (_ ∧ _ ∧ _ ∧ _))

instance : Decidable (s.DistinctKeys multicast) :=
  decidable_of_iff (∀ r ∈ multicast.registrations, ∀ r' ∈ multicast.registrations,
      s.SharesKey r r' → r = r') <| by
    simp only [Multicast.mem_registrations, DistinctKeys]
    exact ⟨fun all r r' registered => all r registered r',
      fun all r registered r' => all r r' registered⟩

end Decidable

section Mirror

variable {s : Collection} {domain : DomainId}

/-- The objects of the snapshot are those that one loop over the registrations writes. -/
theorem snapshot_collected (distinct : s.DistinctPrimaries (s.domain domain).multicast) :
    s.Collected domain (s.domain domain).multicast (s.domain domain).multicast.registrations
      (s.transferStartGetMulticasts domain).2 := by
  rw [transferStartGetMulticasts_eq]
  refine collected _ rfl _ fun r listed r' listed' shares => ?_
  exact distinct r r' (Multicast.mem_registrations.mp listed)
    (Multicast.mem_registrations.mp listed') (Or.inl shares.2.2.2)

variable {multicast : Multicast} {set : MulticastSet}

variable (distinct : s.DistinctPrimaries multicast)

include distinct

/-- An object that was made for one registration and describes another one has a key that the two
share. -/
theorem sharesKey_of_describes
    (registered : multicast.Registered r) (registered' : multicast.Registered r')
    (describes : s.Describes multicast (s.objectOf domain multicast r clientType) r') :
    s.SharesKey r r' := by
  have sameTunnel := distinct r r' registered registered' (Or.inr describes.tunnel)
  exact ⟨describes.vnid, describes.mac, describes.address, by rw [sameTunnel]⟩

/-- With one client type for each tunnel and keys that differ, each registration finds its own
object at its key. -/
theorem mirrors_of_distinctKeys
    (holds : s.Collected domain multicast multicast.registrations set)
    (oneType : s.OneClientType multicast) (distinctKeys : s.DistinctKeys multicast) :
    s.Mirrors multicast set := by
  have theType : ∀ r, multicast.Registered r → ∃ clientType,
      s.tunnelTypesSupported r.tunnel = [clientType] := fun r registered =>
    List.length_eq_one_iff.mp (oneType r registered)
  let place := fun r : MulticastRegistration =>
    s.keyOf multicast r ((s.tunnelTypesSupported r.tunnel).headD .doveSwitch)
  have place_eq : ∀ {r clientType}, s.tunnelTypesSupported r.tunnel = [clientType] →
      place r = s.keyOf multicast r clientType := by
    intro r clientType only
    simp only [place, only, List.headD_cons]
  refine ⟨place, ?_, ?_, ?_⟩
  · intro r registered
    obtain ⟨clientType, only⟩ := theType r registered
    obtain ⟨writer, listed, shares, objects⟩ :=
      holds.last r (Multicast.mem_registrations.mpr registered)
    have isOwn : r = writer :=
      distinctKeys r writer registered (Multicast.mem_registrations.mp listed) shares
    subst isOwn
    obtain ⟨entry, present, isObject⟩ := objects clientType (by simp [only])
    rw [place_eq only]
    refine ⟨_, entry, present, isObject, objectOf_describes r clientType, ?_⟩
    intro key other otherEntry otherPresent isOther describes
    obtain ⟨r', listed', clientType', supported, rfl, isObject'⟩ :=
      holds.written key otherEntry otherPresent
    rw [isObject', TransferObject.multicast.injEq] at isOther
    subst isOther
    have registered' := Multicast.mem_registrations.mp listed'
    have isOwn := distinctKeys r' r registered' registered
      (sharesKey_of_describes distinct registered' registered describes)
    rw [isOwn, only, List.mem_singleton] at supported
    rw [isOwn, supported]
  · intro r r' registered registered' same
    exact distinctKeys r r' registered registered' (keyOf_eq_iff.mp same).1
  · intro key entry present
    obtain ⟨r, listed, clientType, supported, isKey, -⟩ := holds.written key entry present
    have registered := Multicast.mem_registrations.mp listed
    obtain ⟨clientType', only⟩ := theType r registered
    rw [only, List.mem_singleton] at supported
    exact ⟨r, registered, by rw [place_eq only, isKey, supported]⟩

omit distinct in
/-- An object describes the same registrations for every client type. -/
theorem objectOf_describes_iff {writer : MulticastRegistration} (clientType other : ClientType) :
    s.Describes multicast (s.objectOf domain multicast writer clientType) r ↔
      s.Describes multicast (s.objectOf domain multicast writer other) r := by
  constructor <;> exact fun ⟨vnid, mac, family, address, tunnel, kind, scope⟩ =>
    ⟨vnid, mac, family, address, tunnel, kind, scope⟩

/-- Where the object of a registration is the only one to describe it, the tunnel of the
registration has one client type, and the object is at the key for it. -/
theorem only_type_of_described
    (holds : s.Collected domain multicast multicast.registrations set)
    (registered : multicast.Registered r) {key : TransferKey} {object : MulticastTransfer}
    {entry : TransferEntry} (present : set.lookup key = some entry)
    (isObject : entry.object = .multicast object) (describes : s.Describes multicast object r)
    (unique : ∀ key' other otherEntry, set.lookup key' = some otherEntry →
      otherEntry.object = .multicast other → s.Describes multicast other r → key' = key) :
    ∃ clientType, s.tunnelTypesSupported r.tunnel = [clientType] ∧
      key = s.keyOf multicast r clientType := by
  obtain ⟨r', listed', clientType, supported', isKey', isObject'⟩ :=
    holds.written key entry present
  have registered' := Multicast.mem_registrations.mp listed'
  rw [isObject', TransferObject.multicast.injEq] at isObject
  subst isObject
  have shares := sharesKey_of_describes distinct registered' registered describes
  have isKey : key = s.keyOf multicast r clientType :=
    isKey'.trans (keyOf_eq_iff.mpr ⟨shares, rfl⟩)
  have supported : clientType ∈ s.tunnelTypesSupported r.tunnel :=
    distinct r' r registered' registered (Or.inl shares.2.2.2) ▸ supported'
  obtain ⟨writer, -, -, objects⟩ := holds.last r (Multicast.mem_registrations.mpr registered)
  -- The last writer's object is the one that describes the registration, for this type and so for
  -- every other one.
  have written : s.Describes multicast (s.objectOf domain multicast writer clientType) r := by
    obtain ⟨lastEntry, lastPresent, isLast⟩ := objects clientType supported
    rw [← isKey, present] at lastPresent
    cases lastPresent
    rw [isObject', TransferObject.multicast.injEq] at isLast
    exact isLast ▸ describes
  have only : ∀ other ∈ s.tunnelTypesSupported r.tunnel, other = clientType := by
    intro other listed
    obtain ⟨otherEntry, otherPresent, isOther⟩ := objects other listed
    have same := unique _ _ otherEntry otherPresent isOther
      ((objectOf_describes_iff clientType other).mp written)
    exact (keyOf_eq_iff.mp (same.trans isKey)).2
  have nodup : (s.tunnelTypesSupported r.tunnel).Nodup :=
    List.Nodup.filter _ (by decide : ClientType.types.Nodup)
  have repeated := List.eq_replicate_of_mem only
  rw [repeated, List.nodup_replicate] at nodup
  have one : (s.tunnelTypesSupported r.tunnel).length = 1 :=
    Nat.le_antisymm nodup (List.length_pos_of_mem supported)
  rw [one] at repeated
  exact ⟨clientType, repeated, isKey⟩

theorem distinctKeys_of_mirrors
    (holds : s.Collected domain multicast multicast.registrations set)
    (mirrors : s.Mirrors multicast set) :
    s.OneClientType multicast ∧ s.DistinctKeys multicast := by
  obtain ⟨place, objects, injective, -⟩ := mirrors
  have onlyType : ∀ r, multicast.Registered r → ∃ clientType,
      s.tunnelTypesSupported r.tunnel = [clientType] ∧
        place r = s.keyOf multicast r clientType := by
    intro r registered
    obtain ⟨object, entry, present, isObject, describes, unique⟩ := objects r registered
    exact only_type_of_described distinct holds registered present isObject describes unique
  constructor
  · intro r registered
    obtain ⟨clientType, only, -⟩ := onlyType r registered
    exact List.length_eq_one_iff.mpr ⟨clientType, only⟩
  · intro r r' registered registered' shares
    obtain ⟨clientType, only, isPlace⟩ := onlyType r registered
    obtain ⟨clientType', only', isPlace'⟩ := onlyType r' registered'
    have sameTunnel := distinct r r' registered registered' (Or.inl shares.2.2.2)
    rw [sameTunnel, only'] at only
    cases only
    refine injective r r' registered registered' ?_
    rw [isPlace, isPlace']
    exact keyOf_eq_iff.mpr ⟨shares, rfl⟩

end Mirror

/-- The objects collected for a mass transfer are in bijection with the multicast registrations of
the domain if and only if each registered tunnel has one client type and no two registrations
have the same VNID, group MAC, address and tunnel. -/
theorem multicast_snapshot_mirrors_iff (s : Collection) (domain : DomainId)
    (distinct : s.DistinctPrimaries (s.domain domain).multicast) :
    s.Mirrors (s.domain domain).multicast (s.transferStartGetMulticasts domain).2 ↔
      s.OneClientType (s.domain domain).multicast ∧
        s.DistinctKeys (s.domain domain).multicast := by
  have holds := snapshot_collected distinct
  constructor
  · exact distinctKeys_of_mirrors distinct holds
  · rintro ⟨oneType, distinctKeys⟩
    exact mirrors_of_distinctKeys distinct holds oneType distinctKeys

/-- The network of two switches, in whose domain the tunnels have registered for multicast. -/
def switchesWithMulticast (multicast : Multicast) : Collection :=
  twoSwitches.modifyDomain 0 fun d => { d with multicast }

/-- One switch receives a group and the other one sends to an address of it. -/
theorem multicast_snapshot_mirrors_one_sender :
    let s := switchesWithMulticast
      ((Multicast.create.receiverAdd 70 false false 9 none 0).senderAdd 70 9 (some (.v4 5)) 1)
    s.OneClientType (s.domain 0).multicast ∧
      s.Mirrors (s.domain 0).multicast (s.transferStartGetMulticasts 0).2 :=
  ⟨by decide +kernel,
    (multicast_snapshot_mirrors_iff _ 0 (by decide +kernel)).mpr (by decide +kernel)⟩

/-- A switch receives a group and sends to it. Its object as a sender takes the place of its object
as a receiver. -/
theorem multicast_snapshot_loses_a_receiver :
    let s := switchesWithMulticast
      ((Multicast.create.receiverAdd 70 false false 9 none 0).senderAdd 70 9 none 0)
    s.DistinctPrimaries (s.domain 0).multicast ∧ s.OneClientType (s.domain 0).multicast ∧
      ¬ s.Mirrors (s.domain 0).multicast (s.transferStartGetMulticasts 0).2 := by
  intro s
  have distinct : s.DistinctPrimaries (s.domain 0).multicast := by decide +kernel
  have shared : ¬ s.DistinctKeys (s.domain 0).multicast := by decide +kernel
  refine ⟨distinct, by decide +kernel, fun mirrors => shared ?_⟩
  exact (distinctKeys_of_mirrors distinct (snapshot_collected distinct) mirrors).2

end Collection

end OpenDove
