import OpenDove.MulticastRemoval

/-!
# Telling senders about their receivers

A multicast sender is given the list of the tunnels that receive from its VNID in its group: the
receivers of the group and of all groups in the VNIDs that a policy lets it reach or, for an
address of the global scope, in every VNID of the domain, together with the receivers of the
global scope. When a receiver is added or deleted, the VNIDs and MACs whose senders are to get a
new list are queued for a timer.

Who is queued is computed by other rules than the list. For a receiver of the global scope `Add`
queues every VNID and MAC, but `Delete` only the VNIDs that may send to that of the receiver, and
only one MAC. And a receiver that is not of the global scope is on the lists of every VNID with
senders of the global scope, while only the VNIDs that may send to its own are queued.

A query for receivers from any source reads the table of the senders, so that a list for any source
is complete exactly where the sources of senders and receivers agree on the addresses listed.

The last section has the MAC addresses that the server makes of the addresses of groups.
-/

namespace OpenDove

/-! ## Receivers -/

/-- `ntohl` on the integer of an IPv4 address. -/
def ntohl (value : UInt32) : Nat :=
  (IPValue.octets value).foldl (fun number byte => number * 256 + byte) 0

/-- `Multicast_Global_Scope.IPAddress_Is`: IPv4 from 224.0.1.0 to 238.255.255.255. -/
def isGlobalScope : IPValue → Bool
  | .v4 value => 0xE0000100 ≤ ntohl value ∧ ntohl value ≤ 0xEEFFFFFF
  | .v6 _ => false

/-- Enter keys with the value `True`. -/
def enterTunnels (list : Dict TunnelId Unit) (tunnels : List TunnelId) : Dict TunnelId Unit :=
  tunnels.foldl (fun list tunnel => list.insert tunnel ()) list

namespace MulticastVNIDGroup

/-- `receiver_delete`. -/
def receiverDelete (group : MulticastVNIDGroup) (address : Option IPValue) (tunnel : TunnelId) :
    MulticastVNIDGroup :=
  match address with
  | none => { group with receiverAll := group.receiverAll.erase tunnel }
  | some ipValue =>
    match group.receiverIphash.lookup ipValue with
    | none => group
    | some iphash =>
      if tunnel ∈ iphash then
        let iphash := iphash.erase tunnel
        { group with receiverIphash :=
            if Dict.size iphash = 0 then group.receiverIphash.erase ipValue
            else group.receiverIphash.insert ipValue iphash }
      else group

/-- `receivers_get`. For any address the loop runs over the addresses of the receivers but reads
the table of the senders. -/
def receiversGet (group : MulticastVNIDGroup) (address : Option IPValue) : Dict TunnelId Unit :=
  let list :=
    match address with
    | some ipValue =>
      enterTunnels ∅ ((group.receiverIphash.lookup ipValue).getD ∅ : Dict TunnelId Unit).keys
    | none =>
      group.receiverIphash.keys.foldl (fun list ipValue =>
        enterTunnels list ((group.senderIphash.lookup ipValue).getD ∅ : Dict TunnelId Unit).keys) ∅
  enterTunnels list group.receiverAll.keys

end MulticastVNIDGroup

namespace MulticastGroup

/-- `receiver_delete`. -/
def receiverDelete (group : MulticastGroup) (vnid : Nat) (address : Option IPValue)
    (tunnel : TunnelId) : MulticastGroup :=
  match group.lookup vnid with
  | none => group
  | some vnidGroup =>
    let vnidGroup := vnidGroup.receiverDelete address tunnel
    if vnidGroup.empty then group.erase vnid else group.insert vnid vnidGroup

/-- `receivers_get`. -/
def receiversGet (group : MulticastGroup) (vnid : Nat) (address : Option IPValue) :
    Dict TunnelId Unit :=
  ((group.lookup vnid).map (·.receiversGet address)).getD ∅

end MulticastGroup

/-- `receiver_delete`, without the updates to the senders, and `fdeleted`. -/
def Multicast.receiverDelete (multicast : Multicast) (vnid : Nat) (globalScope allMulti : Bool)
    (mac : Mac) (address : Option IPValue) (tunnel : TunnelId) : Multicast × Bool :=
  if globalScope then
    ({ multicast with
        globalScope := multicast.globalScope.receiverDelete vnid address tunnel }, true)
  else if allMulti then
    ({ multicast with all := multicast.all.receiverDelete vnid address tunnel }, true)
  else
    match multicast.macGroup.lookup mac with
    | none => (multicast, false)
    | some group =>
      let left := MulticastGroup.receiverDelete group vnid address tunnel
      let macGroup :=
        if Dict.size left = 0 then multicast.macGroup.erase mac
        else multicast.macGroup.insert mac left
      ({ multicast with macGroup }, true)

/-! ## Lists and updates -/

/-- An entry of `VNID_Multicast_Updates`. -/
structure MulticastUpdate where
  dvgSend : DvgId
  mac : Mac
  address : Option IPValue
  globalScope : Bool
  deriving DecidableEq

/-- `VNID_Multicast_Updates`, by VNID, MAC, address and scope. -/
abbrev MulticastUpdates := Dict (Nat × Mac × IPValue × Bool) MulticastUpdate

/-- The tunnels that receive in a VNID, by family, as the addresses that stand for them. -/
structure ReceiverTunnels where
  tunnelsv4 : List IPValue
  tunnelsv6 : List IPValue

namespace Collection

variable (s : Collection) (dvg : DvgId)

/-- `policy_allowed_vnids`. -/
def policyAllowedVnids (side : PolicyEnd) (trafficType : TrafficType) : List Nat :=
  let policies := (s.dvg dvg).policies side trafficType
  policies.keys.filter fun vnid =>
    (policies.lookup vnid).any fun policy =>
      (s.policy policy).type = typeConnectivity ∧
        (s.policy policy).actionConnectivity = actionForward

/-- Enter the primary addresses of tunnels into the lists of their families. -/
def enterPrimaryIps (state : Dict IPValue Unit × Dict IPValue Unit) (tunnels : List TunnelId) :
    Dict IPValue Unit × Dict IPValue Unit :=
  tunnels.foldl (fun (tunnelsv4, tunnelsv6) tunnel =>
    let primaryIp := s.primaryIp tunnel
    match primaryIp.inetType with
    | .inet => (tunnelsv4.insert primaryIp.ipValue (), tunnelsv6)
    | .inet6 => (tunnelsv4, tunnelsv6.insert primaryIp.ipValue ())) state

/-- The receivers of one VNID in `get_receiver_list`. -/
def receiverTunnels (multicast : Multicast) (vnid : Nat) (macGroup : MulticastGroup)
    (address : Option IPValue) (globalScope : Bool) : ReceiverTunnels :=
  let tunnelsAll := multicast.all.receiversGet vnid address
  let tunnelsGlobalScope := if globalScope then multicast.globalScope.receiversGet vnid none else ∅
  let tunnelsSpecific := macGroup.receiversGet vnid address
  let lists := s.enterPrimaryIps (∅, ∅) tunnelsGlobalScope.keys
  let lists := s.enterPrimaryIps lists tunnelsAll.keys
  let lists := s.enterPrimaryIps lists tunnelsSpecific.keys
  { tunnelsv4 := lists.1.keys, tunnelsv6 := lists.2.keys }

/-- The VNIDs whose receivers a VNID sends to. -/
def receiverVnids (globalScope : Bool) : List Nat :=
  if globalScope then (s.domain (s.dvg dvg).domain).dvgHash.keys
  else s.policyAllowedVnids dvg .source .multicast

/-- `get_receiver_list`. -/
def getReceiverList (macGroup : MulticastGroup) (address : Option IPValue) (globalScope : Bool) :
    Dict Nat ReceiverTunnels :=
  let domain := s.domain (s.dvg dvg).domain
  (s.receiverVnids dvg globalScope).foldl (fun receiverTunnelSet receiverVnid =>
    match domain.dvgHash.lookup receiverVnid with
    | none => receiverTunnelSet
    | some dvgRecv =>
      receiverTunnelSet.insert receiverVnid (s.receiverTunnels domain.multicast
        (s.dvg dvgRecv).uniqueId macGroup address globalScope)) ∅

/-- Queue one VNID and MAC. -/
def queueUpdate (address : Option IPValue) (globalScope : Bool) (dvgSend : DvgId)
    (updates : MulticastUpdates) (mac : Mac) : MulticastUpdates :=
  updates.insert ((s.dvg dvgSend).uniqueId, mac, address.getD .zero, globalScope)
    { dvgSend, mac, address, globalScope }

/-- Queue sender VNIDs, each for every MAC of the domain or for one. -/
def queueUpdates (domain : DomainId) (senderVnids : List Nat) (everyMac : Bool) (mac : Mac)
    (address : Option IPValue) (globalScope : Bool) (updates : MulticastUpdates) :
    MulticastUpdates :=
  senderVnids.foldl (fun updates senderVnid =>
    match (s.domain domain).dvgHash.lookup senderVnid with
    | none => updates
    | some dvgSend =>
      let macs := if everyMac then (s.domain domain).multicast.macGroup.keys else [mac]
      macs.foldl (s.queueUpdate address globalScope dvgSend) updates) updates

/-- A call of `receiver_add` or `receiver_delete`. -/
structure ReceiverCall where
  dvg : DvgId
  globalScope : Bool
  allMulti : Bool
  mac : Mac
  address : Option IPValue
  tunnel : TunnelId

/-- The multicast registrations of the domain of a VNID. -/
def multicastOf : Multicast := (s.domain (s.dvg dvg).domain).multicast

/-- Assign the multicast registrations of the domain of a VNID. -/
def setMulticast (multicast : Multicast) : Collection :=
  s.modifyDomain (s.dvg dvg).domain fun d => { d with multicast }

/-- `receiver_add`. -/
def receiverAdd (s : Collection) (updates : MulticastUpdates) (call : ReceiverCall) :
    Collection × MulticastUpdates :=
  let domain := (s.dvg call.dvg).domain
  let s := s.setMulticast call.dvg ((s.multicastOf call.dvg).receiverAdd (s.dvg call.dvg).uniqueId
    call.globalScope call.allMulti call.mac call.address call.tunnel)
  if (s.domain domain).active then
    let senderVnids :=
      if call.globalScope then (s.domain domain).dvgHash.keys
      else s.policyAllowedVnids call.dvg .destination .multicast
    (s, s.queueUpdates domain senderVnids (call.globalScope || call.allMulti) call.mac call.address
      call.globalScope updates)
  else (s, updates)

/-- `receiver_delete`. -/
def receiverDelete (s : Collection) (updates : MulticastUpdates) (call : ReceiverCall) :
    Collection × MulticastUpdates :=
  let domain := (s.dvg call.dvg).domain
  let (multicast, fdeleted) := (s.multicastOf call.dvg).receiverDelete (s.dvg call.dvg).uniqueId
    call.globalScope call.allMulti call.mac call.address call.tunnel
  let s := s.setMulticast call.dvg multicast
  if fdeleted ∧ (s.domain domain).active then
    let senderVnids := s.policyAllowedVnids call.dvg .destination .multicast
    (s, s.queueUpdates domain senderVnids call.allMulti call.mac call.address call.globalScope
      updates)
  else (s, updates)

/-! ## What a call changes -/

/-- One of the two routines. -/
def receiverCall (s : Collection) (updates : MulticastUpdates) (call : ReceiverCall) :
    Bool → Collection × MulticastUpdates
  | true => s.receiverAdd updates call
  | false => s.receiverDelete updates call

/-- An address is on the list that `get_receiver_list` returns for a VNID and a MAC. -/
def Listed (s : Collection) (dvg : DvgId) (mac : Mac) (address : Option IPValue)
    (globalScope : Bool) (receiverVnid : Nat) (ipValue : IPValue) : Prop :=
  ∃ tunnels, (s.getReceiverList dvg ((s.multicastOf dvg).groupAt (.mac mac)) address
      globalScope).lookup receiverVnid = some tunnels ∧
    (ipValue ∈ tunnels.tunnelsv4 ∨ ipValue ∈ tunnels.tunnelsv6)

instance (s : Collection) (dvg : DvgId) (mac : Mac) (address : Option IPValue) (globalScope : Bool)
    (receiverVnid : Nat) (ipValue : IPValue) :
    Decidable (s.Listed dvg mac address globalScope receiverVnid ipValue) :=
  match known : (s.getReceiverList dvg ((s.multicastOf dvg).groupAt (.mac mac)) address
      globalScope).lookup receiverVnid with
  | none => isFalse fun ⟨_, listed, _⟩ => nomatch known.symm.trans listed
  | some tunnels =>
    decidable_of_iff (ipValue ∈ tunnels.tunnelsv4 ∨ ipValue ∈ tunnels.tunnelsv6)
      ⟨fun member => ⟨tunnels, known, member⟩, fun ⟨_, listed, member⟩ =>
        Option.some.inj (listed.symm.trans known) ▸ member⟩

theorem lookup_getReceiverList (macGroup : MulticastGroup)
    (address : Option IPValue) (globalScope : Bool) (vnid : Nat) :
    (s.getReceiverList dvg macGroup address globalScope).lookup vnid =
      if vnid ∈ s.receiverVnids dvg globalScope then
        ((s.domain (s.dvg dvg).domain).dvgHash.lookup vnid).map fun dvgRecv =>
          s.receiverTunnels (s.multicastOf dvg) (s.dvg dvgRecv).uniqueId macGroup address
            globalScope
      else none := by
  have tabulated := Dict.lookup_foldl_tabulate
    (fun vnid => (s.domain (s.dvg dvg).domain).dvgHash.lookup vnid)
    (fun _ dvgRecv => s.receiverTunnels (s.multicastOf dvg) (s.dvg dvgRecv).uniqueId macGroup
      address globalScope) (s.receiverVnids dvg globalScope) ∅ vnid
  rw [AList.lookup_empty, Option.or_none] at tabulated
  rw [← tabulated]
  unfold getReceiverList
  dsimp only
  congr 2
  funext receiverTunnelSet receiverVnid
  cases (s.domain (s.dvg dvg).domain).dvgHash.lookup receiverVnid <;> rfl

/-- The VNIDs of a domain are in its table under their own numbers. -/
def Named (s : Collection) (domain : DomainId) : Prop :=
  ∀ vnid dvg, (s.domain domain).dvgHash.lookup vnid = some dvg → (s.dvg dvg).uniqueId = vnid

/-! ## Who is told -/

variable {s dvg}

/-- An update is queued for a VNID. -/
def Queued (vnid : Nat) (update : MulticastUpdate) (updates : MulticastUpdates) : Prop :=
  updates.lookup (vnid, update.mac, update.address.getD .zero, update.globalScope) = some update

instance (vnid : Nat) (update : MulticastUpdate) (updates : MulticastUpdates) :
    Decidable (Queued vnid update updates) :=
  inferInstanceAs (Decidable (_ = _))

/-- Queueing a VNID for a list of MACs. -/
theorem lookup_queueUpdate (s : Collection) (address : Option IPValue) (globalScope : Bool)
    (dvgSend : DvgId) (macs : List Mac) (updates : MulticastUpdates) (vnid : Nat) (target : Mac) :
    (macs.foldl (s.queueUpdate address globalScope dvgSend) updates).lookup
        (vnid, target, address.getD .zero, globalScope) =
      if vnid = (s.dvg dvgSend).uniqueId ∧ target ∈ macs then
        some { dvgSend, mac := target, address, globalScope }
      else updates.lookup (vnid, target, address.getD .zero, globalScope) := by
  induction macs generalizing updates with
  | nil => simp
  | cons mac macs ih =>
    rw [List.foldl_cons, ih, queueUpdate, Dict.lookup_insert]
    grind

/-- Exactly the VNIDs that are given are queued, for the MACs that are given. -/
theorem lookup_queueUpdates (s : Collection) (domain : DomainId) (named : s.Named domain)
    (senderVnids : List Nat) (everyMac : Bool) (mac : Mac) (address : Option IPValue)
    (globalScope : Bool) (updates : MulticastUpdates) {vnid : Nat} {dvgSend : DvgId}
    (known : (s.domain domain).dvgHash.lookup vnid = some dvgSend) (target : Mac) :
    (s.queueUpdates domain senderVnids everyMac mac address globalScope updates).lookup
        (vnid, target, address.getD .zero, globalScope) =
      if vnid ∈ senderVnids ∧
          target ∈ (if everyMac then (s.domain domain).multicast.macGroup.keys else [mac]) then
        some { dvgSend, mac := target, address, globalScope }
      else updates.lookup (vnid, target, address.getD .zero, globalScope) := by
  unfold queueUpdates
  induction senderVnids generalizing updates with
  | nil => simp
  | cons senderVnid senderVnids ih =>
    rw [List.foldl_cons, ih]
    cases found : (s.domain domain).dvgHash.lookup senderVnid with
    | none =>
      have differs : vnid ≠ senderVnid := by
        rintro rfl
        cases known.symm.trans found
      simp [differs]
    | some other =>
      dsimp only
      rw [lookup_queueUpdate, named senderVnid other found]
      by_cases same : vnid = senderVnid
      · subst same
        obtain rfl := Option.some.inj (known.symm.trans found)
        grind
      · simp [same]

/-- A VNID of the domain has a sender in the group of a MAC that takes lists of the given scope:
those of the global scope go to senders for an address of that scope or for any. -/
def Sends (s : Collection) (domain : DomainId) (dvg : DvgId) (mac : Mac) (globalScope : Bool) :
    Prop :=
  (s.dvg dvg).domain = domain ∧
    (s.domain domain).dvgHash.lookup (s.dvg dvg).uniqueId = some dvg ∧
    ∃ address tunnel, (s.multicastOf dvg).Registered
        { scope := .mac mac, vnid := (s.dvg dvg).uniqueId, fsender := true, address, tunnel } ∧
      (globalScope = true → ∀ ipValue, address = some ipValue → isGlobalScope ipValue = true)

/-- A call changes the list for a VNID, a MAC, a source and a scope. -/
def ChangesList (s : Collection) (updates : MulticastUpdates) (call : ReceiverCall) (fadd : Bool)
    (dvg : DvgId) (mac : Mac) (address : Option IPValue) (globalScope : Bool) : Prop :=
  ∃ receiverVnid ipValue,
    ¬ ((s.receiverCall updates call fadd).1.Listed dvg mac address globalScope receiverVnid ipValue
      ↔ s.Listed dvg mac address globalScope receiverVnid ipValue)

/-- What a call queues for a VNID and a MAC. -/
def ReceiverCall.update (call : ReceiverCall) (dvgSend : DvgId) (mac : Mac) : MulticastUpdate :=
  { dvgSend, mac, address := call.address, globalScope := call.globalScope }

/-- Whenever a call changes a list of a VNID and MAC with senders, it queues them. -/
def TellsSenders (s : Collection) (updates : MulticastUpdates) (call : ReceiverCall)
    (fadd : Bool) : Prop :=
  ∀ dvg mac address globalScope, s.Sends (s.dvg call.dvg).domain dvg mac globalScope →
    s.ChangesList updates call fadd dvg mac address globalScope →
    Queued (s.dvg dvg).uniqueId (call.update dvg mac) (s.receiverCall updates call fadd).2

/-- Every VNID and MAC with senders whose list a call changes was queued before, or the domain is
active, and a receiver of the global scope is added, or the VNID may send to that of the call and
the MAC is the one that is given, unless the call is for all. -/
def Heard (s : Collection) (updates : MulticastUpdates) (call : ReceiverCall) (fadd : Bool) :
    Prop :=
  ∀ dvg mac address globalScope, s.Sends (s.dvg call.dvg).domain dvg mac globalScope →
    s.ChangesList updates call fadd dvg mac address globalScope →
    Queued (s.dvg dvg).uniqueId (call.update dvg mac) updates ∨
      (s.domain (s.dvg call.dvg).domain).active = true ∧
        (fadd = true ∧ call.globalScope = true ∨
          (s.dvg dvg).uniqueId ∈ s.policyAllowedVnids call.dvg .destination .multicast ∧
            (call.allMulti = true ∨ mac = call.mac))

/-- A group with a sender is there. -/
theorem Sends.mem_macGroup {domain : DomainId} (sends : s.Sends domain dvg mac globalScope) :
    mac ∈ (s.domain domain).multicast.macGroup := by
  obtain ⟨rfl, -, address, tunnel, ⟨group, known, -⟩, -⟩ := sends
  by_contra absent
  simp [multicastOf, Multicast.groupAt, AList.lookup_eq_none.mpr absent] at known

theorem setMulticast_domain (s : Collection) (dvg : DvgId) (multicast : Multicast) :
    let domain := (s.setMulticast dvg multicast).domain (s.dvg dvg).domain
    domain.dvgHash = (s.domain (s.dvg dvg).domain).dvgHash ∧
      domain.active = (s.domain (s.dvg dvg).domain).active ∧ domain.multicast = multicast := by
  simp [setMulticast, modifyDomain]

theorem policyAllowedVnids_setMulticast (s : Collection) (dvg other : DvgId)
    (multicast : Multicast) :
    (s.setMulticast dvg multicast).policyAllowedVnids other = s.policyAllowedVnids other :=
  rfl

/-- A deletion that finds no group changes no list. -/
theorem ChangesList.deleted {updates : MulticastUpdates} {call : ReceiverCall}
    (changes : s.ChangesList updates call false dvg mac address globalScope) :
    ((s.multicastOf call.dvg).receiverDelete (s.dvg call.dvg).uniqueId call.globalScope
      call.allMulti call.mac call.address call.tunnel).2 = true := by
  by_contra kept
  have same : ((s.multicastOf call.dvg).receiverDelete (s.dvg call.dvg).uniqueId call.globalScope
      call.allMulti call.mac call.address call.tunnel).1 = s.multicastOf call.dvg := by
    revert kept
    unfold Multicast.receiverDelete
    split_ifs
    · simp
    · simp
    · split <;> simp
  have written : s.setMulticast call.dvg (s.multicastOf call.dvg) = s := by
    simp [setMulticast, multicastOf, modifyDomain]
  obtain ⟨receiverVnid, ipValue, changed⟩ := changes
  simp only [receiverCall, receiverDelete, same, kept, written, false_and, if_false] at changed
  exact changed trivial

/-- What a call that changes a list queues. -/
theorem queued_receiverCall_iff {updates : MulticastUpdates} {call : ReceiverCall}
    (named : s.Named (s.dvg call.dvg).domain)
    (sends : s.Sends (s.dvg call.dvg).domain dvg mac globalScope)
    (changes : s.ChangesList updates call fadd dvg mac address globalScope) :
    Queued (s.dvg dvg).uniqueId (call.update dvg mac) (s.receiverCall updates call fadd).2 ↔
      Queued (s.dvg dvg).uniqueId (call.update dvg mac) updates ∨
      (s.domain (s.dvg call.dvg).domain).active = true ∧
        (fadd = true ∧ call.globalScope = true ∨
          (s.dvg dvg).uniqueId ∈ s.policyAllowedVnids call.dvg .destination .multicast ∧
            (call.allMulti = true ∨ mac = call.mac)) := by
  have known := (Dict.mem_iff_lookup _ _).mpr ⟨dvg, sends.2.1⟩
  have present := sends.mem_macGroup
  have namedAfter (multicast : Multicast) :
      (s.setMulticast call.dvg multicast).Named (s.dvg call.dvg).domain := by
    intro vnid other found
    rw [(setMulticast_domain s call.dvg multicast).1] at found
    exact named vnid other found
  have queued (multicast : Multicast) (senderVnids : List Nat) (everyMac : Bool)
      (covered : everyMac = true →
        multicast.macGroup = (s.domain (s.dvg call.dvg).domain).multicast.macGroup) :
      Queued (s.dvg dvg).uniqueId (call.update dvg mac)
          ((s.setMulticast call.dvg multicast).queueUpdates (s.dvg call.dvg).domain senderVnids
            everyMac call.mac call.address call.globalScope updates) ↔
      Queued (s.dvg dvg).uniqueId (call.update dvg mac) updates ∨
        (s.dvg dvg).uniqueId ∈ senderVnids ∧ (everyMac = true ∨ mac = call.mac) := by
    obtain ⟨hash, -, macs⟩ := setMulticast_domain s call.dvg multicast
    unfold Queued ReceiverCall.update
    rw [lookup_queueUpdates _ _ (namedAfter multicast) _ _ _ _ _ _ (hash ▸ sends.2.1), macs]
    cases everyMac with
    | true =>
      have key : mac ∈ multicast.macGroup.keys := covered rfl ▸ present
      grind
    | false => grind
  cases fadd with
  | true =>
    have covered : (call.globalScope || call.allMulti) = true →
        ((s.multicastOf call.dvg).receiverAdd (s.dvg call.dvg).uniqueId call.globalScope
          call.allMulti call.mac call.address call.tunnel).macGroup =
            (s.domain (s.dvg call.dvg).domain).multicast.macGroup := by
      intro everyMac
      unfold Multicast.receiverAdd
      split_ifs <;> simp_all [multicastOf]
    simp only [receiverCall, receiverAdd, (setMulticast_domain ..).1, (setMulticast_domain ..).2.1]
    split_ifs with active globalScope
    · rw [queued _ _ _ covered]
      simp [active, globalScope, AList.mem_keys.mp known]
    · rw [queued _ _ _ covered, policyAllowedVnids_setMulticast]
      simp [active, globalScope]
    · simp [active]
  | false =>
    have covered : call.allMulti = true →
        ((s.multicastOf call.dvg).receiverDelete (s.dvg call.dvg).uniqueId call.globalScope
          call.allMulti call.mac call.address call.tunnel).1.macGroup =
            (s.domain (s.dvg call.dvg).domain).multicast.macGroup := by
      intro everyMac
      unfold Multicast.receiverDelete
      split_ifs <;> simp_all [multicastOf]
    simp only [receiverCall, receiverDelete, (setMulticast_domain ..).2.1, changes.deleted,
      true_and]
    split_ifs with active
    · rw [queued _ _ _ covered, policyAllowedVnids_setMulticast]
      simp [active]
    · simp [active]

/-- The network of two switches with a second VNID, in whose domain the tunnels have registered for
multicast. -/
def twoVnidsWithMulticast (multicast : Multicast) : Collection :=
  ((twoSwitches.dvgAdd 7 71).1.domainActivate 7).1.modifyDomain 0 fun d => { d with multicast }

theorem twoVnidsWithMulticast_known {multicast : Multicast} {vnid : Nat}
    (known : ((twoVnidsWithMulticast multicast).domain 0).dvgHash.lookup vnid = some dvg) :
    vnid = 71 ∧ dvg = 1 ∨ vnid = 70 ∧ dvg = 0 := by
  have listed : (⟨vnid, dvg⟩ : Sigma fun _ : Nat => DvgId) ∈
      [⟨71, 1⟩, ⟨70, 0⟩] := AList.mem_lookup_iff.mp known
  simpa using listed

end Collection

/-! ## The receivers on a list -/

theorem mem_enterTunnels {list : Dict TunnelId Unit} {tunnels : List TunnelId} {tunnel : TunnelId} :
    tunnel ∈ enterTunnels list tunnels ↔ tunnel ∈ tunnels ∨ tunnel ∈ list := by
  rw [← AList.lookup_isSome, enterTunnels, Dict.lookup_foldl_insert]
  split
  · next entered => simp [entered]
  · next absent => rw [AList.lookup_isSome, or_iff_right absent]

namespace MulticastGroup

/-- A tunnel receives in a VNID what a query asks for: it is registered for any source, for the
source of the query or, if the query is for any source, for some source. -/
def Receives (group : MulticastGroup) (vnid : Nat) (asked : Option IPValue) (tunnel : TunnelId) :
    Prop :=
  ∃ vnidGroup, group.lookup vnid = some vnidGroup ∧ (tunnel ∈ vnidGroup.receiverAll ∨
    ∃ ipValue, (asked = none ∨ asked = some ipValue) ∧
      tunnel ∈ vnidGroup.tunnels false (some ipValue))

/-- A tunnel is on the list for a VNID. For a query for any source these are, besides the receivers
of any source, the senders for the sources that somebody receives. -/
def Lists (group : MulticastGroup) (vnid : Nat) (asked : Option IPValue) (tunnel : TunnelId) :
    Prop :=
  ∃ vnidGroup, group.lookup vnid = some vnidGroup ∧ (tunnel ∈ vnidGroup.receiverAll ∨
    match asked with
    | some ipValue => tunnel ∈ vnidGroup.tunnels false (some ipValue)
    | none => ∃ ipValue ∈ vnidGroup.receiverIphash, tunnel ∈ vnidGroup.tunnels true (some ipValue))

theorem mem_receiversGet {group : MulticastGroup} {vnid : Nat} {asked : Option IPValue}
    {tunnel : TunnelId} :
    tunnel ∈ group.receiversGet vnid asked ↔ group.Lists vnid asked tunnel := by
  unfold receiversGet Lists
  cases found : group.lookup vnid with
  | none => simp
  | some vnidGroup =>
    simp only [Option.map_some, Option.getD_some, Option.some.injEq, exists_eq_left',
      MulticastVNIDGroup.receiversGet, mem_enterTunnels, ← AList.mem_keys]
    cases asked with
    | some ipValue => simp [mem_enterTunnels, MulticastVNIDGroup.tunnels, ← AList.mem_keys]
    | none =>
      have entered (keys : List IPValue) (list : Dict TunnelId Unit) :
          tunnel ∈ keys.foldl (fun list ipValue => enterTunnels list
            ((vnidGroup.senderIphash.lookup ipValue).getD ∅ : Dict TunnelId Unit).keys) list ↔
          tunnel ∈ list ∨ ∃ ipValue ∈ keys, tunnel ∈ vnidGroup.tunnels true (some ipValue) := by
        induction keys generalizing list with
        | nil => simp
        | cons ipValue keys ih =>
          rw [List.foldl_cons, ih, mem_enterTunnels, ← AList.mem_keys, List.exists_mem_cons_iff]
          exact (or_congr_left or_comm).trans or_assoc
      simp [entered, ← AList.mem_keys]

end MulticastGroup

namespace Collection

theorem mem_enterPrimaryIps (s : Collection) (tunnels : List TunnelId)
    (state : Dict IPValue Unit × Dict IPValue Unit) (value : IPValue) :
    (value ∈ (s.enterPrimaryIps state tunnels).1 ∨ value ∈ (s.enterPrimaryIps state tunnels).2) ↔
      (value ∈ state.1 ∨ value ∈ state.2) ∨
        ∃ tunnel ∈ tunnels, (s.primaryIp tunnel).ipValue = value := by
  unfold enterPrimaryIps
  induction tunnels generalizing state with
  | nil => simp
  | cons tunnel tunnels ih =>
    rw [List.foldl_cons, ih]
    cases family : (s.primaryIp tunnel).inetType <;>
      simp only [family, AList.mem_insert, List.exists_mem_cons_iff, eq_comm (a := value)] <;> tauto

section
variable (s : Collection) (dvg : DvgId) (mac : Mac) (address : Option IPValue) (globalScope : Bool)

/-- The groups that a query asks, each with the source it asks for. -/
def queried : List (MulticastGroup × Option IPValue) :=
  (if globalScope then [((s.multicastOf dvg).globalScope, none)] else []) ++
    [((s.multicastOf dvg).all, address), ((s.multicastOf dvg).groupAt (.mac mac), address)]

/-- The primary address of a tunnel that a group which is asked has in a VNID. -/
def Primary (has : MulticastGroup → Nat → Option IPValue → TunnelId → Prop) (vnid : Nat)
    (ipValue : IPValue) : Prop :=
  ∃ group asked, (group, asked) ∈ s.queried dvg mac address globalScope ∧
    ∃ tunnel, has group vnid asked tunnel ∧ (s.primaryIp tunnel).ipValue = ipValue

/-- The list for a sender is complete and permitted: for a VNID it has the tunnels that receive
there what is asked, if the sender's VNID may send to that VNID or the scope is global. -/
def ListsReceivers : Prop :=
  ∀ vnid ipValue, s.Listed dvg mac address globalScope vnid ipValue ↔
    (globalScope = true ∨ vnid ∈ s.policyAllowedVnids dvg .source .multicast) ∧
    ∃ dvgRecv, (s.domain (s.dvg dvg).domain).dvgHash.lookup vnid = some dvgRecv ∧
      s.Primary dvg mac address globalScope MulticastGroup.Receives (s.dvg dvgRecv).uniqueId ipValue

/-- In the VNIDs that are read, and in the groups that are asked for any source, a tunnel that sends
for a source which somebody receives shares its primary address with a receiver, and one that
receives some source shares it with a tunnel on the list. -/
def SourcesAgree : Prop :=
  ∀ vnid ∈ s.receiverVnids dvg globalScope,
    ∀ dvgRecv, (s.domain (s.dvg dvg).domain).dvgHash.lookup vnid = some dvgRecv →
    ∀ group, (group, none) ∈ s.queried dvg mac address globalScope →
    ∀ vnidGroup, group.lookup (s.dvg dvgRecv).uniqueId = some vnidGroup → ∀ tunnel ipValue,
      (ipValue ∈ vnidGroup.receiverIphash → tunnel ∈ vnidGroup.tunnels true (some ipValue) →
        s.Primary dvg mac address globalScope MulticastGroup.Receives (s.dvg dvgRecv).uniqueId
          (s.primaryIp tunnel).ipValue) ∧
      (tunnel ∈ vnidGroup.tunnels false (some ipValue) →
        s.Primary dvg mac address globalScope MulticastGroup.Lists (s.dvg dvgRecv).uniqueId
          (s.primaryIp tunnel).ipValue)

theorem listed_iff (vnid : Nat) (ipValue : IPValue) :
    s.Listed dvg mac address globalScope vnid ipValue ↔ vnid ∈ s.receiverVnids dvg globalScope ∧
      ∃ dvgRecv, (s.domain (s.dvg dvg).domain).dvgHash.lookup vnid = some dvgRecv ∧
        s.Primary dvg mac address globalScope MulticastGroup.Lists (s.dvg dvgRecv).uniqueId
          ipValue := by
  rw [Listed, lookup_getReceiverList]
  cases (s.domain (s.dvg dvg).domain).dvgHash.lookup vnid with
  | none => simp
  | some dvgRecv =>
    have isGlobal (tunnel : TunnelId) :
        (tunnel ∈ if globalScope then
          (s.multicastOf dvg).globalScope.receiversGet (s.dvg dvgRecv).uniqueId none else ∅) ↔
        globalScope = true ∧
          (s.multicastOf dvg).globalScope.Lists (s.dvg dvgRecv).uniqueId none tunnel := by
      cases globalScope <;> simp [MulticastGroup.mem_receiversGet]
    simp only [Option.map_some, Option.ite_none_right_eq_some, Option.some.injEq,
      receiverTunnels, ← AList.mem_keys, mem_enterPrimaryIps, isGlobal,
      MulticastGroup.mem_receiversGet, AList.notMem_empty, false_or, and_assoc,
      exists_and_left, exists_eq_left', or_assoc, Primary, queried]
    cases globalScope <;> simp [or_and_right, exists_or]

/-- The list is right exactly if sources agree. -/
theorem receiver_list_is_complete_iff :
    s.ListsReceivers dvg mac address globalScope ↔ s.SourcesAgree dvg mac address globalScope := by
  have permitted (vnid : Nat) (dvgRecv : DvgId)
      (known : (s.domain (s.dvg dvg).domain).dvgHash.lookup vnid = some dvgRecv) :
      vnid ∈ s.receiverVnids dvg globalScope ↔
        globalScope = true ∨ vnid ∈ s.policyAllowedVnids dvg .source .multicast := by
    have present := (Dict.mem_iff_lookup _ _).mpr ⟨_, known⟩
    cases globalScope <;> simp [receiverVnids, ← AList.mem_keys, present]
  constructor
  · intro complete vnid read dvgRecv known group asked vnidGroup found tunnel source
    have same (ipValue : IPValue) :=
      (listed_iff s dvg mac address globalScope vnid ipValue).symm.trans (complete vnid ipValue)
    simp only [read, (permitted vnid dvgRecv known).mp read, known, Option.some.injEq, true_and,
      exists_eq_left'] at same
    exact ⟨fun received sends => (same _).mp
        ⟨group, none, asked, tunnel, ⟨_, found, .inr ⟨source, received, sends⟩⟩, rfl⟩,
      fun receives => (same _).mpr
        ⟨group, none, asked, tunnel, ⟨_, found, .inr ⟨source, .inl rfl, receives⟩⟩, rfl⟩⟩
  · intro agree vnid ipValue
    rw [listed_iff]
    constructor
    · rintro ⟨read, dvgRecv, known, group, asked, member, tunnel, ⟨vnidGroup, found, listed⟩, rfl⟩
      refine ⟨(permitted vnid dvgRecv known).mp read, dvgRecv, known, ?_⟩
      rcases listed with all | listed
      · exact ⟨group, asked, member, tunnel, ⟨_, found, .inl all⟩, rfl⟩
      · cases asked with
        | some source =>
          exact ⟨group, _, member, tunnel, ⟨_, found, .inr ⟨source, .inr rfl, listed⟩⟩, rfl⟩
        | none =>
          obtain ⟨source, received, sends⟩ := listed
          exact (agree vnid read dvgRecv known group member _ found tunnel source).1 received sends
    · rintro ⟨read, dvgRecv, known, group, asked, member, tunnel, ⟨vnidGroup, found, receives⟩, rfl⟩
      rw [← permitted vnid dvgRecv known] at read
      refine ⟨read, dvgRecv, known, ?_⟩
      rcases receives with all | ⟨source, rfl | rfl, receives⟩
      · exact ⟨group, asked, member, tunnel, ⟨_, found, .inl all⟩, rfl⟩
      · exact (agree vnid read dvgRecv known group member _ found tunnel source).2 receives
      · exact ⟨group, _, member, tunnel, ⟨_, found, .inr receives⟩, rfl⟩

end

/-- A switch receives from one source only. A query for any source looks for it among the senders
for that source, and there is none. -/
theorem specific_receiver_is_not_listed :
    ¬ ∀ s dvg mac address globalScope, ListsReceivers s dvg mac address globalScope := by
  intro complete
  have listed := (complete
    (twoVnidsWithMulticast (Multicast.create.receiverAdd 70 false false 9 (some (.v4 5)) 0)) 0 9
    none false 70 (.v4 101)).mpr ⟨.inr (by decide +kernel), 0, rfl, _, none, .tail _ (.head _), 0,
      ⟨_, rfl, .inr ⟨.v4 5, .inl rfl, by decide⟩⟩, by decide +kernel⟩
  revert listed
  decide +kernel

end Collection

/-! ## MAC addresses of groups -/

/-- `ipv4_mac_prefix_string`, as the fields between its colons. -/
def ipv4MacPrefixString : List (List Char) := ["01".toList, "00".toList, "5E".toList]

/-- `ipv6_mac_prefix_string`, as the fields between its colons. -/
def ipv6MacPrefixString : List (List Char) := ["33".toList, "33".toList]

/-- The value of a hexadecimal digit, in upper or lower case. -/
def hexDigit (digit : Char) : Option Nat :=
  if digit.isDigit then some (digit.toNat - 48)
  else if 'a' ≤ digit.toLower ∧ digit.toLower ≤ 'f' then some (digit.toLower.toNat - 87)
  else none

/-- One field in `mac_bytes`: a number of hexadecimal digits, which has to fit a byte. -/
def macByte (field : List Char) : Option Nat := do
  let byte ← field.foldlM (fun number digit => (hexDigit digit).map (number * 16 + ·)) 0
  if field = [] ∨ 255 < byte then none else some byte

/-- `mac_bytes`, on the fields between the colons. -/
def macBytes (fields : List (List Char)) : Option (List Nat) := fields.mapM macByte

/-- `MAC_from_IP`. The bytes of an IPv6 address are strings of one character, of which `%x` makes no
text but raises. -/
def macFromIP : IPValue → Option (List Nat)
  | .v4 value =>
    let hip := ntohl value
    if hip >>> 28 &&& 0xf ≠ 14 then none
    else macBytes (ipv4MacPrefixString ++
      [hip >>> 16 &&& 0x7f, hip >>> 8 &&& 0xff, hip &&& 0xff].map (Nat.toDigits 16))
  | .v6 _ => none

/-- `MAC_validate`. -/
def macValidate (mac : List Nat) : Bool :=
  (macBytes ipv4MacPrefixString).any (·.isPrefixOf mac) ||
    (macBytes ipv6MacPrefixString).any (·.isPrefixOf mac)

/-- An IPv6 address in ff00::/8. -/
def IPValue.IsMulticast6 : IPValue → Prop
  | .v4 _ => False
  | .v6 value => value.toNat / 256 ^ 15 = 0xff

/-- The mapping of the standards: an IPv4 address is mapped if it is in 224.0.0.0/4, and as far as
its low 23 bits; an IPv6 group is mapped to its last four bytes behind 33:33. -/
def FollowsStandards : IPValue → Prop
  | .v4 value =>
    ((macFromIP (.v4 value)).isSome ↔ 0xE0000000 ≤ ntohl value ∧ ntohl value ≤ 0xEFFFFFFF) ∧
    (∀ other, ∀ mac ∈ macFromIP (.v4 value), ∀ mac' ∈ macFromIP (.v4 other),
      mac = mac' ↔ ntohl value % 2 ^ 23 = ntohl other % 2 ^ 23) ∧
    ∀ mac ∈ macFromIP (.v4 value), macValidate mac
  | .v6 value => IPValue.IsMulticast6 (.v6 value) →
    let mac := 0x33 :: 0x33 :: (List.range 4).map fun place => value.toNat / 256 ^ (3 - place) % 256
    macFromIP (.v6 value) = some mac ∧ macValidate mac

/-- A byte that was written in hexadecimal is read back. -/
theorem macByte_toDigits : ∀ byte < 256, macByte (Nat.toDigits 16 byte) = some byte := by
  decide +kernel

theorem ntohl_lt (value : UInt32) : ntohl value < 2 ^ 32 := by
  simp only [ntohl, IPValue.octets, List.range, List.range.loop, List.map, List.foldl]
  omega

theorem macFromIP_v4 (value : UInt32) :
    macFromIP (.v4 value) = if ntohl value / 268435456 % 16 = 14 then
      some [0x01, 0x00, 0x5e, ntohl value / 65536 % 128, ntohl value / 256 % 256,
        ntohl value % 256] else none := by
  have bits := Nat.and_two_pow_sub_one_eq_mod
  have start : macBytes ipv4MacPrefixString = some [0x01, 0x00, 0x5e] := by decide +kernel
  have byte (number : Nat) : macByte (Nat.toDigits 16 (number % 256)) = some (number % 256) :=
    macByte_toDigits _ (Nat.mod_lt _ (by decide))
  have short : macByte (Nat.toDigits 16 (ntohl value / 65536 % 128)) = _ :=
    macByte_toDigits _ (by omega)
  unfold macBytes at start
  simp only [macFromIP, macBytes, Nat.shiftRight_eq_div_pow, bits _ 4, bits _ 7, bits _ 8,
    List.mapM_append, start, Nat.reducePow]
  simp [short, byte]

/-- The mapping follows the standards for every address but the IPv6 groups. -/
theorem mac_follows_standards_iff (value : IPValue) :
    FollowsStandards value ↔ ¬ value.IsMulticast6 := by
  cases value with
  | v6 value => simp [FollowsStandards, macFromIP, IPValue.IsMulticast6]
  | v4 value =>
    refine iff_of_true ⟨?_, ?_, ?_⟩ id
    · have bounded := ntohl_lt value
      rw [macFromIP_v4]
      split <;> simp <;> omega
    · intro other mac mapped mac' mapped'
      rw [macFromIP_v4, Option.mem_def, Option.ite_none_right_eq_some] at mapped mapped'
      obtain ⟨⟨-, ⟨⟩⟩, -, ⟨⟩⟩ := And.intro mapped mapped'
      simp only [List.cons.injEq, true_and, and_true]
      omega
    · intro mac mapped
      rw [macFromIP_v4, Option.mem_def, Option.ite_none_right_eq_some] at mapped
      obtain ⟨-, ⟨⟩⟩ := mapped
      rfl

/-- The group of all nodes on the link, ff02::1, gets no MAC address. -/
theorem ipv6_group_has_no_mac : ¬ ∀ value, FollowsStandards value := by
  intro follows
  have mapped := (follows (.v6 0xff020000000000000000000000000001#128) rfl).1
  cases mapped

end OpenDove
