import OpenDove.MulticastSnapshot

/-!
# Removing a tunnel from multicast

When a tunnel leaves a VNID its multicast registrations there are removed. The registrations are
nested in four dictionaries, and each level drops what became empty below it: a set of tunnels, an
address, a VNID. The last level does not: a MAC stays with a group that has no VNID left, although
the removal of a single sender or receiver drops it. And the group of the global scope is not
visited at all.
-/

namespace OpenDove

variable {tunnel : TunnelId} {tunnels : Dict TunnelId Unit} {vnid : Nat}
  {group : MulticastVNIDGroup} {r : MulticastRegistration} {multicast : Multicast}

namespace MulticastVNIDGroup

/-- What is left of the tunnels of an address when one is removed. -/
def withoutTunnel (tunnel : TunnelId) (tunnels : Dict TunnelId Unit) :
    Option (Dict TunnelId Unit) :=
  if tunnel ∈ tunnels then
    if Dict.size (tunnels.erase tunnel) = 0 then none else some (tunnels.erase tunnel)
  else some tunnels

theorem lookup_iphashDelete (iphash : Dict IPValue (Dict TunnelId Unit)) (tunnel : TunnelId)
    (ipValue : IPValue) :
    (iphashDelete iphash tunnel).lookup ipValue
      = (iphash.lookup ipValue).bind (withoutTunnel tunnel) := by
  refine Dict.lookup_foldl_keys id (fun table key other => ?_) iphash ipValue
  unfold withoutTunnel
  by_cases same : other = key
  · subst same
    cases known : table.lookup other with
    | none => simp [known]
    | some tunnels =>
      by_cases present : tunnel ∈ tunnels
      · by_cases last : Dict.size (tunnels.erase tunnel) = 0 <;> simp [present, last, known]
      · simp [present, known]
  · cases table.lookup key with
    | none => simp [same]
    | some tunnels =>
      by_cases present : tunnel ∈ tunnels
      · by_cases last : Dict.size (tunnels.erase tunnel) = 0 <;> simp [present, last, same]
      · simp [present, same]

/-- The tunnels that stay are those before but for the removed one. -/
theorem mem_withoutTunnel {other : TunnelId} :
    other ∈ ((withoutTunnel tunnel tunnels).getD ∅ : Dict TunnelId Unit) ↔
      other ≠ tunnel ∧ other ∈ tunnels := by
  unfold withoutTunnel
  by_cases present : tunnel ∈ tunnels
  · rw [if_pos present, ← AList.mem_erase]
    by_cases last : Dict.size (tunnels.erase tunnel) = 0
    · simp [Dict.size_eq_zero.mp last]
    · simp [last]
  · rw [if_neg present]
    refine ⟨fun member => ⟨fun same => present (same ▸ member), member⟩, fun member => member.2⟩

theorem mem_tunnels_tunnelDelete (group : MulticastVNIDGroup) (tunnel other : TunnelId)
    (fsender : Bool) (address : Option IPValue) :
    other ∈ (group.tunnelDelete tunnel).tunnels fsender address ↔
      other ≠ tunnel ∧ other ∈ group.tunnels fsender address := by
  cases address with
  | none => cases fsender <;> exact AList.mem_erase
  | some ipValue =>
    have addressed (iphash : Dict IPValue (Dict TunnelId Unit)) :
        other ∈ (((iphashDelete iphash tunnel).lookup ipValue).getD ∅ : Dict TunnelId Unit) ↔
          other ≠ tunnel ∧ other ∈ ((iphash.lookup ipValue).getD ∅ : Dict TunnelId Unit) := by
      rw [lookup_iphashDelete]
      cases iphash.lookup ipValue with
      | none => simp
      | some tunnels => exact mem_withoutTunnel
    cases fsender <;> exact addressed _

theorem empty_iff : group.empty = true ↔
    group.receiverAll = ∅ ∧ group.receiverIphash = ∅ ∧ group.senderAll = ∅ ∧
      group.senderIphash = ∅ := by
  unfold empty
  rw [decide_eq_true_iff]
  simp only [Nat.add_eq_zero_iff, Dict.size_eq_zero, and_assoc]

/-- An empty group has no tunnels. -/
theorem notMem_tunnels_of_empty (empty : group.empty = true) (fsender : Bool)
    (address : Option IPValue) (tunnel : TunnelId) : tunnel ∉ group.tunnels fsender address := by
  obtain ⟨receiverAll, receiverIphash, senderAll, senderIphash⟩ := empty_iff.mp empty
  cases address <;> cases fsender <;>
    simp [tunnels, receiverAll, receiverIphash, senderAll, senderIphash]

/-- A group that has more than the registrations of one tunnel. -/
def Outlasts (group : MulticastVNIDGroup) (tunnel : TunnelId) : Prop :=
  (∃ other, other ≠ tunnel ∧ (other ∈ group.receiverAll ∨ other ∈ group.senderAll)) ∨
    ∃ ipValue tunnels, (group.receiverIphash.lookup ipValue = some tunnels ∨
        group.senderIphash.lookup ipValue = some tunnels) ∧
      (tunnel ∈ tunnels → ∃ other, other ≠ tunnel ∧ other ∈ tunnels)

theorem erase_eq_empty : tunnels.erase tunnel = ∅ ↔ ∀ other, other ≠ tunnel → other ∉ tunnels := by
  rw [Dict.eq_empty_iff_lookup]
  refine forall_congr' fun other => ?_
  rw [AList.lookup_eq_none, AList.mem_erase, not_and]

theorem withoutTunnel_eq_none :
    withoutTunnel tunnel tunnels = none ↔
      tunnel ∈ tunnels ∧ ∀ other, other ≠ tunnel → other ∉ tunnels := by
  unfold withoutTunnel
  by_cases present : tunnel ∈ tunnels
  · by_cases last : Dict.size (tunnels.erase tunnel) = 0
    · simpa [present, last] using erase_eq_empty.mp (Dict.size_eq_zero.mp last)
    · have more := mt erase_eq_empty.mpr (mt Dict.size_eq_zero.mpr last)
      simpa [present, last] using more
  · simp [present]

theorem iphashDelete_eq_empty {iphash : Dict IPValue (Dict TunnelId Unit)} :
    iphashDelete iphash tunnel = ∅ ↔ ∀ ipValue tunnels, iphash.lookup ipValue = some tunnels →
      tunnel ∈ tunnels ∧ ∀ other, other ≠ tunnel → other ∉ tunnels := by
  rw [Dict.eq_empty_iff_lookup]
  refine forall_congr' fun ipValue => ?_
  rw [lookup_iphashDelete, Option.bind_eq_none_iff]
  exact forall_congr' fun tunnels => imp_congr Iff.rfl withoutTunnel_eq_none

/-- Removing a tunnel leaves a group that is empty unless it had more. -/
theorem empty_tunnelDelete : (group.tunnelDelete tunnel).empty = false ↔ group.Outlasts tunnel := by
  rw [← Bool.not_eq_true, empty_iff]
  simp only [tunnelDelete, erase_eq_empty, iphashDelete_eq_empty]
  constructor
  · intro remains
    by_contra spent
    obtain ⟨direct, addressed⟩ := not_or.mp spent
    have only : ∀ ipValue tunnels, (group.receiverIphash.lookup ipValue = some tunnels ∨
        group.senderIphash.lookup ipValue = some tunnels) →
          tunnel ∈ tunnels ∧ ∀ other, other ≠ tunnel → other ∉ tunnels := by
      intro ipValue tunnels known
      by_contra more
      refine addressed ⟨ipValue, tunnels, known, fun present => ?_⟩
      by_contra alone
      exact more ⟨present, fun other different member => alone ⟨other, different, member⟩⟩
    exact remains ⟨fun other different member => direct ⟨other, different, Or.inl member⟩,
      fun ipValue tunnels known => only ipValue tunnels (Or.inl known),
      fun other different member => direct ⟨other, different, Or.inr member⟩,
      fun ipValue tunnels known => only ipValue tunnels (Or.inr known)⟩
  · rintro outlasts ⟨receiverAll, receiverIphash, senderAll, senderIphash⟩
    rcases outlasts with ⟨other, different, member | member⟩ | ⟨ipValue, tunnels, known, more⟩
    · exact receiverAll other different member
    · exact senderAll other different member
    · obtain ⟨present, alone⟩ := known.elim (receiverIphash ipValue tunnels)
        (senderIphash ipValue tunnels)
      obtain ⟨other, different, member⟩ := more present
      exact alone other different member

end MulticastVNIDGroup

namespace MulticastGroup

/-- A group that has more than the registrations of one tunnel of a VNID. -/
def Outlasts (group : MulticastGroup) (vnid : Nat) (tunnel : TunnelId) : Prop :=
  ∃ other vnidGroup, group.lookup other = some vnidGroup ∧
    (other = vnid → vnidGroup.Outlasts tunnel)

/-- What is left of the tunnels of a VNID when one is removed. -/
def withoutTunnel (tunnel : TunnelId) (vnidGroup : MulticastVNIDGroup) :
    Option MulticastVNIDGroup :=
  if (vnidGroup.tunnelDelete tunnel).empty then none else some (vnidGroup.tunnelDelete tunnel)

theorem lookup_tunnelDelete (group : MulticastGroup) (vnid : Nat) (tunnel : TunnelId)
    (other : Nat) : (group.tunnelDelete vnid tunnel).lookup other =
      if other = vnid then (group.lookup other).bind (withoutTunnel tunnel)
      else group.lookup other := by
  unfold tunnelDelete withoutTunnel
  by_cases same : other = vnid
  · subst same
    cases known : group.lookup other with
    | none => simp [known]
    | some vnidGroup => cases left : (vnidGroup.tunnelDelete tunnel).empty <;> simp [left]
  · cases group.lookup vnid with
    | none => simp [same]
    | some vnidGroup => cases left : (vnidGroup.tunnelDelete tunnel).empty <;> simp [left, same]

/-- A tunnel is registered in a group for a VNID. -/
def Has (group : MulticastGroup) (vnid : Nat) (fsender : Bool) (address : Option IPValue)
    (tunnel : TunnelId) : Prop :=
  ∃ vnidGroup, group.lookup vnid = some vnidGroup ∧ tunnel ∈ vnidGroup.tunnels fsender address

/-- Exactly the registrations of the tunnel for the VNID go. -/
theorem has_tunnelDelete {group : MulticastGroup} {other : Nat} {member : TunnelId}
    {fsender : Bool} {address : Option IPValue} :
    (group.tunnelDelete vnid tunnel).Has other fsender address member ↔
      (other ≠ vnid ∨ member ≠ tunnel) ∧ group.Has other fsender address member := by
  unfold Has
  rw [lookup_tunnelDelete]
  by_cases same : other = vnid
  · subst same
    rw [if_pos rfl]
    cases group.lookup other with
    | none => simp
    | some vnidGroup =>
      have left := vnidGroup.mem_tunnels_tunnelDelete tunnel member fsender address
      cases empty : (vnidGroup.tunnelDelete tunnel).empty with
      | true =>
        have nobody := MulticastVNIDGroup.notMem_tunnels_of_empty empty fsender address member
        simpa [withoutTunnel, empty, nobody] using left
      | false => simpa [withoutTunnel, empty] using left
  · simp [same]

/-- A group has a VNID left unless all it had was one tunnel of one VNID. -/
theorem tunnelDelete_ne_empty {group : MulticastGroup} :
    group.tunnelDelete vnid tunnel ≠ ∅ ↔ group.Outlasts vnid tunnel := by
  rw [Ne, Dict.eq_empty_iff_lookup, not_forall]
  refine exists_congr fun other => ?_
  rw [lookup_tunnelDelete]
  cases known : group.lookup other with
  | none => simp
  | some vnidGroup =>
    by_cases same : other = vnid
    · simp [same, withoutTunnel, ← MulticastVNIDGroup.empty_tunnelDelete]
    · simp [same]

end MulticastGroup

namespace Multicast

theorem registered_iff :
    multicast.Registered r ↔
      (multicast.groupAt r.scope).Has r.vnid r.fsender r.address r.tunnel :=
  Iff.rfl

/-- A tunnel is out of a VNID completely: it has no registration left there, every other
registration is as before, and no MAC is left with an empty group. -/
structure Removed (before after : Multicast) (vnid : Nat) (tunnel : TunnelId) : Prop where
  gone : ∀ r : MulticastRegistration, r.vnid = vnid → r.tunnel = tunnel → ¬ after.Registered r
  others : ∀ r : MulticastRegistration, r.vnid ≠ vnid ∨ r.tunnel ≠ tunnel →
    (after.Registered r ↔ before.Registered r)
  inhabited : ∀ mac group, after.macGroup.lookup mac = some group → Dict.size group ≠ 0

/-- Outside the global scope exactly the registrations of the tunnel for the VNID go, and inside
none. -/
theorem registered_tunnelDelete : (multicast.tunnelDelete vnid tunnel).Registered r ↔
      (r.scope = .globalScope ∨ r.vnid ≠ vnid ∨ r.tunnel ≠ tunnel) ∧ multicast.Registered r := by
  rw [registered_iff, registered_iff]
  obtain ⟨scope, rVnid, fsender, address, rTunnel⟩ := r
  cases scope with
  | globalScope => simp [groupAt, tunnelDelete]
  | all => simpa [groupAt, tunnelDelete] using MulticastGroup.has_tunnelDelete
  | mac mac =>
    simp only [groupAt, tunnelDelete, Dict.lookup_mapValues]
    cases multicast.macGroup.lookup mac with
    | none => simp [MulticastGroup.Has]
    | some group => simpa using MulticastGroup.has_tunnelDelete

/-- A tunnel is removed from a VNID completely exactly when it has no registration there in the
global scope and every MAC has more than its registrations there. -/
theorem tunnel_removed_iff (multicast : Multicast) (vnid : Nat) (tunnel : TunnelId) :
    Removed multicast (multicast.tunnelDelete vnid tunnel) vnid tunnel ↔
      (∀ fsender address, ¬ multicast.Registered
        { scope := .globalScope, vnid, fsender, address, tunnel }) ∧
      ∀ mac group, multicast.macGroup.lookup mac = some group →
        MulticastGroup.Outlasts group vnid tunnel := by
  constructor
  · rintro ⟨gone, -, inhabited⟩
    refine ⟨fun fsender address registered => ?_, fun mac group known => ?_⟩
    · exact gone { scope := .globalScope, vnid, fsender, address, tunnel } rfl rfl
        (registered_tunnelDelete.mpr ⟨Or.inl rfl, registered⟩)
    · have left := inhabited mac (MulticastGroup.tunnelDelete group vnid tunnel) (by
        simp only [tunnelDelete, Dict.lookup_mapValues, known, Option.map_some])
      exact MulticastGroup.tunnelDelete_ne_empty.mp (mt Dict.size_eq_zero.mpr left)
  · rintro ⟨notGlobal, outlasts⟩
    refine ⟨?_, ?_, ?_⟩
    · rintro ⟨scope, rVnid, fsender, address, rTunnel⟩ sameVnid sameTunnel registered
      cases sameVnid
      cases sameTunnel
      obtain ⟨isGlobal | different | different, before⟩ := registered_tunnelDelete.mp registered
      · cases isGlobal
        exact notGlobal fsender address before
      · exact different rfl
      · exact different rfl
    · intro r different
      rw [registered_tunnelDelete]
      exact and_iff_right (Or.inr different)
    · intro mac group known
      simp only [tunnelDelete, Dict.lookup_mapValues] at known
      obtain ⟨before, knownBefore, rfl⟩ := Option.map_eq_some_iff.mp known
      exact mt Dict.size_eq_zero.mp
        (MulticastGroup.tunnelDelete_ne_empty.mpr (outlasts mac before knownBefore))

/-- A receiver of the global scope stays a receiver when its tunnel is removed from the VNID. -/
theorem global_receiver_not_removed : ¬ ∀ (multicast : Multicast) (vnid : Nat) (tunnel : TunnelId),
    Removed multicast (multicast.tunnelDelete vnid tunnel) vnid tunnel := by
  intro removed
  have gone := (removed (create.receiverAdd 7 true false 0 none 3) 7 3).gone
    { scope := .globalScope, vnid := 7, fsender := false, address := none, tunnel := 3 } rfl rfl
  exact gone ⟨_, rfl, by decide⟩

end Multicast

end OpenDove
