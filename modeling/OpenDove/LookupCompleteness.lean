import OpenDove.EndpointEvents

/-!
# Held addresses can be found

An address that an endpoint holds is meant to have an entry in the maps of the endpoint's domain
and of its VNID. Entries are removed by key, without a look at the endpoint they lead to, so the
property rests on a stronger invariant: the entries lead to the endpoint itself, and no other
endpoint of the domain holds the address.

Every routine checks for another holder before it adds an address, except the completion of a
conflict. It takes the address from the endpoints that claimed or registered it, and the
invariant is kept if the endpoint in the map is one of them.
-/

namespace OpenDove

variable {conflict : ConflictDetectionvIP} {self endpoint other e one : EndpointId}
  {value : IPValue} {domain : DomainId} {vIP : VirtualIP} {request : EndpointUpdateRequest}
  {dir : Directory} {dvg : DvgId}

namespace ConflictDetectionvIP

/-- An endpoint takes part in a conflict. -/
def Involves (conflict : ConflictDetectionvIP) (endpoint : EndpointId) : Prop :=
  endpoint ∈ conflict.endpointsClaim ∨ endpoint ∈ conflict.endpointsRegistered ∨
    conflict.endpointOwner = some endpoint

/-- The completion of a conflict settles who holds the address for an endpoint: it takes part in the
conflict and loses the address, or it wins. -/
def Settles (conflict : ConflictDetectionvIP) (holder : EndpointId) : Prop :=
  holder ∈ conflict.endpointsClaim ∨ holder ∈ conflict.endpointsRegistered ∨
    conflict.winner = some holder

instance (conflict : ConflictDetectionvIP) (holder : EndpointId) :
    Decidable (conflict.Settles holder) :=
  inferInstanceAs (Decidable (_ ∨ _))

theorem involves_of_winner (wins : conflict.winner = some endpoint) :
    conflict.Involves endpoint := by
  unfold winner at wins
  split at wins
  · next single =>
    cases wins
    exact Or.inr (Or.inl (by simp [single]))
  · exact Or.inr (Or.inr wins)

theorem involves_of_endpointDelete (involved : (conflict.endpointDelete self).Involves endpoint) :
    conflict.Involves endpoint :=
  involved.imp List.mem_of_mem_filter (Or.imp_left List.mem_of_mem_filter)

theorem involves_of_endpointClaim (involved : (conflict.endpointClaim self).Involves endpoint) :
    endpoint = self ∨ conflict.Involves endpoint := by
  obtain claims | registered | owns := involved
  · exact (List.mem_insert_iff.mp claims).imp_right Or.inl
  · exact Or.inr (Or.inr (Or.inl registered))
  · exact Or.inl (Option.some.inj owns).symm

theorem involves_of_endpointRegister
    (involved : (conflict.endpointRegister self).Involves endpoint) :
    endpoint = self ∨ conflict.Involves endpoint := by
  obtain claims | registered | owns := involved
  · exact Or.inr (Or.inl (List.mem_of_mem_filter claims))
  · exact (List.mem_insert_iff.mp registered).imp_right fun earlier => Or.inr (Or.inl earlier)
  · exact Or.inr (Or.inr (Or.inr owns))

end ConflictDetectionvIP

namespace Directory

/-- The maps of an endpoint's domain and of its VNID lead from an address to the endpoint. -/
def Findable (dir : Directory) (endpoint : EndpointId) (value : IPValue) : Prop :=
  (dir.domainTables (dir.endpoint endpoint).domain).findIP value = some endpoint ∧
    (dir.dvgTables (dir.endpoint endpoint).dvg).findIP value = some endpoint

/-- An endpoint was created in a domain. -/
def Known (dir : Directory) (domain : DomainId) (endpoint : EndpointId) : Prop :=
  endpoint < dir.nextEndpoint ∧ (dir.endpoint endpoint).domain = domain

/-- The endpoints in the maps of a domain and in its conflicts were created in it, a VNID has
endpoints of its own domain only, and conflicts are stored under their addresses. -/
structure Placed (number : DomainId → Nat) (home : DvgId → DomainId) (dir : Directory) : Prop
    extends Pending number (fun domain value conflict => conflict.vIP.ipValue = value ∧
      ∀ endpoint, conflict.Involves endpoint → dir.Known domain endpoint) dir where
  dvg : ∀ {endpoint}, endpoint < dir.nextEndpoint →
    home (dir.endpoint endpoint).dvg = (dir.endpoint endpoint).domain
  fresh : ∀ {endpoint value}, value ∈ (dir.endpoint endpoint).vIPSet → endpoint < dir.nextEndpoint
  mac : ∀ {domain vMac endpoint}, (dir.domainTables domain).findMAC vMac = some endpoint →
    dir.Known domain endpoint
  ip : ∀ {domain value endpoint}, (dir.domainTables domain).findIP value = some endpoint →
    dir.Known domain endpoint

/-- A registration settles who holds the address when it completes a conflict over it. -/
def RegistrationSettles (dir : Directory) (domain : DomainId) (endpoint : EndpointId)
    (vIPVal : IPValue) : Prop :=
  ∀ conflict ∈ (dir.conflicts domain).lookup vIPVal,
    (conflict.endpointRegister endpoint).endpointsClaim = [] →
    ∀ holder ∈ (dir.domainTables domain).findIP vIPVal,
      (conflict.endpointRegister endpoint).Settles holder

/-- A timeout settles who holds the address of every conflict that it completes. -/
def TimeoutSettles (dir : Directory) : Prop :=
  ∀ domain ∈ dir.conflictRequests.values, ∀ conflict ∈ (dir.conflicts domain).values,
    conflict.retry = 0 → ∀ holder ∈ (dir.domainTables domain).findIP conflict.vIP.ipValue,
      conflict.Settles holder

instance (dir : Directory) (domain : DomainId) (endpoint : EndpointId) (vIPVal : IPValue) :
    Decidable (dir.RegistrationSettles domain endpoint vIPVal) :=
  inferInstanceAs (Decidable (∀ conflict ∈ _, _))

instance (dir : Directory) : Decidable dir.TimeoutSettles :=
  inferInstanceAs (Decidable (∀ domain ∈ _, _))

/-! ## Placement -/

theorem SameLives.known {after : Directory} (same : SameLives dir after)
    (known : dir.Known domain endpoint) : after.Known domain endpoint := by
  unfold Known
  rw [same.nextEndpoint, same.domain]
  exact known

namespace Placed

variable {number : DomainId → Nat} {home : DvgId → DomainId} {dir after : Directory}
  (placed : Placed number home dir)

include placed

/-- A step that deletes and creates nothing, if VNIDs and new entries are right. -/
theorem keep (same : SameLives dir after)
    (dvgs : ∀ e, e < dir.nextEndpoint → home (after.endpoint e).dvg = (dir.endpoint e).domain)
    (held : ∀ e value, value ∈ (after.endpoint e).vIPSet → e < dir.nextEndpoint)
    (ips : ∀ domain value e, (after.domainTables domain).findIP value = some e →
      dir.Known domain e) :
    Placed number home after where
  toPending := placed.toPending.same same.conflicts same.conflictRequests
    fun _ _ _ right => right.imp_right fun parties e involved => same.known (parties e involved)
  dvg old := by
    rw [same.domain]
    exact dvgs _ (same.nextEndpoint ▸ old)
  fresh holds := same.nextEndpoint ▸ held _ _ holds
  mac found := same.known (placed.mac (same.macs _ _ ▸ found))
  ip found := same.known (ips _ _ _ found)

theorem vIPAdd (self : EndpointId) (vIP : VirtualIP) (old : self < dir.nextEndpoint) :
    Placed number home (dir.vIPAdd self vIP) := by
  have changed := (AddressesOnly.refl dir).vIPAdd self vIP
  refine placed.keep (.ofAddresses changed) (fun e old => ?_) (fun e value holds => ?_)
    fun domain value e found => ?_
  · rw [changed.core]
    exact placed.dvg old
  · rw [vIPAdd_vIPSet] at holds
    split at holds
    · next same => exact same ▸ old
    · exact placed.fresh holds
  · rw [vIPAdd_domainIP] at found
    split at found
    · next here =>
      cases found
      exact ⟨old, here.1.symm⟩
    · exact placed.ip found

theorem vIPDel (self : EndpointId) (vIP : VirtualIP) :
    Placed number home (dir.vIPDel self vIP) := by
  have changed := (AddressesOnly.refl dir).vIPDel self vIP
  refine placed.keep (.ofAddresses changed) (fun e old => ?_) (fun e value holds => ?_)
    fun domain value e found => ?_
  · rw [changed.core]
    exact placed.dvg old
  · exact placed.fresh ((mem_vIPDel ..).mp holds).2
  · rw [vIPDel_domainIP] at found
    split at found
    · cases found
    · exact placed.ip found

/-- Two endpoints of one VNID are endpoints of one domain. -/
theorem sameDomain (old : one < dir.nextEndpoint) (old' : other < dir.nextEndpoint)
    (same : (dir.endpoint one).dvg = (dir.endpoint other).dvg) :
    (dir.endpoint one).domain = (dir.endpoint other).domain := by
  rw [← placed.dvg old, ← placed.dvg old', same]

end Placed

/-! ## Held addresses -/

/-- Every address that an endpoint holds leads to it. -/
structure Mapped (number : DomainId → Nat) (home : DvgId → DomainId) (dir : Directory) : Prop
    extends Placed number home dir where
  findable : ∀ {endpoint value}, value ∈ (dir.endpoint endpoint).vIPSet →
    dir.Findable endpoint value

/-- What happens while a conflict completes: only the contested address changes hands, and only in
the domain of the conflict. -/
structure Contested (number : DomainId → Nat) (home : DvgId → DomainId) (domain : DomainId)
    (contested : IPValue) (dir after : Directory) : Prop extends AddressesOnly dir after,
    Placed number home after where
  held : ∀ {endpoint value}, value ∈ (after.endpoint endpoint).vIPSet →
    ¬ ((dir.endpoint endpoint).domain = domain ∧ value = contested) →
    value ∈ (dir.endpoint endpoint).vIPSet
  domainIP : ∀ {other value}, ¬ (other = domain ∧ value = contested) →
    (after.domainTables other).findIP value = (dir.domainTables other).findIP value
  dvgIP : ∀ {other value}, ¬ (home other = domain ∧ value = contested) →
    (after.dvgTables other).findIP value = (dir.dvgTables other).findIP value

namespace Contested

variable {number : DomainId → Nat} {home : DvgId → DomainId} {dir after : Directory}
  {domain : DomainId} {vIP : VirtualIP}

section Steps

variable (held : Contested number home domain vIP.ipValue dir after) (self : EndpointId)
  (known : dir.Known domain self)

include held known

theorem current : after.Known domain self ∧ home (after.endpoint self).dvg = domain := by
  have current := (SameLives.ofAddresses held.toAddressesOnly).known known
  exact ⟨current, (held.dvg current.1).trans current.2⟩

theorem vIPAdd : Contested number home domain vIP.ipValue dir (after.vIPAdd self vIP) := by
  obtain ⟨⟨old, here⟩, there⟩ := held.current self known
  refine ⟨held.toAddressesOnly.vIPAdd self vIP, held.toPlaced.vIPAdd self vIP old,
    fun {e value} holds apart => ?_, fun apart => ?_, fun apart => ?_⟩
  · rw [vIPAdd_vIPSet] at holds
    split at holds
    · next itself =>
      subst itself
      exact held.held (((VIPSet.mem_add ..).mp holds).resolve_left
        fun same => apart ⟨known.2, same⟩) apart
    · exact held.held holds apart
  · rw [vIPAdd_domainIP, if_neg fun found => apart ⟨found.1.trans here, found.2⟩]
    exact held.domainIP apart
  · rw [vIPAdd_dvgIP, if_neg fun found => apart ⟨(congrArg home found.1).trans there, found.2⟩]
    exact held.dvgIP apart

theorem vIPDel : Contested number home domain vIP.ipValue dir (after.vIPDel self vIP) := by
  obtain ⟨⟨-, here⟩, there⟩ := held.current self known
  refine ⟨held.toAddressesOnly.vIPDel self vIP, held.toPlaced.vIPDel self vIP,
    fun holds => held.held ((mem_vIPDel ..).mp holds).2, fun apart => ?_, fun apart => ?_⟩
  · rw [vIPDel_domainIP, if_neg fun found => apart ⟨found.1.2.trans here, found.2⟩]
    exact held.domainIP apart
  · rw [vIPDel_dvgIP, if_neg fun found =>
      apart ⟨(congrArg home found.1.2).trans there, found.2⟩]
    exact held.dvgIP apart

end Steps

theorem vIPDelExcept (held : Contested number home domain vIP.ipValue dir after)
    (endpoints : List EndpointId) (kept : Option EndpointId)
    (parties : ∀ e ∈ endpoints, dir.Known domain e) :
    Contested number home domain vIP.ipValue dir (after.vIPDelExcept endpoints kept vIP) :=
  AddressesOnly.vIPDelExcept_rule endpoints kept vIP held fun _ e _ held member =>
    held.vIPDel e (parties e member)

/-- A completion between endpoints of the domain, up to the gift to the winner. -/
theorem taken (held : Contested number home domain conflict.vIP.ipValue dir dir)
    (parties : ∀ e, conflict.Involves e → dir.Known domain e) :
    Contested number home domain conflict.vIP.ipValue dir
      ((dir.completeRegistered conflict).vIPDelExcept conflict.endpointsClaim conflict.winner
        conflict.vIP) := by
  refine vIPDelExcept ?_ _ _ fun e claims => parties e (Or.inl claims)
  have registers (e : EndpointId) (member : e ∈ conflict.endpointsRegistered) :=
    parties e (Or.inr (Or.inl member))
  unfold Directory.completeRegistered
  split
  · exact held
  · next endpoint single => exact held.vIPAdd endpoint (registers endpoint (by simp [single]))
  · exact held.vIPDelExcept _ _ registers

theorem complete (held : Contested number home domain conflict.vIP.ipValue dir dir)
    (parties : ∀ e, conflict.Involves e → dir.Known domain e) :
    Contested number home domain conflict.vIP.ipValue dir (dir.complete conflict) := by
  have taken := held.taken parties
  unfold Directory.complete
  dsimp only
  cases chosen : conflict.winner with
  | none =>
    rw [chosen] at taken
    exact taken
  | some winner =>
    rw [chosen] at taken
    exact taken.vIPAdd winner (parties winner (ConflictDetectionvIP.involves_of_winner chosen))

end Contested

/-- An endpoint may get an address: the map of its domain leads to no other. -/
def Free (dir : Directory) (domain : DomainId) (self : EndpointId) (value : IPValue) : Prop :=
  ∀ holder, (dir.domainTables domain).findIP value = some holder → holder = self

namespace Free

variable {dir after : Directory} {domain : DomainId} {self : EndpointId} {value : IPValue}
  (free : dir.Free domain self value)

include free

/-- An address stays free while entries are only removed. -/
theorem shrinks {gone : DomainId → IPValue → Prop} [∀ domain value, Decidable (gone domain value)]
    (ips : ∀ domain value, (after.domainTables domain).findIP value =
      if gone domain value then none else (dir.domainTables domain).findIP value) :
    after.Free domain self value := by
  intro holder found
  rw [ips] at found
  split at found
  · cases found
  · exact free holder found

theorem vmotion (other : EndpointId) (dvg : DvgId) (vnid : Nat) (clientType : ClientType)
    (tunnel : TunnelId) : (dir.vmotion other dvg vnid clientType tunnel).Free domain self value := by
  exact free.shrinks (vmotion_moved ..).domainIPs

theorem updateArrive (other : EndpointId) (dvg : DvgId) (vnid : Nat) (clientType : ClientType) :
    (dir.updateArrive other dvg vnid clientType).Free domain self value := by
  exact free.shrinks (updateArrive_effect ..).1.domainIPs

theorem vIPAddOption (vIP : Option VirtualIP) :
    (vIP.elim dir (dir.vIPAdd self)).Free domain self value := by
  cases vIP with
  | none => exact free
  | some vIP =>
    intro holder found
    rw [Option.elim_some, vIPAdd_domainIP] at found
    split at found
    · exact (Option.some.inj found).symm
    · exact free holder found

/-- An update that announces an address adds no entry but for its own endpoint. -/
theorem updateAdd (dvg : DvgId) (vnid : Nat) (clientType : ClientType)
    (transactionType : TransactionType) (version : Nat) {operation : UpdateOperation}
    (vIP : Option VirtualIP) (adds : operation = .add ∨ operation = .vipAdd) :
    (dir.update self dvg vnid clientType transactionType version operation vIP).1.Free domain self
      value := by
  have arrived := free.updateArrive self dvg vnid clientType
  dsimp only [Directory.update]
  split
  · exact arrived
  · next version _ =>
    have written : ((dir.updateArrive self dvg vnid clientType).modifyEndpoint self fun e =>
      { e with version }).Free domain self value := arrived
    obtain rfl | rfl := adds <;> exact written.vIPAddOption vIP

end Free

namespace Mapped

variable {number : DomainId → Nat} {home : DvgId → DomainId} {dir after : Directory}
  (mapped : Mapped number home dir)

include mapped

/-- In one domain an address has one holder. -/
theorem unique (holds : value ∈ (dir.endpoint one).vIPSet)
    (holds' : value ∈ (dir.endpoint other).vIPSet)
    (same : (dir.endpoint one).domain = (dir.endpoint other).domain) : one = other := by
  have first := (mapped.findable holds).1
  have second := (mapped.findable holds').1
  rw [same, second] at first
  exact (Option.some.inj first).symm

theorem contested (domain : DomainId) (value : IPValue) :
    Contested number home domain value dir dir :=
  ⟨.refl dir, mapped.toPlaced, fun holds _ => holds, fun _ => rfl, fun _ => rfl⟩

/-- An address that is not contested is found as before. -/
theorem elsewhere (held : Contested number home domain value dir after) {e : EndpointId}
    {other : IPValue} (holds : other ∈ (after.endpoint e).vIPSet)
    (apart : ¬ ((dir.endpoint e).domain = domain ∧ other = value)) : after.Findable e other := by
  have before := held.held holds apart
  unfold Findable
  rw [held.core, held.domainIP apart, held.dvgIP (by rwa [mapped.dvg (mapped.fresh before)])]
  exact mapped.findable before

/-- The contested address is given to an endpoint, and no other endpoint of the domain holds it. -/
theorem settled (held : Contested number home domain vIP.ipValue dir after) (self : EndpointId)
    (known : dir.Known domain self)
    (alone : ∀ e, vIP.ipValue ∈ (after.endpoint e).vIPSet → (dir.endpoint e).domain = domain →
      e = self) : Mapped number home (after.vIPAdd self vIP) := by
  have given := held.vIPAdd self known
  refine ⟨given.toPlaced, fun {e value} holds => ?_⟩
  by_cases contested : (dir.endpoint e).domain = domain ∧ value = vIP.ipValue
  · obtain ⟨home, rfl⟩ := contested
    have itself : e = self := by
      by_contra other
      rw [vIPAdd_vIPSet, if_neg other] at holds
      exact other (alone e holds home)
    subst itself
    unfold Findable
    simp
  · exact mapped.elsewhere given holds contested

theorem vIPAdd (self : EndpointId) (vIP : VirtualIP) (old : self < dir.nextEndpoint)
    (free : dir.Free (dir.endpoint self).domain self vIP.ipValue) :
    Mapped number home (dir.vIPAdd self vIP) :=
  mapped.settled (mapped.contested _ _) self ⟨old, rfl⟩ fun e holds here =>
    free e (here ▸ (mapped.findable holds).1)

theorem vIPDel (self : EndpointId) (vIP : VirtualIP) :
    Mapped number home (dir.vIPDel self vIP) := by
  by_cases held : vIP.ipValue ∈ (dir.endpoint self).vIPSet
  · have given := (mapped.contested _ vIP.ipValue).vIPDel self ⟨mapped.fresh held, rfl⟩
    refine ⟨given.toPlaced, fun {e value} holds => mapped.elsewhere given holds ?_⟩
    rintro ⟨here, rfl⟩
    obtain ⟨stays, before⟩ := (mem_vIPDel ..).mp holds
    exact stays ⟨mapped.unique before held here, rfl⟩
  · have same : dir.vIPDel self vIP = dir := if_neg held
    rwa [same]

/-- A step that touches neither addresses nor maps nor VNIDs. -/
theorem frame (same : SamePlaces dir after) : Mapped number home after := by
  refine ⟨mapped.toPlaced.keep same.toSameLives (fun e old => ?_) (fun e value holds => ?_)
    fun domain value e found => ?_, fun {e value} holds => ?_⟩
  · rw [same.dvg]
    exact mapped.dvg old
  · exact mapped.fresh (same.vIPSet e ▸ holds)
  · exact mapped.ip (same.domainTables ▸ found)
  · unfold Findable
    rw [same.domain, same.dvg, same.domainTables, same.dvgTables]
    exact mapped.findable (same.vIPSet e ▸ holds)

/-- A move to another VNID of the domain gives up addresses together with their entries. -/
theorem moved {attributes : EndpointCore} (same : SameLives dir after)
    (arrives : home dvg = (dir.endpoint self).domain)
    (moved : dir.Moved self dvg attributes after) (new : attributes.dvg = dvg)
    (dvgIPs : ∀ other value, (after.dvgTables other).findIP value =
      if other = (dir.endpoint self).dvg ∧ (dir.endpoint self).dvg ≠ dvg ∧
        value ∈ (dir.endpoint self).vIPSet then none
      else (dir.dvgTables other).findIP value) : Mapped number home after := by
  obtain ⟨core, held, -, ips⟩ := moved
  have dvgs (e : EndpointId) :
      (after.endpoint e).dvg = if e = self then dvg else (dir.endpoint e).dvg := by
    rw [core, ← new]
    split <;> rfl
  refine ⟨mapped.toPlaced.keep same (fun e old => ?_) (fun e value holds => ?_)
    fun domain value e found => ?_, fun {e value} holds => ?_⟩
  · rw [dvgs]
    split
    · next here => exact here ▸ arrives
    · exact mapped.dvg old
  · exact mapped.fresh ((held _ _).mp holds).2
  · rw [ips] at found
    split at found
    · cases found
    · exact mapped.ip found
  · obtain ⟨remains, before⟩ := (held _ _).mp holds
    obtain ⟨domainEntry, dvgEntry⟩ := mapped.findable before
    have apart (leaves : (dir.endpoint self).dvg ≠ dvg)
        (taken : value ∈ (dir.endpoint self).vIPSet) :
        (dir.endpoint e).domain ≠ (dir.endpoint self).domain := fun here =>
      remains ⟨mapped.unique before taken here, leaves⟩
    unfold Findable
    rw [same.domain, ips, dvgs, dvgIPs]
    constructor
    · rw [if_neg fun gone => apart gone.2.1 gone.2.2 gone.1]
      exact domainEntry
    · split
      · next itself =>
        subst itself
        have stays : (dir.endpoint e).dvg = dvg :=
          not_not.mp fun leaves => remains ⟨rfl, leaves⟩
        rw [if_neg fun gone => gone.2.1 stays, ← stays]
        exact dvgEntry
      · rw [if_neg fun gone => apart gone.2.1 gone.2.2
          (mapped.toPlaced.sameDomain (mapped.fresh before) (mapped.fresh gone.2.2) gone.1)]
        exact dvgEntry

theorem vmotion (self : EndpointId) (dvg : DvgId) (vnid : Nat) (clientType : ClientType)
    (tunnel : TunnelId) (arrives : home dvg = (dir.endpoint self).domain) :
    Mapped number home (dir.vmotion self dvg vnid clientType tunnel) := by
  have dvgIPs := (vmotionArrive_effect
    (dir.tunnelEndpointDel (dir.endpoint self).tunnelEndpoint self) self dvg vnid clientType tunnel).2
  simp only [tunnelEndpointDel_frame] at dvgIPs
  refine mapped.moved ((SameLives.refl dir).vmotion ..) arrives (vmotion_moved ..) rfl
    fun other value => (dvgIPs other value).trans ?_
  -- an endpoint that stays in its VNID is entered again where it was
  by_cases here : other = (dir.endpoint self).dvg ∧ value ∈ (dir.endpoint self).vIPSet
  · obtain ⟨rfl, holds⟩ := here
    by_cases stays : (dir.endpoint self).dvg = dvg
    · simp [holds, stays, ← (mapped.findable holds).2]
    · simp [holds, stays]
  · rw [if_neg here, if_neg fun gone => here ⟨gone.1, gone.2.2⟩]

theorem updateArrive (self : EndpointId) (dvg : DvgId) (vnid : Nat) (clientType : ClientType)
    (arrives : home dvg = (dir.endpoint self).domain) :
    Mapped number home (dir.updateArrive self dvg vnid clientType) := by
  obtain ⟨moved, dvgIPs⟩ := updateArrive_effect dir self dvg vnid clientType
  refine mapped.moved ((SameLives.refl dir).updateArrive ..) arrives moved rfl
    fun other value => (dvgIPs other value).trans ?_
  simp only [and_left_comm]

theorem delete (self : EndpointId) : Mapped number home (dir.delete self) := by
  cases live : (dir.endpoint self).valid with
  | false => rwa [delete_of_dead dir self live]
  | true =>
    obtain ⟨-, held, macs, ips, dvgIPs, -, -, next, requests⟩ := delete_effect dir self live
    have core (e : EndpointId) : ((dir.delete self).endpoint e).domain = (dir.endpoint e).domain ∧
        ((dir.delete self).endpoint e).dvg = (dir.endpoint e).dvg := by
      rw [delete_core]
      exact ⟨rfl, rfl⟩
    have known {domain : DomainId} {e : EndpointId} (known : dir.Known domain e) :
        (dir.delete self).Known domain e := ⟨next ▸ known.1, (core e).1.trans known.2⟩
    refine ⟨⟨⟨?_, requests ▸ mapped.queued⟩, ?_, ?_, ?_, ?_⟩, ?_⟩
    · intro domain value conflict pending
      obtain ⟨before, earlier, rfl⟩ := delete_pending dir self live pending
      obtain ⟨keyed, parties⟩ := mapped.pending earlier
      split
      · exact ⟨keyed, fun e involved =>
          known (parties e (ConflictDetectionvIP.involves_of_endpointDelete involved))⟩
      · exact ⟨keyed, fun e involved => known (parties e involved)⟩
    · intro e old
      rw [(core e).1, (core e).2]
      exact mapped.dvg (next ▸ old)
    · intro e value holds
      rw [next]
      exact mapped.fresh ((held _ _).mp holds).2
    · intro domain vMac e found
      rw [macs] at found
      split at found
      · cases found
      · exact known (mapped.mac found)
    · intro domain value e found
      rw [ips] at found
      split at found
      · cases found
      · exact known (mapped.ip found)
    · intro e value holds
      obtain ⟨other, before⟩ := (held _ _).mp holds
      obtain ⟨domainEntry, dvgEntry⟩ := mapped.findable before
      have apart (taken : value ∈ (dir.endpoint self).vIPSet) :
          (dir.endpoint e).domain ≠ (dir.endpoint self).domain := fun here =>
        other (mapped.unique before taken here)
      unfold Findable
      rw [(core e).1, (core e).2, ips, dvgIPs, if_neg fun gone => apart gone.2 gone.1,
        if_neg fun gone => apart gone.2
          (mapped.toPlaced.sameDomain (mapped.fresh before) (mapped.fresh gone.2) gone.1)]
      exact ⟨domainEntry, dvgEntry⟩

theorem create {vnid : Nat} {clientType : ClientType} {tunnel : TunnelId} {vMac : Mac}
    {vIP : Option VirtualIP} {version : Nat}
    (created : dir.create domain dvg vnid clientType tunnel vMac vIP version = some after)
    (arrives : home dvg = domain)
    (free : ∀ value, vIP.map VirtualIP.ipValue = some value →
      (dir.domainTables domain).findIP value = none) : Mapped number home after := by
  obtain ⟨core, held, macs, ips, dvgIPs, next, conflicts, requests⟩ := create_effect dir created
  have earlier {e : EndpointId} (old : e < dir.nextEndpoint) :
      (after.endpoint e).toEndpointCore = (dir.endpoint e).toEndpointCore := by
    rw [core, if_neg (Nat.ne_of_lt old)]
  have grown {e : EndpointId} (old : e < dir.nextEndpoint) : e < after.nextEndpoint := by
    rw [next]
    exact Nat.lt_succ_of_lt old
  have new : dir.nextEndpoint < after.nextEndpoint := by
    rw [next]
    exact Nat.lt_succ_self _
  have known {domain : DomainId} {e : EndpointId} (known : dir.Known domain e) :
      after.Known domain e := ⟨grown known.1, by rw [earlier known.1, known.2]⟩
  have created : after.Known domain dir.nextEndpoint := ⟨new, by rw [core, if_pos rfl]⟩
  refine ⟨⟨mapped.toPending.same conflicts requests fun _ _ _ right =>
    right.imp_right fun parties e involved => known (parties e involved), ?_, ?_, ?_, ?_⟩, ?_⟩
  · intro e young
    rw [core]
    split
    · exact arrives
    · next other =>
      rw [next] at young
      exact mapped.dvg (Nat.lt_of_le_of_ne (Nat.le_of_lt_succ young) other)
  · intro e value holds
    have before := (held _ _).mp holds
    split at before
    · next itself => exact itself ▸ new
    · exact grown (mapped.fresh before)
  · intro other mac e found
    rw [macs] at found
    split at found
    · next here =>
      cases found
      exact here.1 ▸ created
    · exact known (mapped.mac found)
  · intro other value e found
    rw [ips] at found
    split at found
    · next here =>
      cases found
      exact here.1 ▸ created
    · exact known (mapped.ip found)
  · intro e value holds
    have before := (held _ _).mp holds
    unfold Findable
    split at before
    · next itself =>
      rw [core, if_pos itself, ips, dvgIPs, if_pos ⟨rfl, before⟩, if_pos ⟨rfl, before⟩, itself]
      exact ⟨rfl, rfl⟩
    · have old := mapped.fresh before
      obtain ⟨domainEntry, dvgEntry⟩ := mapped.findable before
      -- the new endpoint gets no address that another one holds
      have apart (taken : vIP.map VirtualIP.ipValue = some value) :
          (dir.endpoint e).domain ≠ domain := by
        intro here
        rw [here, free value taken] at domainEntry
        cases domainEntry
      rw [earlier old, ips, dvgIPs, if_neg fun gone => apart gone.2 gone.1,
        if_neg fun gone => apart gone.2 (by rw [← mapped.dvg old, gone.1, arrives])]
      exact ⟨domainEntry, dvgEntry⟩

theorem update (self : EndpointId) (vIP : Option VirtualIP) (old : self < dir.nextEndpoint)
    (free : ∀ vIP' ∈ vIP, dir.Free (dir.endpoint self).domain self vIP'.ipValue)
    (dvg : DvgId) (vnid : Nat) (clientType : ClientType)
    (transactionType : TransactionType) (version : Nat) (operation : UpdateOperation)
    (arrives : home dvg = (dir.endpoint self).domain) :
    Mapped number home
      (dir.update self dvg vnid clientType transactionType version operation vIP).1 := by
  have arrived := mapped.updateArrive self dvg vnid clientType arrives
  have lives := (SameLives.refl dir).updateArrive self dvg vnid clientType
  refine update_preserves dir self dvg vnid clientType transactionType version operation vIP arrived
    frame (fun mid vIP' same brought => ?_) (fun _ vIP mapped => mapped.vIPDel self vIP)
    fun _ mapped => mapped.delete self
  refine (arrived.frame same).vIPAdd self vIP' (by rwa [same.nextEndpoint, lives.nextEndpoint])
    fun holder found => ?_
  rw [same.domainTables, same.domain, lives.domain] at found
  exact (free vIP' brought).updateArrive self dvg vnid clientType holder found

end Mapped

/-! ## Conflicts -/

/-- After the first part of a completion, an endpoint that does not win holds the contested address
only if it held it before and is not registered. -/
theorem mem_completeRegistered
    (holds : conflict.vIP.ipValue ∈ ((dir.completeRegistered conflict).endpoint endpoint).vIPSet)
    (loses : conflict.winner ≠ some endpoint) :
    conflict.vIP.ipValue ∈ (dir.endpoint endpoint).vIPSet ∧
      endpoint ∉ conflict.endpointsRegistered := by
  unfold completeRegistered at holds
  unfold ConflictDetectionvIP.winner at loses
  split at holds
  · next none => exact ⟨holds, by simp [none]⟩
  · next other single =>
    have different : endpoint ≠ other := by
      rintro rfl
      simp [single] at loses
    rw [vIPAdd_vIPSet, if_neg different] at holds
    exact ⟨holds, by simp [single, different]⟩
  · next several single =>
    obtain ⟨stays, holds⟩ := (mem_vIPDelExcept ..).mp holds
    refine ⟨holds, fun registers => stays ⟨rfl, registers, ?_⟩⟩
    split at loses
    · next one => exact absurd one (single _)
    · exact loses

namespace Mapped

variable {number : DomainId → Nat} {home : DvgId → DomainId} {dir after : Directory}
  (mapped : Mapped number home dir)

include mapped

/-- Completing a conflict keeps every held address findable, if the endpoint that holds the
contested one takes part in it or wins it. -/
theorem complete (conflict : ConflictDetectionvIP)
    (parties : ∀ e, conflict.Involves e → dir.Known domain e)
    (settles : ∀ holder, (dir.domainTables domain).findIP conflict.vIP.ipValue = some holder →
      conflict.Settles holder) : Mapped number home (dir.complete conflict) := by
  have taken := (mapped.contested domain conflict.vIP.ipValue).taken parties
  -- whoever still holds the contested address has won it
  have holder {e : EndpointId}
      (holds : conflict.vIP.ipValue ∈ (((dir.completeRegistered conflict).vIPDelExcept
        conflict.endpointsClaim conflict.winner conflict.vIP).endpoint e).vIPSet)
      (here : (dir.endpoint e).domain = domain) : conflict.winner = some e := by
    obtain ⟨unclaimed, holds⟩ := (mem_vIPDelExcept ..).mp holds
    by_contra loses
    have notClaimed : e ∉ conflict.endpointsClaim := fun claims => unclaimed ⟨rfl, claims, loses⟩
    obtain ⟨held, notRegistered⟩ := mem_completeRegistered holds loses
    have found := (mapped.findable held).1
    rw [here] at found
    obtain claims | registers | wins := settles e found
    · exact notClaimed claims
    · exact notRegistered registers
    · exact loses wins
  unfold Directory.complete
  dsimp only
  cases chosen : conflict.winner with
  | none =>
    rw [chosen] at taken holder
    refine ⟨taken.toPlaced, fun {e value} holds => mapped.elsewhere taken holds ?_⟩
    rintro ⟨here, rfl⟩
    cases holder holds here
  | some winner =>
    rw [chosen] at taken holder
    exact mapped.settled taken winner
      (parties winner (ConflictDetectionvIP.involves_of_winner chosen)) fun e holds here =>
        (Option.some.inj (holder holds here)).symm

theorem eraseConflict (domain : DomainId) (value : IPValue) :
    Mapped number home (dir.setConflicts domain ((dir.conflicts domain).erase value)) :=
  ⟨⟨mapped.toPending.erase domain value, mapped.dvg, mapped.fresh, mapped.mac, mapped.ip⟩,
    mapped.findable⟩

theorem insertConflict (domain : DomainId) (value : IPValue) (conflict : ConflictDetectionvIP)
    (keyed : conflict.vIP.ipValue = value)
    (parties : ∀ e, conflict.Involves e → dir.Known domain e) :
    Mapped number home
      (dir.setConflicts domain ((dir.conflicts domain).insert value conflict)) :=
  ⟨⟨mapped.toPending.insert domain value ⟨keyed, parties⟩, mapped.dvg, mapped.fresh, mapped.mac,
    mapped.ip⟩, mapped.findable⟩

theorem queue (domain : DomainId) : Mapped number home
    { dir with conflictRequests := dir.conflictRequests.insert (number domain) domain } :=
  ⟨⟨mapped.toPending.queue domain, mapped.dvg, mapped.fresh, mapped.mac, mapped.ip⟩,
    mapped.findable⟩

theorem dequeue (domainId : Nat) :
    Mapped number home { dir with conflictRequests := dir.conflictRequests.erase domainId } :=
  ⟨⟨mapped.toPending.dequeue domainId, mapped.dvg, mapped.fresh, mapped.mac, mapped.ip⟩,
    mapped.findable⟩

theorem endpointClaimVIP (domain : DomainId) (endpoint : EndpointId) (vIPVal : IPValue)
    (sendFails : Bool) (known : dir.Known domain endpoint) :
    Mapped number home
      (dir.endpointClaimVIP domain (number domain) endpoint vIPVal sendFails).1 := by
  refine endpointClaimVIP_preserves _ _ _ _ _ _ (fun _ => mapped) (fun before origin => ?_)
    fun _ mapped => mapped.queue domain
  have keyed : before.vIP.ipValue = vIPVal := by
    obtain rfl | pending := origin
    · rfl
    · exact (mapped.pending pending).1
  refine mapped.insertConflict domain vIPVal _ keyed fun e involved => ?_
  obtain rfl | earlier := ConflictDetectionvIP.involves_of_endpointClaim involved
  · exact known
  · obtain rfl | pending := origin
    · simp [ConflictDetectionvIP.create, ConflictDetectionvIP.Involves] at earlier
    · exact (mapped.pending pending).2 e earlier

/-- A registration, if the holder of its address takes part in a conflict that it completes. -/
theorem endpointRegisterVIP (domain : DomainId) (endpoint : EndpointId) (vIPVal : IPValue)
    (known : dir.Known domain endpoint) (settles : dir.RegistrationSettles domain endpoint vIPVal) :
    Mapped number home (dir.endpointRegisterVIP domain endpoint vIPVal) := by
  unfold Directory.endpointRegisterVIP
  split
  · exact mapped
  · next conflict pending =>
    obtain ⟨keyed, parties⟩ := mapped.pending pending
    have parties (e : EndpointId) (involved : (conflict.endpointRegister endpoint).Involves e) :
        dir.Known domain e := by
      obtain rfl | earlier := ConflictDetectionvIP.involves_of_endpointRegister involved
      · exact known
      · exact parties e earlier
    dsimp only
    split
    · next settled =>
      refine (mapped.complete _ parties fun holder found => ?_).eraseConflict ..
      have same : (conflict.endpointRegister endpoint).vIP.ipValue = vIPVal := keyed
      rw [same] at found
      exact settles conflict pending settled holder found
    · exact mapped.insertConflict domain vIPVal _ keyed parties

/-- A timeout of one conflict, if the holder of its address takes part in it when it completes. -/
theorem conflictTimeout (domain : DomainId) (vIPVal : IPValue)
    (settles : ∀ conflict, (dir.conflicts domain).lookup vIPVal = some conflict →
      conflict.retry = 0 → ∀ holder, (dir.domainTables domain).findIP vIPVal = some holder →
        conflict.Settles holder) :
    Mapped number home (dir.conflictTimeout domain vIPVal) := by
  unfold Directory.conflictTimeout
  split
  · exact mapped
  · next conflict pending =>
    obtain ⟨keyed, parties⟩ := mapped.pending pending
    split
    · next timedOut =>
      refine (mapped.complete _ parties fun holder found => ?_).eraseConflict ..
      rw [keyed] at found
      exact settles conflict pending timedOut holder found
    · exact mapped.insertConflict domain vIPVal _ keyed parties

/-- The timeouts of all conflicts. A conflict is completed while the map still leads from its
address to the endpoint to which it led at first, since the conflicts that were completed
before are over other addresses or in other domains. -/
theorem conflictDetectionTimeout (settles : dir.TimeoutSettles) :
    Mapped number home dir.conflictDetectionTimeout := by
  let Untouched (mid : Directory) : Prop := ∀ domain value conflict,
    (mid.conflicts domain).lookup value = some conflict →
    (dir.conflicts domain).lookup value = some conflict →
    (mid.domainTables domain).findIP value = (dir.domainTables domain).findIP value
  refine (conflictDetectionTimeout_preserves (I := fun mid => Mapped number home mid ∧
    Untouched mid) number dir (fun _ _ => mapped.queued) ⟨mapped, fun _ _ _ _ _ => rfl⟩ ?_
    (fun _ domainId held => ⟨held.1.dequeue domainId, held.2⟩)
    (fun _ domain held => ⟨held.1.queue domain, held.2⟩)).1
  intro mid domainId domain value held waiting core same
  refine ⟨held.1.conflictTimeout domain value fun conflict pending timedOut holder found => ?_, ?_⟩
  · have earlier := same.symm.trans pending
    have listed := (Dict.mem_values ..).mpr ⟨value, earlier⟩
    refine settles domain ((Dict.mem_values ..).mpr ⟨domainId, waiting⟩) conflict listed timedOut
      holder ?_
    rw [(mapped.pending earlier).1, Option.mem_def, ← held.2 domain value conflict pending earlier]
    exact found
  · intro other key conflict' pending' earlier'
    by_cases apart : other = domain ∧ key = value
    · obtain ⟨rfl, rfl⟩ := apart
      unfold Directory.conflictTimeout at pending' ⊢
      cases pending : (mid.conflicts other).lookup key with
      | none => exact absurd (same.trans earlier') (by simp [pending])
      | some conflict =>
        simp only [pending] at pending' ⊢
        split at pending'
        · simp at pending'
        · next unfinished =>
          rw [if_neg unfinished]
          exact held.2 other key conflict pending (same.symm.trans pending)
    · rw [conflictTimeout_conflicts mid apart] at pending'
      rw [← held.2 other key conflict' pending' earlier']
      unfold Directory.conflictTimeout
      split
      · rfl
      · next conflict pending =>
        split
        · obtain ⟨keyed, parties⟩ := held.1.pending pending
          refine ((held.1.contested domain _).complete parties).domainIP ?_
          rwa [keyed]
        · rfl

end Mapped

/-! ### Deletions and updates -/

section Registration

variable {dir after : Directory} {domain : DomainId} {self : EndpointId} {value : IPValue}

theorem Undecided.same (undecided : dir.Undecided domain self value)
    (conflicts : after.conflicts = dir.conflicts) : after.Undecided domain self value :=
  fun conflict pending => undecided conflict (conflicts ▸ pending)

theorem RegistrationSettles.of_undecided (undecided : dir.Undecided domain self value) :
    dir.RegistrationSettles domain self value :=
  fun conflict pending settled => absurd settled (undecided conflict pending)

/-- A registration of a free address settles who holds it: nobody, or the one that registers. -/
theorem RegistrationSettles.of_free (free : dir.Free domain self value) :
    dir.RegistrationSettles domain self value := by
  intro conflict pending settled holder found
  obtain rfl := free holder found
  refine Or.inr (Or.inl ?_)
  simp [ConflictDetectionvIP.endpointRegister]

/-- If an update claims its address for nobody, then only its own endpoint holds it. -/
theorem holder_of_unclaimed {a : Announcement} (unclaimed : dir.claimant a = none)
    (typed : a.vIPVal.family = a.vIPFamily) {holder : EndpointId}
    (found : (dir.domainTables a.domain).findIP a.vIPVal = some holder) :
    dir.announced a = some holder := by
  by_contra different
  have held := (EndpointTables.lookup_endpointHashIP _ _ _ _).mpr ⟨typed, found⟩
  have claims : dir.claimant a = some holder :=
    Option.filter_eq_some_iff.mpr ⟨held, by simpa using different⟩
  rw [unclaimed] at claims
  cases claims

end Registration

namespace Mapped

variable {number : DomainId → Nat} {home : DvgId → DomainId} {dir after : Directory}
  (mapped : Mapped number home dir)

include mapped

theorem shrinks {new : TunnelId → Prop} (shrunk : Shrinks new dir after) :
    Mapped number home after :=
  shrunk.preserves (Mapped number home) (fun _ endpoint mapped => mapped.delete endpoint)
    (fun _ _ _ mapped => mapped.frame (.lists ..)) mapped

/-- An update of an endpoint of the domain of its VNID. If another endpoint holds the announced
address, then the update claims it for that endpoint, so that its registration leaves a claim. If
none does, then the announced address is free for the endpoint of the update. -/
theorem announce (a : Announcement) (own : number a.domain = a.domainId)
    (arrives : home a.dvg = a.domain) (typed : a.vIPVal ≠ .zero → a.vIPVal.family = a.vIPFamily) :
    Mapped number home (dir.announce a) := by
  let self := (dir.announced a).getD dir.nextEndpoint
  let Known (mid : Directory) : Prop := mid.Known a.domain self
  let Unclaimed (mid : Directory) : Prop := dir.claimant a = none ∧ (a.vIPVal ≠ .zero →
    mid.Free a.domain self a.vIPVal ∧
      (dir.announced a = none → (mid.domainTables a.domain).findIP a.vIPVal = none))
  let Claimed (mid : Directory) : Prop := dir.claimant a ≠ none ∧
    mid.Undecided a.domain self a.vIPVal
  have brought {vIP : VirtualIP} (brings : dir.announcedVIP a = some vIP) :
      a.vIPVal ≠ .zero ∧ dir.claimant a = none ∧ vIP.ipValue = a.vIPVal := by
    unfold announcedVIP at brings
    split at brings
    · next given =>
      cases brings
      exact ⟨given.1, given.2, rfl⟩
    · cases brings
  refine announce_steps
    (I := fun mid => Mapped number home mid ∧ (dir.announced a = some self → Known mid) ∧
      (Unclaimed mid ∨ Claimed mid))
    (K := fun mid => Mapped number home mid ∧ (a.registers → Known mid ∧
      (mid.Free a.domain self a.vIPVal ∨ mid.Undecided a.domain self a.vIPVal)))
    dir a (fun unclaimed => ⟨mapped, fun known => mapped.mac known, .inl ⟨unclaimed, ?_⟩⟩)
    ?_ ?_ ?_ ?_ ?_ ?_ ?_
  · intro nonzero
    have clear {holder : EndpointId}
        (found : (dir.domainTables a.domain).findIP a.vIPVal = some holder) :
        dir.announced a = some holder := holder_of_unclaimed unclaimed (typed nonzero) found
    refine ⟨fun holder found => ?_, fun unknown => ?_⟩
    · simp [self, clear found]
    · cases found : (dir.domainTables a.domain).findIP a.vIPVal with
      | none => rfl
      | some holder => exact absurd (clear found) (by simp [unknown])
  · intro claimant conflicts
    obtain ⟨held, different⟩ := Option.filter_eq_some_iff.mp conflicts
    obtain ⟨-, found⟩ := (EndpointTables.lookup_endpointHashIP ..).mp held
    have holder := mapped.ip found
    obtain ⟨⟨endpoints, next, -⟩, -⟩ := endpointClaimVIP_frame dir a.domain a.domainId claimant
      a.vIPVal a.raises
    refine ⟨own ▸ mapped.endpointClaimVIP a.domain claimant a.vIPVal a.raises holder,
      fun known => ?_, .inr ⟨by simp [conflicts], ?_⟩⟩
    · dsimp only [Known, Directory.Known]
      rw [endpoints, next]
      exact mapped.mac known
    · refine undecided_endpointClaimVIP dir a.domain a.domainId claimant a.vIPVal a.raises ?_
      cases known : dir.announced a with
      | none => simpa [self, known] using Nat.ne_of_lt holder.1
      | some endpoint =>
        rintro same
        simp [self, known, same] at different
  · intro claimed after held unknown next created
    obtain ⟨core, -, -, ips, -, next', conflicts, -⟩ := create_effect claimed created
    have new : self = claimed.nextEndpoint := by simp [self, unknown, next]
    refine ⟨held.1.create created arrives fun value brings => ?_, fun registers => ⟨?_, ?_⟩⟩
    · obtain ⟨vIP, given, rfl⟩ := Option.map_eq_some_iff.mp brings
      obtain ⟨nonzero, unclaimed, same⟩ := brought given
      obtain ⟨-, free⟩ | ⟨claimed, -⟩ := held.2.2
      · exact same ▸ (free nonzero).2 unknown
      · exact absurd unclaimed claimed
    · dsimp only [Known, Directory.Known]
      rw [core, if_pos new, next', new]
      exact ⟨Nat.lt_succ_self _, rfl⟩
    · obtain ⟨-, free⟩ | ⟨-, undecided⟩ := held.2.2
      · refine .inl fun holder found => ?_
        rw [ips] at found
        split at found
        · exact (Option.some.inj found).symm.trans new.symm
        · exact (free registers.1).1 holder found
      · exact .inr (undecided.same conflicts)
  · intro claimed endpoint held known hosted
    have itself : self = endpoint := by simp [self, known]
    have same := (SameLives.refl claimed).vmotion endpoint a.dvg a.vnid a.clientType a.tunnel
    have here := held.2.1 (itself ▸ known)
    refine ⟨held.1.vmotion _ _ _ _ _ (by rw [arrives, ← itself, here.2]),
      fun _ => same.known here, ?_⟩
    · obtain ⟨unclaimed, free⟩ | ⟨claimed, undecided⟩ := held.2.2
      · exact .inl ⟨unclaimed, fun nonzero => ⟨(free nonzero).1.vmotion _ _ _ _ _, by simp [known]⟩⟩
      · exact .inr ⟨claimed, undecided.same same.conflicts⟩
  · intro mid endpoint held known
    have itself : self = endpoint := by simp [self, known]
    have here := held.2.1 (itself ▸ known)
    rw [← itself]
    refine ⟨held.1.update _ _ here.1 (fun vIP brings => ?_) _ _ _ _ _ _ (by rw [arrives, here.2]),
      fun registers => ?_⟩
    · obtain ⟨nonzero, unclaimed, same⟩ := brought brings
      obtain ⟨-, free⟩ | ⟨claimed, -⟩ := held.2.2
      · rw [here.2, same]
        exact (free nonzero).1
      · exact absurd unclaimed claimed
    · have same := (SameLives.refl mid).updateAdd self a.dvg a.vnid a.clientType a.transactionType
        a.version (dir.announcedVIP a) registers.2
      refine ⟨same.known here, ?_⟩
      obtain ⟨-, free⟩ | ⟨-, undecided⟩ := held.2.2
      · exact .inl ((free registers.1).1.updateAdd _ _ _ _ _ _ registers.2)
      · exact .inr (undecided.same same.conflicts)
  · intro mid held registers
    obtain ⟨known, settles⟩ := held.2 registers
    refine held.1.endpointRegisterVIP a.domain self a.vIPVal known ?_
    exact settles.elim RegistrationSettles.of_free RegistrationSettles.of_undecided
  · exact fun mid held => held.1
  · exact fun mid held => held.1

end Mapped

end Directory

namespace Collection

/-- The condition on an event: if it completes a conflict, then the endpoint to which the map of the
domain leads from the address takes part in the conflict, or wins it. -/
def SettlesHolders (s : Collection) : EndpointEvent → Prop
  | .register domain vMac vIPVal =>
    ∀ endpoint ∈ (s.directory.domainTables domain).findMAC vMac,
      s.directory.RegistrationSettles domain endpoint vIPVal
  | .conflictTimeout => s.directory.TimeoutSettles
  | .update .. | .deleteEndpoint _ | .deleteTunnel _ | .expirationTimeout | .claim .. => True

instance (s : Collection) : (event : EndpointEvent) → Decidable (s.SettlesHolders event)
  | .register .. => inferInstanceAs (Decidable (∀ endpoint ∈ _, _))
  | .conflictTimeout => inferInstanceAs (Decidable (Directory.TimeoutSettles _))
  | .update .. | .deleteEndpoint _ | .deleteTunnel _ | .expirationTimeout | .claim .. =>
    inferInstanceAs (Decidable True)

/-- The VNIDs that a domain knows were created in it. -/
def OwnVnids (fixed : Statics) : Prop :=
  ∀ domain vnid dvg, (fixed.domainDvgs domain).lookup vnid = some dvg → fixed.dvgDomain dvg = domain

section Run

variable {keysOrder : KeysOrder} {s : Collection}

theorem vIPVal_family (nonzero : vIPVal request ≠ .zero) :
    (vIPVal request).family = request.vIP.family := by
  unfold vIPVal at nonzero ⊢
  cases packed : ipGetValFromPacked request.vIP with
  | none => simp [packed] at nonzero
  | some value =>
    obtain rfl := ipGetValFromPacked_some packed
    rfl

/-- An update keeps every held address findable, in a domain with VNIDs of its own. -/
theorem mapped_endpointUpdate {sendFails : Bool}
    (mapped : s.directory.Mapped s.statics.domainNumber s.statics.dvgDomain)
    (own : OwnVnids s.statics) :
    (endpointUpdate keysOrder s request sendFails).1.directory.Mapped s.statics.domainNumber
      s.statics.dvgDomain := by
  refine endpointUpdate_preserves keysOrder s request sendFails mapped
    (fun _ _ shrunk mapped => mapped.shrinks shrunk) fun mid target found grown mapped => ?_
  obtain ⟨-, dvgFound, -⟩ := updateLookup_ok found
  exact mapped.announce _ (congrFun grown.2.domainNumber target.domain).symm
    (own target.domain request.dvgId target.dvg dvgFound) vIPVal_family

/-- Every event that settles the holders of addresses keeps every held address findable. -/
theorem mapped_step {event : EndpointEvent}
    (mapped : s.directory.Mapped s.statics.domainNumber s.statics.dvgDomain)
    (own : OwnVnids s.statics) (settles : s.SettlesHolders event) :
    let after := endpointStep keysOrder s event
    after.directory.Mapped after.statics.domainNumber after.statics.dvgDomain ∧
      OwnVnids after.statics := by
  have fixed := endpointStep_statics keysOrder s event
  refine ⟨?_, fun domain vnid dvg known => ?_⟩
  · rw [fixed.domainNumber, fixed.dvgDomain]
    refine endpointStep_preserves keysOrder s mapped (fun shrunk mapped => mapped.shrinks shrunk)
      (fun _ _ mapped => mapped.frame (.lists ..)) ?_ ?_ ?_ ?_
    · rintro request sendFails rfl
      exact mapped_endpointUpdate mapped own
    · intro domain vIPVal endpoint fails found
      exact mapped.endpointClaimVIP domain endpoint vIPVal fails (mapped.ip found)
    · rintro domain vMac vIPVal endpoint rfl found
      exact mapped.endpointRegisterVIP domain endpoint vIPVal (mapped.mac found)
        (settles endpoint found)
    · rintro rfl
      exact mapped.conflictDetectionTimeout settles
  · rw [fixed.dvgDomain]
    rw [fixed.domainDvgs] at known
    exact own domain vnid dvg known

/-- A server without endpoints has no address to find. -/
theorem mapped_of_empty (empty : s.directory = .empty) :
    s.directory.Mapped s.statics.domainNumber s.statics.dvgDomain := by
  rw [empty]
  refine ⟨⟨⟨?_, ?_⟩, ?_, ?_, ?_, ?_⟩, ?_⟩ <;> simp [Directory.empty, Endpoint.unallocated]

/-- Every address that an endpoint holds can be looked up: in every state that a run reaches from a
server without endpoints, if its events settle the holders of addresses, the maps of the domain
and of the VNID of an endpoint lead from each of its addresses to the endpoint. -/
theorem held_addresses_are_found (keysOrder : KeysOrder) (start : Collection)
    (empty : start.directory = .empty) (own : OwnVnids start.statics) (events : List EndpointEvent)
    (settles : Admissible (endpointStep keysOrder) SettlesHolders start events)
    (reached : List EndpointEvent) (initial : reached <+: events) :
    let dir := (run (endpointStep keysOrder) start reached).directory
    ∀ endpoint value, value ∈ (dir.endpoint endpoint).vIPSet →
      ((dir.domainTables (dir.endpoint endpoint).domain).endpointHashIP value.family).lookup value =
        some endpoint ∧
      ((dir.dvgTables (dir.endpoint endpoint).dvg).endpointHashIP value.family).lookup value =
        some endpoint := by
  obtain ⟨rest, rfl⟩ := initial
  have held := run_invariant
    (fun s => s.directory.Mapped s.statics.domainNumber s.statics.dvgDomain ∧ OwnVnids s.statics)
    (fun _ _ held settles => mapped_step held.1 held.2 settles) ⟨mapped_of_empty empty, own⟩
    settles.of_append
  intro dir endpoint value holds
  exact held.1.findable holds

theorem twoSwitches_domainDvgs : (domain : DomainId) →
    twoSwitches.statics.domainDvgs domain = if domain = 0 then (∅ : Dict Nat DvgId).insert 70 0 else ∅
  | 0 => rfl
  | _ + 1 => rfl

theorem twoSwitches_ownVnids : OwnVnids twoSwitches.statics := by
  intro domain vnid dvg known
  have first : twoSwitches.statics.dvgDomain 0 = 0 := rfl
  rw [twoSwitches_domainDvgs] at known
  split at known
  · next here =>
    rw [Dict.lookup_insert] at known
    split at known
    · cases known
      rw [first, here]
    · cases known
  · cases known

/-- Two machines announce the address of a third one, and one of them leaves after their conflict has
completed. The third one is still found. -/
theorem held_addresses_are_found_twoSwitches :
    let events := [.update (machineUpdate 1 1 .add 10) false,
      .update (machineUpdate 2 2 .add 10) false, .update (machineUpdate 2 3 .add 10) false,
      .conflictTimeout, .conflictTimeout, .conflictTimeout, .deleteEndpoint 1]
    let dir := (run (endpointStep .listed) twoSwitches events).directory
    .v4 10 ∈ (dir.endpoint 0).vIPSet ∧
    ∀ endpoint value, value ∈ (dir.endpoint endpoint).vIPSet →
      ((dir.domainTables (dir.endpoint endpoint).domain).endpointHashIP value.family).lookup value =
        some endpoint ∧
      ((dir.dvgTables (dir.endpoint endpoint).dvg).endpointHashIP value.family).lookup value =
        some endpoint :=
  ⟨by decide +kernel,
    held_addresses_are_found .listed twoSwitches twoSwitches_directory twoSwitches_ownVnids _
      (by decide +kernel) _ (List.prefix_refl _)⟩

/-- Without the condition an address that an endpoint holds is not found. Machines 1 and 2 are in
conflict over it when machine 1 is deleted, and machine 3 gets it by a migration, which is not
registered. The third timeout gives it to machine 2 as well, whose deletion removes the
entries. -/
theorem held_address_is_lost :
    twoSwitches.directory = .empty ∧
    let dir := (run (endpointStep .listed) twoSwitches
      [.update (machineUpdate 1 1 .add 10) false, .update (machineUpdate 2 2 .add 10) false,
        .deleteEndpoint 0, .update (machineUpdate 1 3 .migrateIn 10) false,
        .conflictTimeout, .conflictTimeout, .conflictTimeout, .deleteEndpoint 1]).directory
    (dir.endpoint 2).valid = true ∧ .v4 10 ∈ (dir.endpoint 2).vIPSet ∧
      ((dir.domainTables (dir.endpoint 2).domain).endpointHashIP .inet).lookup (.v4 10) = none ∧
      ((dir.dvgTables (dir.endpoint 2).dvg).endpointHashIP .inet).lookup (.v4 10) = none :=
  ⟨twoSwitches_directory, by decide +kernel⟩

end Run

end Collection

end OpenDove
