import OpenDove.DirectoryEffects

/-!
# What the directory routines leave alone

Two relations between a directory and a later one. In the first, nothing but addresses and their
maps has changed; in the second, every endpoint is still what it was, wherever it has moved. Each
routine extends a chain of such changes, so that the relation of a longer routine is read off its
text.
-/

namespace OpenDove.Directory

/-! ## Addresses -/

/-- A directory changed in nothing but addresses and their maps. -/
structure AddressesOnly (before after : Directory) : Prop where
  core : ∀ endpoint, (after.endpoint endpoint).toEndpointCore =
    (before.endpoint endpoint).toEndpointCore
  domainMac : ∀ domain vMac, (after.domainTables domain).findMAC vMac =
    (before.domainTables domain).findMAC vMac
  dvgMac : ∀ dvg vMac, (after.dvgTables dvg).findMAC vMac = (before.dvgTables dvg).findMAC vMac
  nextEndpoint : after.nextEndpoint = before.nextEndpoint
  tunnelMAC : after.tunnelMAC = before.tunnelMAC
  conflicts : after.conflicts = before.conflicts
  conflictRequests : after.conflictRequests = before.conflictRequests
  expirationQueue : after.expirationQueue = before.expirationQueue
  endpointsCount : after.endpointsCount = before.endpointsCount

namespace AddressesOnly

variable {start dir after : Directory}

@[refl] theorem refl (dir : Directory) : AddressesOnly dir dir :=
  ⟨fun _ => rfl, fun _ _ => rfl, fun _ _ => rfl, rfl, rfl, rfl, rfl, rfl, rfl⟩

theorem trans (first : AddressesOnly start dir) (second : AddressesOnly dir after) :
    AddressesOnly start after where
  core endpoint := (second.core endpoint).trans (first.core endpoint)
  domainMac domain vMac := (second.domainMac domain vMac).trans (first.domainMac domain vMac)
  dvgMac dvg vMac := (second.dvgMac dvg vMac).trans (first.dvgMac dvg vMac)
  nextEndpoint := second.nextEndpoint.trans first.nextEndpoint
  tunnelMAC := second.tunnelMAC.trans first.tunnelMAC
  conflicts := second.conflicts.trans first.conflicts
  conflictRequests := second.conflictRequests.trans first.conflictRequests
  expirationQueue := second.expirationQueue.trans first.expirationQueue
  endpointsCount := second.endpointsCount.trans first.endpointsCount

variable (changed : AddressesOnly start dir)

include changed

theorem vIPAdd (self : EndpointId) (vIP : VirtualIP) : AddressesOnly start (dir.vIPAdd self vIP) := by
  obtain ⟨next, tunnels, conflicts, requests, queue, count⟩ := vIPAdd_frame dir self vIP
  refine changed.trans ⟨fun _ => vIPAdd_core .., fun domain vMac => ?_, fun dvg vMac => ?_, next,
    tunnels, conflicts, requests, queue, count⟩
  · rw [vIPAdd_domainTables]
    split <;> rfl
  · rw [vIPAdd_dvgTables]
    split <;> rfl

theorem vIPDel (self : EndpointId) (vIP : VirtualIP) : AddressesOnly start (dir.vIPDel self vIP) := by
  obtain ⟨next, tunnels, conflicts, requests, queue, count⟩ := vIPDel_frame dir self vIP
  refine changed.trans ⟨fun _ => vIPDel_core .., fun domain vMac => ?_, fun dvg vMac => ?_, next,
    tunnels, conflicts, requests, queue, count⟩
  · rw [vIPDel_domainTables]
    split <;> rfl
  · rw [vIPDel_dvgTables]
    split <;> rfl

end AddressesOnly

/-! ## Moves -/

/-- A directory in which every endpoint kept its identity: whether it is valid, its domain and its
MAC address. Conflicts are the same, too. -/
structure SameLives (before after : Directory) : Prop where
  valid : ∀ endpoint, (after.endpoint endpoint).valid = (before.endpoint endpoint).valid
  domain : ∀ endpoint, (after.endpoint endpoint).domain = (before.endpoint endpoint).domain
  vMac : ∀ endpoint, (after.endpoint endpoint).vMac = (before.endpoint endpoint).vMac
  macs : ∀ domain vMac, (after.domainTables domain).findMAC vMac =
    (before.domainTables domain).findMAC vMac
  nextEndpoint : after.nextEndpoint = before.nextEndpoint
  conflicts : after.conflicts = before.conflicts
  conflictRequests : after.conflictRequests = before.conflictRequests
  endpointsCount : after.endpointsCount = before.endpointsCount

namespace SameLives

variable {start dir after : Directory}

@[refl] theorem refl (dir : Directory) : SameLives dir dir :=
  ⟨fun _ => rfl, fun _ => rfl, fun _ => rfl, fun _ _ => rfl, rfl, rfl, rfl, rfl⟩

theorem trans (first : SameLives start dir) (second : SameLives dir after) :
    SameLives start after where
  valid endpoint := (second.valid endpoint).trans (first.valid endpoint)
  domain endpoint := (second.domain endpoint).trans (first.domain endpoint)
  vMac endpoint := (second.vMac endpoint).trans (first.vMac endpoint)
  macs domain vMac := (second.macs domain vMac).trans (first.macs domain vMac)
  nextEndpoint := second.nextEndpoint.trans first.nextEndpoint
  conflicts := second.conflicts.trans first.conflicts
  conflictRequests := second.conflictRequests.trans first.conflictRequests
  endpointsCount := second.endpointsCount.trans first.endpointsCount

theorem ofAddresses (changed : AddressesOnly start dir) : SameLives start dir where
  valid endpoint := by rw [changed.core]
  domain endpoint := by rw [changed.core]
  vMac endpoint := by rw [changed.core]
  macs := changed.domainMac
  nextEndpoint := changed.nextEndpoint
  conflicts := changed.conflicts
  conflictRequests := changed.conflictRequests
  endpointsCount := changed.endpointsCount

variable (same : SameLives start dir)

include same

variable (self : EndpointId) (dvg : DvgId) (vnid : Nat) (clientType : ClientType)
  (tunnel : TunnelId)

theorem modifyEndpoint (change : Endpoint → Endpoint)
    (valid : (change (dir.endpoint self)).valid = (dir.endpoint self).valid := by rfl)
    (domain : (change (dir.endpoint self)).domain = (dir.endpoint self).domain := by rfl)
    (vMac : (change (dir.endpoint self)).vMac = (dir.endpoint self).vMac := by rfl) :
    SameLives start (dir.modifyEndpoint self change) := by
  refine same.trans ⟨fun e => ?_, fun e => ?_, fun e => ?_, fun _ _ => rfl, rfl, rfl, rfl, rfl⟩
  all_goals
    rw [modifyEndpoint_endpoint]
    split
    · next here => subst here; assumption
    · rfl

theorem vIPAddOption (vIP : Option VirtualIP) :
    SameLives start (vIP.elim dir (dir.vIPAdd self)) := by
  cases vIP with
  | none => exact same
  | some vIP => exact same.trans (ofAddresses ((AddressesOnly.refl dir).vIPAdd self vIP))

theorem vmotion : SameLives start (dir.vmotion self dvg vnid clientType tunnel) := by
  obtain ⟨core, -, macs, -⟩ := vmotion_moved dir self dvg vnid clientType tunnel
  obtain ⟨next, conflicts, requests, -, count⟩ := vmotionArrive_frame
    (dir.tunnelEndpointDel (dir.endpoint self).tunnelEndpoint self) self dvg vnid clientType tunnel
  refine same.trans ⟨fun e => ?_, fun e => ?_, fun e => ?_, macs, next, conflicts, requests, count⟩
  all_goals
    rw [core]
    split
    · next here => rw [here]
    · rfl

theorem updateArrive : SameLives start (dir.updateArrive self dvg vnid clientType) := by
  obtain ⟨⟨core, -, macs, -⟩, -⟩ := updateArrive_effect dir self dvg vnid clientType
  obtain ⟨next, conflicts, requests, count⟩ := updateArrive_frame dir self dvg vnid clientType
  refine same.trans ⟨fun e => ?_, fun e => ?_, fun e => ?_, macs, next, conflicts, requests, count⟩
  all_goals
    rw [core]
    split
    · next here => rw [here]
    · rfl

/-- An update that announces an address deletes no endpoint. -/
theorem updateAdd (transactionType : TransactionType) (version : Nat)
    {operation : UpdateOperation} (vIP : Option VirtualIP)
    (adds : operation = .add ∨ operation = .vipAdd) :
    SameLives start
      (dir.update self dvg vnid clientType transactionType version operation vIP).1 := by
  have arrived := same.updateArrive self dvg vnid clientType
  dsimp only [Directory.update]
  split
  · exact arrived
  · obtain rfl | rfl := adds <;> exact (arrived.modifyEndpoint ..).vIPAddOption self vIP

end SameLives

/-- A directory in which every endpoint is where it was, with the addresses it had. -/
structure SamePlaces (before after : Directory) : Prop extends SameLives before after where
  dvg : ∀ endpoint, (after.endpoint endpoint).dvg = (before.endpoint endpoint).dvg
  vIPSet : ∀ endpoint, (after.endpoint endpoint).vIPSet = (before.endpoint endpoint).vIPSet
  domainTables : after.domainTables = before.domainTables
  dvgTables : after.dvgTables = before.dvgTables

theorem SamePlaces.modifyEndpoint (dir : Directory) (self : EndpointId)
    (change : Endpoint → Endpoint)
    (valid : (change (dir.endpoint self)).valid = (dir.endpoint self).valid := by rfl)
    (domain : (change (dir.endpoint self)).domain = (dir.endpoint self).domain := by rfl)
    (vMac : (change (dir.endpoint self)).vMac = (dir.endpoint self).vMac := by rfl)
    (dvg : (change (dir.endpoint self)).dvg = (dir.endpoint self).dvg := by rfl)
    (set : (change (dir.endpoint self)).vIPSet = (dir.endpoint self).vIPSet := by rfl) :
    SamePlaces dir (dir.modifyEndpoint self change) := by
  refine ⟨(SameLives.refl dir).modifyEndpoint self change valid domain vMac, fun e => ?_,
    fun e => ?_, rfl, rfl⟩
  all_goals
    rw [modifyEndpoint_endpoint]
    split
    · next here => subst here; assumption
    · rfl

/-- The lists of endpoints at tunnels and the expiration queue place no endpoint. -/
theorem SamePlaces.lists (dir : Directory) (tunnelMAC : TunnelId → Dict Mac EndpointId)
    (expirationQueue : Dict EndpointId Nat) :
    SamePlaces dir { dir with tunnelMAC, expirationQueue } :=
  ⟨⟨fun _ => rfl, fun _ => rfl, fun _ => rfl, fun _ _ => rfl, rfl, rfl, rfl, rfl⟩, fun _ => rfl,
    fun _ => rfl, rfl, rfl⟩

/-- What the parts of `Endpoint.update` preserve, all of it preserves. -/
theorem update_preserves {I : Directory → Prop} (dir : Directory) (self : EndpointId) (dvg : DvgId)
    (vnid : Nat) (clientType : ClientType) (transactionType : TransactionType) (version : Nat)
    (operation : UpdateOperation) (vIP : Option VirtualIP)
    (arrived : I (dir.updateArrive self dvg vnid clientType))
    (frame : ∀ {mid after}, I mid → SamePlaces mid after → I after)
    (add : ∀ mid vIP', SamePlaces (dir.updateArrive self dvg vnid clientType) mid → vIP' ∈ vIP →
      I (mid.vIPAdd self vIP'))
    (del : ∀ mid vIP', I mid → I (mid.vIPDel self vIP'))
    (delete : ∀ mid, I mid → I (mid.delete self)) :
    I (dir.update self dvg vnid clientType transactionType version operation vIP).1 := by
  dsimp only [update]
  split
  · exact arrived
  · next version _ =>
    have same := SamePlaces.modifyEndpoint (dir.updateArrive self dvg vnid clientType) self
      fun e => { e with version }
    generalize modifyEndpoint _ self _ = mid at same ⊢
    have versioned := frame arrived same
    have added : I (vIP.elim mid (mid.vIPAdd self)) := by
      cases vIP with
      | none => exact versioned
      | some vIP => exact add _ vIP same rfl
    cases operation with
    | add | vipAdd | migrateIn => exact added
    | delete | migrateOut =>
      have marked := frame added (.modifyEndpoint _ self fun e => { e with inMigration := true })
      dsimp only [updateFunction, updateDel]
      split
      · exact frame marked (.lists ..)
      · exact delete _ marked
    | vipDel =>
      cases vIP with
      | none => exact versioned
      | some vIP => exact del _ vIP versioned
    | unsupported code => exact versioned

end OpenDove.Directory
