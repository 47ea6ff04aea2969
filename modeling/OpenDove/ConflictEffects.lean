import OpenDove.ConflictDetection
import OpenDove.DirectoryFrames

/-!
# What conflict detection changes

The completion of a conflict gives one address to one endpoint and takes it from others. It
changes nothing but the sets of addresses and the maps from addresses to endpoints. The rest of
conflict detection changes nothing but the table of conflicts and the queue of domains.
-/

namespace OpenDove.Directory

namespace AddressesOnly

variable {start dir : Directory}

/-- What taking an address from one endpoint preserves, taking it from several preserves. -/
theorem vIPDelExcept_rule {I : Directory → Prop} (endpoints : List EndpointId)
    (kept : Option EndpointId) (vIP : VirtualIP) (initially : I dir)
    (round : ∀ mid e, AddressesOnly dir mid → I mid → e ∈ endpoints → I (mid.vIPDel e vIP)) :
    I (dir.vIPDelExcept endpoints kept vIP) := by
  refine (List.foldlRecOn (motive := fun mid => AddressesOnly dir mid ∧ I mid) endpoints _
    ⟨.refl dir, initially⟩ ?_).2
  rintro mid ⟨changed, held⟩ e member
  split
  · exact ⟨changed, held⟩
  · exact ⟨changed.vIPDel e vIP, round mid e changed held member⟩

variable (changed : AddressesOnly start dir)

include changed

theorem vIPDelExcept (endpoints : List EndpointId) (kept : Option EndpointId) (vIP : VirtualIP) :
    AddressesOnly start (dir.vIPDelExcept endpoints kept vIP) :=
  vIPDelExcept_rule endpoints kept vIP changed fun _ e _ changed _ => changed.vIPDel e vIP

theorem completeRegistered (conflict : ConflictDetectionvIP) :
    AddressesOnly start (dir.completeRegistered conflict) := by
  unfold Directory.completeRegistered
  split
  · exact changed
  · exact changed.vIPAdd ..
  · exact changed.vIPDelExcept ..

/-- Completing a conflict changes nothing but addresses. -/
theorem complete (conflict : ConflictDetectionvIP) :
    AddressesOnly start (dir.complete conflict) := by
  unfold Directory.complete
  cases conflict.winner with
  | none => exact (changed.completeRegistered conflict).vIPDelExcept ..
  | some winner => exact ((changed.completeRegistered conflict).vIPDelExcept ..).vIPAdd ..

end AddressesOnly

variable {value : IPValue} (dir : Directory) (domain : DomainId) (values : List IPValue)
  (vIPVal : IPValue)

/-- Taking an address from a list of endpoints takes it from those that are not spared, and takes
no other address. -/
theorem mem_vIPDelExcept (endpoints : List EndpointId) (kept : Option EndpointId)
    (vIP : VirtualIP) (other : EndpointId) (value : IPValue) :
    value ∈ ((dir.vIPDelExcept endpoints kept vIP).endpoint other).vIPSet ↔
      ¬ (value = vIP.ipValue ∧ other ∈ endpoints ∧ kept ≠ some other) ∧
        value ∈ (dir.endpoint other).vIPSet := by
  unfold vIPDelExcept
  induction endpoints generalizing dir with
  | nil => simp
  | cons endpoint endpoints ih =>
    rw [List.foldl_cons, ih]
    by_cases spared : kept = some endpoint
    · by_cases here : other = endpoint
      · subst here
        simp [spared]
      · simp [spared, here]
    · by_cases here : other = endpoint
      · subst here
        simp only [if_neg spared, mem_vIPDel]
        by_cases same : value = vIP.ipValue <;> simp [same, spared]
      · simp [spared, here]

/-- The conflicts that are pending after a deletion were pending before. -/
theorem delete_pending (self : EndpointId) (live : (dir.endpoint self).valid = true)
    {domain : DomainId} {conflict : ConflictDetectionvIP}
    (pending : ((dir.delete self).conflicts domain).lookup value = some conflict) :
    ∃ before, (dir.conflicts domain).lookup value = some before ∧
      conflict = if domain = (dir.endpoint self).domain then before.endpointDelete self
        else before := by
  obtain ⟨-, -, -, -, -, -, conflicts, -⟩ := delete_effect dir self live
  rw [conflicts] at pending
  split
  · next same =>
    rw [if_pos same, Dict.lookup_mapValues, Option.map_eq_some_iff] at pending
    obtain ⟨before, earlier, rfl⟩ := pending
    exact ⟨before, earlier, rfl⟩
  · next elsewhere =>
    rw [if_neg elsewhere] at pending
    exact ⟨conflict, pending, rfl⟩

/-! ## Tables of conflicts -/

/-- The pending conflicts are as they should be, and the domains that wait for a timeout are queued
under their numbers. -/
structure Pending (number : DomainId → Nat)
    (fits : DomainId → IPValue → ConflictDetectionvIP → Prop) (dir : Directory) : Prop where
  pending : ∀ {domain value conflict}, (dir.conflicts domain).lookup value = some conflict →
    fits domain value conflict
  queued : ∀ {domainId domain}, dir.conflictRequests.lookup domainId = some domain →
    number domain = domainId

namespace Pending

variable {number : DomainId → Nat} {fits fits' : DomainId → IPValue → ConflictDetectionvIP → Prop}
  {dir after : Directory} (held : Pending number fits dir) (domain : DomainId) (value : IPValue)

include held

theorem same (conflicts : after.conflicts = dir.conflicts)
    (requests : after.conflictRequests = dir.conflictRequests)
    (weaker : ∀ domain value conflict, fits domain value conflict → fits' domain value conflict) :
    Pending number fits' after where
  pending pending := weaker _ _ _ (held.pending (conflicts ▸ pending))
  queued waiting := held.queued (requests ▸ waiting)

theorem setConflicts (table : Dict IPValue ConflictDetectionvIP)
    (right : ∀ value conflict, table.lookup value = some conflict → fits domain value conflict) :
    Pending number fits (dir.setConflicts domain table) where
  pending {other key conflict} pending := by
    rw [setConflicts_conflicts] at pending
    split at pending
    · next same => exact same ▸ right key conflict pending
    · exact held.pending pending
  queued := held.queued

theorem erase :
    Pending number fits (dir.setConflicts domain ((dir.conflicts domain).erase value)) := by
  exact held.setConflicts domain _ fun _ _ pending => held.pending (Dict.lookup_of_erase pending)

theorem insert {conflict : ConflictDetectionvIP} (right : fits domain value conflict) :
    Pending number fits
      (dir.setConflicts domain ((dir.conflicts domain).insert value conflict)) := by
  refine held.setConflicts domain _ fun key conflict pending => ?_
  rw [Dict.lookup_insert] at pending
  split at pending
  · next same =>
    cases pending
    exact same ▸ right
  · exact held.pending pending

theorem queue : Pending number fits
    { dir with conflictRequests := dir.conflictRequests.insert (number domain) domain } where
  pending := held.pending
  queued {domainId other} waiting := by
    rw [Dict.lookup_insert] at waiting
    split at waiting
    · next same =>
      cases waiting
      exact same.symm
    · exact held.queued waiting

theorem dequeue (domainId : Nat) : Pending number fits
    { dir with conflictRequests := dir.conflictRequests.erase domainId } where
  pending := held.pending
  queued waiting := held.queued (Dict.lookup_of_erase waiting)

end Pending

/-! ## Claims -/

section Parties

variable (dir : Directory) (domain : DomainId) (domainId : Nat) (endpoint : EndpointId)
  (vIPVal : IPValue) (sendFails : Bool)

/-- A claim touches nothing but conflicts and their queue. -/
theorem endpointClaimVIP_frame :
    let after := (dir.endpointClaimVIP domain domainId endpoint vIPVal sendFails).1
    SameMaps dir after ∧ after.expirationQueue = dir.expirationQueue := by
  unfold endpointClaimVIP
  dsimp only
  split <;> split_ifs <;> simp

/-- What a claim that joins or opens its conflict and the queue of requests preserve,
`endpoint_claim_vIP` preserves. -/
theorem endpointClaimVIP_preserves {I : Directory → Prop}
    (initially : (dir.conflicts domain).lookup vIPVal = none → I dir)
    (claim : ∀ before, before = .create vIPVal ∨ (dir.conflicts domain).lookup vIPVal = some before →
      I (dir.setConflicts domain
        ((dir.conflicts domain).insert vIPVal (before.endpointClaim endpoint))))
    (queue : ∀ dir, I dir →
      I { dir with conflictRequests := dir.conflictRequests.insert domainId domain }) :
    I (dir.endpointClaimVIP domain domainId endpoint vIPVal sendFails).1 := by
  unfold endpointClaimVIP
  dsimp only
  split
  · next none =>
    have opened := claim _ (.inl rfl)
    split_ifs
    · exact initially none
    · exact opened
    · exact queue _ opened
  · next conflict pending =>
    have joined := claim conflict (.inr pending)
    split_ifs
    · exact joined
    · exact queue _ joined

/-- A registration completes no conflict over an address: it leaves a claim. -/
def Undecided (dir : Directory) (domain : DomainId) (self : EndpointId) (value : IPValue) : Prop :=
  ∀ conflict, (dir.conflicts domain).lookup value = some conflict →
    (conflict.endpointRegister self).endpointsClaim ≠ []

/-- A claim for another endpoint is not settled by a registration. -/
theorem undecided_endpointClaimVIP {self : EndpointId} (other : endpoint ≠ self) :
    (dir.endpointClaimVIP domain domainId endpoint vIPVal sendFails).1.Undecided domain self
      vIPVal := by
  refine endpointClaimVIP_preserves (I := (Undecided · domain self vIPVal)) dir domain domainId
    endpoint vIPVal sendFails (fun free conflict pending => ?_)
    (fun before _ conflict pending => ?_) fun _ kept => kept
  · rw [free] at pending
    cases pending
  · rw [setConflicts_conflicts, if_pos rfl, Dict.lookup_insert, if_pos rfl] at pending
    obtain rfl := Option.some.inj pending
    refine List.ne_nil_of_mem (a := endpoint) ?_
    simp [ConflictDetectionvIP.endpointRegister, ConflictDetectionvIP.endpointClaim, other]

end Parties

/-! ## Timeouts -/

section Timeouts

/-- A timeout of one conflict changes no attribute of an endpoint. -/
theorem conflictTimeout_core (endpoint : EndpointId) :
    ((dir.conflictTimeout domain vIPVal).endpoint endpoint).toEndpointCore =
      (dir.endpoint endpoint).toEndpointCore := by
  unfold conflictTimeout
  split
  · rfl
  · split
    · exact ((AddressesOnly.refl dir).complete _).core endpoint
    · rfl

/-- A timeout of one conflict leaves the others alone. -/
theorem conflictTimeout_conflicts {domain other : DomainId} {vIPVal : IPValue}
    (elsewhere : ¬ (other = domain ∧ value = vIPVal)) :
    ((dir.conflictTimeout domain vIPVal).conflicts other).lookup value =
      (dir.conflicts other).lookup value := by
  unfold conflictTimeout
  split
  · rfl
  · next conflict pending =>
    have completed := ((AddressesOnly.refl dir).complete conflict).conflicts
    by_cases same : other = domain
    · have distinct : value ≠ vIPVal := fun equal => elsewhere ⟨same, equal⟩
      subst same
      split <;> simp [completed, distinct]
    · split <;> simp [same, completed]

theorem conflictTimeout_requests :
    (dir.conflictTimeout domain vIPVal).conflictRequests = dir.conflictRequests := by
  unfold conflictTimeout
  split
  · rfl
  · split
    · exact ((AddressesOnly.refl dir).complete _).conflictRequests
    · rfl

variable {I : Directory → Prop}

/-- What every timeout of a conflict preserves, a pass over the conflicts of one domain preserves.
A conflict is reached before it is changed. -/
theorem foldl_conflictTimeout (distinct : values.Nodup) {start dir : Directory}
    (initially : I dir)
    (core : ∀ endpoint, (dir.endpoint endpoint).toEndpointCore =
      (start.endpoint endpoint).toEndpointCore)
    (waiting : ∀ value, value ∈ values → (dir.conflicts domain).lookup value =
      (start.conflicts domain).lookup value)
    (timeout : ∀ dir value, I dir → (∀ endpoint, (dir.endpoint endpoint).toEndpointCore =
        (start.endpoint endpoint).toEndpointCore) →
      (dir.conflicts domain).lookup value = (start.conflicts domain).lookup value →
      I (dir.conflictTimeout domain value)) :
    I (values.foldl (fun dir value => dir.conflictTimeout domain value) dir) := by
  induction values generalizing dir with
  | nil => exact initially
  | cons value values ih =>
    rw [List.nodup_cons] at distinct
    refine ih distinct.2
      (timeout dir value initially core (waiting value (by simp)))
      (fun endpoint => (conflictTimeout_core ..).trans (core endpoint)) fun later member => ?_
    have apart : later ≠ value := fun same => distinct.1 (same ▸ member)
    rw [conflictTimeout_conflicts dir fun same => apart same.2]
    exact waiting later (by simp [member])

/-- What a pass over the conflicts of a domain leaves alone. -/
theorem foldl_conflictTimeout_frame (dir : Directory) :
    let after := values.foldl (fun dir value => dir.conflictTimeout domain value) dir
    (∀ endpoint, (after.endpoint endpoint).toEndpointCore =
      (dir.endpoint endpoint).toEndpointCore) ∧
    (∀ other, other ≠ domain → ∀ value, (after.conflicts other).lookup value =
      (dir.conflicts other).lookup value) ∧
    after.conflictRequests = dir.conflictRequests := by
  induction values generalizing dir with
  | nil => exact ⟨fun _ => rfl, fun _ _ _ => rfl, rfl⟩
  | cons value values ih =>
    obtain ⟨core, conflicts, requests⟩ := ih (dir.conflictTimeout domain value)
    exact ⟨fun endpoint => (core endpoint).trans (conflictTimeout_core ..),
      fun other apart key => (conflicts other apart key).trans
        (conflictTimeout_conflicts dir fun same => apart same.1),
      requests.trans (conflictTimeout_requests ..)⟩

theorem processTimeout_frame (domainId : Nat) :
    let after := dir.processTimeout domain domainId
    (∀ endpoint, (after.endpoint endpoint).toEndpointCore =
      (dir.endpoint endpoint).toEndpointCore) ∧
    (∀ other, other ≠ domain → ∀ value, (after.conflicts other).lookup value =
      (dir.conflicts other).lookup value) ∧
    ∀ key, key ≠ domainId → after.conflictRequests.lookup key = dir.conflictRequests.lookup key := by
  obtain ⟨core, conflicts, requests⟩ :=
    foldl_conflictTimeout_frame domain (dir.conflicts domain).keys dir
  unfold processTimeout
  dsimp only
  split
  · refine ⟨core, conflicts, fun key apart => ?_⟩
    rw [Dict.lookup_insert, if_neg apart, requests]
  · exact ⟨core, conflicts, fun key _ => by rw [requests]⟩

/-- What every timeout of a conflict preserves, `Conflict_Detection_Timeout` preserves. The
domains in the request table are numbered, so that each is processed once. -/
theorem conflictDetectionTimeout_preserves (number : DomainId → Nat) (start : Directory)
    (numbered : ∀ domainId domain, start.conflictRequests.lookup domainId = some domain →
      number domain = domainId)
    (initially : I start)
    (timeout : ∀ dir domainId domain value, I dir →
      start.conflictRequests.lookup domainId = some domain →
      (∀ endpoint, (dir.endpoint endpoint).toEndpointCore =
        (start.endpoint endpoint).toEndpointCore) →
      (dir.conflicts domain).lookup value = (start.conflicts domain).lookup value →
      I (dir.conflictTimeout domain value))
    (dequeue : ∀ dir domainId, I dir →
      I { dir with conflictRequests := dir.conflictRequests.erase domainId })
    (enqueue : ∀ dir domain, I dir →
      I { dir with conflictRequests := dir.conflictRequests.insert (number domain) domain }) :
    I start.conflictDetectionTimeout := by
  have pass (body : Directory → Nat → Directory)
      (absent : ∀ dir domainId, dir.conflictRequests.lookup domainId = none → body dir domainId = dir)
      (present : ∀ dir domainId domain, dir.conflictRequests.lookup domainId = some domain →
        body dir domainId = { dir with
          conflictRequests := dir.conflictRequests.erase domainId }.processTimeout domain domainId)
      (domainIds : List Nat) (distinct : domainIds.Nodup) (dir : Directory) (held : I dir)
      (core : ∀ endpoint, (dir.endpoint endpoint).toEndpointCore =
        (start.endpoint endpoint).toEndpointCore)
      (waiting : ∀ domainId domain, domainId ∈ domainIds →
        dir.conflictRequests.lookup domainId = some domain →
        start.conflictRequests.lookup domainId = some domain ∧
        ∀ value, (dir.conflicts domain).lookup value = (start.conflicts domain).lookup value) :
      I (domainIds.foldl body dir) := by
    induction domainIds generalizing dir with
    | nil => exact held
    | cons domainId domainIds ih =>
      rw [List.nodup_cons] at distinct
      rw [List.foldl_cons]
      cases queued : dir.conflictRequests.lookup domainId with
      | none =>
        rw [absent dir domainId queued]
        exact ih distinct.2 dir held core fun other domain member =>
          waiting other domain (by simp [member])
      | some domain =>
        rw [present dir domainId domain queued]
        obtain ⟨first, untouched⟩ := waiting domainId domain (by simp) queued
        obtain rfl := numbered domainId domain first
        obtain ⟨core', conflicts, requests⟩ := processTimeout_frame
          { dir with conflictRequests := dir.conflictRequests.erase (number domain) } domain _
        refine ih distinct.2 _ ?_ (fun endpoint => (core' endpoint).trans
          (core endpoint)) fun other otherDomain member otherQueued => ?_
        · have passed := foldl_conflictTimeout domain (dir.conflicts domain).keys
            (dir.conflicts domain).nodupKeys (dequeue dir (number domain) held) core
            (fun value _ => untouched value) (timeout · _ domain · · first)
          dsimp only [processTimeout]
          split
          · exact enqueue _ _ passed
          · exact passed
        · have apart : other ≠ number domain := fun same => distinct.1 (same ▸ member)
          rw [requests other apart, Dict.lookup_erase, if_neg apart] at otherQueued
          obtain ⟨earlier, same⟩ := waiting other otherDomain (by simp [member]) otherQueued
          have different : otherDomain ≠ domain := by
            rintro rfl
            exact apart (numbered _ _ earlier).symm
          exact ⟨earlier, fun value => (conflicts otherDomain different value).trans (same value)⟩
  refine pass _ (fun dir domainId absent => ?_) (fun dir domainId domain present => ?_)
    _ start.conflictRequests.nodupKeys start initially (fun _ => rfl)
    fun _ _ _ queued => ⟨queued, fun _ => rfl⟩
  · simp only [absent]
  · simp only [present]

end Timeouts
end OpenDove.Directory
