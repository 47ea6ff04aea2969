import OpenDove.Configuration
import OpenDove.RequestLookup
import OpenDove.Runs
import OpenDove.UpdateRefinement

/-!
# The events that reach endpoints

The server as a state machine: the requests and timers that create, move, update and delete
endpoints or settle conflicts over their addresses. Claims and registrations are made for the
endpoint that the domain finds under the address or the MAC address, as the handlers do.
-/

namespace OpenDove

/-- An event that reaches endpoints. -/
inductive EndpointEvent
  /-- An `Endpoint_Update`, and whether the network refuses the address resolution it may send. -/
  | update (request : EndpointUpdateRequest) (sendFails : Bool)
  /-- `Endpoint.delete`. -/
  | deleteEndpoint (endpoint : EndpointId)
  /-- `TunnelEndpoint.delete`. -/
  | deleteTunnel (tunnel : TunnelId)
  /-- `Endpoint_Expiration_Timeout`. -/
  | expirationTimeout
  /-- `ConflictDetection.endpoint_claim_vIP` for the endpoint that has the address. -/
  | claim (domain : DomainId) (vIPVal : IPValue) (transactionType : TransactionType)
    (sendFails : Bool)
  /-- `ConflictDetection.endpoint_register_vIP` for the endpoint that has the MAC address. -/
  | register (domain : DomainId) (vMac : Mac) (vIPVal : IPValue)
  /-- `Conflict_Detection_Timeout`. -/
  | conflictTimeout

namespace Collection

/-- The state after an event. -/
def endpointStep (keysOrder : KeysOrder) (s : Collection) : EndpointEvent → Collection
  | .update request sendFails => (endpointUpdate keysOrder s request sendFails).1
  | .deleteEndpoint endpoint => s.endpointDelete endpoint
  | .deleteTunnel tunnel => s.tunnelDelete tunnel
  | .expirationTimeout => s.endpointExpirationTimeout
  | .claim domain vIPVal transactionType sendFails =>
    ((s.directory.domainTables domain).findIP vIPVal).elim s fun endpoint =>
      (s.claimVIP domain endpoint vIPVal transactionType sendFails).1
  | .register domain vMac vIPVal =>
    ((s.directory.domainTables domain).findMAC vMac).elim s fun endpoint =>
      s.onDirectory fun dir => dir.endpointRegisterVIP domain endpoint vIPVal
  | .conflictTimeout => s.onDirectory Directory.conflictDetectionTimeout

end Collection

/-! ## Expiration on the directory -/

namespace Directory

/-- One endpoint in `Endpoint_Expiration_Timeout`. -/
def expire (dir : Directory) (endpoint : EndpointId) : Directory :=
  match dir.expirationQueue.lookup endpoint with
  | none => dir
  | some 0 => { dir with expirationQueue := dir.expirationQueue.erase endpoint }.delete endpoint
  | some (timeout + 1) =>
    { dir with expirationQueue := dir.expirationQueue.insert endpoint timeout }

/-- The effect of `Endpoint_Expiration_Timeout` on the directory. -/
def expirationTimeout (dir : Directory) : Directory :=
  dir.expirationQueue.keys.foldl expire dir

end Directory

variable (keysOrder : KeysOrder) (s : Collection) (request : EndpointUpdateRequest)
  (sendFails : Bool)

namespace Collection

/-- The expiration timer acts on the directory as stated there. -/
theorem endpointExpirationTimeout_directory :
    s.endpointExpirationTimeout.directory = s.directory.expirationTimeout := by
  refine (List.foldl_hom directory fun s endpoint => ?_).symm
  unfold Directory.expire
  rcases s.directory.expirationQueue.lookup endpoint with _ | _ | timeout
  · rfl
  · dsimp only
    rw [endpointDelete_directory]
    rfl
  · rfl

theorem endpointExpirationTimeout_fixed : s.endpointExpirationTimeout.fixed = s.fixed := by
  refine foldl_view fixed (fun s endpoint => ?_) _ s
  split
  · rfl
  · exact endpointDelete_fixed ..
  · rfl

/-! ## Updates and attributes kept for life -/

/-- What finding the objects of a request and the update of the directory preserve,
`Endpoint_Update` preserves. -/
theorem endpointUpdate_preserves {I : Directory → Prop} (initially : I s.directory)
    (shrinks : ∀ start after, Directory.Shrinks (s.nextTunnel ≤ ·) start after → I start → I after)
    (announce : ∀ mid target, updateLookup keysOrder s request = (mid, .ok target) → Grown s mid →
      I mid.directory → I (mid.directory.announce (mid.announcement request target sendFails))) :
    I (endpointUpdate keysOrder s request sendFails).1.directory := by
  have grown := (Grown.ofShrunk (Shrunk.refl s)).updateLookup keysOrder request
  unfold endpointUpdate
  generalize found : updateLookup keysOrder s request = outcome at grown
  obtain ⟨mid, _ | target⟩ := outcome
  · exact shrinks _ _ grown.1 initially
  · exact shrinks _ _ ((mid.updateApply_directory request target sendFails).mono
      fun _ absurd => absurd.elim) (announce mid target found grown (shrinks _ _ grown.1 initially))

theorem endpointUpdate_statics :
    s.statics.Extends (endpointUpdate keysOrder s request sendFails).1.statics := by
  have grown := (Grown.ofShrunk (Shrunk.refl s)).updateLookup keysOrder request
  unfold endpointUpdate
  generalize updateLookup keysOrder s request = outcome at grown
  obtain ⟨mid, _ | target⟩ := outcome
  · exact grown.2
  · exact grown.2.trans (.ofEq (mid.updateApply_fixed request target sendFails))

/-- No event changes an attribute that objects keep for life. -/
theorem endpointStep_statics (event : EndpointEvent) :
    s.statics.Extends (endpointStep keysOrder s event).statics := by
  cases event with
  | update request sendFails => exact endpointUpdate_statics ..
  | deleteEndpoint endpoint => exact .ofEq (endpointDelete_fixed ..)
  | deleteTunnel tunnel => exact .ofEq (tunnelDelete_fixed ..)
  | expirationTimeout => exact .ofEq (endpointExpirationTimeout_fixed s)
  | claim domain vIPVal transactionType sendFails =>
    dsimp only [endpointStep]
    cases (s.directory.domainTables domain).findIP vIPVal with
    | none => exact .ofEq rfl
    | some endpoint => exact .ofEq (claimVIP_fixed ..)
  | register domain vMac vIPVal =>
    dsimp only [endpointStep]
    cases (s.directory.domainTables domain).findMAC vMac with
    | none => exact .ofEq rfl
    | some endpoint => exact .ofEq rfl
  | conflictTimeout => exact .ofEq rfl

/-- What deletions, the expiration queue and the other events preserve, every event preserves. -/
theorem endpointStep_preserves {I : Directory → Prop} {event : EndpointEvent}
    (initially : I s.directory)
    (shrinks : ∀ {start after}, Directory.Shrinks (fun _ => False) start after → I start → I after)
    (requeue : ∀ dir queue, I dir → I { dir with expirationQueue := queue })
    (update : ∀ request sendFails, event = .update request sendFails →
      I (endpointUpdate keysOrder s request sendFails).1.directory)
    (claim : ∀ domain vIPVal endpoint fails,
      (s.directory.domainTables domain).findIP vIPVal = some endpoint →
      I (s.directory.endpointClaimVIP domain (s.domain domain).uniqueId endpoint vIPVal fails).1)
    (register : ∀ domain vMac vIPVal endpoint, event = .register domain vMac vIPVal →
      (s.directory.domainTables domain).findMAC vMac = some endpoint →
      I (s.directory.endpointRegisterVIP domain endpoint vIPVal))
    (timeout : event = .conflictTimeout → I s.directory.conflictDetectionTimeout) :
    I (endpointStep keysOrder s event).directory := by
  cases event with
  | update request sendFails => exact update request sendFails rfl
  | deleteEndpoint endpoint =>
    rw [endpointStep, endpointDelete_directory]
    exact shrinks (.delete .refl endpoint) initially
  | deleteTunnel tunnel =>
    rw [endpointStep, tunnelDelete_directory]
    exact shrinks (Directory.tunnelDelete_shrinks _ _ tunnel) initially
  | expirationTimeout =>
    rw [endpointStep, endpointExpirationTimeout_directory]
    refine List.foldlRecOn _ _ initially fun dir held endpoint _ => ?_
    unfold Directory.expire
    split
    · exact held
    · exact shrinks (.delete .refl endpoint) (requeue _ _ held)
    · exact requeue _ _ held
  | claim domain vIPVal transactionType sendFails =>
    dsimp only [endpointStep]
    cases found : (s.directory.domainTables domain).findIP vIPVal with
    | none => exact initially
    | some endpoint =>
      have claimed : (s.claimVIP domain endpoint vIPVal transactionType sendFails).1.directory = _ :=
        congrArg Prod.fst (s.claimVIP_directory domain endpoint vIPVal transactionType sendFails)
      rw [Option.elim_some, claimed]
      exact claim domain vIPVal endpoint _ found
  | register domain vMac vIPVal =>
    dsimp only [endpointStep]
    cases found : (s.directory.domainTables domain).findMAC vMac with
    | none => exact initially
    | some endpoint => exact register domain vMac vIPVal endpoint rfl found
  | conflictTimeout => exact timeout rfl

end Collection

end OpenDove
