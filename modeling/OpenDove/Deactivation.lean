import OpenDove.ConfigurationFrames

/-!
# Deactivating a domain during a transfer

A domain that is being transferred to another node, or that forwards requests to a node it was
transferred to, is not to be deactivated: `Domain_Deactivate` answers that the request should be
tried again. It deletes the domain all the same.
-/

namespace OpenDove

/-- The server with what its domains keep for transfers: the nodes to which each one forwards
requests, and the weight of all transfers that are active. -/
structure TransferServer where
  collection : Collection
  massTransferForwardNodes : DomainId → Dict IPValue IPAddressLocation
  massTransferActive : Int

namespace TransferServer

variable (s : TransferServer)

/-- `mass_transfer_processing`. -/
def massTransferProcessing (domain : DomainId) : Prop :=
  (s.collection.domain domain).massTransfer.isSome ∨ (s.massTransferForwardNodes domain).size > 0

instance (s : TransferServer) (domain : DomainId) : Decidable (s.massTransferProcessing domain) :=
  inferInstanceAs (Decidable (_ ∨ _))

/-- `Domain_Deactivate`. The listing of a transfer may raise, which ends the request with the status
it has so far. -/
def domainDeactivate (s : TransferServer) (domainId : Nat) (showFails : Bool) :
    TransferServer × DOVEStatus :=
  let processing := (s.collection.domainHash.lookup domainId).any fun domain =>
    s.massTransferProcessing domain
  if processing && showFails then (s, .ok)
  else
    ({ s with collection := s.collection.domainDeactivate domainId },
      if processing then .retry else .ok)

/-- Whether `mass_transfer_finish` activates the domain on the remote node. Otherwise it deactivates
it there. -/
def massTransferComplete (self : DomainId) (fcomplete : Bool) : Bool :=
  (s.collection.domain self).massTransfer.isSome && fcomplete && (s.collection.domain self).valid

/-- `mass_transfer_finish`, and whether the remote node refuses to be activated. -/
def massTransferFinish (self : DomainId) (dpsLocation : IPAddressLocation) (fcomplete : Bool)
    (weight : Int) (refused : Bool) : TransferServer where
  collection := s.collection.modifyDomain self fun d => { d with massTransfer := none }
  massTransferForwardNodes :=
    if s.massTransferComplete self fcomplete then
      let nodes := (s.massTransferForwardNodes self).insert dpsLocation.ipValue dpsLocation
      Function.update s.massTransferForwardNodes self
        (if refused then nodes.erase dpsLocation.ipValue else nodes)
    else s.massTransferForwardNodes
  massTransferActive :=
    if (s.collection.domain self).massTransfer.isSome then s.massTransferActive - weight
    else s.massTransferActive

/-- A domain is hosted as before, with its objects, and a transfer of it ends as it would have. -/
structure Undisturbed (before after : TransferServer) (domainId : Nat) (domain : DomainId) :
    Prop where
  hosted : after.collection.domainHash.lookup domainId = some domain
  record : after.collection.domain domain = before.collection.domain domain
  dvg : after.collection.dvg = before.collection.dvg
  directory : after.collection.directory = before.collection.directory
  tunnel : after.collection.tunnel = before.collection.tunnel
  policy : after.collection.policy = before.collection.policy
  finishes : ∀ dpsLocation fcomplete weight refused,
    (after.massTransferFinish domain dpsLocation fcomplete weight refused).massTransferForwardNodes =
      (before.massTransferFinish domain dpsLocation fcomplete weight
        refused).massTransferForwardNodes

/-- A refusal leaves the domain as it was. -/
def RefusedWithoutEffect (domainId : Nat) (showFails : Bool) : Prop :=
  (s.domainDeactivate domainId showFails).2 = .retry →
    ∀ domain, s.collection.domainHash.lookup domainId = some domain →
      Undisturbed s (s.domainDeactivate domainId showFails).1 domainId domain

end TransferServer

/-- A domain that was taken from this node is invalid. -/
theorem Collection.domainDelete_valid (s : Collection) (self : DomainId) :
    ((s.domainDelete self false).domain self).valid = false := by
  unfold domainDelete
  split
  · have marked : ((s.modifyDomain self fun d => { d with valid := false }).domain self).valid =
        false := by simp [modifyDomain]
    have unlinked := (Settled.refl (s.modifyDomain self fun d =>
      { d with valid := false })).domainDeletedLocally self
    simp only [domainClear, modifyDomain, Function.update_self, onDirectory, Bool.false_eq_true,
      if_false]
    exact (congrArg (fun c => (c.domain self).valid) unlinked).trans marked
  · next isInvalid => exact Bool.eq_false_iff.mpr isInvalid

namespace TransferServer

/-- A refusal has no effect exactly if no transfer of a valid domain is found, or if its listing
raises, in which case the request is not refused. -/
theorem deactivation_is_refused_without_effect_iff (s : TransferServer) (domainId : Nat)
    (showFails : Bool) :
    s.RefusedWithoutEffect domainId showFails ↔
      ∀ domain, s.collection.domainHash.lookup domainId = some domain →
        (s.collection.domain domain).valid → s.massTransferProcessing domain → showFails := by
  unfold RefusedWithoutEffect domainDeactivate Collection.domainDeactivate
  cases found : s.collection.domainHash.lookup domainId with
  | none => simp
  | some domain =>
    by_cases processing : s.massTransferProcessing domain
    · cases showFails with
      | true => simp [processing]
      | false =>
        simp only [Option.any_some, processing, decide_true, Bool.and_false, Option.elim_some,
          Option.some.injEq, forall_eq', Bool.false_eq_true, if_true, if_false, true_imp_iff]
        constructor
        · intro refused valid
          have kept := congrArg Domain.valid refused.record
          rw [Collection.domainDelete_valid, valid] at kept
          exact Bool.false_ne_true kept
        · intro isInvalid
          have same : s.collection.domainDelete domain false = s.collection := if_neg isInvalid
          rw [same]
          exact ⟨found, rfl, rfl, rfl, rfl, rfl, fun _ _ _ _ => rfl⟩
    · simp [processing]

/-- A domain that forwards its requests to a node is deleted although the answer is to retry. -/
theorem forwarding_domain_is_deleted :
    ¬ RefusedWithoutEffect
      { collection := (Collection.empty.domainAddLocal 7).1
        massTransferForwardNodes := fun _ =>
          (∅ : Dict IPValue IPAddressLocation).insert (.v4 1) (.create .inet (.v4 1) 902)
        massTransferActive := 0 } 7 false := by
  intro refused
  have hosted := (refused (by decide) 0 (by decide)).hosted
  revert hosted
  decide

end TransferServer

end OpenDove
