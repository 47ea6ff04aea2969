import OpenDove.Shrinking
import OpenDove.Configuration

/-!
# What only the controller changes

The routines that work on endpoints, tunnels, clients and hosts keep what the controller
configures. The destructors of VNIDs and domains call them for everything they take with them, so
what they do to the configuration is what they do themselves.
-/

namespace OpenDove

namespace Collection

/-- A routine that leaves the configuration alone. -/
def Settled (before after : Collection) : Prop :=
  after.configuration = before.configuration

namespace Settled

variable {start s mid : Collection}

@[refl] theorem refl (s : Collection) : Settled s s := rfl

theorem trans (first : Settled start mid) (second : Settled mid s) : Settled start s :=
  Eq.trans second first

/-- A loop leaves the configuration alone if its body does. -/
theorem foldl {ν : Type} {body : Collection → ν → Collection} (settled : Settled start s)
    (round : ∀ s item, Settled s (body s item)) (items : List ν) :
    Settled start (items.foldl body s) :=
  List.foldlRecOn items body settled fun mid before item _ => before.trans (round mid item)

theorem ite {condition : Prop} [Decidable condition] {s' : Collection} (settled : Settled start s)
    (settled' : Settled start s') : Settled start (if condition then s' else s) := by
  split <;> assumption

theorem quiet (settled : Settled start mid) (quiet : Quiet mid s) : Settled start s :=
  settled.trans (congrArg Prod.snd quiet.2)

theorem shrunk (settled : Settled start mid) (shrunk : Shrunk mid s) : Settled start s :=
  settled.trans (congrArg Prod.snd shrunk.2)

variable (settled : Settled start s)

include settled

variable (dvg : DvgId) (domain : DomainId) (endpoint : EndpointId)

theorem onDirectory (change : Directory → Directory) : Settled start (s.onDirectory change) :=
  settled

theorem onPending (change : PendingUpdates → PendingUpdates) :
    Settled start (s.onPending change) := settled

theorem modifyHost (host : HostId) (change : DPSClientHost → DPSClientHost) :
    Settled start (s.modifyHost host change) := settled

theorem policyUpdate (trafficType : TrafficType) :
    Settled start (s.policyUpdate dvg trafficType) := settled.ite (settled.onPending _)

theorem registerDelta (stage : TransferStage) (key : Nat → TransferKey)
    (objId : TransferKey → TransferId) (object : TransferObject) :
    Settled start (s.registerDelta domain stage key objId object).1 :=
  settled.quiet ((Quiet.refl s).registerDelta ..)

/-! ## Destructors -/

theorem endpointDelete : Settled start (s.endpointDelete endpoint) :=
  settled.shrunk ((Shrunk.refl s).endpointDelete endpoint)

theorem tunnelDelete (self : TunnelId) : Settled start (s.tunnelDelete self) :=
  settled.shrunk ((Shrunk.refl s).tunnelDelete self)

theorem dpsClientDelete (self : ClientId) : Settled start (s.dpsClientDelete self) :=
  settled.shrunk ((Shrunk.refl s).dpsClientDelete self)

theorem hostDomainDelete (self : HostId) (domain : DomainId) :
    Settled start (s.hostDomainDelete self domain) :=
  (settled.modifyHost ..).ite ((settled.modifyHost ..).shrunk ((Shrunk.refl _).hostDeleteWith
    (fun s client => (Shrunk.refl s).dpsClientDeleteFuel _ client) self))

theorem domainDeletedLocally : Settled start (s.domainDeletedLocally domain) :=
  settled.foldl (fun s host => (refl s).hostDomainDelete host domain) _

theorem sendVnidDeletion : Settled start (s.sendVnidDeletion dvg) :=
  settled.foldl (fun s _ => (refl s).quiet (Quiet.refl s).generateQueryId) _

theorem dvgDeleteEndpoints (self : DvgId) : Settled start (s.dvgDeleteEndpoints self) := by
  have round : ∀ s endpoint, Settled s (s.endpointDelete endpoint) :=
    fun s endpoint => (refl s).endpointDelete endpoint
  exact ((((((settled.foldl round _).onDirectory _).foldl round _).onDirectory _).foldl round
    _).onDirectory _)

theorem dvgDeleteTunnels (self : DvgId) (clientType : ClientType) (inetType : InetType) :
    Settled start (s.dvgDeleteTunnels self clientType inetType) :=
  settled.foldl (fun s tunnel =>
    ((refl s).tunnelDelete tunnel).quiet ((Quiet.refl _).modifyDvg _ _ rfl)) _

omit settled in
/-- What `DVG.delete` does after the policies, to a view of the configuration without subnets:
endpoints, tunnels and subnets. -/
theorem dvgDeleteContents {γ : Type} (view : Collection → γ)
    (kept : ∀ {s after}, Settled s after → view after = view s) (s : Collection) (self : DvgId)
    (subnets : ∀ mid : Collection, view (mid.modifyDvg self fun g =>
      { g with ipSubnetList := g.ipSubnetList.destroy }) = view mid) :
    view ((ClientType.types.foldl (fun s clientType => s.dvgDeleteTunnels self clientType .inet6)
      (ClientType.types.foldl (fun s clientType => s.dvgDeleteTunnels self clientType .inet)
        (s.dvgDeleteEndpoints self))).modifyDvg self fun g =>
          { g with ipSubnetList := g.ipSubnetList.destroy }) = view s :=
  (subnets _).trans (kept ((((refl s).dvgDeleteEndpoints self).foldl
    (fun s _ => (refl s).dvgDeleteTunnels ..) _).foldl (fun s _ => (refl s).dvgDeleteTunnels ..) _))

end Settled

end Collection

end OpenDove
