import OpenDove.EndpointUpdate

/-!
# What the underlay leaves alone

Objects keep some attributes for life: a VNID its domain and number, a tunnel its domain and
client, a client its domain and address. Domains, VNIDs, their policies and subnets, and the global
maps of numbers change with the requests of the controller only. All this is collected here in one
value, so that a routine is shown to keep it by a single equation. The same lemmas show which
routines leave the endpoint directory alone.
-/

namespace OpenDove

/-- The attributes that objects keep for life, the VNIDs of every domain, and the identities given
out so far. -/
@[ext] structure Statics where
  dvgDomain : DvgId → DomainId
  dvgVnid : DvgId → Nat
  domainNumber : DomainId → Nat
  domainDvgs : DomainId → Dict Nat DvgId
  tunnelDomain : TunnelId → DomainId
  tunnelClient : TunnelId → ClientId
  clientDomain : ClientId → DomainId
  clientAddress : ClientId → InetType × IPValue
  nextTunnel : TunnelId
  nextClient : ClientId
  nextDvg : DvgId
  nextDomain : DomainId

/-- What a tunnel keeps for life. -/
def TunnelEndpoint.lasting (t : TunnelEndpoint) : DomainId × ClientId := (t.domain, t.dpsClient)

/-- What a client keeps for life. -/
def DPSClient.lasting (c : DPSClient) : DomainId × InetType × IPValue :=
  (c.domain, c.location.inetType, c.location.ipValue)

/-- What the controller configures of a VNID. -/
structure VnidConfiguration where
  domain : DomainId
  uniqueId : Nat
  valid : Bool
  ipSubnetList : IPSubnetList
  policySource : TrafficType → Dict Nat PolicyId
  policyDestination : TrafficType → Dict Nat PolicyId

/-- What the controller configures of a domain. -/
structure DomainConfiguration where
  uniqueId : Nat
  valid : Bool
  dvgHash : Dict Nat DvgId
  policyHashDVG : TrafficType → Dict (Nat × Nat) PolicyId

/-- What the controller configures of a server. -/
@[ext] structure Configuration where
  vnidHash : Dict Nat Nat
  domainHashGlobal : Dict Nat (List Nat)
  domainHash : Dict Nat DomainId
  dvg : DvgId → VnidConfiguration
  nextDvg : DvgId
  domain : DomainId → DomainConfiguration
  nextDomain : DomainId
  policy : PolicyId → Policy
  nextPolicy : PolicyId

/-- What the controller configured of a VNID. -/
def DVG.configured (g : DVG) : VnidConfiguration where
  domain := g.domain
  uniqueId := g.uniqueId
  valid := g.valid
  ipSubnetList := g.ipSubnetList
  policySource := g.policySource
  policyDestination := g.policyDestination

/-- What the controller configured of a domain. -/
def Domain.configured (d : Domain) : DomainConfiguration where
  uniqueId := d.uniqueId
  valid := d.valid
  dvgHash := d.dvgHash
  policyHashDVG := d.policyHashDVG

namespace Collection

/-- The attributes that the objects of a collection keep for life. -/
def statics (s : Collection) : Statics where
  dvgDomain dvg := (s.dvg dvg).domain
  dvgVnid dvg := (s.dvg dvg).uniqueId
  domainNumber domain := (s.domain domain).uniqueId
  domainDvgs domain := (s.domain domain).dvgHash
  tunnelDomain tunnel := (s.tunnel tunnel).domain
  tunnelClient tunnel := (s.tunnel tunnel).dpsClient
  clientDomain client := (s.client client).domain
  clientAddress client := ((s.client client).location.inetType, (s.client client).location.ipValue)
  nextTunnel := s.nextTunnel
  nextClient := s.nextClient
  nextDvg := s.nextDvg
  nextDomain := s.nextDomain

/-- What the controller configured of a server. -/
def configuration (s : Collection) : Configuration where
  vnidHash := s.vnidHash
  domainHashGlobal := s.domainHashGlobal
  domainHash := s.domainHash
  dvg dvg := (s.dvg dvg).configured
  nextDvg := s.nextDvg
  domain domain := (s.domain domain).configured
  nextDomain := s.nextDomain
  policy := s.policy
  nextPolicy := s.nextPolicy

/-- What the underlay leaves alone: the attributes kept for life, and the configuration. -/
def fixed (s : Collection) : Statics × Configuration := (s.statics, s.configuration)

/-- A routine that touches neither the directory nor what the underlay leaves alone. -/
def Quiet (before after : Collection) : Prop :=
  after.directory = before.directory ∧ after.fixed = before.fixed

namespace Quiet

variable {s mid after : Collection}

@[refl] theorem refl (s : Collection) : Quiet s s := ⟨rfl, rfl⟩

theorem trans (first : Quiet s mid) (second : Quiet mid after) : Quiet s after :=
  ⟨second.1.trans first.1, second.2.trans first.2⟩

/-- A loop is quiet if its body is. -/
theorem foldl {ν : Type} {body : Collection → ν → Collection}
    (quiet : ∀ s item, Quiet s (body s item)) (items : List ν) (s : Collection) :
    Quiet s (items.foldl body s) := by
  induction items generalizing s with
  | nil => rfl
  | cons item items ih => exact (quiet s item).trans (ih _)

/-! ## Single writes -/

section Writes

variable {start s : Collection} (quiet : Quiet start s)

include quiet

variable (domain : DomainId) (self : TunnelId) (dvg : DvgId) (fregister : Bool) (client : ClientId)
  (tunnel : TunnelId) (vnid : Nat) (clientType : ClientType) (inetType : InetType)
  (ipValue : IPValue) (transactionType : TransactionType)

theorem onPending (change : PendingUpdates → PendingUpdates) : Quiet start (s.onPending change) :=
  quiet.trans ⟨rfl, rfl⟩

theorem generateQueryId : Quiet start s.generateQueryId.2 := quiet.trans ⟨rfl, rfl⟩

theorem modifyHost (host : HostId) (change : DPSClientHost → DPSClientHost) :
    Quiet start (s.modifyHost host change) := quiet.trans ⟨rfl, rfl⟩

theorem modifyTunnel (change : TunnelEndpoint → TunnelEndpoint)
    (keeps : (change (s.tunnel tunnel)).lasting = (s.tunnel tunnel).lasting) :
    Quiet start (s.modifyTunnel tunnel change) := by
  have same := update_keeps TunnelEndpoint.lasting s.tunnel keeps
  refine quiet.trans ⟨rfl, congrArg (·, s.configuration) (Statics.ext rfl rfl rfl rfl
    (funext fun other => ?_) (funext fun other => ?_) rfl rfl rfl rfl rfl rfl)⟩
  · exact congrArg Prod.fst (same other)
  · exact congrArg Prod.snd (same other)

theorem modifyClient (change : DPSClient → DPSClient)
    (keeps : (change (s.client client)).lasting = (s.client client).lasting) :
    Quiet start (s.modifyClient client change) := by
  have same := update_keeps DPSClient.lasting s.client keeps
  refine quiet.trans ⟨rfl, congrArg (·, s.configuration) (Statics.ext rfl rfl rfl rfl rfl rfl
    (funext fun other => ?_) (funext fun other => ?_) rfl rfl rfl rfl)⟩
  · exact congrArg Prod.fst (same other)
  · exact congrArg Prod.snd (same other)

theorem modifyDvg (change : DVG → DVG)
    (keeps : (change (s.dvg dvg)).configured = (s.dvg dvg).configured) :
    Quiet start (s.modifyDvg dvg change) := by
  have same := update_keeps DVG.configured s.dvg keeps
  refine quiet.trans ⟨rfl, Prod.ext (Statics.ext (funext fun other => ?_) (funext fun other => ?_)
    rfl rfl rfl rfl rfl rfl rfl rfl rfl rfl)
    (Configuration.ext rfl rfl rfl (funext same) rfl rfl rfl rfl rfl)⟩
  · exact congrArg VnidConfiguration.domain (same other)
  · exact congrArg VnidConfiguration.uniqueId (same other)

theorem modifyDomain (change : Domain → Domain)
    (keeps : (change (s.domain domain)).configured = (s.domain domain).configured) :
    Quiet start (s.modifyDomain domain change) := by
  have same := update_keeps Domain.configured s.domain keeps
  refine quiet.trans ⟨rfl, Prod.ext (Statics.ext rfl rfl (funext fun other => ?_)
    (funext fun other => ?_) rfl rfl rfl rfl rfl rfl rfl rfl)
    (Configuration.ext rfl rfl rfl rfl rfl (funext same) rfl rfl rfl)⟩
  · exact congrArg DomainConfiguration.uniqueId (same other)
  · exact congrArg DomainConfiguration.dvgHash (same other)

/-- A choice is quiet if both sides are. -/
theorem ite {condition : Prop} [Decidable condition] {s' : Collection} (quiet' : Quiet start s') :
    Quiet start (if condition then s' else s) := by
  split <;> assumption

/-! ## Address tables -/

theorem domainDpsClientDelete :
    Quiet start (s.domainDpsClientDelete domain client) := quiet.modifyDomain _ _ (by rfl)

theorem domainDpsClientAdd :
    Quiet start (s.domainDpsClientAdd domain client) := quiet.modifyDomain _ _ (by rfl)

theorem dpsClientLeaveIfEmpty :
    Quiet start (s.dpsClientLeaveIfEmpty client) := quiet.ite (quiet.domainDpsClientDelete ..)

theorem clientTunnelEndpointDeleteIP :
    Quiet start (s.clientTunnelEndpointDeleteIP client inetType ipValue) :=
  (quiet.modifyClient _ _ (by rfl)).dpsClientLeaveIfEmpty _

theorem clientTunnelEndpointDelete : Quiet start (s.clientTunnelEndpointDelete client tunnel) :=
  (quiet.modifyClient _ _ (by rfl)).dpsClientLeaveIfEmpty _

theorem hostAdd (location : IPAddressLocation) : Quiet start (s.hostAdd domain location) := by
  unfold Collection.hostAdd
  split
  · exact quiet.ite (quiet.modifyHost ..)
  · exact quiet.trans ⟨rfl, rfl⟩

theorem hostTouch (ipVal : IPValue) (port : Nat) : Quiet start (s.hostTouch ipVal port) := by
  unfold Collection.hostTouch
  split
  · exact (quiet.modifyHost ..).ite quiet
  · exact quiet

theorem gatewayUpdate : Quiet start (s.gatewayUpdate dvg clientType) := by
  unfold Collection.gatewayUpdate
  split
  · exact quiet
  · exact quiet.onPending _

theorem registerDelta (stage : TransferStage) (key : Nat → TransferKey)
    (objId : TransferKey → TransferId) (object : TransferObject) :
    Quiet start (s.registerDelta domain stage key objId object).1 := by
  unfold Collection.registerDelta
  split
  · exact quiet
  · exact quiet.generateQueryId.modifyDomain _ _ (by rfl)

theorem registerTunnel (clientType : Nat) (fregister : Bool) (hostLocation : IPAddressLocation)
    (pipTupleList : List (InetType × IPValue)) :
    Quiet start
      (s.registerTunnel domain vnid clientType fregister hostLocation pipTupleList).1 := by
  unfold Collection.registerTunnel
  split
  · exact quiet
  · exact quiet.registerDelta ..

theorem registerEndpoint (endpoint : EndpointId) (operation : UpdateOperation)
    (vIPType : InetType) (vIPVal : IPValue) :
    Quiet start (s.registerEndpoint domain vnid endpoint operation vIPType vIPVal).1 :=
  quiet.registerDelta ..

theorem dvgTunnelEndpointDelete : Quiet start (s.dvgTunnelEndpointDelete dvg tunnel clientType) :=
  (quiet.modifyDvg _ _ (by rfl)).ite
    ((((quiet.modifyDvg _ _ (by rfl)).onPending _).modifyDomain _ _ (by rfl)).gatewayUpdate ..)

theorem dvgTunnelEndpointAddIP :
    Quiet start (s.dvgTunnelEndpointAddIP dvg fregister tunnel clientType inetType ipValue
      transactionType) := by
  have written : Quiet start (s.modifyDvg dvg fun g =>
      { g with
        tunnelEndpointsHash := Function.update g.tunnelEndpointsHash clientType
          (.insert (g.tunnelEndpointsHash clientType) inetType ipValue tunnel) }) :=
    quiet.modifyDvg _ _ (by rfl)
  have broadcast := written.onPending
  dsimp only [Collection.dvgTunnelEndpointAddIP]
  refine Quiet.ite ?_ (Quiet.registerTunnel ?_ ..) <;>
    exact (written.ite (broadcast _)).ite ((written.ite (broadcast _)).gatewayUpdate ..)

theorem dvgTunnelEndpointDeleteIP :
    Quiet start (s.dvgTunnelEndpointDeleteIP dvg clientType inetType ipValue) :=
  quiet.ite ((quiet.modifyDvg _ _ (by rfl)).ite ((quiet.modifyDvg _ _ (by rfl)).gatewayUpdate ..))

/-! ## Tunnels -/

theorem ipAdd :
    Quiet start (s.ipAdd self dvg fregister clientType inetType ipValue transactionType) :=
  ((((quiet.modifyTunnel _ _ (by rfl)).modifyClient _ _ (by rfl)).dvgTunnelEndpointAddIP
    ..).modifyTunnel _ _ (by rfl)).modifyDomain _ _ (by rfl)

theorem ipAddAll (pipTupleList : List (InetType × IPValue)) :
    Quiet start (s.ipAddAll self dvg fregister clientType transactionType pipTupleList) :=
  quiet.trans (Quiet.foldl (fun s _ => (refl s).ipAdd ..) _ _)

theorem leaveDvgs : Quiet start (s.leaveDvgs self clientType) :=
  quiet.trans (Quiet.foldl (fun s _ => (refl s).dvgTunnelEndpointDelete ..) _ _)

theorem deleteIfEmpty : Quiet start (s.deleteIfEmpty self) := by
  have left := (quiet.modifyTunnel self (fun t => { t with valid := false }) (by rfl)).trans
    (Quiet.foldl (fun s clientType => (refl s).leaveDvgs self clientType) ClientType.types _)
  dsimp only [Collection.deleteIfEmpty]
  refine Quiet.ite (Quiet.ite ?_ quiet) quiet
  generalize ClientType.types.foldl _ _ = later at left ⊢
  exact (((left.modifyTunnel _ _ (by rfl)).clientTunnelEndpointDelete ..).modifyDomain _ _
    (by rfl)).modifyTunnel _ _ (by rfl)

theorem externalGateways (change : IPAddressList → IPValue → IPAddressList)
    (pipTupleList : List (InetType × IPValue)) :
    Quiet start (s.externalGateways dvg clientType change pipTupleList) :=
  quiet.ite (quiet.modifyDvg _ _ (by rfl))

end Writes

end Quiet

end Collection

end OpenDove
