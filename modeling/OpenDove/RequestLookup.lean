import OpenDove.Shrinking

/-!
# The objects that a request names

The first part of `Endpoint_Update` finds the domain, the VNID, the client and the tunnel of a
request, and in the shared domain creates the last two. It only deletes endpoints and adds empty
tunnels. A request that gets through names a tunnel of its client which its VNID knows under the
physical address.
-/

namespace OpenDove

/-- Attributes kept for life stay, and identities are only added. -/
structure Statics.Extends (before after : Statics) : Prop where
  dvgDomain : after.dvgDomain = before.dvgDomain
  dvgVnid : after.dvgVnid = before.dvgVnid
  domainNumber : after.domainNumber = before.domainNumber
  domainDvgs : after.domainDvgs = before.domainDvgs
  tunnelDomain : ∀ tunnel, tunnel < before.nextTunnel →
    after.tunnelDomain tunnel = before.tunnelDomain tunnel
  tunnelClient : ∀ tunnel, tunnel < before.nextTunnel →
    after.tunnelClient tunnel = before.tunnelClient tunnel
  clientDomain : ∀ client, client < before.nextClient →
    after.clientDomain client = before.clientDomain client
  clientAddress : ∀ client, client < before.nextClient →
    after.clientAddress client = before.clientAddress client
  nextTunnel : before.nextTunnel ≤ after.nextTunnel
  nextClient : before.nextClient ≤ after.nextClient
  nextDvg : after.nextDvg = before.nextDvg
  nextDomain : after.nextDomain = before.nextDomain

namespace Statics.Extends

variable {before mid after : Statics}

theorem ofEq {s t : Collection} (same : t.fixed = s.fixed) : Extends s.statics t.statics := by
  have same : t.statics = s.statics := congrArg Prod.fst same
  rw [same]
  exact ⟨rfl, rfl, rfl, rfl, fun _ _ => rfl, fun _ _ => rfl, fun _ _ => rfl, fun _ _ => rfl,
    le_refl _, le_refl _, rfl, rfl⟩

theorem trans (first : Extends before mid) (second : Extends mid after) : Extends before after where
  dvgDomain := second.dvgDomain.trans first.dvgDomain
  dvgVnid := second.dvgVnid.trans first.dvgVnid
  domainNumber := second.domainNumber.trans first.domainNumber
  domainDvgs := second.domainDvgs.trans first.domainDvgs
  tunnelDomain tunnel old := (second.tunnelDomain tunnel (old.trans_le first.nextTunnel)).trans
    (first.tunnelDomain tunnel old)
  tunnelClient tunnel old := (second.tunnelClient tunnel (old.trans_le first.nextTunnel)).trans
    (first.tunnelClient tunnel old)
  clientDomain client old := (second.clientDomain client (old.trans_le first.nextClient)).trans
    (first.clientDomain client old)
  clientAddress client old := (second.clientAddress client (old.trans_le first.nextClient)).trans
    (first.clientAddress client old)
  nextTunnel := first.nextTunnel.trans second.nextTunnel
  nextClient := first.nextClient.trans second.nextClient
  nextDvg := second.nextDvg.trans first.nextDvg
  nextDomain := second.nextDomain.trans first.nextDomain

end Statics.Extends

namespace Collection

/-! ## Registering one address -/

/-- A registration of a single address never merges tunnels, so that it does not depend on the
order of keys. -/
theorem register_single (keysOrder : KeysOrder) (s : Collection) (domain : DomainId) (dvg : DvgId)
    (clientType : ClientType) (transactionType : TransactionType) (dpsClient : ClientId)
    (inetType : InetType) (ipValue : IPValue) (allowed : clientType.isTunnelType = true) :
    let create (s : Collection) :=
      (s.tunnelCreate domain dvg clientType transactionType dpsClient [(inetType, ipValue)]).1
    let registered := match ((s.domain domain).tunnelEndpointsHash inetType).lookup ipValue with
      | none => (create s, false)
      | some tunnel =>
        if (s.tunnel tunnel).dpsClient ≠ dpsClient then
          (create (s.ipClear tunnel inetType ipValue), false)
        else s.registerExisting tunnel domain dvg clientType transactionType dpsClient
          [(inetType, ipValue)]
    register keysOrder s domain dvg clientType transactionType dpsClient [(inetType, ipValue)] =
      if registered.2 then (registered.1, true)
      else (registered.1.externalGateways dvg clientType .add [(inetType, ipValue)], false) := by
  dsimp only [register]
  rw [if_neg (List.cons_ne_nil _ _), allowed, if_neg (by decide)]
  cases held : ((s.domain domain).tunnelEndpointsHash inetType).lookup ipValue with
  | none =>
    simp only [registerScan, held, List.perm_nil.mp (keysOrder.perm [])]
  | some tunnel =>
    by_cases other : (s.tunnel tunnel).dpsClient ≠ dpsClient
    · simp only [registerScan, held, if_pos other, List.perm_nil.mp (keysOrder.perm [])]
    · have single := List.perm_singleton.mp (keysOrder.perm [tunnel])
      simp only [registerScan, held, if_neg other, List.insert_nil, single, mergeAll]
      rfl

/-! ## What the search changes -/

/-- The directory shrank, apart from new tunnels without endpoints, and the attributes that the
old objects keep for life did not change. -/
def Grown (start s : Collection) : Prop :=
  Directory.Shrinks (start.nextTunnel ≤ ·) start.directory s.directory ∧
    start.statics.Extends s.statics

namespace Grown

variable {start s mid : Collection}

theorem trans (first : Grown start mid) (second : Grown mid s) : Grown start s :=
  ⟨first.1.trans (second.1.mono fun _ => first.2.nextTunnel.trans), first.2.trans second.2⟩

theorem ofShrunk (shrunk : Shrunk start s) : Grown start s :=
  ⟨shrunk.1.mono fun _ absurd => absurd.elim, .ofEq shrunk.2⟩

variable (grown : Grown start s)

include grown

variable (keysOrder : KeysOrder) (request : EndpointUpdateRequest) (self : TunnelId)
  (domain : DomainId) (dvg : DvgId) (clientType : ClientType) (transactionType : TransactionType)
  (client : ClientId) (inetType : InetType) (ipValue : IPValue) (pips : List (InetType × IPValue))

theorem quiet (quiet : Quiet s mid) : Grown start mid :=
  grown.trans (ofShrunk ((Shrunk.refl s).quiet quiet))

theorem ite {condition : Prop} [Decidable condition] {s' : Collection} (grown' : Grown start s') :
    Grown start (if condition then s' else s) := by
  split <;> assumption

theorem tunnelCreate :
    Grown start (s.tunnelCreate domain dvg clientType transactionType client pips).1 := by
  refine grown.trans (Grown.quiet (s := { s with
      nextTunnel := s.nextTunnel + 1
      tunnel := Function.update s.tunnel s.nextTunnel
        { domain, dpsClient := client, dvgHash := fun _ => ∅, ipHashVNID := fun _ => .empty
          vnidHashIP := fun _ => .empty, ipList := fun _ => .create, valid := true }
      directory := s.directory.setTunnelMAC s.nextTunnel ∅ }) ⟨?_, ?_⟩ ?_)
  · exact Directory.Shrinks.refl.drain s.nextTunnel (Or.inl (le_refl _))
  · exact ⟨rfl, rfl, rfl, rfl,
      fun _ old => congrArg TunnelEndpoint.domain (Function.update_of_ne old.ne ..),
      fun _ old => congrArg TunnelEndpoint.dpsClient (Function.update_of_ne old.ne ..),
      fun _ _ => rfl, fun _ _ => rfl, Nat.le_succ _, le_refl _, rfl, rfl⟩
  · exact ((Quiet.refl _).ipAddAll ..).hostAdd ..

theorem dpsClientCreate (port : Nat) :
    Grown start (s.dpsClientCreate domain inetType ipValue port).1 := by
  refine grown.trans (Grown.quiet (s := { s with
      nextClient := s.nextClient + 1
      client := Function.update s.client s.nextClient
        { domain, location := .create inetType ipValue port, tunnelEndpointsHash := .empty
          valid := true } }) ⟨.refl, ?_⟩ ((Quiet.refl _).domainDpsClientAdd ..))
  exact ⟨rfl, rfl, rfl, rfl, fun _ _ => rfl, fun _ _ => rfl,
    fun _ old => congrArg DPSClient.domain (Function.update_of_ne old.ne ..),
    fun _ old => congrArg (fun c : DPSClient => (c.location.inetType, c.location.ipValue))
      (Function.update_of_ne old.ne ..), le_refl _, Nat.le_succ _, rfl, rfl⟩

theorem registerExisting : Grown start
    (s.registerExisting self domain dvg clientType transactionType client pips).1 := by
  unfold Collection.registerExisting
  split
  · exact grown.quiet ((((Quiet.refl s).modifyTunnel _ _ (by rfl)).ipAddAll ..).hostAdd ..)
  · exact grown

theorem registerSingle :
    Grown start
      (register keysOrder s domain dvg clientType transactionType client [(inetType, ipValue)]).1 := by
  cases allowed : clientType.isTunnelType with
  | false =>
    rw [register, if_neg (List.cons_ne_nil _ _), allowed, if_pos (by decide)]
    exact grown
  | true =>
    rw [register_single keysOrder s domain dvg clientType transactionType client inetType ipValue
      allowed, apply_ite Prod.fst]
    refine ite (quiet ?registered ((Quiet.refl _).externalGateways ..)) ?registered
    split
    · exact grown.tunnelCreate ..
    · split
      · exact (grown.trans (ofShrunk ((Shrunk.refl s).ipClear ..))).tunnelCreate ..
      · exact grown.registerExisting ..

theorem updateVnid : Grown start (s.updateVnid request).1 := by
  unfold Collection.updateVnid
  cases s.domainHash.lookup request.domainId with
  | none => exact grown
  | some domain =>
    have counted := grown.quiet ((Quiet.refl s).modifyDomain domain
      (fun d => { d with endpointUpdateCount := d.endpointUpdateCount + 1 }) rfl)
    dsimp only
    split_ifs
    · exact grown
    · split
      · exact counted
      · split_ifs
        · exact counted
        · exact counted
        · split <;> exact counted

theorem updateClient : Grown start (s.updateClient request domain ipValue).1 := by
  unfold Collection.updateClient
  split
  · exact grown.quiet ((Quiet.refl s).modifyClient _ _ (by rfl))
  · split
    · exact grown.dpsClientCreate ..
    · exact grown

theorem updateTunnel :
    Grown start (Collection.updateTunnel keysOrder s request domain dvg client ipValue).1 := by
  unfold Collection.updateTunnel
  dsimp only
  split
  · exact grown
  · split
    · exact grown
    · split
      · split <;> exact grown.registerSingle ..
      · exact grown

theorem updateUnderlay (ipMode : SubnetMode) (dpsClientIPVal pIPVal : IPValue) :
    Grown start (Collection.updateUnderlay keysOrder s request domain dvg ipMode dpsClientIPVal
      pIPVal).1 := by
  have undone {s : Collection} (grown : Grown start s) (tunnel : Option TunnelId)
      (client : Option ClientId) : Grown start (s.updateUndo tunnel client) :=
    grown.trans (ofShrunk ((Shrunk.refl s).updateUndo tunnel client))
  have client := grown.updateClient request domain dpsClientIPVal
  unfold Collection.updateUnderlay
  generalize s.updateClient request domain dpsClientIPVal = found at client ⊢
  obtain ⟨mid, _ | ⟨dpsClient, fnew⟩⟩ := found
  · exact client
  · have tunnel := Grown.updateTunnel client keysOrder request domain dvg dpsClient pIPVal
    dsimp only
    generalize Collection.updateTunnel keysOrder mid request domain dvg dpsClient pIPVal = found
      at tunnel ⊢
    obtain ⟨mid, _ | _⟩ := found
    · exact undone tunnel _ _
    · dsimp only
      rw [apply_ite Prod.fst]
      exact tunnel.ite (undone tunnel _ _)

/-- Finding the objects of a request only deletes endpoints and adds empty tunnels. -/
theorem updateLookup : Grown start (Collection.updateLookup keysOrder s request).1 := by
  unfold Collection.updateLookup
  split
  · exact grown
  · cases ipGetValFromPacked request.dpsClientIP with
    | none => exact grown
    | some dpsClientIPVal =>
      have touched := grown.quiet ((Quiet.refl s).hostTouch dpsClientIPVal request.dpsClientPort)
      cases ipGetValFromPacked request.pIP with
      | none => exact touched
      | some pIPVal =>
        have named := Grown.updateVnid touched request
        dsimp only
        generalize (s.hostTouch dpsClientIPVal request.dpsClientPort).updateVnid request = found
          at named ⊢
        obtain ⟨mid, _ | ⟨domain, dvg, ipMode⟩⟩ := found
        · exact named
        · exact named.updateUnderlay ..

end Grown

/-! ## Successful requests -/

section Found

variable {domain : DomainId} {dvg : DvgId} {target : UpdateTarget} {ipMode : SubnetMode}
  {pIPVal : IPValue} {client : ClientId} {fnew : Bool}
variable {keysOrder : KeysOrder} {s mid : Collection} {request : EndpointUpdateRequest}

/-- The domain and the VNID of a request that was not refused. -/
theorem updateVnid_ok (found : s.updateVnid request = (mid, .ok (domain, dvg, ipMode))) :
    s.domainHash.lookup request.domainId = some domain ∧
      (s.domain domain).dvgHash.lookup request.dvgId = some dvg ∧
      mid = s.modifyDomain domain fun d =>
        { d with endpointUpdateCount := d.endpointUpdateCount + 1 } := by
  unfold updateVnid at found
  cases domainFound : s.domainHash.lookup request.domainId with
  | none => simp [domainFound] at found
  | some other =>
    cases valid : (s.domain other).valid with
    | false => simp [domainFound, valid] at found
    | true =>
      cases dvgFound : (s.domain other).dvgHash.lookup request.dvgId with
      | none => simp [domainFound, valid, modifyDomain, dvgFound] at found
      | some otherDvg =>
        simp only [domainFound, valid, modifyDomain, Function.update_self, dvgFound,
          Bool.not_true, Bool.false_eq_true, if_false] at found
        cases dvgValid : (s.dvg otherDvg).valid with
        | false => simp [dvgValid] at found
        | true =>
          simp only [dvgValid, Bool.not_true, Bool.false_eq_true, if_false] at found
          split at found
          · simp at found
          · split at found
            · simp at found
            · simp only [Prod.mk.injEq, Except.ok.injEq] at found
              obtain ⟨rfl, rfl, rfl, rfl⟩ := found
              exact ⟨rfl, dvgFound, by simp [modifyDomain, valid]⟩

/-- The client of a request that was not refused. -/
theorem updateClient_ok {ipVal : IPValue}
    (found : s.updateClient request domain ipVal = (mid, .ok (client, fnew))) :
    (((s.domain domain).dpsClientsHash request.dpsClientIP.family).lookup ipVal = some client ∧
      mid = s.modifyClient client fun c =>
        { c with location := { c.location with port := request.dpsClientPort } }) ∨
    (((s.domain domain).dpsClientsHash request.dpsClientIP.family).lookup ipVal = none ∧
      (mid, client) = s.dpsClientCreate domain request.dpsClientIP.family ipVal
        request.dpsClientPort) := by
  unfold updateClient at found
  cases held : ((s.domain domain).dpsClientsHash request.dpsClientIP.family).lookup ipVal with
  | some other =>
    simp only [held, Prod.mk.injEq, Except.ok.injEq] at found
    obtain ⟨rfl, rfl, rfl⟩ := found
    exact Or.inl ⟨rfl, rfl⟩
  | none =>
    simp only [held] at found
    split at found
    · simp only [Prod.mk.injEq, Except.ok.injEq] at found
      obtain ⟨rfl, rfl, rfl⟩ := found
      exact Or.inr ⟨rfl, rfl⟩
    · simp at found

/-- The tunnel that a VNID knows under an address. -/
def findTunnel (s : Collection) (dvg : DvgId) (clientType : ClientType) (inetType : InetType)
    (ipValue : IPValue) : Option TunnelId :=
  ((s.dvg dvg).tunnelEndpointsHash clientType inetType).lookup ipValue

/-- The tunnel of a request that was not refused: the VNID knows it, or it was registered. -/
theorem updateTunnel_ok {clientType : ClientType} {tunnel : TunnelId}
    (found : updateTunnel keysOrder s request domain dvg client pIPVal =
      (mid, .ok (clientType, tunnel, fnew))) :
    mid = s ∨
    (s.findTunnel dvg clientType request.pIP.family pIPVal = none ∧
      register keysOrder s domain dvg clientType request.transactionType client
        [(request.pIP.family, pIPVal)] = (mid, false) ∧
      mid.findTunnel dvg clientType request.pIP.family pIPVal = some tunnel) := by
  unfold updateTunnel at found
  cases code : ClientType.ofCode request.clientType with
  | none => simp [code] at found
  | some other =>
    simp only [code] at found
    cases held : s.findTunnel dvg other request.pIP.family pIPVal with
    | some known =>
      rw [findTunnel] at held
      simp only [held, Prod.mk.injEq, Except.ok.injEq] at found
      obtain ⟨rfl, rfl, rfl, rfl⟩ := found
      exact Or.inl rfl
    | none =>
      have missing := held
      rw [findTunnel] at missing
      simp only [missing] at found
      split at found
      · generalize registered : register keysOrder s domain dvg other request.transactionType client
          [(request.pIP.family, pIPVal)] = after at found
        obtain ⟨after, _ | _⟩ := after
        · cases known : after.findTunnel dvg other request.pIP.family pIPVal with
          | none =>
            rw [findTunnel] at known
            simp [known] at found
          | some number =>
            have created := known
            rw [findTunnel] at created
            simp only [created, Prod.mk.injEq, Except.ok.injEq] at found
            obtain ⟨rfl, rfl, rfl, rfl⟩ := found
            exact Or.inr ⟨held, registered, known⟩
        · simp at found
      · simp at found

theorem ipGetValFromPacked_some {packed value : IPValue}
    (readable : ipGetValFromPacked packed = some value) : value = packed := by
  cases packed with
  | v4 _ => exact (Option.some.inj readable).symm
  | v6 _ => cases readable

/-- The client and the tunnel of a request that was not refused. -/
theorem updateUnderlay_ok {dpsClientIPVal : IPValue}
    (found : updateUnderlay keysOrder s request domain dvg ipMode dpsClientIPVal pIPVal =
      (mid, .ok target)) :
    ∃ withClient,
      s.updateClient request domain dpsClientIPVal =
        (withClient, .ok (target.dpsClient, target.fnewDpsClient)) ∧
      updateTunnel keysOrder withClient request domain dvg target.dpsClient pIPVal =
        (mid, .ok (target.clientType, target.tunnel, target.fnewTunnel)) ∧
      target.domain = domain ∧ target.dvg = dvg := by
  unfold updateUnderlay at found
  rcases client : s.updateClient request domain dpsClientIPVal with
    ⟨withClient, _ | ⟨dpsClient, fnewDpsClient⟩⟩
  · simp [client] at found
  · simp only [client] at found
    rcases tunnel : updateTunnel keysOrder withClient request domain dvg dpsClient pIPVal with
      ⟨after, _ | ⟨clientType, number, fnewTunnel⟩⟩
    · simp [tunnel] at found
    · simp only [tunnel] at found
      split at found
      · simp at found
      · simp only [Prod.mk.injEq, Except.ok.injEq] at found
        obtain ⟨rfl, rfl⟩ := found
        exact ⟨withClient, rfl, tunnel, rfl, rfl⟩

theorem hostTouch_eq (s : Collection) (ipVal : IPValue) (port : Nat) :
    ∃ host, s.hostTouch ipVal port = { s with host } := by
  unfold hostTouch
  split
  · split
    · exact ⟨s.host, rfl⟩
    · exact ⟨_, rfl⟩
  · exact ⟨s.host, rfl⟩

/-- What the search for a client leaves alone. -/
def SameTunnels (before after : Collection) : Prop :=
  after.directory = before.directory ∧ after.tunnel = before.tunnel ∧ after.dvg = before.dvg ∧
    after.nextTunnel = before.nextTunnel ∧
    ∀ domain, (after.domain domain).tunnelEndpointsHash = (before.domain domain).tunnelEndpointsHash

/-- What a request found: the domain and the VNID by their numbers, the client by its address, and
the tunnel that the search for the physical address ends with. -/
theorem updateLookup_ok (found : updateLookup keysOrder s request = (mid, .ok target)) :
    s.domainHash.lookup request.domainId = some target.domain ∧
    (s.domain target.domain).dvgHash.lookup request.dvgId = some target.dvg ∧
    ∃ withClient, SameTunnels s withClient ∧
      (((s.domain target.domain).dpsClientsHash request.dpsClientIP.family).lookup
        request.dpsClientIP).all (· = target.dpsClient) ∧
      updateTunnel keysOrder withClient request target.domain target.dvg target.dpsClient
        request.pIP = (mid, .ok (target.clientType, target.tunnel, target.fnewTunnel)) := by
  unfold updateLookup at found
  split at found
  · simp at found
  · cases clientIP : ipGetValFromPacked request.dpsClientIP with
    | none => simp [clientIP] at found
    | some dpsClientIPVal =>
      cases physical : ipGetValFromPacked request.pIP with
      | none => simp [clientIP, physical] at found
      | some pIPVal =>
        simp only [clientIP, physical] at found
        obtain rfl := ipGetValFromPacked_some clientIP
        obtain rfl := ipGetValFromPacked_some physical
        obtain ⟨host, touched⟩ := s.hostTouch_eq request.dpsClientIP request.dpsClientPort
        rw [touched] at found
        rcases named : ({ s with host } : Collection).updateVnid request with
          ⟨counted, _ | ⟨domain, dvg, ipMode⟩⟩
        · simp [named] at found
        · simp only [named] at found
          obtain ⟨domainFound, dvgFound, rfl⟩ := updateVnid_ok named
          obtain ⟨withClient, client, tunnel, rfl, rfl⟩ := updateUnderlay_ok found
          refine ⟨domainFound, dvgFound, withClient, ?_, ?_, tunnel⟩
          · obtain ⟨-, rfl⟩ | ⟨-, created⟩ := updateClient_ok client
            · refine ⟨rfl, rfl, rfl, rfl, fun other => ?_⟩
              by_cases same : other = target.domain <;> simp [modifyClient, modifyDomain, same]
            · obtain ⟨rfl, -⟩ := Prod.mk.inj created
              refine ⟨rfl, rfl, rfl, rfl, fun other => ?_⟩
              by_cases same : other = target.domain <;>
                simp [domainDpsClientAdd, modifyDomain, same]
          · obtain ⟨held, -⟩ | ⟨missing, -⟩ := updateClient_ok client
            · simp only [modifyDomain, Function.update_self] at held
              simp [held]
            · simp only [modifyDomain, Function.update_self] at missing
              simp [missing]

/-- The three ways in which the registration of a single address succeeds: the address is new, it
is taken from another client's tunnel, or it belongs to a tunnel of the client. -/
theorem register_single_ok {clientType : ClientType} {transactionType : TransactionType}
    {dpsClient : ClientId} {inetType : InetType} {ipValue : IPValue}
    (allowed : clientType.isTunnelType = true)
    (registered : register keysOrder s domain dvg clientType transactionType dpsClient
      [(inetType, ipValue)] = (mid, false)) :
    ∃ after : Collection, mid = after.externalGateways dvg clientType .add [(inetType, ipValue)] ∧
      (after = (s.tunnelCreate domain dvg clientType transactionType dpsClient
        [(inetType, ipValue)]).1 ∨
      (∃ tunnel, ((s.domain domain).tunnelEndpointsHash inetType).lookup ipValue = some tunnel ∧
        (s.tunnel tunnel).dpsClient ≠ dpsClient) ∨
      ∃ tunnel, (after, false) = s.registerExisting tunnel domain dvg clientType transactionType
        dpsClient [(inetType, ipValue)]) := by
  rw [register_single keysOrder s domain dvg clientType transactionType dpsClient inetType ipValue
    allowed] at registered
  cases held : ((s.domain domain).tunnelEndpointsHash inetType).lookup ipValue with
  | none =>
    simp only [held, Bool.false_eq_true, if_false, Prod.mk.injEq, and_true] at registered
    exact ⟨_, registered.symm, Or.inl rfl⟩
  | some tunnel =>
    by_cases same : (s.tunnel tunnel).dpsClient = dpsClient
    · simp only [held, same, ne_eq, not_true_eq_false, if_false] at registered
      rcases outcome : s.registerExisting tunnel domain dvg clientType transactionType dpsClient
        [(inetType, ipValue)] with ⟨after, _ | _⟩
      · simp only [outcome, Bool.false_eq_true, if_false, Prod.mk.injEq, and_true] at registered
        exact ⟨after, registered.symm, Or.inr (Or.inr ⟨tunnel, outcome.symm⟩)⟩
      · simp [outcome] at registered
    · simp only [held, same, ne_eq, not_false_eq_true, if_true, Bool.false_eq_true, if_false,
        Prod.mk.injEq, and_true] at registered
      exact ⟨_, registered.symm, Or.inr (Or.inl ⟨tunnel, rfl, same⟩)⟩

/-- Whether the physical address of a request belongs to the tunnel of another client, which
loses it if the request has to register the address. -/
def takesAddress (s : Collection) (request : EndpointUpdateRequest) : Bool :=
  (s.domainHash.lookup request.domainId).any fun domain =>
    (((s.domain domain).tunnelEndpointsHash request.pIP.family).lookup request.pIP).any fun tunnel =>
      ((s.domain domain).dpsClientsHash request.dpsClientIP.family).lookup request.dpsClientIP ≠
        some (s.tunnel tunnel).dpsClient

theorem tunnelCreate_directory (s : Collection) (domain : DomainId) (dvg : DvgId)
    (clientType : ClientType) (transactionType : TransactionType) (client : ClientId)
    (pips : List (InetType × IPValue)) :
    (s.tunnelCreate domain dvg clientType transactionType client pips).1.directory =
      s.directory.setTunnelMAC s.nextTunnel ∅ :=
  (((Quiet.refl _).ipAddAll ..).hostAdd ..).1

theorem registerExisting_directory (s : Collection) (self : TunnelId) (domain : DomainId)
    (dvg : DvgId) (clientType : ClientType) (transactionType : TransactionType)
    (client : ClientId) (pips : List (InetType × IPValue)) :
    (s.registerExisting self domain dvg clientType transactionType client pips).1.directory =
      s.directory := by
  unfold registerExisting
  split
  · exact ((((Quiet.refl s).modifyTunnel _ _ (by rfl)).ipAddAll ..).hostAdd ..).1
  · rfl

/-- A request that takes no address from another client deletes no endpoint before it is
applied. -/
theorem updateLookup_still (found : updateLookup keysOrder s request = (mid, .ok target))
    (keeps : s.takesAddress request = false) :
    mid.directory = s.directory ∨ mid.directory = s.directory.setTunnelMAC s.nextTunnel ∅ := by
  obtain ⟨domainFound, -, withClient, ⟨directory, tunnels, -, next, tables⟩, client, search⟩ :=
    updateLookup_ok found
  obtain rfl | ⟨missing, registered, known⟩ := updateTunnel_ok search
  · exact Or.inl directory
  · cases allowed : target.clientType.isTunnelType with
    | false =>
      rw [register, if_neg (List.cons_ne_nil _ _), allowed, if_pos (by decide)] at registered
      obtain ⟨rfl, -⟩ := Prod.mk.inj registered
      rw [missing] at known
      cases known
    | true =>
      obtain ⟨after, rfl, outcome⟩ := register_single_ok allowed registered
      rw [((Quiet.refl after).externalGateways ..).1]
      obtain rfl | ⟨tunnel, held, other⟩ | ⟨tunnel, existing⟩ := outcome
      · rw [tunnelCreate_directory, directory, next]
        exact Or.inr rfl
      · -- the client of the request is the one whose tunnel has the address
        simp only [takesAddress, domainFound, Option.any_some, ← tables, held, ← tunnels, ne_eq,
          decide_not, Bool.not_eq_false', decide_eq_true_eq] at keeps
        rw [keeps] at client
        simp only [Option.all_some, decide_eq_true_eq] at client
        exact absurd client other
      · rw [show after = _ from congrArg Prod.fst existing, registerExisting_directory]
        exact Or.inl directory

end Found

end Collection

end OpenDove
