import OpenDove.EndpointEvents

/-!
# Rejected endpoint updates

An endpoint update that is answered with an error, or with a retry because of its version, is not
to change the endpoint or the objects of its domain. But `Endpoint.update` checks the version after
it has written the VNID and the client type and has ended a migration, and `Endpoint_Update` moves
the endpoint to the tunnel of the request before that. A request that gets that far leaves everything
as it was only if it says where the endpoint already is. One that fails earlier has changed nothing,
unless it created a client or a tunnel in the shared domain.
-/

namespace OpenDove

namespace Collection

/-- The endpoints, their places in the expiration queue, and the objects of every domain are as
before. -/
structure Unaltered (before after : Collection) : Prop where
  endpoint : after.directory.endpoint = before.directory.endpoint
  queue : ∀ endpoint, endpoint ∈ after.directory.expirationQueue ↔
    endpoint ∈ before.directory.expirationQueue
  endpoints : after.directory.domainTables = before.directory.domainTables
  tunnels : ∀ domain, (after.domain domain).tunnelEndpointsHash =
    (before.domain domain).tunnelEndpointsHash
  clients : ∀ domain, (after.domain domain).dpsClientsHash = (before.domain domain).dpsClientsHash

variable (s : Collection) (request : EndpointUpdateRequest) (target : UpdateTarget)

/-- The endpoint with the MAC address of a request refuses its version. -/
def RefusesVersion (domain : DomainId) (endpoint : EndpointId) : Prop :=
  (s.directory.domainTables domain).findMAC request.vMac = some endpoint ∧
    Directory.versionNext (s.directory.endpoint endpoint).version request.version
      request.transactionType = none

/-- A reply rejects a request: with an error, or with a retry because of the version that the
endpoint has when the objects of the request are found. -/
def Rejects (keysOrder : KeysOrder) (reply : EndpointUpdateReply) : Prop :=
  reply.status ≠ .none ∧ (reply.status = .retry → ∃ domain endpoint,
    s.domainHash.lookup request.domainId = some domain ∧
      (updateLookup keysOrder s request).1.RefusesVersion request domain endpoint)

/-- If a request is rejected, it changed nothing. -/
def RejectedUnaltered (keysOrder : KeysOrder) (sendFails : Bool) : Prop :=
  s.Rejects request keysOrder (endpointUpdate keysOrder s request sendFails).2 →
    s.Unaltered (endpointUpdate keysOrder s request sendFails).1

/-! ## When nothing changes -/

/-- The client and the tunnel of a request are known, if it is for the shared domain, which would
create them. -/
def CreatesNothing : Prop :=
  request.domainId = sharedDomainID → ∀ domain ∈ s.domainHash.lookup request.domainId,
    (((s.domain domain).dpsClientsHash request.dpsClientIP.family).lookup
      request.dpsClientIP).isSome ∧
    ∀ dvg ∈ (s.domain domain).dvgHash.lookup request.dvgId,
      ∀ clientType ∈ ClientType.ofCode request.clientType,
        (s.findTunnel dvg clientType request.pIP.family request.pIP).isSome

/-- The state after the address of a request was claimed from another endpoint, if one has it, and
whether the claim raised. -/
def claimAddress (sendFails : Bool) : Collection × Bool :=
  (s.conflictingEndpoint request target.domain).elim (s, false) fun claimant =>
    s.claimVIP target.domain claimant (vIPVal request) request.transactionType sendFails

/-- A request gets as far as to create its endpoint, and the server has as many as it may have. -/
def Full (sendFails : Bool) : Prop :=
  (s.claimAddress request target sendFails).2 = false ∧
    (s.directory.domainTables target.domain).findMAC request.vMac = none ∧
    request.operation ≠ .delete ∧
    (request.operation = .add ∨ request.operation = .vipAdd ∨ request.operation = .migrateIn ∨
      request.transactionType = .massTransfer) ∧
    Directory.endpointsCountMax ≤
      (s.claimAddress request target sendFails).1.directory.endpointsCount

/-- What is left when the creation failed. -/
def undone (sendFails : Bool) : Collection :=
  (s.claimAddress request target sendFails).1.updateUndo
    (if target.fnewTunnel then some target.tunnel else none)
    (if target.fnewDpsClient then some target.dpsClient else none)

/-- A request gets as far as the version of its endpoint, which refuses it. One that withdraws
something gets there only from the tunnel of the endpoint. -/
def Refused (sendFails : Bool) (endpoint : EndpointId) : Prop :=
  (s.claimAddress request target sendFails).2 = false ∧
    s.RefusesVersion request target.domain endpoint ∧
    ((s.directory.endpoint endpoint).tunnelEndpoint = target.tunnel ∨
      ¬ (request.operation = .delete ∨ request.operation = .vipDel ∨
        request.operation = .migrateOut))

/-- A request names the VNID, the client type and the tunnel that an endpoint has, and the endpoint
is neither in migration nor about to expire. -/
def InPlace (endpoint : EndpointId) : Prop :=
  let self := s.directory.endpoint endpoint
  self.dvg = target.dvg ∧ self.vnid = request.vnid ∧ self.clientType = target.clientType ∧
    self.tunnelEndpoint = target.tunnel ∧ self.inMigration = false ∧
    endpoint ∉ s.directory.expirationQueue

/-- The three ways in which a request is rejected change nothing: an object it names is missing, the
endpoint cannot be created, its version is refused. In the first two only a request that created
something has changed anything. -/
structure Harmless (keysOrder : KeysOrder) (sendFails : Bool) : Prop where
  missing : ¬ s.CreatesNothing request → ∀ mid error,
    updateLookup keysOrder s request = (mid, .error error) → s.Unaltered mid
  full : ¬ s.CreatesNothing request → ∀ mid target,
    updateLookup keysOrder s request = (mid, .ok target) → mid.Full request target sendFails →
    s.Unaltered (mid.undone request target sendFails)
  refused : ∀ mid target endpoint, updateLookup keysOrder s request = (mid, .ok target) →
    mid.Refused request target sendFails endpoint →
    s.Unaltered mid ∧ mid.InPlace request target endpoint

section Steps

variable {s mid after : Collection} {request : EndpointUpdateRequest} {domain : DomainId}

namespace Unaltered

@[refl] theorem refl (s : Collection) : s.Unaltered s :=
  ⟨rfl, fun _ => Iff.rfl, rfl, fun _ => rfl, fun _ => rfl⟩

theorem trans (first : s.Unaltered mid) (second : mid.Unaltered after) : s.Unaltered after :=
  ⟨second.endpoint.trans first.endpoint, fun e => (second.queue e).trans (first.queue e),
    second.endpoints.trans first.endpoints, fun d => (second.tunnels d).trans (first.tunnels d),
    fun d => (second.clients d).trans (first.clients d)⟩

end Unaltered

variable (s)

/-- A claim for an address alters neither endpoints nor tunnels nor clients. -/
theorem unaltered_claimAddress (request : EndpointUpdateRequest) (target : UpdateTarget)
    (sendFails : Bool) : s.Unaltered (s.claimAddress request target sendFails).1 := by
  unfold claimAddress
  cases s.conflictingEndpoint request target.domain with
  | none => rfl
  | some claimant =>
    dsimp only [Option.elim_some, claimVIP]
    obtain ⟨⟨endpoint, -, tables, -⟩, queue⟩ := s.directory.endpointClaimVIP_frame target.domain
      (s.domain target.domain).uniqueId claimant (vIPVal request)
      (request.transactionType = .normal ∧ sendFails ∧
        s.pending.addressResolutionRequestsTo.size < maxPendingQueueSize)
    split
    · exact ⟨endpoint, fun _ => by rw [← queue]; rfl, tables, fun _ => rfl, fun _ => rfl⟩
    · exact ⟨endpoint, fun _ => by rw [← queue], tables, fun _ => rfl, fun _ => rfl⟩

/-- Counting a request and noting the port of its client alter nothing. -/
theorem unaltered_modifyDomain (domain : DomainId) :
    s.Unaltered (s.modifyDomain domain fun d =>
      { d with endpointUpdateCount := d.endpointUpdateCount + 1 }) :=
  ⟨rfl, fun _ => Iff.rfl, rfl, update_keeps Domain.tunnelEndpointsHash s.domain rfl,
    update_keeps Domain.dpsClientsHash s.domain rfl⟩

theorem unaltered_updateVnid (request : EndpointUpdateRequest) :
    s.Unaltered (s.updateVnid request).1 := by
  unfold updateVnid
  cases s.domainHash.lookup request.domainId with
  | none => rfl
  | some domain =>
    have counted := s.unaltered_modifyDomain domain
    dsimp only
    split_ifs
    · rfl
    · split
      · exact counted
      · split_ifs
        · exact counted
        · exact counted
        · split <;> exact counted

variable {s}

variable (keysOrder : KeysOrder)

/-- A client and a tunnel that are known, or need not be, are not created. -/
theorem updateUnderlay_known {dvg : DvgId} (ipMode : SubnetMode)
    (client : request.domainId = sharedDomainID →
      (((s.domain domain).dpsClientsHash request.dpsClientIP.family).lookup
        request.dpsClientIP).isSome)
    (tunnel : request.domainId = sharedDomainID →
      ∀ clientType ∈ ClientType.ofCode request.clientType,
        (s.findTunnel dvg clientType request.pIP.family request.pIP).isSome) :
    let found := updateUnderlay keysOrder s request domain dvg ipMode request.dpsClientIP request.pIP
    s.Unaltered found.1 ∧ ∀ target, found.2 = .ok target →
      target.fnewTunnel = false ∧ target.fnewDpsClient = false := by
  unfold updateUnderlay updateClient
  cases held : ((s.domain domain).dpsClientsHash request.dpsClientIP.family).lookup
      request.dpsClientIP with
  | none =>
    rw [if_neg fun shared => by simpa [held] using client shared]
    exact ⟨.refl s, by simp⟩
  | some dpsClient =>
    have noted : s.Unaltered (s.modifyClient dpsClient fun c =>
        { c with location := { c.location with port := request.dpsClientPort } }) :=
      ⟨rfl, fun _ => Iff.rfl, rfl, fun _ => rfl, fun _ => rfl⟩
    unfold updateTunnel
    cases code : ClientType.ofCode request.clientType with
    | none => exact ⟨noted, by simp⟩
    | some clientType =>
      cases found : s.findTunnel dvg clientType request.pIP.family request.pIP with
      | none =>
        have missing := found
        rw [findTunnel] at missing
        simp only [modifyClient, missing,
          if_neg fun shared => by simpa [found] using tunnel shared clientType code]
        exact ⟨noted, by simp⟩
      | some number =>
        have known := found
        rw [findTunnel] at known
        simp only [modifyClient, known]
        split
        · exact ⟨noted, by simp⟩
        · refine ⟨noted, ?_⟩
          rintro _ ⟨⟩
          exact ⟨rfl, rfl⟩

theorem updateLookup_known (known : s.CreatesNothing request) :
    s.Unaltered (updateLookup keysOrder s request).1 ∧
      ∀ target, (updateLookup keysOrder s request).2 = .ok target →
        target.fnewTunnel = false ∧ target.fnewDpsClient = false := by
  unfold updateLookup
  split
  · exact ⟨.refl s, nofun⟩
  · cases clientIP : ipGetValFromPacked request.dpsClientIP with
    | none => exact ⟨.refl s, nofun⟩
    | some dpsClientIPVal =>
      obtain rfl := ipGetValFromPacked_some clientIP
      obtain ⟨host, touched⟩ := s.hostTouch_eq request.dpsClientIP request.dpsClientPort
      have start : s.Unaltered { s with host } :=
        ⟨rfl, fun _ => Iff.rfl, rfl, fun _ => rfl, fun _ => rfl⟩
      dsimp only
      rw [touched]
      cases physical : ipGetValFromPacked request.pIP with
      | none => exact ⟨start, nofun⟩
      | some pIPVal =>
        obtain rfl := ipGetValFromPacked_some physical
        have unaltered := start.trans (({ s with host } : Collection).unaltered_updateVnid request)
        dsimp only
        rcases named : ({ s with host } : Collection).updateVnid request with
          ⟨counted, _ | ⟨domain, dvg, ipMode⟩⟩
        · rw [named] at unaltered
          dsimp only
          exact ⟨unaltered, nofun⟩
        · rw [named] at unaltered
          dsimp only
          obtain ⟨domainFound, dvgFound, written⟩ := updateVnid_ok named
          have sameTunnels : counted.findTunnel = s.findTunnel := written ▸ rfl
          have found := updateUnderlay_known (s := counted) keysOrder ipMode
            (fun shared => (unaltered.clients domain) ▸ (known shared domain domainFound).1)
            fun shared => sameTunnels ▸ (known shared domain domainFound).2 dvg dvgFound
          exact ⟨unaltered.trans found.1, found.2⟩

/-- A status that is neither a success nor a retry. -/
def IsError (status : ReplyStatus) : Prop := status ≠ .none ∧ status ≠ .retry

theorem updateVnid_error (s : Collection) (request : EndpointUpdateRequest) (status : ReplyStatus)
    (failed : (s.updateVnid request).2 = .error status) : IsError status := by
  unfold updateVnid at failed
  grind [IsError]

theorem updateTunnel_error (s : Collection) (request : EndpointUpdateRequest)
    (domain : DomainId) (dvg : DvgId) (client : ClientId) (physical : IPValue) (status : ReplyStatus)
    (failed : (updateTunnel keysOrder s request domain dvg client physical).2 = .error status) :
    IsError status := by
  unfold updateTunnel at failed
  grind [IsError]

theorem updateUnderlay_error (s : Collection)
    (request : EndpointUpdateRequest) (domain : DomainId) (dvg : DvgId) (mode : SubnetMode)
    (clientIP physical : IPValue) (error : ReplyStatus × SubnetMode)
    (failed : (updateUnderlay keysOrder s request domain dvg mode clientIP physical).2 =
      .error error) : IsError error.1 := by
  unfold updateUnderlay updateClient at failed
  grind [IsError, updateTunnel_error]

theorem updateLookup_error {keysOrder : KeysOrder} {error : ReplyStatus × SubnetMode}
    (failed : (updateLookup keysOrder s request).2 = .error error) : IsError error.1 := by
  unfold updateLookup at failed
  split at failed
  · grind [IsError]
  · clear * - failed
    grind [IsError, updateVnid_error, updateUnderlay_error]

/-! ## The rejections -/

variable {target : UpdateTarget} {sendFails : Bool} {endpoint : EndpointId}

/-- The second part of a request, in terms of the claim. -/
theorem updateApply_claimed (s : Collection) (request : EndpointUpdateRequest)
    (target : UpdateTarget) (sendFails : Bool) :
    let claimed := (s.claimAddress request target sendFails).1
    ∃ vIP, s.updateApply request target sendFails =
      if (s.claimAddress request target sendFails).2 then
        (claimed, earlyReply request .none target.ipMode)
      else match (s.directory.domainTables target.domain).findMAC request.vMac with
        | none => claimed.updateNew request target vIP
        | some endpoint =>
          if (s.directory.endpoint endpoint).tunnelEndpoint = target.tunnel then
            claimed.updateExisting request target vIP endpoint
          else if request.operation = .delete ∨ request.operation = .vipDel ∨
              request.operation = .migrateOut then
            (claimed, earlyReply request .none target.ipMode)
          else
            (claimed.vmotion endpoint target.dvg request.vnid target.clientType
              target.tunnel).updateExisting request target vIP endpoint := by
  dsimp only
  rw [← (s.unaltered_claimAddress request target sendFails).endpoint]
  exact ⟨_, rfl⟩

theorem updateApply_full (full : s.Full request target sendFails) :
    s.updateApply request target sendFails =
      (s.undone request target sendFails, earlyReply request .noMemory target.ipMode) := by
  obtain ⟨unraised, unknown, notDelete, creates, count⟩ := full
  obtain ⟨vIP, applied⟩ := s.updateApply_claimed request target sendFails
  rw [applied, unraised, if_neg Bool.false_ne_true, unknown]
  simp only [updateNew, if_neg notDelete, if_pos creates, Directory.create, if_pos count, undone]

/-- An update whose version is refused has arrived. -/
theorem updateExisting_refused (s : Collection) (target : UpdateTarget) (vIP : Option VirtualIP)
    {endpoint : EndpointId} (refused : Directory.versionNext (s.directory.endpoint endpoint).version
      request.version request.transactionType = none) :
    (s.updateExisting request target vIP endpoint).1 = (s.onDirectory fun dir =>
        dir.updateArrive endpoint target.dvg request.vnid target.clientType) ∧
      (s.updateExisting request target vIP endpoint).2.status = .retry := by
  have core := (s.directory.updateArrive_effect endpoint target.dvg request.vnid
    target.clientType).1.core endpoint
  rw [if_pos rfl] at core
  have kept := congrArg EndpointCore.version core
  dsimp only [updateExisting, Collection.update, onDirectory]
  rw [kept, refused]
  exact ⟨rfl, rfl⟩

theorem updateExisting_status (s : Collection) (request : EndpointUpdateRequest)
    (target : UpdateTarget) (vIP : Option VirtualIP) (endpoint : EndpointId) :
    (s.updateExisting request target vIP endpoint).2.status = .none ∨
      (s.updateExisting request target vIP endpoint).2.status = .retry := by
  dsimp only [updateExisting]
  split
  · exact .inr rfl
  · exact ite_eq_or_eq ..

/-- What a request has done to its endpoint when the version is checked. -/
def arrived (s : Collection) (request : EndpointUpdateRequest) (target : UpdateTarget)
    (sendFails : Bool) (endpoint : EndpointId) : Collection :=
  let claimed := (s.claimAddress request target sendFails).1
  let moved := if (s.directory.endpoint endpoint).tunnelEndpoint = target.tunnel then claimed
    else claimed.vmotion endpoint target.dvg request.vnid target.clientType target.tunnel
  moved.onDirectory fun dir => dir.updateArrive endpoint target.dvg request.vnid target.clientType

theorem updateApply_refused (refused : s.Refused request target sendFails endpoint) :
    (s.updateApply request target sendFails).1 = s.arrived request target sendFails endpoint ∧
      (s.updateApply request target sendFails).2.status = .retry := by
  obtain ⟨unraised, ⟨isMac, refuses⟩, comes⟩ := refused
  obtain ⟨vIP, applied⟩ := s.updateApply_claimed request target sendFails
  rw [← (s.unaltered_claimAddress request target sendFails).endpoint] at refuses
  rw [applied, unraised, if_neg Bool.false_ne_true, isMac]
  unfold arrived
  by_cases here : (s.directory.endpoint endpoint).tunnelEndpoint = target.tunnel
  · simp only [if_pos here]
    exact updateExisting_refused _ target vIP refuses
  · simp only [if_neg here, if_neg (comes.resolve_left here)]
    refine updateExisting_refused _ target vIP ?_
    have core := (Directory.vmotion_moved (s.claimAddress request target sendFails).1.directory
      endpoint target.dvg request.vnid target.clientType target.tunnel).core endpoint
    rw [if_pos rfl] at core
    rw [vmotion_directory, congrArg EndpointCore.version core]
    exact refuses

theorem updateApply_accepted (room : ¬ s.Full request target sendFails)
    (accepts : ∀ endpoint, ¬ s.Refused request target sendFails endpoint) :
    (s.updateApply request target sendFails).2.status = .none ∨
      (s.updateApply request target sendFails).2.status = .retry ∧
        ∀ endpoint, ¬ s.RefusesVersion request target.domain endpoint := by
  obtain ⟨vIP, applied⟩ := s.updateApply_claimed request target sendFails
  rw [applied]
  cases raised : (s.claimAddress request target sendFails).2 with
  | true => exact .inl rfl
  | false =>
    rw [if_neg Bool.false_ne_true]
    cases mac : (s.directory.domainTables target.domain).findMAC request.vMac with
    | none =>
      have unknown (endpoint : EndpointId) : ¬ s.RefusesVersion request target.domain endpoint :=
        fun refuses => nomatch mac.symm.trans refuses.1
      dsimp only [updateNew]
      by_cases delete : request.operation = .delete
      · exact .inl (by rw [if_pos delete]; rfl)
      · rw [if_neg delete]
        split
        next creates =>
          rw [Directory.create, if_neg fun count => room ⟨raised, mac, delete, creates, count⟩]
          exact (ite_eq_or_eq ..).imp_right fun retry => ⟨retry, unknown⟩
        next => exact .inr ⟨rfl, unknown⟩
    | some endpoint =>
      have accepted (comes : (s.directory.endpoint endpoint).tunnelEndpoint = target.tunnel ∨
          ¬ (request.operation = .delete ∨ request.operation = .vipDel ∨
            request.operation = .migrateOut)) (other : EndpointId) :
          ¬ s.RefusesVersion request target.domain other := by
        intro refuses
        obtain rfl := Option.some.inj (mac.symm.trans refuses.1)
        exact accepts endpoint ⟨raised, refuses, comes⟩
      dsimp only
      split_ifs with here withdraws
      · exact (updateExisting_status ..).imp_right fun retry => ⟨retry, accepted (.inl here)⟩
      · exact .inl rfl
      · exact (updateExisting_status ..).imp_right fun retry => ⟨retry, accepted (.inr withdraws)⟩

/-- A directory in which deletions have left every endpoint valid has not changed. -/
theorem shrinks_still {new : TunnelId → Prop} {start after : Directory}
    (shrinks : Directory.Shrinks new start after)
    (alive : ∀ endpoint, (start.endpoint endpoint).valid = (after.endpoint endpoint).valid) :
    after.endpoint = start.endpoint ∧ after.expirationQueue = start.expirationQueue ∧
      after.domainTables = start.domainTables := by
  induction shrinks with
  | refl => exact ⟨rfl, rfl, rfl⟩
  | @delete dir before endpoint ih =>
    have fewer : (dir.endpoint endpoint).valid = true → (start.endpoint endpoint).valid = true := by
      refine before.preserves (fun dir => (dir.endpoint endpoint).valid = true →
        (start.endpoint endpoint).valid = true) (fun dir other held valid => ?_)
        (fun _ _ _ held => held) id
      rw [Directory.delete_valid] at valid
      split at valid
      · cases valid
      · exact held valid
    have dead : (dir.endpoint endpoint).valid = false := by
      by_contra live
      have gone := alive endpoint
      rw [Directory.delete_valid, if_pos rfl] at gone
      simp [fewer (Bool.of_not_eq_false live)] at gone
    rw [Directory.delete_of_dead dir endpoint dead] at alive ⊢
    exact ih alive
  | drain before tunnel drained ih => exact ih alive

/-- An endpoint that is in place does not change when it arrives. -/
theorem InPlace.unaltered (inPlace : s.InPlace request target endpoint) :
    s.Unaltered (s.onDirectory fun dir =>
      dir.updateArrive endpoint target.dvg request.vnid target.clientType) := by
  obtain ⟨isDvg, isVnid, isType, -, settled, lasting⟩ := inPlace
  have same : s.directory.modifyEndpoint endpoint (fun e =>
      { e with inMigration := false, clientType := target.clientType, vnid := request.vnid }) =
        s.directory := by
    rw [Directory.modifyEndpoint, ← settled, ← isType, ← isVnid]
    exact congrArg ({ s.directory with endpoint := · }) (Function.update_eq_self ..)
  have arrived : s.directory.updateArrive endpoint target.dvg request.vnid target.clientType =
      { s.directory with expirationQueue := s.directory.expirationQueue.erase endpoint } := by
    dsimp only [Directory.updateArrive]
    rw [same]
    exact if_neg (not_not.mpr isDvg)
  rw [onDirectory, arrived]
  refine ⟨rfl, fun other => ?_, rfl, fun _ => rfl, fun _ => rfl⟩
  rw [AList.mem_erase]
  exact and_iff_right_of_imp fun queued same => lasting (same ▸ queued)

/-- If an endpoint has arrived and nothing has changed, the endpoints have not changed before, and the
endpoint had what it arrived with. -/
theorem Unaltered.before_arrival {moved : Collection} (grown : Grown s mid)
    (valid : ∀ other, (moved.directory.endpoint other).valid =
      (mid.directory.endpoint other).valid)
    (unaltered : s.Unaltered (moved.onDirectory fun dir =>
      dir.updateArrive endpoint target.dvg request.vnid target.clientType)) :
    (mid.directory.endpoint = s.directory.endpoint ∧
      mid.directory.expirationQueue = s.directory.expirationQueue ∧
      mid.directory.domainTables = s.directory.domainTables) ∧
    (s.directory.endpoint endpoint).toEndpointCore =
      { (moved.directory.endpoint endpoint).toEndpointCore with
        dvg := target.dvg, vnid := request.vnid, clientType := target.clientType
        inMigration := false } ∧
    endpoint ∉ s.directory.expirationQueue := by
  have core := (moved.directory.updateArrive_effect endpoint target.dvg request.vnid
    target.clientType).1.core
  have same : (moved.directory.updateArrive endpoint target.dvg request.vnid
    target.clientType).endpoint = s.directory.endpoint := unaltered.endpoint
  rw [same] at core
  refine ⟨shrinks_still grown.1 fun other => ?_, (core endpoint).trans (if_pos rfl), ?_⟩
  · rw [← valid, congrArg EndpointCore.valid (core other)]
    split
    · next same => rw [same]
    · rfl
  · rw [← unaltered.queue]
    by_cases stays : (moved.directory.endpoint endpoint).dvg = target.dvg <;>
      simp [onDirectory, Directory.updateArrive, stays]

/-- A refused request has changed nothing exactly if its endpoint was in place. -/
theorem unaltered_arrived_iff (grown : Grown s mid) :
    s.Unaltered (mid.arrived request target sendFails endpoint) ↔
      s.Unaltered mid ∧ mid.InPlace request target endpoint := by
  have claim := mid.unaltered_claimAddress request target sendFails
  unfold arrived
  constructor
  · intro unaltered
    by_cases here : (mid.directory.endpoint endpoint).tunnelEndpoint = target.tunnel
    · simp only [if_pos here] at unaltered
      obtain ⟨⟨endpoints, queue, tables⟩, self, lasting⟩ :=
        unaltered.before_arrival grown fun other => by rw [claim.endpoint]
      rw [← endpoints] at self
      exact ⟨⟨endpoints, fun other => by rw [queue], tables,
        fun domain => (claim.tunnels domain).symm.trans (unaltered.tunnels domain),
        fun domain => (claim.clients domain).symm.trans (unaltered.clients domain)⟩,
        congrArg EndpointCore.dvg self, congrArg EndpointCore.vnid self,
        congrArg EndpointCore.clientType self, here, congrArg EndpointCore.inMigration self,
        queue ▸ lasting⟩
    · simp only [if_neg here] at unaltered
      have core := (Directory.vmotion_moved (mid.claimAddress request target sendFails).1.directory
        endpoint target.dvg request.vnid target.clientType target.tunnel).core
      rw [← vmotion_directory] at core
      obtain ⟨⟨endpoints, -⟩, self, -⟩ := unaltered.before_arrival grown fun other => by
        rw [congrArg EndpointCore.valid (core other), claim.endpoint]
        split
        · next same => rw [same]
        · rfl
      rw [← endpoints, core endpoint, if_pos rfl] at self
      exact absurd (congrArg EndpointCore.tunnelEndpoint self) here
  · rintro ⟨start, inPlace⟩
    obtain ⟨isDvg, isVnid, isType, isTunnel, settled, lasting⟩ := inPlace
    simp only [if_pos isTunnel]
    refine start.trans (claim.trans (InPlace.unaltered ?_))
    rw [InPlace, claim.endpoint, claim.queue]
    exact ⟨isDvg, isVnid, isType, isTunnel, settled, lasting⟩

end Steps

/-- Two switches, the first with an endpoint. -/
def oneMachine : Collection :=
  (endpointUpdate .listed twoSwitches (machineUpdate 1 9 .add 5) false).1

/-- An update of the endpoint with a version that it does not expect. -/
def staleUpdate (switch : UInt32) : EndpointUpdateRequest :=
  { machineUpdate switch 9 .add 5 with version := 5 }

end Collection

end OpenDove
