import OpenDove.Deletion

/-!
# Endpoint updates

The request with which a DPS client announces, moves or withdraws an endpoint, and the timers
that work on endpoints. The handler first finds the objects the request names; in the shared
domain it creates the client and the tunnel if they are missing. It then looks for a conflict
over the announced address, moves an endpoint that is on another tunnel, and creates or updates
the endpoint.
-/

namespace OpenDove

/-! ## Operations on one endpoint -/

namespace Collection

variable (s : Collection) (self : EndpointId)

/-- `Endpoint.vmotion`. -/
def vmotion (dvg : DvgId) (vnid : Nat) (clientType : ClientType) (tunnelEndpoint : TunnelId) :
    Collection :=
  (s.tunnelEndpointDel (s.directory.endpoint self).tunnelEndpoint self).onDirectory fun dir =>
    dir.vmotionArrive self dvg vnid clientType tunnelEndpoint

/-- `Endpoint.update_del`. -/
def updateDel (vIP : Option VirtualIP) : Collection :=
  let s := s.onDirectory fun dir =>
    (vIP.elim dir (dir.vIPAdd self)).modifyEndpoint self fun e => { e with inMigration := true }
  if s.directory.expirationQueue.size < Directory.maxEndpointTimerQueueLength then
    (s.tunnelEndpointDel (s.directory.endpoint self).tunnelEndpoint self).onDirectory fun dir =>
      { dir with expirationQueue := dir.expirationQueue.insert self 3 }
  else s.endpointDelete self

/-- The function that `update_function_table` names. -/
def updateFunction (s : Collection) (self : EndpointId) (operation : UpdateOperation)
    (vIP : Option VirtualIP) : Collection :=
  match operation with
  | .delete | .migrateOut => s.updateDel self vIP
  | .add | .vipAdd | .migrateIn | .vipDel | .unsupported _ =>
    s.onDirectory fun dir => dir.updateFunction self operation vIP

/-- `Endpoint.update`, and whether it returned normally. -/
def update (dvg : DvgId) (vnid : Nat) (clientType : ClientType)
    (transactionType : TransactionType) (version : Nat) (operation : UpdateOperation)
    (vIP : Option VirtualIP) : Collection × Bool :=
  let s := s.onDirectory fun dir => dir.updateArrive self dvg vnid clientType
  match Directory.versionNext (s.directory.endpoint self).version version transactionType with
  | none => (s, false)
  | some version =>
    let s := s.onDirectory fun dir => dir.modifyEndpoint self fun e => { e with version }
    (s.updateFunction self operation vIP, true)

/-- `Endpoint_Expiration_Timeout`. -/
def endpointExpirationTimeout : Collection :=
  s.directory.expirationQueue.keys.foldl (fun s endpoint =>
    match s.directory.expirationQueue.lookup endpoint with
    | none => s
    | some 0 =>
      (s.onDirectory fun dir =>
        { dir with expirationQueue := dir.expirationQueue.erase endpoint }).endpointDelete endpoint
    | some (timeout + 1) =>
      s.onDirectory fun dir =>
        { dir with expirationQueue := dir.expirationQueue.insert endpoint timeout }) s

end Collection

/-! ## The request -/

/-- The arguments of `Endpoint_Update`. A packed address is the value it packs, of the family
that comes with it. -/
structure EndpointUpdateRequest where
  domainId : Nat
  dvgId : Nat
  vnid : Nat
  clientType : Nat
  transactionType : TransactionType
  dpsClientIP : IPValue
  dpsClientPort : Nat
  pIP : IPValue
  vMac : Mac
  vIP : IPValue
  operation : UpdateOperation
  version : Nat

/-- What `Endpoint_Update` returns. -/
structure EndpointUpdateReply where
  status : ReplyStatus
  ipMode : SubnetMode
  version : Nat
  vIPAddresses : List IPValue

/-- The objects that a request names, and whether they were created for it. -/
structure UpdateTarget where
  domain : DomainId
  dvg : DvgId
  clientType : ClientType
  dpsClient : ClientId
  tunnel : TunnelId
  ipMode : SubnetMode
  fnewDpsClient : Bool
  fnewTunnel : Bool

namespace Collection

/-- `IGateway_MAC_Bytes`. -/
def iGatewayMAC : Mac := 0x0018b1aaaa00#48
/-- `EGateway_MAC_Bytes`. -/
def eGatewayMAC : Mac := 0x0018b1aaaa01#48

variable (keysOrder : KeysOrder) (s : Collection) (request : EndpointUpdateRequest)
  (target : UpdateTarget) (domain : DomainId)

/-- The virtual address of a request; zero stands for none. -/
def vIPVal : IPValue :=
  (ipGetValFromPacked request.vIP).getD .zero

/-- The subnet check: the mode of the announced address, or `none` if it is in no subnet. -/
def updateIpMode (dvg : DVG) (vIPVal : IPValue) (operation : UpdateOperation) :
    Option SubnetMode :=
  match vIPVal with
  | .v4 value =>
    if value ≠ 0 ∧ 0 < dvg.ipSubnetList.count ∧ (operation = .add ∨ operation = .vipAdd) then
      dvg.ipSubnetList.validIp value
    else some .dedicated
  | .v6 _ => some .dedicated

/-- The domain and the VNID of a request, and the mode of its address. -/
def updateVnid : Collection × Except ReplyStatus (DomainId × DvgId × SubnetMode) :=
  match s.domainHash.lookup request.domainId with
  | none => (s, .error .invalidDomainId)
  | some domain =>
    if !(s.domain domain).valid then (s, .error .invalidDomainId)
    else
      let s := s.modifyDomain domain fun d =>
        { d with endpointUpdateCount := d.endpointUpdateCount + 1 }
      match (s.domain domain).dvgHash.lookup request.dvgId with
      | none => (s, .error .invalidSrcDvg)
      | some dvg =>
        if !(s.dvg dvg).valid then (s, .error .invalidSrcDvg)
        else if (s.dvg dvg).implicitGatewayIPListv4.search (vIPVal request) then
          (s, .error .invalidSrcIp)
        else match updateIpMode (s.dvg dvg) (vIPVal request) request.operation with
          | none => (s, .error .invalidSrcIp)
          | some ipMode => (s, .ok (domain, dvg, ipMode))

/-- The DPS client of a request, and whether it was created. -/
def updateClient (ipVal : IPValue) : Collection × Except ReplyStatus (ClientId × Bool) :=
  match ((s.domain domain).dpsClientsHash request.dpsClientIP.family).lookup ipVal with
  | some client =>
    (s.modifyClient client fun c =>
      { c with location := { c.location with port := request.dpsClientPort } }, .ok (client, false))
  | none =>
    if request.domainId = sharedDomainID then
      let (s, client) := s.dpsClientCreate domain request.dpsClientIP.family ipVal
        request.dpsClientPort
      (s, .ok (client, true))
    else (s, .error .invalidTunnel)

/-- The tunnel of a request, and whether it was created. -/
def updateTunnel (dvg : DvgId) (dpsClient : ClientId) (pIPVal : IPValue) :
    Collection × Except ReplyStatus (ClientType × TunnelId × Bool) :=
  let missing : ReplyStatus :=
    if request.domainId = sharedDomainID then .noMemory else .invalidTunnel
  match ClientType.ofCode request.clientType with
  | none => (s, .error missing)
  | some clientType =>
    let find (s : Collection) :=
      ((s.dvg dvg).tunnelEndpointsHash clientType request.pIP.family).lookup pIPVal
    match find s with
    | some tunnel => (s, .ok (clientType, tunnel, false))
    | none =>
      if request.domainId = sharedDomainID then
        let (s, raised) := register keysOrder s domain dvg clientType request.transactionType
          dpsClient [(request.pIP.family, pIPVal)]
        match raised, find s with
        | false, some tunnel => (s, .ok (clientType, tunnel, true))
        | _, _ => (s, .error missing)
      else (s, .error missing)

/-- What a failed request undoes of the objects it created. -/
def updateUndo (tunnel : Option TunnelId) (dpsClient : Option ClientId) : Collection :=
  let s := tunnel.elim s s.tunnelDelete
  dpsClient.elim s s.dpsClientDelete

/-- The client and the tunnel of a request, which must belong together. -/
def updateUnderlay (dvg : DvgId) (ipMode : SubnetMode) (dpsClientIPVal pIPVal : IPValue) :
    Collection × Except (ReplyStatus × SubnetMode) UpdateTarget :=
  match s.updateClient request domain dpsClientIPVal with
  | (s, .error status) => (s, .error (status, ipMode))
  | (s, .ok (dpsClient, fnewDpsClient)) =>
    let newClient := if fnewDpsClient then some dpsClient else none
    match updateTunnel keysOrder s request domain dvg dpsClient pIPVal with
    | (s, .error status) => (s.updateUndo none newClient, .error (status, ipMode))
    | (s, .ok (clientType, tunnel, fnewTunnel)) =>
      if (s.tunnel tunnel).dpsClient ≠ dpsClient then
        (s.updateUndo (if fnewTunnel then some tunnel else none) newClient,
          .error (.invalidTunnel, ipMode))
      else
        (s, .ok { domain, dvg, clientType, dpsClient, tunnel, ipMode, fnewDpsClient, fnewTunnel })

/-- The first part of `Endpoint_Update`: the objects that the request names. -/
def updateLookup : Collection × Except (ReplyStatus × SubnetMode) UpdateTarget :=
  if request.vMac = eGatewayMAC ∨ request.vMac = iGatewayMAC then (s, .error (.invalidEuid, .dedicated))
  else match ipGetValFromPacked request.dpsClientIP with
    | none => (s, .error (.invalidTunnel, .dedicated))
    | some dpsClientIPVal =>
      let s := s.hostTouch dpsClientIPVal request.dpsClientPort
      match ipGetValFromPacked request.pIP with
      | none => (s, .error (.invalidTunnel, .dedicated))
      | some pIPVal =>
        match s.updateVnid request with
        | (s, .error status) => (s, .error (status, .dedicated))
        | (s, .ok (domain, dvg, ipMode)) =>
          updateUnderlay keysOrder s request domain dvg ipMode dpsClientIPVal pIPVal

/-! ## Applying the request -/

/-- `Endpoint.vIP_shared_mode`. -/
def vIPSharedMode (endpoint : Endpoint) : SubnetMode :=
  if endpoint.vIPSet.values.any (·.mode = .shared) then .shared else .dedicated

/-- `Max_Pending_Queue_Size`. -/
def maxPendingQueueSize : Nat := 256

/-- `ConflictDetection.endpoint_claim_vIP` for a request. A normal transaction sends an address
resolution to the claimant; `sendFails` tells whether the network refused it. The flag is set
when an exception was raised. -/
def claimVIP (endpoint : EndpointId) (vIPVal : IPValue) (transactionType : TransactionType)
    (sendFails : Bool) : Collection × Bool :=
  let raises : Bool := transactionType = .normal ∧ sendFails ∧
    s.pending.addressResolutionRequestsTo.size < maxPendingQueueSize
  let refused : Bool := vIPVal ∉ s.directory.conflicts domain ∧
    Dict.size (s.directory.conflicts domain) > Directory.conflictsMax
  let s := if transactionType = .normal ∧ !refused then s.generateQueryId.2 else s
  let (dir, raised) := s.directory.endpointClaimVIP domain (s.domain domain).uniqueId endpoint
    vIPVal raises
  ({ s with directory := dir }, raised)

/-- `Endpoint_Find_and_Detect_Conflict`: the endpoint the domain maps the address to, if it is
not the endpoint with the MAC address of the request. -/
def conflictingEndpoint : Option EndpointId :=
  let tables := s.directory.domainTables domain
  ((tables.endpointHashIP request.vIP.family).lookup (vIPVal request)).filter
    fun endpoint => tables.findMAC request.vMac ≠ some endpoint

/-- The end of a successful update: waiting resolutions are answered, the address is registered
with the conflict detection, and a running mass transfer is told. -/
def updateFinish (ipMode : SubnetMode) (endpoint : EndpointId) : Collection × EndpointUpdateReply :=
  let vIPVal := vIPVal request
  let self := s.directory.endpoint endpoint
  let vIPAddresses :=
    if request.operation = .vipAdd ∨ request.operation = .vipDel then [vIPVal]
    else self.vIPSetShow.values.map VirtualIP.ipValue
  let s := s.onPending fun p =>
    { p with
      addressResolutionRequestsTo := p.addressResolutionRequestsTo.purge (·.2.2 = request.vIP) }
  let s :=
    if vIPVal ≠ .zero ∧ (request.operation = .add ∨ request.operation = .vipAdd) then
      let s := s.modifyDomain target.domain fun d =>
        { d with
          addressResolution :=
            (d.addressResolution.processEndpointUpdate (vIPVal ∈ self.vIPSet) vIPVal).1 }
      s.onDirectory fun dir => dir.endpointRegisterVIP target.domain endpoint vIPVal
    else s
  let s := if request.operation = .migrateIn then
      s.onPending fun p =>
        { p with
          vmMigrationUpdateQueue :=
            p.vmMigrationUpdateQueue ++ [(endpoint, target.domain, request.vnid)] }
    else s
  let (s, status) := s.registerEndpoint target.domain request.dvgId endpoint request.operation
    request.vIP.family vIPVal
  (s, { status := if status = .ok then .none else .retry
        ipMode, version := self.version, vIPAddresses })

/-- The reply of a request that ended early. -/
def earlyReply (status : ReplyStatus) (ipMode : SubnetMode) : EndpointUpdateReply :=
  { status, ipMode, version := request.version, vIPAddresses := [] }

/-- Update an endpoint that exists and is on the tunnel of the request. -/
def updateExisting (vIP : Option VirtualIP) (endpoint : EndpointId) :
    Collection × EndpointUpdateReply :=
  let ipMode :=
    if request.operation = .delete ∨ request.operation = .migrateOut then
      vIPSharedMode (s.directory.endpoint endpoint)
    else target.ipMode
  match s.update endpoint target.dvg request.vnid target.clientType request.transactionType
      request.version request.operation vIP with
  | (s, false) => (s, earlyReply request .retry ipMode)
  | (s, true) => s.updateFinish request target ipMode endpoint

/-- Create the endpoint of a request. A delete raises before it gets here, and any operation
but the three that announce an endpoint is answered with a retry, unless the request is part
of a mass transfer. -/
def updateNew (vIP : Option VirtualIP) : Collection × EndpointUpdateReply :=
  if request.operation = .delete then (s, earlyReply request .none target.ipMode)
  else if request.operation = .add ∨ request.operation = .vipAdd ∨
      request.operation = .migrateIn ∨ request.transactionType = .massTransfer then
    match s.directory.create target.domain target.dvg request.vnid target.clientType target.tunnel
        request.vMac vIP request.version with
    | none =>
      (s.updateUndo (if target.fnewTunnel then some target.tunnel else none)
        (if target.fnewDpsClient then some target.dpsClient else none),
        earlyReply request .noMemory target.ipMode)
    | some dir =>
      { s with directory := dir }.updateFinish request target target.ipMode s.directory.nextEndpoint
  else (s, earlyReply request .retry target.ipMode)

/-- The second part of `Endpoint_Update`. A claim that raises ends the request. An endpoint on
another tunnel is moved, unless the request withdraws something. -/
def updateApply (sendFails : Bool) : Collection × EndpointUpdateReply :=
  let vIPVal := vIPVal request
  let conflict := s.conflictingEndpoint request target.domain
  let endpointMac := (s.directory.domainTables target.domain).findMAC request.vMac
  let (s, raised) := conflict.elim (s, false) fun claimant =>
    s.claimVIP target.domain claimant vIPVal request.transactionType sendFails
  let vIP : Option VirtualIP :=
    if vIPVal ≠ .zero ∧ conflict = none then some { ipValue := vIPVal, mode := target.ipMode }
    else none
  if raised then (s, earlyReply request .none target.ipMode)
  else match endpointMac with
    | none => s.updateNew request target vIP
    | some endpoint =>
      if (s.directory.endpoint endpoint).tunnelEndpoint = target.tunnel then
        s.updateExisting request target vIP endpoint
      else if request.operation = .delete ∨ request.operation = .vipDel ∨
          request.operation = .migrateOut then
        (s, earlyReply request .none target.ipMode)
      else
        (s.vmotion endpoint target.dvg request.vnid target.clientType target.tunnel).updateExisting
          request target vIP endpoint

/-- `Endpoint_Update`. -/
def endpointUpdate (sendFails : Bool) : Collection × EndpointUpdateReply :=
  match updateLookup keysOrder s request with
  | (s, .error (status, ipMode)) => (s, earlyReply request status ipMode)
  | (s, .ok target) => s.updateApply request target sendFails

/-- An update from a switch of a small network, for a machine behind it. -/
def machineUpdate (switch : UInt32) (vMac : Mac) (operation : UpdateOperation) (vIP : UInt32) :
    EndpointUpdateRequest where
  domainId := 7
  dvgId := 70
  vnid := 70
  clientType := ClientType.doveSwitch.code
  transactionType := .normal
  dpsClientIP := .v4 switch
  dpsClientPort := 902
  pIP := .v4 (100 + switch)
  vMac
  vIP := .v4 vIP
  operation
  version := 0

end Collection

end OpenDove
