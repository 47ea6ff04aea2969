import OpenDove.ConflictEffects
import OpenDove.Shrinking

/-!
# What an endpoint update does to the directory

`Endpoint_Update` runs through five classes. Here its second part is written as a function of
the directory alone, and the handler is shown to refine it: the handler ends in the directory
that the function computes, after at most some further deletions of endpoints.
-/

namespace OpenDove

/-! ## The abstract update -/

/-- What the directory sees of an update: the objects the request names, its arguments, and
whether a claim for its address would raise. -/
structure Announcement where
  domain : DomainId
  domainId : Nat
  dvg : DvgId
  vnid : Nat
  clientType : ClientType
  tunnel : TunnelId
  ipMode : SubnetMode
  transactionType : TransactionType
  vMac : Mac
  vIPFamily : InetType
  vIPVal : IPValue
  operation : UpdateOperation
  version : Nat
  raises : Bool

/-- Whether an update registers its address with the conflict detection. -/
abbrev Announcement.registers (a : Announcement) : Prop :=
  a.vIPVal ≠ .zero ∧ (a.operation = .add ∨ a.operation = .vipAdd)

variable (dir : Directory) (s : Collection) (a : Announcement) (domain : DomainId)
  (self endpoint : EndpointId) (dvg : DvgId) (vnid : Nat) (operation : UpdateOperation)
  (vIP : Option VirtualIP) (clientType : ClientType) (tunnel : TunnelId)

namespace Directory

/-- The endpoint with the MAC address of an update. -/
def announced : Option EndpointId :=
  (dir.domainTables a.domain).findMAC a.vMac

/-- The endpoint that holds the address of an update already, if it is another one. -/
def claimant : Option EndpointId :=
  (((dir.domainTables a.domain).endpointHashIP a.vIPFamily).lookup a.vIPVal).filter
    fun endpoint => dir.announced a ≠ some endpoint

/-- The address that an update brings to its endpoint. -/
def announcedVIP : Option VirtualIP :=
  if a.vIPVal ≠ .zero ∧ dir.claimant a = none then some { ipValue := a.vIPVal, mode := a.ipMode }
  else none

/-- The end of an update on the directory. -/
def announceFinish (endpoint : EndpointId) : Directory :=
  if a.registers then dir.endpointRegisterVIP a.domain endpoint a.vIPVal else dir

/-- The update of an endpoint on the directory. -/
def announceExisting (vIP : Option VirtualIP) (endpoint : EndpointId) : Directory :=
  match dir.update endpoint a.dvg a.vnid a.clientType a.transactionType a.version a.operation vIP with
  | (dir, false) => dir
  | (dir, true) => dir.announceFinish a endpoint

/-- The creation of an endpoint on the directory. -/
def announceNew (vIP : Option VirtualIP) : Directory :=
  if a.operation = .delete then dir
  else if a.operation = .add ∨ a.operation = .vipAdd ∨ a.operation = .migrateIn ∨
      a.transactionType = .massTransfer then
    (dir.create a.domain a.dvg a.vnid a.clientType a.tunnel a.vMac vIP a.version).elim dir
      fun after => after.announceFinish a dir.nextEndpoint
  else dir

/-- The claim that an update makes for the holder of its address. -/
def announceClaim : Directory × Bool :=
  (dir.claimant a).elim (dir, false) fun claimant =>
    dir.endpointClaimVIP a.domain a.domainId claimant a.vIPVal a.raises

/-- The second part of `Endpoint_Update`, on the directory. -/
def announce : Directory :=
  let claimed := (dir.announceClaim a).1
  if (dir.announceClaim a).2 then claimed
  else match dir.announced a with
    | none => claimed.announceNew a (dir.announcedVIP a)
    | some endpoint =>
      if (claimed.endpoint endpoint).tunnelEndpoint = a.tunnel then
        claimed.announceExisting a (dir.announcedVIP a) endpoint
      else if a.operation = .delete ∨ a.operation = .vipDel ∨ a.operation = .migrateOut then claimed
      else
        (claimed.vmotion endpoint a.dvg a.vnid a.clientType a.tunnel).announceExisting a
          (dir.announcedVIP a) endpoint

theorem announceClaim_nextEndpoint : (dir.announceClaim a).1.nextEndpoint = dir.nextEndpoint := by
  unfold announceClaim
  cases dir.claimant a with
  | none => rfl
  | some claimant => exact (endpointClaimVIP_frame ..).1.2.1

/-- The steps of an update: a claim, if there is one to make, and a move lead to states with `I`,
the creation or the update of the endpoint to states with `K`, and the registration of the
address to states with `Q`. The endpoint of the update is the one with its MAC address, or else the
next new one. -/
theorem announce_steps {I K Q : Directory → Prop} (initially : dir.claimant a = none → I dir)
    (claim : ∀ claimant, dir.claimant a = some claimant →
      I (dir.endpointClaimVIP a.domain a.domainId claimant a.vIPVal a.raises).1)
    (create : ∀ claimed after, I claimed → dir.announced a = none →
      claimed.nextEndpoint = dir.nextEndpoint →
      claimed.create a.domain a.dvg a.vnid a.clientType a.tunnel a.vMac (dir.announcedVIP a)
        a.version = some after → K after)
    (vmotion : ∀ claimed endpoint, I claimed → dir.announced a = some endpoint →
      (claimed.endpoint endpoint).tunnelEndpoint ≠ a.tunnel →
      I (claimed.vmotion endpoint a.dvg a.vnid a.clientType a.tunnel))
    (update : ∀ mid endpoint, I mid → dir.announced a = some endpoint →
      K (mid.update endpoint a.dvg a.vnid a.clientType a.transactionType a.version a.operation
        (dir.announcedVIP a)).1)
    (register : ∀ mid, K mid → a.registers →
      Q (mid.endpointRegisterVIP a.domain ((dir.announced a).getD dir.nextEndpoint) a.vIPVal))
    (early : ∀ mid, I mid → Q mid) (done : ∀ mid, K mid → Q mid) : Q (dir.announce a) := by
  have claimed : I (dir.announceClaim a).1 := by
    unfold announceClaim
    cases conflict : dir.claimant a with
    | none => exact initially conflict
    | some claimant => exact claim claimant conflict
  have finish {mid : Directory} {endpoint : EndpointId}
      (own : (dir.announced a).getD dir.nextEndpoint = endpoint) (held : K mid) :
      Q (mid.announceFinish a endpoint) := by
    unfold announceFinish
    split
    · next registers => exact own ▸ register mid held registers
    · exact done mid held
  have existing {mid : Directory} {endpoint : EndpointId}
      (known : dir.announced a = some endpoint) (held : I mid) :
      Q (mid.announceExisting a (dir.announcedVIP a) endpoint) := by
    have updated := update mid endpoint held known
    unfold announceExisting
    generalize mid.update endpoint a.dvg a.vnid a.clientType a.transactionType a.version a.operation
      (dir.announcedVIP a) = outcome at updated ⊢
    obtain ⟨mid, _ | _⟩ := outcome
    · exact done mid updated
    · exact finish (by simp [known]) updated
  dsimp only [announce]
  split
  · exact early _ claimed
  · cases known : dir.announced a with
    | none =>
      have next := dir.announceClaim_nextEndpoint a
      dsimp only [announceNew]
      split_ifs
      · exact early _ claimed
      · cases created : (dir.announceClaim a).1.create a.domain a.dvg a.vnid a.clientType a.tunnel
            a.vMac (dir.announcedVIP a) a.version with
        | none => exact early _ claimed
        | some after =>
          exact finish (by simp [known, next]) (create _ after claimed known next created)
      · exact early _ claimed
    | some endpoint =>
      dsimp only
      split_ifs with hosted
      · exact existing known claimed
      · exact early _ claimed
      · exact existing known (vmotion _ endpoint claimed known hosted)

end Directory

/-! ## The handler refines the abstract update -/

namespace Collection

/-- The view the directory has of a request. -/
def announcement (s : Collection) (request : EndpointUpdateRequest) (target : UpdateTarget)
    (sendFails : Bool) : Announcement where
  domain := target.domain
  domainId := (s.domain target.domain).uniqueId
  dvg := target.dvg
  vnid := request.vnid
  clientType := target.clientType
  tunnel := target.tunnel
  ipMode := target.ipMode
  transactionType := request.transactionType
  vMac := request.vMac
  vIPFamily := request.vIP.family
  vIPVal := vIPVal request
  operation := request.operation
  version := request.version
  raises := request.transactionType = .normal ∧ sendFails ∧
    s.pending.addressResolutionRequestsTo.size < maxPendingQueueSize

/-- Moving an endpoint acts on the directory as stated there. -/
theorem vmotion_directory :
    (s.vmotion self dvg vnid clientType tunnel).directory =
      s.directory.vmotion self dvg vnid clientType tunnel := by
  simp [Collection.vmotion, Directory.vmotion, onDirectory]

theorem vmotion_fixed : (s.vmotion self dvg vnid clientType tunnel).fixed = s.fixed :=
  tunnelEndpointDel_fixed ..

theorem updateDel_directory :
    (s.updateDel self vIP).directory = s.directory.updateDel self vIP := by
  unfold Collection.updateDel Directory.updateDel
  dsimp only [onDirectory]
  split <;> simp

theorem updateDel_fixed : (s.updateDel self vIP).fixed = s.fixed := by
  unfold Collection.updateDel
  dsimp only
  split
  · exact tunnelEndpointDel_fixed ..
  · exact endpointDelete_fixed ..

theorem updateFunction_directory :
    (s.updateFunction self operation vIP).directory =
      s.directory.updateFunction self operation vIP := by
  unfold Collection.updateFunction
  cases operation
  case delete | migrateOut => exact updateDel_directory s self vIP
  all_goals rfl

theorem updateFunction_fixed : (s.updateFunction self operation vIP).fixed = s.fixed := by
  unfold Collection.updateFunction
  cases operation
  case delete | migrateOut => exact updateDel_fixed s self vIP
  all_goals rfl

/-- Updating an endpoint acts on the directory as stated there. -/
theorem update_directory (transactionType : TransactionType) (version : Nat)
    (operation : UpdateOperation) (vIP : Option VirtualIP) :
    let after := s.update self dvg vnid clientType transactionType version operation vIP
    (after.1.directory, after.2) =
      s.directory.update self dvg vnid clientType transactionType version operation vIP := by
  dsimp only [Collection.update, Directory.update, onDirectory]
  cases Directory.versionNext _ version transactionType with
  | none => rfl
  | some version => simp only [updateFunction_directory]

theorem update_fixed (transactionType : TransactionType) (version : Nat)
    (operation : UpdateOperation) (vIP : Option VirtualIP) :
    (s.update self dvg vnid clientType transactionType version operation vIP).1.fixed =
      s.fixed := by
  dsimp only [Collection.update]
  split
  · rfl
  · exact updateFunction_fixed ..

/-- A claim acts on the directory as stated there. -/
theorem claimVIP_directory (vIPVal : IPValue) (transactionType : TransactionType)
    (sendFails : Bool) :
    let after := s.claimVIP domain endpoint vIPVal transactionType sendFails
    (after.1.directory, after.2) =
      s.directory.endpointClaimVIP domain (s.domain domain).uniqueId endpoint vIPVal
        (transactionType = .normal ∧ sendFails ∧
          s.pending.addressResolutionRequestsTo.size < maxPendingQueueSize) := by
  dsimp only [claimVIP]
  split <;> rfl

theorem claimVIP_fixed (vIPVal : IPValue) (transactionType : TransactionType) (sendFails : Bool) :
    (s.claimVIP domain endpoint vIPVal transactionType sendFails).1.fixed = s.fixed := by
  dsimp only [claimVIP]
  split <;> rfl

section Request

variable (s : Collection) (request : EndpointUpdateRequest) (target : UpdateTarget)
  (sendFails : Bool)

variable (start : Collection)

/-- The end of an update acts on the directory as stated there. -/
theorem updateFinish_directory (ipMode : SubnetMode)
    (endpoint : EndpointId) :
    (s.updateFinish request target ipMode endpoint).1.directory =
      s.directory.announceFinish (start.announcement request target sendFails) endpoint := by
  refine ((Quiet.refl _).registerEndpoint ..).1.trans
    (((Quiet.refl _).ite ((Quiet.refl _).onPending _)).1.trans ?_)
  exact apply_ite Collection.directory ..

theorem updateFinish_fixed (ipMode : SubnetMode) (endpoint : EndpointId) :
    (s.updateFinish request target ipMode endpoint).1.fixed = s.fixed := by
  refine ((Quiet.refl _).registerEndpoint ..).2.trans
    (((Quiet.refl _).ite ((Quiet.refl _).onPending _)).2.trans ?_)
  split
  · exact (((Quiet.refl s).onPending _).modifyDomain target.domain (fun d =>
      { d with addressResolution := (d.addressResolution.processEndpointUpdate _ _).1 }) rfl).2
  · rfl

theorem updateExisting_directory (vIP : Option VirtualIP)
    (endpoint : EndpointId) :
    (s.updateExisting request target vIP endpoint).1.directory =
      s.directory.announceExisting (start.announcement request target sendFails) vIP endpoint := by
  have updated := s.update_directory endpoint target.dvg request.vnid target.clientType
    request.transactionType request.version request.operation vIP
  dsimp only [updateExisting, Directory.announceExisting, announcement]
  rw [← updated]
  generalize s.update endpoint target.dvg request.vnid target.clientType
    request.transactionType request.version request.operation vIP = after
  obtain ⟨after, _ | _⟩ := after
  · rfl
  · exact after.updateFinish_directory request target sendFails start _ endpoint

theorem updateExisting_fixed (vIP : Option VirtualIP) (endpoint : EndpointId) :
    (s.updateExisting request target vIP endpoint).1.fixed = s.fixed := by
  have updated := s.update_fixed endpoint target.dvg request.vnid target.clientType
    request.transactionType request.version request.operation vIP
  dsimp only [updateExisting]
  generalize s.update endpoint target.dvg request.vnid target.clientType
    request.transactionType request.version request.operation vIP = after at updated ⊢
  obtain ⟨after, _ | _⟩ := after
  · exact updated
  · exact (after.updateFinish_fixed request target _ endpoint).trans updated

/-- Creating the endpoint of a request acts on the directory as stated there, apart from what is
undone at the limit. -/
theorem updateNew_directory (vIP : Option VirtualIP) :
    Directory.Shrinks (fun _ => False)
      (s.directory.announceNew (start.announcement request target sendFails) vIP)
      (s.updateNew request target vIP).1.directory := by
  dsimp only [updateNew, Directory.announceNew, announcement]
  split
  · exact .refl
  · split
    · cases s.directory.create target.domain target.dvg request.vnid target.clientType
          target.tunnel request.vMac vIP request.version with
      | none => exact ((Shrunk.refl s).updateUndo _ _).1
      | some dir =>
        rw [updateFinish_directory _ request target sendFails start]
        exact .refl
    · exact .refl

theorem updateNew_fixed (vIP : Option VirtualIP) :
    (s.updateNew request target vIP).1.fixed = s.fixed := by
  dsimp only [updateNew]
  split
  · rfl
  · split
    · split
      · exact ((Shrunk.refl s).updateUndo _ _).2
      · exact updateFinish_fixed ..
    · rfl

theorem announceClaim_directory :
    let after := (s.conflictingEndpoint request target.domain).elim (s, false) fun claimant =>
      s.claimVIP target.domain claimant (vIPVal request) request.transactionType sendFails
    (after.1.directory, after.2) =
      s.directory.announceClaim (s.announcement request target sendFails) := by
  dsimp only [Directory.announceClaim]
  rw [show s.directory.claimant (s.announcement request target sendFails) =
    s.conflictingEndpoint request target.domain from rfl]
  cases s.conflictingEndpoint request target.domain with
  | none => rfl
  | some claimant => exact s.claimVIP_directory target.domain claimant _ _ sendFails

/-- The address that the second part of `Endpoint_Update` passes on. -/
theorem announcedVIP_announcement :
    s.directory.announcedVIP (s.announcement request target sendFails) =
      if vIPVal request ≠ .zero ∧ s.conflictingEndpoint request target.domain = none then
        some { ipValue := vIPVal request, mode := target.ipMode } else none := rfl

/-- The second part of `Endpoint_Update` refines the update of the directory. -/
theorem updateApply_directory :
    Directory.Shrinks (fun _ => False)
      (s.directory.announce (s.announcement request target sendFails))
      (s.updateApply request target sendFails).1.directory := by
  have claim := s.announceClaim_directory request target sendFails
  dsimp only [updateApply, Directory.announce]
  rw [← claim]
  generalize (s.conflictingEndpoint request target.domain).elim (s, false) _ = claimed
  obtain ⟨claimed, _ | _⟩ := claimed
  · have tunnel : (s.announcement request target sendFails).tunnel = target.tunnel := rfl
    have operation : (s.announcement request target sendFails).operation = request.operation := rfl
    rw [← s.announcedVIP_announcement request target sendFails, tunnel, operation,
      if_neg Bool.false_ne_true, if_neg Bool.false_ne_true]
    generalize s.directory.announcedVIP _ = vIP
    rw [show s.directory.announced (s.announcement request target sendFails) =
      (s.directory.domainTables target.domain).findMAC request.vMac from rfl]
    cases (s.directory.domainTables target.domain).findMAC request.vMac with
    | none => exact claimed.updateNew_directory request target sendFails s vIP
    | some endpoint =>
      dsimp only
      split_ifs
      · rw [updateExisting_directory _ request target sendFails s]
        exact .refl
      · exact .refl
      · rw [updateExisting_directory _ request target sendFails s, vmotion_directory]
        exact .refl
  · exact .refl

/-- No update changes an attribute that objects keep for life. -/
theorem updateApply_fixed : (s.updateApply request target sendFails).1.fixed = s.fixed := by
  have claim : ((s.conflictingEndpoint request target.domain).elim (s, false) fun claimant =>
      s.claimVIP target.domain claimant (vIPVal request) request.transactionType
        sendFails).1.fixed = s.fixed := by
    cases s.conflictingEndpoint request target.domain with
    | none => rfl
    | some claimant => exact claimVIP_fixed ..
  dsimp only [updateApply]
  generalize (s.conflictingEndpoint request target.domain).elim (s, false) _ = claimed at claim ⊢
  obtain ⟨claimed, _ | _⟩ := claimed
  · rw [← s.announcedVIP_announcement request target sendFails, if_neg Bool.false_ne_true]
    split
    · exact (updateNew_fixed ..).trans claim
    · split_ifs
      · exact (updateExisting_fixed ..).trans claim
      · exact claim
      · exact (updateExisting_fixed ..).trans ((vmotion_fixed ..).trans claim)
  · exact claim

end Request

end Collection

end OpenDove
