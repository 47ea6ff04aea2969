import OpenDove.Directory

/-!
# Conflict detection

An update that brings an address which the domain maps to another endpoint opens a conflict:
the mapped endpoint claims the address and becomes its remembered owner. Endpoints that
register the address afterwards are collected. When no claim is left, or after the third
timeout, the conflict completes: the address is given to the only registered endpoint if
there is exactly one, and to the remembered owner otherwise, and taken from all others.
-/

namespace OpenDove

namespace ConflictDetectionvIP

/-- `__init__`. -/
def create (vIPValue : IPValue) : ConflictDetectionvIP where
  vIP := { ipValue := vIPValue, mode := .dedicated }
  endpointsClaim := []
  endpointsRegistered := []
  retry := 2
  endpointOwner := none

variable (conflict : ConflictDetectionvIP)

/-- The bookkeeping of `endpoint_claim`. -/
def endpointClaim (endpoint : EndpointId) : ConflictDetectionvIP :=
  { conflict with
    endpointsClaim := conflict.endpointsClaim.insert endpoint
    endpointOwner := some endpoint }

/-- The bookkeeping of `endpoint_register`. -/
def endpointRegister (endpoint : EndpointId) : ConflictDetectionvIP :=
  { conflict with
    endpointsClaim := conflict.endpointsClaim.filter (· ≠ endpoint)
    endpointsRegistered := conflict.endpointsRegistered.insert endpoint }

/-- The endpoint that `complete` gives the address to: the only registered endpoint, or the
remembered owner. -/
def winner : Option EndpointId :=
  match conflict.endpointsRegistered with
  | [endpoint] => some endpoint
  | _ => conflict.endpointOwner

end ConflictDetectionvIP

namespace Directory

variable (dir : Directory) (domain : DomainId) (domainId : Nat)

/-- Take an address from every listed endpoint except one. -/
def vIPDelExcept (endpoints : List EndpointId) (kept : Option EndpointId) (vIP : VirtualIP) :
    Directory :=
  endpoints.foldl (fun dir endpoint =>
    if kept = some endpoint then dir else dir.vIPDel endpoint vIP) dir

/-- `ConflictDetectionvIP.complete` for the registered endpoints: a single one gets the address,
and of several only the remembered owner keeps it. -/
def completeRegistered (conflict : ConflictDetectionvIP) : Directory :=
  match conflict.endpointsRegistered with
  | [] => dir
  | [endpoint] => dir.vIPAdd endpoint conflict.vIP
  | endpoints => dir.vIPDelExcept endpoints conflict.endpointOwner conflict.vIP

/-- `ConflictDetectionvIP.complete`. The report of a conflict to the controller has no effect
on the directory. -/
def complete (conflict : ConflictDetectionvIP) : Directory :=
  let dir := dir.completeRegistered conflict
  let dir := dir.vIPDelExcept conflict.endpointsClaim conflict.winner conflict.vIP
  conflict.winner.elim dir fun endpoint => dir.vIPAdd endpoint conflict.vIP

/-- `ConflictDetection.endpoint_claim_vIP`. `sendFails` is set when the address resolution
request to the claimant cannot be sent and the retry table has room: the retry key is then
built from an attribute that does not exist, and the exception leaves the routine before
the domain is queued for timeouts. The second component tells whether it was raised. -/
def endpointClaimVIP (endpoint : EndpointId) (vIPVal : IPValue) (sendFails : Bool) :
    Directory × Bool :=
  let table := dir.conflicts domain
  match table.lookup vIPVal with
  | none =>
    if table.size > conflictsMax then (dir, false)
    else
      let conflict := (ConflictDetectionvIP.create vIPVal).endpointClaim endpoint
      let dir := dir.setConflicts domain (table.insert vIPVal conflict)
      if sendFails then (dir, true)
      else ({ dir with conflictRequests := dir.conflictRequests.insert domainId domain }, false)
  | some conflict =>
    let dir := dir.setConflicts domain (table.insert vIPVal (conflict.endpointClaim endpoint))
    if sendFails then (dir, true)
    else ({ dir with conflictRequests := dir.conflictRequests.insert domainId domain }, false)

/-- `ConflictDetection.endpoint_register_vIP`. -/
def endpointRegisterVIP (endpoint : EndpointId) (vIPVal : IPValue) : Directory :=
  match (dir.conflicts domain).lookup vIPVal with
  | none => dir
  | some conflict =>
    let conflict := conflict.endpointRegister endpoint
    if conflict.endpointsClaim = [] then
      let dir := dir.complete conflict
      dir.setConflicts domain ((dir.conflicts domain).erase vIPVal)
    else dir.setConflicts domain ((dir.conflicts domain).insert vIPVal conflict)

/-- One conflict in `ConflictDetection.process_timeout`. -/
def conflictTimeout (vIPVal : IPValue) : Directory :=
  match (dir.conflicts domain).lookup vIPVal with
  | none => dir
  | some conflict =>
    if conflict.retry = 0 then
      let dir := dir.complete conflict
      dir.setConflicts domain ((dir.conflicts domain).erase vIPVal)
    else
      dir.setConflicts domain ((dir.conflicts domain).insert vIPVal
        { conflict with retry := conflict.retry - 1 })

/-- `ConflictDetection.process_timeout`. -/
def processTimeout : Directory :=
  let dir := (dir.conflicts domain).keys.foldl (fun dir key => dir.conflictTimeout domain key) dir
  if 0 < (dir.conflicts domain).size then
    { dir with conflictRequests := dir.conflictRequests.insert domainId domain }
  else dir

/-- `Conflict_Detection_Timeout`: every domain in the request table is taken out and
processed. -/
def conflictDetectionTimeout : Directory :=
  dir.conflictRequests.keys.foldl (fun dir domainId =>
    match dir.conflictRequests.lookup domainId with
    | none => dir
    | some domain =>
      let dir := { dir with conflictRequests := dir.conflictRequests.erase domainId }
      dir.processTimeout domain domainId) dir

/-- `ConflictDetection.delete`. -/
def conflictDelete : Directory :=
  let dir := dir.setConflicts domain ∅
  { dir with conflictRequests := dir.conflictRequests.erase domainId }

end Directory

end OpenDove
