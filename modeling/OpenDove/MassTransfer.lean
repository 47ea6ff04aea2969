import Mathlib.Data.List.Sort
import OpenDove.DomainServices

/-!
# Mass transfer of one domain

A domain moves to another node in six stages. Each stage has a set of objects still to be
sent, under a key that identifies the object, and a set of objects sent but not confirmed,
under the query number of the message. The first three stages send synchronously and are
confirmed by the status of the send; the last three are confirmed by a later acknowledgement.
The transfer thread fills the second set from the first up to a window, sends what is in it,
and moves to the next stage when it is empty. Objects registered meanwhile are added to the
first set of their stage, and the stage moves back if it was passed already.

Keys are formatted strings in the program and structured values here. The outcome of a send is
decided by the network and is an argument. A transfer also carries a history of what was sent,
acknowledged, accepted and reported, newest first; the program keeps no such record, and no
routine reads it.
-/

namespace OpenDove

/-! ## Transfer objects -/

/-- The stages that have objects, `transfer_vnids` to `transfer_multicasts`. -/
inductive TransferStage where
  | vnids
  | policies
  | subnets
  | tunnels
  | endpoints
  | multicasts
  deriving DecidableEq, Repr

namespace TransferStage

/-- The number of a stage. -/
def number : TransferStage → Nat
  | vnids => 1
  | policies => 2
  | subnets => 3
  | tunnels => 4
  | endpoints => 5
  | multicasts => 6

/-- The keys of the dictionary `transfer`. -/
def ofNumber : Nat → Option TransferStage
  | 1 => some vnids
  | 2 => some policies
  | 3 => some subnets
  | 4 => some tunnels
  | 5 => some endpoints
  | 6 => some multicasts
  | _ => none

/-- The number of objects that may be unconfirmed at a time. -/
def unackedMax : TransferStage → Nat
  | vnids => 10
  | policies => 10
  | subnets => 10
  | tunnels => 250
  | endpoints => 500
  | multicasts => 250

/-- Whether the send routine of a stage waits for the status. -/
def synchronous : TransferStage → Bool
  | vnids | policies | subnets => true
  | tunnels | endpoints | multicasts => false

/-- The number of the stage after the last one, `transfer_finished`. -/
def finished : Nat := 7

end TransferStage

/-- `IPSUBNETAssociatedType`: whether a subnet belongs to a domain or to a VNID. -/
inductive AssociatedType where
  | domain
  | vnid
  deriving DecidableEq, Repr

/-- The key of an object in the set of objects to send. Each constructor stands for one of the
program's formats, and its arguments for what is formatted. -/
inductive TransferKey where
  | part (index : Nat)
  | query (queryId : Nat)
  | policy (trafficType : TrafficType) (src dst : Nat)
  | subnet (associatedType : AssociatedType) (associatedId : Nat) (ipValue : UInt32)
  | tunnel (vnid clientType : Nat) (primary : IPValue)
  | tunnelDelta (vnid clientType : Nat) (pip : IPValue) (fregister : Bool)
  | endpoint (vnid : Nat) (endpoint : EndpointId) (vIPVal : IPValue)
  | multicast (vnid clientType : Nat) (mac : Mac) (group tunnel : IPValue)
  deriving DecidableEq, Repr

/-- The first component of an object tuple: its key, or a VNID. -/
inductive TransferId where
  | key (key : TransferKey)
  | vnid (vnid : Nat)
  deriving DecidableEq, Repr

/-- A policy as it is sent. -/
structure PolicyTuple where
  trafficType : TrafficType
  type : Nat
  src : Nat
  dst : Nat
  ttl : Nat
  action : Nat
  deriving DecidableEq, Repr

/-- A subnet as it is sent. -/
structure SubnetTuple where
  vnid : Nat
  ipValue : UInt32
  maskValue : UInt32
  ipGateway : UInt32
  mode : SubnetMode
  deriving DecidableEq, Repr

/-- `DPSMulticastMassTransfer`. -/
structure MulticastTransfer where
  domainId : Nat
  vnid : Nat
  fsender : Bool
  fregister : Bool
  clientType : Nat
  globalScope : Bool
  multicastMac : Mac
  multicastIpFamily : Option InetType
  multicastIp : IPValue
  tunnelIp : IPValue
  deriving DecidableEq, Repr

/-- An argument that should be a list of subnets or a flag. The constructor of
`DPSSubnetMassTransfer` takes both and checks neither. -/
inductive SubnetArgument where
  | subnets (subnets : List SubnetTuple)
  | flag (flag : Bool)
  deriving DecidableEq, Repr

/-- The objects that are transferred: `DPSVNIDMassTransfer`, `DPSPolicyMassTransfer`,
`DPSSubnetMassTransfer`, `DPSTunnelMassTransfer`, `DPSEndpointMassTransfer` and
`DPSMulticastMassTransfer`. -/
inductive TransferObject where
  | vnids (vnids : List Nat) (fadd : Bool)
  | policies (policies : List PolicyTuple) (fadd : Bool)
  | subnets (subnets fadd : SubnetArgument)
  | tunnel (clientType : Nat) (fregister : Bool) (hostLocation : IPAddressLocation)
      (pipTupleList : List (InetType × IPValue))
  | endpoint (endpoint : EndpointId) (operation : UpdateOperation) (vIP : IPAddressLocation)
  | multicast (registration : MulticastTransfer)
  deriving DecidableEq, Repr

/-- An object to send, with the query number its message will carry. -/
structure TransferEntry where
  objId : TransferId
  object : TransferObject
  queryId : Nat
  deriving DecidableEq, Repr

/-- An object sent and not confirmed, with the number of attempts so far. -/
structure UnackedEntry where
  objId : TransferId
  object : TransferObject
  tries : Nat
  deriving DecidableEq, Repr

/-- How a send ends: with status zero, with another status, or with an exception. -/
inductive SendOutcome where
  | ok
  | failed
  | raised
  deriving DecidableEq, Repr

/-- What can be observed of a transfer from outside. -/
inductive TransferObservation where
  | sent (stage : TransferStage) (queryId : Nat) (object : TransferObject) (outcome : SendOutcome)
  | acked (queryId status : Nat)
  | accepted (stage : TransferStage) (entry : TransferEntry)
  | finished (success : Bool)
  deriving DecidableEq, Repr

/-! ## The transfer -/

/-- The two sets of a stage. -/
structure TransferSets where
  toSend : Dict TransferKey TransferEntry
  unacked : Dict Nat UnackedEntry

/-- `DPSDomainMassTransfer`. -/
structure DPSDomainMassTransfer where
  valid : Bool
  transferStage : Nat
  transfer : TransferStage → TransferSets
  invokedCallback : Bool
  /-- The query numbers that `MassTransfer_QueryID_Mapping` maps to this transfer. -/
  queryIDMapping : List Nat
  /-- Whether a pass of the transfer thread is scheduled. -/
  timer : Bool
  history : List TransferObservation

namespace DPSDomainMassTransfer

/-- `MAX_RETRIES_PER_OBJECT`. -/
def maxRetriesPerObject : Nat := 20

/-- `__init__`. -/
def create : DPSDomainMassTransfer where
  valid := true
  transferStage := 0
  transfer := fun _ => { toSend := ∅, unacked := ∅ }
  invokedCallback := false
  queryIDMapping := []
  timer := false
  history := []

variable (self : DPSDomainMassTransfer) (domainValid : Bool) (stage : TransferStage)

/-- Replace the sets of one stage. -/
def setSets (sets : TransferSets) : DPSDomainMassTransfer :=
  { self with transfer := Function.update self.transfer stage sets }

/-- Record an observation. -/
def observe (observation : TransferObservation) : DPSDomainMassTransfer :=
  { self with history := observation :: self.history }

/-- `registration_allow`. -/
def registrationAllow : Bool :=
  domainValid && !((self.transfer .tunnels).toSend.size = 0 ∧
    (self.transfer .endpoints).toSend.size = 0 ∧ (self.transfer .multicasts).toSend.size = 0)

/-- `register_delta`. -/
def registerDelta (key : TransferKey) (entry : TransferEntry) :
    DPSDomainMassTransfer × DOVEStatus :=
  if self.registrationAllow domainValid then
    let sets := self.transfer stage
    let self := self.setSets stage { sets with toSend := sets.toSend.insert key entry }
    let self := self.observe (.accepted stage entry)
    ({ self with transferStage := min stage.number self.transferStage }, .ok)
  else (self, .retry)

/-- The loop of `transfer_objects` that moves new objects into the second set. -/
def popItems : Nat → TransferSets → TransferSets
  | 0, sets => sets
  | count + 1, sets =>
    match sets.toSend.entries with
    | [] => sets
    | ⟨key, entry⟩ :: _ =>
      popItems count
        { toSend := sets.toSend.erase key
          unacked := sets.unacked.insert entry.queryId
            { objId := entry.objId, object := entry.object, tries := 0 } }

/-- One object in the send loop of `transfer_objects`, with the send routine of its stage. The
second component tells whether the loop goes on. -/
def sendObject (queryId : Nat) (outcome : SendOutcome) : DPSDomainMassTransfer × Bool :=
  let sets := self.transfer stage
  match sets.unacked.lookup queryId with
  | none => (self, false)
  | some entry =>
    let erased := { sets with unacked := sets.unacked.erase queryId }
    if entry.tries > maxRetriesPerObject then
      ({ self.setSets stage erased with valid := false }, false)
    else
      let self := self.setSets stage
        { sets with unacked := sets.unacked.insert queryId { entry with tries := entry.tries + 1 } }
      let self := self.observe (.sent stage queryId entry.object outcome)
      -- the asynchronous routines announce the query number before they send
      let mapped := { self with queryIDMapping := self.queryIDMapping.insert queryId }
      let unmapped := { self with queryIDMapping := self.queryIDMapping.filter (· ≠ queryId) }
      match outcome with
      | .raised => ((if stage.synchronous then self else mapped).setSets stage erased, false)
      | .ok => (if stage.synchronous then self.setSets stage erased else mapped, true)
      | .failed => (if stage.synchronous then { self with valid := false } else unmapped, true)

/-- The send loop of `transfer_objects`, over the query numbers in increasing order. -/
def sendObjects (self : DPSDomainMassTransfer) (stage : TransferStage)
    (send : TransferStage → Nat → SendOutcome) : List Nat → DPSDomainMassTransfer
  | [] => self
  | queryId :: queryIds =>
    let (self, goesOn) := self.sendObject stage queryId (send stage queryId)
    if goesOn then self.sendObjects stage send queryIds else self

/-- The new objects a pass moves into the window of a stage. -/
def fillWindow : DPSDomainMassTransfer :=
  let sets := self.transfer stage
  self.setSets stage
    (popItems (min (stage.unackedMax - sets.unacked.size) sets.toSend.size) sets)

/-- `transfer_objects`: a pass goes through the stages until one of them has unconfirmed
objects left. The second component is `fFinished`. The fuel bounds the number of stages a
pass can visit. -/
def transferObjects (send : TransferStage → Nat → SendOutcome) :
    Nat → DPSDomainMassTransfer → DPSDomainMassTransfer × Bool
  | 0, self => (self, false)
  | fuel + 1, self =>
    match TransferStage.ofNumber self.transferStage with
    | none => (self, true)
    | some stage =>
      let self := self.fillWindow stage
      if (self.transfer stage).unacked.size = 0 then
        transferObjects send fuel { self with transferStage := self.transferStage + 1 }
      else
        let queryIds := (self.transfer stage).unacked.keys.insertionSort (· ≤ ·)
        let self := self.sendObjects stage send queryIds
        if !self.valid then (self, false)
        else if (self.transfer stage).unacked.size = 0 then
          transferObjects send fuel { self with transferStage := self.transferStage + 1 }
        else (self, false)

/-- `delete`. -/
def delete : DPSDomainMassTransfer :=
  { self with transfer := fun _ => { toSend := ∅, unacked := ∅ } }

/-- The end of a transfer that cannot go on: the callback is told, and the sets are cleared. -/
def abandon : DPSDomainMassTransfer :=
  (self.observe (.finished false)).delete

/-- `transfer_thread`, when its timer fires. -/
def transferThread (nodeIsUp : Bool) (send : TransferStage → Nat → SendOutcome) :
    DPSDomainMassTransfer :=
  if self.timer then
    let self := { self with timer := false }
    if self.valid && domainValid && nodeIsUp then
      let (self, fFinished) := transferObjects send (TransferStage.finished + 1) self
      if fFinished then
        if self.invokedCallback then self
        else { self.observe (.finished true) with invokedCallback := true }
      else { self with timer := true }
    else self.abandon
  else self

/-- The status with which the remote node asks for another attempt, `dps_error_retry`. -/
def dpsErrorRetry : Nat := 16

/-- `Transfer_Ack` and `transfer_ack`: an acknowledgement reaches the transfer if its query
number is mapped to it. -/
def transferAck (queryId status : Nat) : DPSDomainMassTransfer :=
  if queryId ∈ self.queryIDMapping then
    let self := self.observe (.acked queryId status)
    if status = dpsErrorRetry then self
    else
      { self with
        transfer := fun stage =>
          if stage.synchronous then self.transfer stage
          else { self.transfer stage with unacked := (self.transfer stage).unacked.erase queryId } }
  else self

end DPSDomainMassTransfer

end OpenDove
