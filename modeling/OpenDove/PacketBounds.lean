import OpenDove.Extents
import OpenDove.PacketGetters

/-!
# How far a packet is read

The process routines believe the lengths, types and counts a packet declares. This
module states what a packet must be like for its routine to return without having read
past the declared end: a grammar of packets, with one table for each loop over parts
that gives the extent of a part by its type and says what becomes of a part of any
other type. Most loops leave at such a part and the packet is dropped, two step over it,
and the loops over a policy request, a group record and a switch record stand still.

A part of known type is as long as its routine makes it, whatever length it declares: an
address has the size of its version, a list is rounded up to whole items, and groups of
rules go on until the announced number of rules is reached. Whatever goes to an array must
also have a place in the buffer the message is put together in. Where that is depends on
the packet alone, but for a switch list: the counts that place its records may be left from
what the buffer held.
-/

namespace OpenDove.Dps

open Scanner Extent

section Grammar

variable {κ : Type}

variable (memory : Memory) (size stored array : Nat)

/-- The length the part at a position declares, without its head. -/
def tlvLen (start : Nat) : Nat := (getInt16 memory (start + 2)).toNat

/-- The declared length without a version or network number of four bytes. -/
def nestedLen (start : Nat) : Nat :=
  (tlvLen memory start + 4294967296 - 4) % 4294967296

/-- A part is gone over as the table says for its head. -/
def partsBy (table : TlvHdr → Extent (Pass κ)) : Extent (Pass κ) := fun memory start =>
  table (getTlvHdr memory start) memory start

/-- A part is gone over as the table says for its type. -/
def parts (table : Option TlvType → Extent (Pass κ)) : Extent (Pass κ) :=
  partsBy fun hdr => table hdr.kind

/-- Passes up to the end that a part declares. -/
def listOf (step : κ → Extent (Pass κ)) (mark : κ) : Extent (Pass κ) := fun memory start =>
  upTo (start + 4 + tlvLen memory start) step mark memory (start + 4)

/-- Passes behind a version or network number up to the end that a part declares. -/
def nested (step : κ → Extent (Pass κ)) (mark : κ) : Extent (Pass κ) := fun memory start =>
  upTo (start + 4 + 4 + nestedLen memory start) step mark memory (start + 4 + 4)

/-- A list that is left early is stepped over. -/
def skipping (list : Extent (Pass κ)) : Extent κ := fun memory start mark stop =>
  list memory start (.on mark) stop ∨
    ∃ reached, list memory start (.leave mark) reached ∧ stop = start + 4 + tlvLen memory start

/-- An item of which some bytes are stored at a place; the next place is a step behind. -/
def storedItem (wide step size place : Nat) : Extent (Pass Nat) := fun memory start ended stop =>
  place + wide ≤ maxBuffSz ∧ ((fixed size).marked (place + step)).on memory start ended stop

/-- Items of one size, stored one behind the other. -/
def itemsTlv : Extent Unit := (listOf (storedItem size size size) array).anyhow

def ipTlv : Extent Unit := .sized fun memory start => if memory start = 4 then 8 else 20

def svclocTlv : Extent Unit := .sized fun memory start => if memory start = 4 then 12 else 24

/-- A part that holds a number of bytes and an address: an endpoint or a group. -/
def addressedTlv : Extent Unit := (fixed 16).andThen ipTlv

def unknownTlv : Extent Unit := .sized fun memory start => tlvLen memory start + 4

/-- A tunnel, by its format. -/
def tunnelItem (place : Nat) : Extent (Pass Nat) := fun memory start =>
  if getInt16 memory start = 4 then storedItem 16 28 16 place memory start
  else if getInt16 memory start = 6 then storedItem 28 28 28 place memory start
  else leave place memory start

def tunnelListTlv : Extent Unit := (skipping (listOf tunnelItem array)).anyhow

/-- A virtual address, if there are not more than allowed. -/
def vipItem : Extent (Pass Nat) :=
  if stored ≤ maxVipAddr then ((fixed size).marked (stored + 1)).on else .leave stored

def vipListTlv : Extent Nat := skipping (listOf (vipItem size) stored)

/-- The parts of a location and of an update. -/
def locationParts : Option TlvType → Extent (Pass Unit)
  | some .euid => (fixed 16).on
  | some .ipAddr => ipTlv.on
  | some .tunnelList => (tunnelListTlv array).on
  | _ => .leave ()

def locationTlv : Extent Unit := (nested (fun _ => parts (locationParts array)) ()).anyhow

/-- The parts of an update reply, with the number of addresses stored so far. -/
def updateReplyParts : Option TlvType → Extent (Pass Nat)
  | some .euid => ((fixed 16).marked stored).on
  | some .ipv4AddrList => (vipListTlv 4 stored).on
  | some .ipv6AddrList => (vipListTlv 16 stored).on
  | some .tunnelList => ((tunnelListTlv 456).marked stored).on
  | _ => .leave stored

def updateReplyTlv : Extent Nat :=
  (nested (fun stored => parts (updateReplyParts stored)) stored).ending id

def groupRecParts : Option TlvType → Extent (Pass Unit)
  | some .mcastAddrMac | some .mcastAddrV4 | some .mcastAddrV6 | some .mcastAddrV4IcbRange =>
    addressedTlv.on
  | some .ipv4AddrList => (itemsTlv 4 124).on
  | some .ipv6AddrList => (itemsTlv 16 124).on
  | _ => .stay ()

def groupRecTlv : Extent Unit := (listOf (fun _ => parts groupRecParts) ()).anyhow

/-- An address of some bytes that is put into the cells from the one reached on. -/
def cellItem (put : Memory → Nat → Cells × Nat → Cells) (size : Nat) (state : Cells × Nat) :
    Extent (Pass (Cells × Nat)) := fun memory start ended stop =>
  array + 4 * state.2 + size ≤ maxBuffSz ∧
    ended = .on (put memory start state, state.2 + size / 4) ∧ stop = start + size

/-- A list of addresses and what it leaves in the cells. -/
def cellsTlv (put : Memory → Nat → Cells × Nat → Cells) (size : Nat) (cells : Cells) :
    Extent Cells := (listOf (cellItem array put size) (cells, 0)).ending Prod.fst

def ipv4CellsTlv : Cells → Extent Cells :=
  cellsTlv array (fun memory start state => storeWord state.1 state.2 (getInt32 memory start)) 4

def ipv6CellsTlv : Cells → Extent Cells :=
  cellsTlv array (fun memory start state => storeOctets state.1 state.2 memory start) 16

/-- The lists of a switch record, with the record as it is put together. -/
def switchParts (list : PkdTunnelList) (hdr : TlvHdr) : Extent (Pass PkdTunnelList) :=
  fun memory start ended stop =>
    match hdr.kind with
    | some .ipv4AddrList => ∃ stored,
      ipv4CellsTlv (array + 8) list.tunnelList memory start stored stop ∧
      array + 8 ≤ maxBuffSz ∧ ended = .on { list with
        tunnelList := stored, numV4Tunnels := UInt16.ofNat (hdr.len.toNat / 4) }
    | some .ipv6AddrList => ∃ stored,
      ipv6CellsTlv (array + 8) list.tunnelList memory start stored stop ∧
      array + 8 ≤ maxBuffSz ∧ ended = .on { list with
        tunnelList := stored, numV6Tunnels := UInt16.ofNat (hdr.len.toNat / 16) }
    | _ => stay list memory start ended stop

/-- A switch record, whose loop ends four bytes before the record does. -/
def vnidTunnelListTlv (list : PkdTunnelList) : Extent PkdTunnelList :=
  fun memory start found stop => array + 4 ≤ maxBuffSz ∧
    (upTo (start + 4 + nestedLen memory start) (fun list => partsBy (switchParts array list))
      { list with vnid := getInt32 memory (start + 4) }).ending id memory (start + 4 + 4) found stop

def epriParts : Option TlvType → Extent (Pass Unit)
  | some .euid => (fixed 16).on
  | some .ip4InfoList => (itemsTlv 8 64).on
  | some .ip6InfoList => (itemsTlv 20 196).on
  | some .tunnelList => (tunnelListTlv 520).on
  | _ => unknownTlv.on

def epriTlv : Extent Unit := (listOf (fun _ => parts epriParts) ()).anyhow

/-- Rules of eight bytes each, of which some are stored where the index says. -/
def rulesOf (wide count : Nat) (index : Nat → Nat) : Extent Unit := fun _ start _ stop =>
  (∀ done < count, array + 8 * index done + wide ≤ maxBuffSz) ∧ stop = start + count * 8

/-- A group of rules adds their number, which has 16 bits, to those before. -/
def ruleGroup (done : UInt16) : Extent (Pass UInt16) := fun memory start ended stop =>
  ended = .on (done + getInt16 memory (start + 2)) ∧
    rulesOf 68 8 (getInt16 memory (start + 2)).toNat
      (fun index => (done + UInt16.ofNat index).toNat) memory (start + 4) () stop

/-- Groups of rules until as many rules were read as announced. -/
def ruleGroups (total : UInt16) : Extent Unit := fun memory start _ stop =>
  ∃ ended, Walk (fun done _ => done < total) ruleGroup memory 0 start ended stop

def policyTypeTlv : Extent Unit := fun memory start mark stop =>
  if memory (start + 4 + 1) = policyTypeConnectivity then
    ruleGroups (getInt16 memory (start + 4 + 2)) memory (start + 4 + 4) mark stop
  else stop = start + 4 + 4

def policyTlv : Extent Unit :=
  (listOf (fun _ => ((fixed 16).andThen policyTypeTlv).on) ()).anyhow

def requestParts : Option TlvType → Extent (Pass Unit)
  | some .vmac => (fixed 12).on
  | some .ipAddr => ipTlv.on
  | some .euid => (fixed 16).on
  | some .replyServiceLoc | some .serviceLoc => svclocTlv.on
  | _ => .leave ()

def updateParts : Option TlvType → Extent (Pass Unit)
  | some .endpointLoc => (locationTlv 116).on
  | some .serviceLoc | some .replyServiceLoc => svclocTlv.on
  | _ => .leave ()

def replyParts : Option TlvType → Extent (Pass Nat)
  | some .endpointUpdateReply => (updateReplyTlv stored).on
  | _ => .leave stored

def policyReqParts : Option TlvType → Extent (Pass Unit)
  | some .endpointInfo => addressedTlv.on
  | some .serviceLoc | some .replyServiceLoc => svclocTlv.on
  | _ => .stay ()

def policyReplyParts : Option TlvType → Extent (Pass Unit)
  | some .endpointLoc => (locationTlv 120).on
  | some .policy => policyTlv.on
  | _ => .leave ()

/-- The lists of a packed list. What follows IPv4 addresses goes behind as many cells as the part
declares addresses. -/
def packedParts (first : Nat) (hdr : TlvHdr) : Extent (Pass Nat) :=
  match hdr.kind with
  | some .ipv4AddrList => ((itemsTlv 4 (array + 4 * first)).marked
    (first + (UInt16.ofNat (hdr.len.toNat / 4)).toNat)).on
  | some .ipv6AddrList => ((itemsTlv 16 (array + 4 * first)).marked first).on
  | _ => .leave first

def genMsgParts : Option TlvType → Extent (Pass Unit)
  | some .serviceLoc | some .replyServiceLoc => svclocTlv.on
  | _ => .leave ()

def gwListParts : Option TlvType → Extent (Pass Unit)
  | some .tunnelList => (tunnelListTlv 52).on
  | _ => .leave ()

def tunnelRegParts : Option TlvType → Extent (Pass Unit)
  | some .tunnelList => (tunnelListTlv 76).on
  | some .serviceLoc | some .replyServiceLoc => svclocTlv.on
  | _ => .leave ()

def migrationParts : Option TlvType → Extent (Pass Unit)
  | some .endpointLoc => (locationTlv 128).on
  | some .endpointInfo => addressedTlv.on
  | _ => .leave ()

def mcastSenderParts : Option TlvType → Extent (Pass Unit)
  | some .ipAddr => ipTlv.on
  | some .endpointInfo => addressedTlv.on
  | some .mcastAddrMac | some .mcastAddrV4 | some .mcastAddrV6 => addressedTlv.on
  | some .serviceLoc | some .replyServiceLoc => svclocTlv.on
  | _ => .leave ()

def mcastReceiverParts : Option TlvType → Extent (Pass Unit)
  | some .ipAddr => ipTlv.on
  | some .mcastGrpRec => groupRecTlv.on
  | some .serviceLoc | some .replyServiceLoc => svclocTlv.on
  | _ => .leave ()

/-- The parts of a switch list, with the cells filled so far and the one reached. -/
def dsListParts (state : Cells × Nat) : Option TlvType → Extent (Pass (Cells × Nat))
  | some .mcastAddrMac | some .mcastAddrV4 | some .mcastAddrV6 => (addressedTlv.marked state).on
  | some .vnidTunnelList => fun memory start ended stop => ∃ list,
    vnidTunnelListTlv (76 + 4 * state.2) (recordAt state.1 state.2) memory start list stop ∧
      ended = .on (storeRecord state.1 state.2 list,
        state.2 + 2 + list.numV4Tunnels.toNat + 4 * list.numV6Tunnels.toNat)
  | _ => .leave state

def vmLocInfoParts : Option TlvType → Extent (Pass Unit)
  | some .epri => epriTlv.on
  | _ => unknownTlv.on

/-- The length of the packet that its header declares. -/
def declaredLen : Nat := (getInt16 memory 2).toNat * 4 + 4

/-- A header and passes up to the declared end. A declared length below that of the
header makes the number of bytes behind it wrap. -/
def tlvs (step : κ → Extent (Pass κ)) (mark : κ) : Extent Unit := fun memory start _ stop =>
  ∃ ended, upTo (20 + ((getInt16 memory (start + 2)).toNat * 4 + 4294967296 - 20 + 4) %
    4294967296) step mark memory (start + 20) ended stop

/-- The permit rules and the deny rules of a bulk list. Of a deny rule only the source is stored. -/
def bulkPolicy : Extent Unit := fun memory start _ stop =>
  (rulesOf 52 8 (getInt16 memory start).toNat id).andThen
    (rulesOf 52 4 (getInt16 memory (start + 2)).toNat ((getInt16 memory start).toNat + ·))
    memory (start + 4) () stop

/-- The packets of a type, for what the cells of the buffer hold before. -/
def packetOf (cells : Cells) : MsgType → Extent Unit
  | .endpointLocReq | .addrResolve => tlvs (fun _ => parts requestParts) ()
  | .endpointLocReply | .unsolicitedEndpointLocReply => tlvs (fun _ => (locationTlv 92).on) ()
  | .policyReq => tlvs (fun _ => parts policyReqParts) ()
  | .policyReply => tlvs (fun _ => parts policyReplyParts) ()
  | .endpointUpdate => tlvs (fun _ => parts updateParts) ()
  | .endpointUpdateReply => tlvs (fun stored => parts (replyParts stored)) 0
  | .internalGwReply | .unsolicitedInternalGwReply =>
    tlvs (fun first => partsBy (packedParts 52 first)) 0
  | .bcastListReply | .unsolicitedBcastListReply =>
    tlvs (fun first => partsBy (packedParts 56 first)) 0
  | .internalGwReq | .bcastListReq | .externalGwListReq | .vlanGwListReq | .vnidPolicyListReq
  | .mcastCtrlGwReq | .unsolicitedVnidDelReq | .ctrlPlaneHb => tlvs (fun _ => parts genMsgParts) ()
  | .unsolicitedVnidPolicyList | .vnidPolicyListReply => (fixed 20).andThen bulkPolicy
  | .unsolicitedExternalGwList | .unsolicitedVlanGwList | .externalGwListReply | .vlanGwListReply
  | .mcastCtrlGwReply => tlvs (fun _ => parts gwListParts) ()
  | .tunnelRegister | .tunnelDeregister => tlvs (fun _ => parts tunnelRegParts) ()
  | .vmMigrationEvent => tlvs (fun _ => parts migrationParts) ()
  | .mcastSenderRegistration | .mcastSenderDeregistration =>
    tlvs (fun _ => parts mcastSenderParts) ()
  | .mcastReceiverJoin | .mcastReceiverLeave => tlvs (fun _ => parts mcastReceiverParts) ()
  | .mcastReceiverDsList => tlvs (fun state => parts (dsListParts state)) (cells, 0)
  | .generalAck | .regDeregisterAck => .fixed 20
  | .unsolicitedVmLocInfo => tlvs (fun _ => parts vmLocInfoParts) ()
  | .policyInvalidate | .addrReply | .getDcsNode => .fixed 0

/-- A packet whose parts have a place in the buffer and end where its header says, or earlier at a
part that makes its routine drop it. A packet of another type is not read. -/
def WellFormed (cells : Cells) : Prop :=
  ∀ type ∈ MsgType.ofCode (memory 1), ∃ stop, packetOf cells type memory 0 () stop ∧
    stop ≤ declaredLen memory

end Grammar

variable {size count : Nat} {β α : Type} {item : Scanner IpAddr} (tunnels : List TunnelEndpoint)
  (epri : Epri) (update : EndpointUpdate) (groupRec : McastGroupRecord) (cells : Cells)
  (reply : EndpointUpdateReply) (list : PkdTunnelList) (memory : Memory) (buffer : Buffer)
  (sender : ServiceLocation) (first array : Nat)

section Parts

variable {κ σ : Type} {mark : σ → κ}

variable {step : κ → Extent (Pass κ)} {body : σ → Scanner (Pass σ)} {marked : κ}

/-- A pass over a part goes over what the table says. -/
theorem spans_partsBy {scanner : Scanner (Pass σ)} {table : TlvHdr → Extent (Pass κ)}
    {routine : TlvHdr → Scanner (Pass σ)} (dispatch : scanner = look getTlvHdr >>= routine)
    (branch : ∀ hdr, Spans (routine hdr) (Pass.map mark) (table hdr)) :
    Spans scanner (Pass.map mark) (partsBy table) := by
  rw [dispatch]
  exact Spans.look branch

theorem spans_parts {scanner : Scanner (Pass σ)} {table : Option TlvType → Extent (Pass κ)}
    {routine : TlvHdr → Scanner (Pass σ)} (dispatch : scanner = look getTlvHdr >>= routine)
    (branch : ∀ hdr, Spans (routine hdr) (Pass.map mark) (table hdr.kind)) :
    Spans scanner (Pass.map mark) (parts table) :=
  spans_partsBy dispatch branch

theorem spans_getList {item : σ → Scanner (Pass σ)}
    (one : ∀ state, Spans (item state) (Pass.map mark) (step (mark state))) (state : σ) :
    Spans (getList item state) (Pass.map mark) (listOf step (mark state)) :=
  Spans.take (fun (hdr : TlvHdr) memory start =>
      upTo (start + hdr.len.toNat) step (mark state) memory start)
    fun hdr => Spans.here fun position => Spans.loopUntil one (position + hdr.len.toNat) state

/-- A list of parts that are all gone over in one way. -/
theorem spans_alike {item : σ → Scanner (Pass σ)} {step : Extent (Pass Unit)} {result : Pass σ → β}
    (one : ∀ state, Passes (item state) step) (state : σ) :
    Covers (getList item state >>= fun ended => pure (result ended))
      (listOf (fun _ => step) ()).anyhow := by
  have list : Passes (getList item state) (listOf (fun _ => step) ()) :=
    spans_getList one state
  exact list.finish

theorem spans_getNested (one : ∀ state, Spans (body state) (Pass.map mark) (step (mark state)))
    {state : UInt32 → σ} (same : ∀ first, mark (state first) = marked) :
    Spans (getNested body state) (Pass.map mark) (nested step marked) := by
  have inner : ∀ hdr : TlvHdr, Spans (take 4 getInt32 >>= fun first => here >>= fun buff =>
      loopUntil (buff + (hdr.len.toNat + 4294967296 - 4) % 4294967296) body (state first))
      (Pass.map mark) fun memory start => upTo
        (start + 4 + (hdr.len.toNat + 4294967296 - 4) % 4294967296) step marked memory
        (start + 4) := by
    intro hdr
    generalize (hdr.len.toNat + 4294967296 - 4) % 4294967296 = len
    refine Spans.take (fun _ memory start => upTo (start + len) step marked memory start)
      fun first => Spans.here fun position => ?_
    rw [← same first]
    exact Spans.loopUntil one (position + len) (state first)
  exact Spans.take _ inner

/-- A list that is left early is stepped over by the routine that reads it. -/
theorem spans_skipping {list : Scanner (Pass σ)} {extent : Extent (Pass κ)}
    {next : TlvHdr → Nat → Pass σ → Scanner σ}
    (goes : ∀ hdr start state, next hdr start (.on state) = pure state)
    (skips : ∀ hdr start state, next hdr start (.leave state) =
      seek (start + 4 + hdr.len.toNat) >>= fun _ => pure state)
    (spans : Spans list (Pass.map mark) extent)
    (inside : ∀ memory start left stop, extent memory start (.leave left) stop →
      stop ≤ start + 4 + tlvLen memory start) :
    Spans (look getTlvHdr >>= fun hdr => here >>= fun start => list >>= next hdr start)
      mark (skipping extent) where
  sound {fuel memory start passes value cursor} ran := by
    simp only [Bind.bind, look, here] at ran
    split at ran
    · simp at ran
    · next ended moved listRan =>
      obtain ⟨more, later, within⟩ := spans.sound listRan
      cases ended with
      | on state =>
        simp only [goes, Pure.pure, Option.some.injEq, Prod.mk.injEq] at ran
        obtain ⟨rfl, rfl⟩ := ran
        exact ⟨more, later, fun all => .inl (within all)⟩
      | leave state =>
        simp only [skips, Bind.bind, seek, Pure.pure, Option.some.injEq, Prod.mk.injEq] at ran
        obtain ⟨rfl, rfl⟩ := ran
        exact ⟨more, later, fun all => .inr ⟨_, within all, rfl⟩⟩
  complete := by
    rintro memory start marked stop (reached | ⟨left, reached, rfl⟩)
    · obtain ⟨ended, marks, runs⟩ := spans.complete reached
      cases ended with
      | on state =>
        refine ⟨state, Pass.on.inj marks, Runs.bind (Runs.look _) (Runs.bind Runs.here ?_)⟩
        refine Runs.bind runs ?_
        rw [goes]
        exact Runs.pure _
      | leave state => simp [Pass.map] at marks
    · obtain ⟨ended, marks, runs⟩ := spans.complete reached
      cases ended with
      | on state => simp [Pass.map] at marks
      | leave state =>
        refine ⟨state, Pass.leave.inj marks, Runs.bind (Runs.look _) (Runs.bind Runs.here ?_)⟩
        refine Runs.bind runs ?_
        rw [skips]
        exact Runs.bind (Runs.seek (inside _ _ _ _ reached)) (Runs.pure _)

/-- An item that is stored. -/
theorem spans_stored {scanner : Scanner α} {store : α → σ} {mark : σ → Nat}
    {wide step size place : Nat} (taken : Covers scanner (.fixed size))
    (next : ∀ value, mark (store value) = place + step) :
    Spans (Dps.store (place + wide) >>= fun _ => scanner >>= fun value => pure (.on (store value)))
      (Pass.map mark) (storedItem wide step size place) :=
  Spans.check (taken.onKeeping next)

theorem spans_items {item : σ → Scanner (Pass σ)} {state : σ} {result : Pass σ → β}
    (place : σ → Nat) (starts : place state = array)
    (one : ∀ state, Spans (item state) (Pass.map place) (storedItem size size size (place state))) :
    Covers (getList item state >>= fun ended => pure (result ended))
      (itemsTlv size array) := by
  rw [← starts]
  exact (spans_getList one state).finish

theorem spans_getIp4Tlv : Covers getIp4Tlv (.fixed 8) := Spans.taken _ _

theorem spans_getIp6Tlv : Covers getIp6Tlv (.fixed 20) := Spans.taken _ _

/-- A routine of one of two sizes, by the version at the head of the part. -/
theorem spans_versioned {short long : Nat} {routine : TlvHdr → Scanner α}
    (four : ∀ hdr, hdr.ver = 4 → Covers (routine hdr) (.fixed short))
    (other : ∀ hdr, hdr.ver ≠ 4 → Covers (routine hdr) (.fixed long)) :
    Covers (look getTlvHdr >>= routine)
      (.sized fun memory start => if memory start = 4 then short else long) := by
  have chosen : ∀ hdr, Covers (routine hdr)
      (.fixed (if hdr.ver = 4 then short else long)) := by
    intro hdr
    by_cases version : hdr.ver = 4
    · rw [if_pos version]
      exact four hdr version
    · rw [if_neg version]
      exact other hdr version
  exact Spans.look chosen

theorem spans_fixed_return {scanner : Scanner α} {result : α → β}
    (spans : Covers scanner (.fixed size)) :
    Covers (scanner >>= fun value => pure (result value)) (.fixed size) :=
  (spans.finish).cast fun _ _ _ _ => by simp [anyhow, fixed]

theorem spans_getIpTlv : Covers getIpTlv ipTlv := by
  refine spans_versioned (fun hdr version => ?_) fun hdr version => ?_
  · rw [if_pos version]
    exact spans_fixed_return spans_getIp4Tlv
  · rw [if_neg version]
    exact spans_fixed_return spans_getIp6Tlv

theorem spans_getSvclocTlv : Covers getSvclocTlv svclocTlv := by
  refine spans_versioned (fun hdr version => ?_) fun hdr version => ?_
  · rw [if_pos version]
    exact Spans.taken _ _
  · rw [if_neg version]
    exact Spans.taken _ _

theorem spans_getIpv4ListTlv : Covers (getIpv4ListTlv cells first array)
    (itemsTlv 4 (array + 4 * first)) :=
  spans_items _ (fun state => array + 4 * state.2) rfl fun _ => spans_stored (Spans.taken _ _)
    fun _ => rfl

theorem spans_getIpv6ListTlv : Covers (getIpv6ListTlv cells first array)
    (itemsTlv 16 (array + 4 * first)) :=
  spans_items _ (fun state => array + 4 * state.2) rfl fun _ => spans_stored (Spans.taken _ _)
    fun _ => rfl

theorem spans_getIp4InfoListTlv :
    Covers (getIp4InfoListTlv array) (itemsTlv 8 array) :=
  spans_items _ (fun infos : List Ip4Info => array + 8 * infos.length) rfl fun infos =>
    spans_stored (Spans.taken _ _) fun info => by rw [List.length_append]; rfl

theorem spans_getIp6InfoListTlv :
    Covers (getIp6InfoListTlv array) (itemsTlv 20 array) :=
  spans_items _ (fun infos : List Ip6Info => array + 20 * infos.length) rfl fun infos =>
    spans_stored (Spans.taken _ _) fun info => by rw [List.length_append]; rfl

/-- A list up to its declared end is left before it. -/
theorem listOf_left
    (still : ∀ memory mark start next stop, step mark memory start (.leave next) stop → stop = start)
    (memory : Memory) (start : Nat) (left : κ) (stop : Nat)
    (walk : listOf step marked memory start (.leave left) stop) :
    stop ≤ start + 4 + tlvLen memory start :=
  (upTo_left (still memory) walk).le

theorem spans_getTunnelInfo : Spans (getTunnelInfo array tunnels)
    (Pass.map fun tunnels => array + 28 * tunnels.length)
    (tunnelItem (array + 28 * tunnels.length)) := by
  have next (tunnel : TunnelEndpoint) :
      array + 28 * (tunnels ++ [tunnel]).length = array + 28 * tunnels.length + 28 := by
    rw [List.length_append]
    rfl
  let item (format : UInt16) : Extent (Pass Nat) :=
    if format = 4 then storedItem 16 28 16 (array + 28 * tunnels.length)
    else if format = 6 then storedItem 28 28 28 (array + 28 * tunnels.length)
    else .leave (array + 28 * tunnels.length)
  refine Spans.cast (Spans.look fun format => (?_ : Spans _ _ (item format)))
    fun memory start ended stop => ?_
  · unfold item
    by_cases four : format = 4
    · rw [if_pos four, if_pos four]
      exact spans_stored (Spans.taken _ _) next
    · rw [if_neg four, if_neg four]
      by_cases six : format = 6
      · rw [if_pos six, if_pos six]
        exact spans_stored (Spans.taken _ _) next
      · rw [if_neg six, if_neg six]
        exact Spans.leaves _ _
  · unfold item tunnelItem
    split
    · rfl
    · split <;> rfl

/-- An item that is stored does not end its list. -/
theorem not_storedItem_left {wide step size place start next stop : Nat} :
    ¬ storedItem wide step size place memory start (.leave next) stop := by
  rintro ⟨-, _, wrong, -⟩
  cases wrong

theorem tunnelItem_left (place start next stop : Nat)
    (left : tunnelItem place memory start (.leave next) stop) : stop = start := by
  unfold tunnelItem at left
  split at left
  · exact absurd left (not_storedItem_left memory)
  · split at left
    · exact absurd left (not_storedItem_left memory)
    · exact left.2

theorem spans_getTunnelListTlv :
    Covers (getTunnelListTlv array) (tunnelListTlv array) :=
  Spans.forget (spans_skipping (fun _ _ _ => rfl) (fun _ _ _ => rfl)
    (spans_getList (spans_getTunnelInfo · array) []) (listOf_left tunnelItem_left))

theorem spans_getVipItem (one : Covers item (.fixed size)) (vips : List IpAddr) :
    Spans (getVipItem item vips) (Pass.map List.length) (vipItem size vips.length) := by
  unfold getVipItem vipItem
  by_cases room : vips.length ≤ maxVipAddr
  · rw [if_pos room, if_pos room]
    exact one.onKeeping fun addr => by simp
  · rw [if_neg room, if_neg room]
    exact Spans.leaves _ _

theorem vipItem_left (stored start next stop : Nat)
    (left : vipItem size stored memory start (.leave next) stop) : stop = start := by
  unfold vipItem at left
  split at left
  · obtain ⟨_, wrong, _⟩ := left
    cases wrong
  · exact left.2

theorem spans_getListToIpaddr (one : Covers item (.fixed size)) (vips : List IpAddr) :
    Spans (getListToIpaddr item vips) List.length (vipListTlv size vips.length) :=
  spans_skipping (fun _ _ _ => rfl) (fun _ _ _ => rfl) (spans_getList (spans_getVipItem one) vips)
    (listOf_left vipItem_left)

theorem spans_locationPart (reply : EndpointLocReply) :
    Passes (getEndpointLocReplyPart array reply)
      (parts (locationParts array)) := by
  refine spans_parts rfl fun hdr => ?_
  rcases hdr.kind with _ | type
  · exact Spans.leaves _ _
  · cases type with
    | euid => exact (Spans.taken _ _).on
    | ipAddr => exact spans_getIpTlv.on
    | tunnelList => exact (spans_getTunnelListTlv _).on
    | _ => exact Spans.leaves _ _

theorem spans_getEndpointLocReplyTlv (reply : EndpointLocReply) :
    Covers (getEndpointLocReplyTlv array reply) (locationTlv array) :=
  Spans.finish (spans_getNested (spans_locationPart array) fun _ => rfl)

theorem spans_updatePart :
    Passes (getEndpointUpdatePart update) (parts (locationParts 116)) := by
  refine spans_parts rfl fun hdr => ?_
  rcases hdr.kind with _ | type
  · exact Spans.leaves _ _
  · cases type with
    | euid => exact (Spans.taken _ _).on
    | ipAddr => exact spans_getIpTlv.on
    | tunnelList => exact (spans_getTunnelListTlv _).on
    | _ => exact Spans.leaves _ _

theorem spans_getEndpointUpdateTlv :
    Covers (getEndpointUpdateTlv update) (locationTlv 116) :=
  Spans.finish (spans_getNested spans_updatePart fun _ => rfl)

/-- How many addresses a reply has stored. -/
def EndpointUpdateReply.stored (reply : EndpointUpdateReply) : Nat := reply.vmIpAddr.length

theorem spans_updateReplyPart :
    Spans (getEndpointUpdateReplyPart reply) (Pass.map EndpointUpdateReply.stored)
      (parts (updateReplyParts reply.stored)) := by
  refine spans_parts rfl fun hdr => ?_
  rcases hdr.kind with _ | type
  · exact Spans.leaves _ _
  · cases type with
    | euid => exact (Spans.taken _ _).onKeeping fun _ => rfl
    | ipv4AddrList => exact (spans_getListToIpaddr (Spans.taken _ _) _).on fun _ => rfl
    | ipv6AddrList => exact (spans_getListToIpaddr (Spans.taken _ _) _).on fun _ => rfl
    | tunnelList => exact (spans_getTunnelListTlv _).onKeeping fun _ => rfl
    | _ => exact Spans.leaves _ _

theorem spans_getEndpointUpdateReplyTlv :
    Spans (getEndpointUpdateReplyTlv reply) EndpointUpdateReply.stored
      (updateReplyTlv reply.stored) := by
  have inner : Spans (getNested getEndpointUpdateReplyPart fun version =>
      { reply with version := version }) (Pass.map EndpointUpdateReply.stored)
      (nested (fun stored => parts (updateReplyParts stored)) reply.stored) :=
    spans_getNested spans_updateReplyPart fun _ => rfl
  exact inner.state id id EndpointUpdateReply.stored fun _ => rfl

theorem spans_getEndpointInfoTlv : Covers getEndpointInfoTlv addressedTlv :=
  (Spans.taken _ _).andThen fun _ => (spans_getIpTlv.finish).cast
    fun _ _ _ _ => by simp [anyhow, ipTlv, sized]

theorem spans_getMcastAddrTlv : Covers getMcastAddrTlv addressedTlv := by
  refine (Spans.take (fun _ => (fixed 12).andThen ipTlv) fun hdr => Spans.andThen
    (Spans.taken _ _) fun mac => spans_versioned (fun inner version => ?_)
      fun inner version => ?_).cast fun memory start marked stop => ?_
  · rw [if_pos version]
    exact spans_fixed_return spans_getIp4Tlv
  · rw [if_neg version]
    exact spans_fixed_return spans_getIp6Tlv
  · simp [addressedTlv, andThen, fixed, Nat.add_assoc]

theorem spans_groupRecPart :
    Passes (getMcastGrpRecPart groupRec) (parts groupRecParts) := by
  refine spans_parts rfl fun hdr => ?_
  rcases hdr.kind with _ | type
  · exact Spans.stays _ _
  · cases type with
    | mcastAddrMac | mcastAddrV4 | mcastAddrV6 | mcastAddrV4IcbRange => exact spans_getMcastAddrTlv.on
    | ipv4AddrList => exact (spans_getIpv4ListTlv _ 0 _).on
    | ipv6AddrList => exact (spans_getIpv6ListTlv _ 0 _).on
    | _ => exact Spans.stays _ _

theorem spans_getMcastGrpRecTlv : Covers (getMcastGrpRecTlv groupRec) groupRecTlv :=
  spans_alike spans_groupRecPart groupRec

/-- A list of addresses with what it leaves in the cells. -/
theorem spans_cells {put : Memory → Nat → Cells × Nat → Cells} {size : Nat}
    {item : Cells × Nat → Scanner (Pass (Cells × Nat))}
    (one : ∀ state, item state = Dps.store (array + 4 * state.2 + size) >>= fun _ =>
      take size (fun memory start => put memory start state) >>= fun stored =>
        pure (.on (stored, state.2 + size / 4))) :
    Spans (getList item (cells, 0) >>= fun ended => pure ended.state.1) id
      (cellsTlv array put size cells) := by
  have item (state : Cells × Nat) :
      Spans (item state) (Pass.map id) (cellItem array put size (id state)) := by
    rw [one]
    exact Spans.check (Spans.take (fun (stored : Cells) _ start (ended : Pass (Cells × Nat)) stop =>
      ended = .on (stored, state.2 + size / 4) ∧ stop = start) fun stored => Spans.pure _ _)
  exact (spans_getList item (cells, 0)).state Prod.fst Prod.fst id fun _ => rfl

theorem spans_ipv4Cells :
    Spans (getIpv4ListTlv cells 0 array) id (ipv4CellsTlv array cells) :=
  spans_cells cells array fun _ => rfl

theorem spans_ipv6Cells :
    Spans (getIpv6ListTlv cells 0 array) id (ipv6CellsTlv array cells) :=
  spans_cells cells array fun _ => rfl

/-- The list of a switch record, and the count behind it. -/
theorem spans_counted_list {list : Scanner Cells} {extent : Extent Cells}
    (spans : Spans list id extent) (record : Cells → PkdTunnelList) :
    Spans (list >>= fun stored => Dps.store (array + 8) >>= fun _ =>
      pure (.on (record stored))) (Pass.map id) fun memory start ended stop =>
        ∃ stored, extent memory start stored stop ∧ array + 8 ≤ maxBuffSz ∧
          ended = .on (record stored) := by
  refine (Spans.bind (fun stored _ start ended stop => array + 8 ≤ maxBuffSz ∧
    ended = .on (record stored) ∧ stop = start) spans fun stored =>
      Spans.check (Spans.pure _ _)).cast fun memory start ended stop => ?_
  constructor
  · rintro ⟨stored, middle, reached, room, rfl, rfl⟩
    exact ⟨stored, reached, room, rfl⟩
  · rintro ⟨stored, reached, room, rfl⟩
    exact ⟨stored, stop, reached, room, rfl, rfl⟩

theorem spans_switchPart :
    Spans (getVnidTunnelListPart list array) (Pass.map id) (partsBy (switchParts array list)) := by
  refine spans_partsBy rfl fun hdr => ?_
  unfold switchParts
  rcases hdr.kind with _ | type
  · exact Spans.stays _ _
  · cases type with
    | ipv4AddrList =>
      exact spans_counted_list _ (spans_ipv4Cells list.tunnelList _) fun stored =>
        { list with tunnelList := stored, numV4Tunnels := UInt16.ofNat (hdr.len.toNat / 4) }
    | ipv6AddrList =>
      exact spans_counted_list _ (spans_ipv6Cells list.tunnelList _) fun stored =>
        { list with tunnelList := stored, numV6Tunnels := UInt16.ofNat (hdr.len.toNat / 16) }
    | _ => exact Spans.stays _ _

theorem spans_getVnidTunnelListTlv :
    Spans (getVnidTunnelListTlv list array) id (vnidTunnelListTlv array list) := by
  have passes (list : PkdTunnelList) : Spans (getVnidTunnelListPart list array) (Pass.map id)
      (partsBy (switchParts array (id list))) := spans_switchPart list array
  unfold getVnidTunnelListTlv
  refine (Spans.here fun start => Spans.take _ fun hdr => Spans.check (Spans.take (fun vnid =>
    (upTo (start + 4 + (hdr.len.toNat + 4294967296 - 4) % 4294967296)
      (fun list => partsBy (switchParts array list)) { list with vnid := vnid }).ending id)
    fun vnid => ?_)).cast fun memory start marked stop => ?_
  · exact (Spans.loopUntil passes _ _).state id id id fun _ => rfl
  · exact Iff.rfl

theorem spans_skipTlv : Covers skipTlv unknownTlv :=
  Spans.look fun hdr : TlvHdr => Spans.taken (hdr.len.toNat + 4) _

theorem spans_epriPart : Passes (getEpriPart epri) (parts epriParts) := by
  refine spans_parts rfl fun hdr => ?_
  rcases hdr.kind with _ | type
  · exact spans_skipTlv.on
  · cases type with
    | euid => exact (Spans.taken _ _).on
    | ip4InfoList => exact (spans_getIp4InfoListTlv _).on
    | ip6InfoList => exact (spans_getIp6InfoListTlv _).on
    | tunnelList => exact (spans_getTunnelListTlv _).on
    | _ => exact spans_skipTlv.on

theorem spans_getEpriTlv : Covers (getEpriTlv epri) epriTlv :=
  spans_alike spans_epriPart epri

/-- One rule that is stored where its index says, and the number of those read. -/
def ruleItem (wide : Nat) (index : Nat → Nat) (done : Nat) : Extent (Pass Nat) :=
  (Extent.marked (fun memory start mark stop => array + 8 * index done + wide ≤ maxBuffSz ∧
    fixed 8 memory start mark stop) (done + 1)).on

/-- Counted rules take eight bytes each. -/
theorem walk_ruleItem_iff {memory : Memory} {wide : Nat} {index : Nat → Nat} {done start : Nat}
    {ended : Pass Nat} {stop : Nat} (inside : done ≤ count) :
    Walk (fun done _ => done < count) (ruleItem array wide index) memory done start ended stop ↔
      (∀ other < count, done ≤ other → array + 8 * index other + wide ≤ maxBuffSz) ∧
        ended = .on count ∧ stop = start + (count - done) * 8 := by
  constructor
  · intro walk
    induction walk with
    | @done done start finished =>
      simp only [decide_eq_false_iff_not] at finished
      obtain rfl : done = count := by omega
      exact ⟨fun other before later => by omega, rfl, by simp⟩
    | leave _ left =>
      obtain ⟨_, wrong, _⟩ := left
      cases wrong
    | pass going passed _ _ induction =>
      simp only [decide_eq_true_eq] at going
      obtain ⟨_, same, rfl, room, moved⟩ := passed
      obtain rfl := Pass.on.inj same
      obtain ⟨rooms, ends, reached⟩ := induction (by omega)
      refine ⟨fun other before later => ?_, ends, ?_⟩
      · rcases later.eq_or_lt with rfl | later
        · exact room
        · exact rooms other before later
      · rw [reached, moved]
        omega
  · rintro ⟨rooms, rfl, rfl⟩
    -- the passes still to come are counted down
    generalize left : count - done = more
    induction more generalizing done start with
    | zero =>
      obtain rfl : done = count := by omega
      simpa using Walk.done (by simp)
    | succ more induction =>
      have rest : Walk (fun done _ => done < count) (ruleItem array wide index) memory (done + 1)
          (start + 8) (.on count) (start + 8 + more * 8) :=
        induction (by omega) (fun other before later => rooms other before (by omega)) (by omega)
      refine .pass (by simp; omega) ⟨done + 1, rfl, rfl, rooms done (by omega) le_rfl, rfl⟩
        (by omega) ?_
      rw [Nat.add_mul, Nat.one_mul, Nat.add_comm (more * 8), ← Nat.add_assoc]
      exact rest

/-- A loop over a number of rules, whichever way it stores them. -/
theorem spans_counted {τ : Type} {wide : Nat} {index : Nat → Nat}
    {item : τ × Nat → Scanner (Pass (τ × Nat))} {rules : τ} {result : Pass (τ × Nat) → β}
    (one : ∀ state, Spans (item state) (Pass.map Prod.snd) (ruleItem array wide index state.2)) :
    Covers (loop (fun state _ => state.2 < count) item (rules, 0) >>= fun ended =>
      pure (result ended)) (rulesOf array wide count index) := by
  have looped := Spans.loop Prod.snd (fun done _ => done < count) (fun _ _ => rfl) one (rules, 0)
  refine (looped.finish).cast fun memory start marked stop => ?_
  simp only [anyhow, walk_ruleItem_iff array (Nat.zero_le count), rulesOf, Nat.sub_zero,
    Nat.zero_le, forall_const]
  constructor
  · rintro ⟨_, rooms, _, reached⟩
    exact ⟨rooms, reached⟩
  · rintro ⟨rooms, reached⟩
    exact ⟨_, rooms, rfl, reached⟩

theorem spans_getRules (count : Nat) (index : Nat → Nat) (rules : Nat → SrcDstVnid) :
    Covers (getRules array count index rules) (rulesOf array 8 count index) :=
  spans_counted array fun _ => (Spans.check (Spans.taken _ _)).onKeeping fun _ => rfl

theorem spans_getBulkDenyRules (count first : Nat) (rules : Nat → SrcDstVnid) :
    Covers (getBulkDenyRules count first rules)
      (rulesOf 52 4 count (first + ·)) :=
  spans_counted 52 fun _ => (Spans.check (Spans.taken _ _)).onKeeping fun _ => rfl

theorem spans_getRuleGroup (state : VnidPolicy × UInt16) :
    Spans (getRuleGroup state) (Pass.map Prod.snd) (ruleGroup state.2) := by
  unfold getRuleGroup
  refine Spans.cast (Spans.take _ fun action => Spans.take (fun count =>
    ((rulesOf 68 8 count.toNat fun index => (state.2 + UInt16.ofNat index).toNat).marked
      (state.2 + count)).on) fun count => ?_) fun memory start ended stop => ⟨?_, ?_⟩
  · exact (spans_getRules _ _ _ _).onKeeping fun _ => rfl
  · rintro ⟨_, rfl, rfl, reached⟩
    exact ⟨rfl, reached⟩
  · rintro ⟨rfl, reached⟩
    exact ⟨_, rfl, rfl, reached⟩

theorem spans_getRuleGroups (total : UInt16) (policy : VnidPolicy) :
    Covers (getRuleGroups total policy) (ruleGroups total) :=
  (Spans.loop Prod.snd (fun done _ => done < total) (fun _ _ => rfl) spans_getRuleGroup
    (policy, 0)).finish

theorem spans_getPolicyTypeTlv (policy : Policy) :
    Covers (getPolicyTypeTlv policy) policyTypeTlv := by
  refine (Spans.take (fun _ memory start => (if memory (start + 1) = policyTypeConnectivity then
    ruleGroups (getInt16 memory (start + 2)) else .fixed 0) memory (start + 4)) fun _ =>
    Spans.take (fun hdr : TlvHdr => if hdr.type = policyTypeConnectivity then ruleGroups hdr.len
      else .fixed 0) fun hdr => ?_).cast fun memory start marked stop => ?_
  · by_cases connectivity : hdr.type = policyTypeConnectivity
    · rw [if_pos connectivity, if_pos connectivity]
      exact (spans_getRuleGroups _ _).finish.cast fun _ _ _ _ => by simp [anyhow, ruleGroups]
    · rw [if_neg connectivity, if_neg connectivity]
      exact Spans.still _
  · unfold policyTypeTlv
    split <;> exact Iff.rfl

theorem spans_getPolicyTlv (info : PolicyInfo) :
    Covers (getPolicyTlv info) policyTlv := by
  have part : ∀ info, Passes (getPolicyPart info)
      ((fixed 16).andThen policyTypeTlv).on := by
    intro info
    refine (Spans.take (fun _ => policyTypeTlv.on) fun _ =>
      (spans_getPolicyTypeTlv _).on).cast fun memory start ended stop => ?_
    simp [on, andThen, fixed]
  exact spans_alike part info

theorem spans_getBulkPolicyXfer (rules : Nat → SrcDstVnid) :
    Covers (getBulkPolicyXfer rules) bulkPolicy := by
  refine Spans.take _ fun permits : UInt16 => Spans.take (fun denies : UInt16 =>
    (rulesOf 52 8 permits.toNat id).andThen (rulesOf 52 4 denies.toNat (permits.toNat + ·)))
      fun denies => (spans_getRules _ _ _ _).andThen fun permitted => ?_
  exact (spans_getBulkDenyRules _ _ permitted).finish.cast fun _ _ _ _ => by
    simp [anyhow, rulesOf]

end Parts

section Messages

variable {κ σ : Type}

/-- A message of parts is gone over to its declared end. -/
theorem spans_processTlvs {body : σ → Scanner (Pass σ)} (mark : σ → κ)
    (step : κ → Extent (Pass κ))
    (one : ∀ state, Spans (body state) (Pass.map mark) (step (mark state))) (state : σ)
    (finish : ClientHdr → σ → Processed) :
    Covers (processTlvs body state finish) (tlvs step (mark state)) := by
  unfold processTlvs
  refine (Spans.take (fun head : ClientHdr × Nat => (upTo (20 + head.2) step (mark state)
    : Extent (Pass κ)).anyhow) fun head => ?_).cast fun memory start marked stop => Iff.rfl
  refine ((Spans.loopUntil one (20 + head.2) state).forget.andThen fun ended =>
    (?_ : Covers _ (fixed 0))).cast fun _ _ _ _ => by simp [andThen, fixed]
  cases ended with
  | on state => exact Spans.still _
  | leave state => exact Spans.still _

/-- The same where the passes so far decide nothing. -/
theorem spans_message {body : σ → Scanner (Pass σ)} {step : Extent (Pass Unit)}
    (one : ∀ state, Passes (body state) step) (state : σ)
    (finish : ClientHdr → σ → Processed) :
    Covers (processTlvs body state finish) (tlvs (fun _ => step) ()) :=
  spans_processTlvs (fun _ => ()) (fun _ => step) one state finish

theorem spans_processEndpointLocReqPart (req : EndpointLocReq) :
    Passes (processEndpointLocReqPart req) (parts requestParts) := by
  refine spans_parts rfl fun hdr => ?_
  rcases hdr.kind with _ | type
  · exact Spans.leaves _ _
  · cases type with
    | vmac => exact (Spans.taken _ _).on
    | ipAddr => exact spans_getIpTlv.on
    | euid => exact (Spans.taken _ _).on
    | replyServiceLoc | serviceLoc => exact spans_getSvclocTlv.on
    | _ => exact Spans.leaves _ _

theorem spans_processEndpointLocReplyPart (reply : EndpointLocReply) :
    Passes (processEndpointLocReplyPart reply) (locationTlv 92).on :=
  (spans_getEndpointLocReplyTlv _ reply).on

theorem spans_processEndpointUpdatePart :
    Passes (processEndpointUpdatePart update) (parts updateParts) := by
  refine spans_parts rfl fun hdr => ?_
  rcases hdr.kind with _ | type
  · exact Spans.leaves _ _
  · cases type with
    | endpointLoc => exact (spans_getEndpointUpdateTlv _).on
    | serviceLoc | replyServiceLoc => exact spans_getSvclocTlv.on
    | _ => exact Spans.leaves _ _

theorem spans_processEndpointUpdateReplyPart :
    Spans (processEndpointUpdateReplyPart reply) (Pass.map EndpointUpdateReply.stored)
      (parts (replyParts reply.stored)) := by
  refine spans_parts rfl fun hdr => ?_
  rcases hdr.kind with _ | type
  · exact Spans.leaves _ _
  · cases type with
    | endpointUpdateReply => exact (spans_getEndpointUpdateReplyTlv _).on fun _ => rfl
    | _ => exact Spans.leaves _ _

theorem spans_processPolicyReqPart (state : PolicyReq × Nat) :
    Passes (processPolicyReqPart state) (parts policyReqParts) := by
  refine spans_parts rfl fun hdr => ?_
  rcases hdr.kind with _ | type
  · exact Spans.stays _ _
  · cases type with
    | endpointInfo => exact spans_getEndpointInfoTlv.on
    | serviceLoc | replyServiceLoc => exact spans_getSvclocTlv.on
    | _ => exact Spans.stays _ _

theorem spans_processPolicyReplyPart (reply : PolicyReply) :
    Passes (processPolicyReplyPart reply) (parts policyReplyParts) := by
  refine spans_parts rfl fun hdr => ?_
  rcases hdr.kind with _ | type
  · exact Spans.leaves _ _
  · cases type with
    | endpointLoc => exact (spans_getEndpointLocReplyTlv _ _).on
    | policy => exact (spans_getPolicyTlv _).on
    | _ => exact Spans.leaves _ _

theorem spans_processPackedPart (state : PkdTunnelList × Nat) :
    Spans (processPackedPart array state) (Pass.map Prod.snd)
      (partsBy (packedParts array state.2)) := by
  refine spans_partsBy rfl fun hdr => ?_
  unfold packedParts
  rcases hdr.kind with _ | type
  · exact Spans.leaves _ _
  · cases type with
    | ipv4AddrList => exact (spans_getIpv4ListTlv _ _ _).onKeeping fun _ => rfl
    | ipv6AddrList => exact (spans_getIpv6ListTlv _ _ _).onKeeping fun _ => rfl
    | _ => exact Spans.leaves _ _

theorem spans_processGenMsgReqPart (client : ServiceLocation) :
    Passes (processGenMsgReqPart client) (parts genMsgParts) := by
  refine spans_parts rfl fun hdr => ?_
  rcases hdr.kind with _ | type
  · exact Spans.leaves _ _
  · cases type with
    | serviceLoc | replyServiceLoc => exact spans_getSvclocTlv.on
    | _ => exact Spans.leaves _ _

theorem spans_processGwListPart :
    Passes (processGwListPart tunnels) (parts gwListParts) := by
  refine spans_parts rfl fun hdr => ?_
  rcases hdr.kind with _ | type
  · exact Spans.leaves _ _
  · cases type with
    | tunnelList => exact (spans_getTunnelListTlv _).on
    | _ => exact Spans.leaves _ _

theorem spans_processTunnelRegDeregPart (data : TunnelRegDereg) :
    Passes (processTunnelRegDeregPart data) (parts tunnelRegParts) := by
  refine spans_parts rfl fun hdr => ?_
  rcases hdr.kind with _ | type
  · exact Spans.leaves _ _
  · cases type with
    | tunnelList => exact (spans_getTunnelListTlv _).on
    | serviceLoc | replyServiceLoc => exact spans_getSvclocTlv.on
    | _ => exact Spans.leaves _ _

theorem spans_processVmMigrationEventPart (event : VmMigrationEvent) :
    Passes (processVmMigrationEventPart event) (parts migrationParts) := by
  refine spans_parts rfl fun hdr => ?_
  rcases hdr.kind with _ | type
  · exact Spans.leaves _ _
  · cases type with
    | endpointLoc => exact (spans_getEndpointLocReplyTlv _ _).on
    | endpointInfo => exact spans_getEndpointInfoTlv.on
    | _ => exact Spans.leaves _ _

theorem spans_processMcastSenderPart (data : McastSender) :
    Passes (processMcastSenderPart data) (parts mcastSenderParts) := by
  refine spans_parts rfl fun hdr => ?_
  rcases hdr.kind with _ | type
  · exact Spans.leaves _ _
  · cases type with
    | ipAddr => exact spans_getIpTlv.on
    | endpointInfo => exact spans_getEndpointInfoTlv.on
    | mcastAddrMac | mcastAddrV4 | mcastAddrV6 => exact spans_getMcastAddrTlv.on
    | serviceLoc | replyServiceLoc => exact spans_getSvclocTlv.on
    | _ => exact Spans.leaves _ _

theorem spans_processMcastReceiverPart (data : McastReceiver) :
    Passes (processMcastReceiverPart data) (parts mcastReceiverParts) := by
  refine spans_parts rfl fun hdr => ?_
  rcases hdr.kind with _ | type
  · exact Spans.leaves _ _
  · cases type with
    | ipAddr => exact spans_getIpTlv.on
    | mcastGrpRec => exact (spans_getMcastGrpRecTlv _).on
    | serviceLoc | replyServiceLoc => exact spans_getSvclocTlv.on
    | _ => exact Spans.leaves _ _

theorem spans_processDsListPart (state : McastReceiverDsList × Nat) :
    Spans (processDsListPart state) (Pass.map fun state => (state.1.mcastRecvrList, state.2))
      (parts (dsListParts (state.1.mcastRecvrList, state.2))) := by
  refine spans_parts rfl fun hdr => ?_
  rcases hdr.kind with _ | type
  · exact Spans.leaves _ _
  · cases type with
    | mcastAddrMac | mcastAddrV4 | mcastAddrV6 => exact spans_getMcastAddrTlv.onKeeping fun _ => rfl
    | vnidTunnelList =>
      refine (Spans.bind (fun list _ start ended stop => ended = .on (storeRecord
        state.1.mcastRecvrList state.2 list, state.2 + 2 + list.numV4Tunnels.toNat +
          4 * list.numV6Tunnels.toNat) ∧ stop = start) (spans_getVnidTunnelListTlv _ _)
        fun list => Spans.pure _ _).cast fun memory start ended stop => ?_
      constructor
      · rintro ⟨list, middle, reached, rfl, rfl⟩
        exact ⟨list, reached, rfl⟩
      · rintro ⟨list, reached, rfl⟩
        exact ⟨list, stop, reached, rfl, rfl⟩
    | _ => exact Spans.leaves _ _

theorem spans_processVmLocInfoPart :
    Passes (processVmLocInfoPart epri) (parts vmLocInfoParts) := by
  refine spans_parts rfl fun hdr => ?_
  rcases hdr.kind with _ | type
  · exact spans_skipTlv.on
  · cases type with
    | epri => exact (spans_getEpriTlv _).on
    | _ => exact spans_skipTlv.on

theorem spans_processBulkPolicyXfer (unsolicited : Bool) (rules : Nat → SrcDstVnid) :
    Covers (processBulkPolicyXfer unsolicited rules)
      ((fixed 20).andThen bulkPolicy) :=
  (Spans.taken _ _).andThen fun _ => (spans_getBulkPolicyXfer
    rules).finish.cast fun _ _ _ _ => by simp [anyhow, bulkPolicy]

theorem spans_processGeneralAck (registration : Bool) :
    Covers (processGeneralAck registration) (.fixed 20) :=
  spans_fixed_return (Spans.taken _ _)

theorem spans_ignored (processed : Processed) :
    Covers (pure processed : Scanner Processed) (.fixed 0) :=
  (Spans.pure _ _).cast fun _ _ _ _ => by simp [fixed]

/-- Every routine goes over the packets of its type. -/
theorem spans_process (type : MsgType) :
    Covers (process buffer sender type) (packetOf buffer.cells type) := by
  unfold process packetOf
  cases type with
  | endpointLocReq | addrResolve => exact spans_message spans_processEndpointLocReqPart _ _
  | endpointLocReply | unsolicitedEndpointLocReply =>
    exact spans_message spans_processEndpointLocReplyPart _ _
  | policyReq => exact spans_message spans_processPolicyReqPart _ _
  | policyReply => exact spans_message spans_processPolicyReplyPart _ _
  | endpointUpdate => exact spans_message spans_processEndpointUpdatePart _ _
  | endpointUpdateReply =>
    exact spans_processTlvs EndpointUpdateReply.stored (fun stored => parts (replyParts stored))
      spans_processEndpointUpdateReplyPart {} _
  | internalGwReply | unsolicitedInternalGwReply | bcastListReply | unsolicitedBcastListReply =>
    exact spans_processTlvs Prod.snd (fun first => partsBy (packedParts _ first))
      (spans_processPackedPart _) _ _
  | internalGwReq | bcastListReq | externalGwListReq | vlanGwListReq | vnidPolicyListReq
  | mcastCtrlGwReq | unsolicitedVnidDelReq | ctrlPlaneHb =>
    exact spans_message spans_processGenMsgReqPart _ _
  | unsolicitedVnidPolicyList | vnidPolicyListReply => exact spans_processBulkPolicyXfer _ _
  | unsolicitedExternalGwList | unsolicitedVlanGwList | externalGwListReply | vlanGwListReply
  | mcastCtrlGwReply => exact spans_message spans_processGwListPart _ _
  | tunnelRegister | tunnelDeregister => exact spans_message spans_processTunnelRegDeregPart _ _
  | vmMigrationEvent => exact spans_message spans_processVmMigrationEventPart _ _
  | mcastSenderRegistration | mcastSenderDeregistration =>
    exact spans_message spans_processMcastSenderPart _ _
  | mcastReceiverJoin | mcastReceiverLeave =>
    exact spans_message spans_processMcastReceiverPart _ _
  | mcastReceiverDsList =>
    exact spans_processTlvs
      (fun state : McastReceiverDsList × Nat => (state.1.mcastRecvrList, state.2))
      (fun state => parts (dsListParts state)) spans_processDsListPart _ _
  | generalAck | regDeregisterAck => exact spans_processGeneralAck _
  | unsolicitedVmLocInfo => exact spans_message spans_processVmLocInfoPart _ _
  | policyInvalidate | addrReply | getDcsNode => exact spans_ignored _

/-- What is gone over of a packet whose type has the code. -/
def receivedOf (cells : Cells) (code : UInt8) : Extent Unit :=
  match MsgType.ofCode code with
  | none => .fixed 0
  | some type => packetOf cells type

theorem spans_processRcvdPkt :
    Covers (processRcvdPkt buffer sender) fun memory start =>
      receivedOf buffer.cells (memory (start + 1)) memory start := by
  have routine : ∀ code : UInt8, Covers (match MsgType.ofCode code with
      | none => return {}
      | some type => process buffer sender type)
      (receivedOf buffer.cells code) := by
    intro code
    unfold receivedOf
    cases MsgType.ofCode code with
    | none => exact spans_ignored _
    | some type => exact spans_process buffer sender type
  exact Spans.look routine

end Messages

/-- A received packet is taken apart: the routine returns, without a store past the end of the
client's buffer, every pass of a loop over
parts has moved at least four bytes, and no more was read than the header declares. -/
def ReadsWithin (memory : Memory) (buffer : Buffer) (sender : ServiceLocation) : Prop :=
  ∃ fuel processed cursor,
    processRcvdPkt buffer sender fuel memory ⟨0, []⟩ = some (processed, cursor) ∧
      (∀ moved ∈ cursor.passes, 4 ≤ moved) ∧ cursor.position ≤ declaredLen memory

theorem wellFormed_iff :
    WellFormed memory cells ↔ ∃ stop, receivedOf cells (memory 1) memory 0 () stop ∧
      stop ≤ declaredLen memory := by
  unfold WellFormed receivedOf
  cases MsgType.ofCode (memory 1) with
  | none => simp [fixed]
  | some type => simp

/-- A policy request of 24 bytes whose only part has an unknown type. -/
def unknownPart : Memory := fun position =>
  if position = 1 then MsgType.policyReq.code else if position = 3 then 5 else 0

/-- No walk over the parts of the request gets past the part. -/
theorem not_packetOf_unknownPart (stop : Nat) :
    ¬ packetOf cells .policyReq unknownPart 0 () stop := by
  rintro ⟨ended, walk⟩
  have still : ∀ ended middle, parts policyReqParts unknownPart 20 ended middle →
      ended = .on () ∧ middle = 20 := by
    intro ended middle step
    exact step
  cases walk with
  | done finished =>
    revert finished
    decide
  | leave going left => cases (still _ _ left).1
  | pass going passed moved rest =>
    have stays := (still _ _ passed).2
    omega

end OpenDove.Dps
