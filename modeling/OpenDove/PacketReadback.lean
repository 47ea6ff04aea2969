import OpenDove.PacketGetters
import OpenDove.PacketLengths

/-!
# Reading parts back

Every getter is run on what the setter of the same part left in memory. A part is
found by the type in its head, its getter moves over exactly the bytes the setter
wrote, and the value is the one that was set. A list is read by one loop over its
items, and a part made of parts by one loop over them.

Two things are not read back as they were set: an address without a family arrives
as an IPv4 address, and the transport type of a location is what the buffer held.
-/

namespace OpenDove.Dps

open Scanner Setter

variable {memory : Memory} {start : Nat} {buffer : Memory} {buff : Nat}

variable {type : TlvType} {ver : UInt8} {client : ServiceLocation} {mac : Octets 6}
  {first len index array : Nat} {α : Type} {source cells : Cells} {tunnels : List TunnelEndpoint}
  {content : Setter} {info : EndpointInfo} {update : EndpointUpdate} {reply : EndpointLocReply}
  {epri : Epri} {vnid ip4 : UInt32} {addr : McastAddr} {ip6 : Octets 16} {count : UInt16}

/-- A routine is chosen by the head found at the cursor. -/
theorem runs_part {routine : TlvHdr → Scanner α} {value : α} {stop : Nat}
    (run : Runs memory (routine (getTlvHdr memory start)) start value stop) :
    Runs memory (look getTlvHdr >>= routine) start value stop :=
  Runs.bind (Runs.look _) run

/-- In this state a pass of the loop reads a part of this type with this getter, and
stores what it got. -/
def Chooses {σ α : Type} (memory : Memory) (body : σ → Scanner (Pass σ)) (state : σ)
    (type : TlvType) (getter : Scanner α) (store : α → σ) : Prop :=
  ∀ start value stop, (getTlvHdr memory start).kind = some type →
    Runs memory getter start value stop → Runs memory (body state) start (.on (store value)) stop

theorem chooses {σ : Type} {body : σ → Scanner (Pass σ)} {state : σ} {getter : Scanner α}
    {store : α → σ} {routine : TlvHdr → Scanner (Pass σ)}
    (dispatch : body state = look getTlvHdr >>= routine)
    (branch : ∀ ver len, routine ⟨ver, type.code, len⟩ =
      getter >>= fun value => pure (.on (store value))) :
    Chooses memory body state type getter store := by
  intro start value stop kind run
  rw [dispatch]
  refine runs_part ?_
  have code : type.code = (getTlvHdr memory start).type := by
    simpa using List.find?_some kind
  have same := branch (getTlvHdr memory start).ver (getTlvHdr memory start).len
  rw [code] at same
  rw [same]
  exact Runs.bind run (Runs.pure _)

theorem getTlvHdr_eq (held : Holds memory start (setTlvHdr ver type len buffer buff)) :
    getTlvHdr memory start = ⟨ver, type.code, UInt16.ofNat len⟩ := by
  simp only [setTlvHdr, Setter.bytes, OpenDove.holds_append, holds_cons, holds_nil,
    List.length_cons, List.length_nil, Nat.reduceAdd, and_true] at held
  obtain ⟨⟨version, code⟩, length⟩ := held
  simp only [getTlvHdr, version, code, getInt16_eq length]

@[simp] theorem kind_code (ver : UInt8) (type : TlvType) (len : UInt16) :
    (TlvHdr.mk ver type.code len).kind = some type :=
  TlvType.ofCode_code type

theorem holds_setTlv :
    Holds memory start (setTlv ver type content buffer buff) ↔
      Holds memory start
          (setTlvHdr ver type (content buffer (buff + 4)).length buffer buff) ∧
        Holds memory (start + 4) (content buffer (buff + 4)) := by
  simp [setTlv, OpenDove.holds_append]

theorem kind_setTlv (held : Holds memory start (setTlv ver type content buffer buff)) :
    (getTlvHdr memory start).kind = some type := by
  simp [getTlvHdr_eq (holds_setTlv.mp held).1]

/-- The address that arrives for one that was sent. -/
def IpAddr.received : IpAddr → IpAddr
  | .absent ip4 => .v4 ip4
  | .v4 ip4 => .v4 ip4
  | .v6 ip6 => .v6 ip6

@[simp] theorem IpAddr.not_present_absent (ip4 : UInt32) : ¬ (IpAddr.absent ip4).Present := id

@[simp] theorem IpAddr.present_v4 (ip4 : UInt32) : (IpAddr.v4 ip4).Present := trivial

@[simp] theorem IpAddr.present_v6 (ip6 : Octets 16) : (IpAddr.v6 ip6).Present := trivial

@[simp] theorem IpAddr.received_eq_iff (addr : IpAddr) :
    addr.received = addr ↔ addr.Present := by
  cases addr <;> simp [IpAddr.received]

section Fixed

variable {σ : Type} {body : σ → Scanner (Pass σ)} {state : σ}

theorem kind_setIp4Tlv (held : Holds memory start (setIp4Tlv ip4 buffer buff)) :
    getTlvHdr memory start = ⟨4, TlvType.ipAddr.code, 4⟩ :=
  getTlvHdr_eq ((Setter.holds_append _ _ _ _ _ _).mp held).1

theorem kind_setIp6Tlv (held : Holds memory start (setIp6Tlv ip6 buffer buff)) :
    getTlvHdr memory start = ⟨6, TlvType.ipAddr.code, 16⟩ :=
  getTlvHdr_eq ((Setter.holds_append _ _ _ _ _ _).mp held).1

theorem runs_getIp4Tlv (held : Holds memory start (setIp4Tlv ip4 buffer buff)) :
    Runs memory getIp4Tlv start ip4 (start + 8) := by
  simp only [setIp4Tlv, Setter.holds_append, length_setTlvHdr] at held
  exact (Runs.take 8 _).cast (getInt32_eq held.2) rfl

theorem runs_getIp6Tlv (held : Holds memory start (setIp6Tlv ip6 buffer buff)) :
    Runs memory getIp6Tlv start ip6 (start + 20) := by
  simp only [setIp6Tlv, Setter.holds_append, length_setTlvHdr] at held
  exact (Runs.take 20 _).cast (getOctets_eq held.2) rfl

theorem kind_setIpTlv {addr : IpAddr} (held : Holds memory start (setIpTlv addr buffer buff)) :
    (getTlvHdr memory start).kind = some .ipAddr := by
  cases addr with
  | absent ip4 => simp [kind_setIp4Tlv held]
  | v4 ip4 => simp [kind_setIp4Tlv held]
  | v6 ip6 => simp [kind_setIp6Tlv held]

theorem runs_getIpTlv {addr : IpAddr} (held : Holds memory start (setIpTlv addr buffer buff)) :
    Runs memory getIpTlv start addr.received (start + ipAddrTlvLen addr) := by
  refine runs_part ?_
  cases addr with
  | absent ip4 | v4 ip4 =>
    simp only [kind_setIp4Tlv held, ↓reduceIte]
    exact Runs.bind (runs_getIp4Tlv held) (Runs.pure _)
  | v6 ip6 =>
    simp only [kind_setIp6Tlv held]
    exact Runs.bind (runs_getIp6Tlv held) (Runs.pure _)

theorem four_le_ipAddrTlvLen (addr : IpAddr) : 4 ≤ ipAddrTlvLen addr := by
  cases addr <;> simp [ipAddrTlvLen]

theorem consumes_ip {addr : IpAddr} (store : IpAddr → σ)
    (chosen : Chooses memory body state .ipAddr getIpTlv store) :
    Consumes memory buffer body (setIpTlv addr) state (· = store addr.received) :=
  .pass (ipAddrTlvLen addr) (four_le_ipAddrTlvLen addr) (fun _ => length_setIpTlv _ _ _)
    fun _ _ held => ⟨_, rfl, chosen _ _ _ (kind_setIpTlv held) (runs_getIpTlv held)⟩

theorem kind_setEuidTlv (held : Holds memory start (setEuidTlv vnid mac buffer buff)) :
    (getTlvHdr memory start).kind = some .euid := by
  simp only [setEuidTlv, Setter.holds_append] at held
  simp [getTlvHdr_eq held.1.1.1]

theorem runs_getEuidTlv (held : Holds memory start (setEuidTlv vnid mac buffer buff)) :
    Runs memory getEuidTlv start (vnid, mac) (start + 16) := by
  simp only [setEuidTlv, Setter.holds_append, Setter.length_append, length_setTlvHdr,
    length_int32] at held
  exact (Runs.take 16 _).cast (Prod.ext (getInt32_eq held.1.1.2) (getOctets_eq held.1.2)) rfl

theorem consumes_euid (store : UInt32 × Octets 6 → σ)
    (chosen : Chooses memory body state .euid getEuidTlv store) :
    Consumes memory buffer body (setEuidTlv vnid mac) state (· = store (vnid, mac)) :=
  .pass 16 (by decide) (fun _ => length_setEuidTlv _ _ _ _)
    fun _ _ held => ⟨_, rfl, chosen _ _ _ (kind_setEuidTlv held) (runs_getEuidTlv held)⟩

theorem kind_setClientAddr (present : client.addr.Present)
    (held : Holds memory start (setClientAddr client buffer buff)) :
    (getTlvHdr memory start).kind = some .serviceLoc := by
  unfold setClientAddr setSvclocTlv at held
  rcases addr : client.addr with ip4 | ip4 | ip6
  · simp [addr] at present
  all_goals
    simp only [addr, Setter.holds_append] at held
    simp [getTlvHdr_eq held.1.1.1]

/-- The location arrives as it was sent, with the transport type the buffer held. -/
theorem runs_getSvclocTlv (present : client.addr.Present)
    (held : Holds memory start (setClientAddr client buffer buff)) :
    Runs memory getSvclocTlv start { client with xportType := getInt16 memory (start + 4) }
      (start + calcClientAddrLen client) := by
  unfold setClientAddr setSvclocTlv at held
  unfold calcClientAddrLen
  refine runs_part ?_
  rcases client with ⟨ip4 | ip4 | ip6, port, xportType⟩
  · exact absurd present (IpAddr.not_present_absent ip4)
  all_goals
    simp only [Setter.holds_append, Setter.length_append, length_setTlvHdr, length_gap,
      length_int16] at held
    obtain ⟨⟨⟨head, _⟩, portHeld⟩, ipHeld⟩ := held
    rw [getTlvHdr_eq head]
  · rw [if_pos rfl]
    refine (Runs.take 12 _).cast ?_ rfl
    rw [getInt16_eq portHeld, getInt32_eq ipHeld]
  · rw [if_neg (by decide)]
    refine (Runs.take 24 _).cast ?_ rfl
    rw [getInt16_eq portHeld, getOctets_eq ipHeld]

/-- A location is read whatever the transport type behind it turns out to be. -/
theorem consumes_client (present : client.addr.Present) (store : ServiceLocation → σ)
    (chosen : Chooses memory body state .serviceLoc getSvclocTlv store) :
    Consumes memory buffer body (setClientAddr client) state
      (fun next => ∃ xportType, next = store { client with xportType := xportType }) := by
  refine .pass (calcClientAddrLen client) ?_ (fun _ => length_setClientAddr _ _ _)
    fun start _ held => ⟨_, ⟨getInt16 memory (start + 4), rfl⟩,
      chosen _ _ _ (kind_setClientAddr present held) (runs_getSvclocTlv present held)⟩
  unfold calcClientAddrLen
  revert present
  cases client.addr <;> simp

theorem kind_setEndpointInfoTlv (held : Holds memory start (setEndpointInfoTlv info buffer buff)) :
    (getTlvHdr memory start).kind = some .endpointInfo := by
  unfold setEndpointInfoTlv at held
  rcases info with ⟨vnid, mac, ip4 | ip4 | ip6⟩ <;>
    simp only [Setter.holds_append] at held <;> simp [getTlvHdr_eq held.1.1.1.1]

theorem runs_getEndpointInfoTlv (held : Holds memory start (setEndpointInfoTlv info buffer buff)) :
    Runs memory getEndpointInfoTlv start { info with vmIpAddr := info.vmIpAddr.received }
      (start + calcEndpointInfoTlvLen info) := by
  unfold setEndpointInfoTlv at held
  have parts : Holds memory (start + 4) (int32 info.vnid buffer (buff + 4)) ∧
      Holds memory (start + 8) (octets info.mac buffer (buff + 8)) ∧
      Holds memory (start + 16) (setIpTlv info.vmIpAddr buffer (buff + 16)) := by
    rcases info with ⟨vnid, mac, ip4 | ip4 | ip6⟩ <;>
      simp only [Setter.holds_append, Setter.length_append, length_setTlvHdr, length_int32,
        length_octets, length_gap] at held <;>
      exact ⟨held.1.1.1.2, held.1.1.2, held.2⟩
  obtain ⟨vnidHeld, macHeld, addrHeld⟩ := parts
  have euid : Runs memory (take 16 fun memory buff =>
      (getInt32 memory (buff + 4), getOctets 6 memory (buff + 8))) start (info.vnid, info.mac)
        (start + 16) :=
    (Runs.take 16 _).cast (Prod.ext (getInt32_eq vnidHeld) (getOctets_eq macHeld)) rfl
  refine Runs.bind euid ?_
  exact Runs.bind ((runs_getIpTlv addrHeld).cast rfl (by unfold calcEndpointInfoTlvLen; omega))
    (Runs.pure _)

/-- The endpoint that arrives for one that was sent. -/
def EndpointInfo.received (info : EndpointInfo) : EndpointInfo :=
  { info with vmIpAddr := info.vmIpAddr.received }

theorem consumes_endpointInfo (store : EndpointInfo → σ)
    (chosen : Chooses memory body state .endpointInfo getEndpointInfoTlv store) :
    Consumes memory buffer body (setEndpointInfoTlv info) state (· = store info.received) := by
  refine .pass (calcEndpointInfoTlvLen info) ?_ (fun _ => length_setEndpointInfoTlv _ _ _)
    fun _ _ held => ⟨_, rfl, chosen _ _ _ (kind_setEndpointInfoTlv held)
      (runs_getEndpointInfoTlv held)⟩
  unfold calcEndpointInfoTlvLen
  omega

end Fixed

section Lists

variable {σ : Type} {item : σ → Scanner (Pass σ)} {state : σ}

/-- A list part is read by a loop over the bytes its head declares. -/
theorem runs_getList {post : σ → Prop} (small : len < 65536)
    (head : Holds memory start (setTlvHdr ver type len buffer buff))
    (held : Holds memory (start + 4) (content buffer (buff + 4)))
    (written : (content buffer (buff + 4)).length = len)
    (consumes : Consumes memory buffer item content state post) :
    ∃ next, post next ∧ Runs memory (getList item state) start (.on next) (start + 4 + len) := by
  have declared : (UInt16.ofNat len).toNat = len := by
    rw [UInt16.toNat_ofNat']
    omega
  obtain ⟨next, met, loops⟩ := consumes.loops held rfl
  rw [written] at loops
  refine ⟨next, met, ?_⟩
  refine Runs.bind ((Runs.take 4 _).cast (getTlvHdr_eq head) rfl) (Runs.bind Runs.here ?_)
  rw [declared]
  exact loops.runs

/-- A row with some of it copied from the start of another. -/
def copyCells {α : Type} (cells : Nat → α) (index : Nat) (source : Nat → α) (count : Nat) :
    Nat → α := fun cell =>
  if index ≤ cell ∧ cell < index + count then source (cell - index) else cells cell

section Copying

variable {α : Type} (cells : Nat → α) (index : Nat) (source : Nat → α)

theorem copyCells_zero : copyCells cells index source 0 = cells := by
  funext cell
  have outside : ¬ (index ≤ cell ∧ cell < index + 0) := by omega
  simp only [copyCells, outside, ↓reduceIte]

/-- Copying one more behind those already copied. -/
theorem update_copyCells (count : Nat) :
    Function.update (copyCells cells index source count) (index + count) (source count) =
      copyCells cells index source (count + 1) := by
  funext cell
  simp only [copyCells, Function.update_apply]
  by_cases last : cell = index + count
  · simp [last]
  · have same : (index ≤ cell ∧ cell < index + count) ↔
        (index ≤ cell ∧ cell < index + (count + 1)) := by omega
    simp only [last, ↓reduceIte, same]

end Copying

/-- A loop over numbered items goes through the states given for their numbers. -/
theorem foldl_range_map {item : Nat → α} {step : σ → α → σ} {count : Nat} {start : σ}
    (state : Nat → σ) (starts : start = state 0)
    (goes : ∀ done < count, step (state done) (item done) = state (done + 1)) :
    ((List.range count).map item).foldl step start = state count := by
  induction count with
  | zero => exact starts
  | succ count induction =>
    rw [List.range_succ, List.map_append, List.foldl_append,
      induction fun done inside => goes done (Nat.lt_succ_of_lt inside)]
    exact goes count (Nat.lt_succ_self count)

theorem foldl_cellWords (cells : Cells) (index : Nat) (source : Cells) (first count : Nat) :
    (cellWords source first count).foldl
        (fun state word => (storeWord state.1 state.2 word, state.2 + 1)) (cells, index) =
      (copyCells cells index (fun offset => source (first + offset)) count, index + count) :=
  foldl_range_map
    (fun done => (copyCells cells index (fun offset => source (first + offset)) done, index + done))
    (by rw [copyCells_zero, Nat.add_zero])
    fun done _ => congrArg (·, index + (done + 1))
      (update_copyCells cells index (fun offset => source (first + offset)) done)

section CellLists

variable {setter : α → Setter} {item : Cells × Nat → Scanner (Pass (Cells × Nat))} {wide : Nat}
  (put : Cells → Nat → α → Cells)
  (one : ∀ state value, array + 4 * state.2 + 4 * wide ≤ maxBuffSz →
    Consumes memory buffer item (setter value) state
      (· = (put state.1 state.2 value, state.2 + wide)))

include one

/-- Values of some words each are stored one behind the other. -/
theorem consumes_cells (values : List α) (state : Cells × Nat)
    (room : array + 4 * (state.2 + wide * values.length) ≤ maxBuffSz) :
    Consumes memory buffer item (each setter values) state
      (· = values.foldl (fun state value => (put state.1 state.2 value, state.2 + wide)) state) := by
  refine .each (fun state rest => array + 4 * (state.2 + wide * rest.length) ≤ maxBuffSz)
    (fun state value rest fit => ?_) values state room
  simp only [List.length_cons, Nat.mul_add, Nat.mul_one] at fit ⊢
  exact ⟨one state value (by omega), by omega⟩

end CellLists

theorem consumes_getIpv4Item (state : Cells × Nat) (word : UInt32)
    (room : array + 4 * state.2 + 4 * 1 ≤ maxBuffSz) :
    Consumes memory buffer (getIpv4Item array) (int32 word) state
      (· = (storeWord state.1 state.2 word, state.2 + 1)) := by
  refine .pass 4 le_rfl (fun _ => length_int32 _ _ _) fun start position held => ⟨_, rfl, ?_⟩
  refine Runs.bind (Runs.check room) ?_
  exact Runs.bind ((Runs.take 4 _).cast (getInt32_eq held) rfl) (Runs.pure _)

section Ipv4List

variable {count : Nat} (small : count * 4 < 65536)
  (held : Holds memory start (setIpv4ListTlv (cellWords source first count) buffer buff))

include small held

/-- A list of IPv4 addresses is copied to the cells from the given one on. -/
theorem runs_getIpv4ListTlv (room : array + 4 * (index + count) ≤ maxBuffSz) :
    Runs memory (getIpv4ListTlv cells index array) start
      (copyCells cells index (fun offset => source (first + offset)) count)
      (start + 4 + count * 4) := by
  simp only [setIpv4ListTlv, Setter.holds_append, length_setTlvHdr, length_cellWords] at held
  obtain ⟨next, rfl, run⟩ := runs_getList small held.1 held.2
    ((length_eachInt32 _ _ _).trans (by simp))
    (consumes_cells storeWord consumes_getIpv4Item _ (cells, index) (by simpa using room))
  rw [foldl_cellWords] at run
  exact Runs.bind run (Runs.pure _)

end Ipv4List

/-- Sixteen bytes as the start of a memory. -/
def octetMemory (octets : Octets 16) : Memory := fun position =>
  if inside : position < 16 then octets ⟨position, inside⟩ else 0

theorem storeOctets_eq {value : Octets 16} (held : Holds memory start (List.ofFn value)) :
    storeOctets cells index memory start = storeOctets cells index (octetMemory value) 0 := by
  have same : ∀ position < 16, memory (start + position) = octetMemory value position := by
    intro position inside
    rw [held position (by simpa using inside), List.getElem_ofFn]
    simp [octetMemory, inside]
  funext cell
  unfold storeOctets
  split
  · simp only [hostWord, Nat.add_assoc, Nat.zero_add]
    rw [same _ (by omega), same _ (by omega), same _ (by omega), same _ (by omega)]
  · rfl

/-- The bytes of an address kept in four cells are those cells again. -/
theorem hostWord_cellOctets (source : Cells) (first : Nat) {offset : Nat} (inside : offset < 4) :
    hostWord (octetMemory (cellOctets source first)) (4 * offset) = source (first + offset) := by
  refine hostWord_eq fun index bound => ?_
  have short : index < 4 := bound
  have whole : 4 * offset + index < 16 := by omega
  have cell : (4 * offset + index) / 4 = offset := by omega
  have byte : (4 * offset + index) % 4 = index := by omega
  simp only [octetMemory, whole, ↓reduceDIte, cellOctets, cell, byte]
  rw [List.getD_eq_getElem?_getD, List.getElem?_eq_getElem bound, Option.getD_some]

/-- Copying four words behind those already copied. -/
theorem storeOctets_copyCells (cells : Cells) (index : Nat) (source : Cells) (first count : Nat) :
    storeOctets (copyCells cells index (fun offset => source (first + offset)) (4 * count))
        (index + 4 * count) (octetMemory (cellOctets source (first + 4 * count))) 0 =
      copyCells cells index (fun offset => source (first + offset)) (4 * (count + 1)) := by
  funext cell
  unfold storeOctets copyCells
  by_cases last : index + 4 * count ≤ cell ∧ cell < index + 4 * count + 4
  · have inside : index ≤ cell ∧ cell < index + 4 * (count + 1) := by omega
    rw [if_pos last, if_pos inside, Nat.zero_add, hostWord_cellOctets source _ (by omega)]
    congr 1
    omega
  · have same : (index ≤ cell ∧ cell < index + 4 * count) ↔
        (index ≤ cell ∧ cell < index + 4 * (count + 1)) := by omega
    rw [if_neg last]
    simp only [same]

theorem foldl_cellAddresses (cells : Cells) (index : Nat) (source : Cells) (first count : Nat) :
    (cellAddresses source first count).foldl
        (fun state value => (storeOctets state.1 state.2 (octetMemory value) 0, state.2 + 4))
        (cells, index) =
      (copyCells cells index (fun offset => source (first + offset)) (4 * count),
        index + 4 * count) :=
  foldl_range_map (fun done =>
    (copyCells cells index (fun offset => source (first + offset)) (4 * done), index + 4 * done))
    (by rw [Nat.mul_zero, copyCells_zero, Nat.add_zero])
    fun done _ => congrArg (·, index + 4 * (done + 1))
      (storeOctets_copyCells cells index source first done)

theorem consumes_getIpv6Item (state : Cells × Nat) (value : Octets 16)
    (room : array + 4 * state.2 + 4 * 4 ≤ maxBuffSz) :
    Consumes memory buffer (getIpv6Item array) (octets value) state
      (· = (storeOctets state.1 state.2 (octetMemory value) 0, state.2 + 4)) := by
  refine .pass 16 (by decide) (fun _ => length_octets _ _ _) fun start position held =>
    ⟨_, rfl, ?_⟩
  refine Runs.bind (Runs.check room) ?_
  exact Runs.bind ((Runs.take 16 _).cast (storeOctets_eq held) rfl) (Runs.pure _)

section Ipv6List

variable {count : Nat} (small : count * 16 < 65536)
  (held : Holds memory start (setIpv6ListTlv (cellAddresses source first count) buffer buff))

include small held

/-- A list of IPv6 addresses is copied to the cells from the given one on. -/
theorem runs_getIpv6ListTlv (room : array + 4 * (index + 4 * count) ≤ maxBuffSz) :
    Runs memory (getIpv6ListTlv cells index array) start
      (copyCells cells index (fun offset => source (first + offset)) (4 * count))
      (start + 4 + count * 16) := by
  simp only [setIpv6ListTlv, Setter.holds_append, length_setTlvHdr, length_cellAddresses] at held
  obtain ⟨next, rfl, run⟩ := runs_getList small held.1 held.2
    ((length_eachOctets _ _ _).trans (by simp))
    (consumes_cells (fun cells index value => storeOctets cells index (octetMemory value) 0)
      consumes_getIpv6Item _ (cells, index) (by simpa using room))
  rw [foldl_cellAddresses] at run
  exact Runs.bind run (Runs.pure _)

end Ipv6List

/-- The head of a list of IPv4 addresses gives their number. -/
theorem head_setIpv4ListTlv (small : count.toNat * 4 < 65536)
    (held : Holds memory start (setIpv4ListTlv (cellWords source first count.toNat) buffer buff)) :
    (getTlvHdr memory start).kind = some .ipv4AddrList ∧
      UInt16.ofNat ((getTlvHdr memory start).len.toNat / 4) = count := by
  simp only [setIpv4ListTlv, Setter.holds_append, length_cellWords] at held
  rw [getTlvHdr_eq held.1]
  refine ⟨kind_code _ _ _, UInt16.toNat_inj.mp ?_⟩
  have bound : count.toNat < 65536 := count.toNat_lt
  simp only [UInt16.toNat_ofNat']
  omega

/-- The head of a list of IPv6 addresses gives their number. -/
theorem head_setIpv6ListTlv (small : count.toNat * 16 < 65536)
    (held : Holds memory start
      (setIpv6ListTlv (cellAddresses source first count.toNat) buffer buff)) :
    (getTlvHdr memory start).kind = some .ipv6AddrList ∧
      UInt16.ofNat ((getTlvHdr memory start).len.toNat / 16) = count := by
  simp only [setIpv6ListTlv, Setter.holds_append, length_cellAddresses] at held
  rw [getTlvHdr_eq held.1]
  refine ⟨kind_code _ _ _, UInt16.toNat_inj.mp ?_⟩
  have bound : count.toNat < 65536 := count.toNat_lt
  simp only [UInt16.toNat_ofNat']
  omega

/-- Values collected one by one are the list of those that are kept. -/
theorem foldl_collect (keep : α → Bool) (values collected : List α) :
    values.foldl (fun state value => if keep value then state ++ [value] else state) collected =
      collected ++ values.filter keep := by
  induction values generalizing collected with
  | nil => simp
  | cons value values induction =>
    rw [List.foldl_cons, induction, List.filter_cons]
    cases keep value <;> simp

/-- A list part whose items are collected in an array of structures of one size. -/
theorem runs_getList_collect {setter : α → Setter} {item : List α → Scanner (Pass (List α))}
    (keep : α → Bool) {values : List α} (wide : Nat)
    (one : ∀ value state, array + wide * state.length + wide ≤ maxBuffSz →
      Consumes memory buffer item (setter value) state
        (· = if keep value then state ++ [value] else state)) (small : len < 65536)
    (room : array + wide * values.length ≤ maxBuffSz)
    (head : Holds memory start (setTlvHdr ver type len buffer buff))
    (content : Holds memory (start + 4) (each setter values buffer (buff + 4)))
    (written : (each setter values buffer (buff + 4)).length = len) :
    Runs memory (getList item []) start (.on (values.filter keep)) (start + 4 + len) := by
  have collects (state : List α) (value : α) (rest : List α)
      (fit : array + wide * (state.length + (value :: rest).length) ≤ maxBuffSz) :
      Consumes memory buffer item (setter value) state
          (· = if keep value then state ++ [value] else state) ∧
        array + wide * ((if keep value then state ++ [value] else state).length + rest.length) ≤
          maxBuffSz := by
    simp only [List.length_cons, Nat.mul_add, Nat.mul_one] at fit ⊢
    refine ⟨one value state (by omega), ?_⟩
    split
    · rw [List.length_append, List.length_singleton, Nat.mul_add, Nat.mul_one]
      omega
    · omega
  obtain ⟨next, rfl, run⟩ := runs_getList small head content written
    (Consumes.each (fun state rest => array + wide * (state.length + rest.length) ≤ maxBuffSz)
      collects _ [] (by simpa using room))
  rwa [foldl_collect, List.nil_append] at run

theorem runs_getIp4InfoListTlv {infos : List Ip4Info} (small : infos.length * 8 < 65536)
    (room : array + 8 * infos.length ≤ maxBuffSz)
    (held : Holds memory start (setIp4InfoTlv infos buffer buff)) :
    Runs memory (getIp4InfoListTlv array) start infos (start + 4 + infos.length * 8) := by
  simp only [setIp4InfoTlv, Setter.holds_append, length_setTlvHdr] at held
  refine Runs.bind (runs_getList_collect (fun _ => true) 8 ?_ small room held.1 held.2 ?_)
    ((Runs.pure _).cast (List.filter_true _) rfl)
  · intro info state room
    refine .pass 8 (by decide) (fun _ => by simp [setIp4Info]) fun start position held =>
      ⟨_, rfl, ?_⟩
    simp only [setIp4Info, Setter.holds_append, Setter.length_append, length_int32,
      length_int16] at held
    obtain ⟨⟨ip, flags⟩, reserved⟩ := held
    refine Runs.bind (Runs.check room) (Runs.bind (Runs.take 8 _) ((Runs.pure _).cast ?_ rfl))
    simp [getInt32_eq ip, getInt16_eq flags, getInt16_eq reserved]
  · rw [length_each setIp4Info (fun _ => 8) (fun _ _ _ => by simp [setIp4Info])]
    simp

theorem runs_getIp6InfoListTlv {infos : List Ip6Info} (small : infos.length * 20 < 65536)
    (room : array + 20 * infos.length ≤ maxBuffSz)
    (held : Holds memory start (setIp6InfoTlv infos buffer buff)) :
    Runs memory (getIp6InfoListTlv array) start infos (start + 4 + infos.length * 20) := by
  simp only [setIp6InfoTlv, Setter.holds_append, length_setTlvHdr] at held
  refine Runs.bind (runs_getList_collect (fun _ => true) 20 ?_ small room held.1 held.2 ?_)
    ((Runs.pure _).cast (List.filter_true _) rfl)
  · intro info state room
    refine .pass 20 (by decide) (fun _ => by simp [setIp6Info]) fun start position held =>
      ⟨_, rfl, ?_⟩
    simp only [setIp6Info, Setter.holds_append, Setter.length_append, length_octets,
      length_int16] at held
    obtain ⟨⟨ip, flags⟩, reserved⟩ := held
    refine Runs.bind (Runs.check room) (Runs.bind (Runs.take 20 _) ((Runs.pure _).cast ?_ rfl))
    simp [getOctets_eq ip, getInt16_eq flags, getInt16_eq reserved]
  · rw [length_each setIp6Info (fun _ => 20) (fun _ _ _ => by simp [setIp6Info])]
    simp

/-- One tunnel is read back; one without an address left no bytes to read. -/
theorem consumes_getTunnelInfo (tunnel : TunnelEndpoint) (tunnels : List TunnelEndpoint)
    (room : array + 28 * tunnels.length + 28 ≤ maxBuffSz) :
    Consumes memory buffer (getTunnelInfo array) (setTunnelInfo tunnel) tunnels
      (· = if decide tunnel.addr.Present then tunnels ++ [tunnel] else tunnels) := by
  rcases tunnel with ⟨ip4 | ip4 | ip6, port, vnid, tunnelType, flags⟩
  · exact Consumes.nothing.weaken (by simp)
  · refine .pass 16 (by decide) (fun _ => by simp [setTunnelInfo]) fun start position held =>
      ⟨_, rfl, ?_⟩
    simp only [setTunnelInfo, Setter.holds_append, Setter.length_append, length_int16,
      length_int32] at held
    obtain ⟨⟨⟨⟨⟨format, portHeld⟩, typeHeld⟩, flagsHeld⟩, vnidHeld⟩, addrHeld⟩ := held
    refine Runs.bind (Runs.look _) ?_
    rw [getInt16_eq format, if_pos rfl]
    refine Runs.bind (Runs.check (by omega)) ?_
    refine Runs.bind (Runs.take 16 _) ((Runs.pure _).cast ?_ rfl)
    simp [getInt16_eq portHeld, getInt16_eq typeHeld, getInt16_eq flagsHeld,
      getInt32_eq vnidHeld, getInt32_eq addrHeld]
  · refine .pass 28 (by decide) (fun _ => by simp [setTunnelInfo]) fun start position held =>
      ⟨_, rfl, ?_⟩
    simp only [setTunnelInfo, Setter.holds_append, Setter.length_append, length_int16,
      length_int32] at held
    obtain ⟨⟨⟨⟨⟨format, portHeld⟩, typeHeld⟩, flagsHeld⟩, vnidHeld⟩, addrHeld⟩ := held
    refine Runs.bind (Runs.look _) ?_
    rw [getInt16_eq format, if_neg (by decide), if_pos rfl]
    refine Runs.bind (Runs.check room) ?_
    refine Runs.bind (Runs.take 28 _) ((Runs.pure _).cast ?_ rfl)
    simp [getInt16_eq portHeld, getInt16_eq typeHeld, getInt16_eq flagsHeld,
      getInt32_eq vnidHeld, getOctets_eq addrHeld]

/-- The tunnels that are written. -/
def presentTunnels (tunnels : List TunnelEndpoint) : List TunnelEndpoint :=
  tunnels.filter fun tunnel => decide tunnel.addr.Present

theorem presentTunnels_eq (present : ∀ tunnel ∈ tunnels, tunnel.addr.Present) :
    presentTunnels tunnels = tunnels :=
  List.filter_eq_self.mpr fun tunnel member => decide_eq_true (present tunnel member)

theorem kind_setTunnelListTlv (nonempty : tunnels ≠ [])
    (held : Holds memory start (setTunnelListTlv tunnels buffer buff)) :
    (getTlvHdr memory start).kind = some .tunnelList := by
  rw [setTunnelListTlv, if_neg nonempty] at held
  exact kind_setTlv held

theorem runs_getTunnelListTlv (nonempty : tunnels ≠ []) (small : calcTunnelTlvLen tunnels < 65536)
    (room : array + 28 * tunnels.length ≤ maxBuffSz)
    (held : Holds memory start (setTunnelListTlv tunnels buffer buff)) :
    Runs memory (getTunnelListTlv array) start (presentTunnels tunnels)
      (start + calcTunnelTlvLen tunnels) := by
  rw [setTunnelListTlv, if_neg nonempty, holds_setTlv] at held
  have written : 4 + (each setTunnelInfo tunnels buffer (buff + 4)).length =
      calcTunnelTlvLen tunnels := by
    rw [length_each setTunnelInfo tunnelInfoLen (fun tunnel _ _ => length_setTunnelInfo _ _ tunnel),
      calcTunnelTlvLen, if_neg nonempty]
  refine Runs.bind (Runs.look _) (Runs.bind Runs.here ?_)
  have list := runs_getList_collect (fun tunnel => decide tunnel.addr.Present) 28
    consumes_getTunnelInfo (by omega) room held.1 held.2 rfl
  exact Runs.bind (list.cast rfl (by omega)) (Runs.pure _)

/-- Tunnels are read into a state that has none yet; for no tunnels there is no part. -/
theorem consumes_tunnels {body : σ → Scanner (Pass σ)} (store : List TunnelEndpoint → σ)
    (fresh : store [] = state) (small : calcTunnelTlvLen tunnels < 65536)
    (room : array + 28 * tunnels.length ≤ maxBuffSz)
    (chosen : Chooses memory body state .tunnelList (getTunnelListTlv array) store) :
    Consumes memory buffer body (setTunnelListTlv tunnels) state
      (· = store (presentTunnels tunnels)) := by
  by_cases empty : tunnels = []
  · subst empty
    exact Consumes.nothing.weaken fun next same => same.trans fresh.symm
  · refine .pass (calcTunnelTlvLen tunnels) ?_ (fun _ => length_setTunnelListTlv _ _ _)
      fun _ _ held => ⟨_, rfl, chosen _ _ _ (kind_setTunnelListTlv empty held)
        (runs_getTunnelListTlv empty small room held)⟩
    simp [calcTunnelTlvLen, empty]

end Lists

section Nested

variable {σ : Type} {body : σ → Scanner (Pass σ)}

/-- A location or an update, which are written alike: a version, then the parts in their order. -/
theorem runs_located (body : σ → Scanner (Pass σ)) {fresh : UInt32 → σ}
    (euid : UInt32 × Octets 6 → σ) (ip : IpAddr → σ) (store : List TunnelEndpoint → σ)
    {version : UInt32} {addr : IpAddr}
    (small : 4 + 16 + 4 + ipAddrTlvLen addr + calcTunnelTlvLen tunnels < 65536)
    (room : array + 28 * tunnels.length ≤ maxBuffSz)
    (first : Chooses memory body (fresh version) .euid getEuidTlv euid)
    (second : Chooses memory body (euid (vnid, mac)) .ipAddr getIpTlv ip)
    (third : Chooses memory body (ip addr.received) .tunnelList (getTunnelListTlv array) store)
    (none : store [] = ip addr.received)
    (held : Holds memory start (setTlv ver type (int32 version ++ setEuidTlv vnid mac ++
      setIpTlv addr ++ setTunnelListTlv tunnels) buffer buff)) :
    Runs memory (getNested body fresh >>= fun ended => pure ended.state) start
      (store (presentTunnels tunnels))
      (start + (4 + 16 + 4 + ipAddrTlvLen addr + calcTunnelTlvLen tunnels)) := by
  have consumes : Consumes memory buffer body
      (setEuidTlv vnid mac ++ (setIpTlv addr ++ setTunnelListTlv tunnels)) (fresh version)
      (· = store (presentTunnels tunnels)) := by
    refine (consumes_euid euid first).append ?_
    refine (consumes_ip ip second).append ?_
    exact consumes_tunnels store none (by omega) room third
  obtain ⟨len, sized⟩ : ∃ len, len = 16 + ipAddrTlvLen addr + calcTunnelTlvLen tunnels := ⟨_, rfl⟩
  have written : ((setEuidTlv vnid mac ++ (setIpTlv addr ++ setTunnelListTlv tunnels)) buffer
      (buff + 4 + 4)).length = len := by
    simp
    omega
  rw [append_assoc, append_assoc, holds_setTlv, Setter.holds_append, Setter.length_append,
    length_int32, written] at held
  obtain ⟨head, firstHeld, contentHeld⟩ := held
  have declared : ((UInt16.ofNat (4 + len)).toNat + 4294967296 - 4) % 4294967296 = len := by
    rw [UInt16.toNat_ofNat']
    omega
  obtain ⟨_, rfl, loops⟩ := consumes.loops contentHeld rfl
  rw [written] at loops
  have nested : Runs memory (getNested body fresh) start (.on (store (presentTunnels tunnels)))
      (start + 4 + 4 + len) := by
    refine Runs.bind ((Runs.take 4 _).cast (getTlvHdr_eq head) rfl) ?_
    refine Runs.bind ((Runs.take 4 _).cast (getInt32_eq firstHeld) rfl) (Runs.bind Runs.here ?_)
    rw [declared]
    exact loops.runs
  exact Runs.bind (nested.cast rfl (by omega)) (Runs.pure _)

/-- The location that arrives for one that was sent. -/
def EndpointLocReply.received (reply : EndpointLocReply) : EndpointLocReply :=
  { reply with
    vmIpAddr := reply.vmIpAddr.received
    tunnelInfo := presentTunnels reply.tunnelInfo }

theorem runs_getEndpointLocReplyTlv (small : calcEndpointLocReplyTlvLen reply < 65536)
    (room : array + 28 * reply.tunnelInfo.length ≤ maxBuffSz)
    (held : Holds memory start (setEndpointLocReplyTlv reply buffer buff)) :
    Runs memory (getEndpointLocReplyTlv array {}) start reply.received
      (start + calcEndpointLocReplyTlvLen reply) :=
  runs_located (getEndpointLocReplyPart array)
    (fun euid => { version := reply.version, vnid := euid.1, mac := euid.2 })
    (fun addr => { reply with vmIpAddr := addr, tunnelInfo := [] })
    (fun tunnels => { reply with vmIpAddr := reply.vmIpAddr.received, tunnelInfo := tunnels })
    small room (chooses rfl fun _ _ => rfl)
    (chooses rfl fun _ _ => rfl) (chooses rfl fun _ _ => rfl)
    rfl held

theorem consumes_location {state : σ} (small : calcEndpointLocReplyTlvLen reply < 65536)
    (room : array + 28 * reply.tunnelInfo.length ≤ maxBuffSz) (store : EndpointLocReply → σ)
    (chosen : Chooses memory body state .endpointLoc (getEndpointLocReplyTlv array {}) store) :
    Consumes memory buffer body (setEndpointLocReplyTlv reply) state (· = store reply.received) := by
  refine .pass (calcEndpointLocReplyTlvLen reply) ?_ (fun _ => length_setEndpointLocReplyTlv _ _ _)
    fun _ _ held => ⟨_, rfl, chosen _ _ _ (kind_setTlv held)
      (runs_getEndpointLocReplyTlv small room held)⟩
  unfold calcEndpointLocReplyTlvLen
  omega

/-- The update that arrives for one that was sent, apart from the client's location. -/
def EndpointUpdate.received (update : EndpointUpdate) (client : ServiceLocation) : EndpointUpdate :=
  { update with
    vmIpAddr := update.vmIpAddr.received
    tunnelInfo := presentTunnels update.tunnelInfo
    dpsClientAddr := client }

/-- The length of the part for an update. -/
def endpointUpdateTlvLen (update : EndpointUpdate) : Nat :=
  4 + 16 + 4 + ipAddrTlvLen update.vmIpAddr + calcTunnelTlvLen update.tunnelInfo

theorem runs_getEndpointUpdateTlv (small : endpointUpdateTlvLen update < 65536)
    (room : 116 + 28 * update.tunnelInfo.length ≤ maxBuffSz)
    (held : Holds memory start (setEndpointUpdateTlv update buffer buff)) :
    Runs memory (getEndpointUpdateTlv { dpsClientAddr := client }) start (update.received client)
      (start + endpointUpdateTlvLen update) :=
  runs_located getEndpointUpdatePart
    (fun euid => { version := update.version, vnid := euid.1, mac := euid.2
                   dpsClientAddr := client })
    (fun addr => { update with vmIpAddr := addr, tunnelInfo := [], dpsClientAddr := client })
    (fun tunnels => { update with
                        vmIpAddr := update.vmIpAddr.received
                        tunnelInfo := tunnels
                        dpsClientAddr := client })
    small room (chooses rfl fun _ _ => rfl)
    (chooses rfl fun _ _ => rfl) (chooses rfl fun _ _ => rfl)
    rfl held

theorem consumes_update {state : σ} (small : endpointUpdateTlvLen update < 65536)
    (room : 116 + 28 * update.tunnelInfo.length ≤ maxBuffSz) (store : EndpointUpdate → σ)
    (chosen : Chooses memory body state .endpointLoc
      (getEndpointUpdateTlv { dpsClientAddr := client }) store) :
    Consumes memory buffer body (setEndpointUpdateTlv update) state
      (· = store (update.received client)) := by
  refine .pass (endpointUpdateTlvLen update) ?_ (fun _ => ?_)
    fun _ _ held => ⟨_, rfl, chosen _ _ _ (kind_setTlv held)
      (runs_getEndpointUpdateTlv small room held)⟩
  · unfold endpointUpdateTlvLen
    omega
  · simp [endpointUpdateTlvLen]

/-- The length of the part for what is known about an endpoint. -/
def epriTlvLen (epri : Epri) : Nat :=
  4 + 16 + (4 + epri.vmIp4Addr.length * 8) + (4 + epri.vmIp6Addr.length * 20) +
    calcTunnelTlvLen epri.tunnelInfo

/-- The lists of what is known about an endpoint have room in its structure. -/
def Epri.Roomy (epri : Epri) : Prop :=
  epri.vmIp4Addr.length ≤ maxVipAddr ∧ epri.vmIp6Addr.length ≤ maxVipAddr ∧
    520 + 28 * epri.tunnelInfo.length ≤ maxBuffSz

instance (epri : Epri) : Decidable epri.Roomy := inferInstanceAs (Decidable (_ ∧ _))

/-- The parts of what is known about an endpoint are read in the order they were
written. The two lists of addresses are there even if they are empty. -/
theorem runs_getEpriTlv (small : epriTlvLen epri < 65536) (roomy : epri.Roomy)
    (held : Holds memory start (setEpriTlv epri buffer buff)) :
    Runs memory (getEpriTlv {}) start
      { epri with tunnelInfo := presentTunnels epri.tunnelInfo } (start + epriTlvLen epri) := by
  unfold epriTlvLen at small ⊢
  obtain ⟨few4, few6, room⟩ := roomy
  have ip4Infos : Consumes memory buffer getEpriPart (setIp4InfoTlv epri.vmIp4Addr)
      { vnid := epri.vnid, mac := epri.mac }
      (· = { vnid := epri.vnid, mac := epri.mac, vmIp4Addr := epri.vmIp4Addr }) := by
    refine .pass (4 + epri.vmIp4Addr.length * 8) (by omega) (fun _ => length_setIp4InfoTlv _ _ _)
      fun _ _ held => ⟨_, rfl, runs_part ?_⟩
    have head := ((Setter.holds_append _ _ _ _ _ _).mp held).1
    simp only [getTlvHdr_eq head, kind_code]
    exact Runs.bind ((runs_getIp4InfoListTlv (by omega)
      (by simp only [maxVipAddr, maxBuffSz] at few4 ⊢; omega)
      held).cast rfl (by omega)) (Runs.pure _)
  have ip6Infos : Consumes memory buffer getEpriPart (setIp6InfoTlv epri.vmIp6Addr)
      { vnid := epri.vnid, mac := epri.mac, vmIp4Addr := epri.vmIp4Addr }
      (· = { epri with tunnelInfo := [] }) := by
    refine .pass (4 + epri.vmIp6Addr.length * 20) (by omega) (fun _ => length_setIp6InfoTlv _ _ _)
      fun _ _ held => ⟨_, rfl, runs_part ?_⟩
    have head := ((Setter.holds_append _ _ _ _ _ _).mp held).1
    simp only [getTlvHdr_eq head, kind_code]
    exact Runs.bind ((runs_getIp6InfoListTlv (by omega)
      (by simp only [maxVipAddr, maxBuffSz] at few6 ⊢; omega)
      held).cast rfl (by omega)) (Runs.pure _)
  have consumes : Consumes memory buffer getEpriPart
      (setEuidTlv epri.vnid epri.mac ++ setIp4InfoTlv epri.vmIp4Addr ++
        setIp6InfoTlv epri.vmIp6Addr ++ setTunnelListTlv epri.tunnelInfo) {}
      (· = { epri with tunnelInfo := presentTunnels epri.tunnelInfo }) := by
    rw [append_assoc, append_assoc]
    refine (consumes_euid (fun euid => { vnid := euid.1, mac := euid.2 })
      (chooses rfl fun _ _ => rfl)).append ?_
    refine ip4Infos.append ?_
    refine ip6Infos.append ?_
    refine .weaken (consumes_tunnels (fun tunnels => { epri with tunnelInfo := tunnels })
      rfl ?_ room (chooses rfl fun _ _ => rfl)) fun _ same => same
    omega
  rw [setEpriTlv, holds_setTlv] at held
  obtain ⟨_, rfl, run⟩ := runs_getList (by simp; omega) held.1 held.2 rfl consumes
  refine Runs.bind (run.cast rfl ?_) (Runs.pure _)
  simp
  omega

theorem consumes_epri {state : σ} (small : epriTlvLen epri < 65536) (roomy : epri.Roomy)
    (store : Epri → σ)
    (chosen : Chooses memory body state .epri (getEpriTlv {}) store) :
    Consumes memory buffer body (setEpriTlv epri) state
      (· = store { epri with tunnelInfo := presentTunnels epri.tunnelInfo }) := by
  refine .pass (epriTlvLen epri) ?_ (fun _ => ?_)
    fun _ _ held => ⟨_, rfl, chosen _ _ _ (kind_setTlv held) (runs_getEpriTlv small roomy held)⟩
  · unfold epriTlvLen
    omega
  · simp [epriTlvLen, Nat.add_assoc]

end Nested

end OpenDove.Dps
