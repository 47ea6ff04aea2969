import Mathlib.Tactic

/-!
# Addresses and protocol codes

The server stores an IPv4 address as an unsigned 32-bit integer in network order and an
IPv6 address as a string of 16 bytes, next to a separate address-family argument. The
family and the value are therefore independent here as well: a routine may be handed an
IPv6 string with the family of IPv4, and some are.

Families other than `AF_INET` and `AF_INET6` are turned away by the packet parser before
any of the modelled routines runs.
-/

namespace OpenDove

/-- The two address families, `socket.AF_INET` and `socket.AF_INET6`. -/
inductive InetType where
  | inet
  | inet6
  deriving DecidableEq, Repr

/-- The value of an address: an integer for IPv4, a string of 16 bytes for IPv6. -/
inductive IPValue where
  | v4 (value : UInt32)
  | v6 (value : BitVec 128)
  deriving DecidableEq, Repr

namespace IPValue

/-- The integer zero, which the program reads as "no address". -/
def zero : IPValue := .v4 0

/-- The family an address value is written in. -/
def family : IPValue → InetType
  | .v4 _ => .inet
  | .v6 _ => .inet6

end IPValue

/-- An Ethernet address: a string of six bytes. -/
abbrev Mac := BitVec 48

/-- `IPSUBNETMode`: whether an address comes from a dedicated or a shared subnet. -/
inductive SubnetMode where
  | dedicated
  | shared
  deriving DecidableEq, Repr

/-- `IPAddressLocation`: an address with a UDP port. Packing a value whose kind does not
fit the family fails, and the location is then marked invalid. -/
structure IPAddressLocation where
  inetType : InetType
  ipValue : IPValue
  port : Nat
  mode : SubnetMode
  deriving DecidableEq, Repr

namespace IPAddressLocation

/-- The constructor of `IPAddressLocation`. The port is kept only if the value packs. -/
def create (inetType : InetType) (ipValue : IPValue) (port : Nat) : IPAddressLocation :=
  { inetType, ipValue, port := if ipValue.family = inetType then port else 0, mode := .dedicated }

/-- `fValid`: the value packs in the format of its family. -/
def fValid (location : IPAddressLocation) : Bool :=
  location.ipValue.family = location.inetType

/-- `ip_value_packed`, as the value it packs: the packed zero stands in for a value that
does not fit its family. -/
def ipValuePacked (location : IPAddressLocation) : IPValue :=
  if location.fValid then location.ipValue else .zero

end IPAddressLocation

/-! ## Addresses as text -/

namespace IPValue

/-- The four bytes of an IPv4 address in network order, which is the order of the integer's bytes
from the lowest on. -/
def octets (value : UInt32) : List Nat :=
  (List.range 4).map fun place => value.toNat / 256 ^ place % 256

/-- `inet_ntop` for IPv4: the four bytes in decimal with points between them. -/
def dotted (bytes : List Nat) : List Char :=
  ['.'].intercalate (bytes.map (Nat.toDigits 10))

/-- The eight 16-bit groups of an IPv6 address, first one first. -/
def groups (value : BitVec 128) : List Nat :=
  (List.range 8).map fun place => value.toNat / 65536 ^ (7 - place) % 65536

/-- The first longest run of at least two zero groups, as its start and its length. -/
def zeroRun (words : List Nat) : Option (Nat × Nat) :=
  (List.range words.length).foldl (fun best base =>
    let length := ((words.drop base).takeWhile (· = 0)).length
    if 2 ≤ length ∧ (best.elim 0 Prod.snd) < length then some (base, length) else best) none

/-- Whether the last two groups are written as an IPv4 address: after five or six leading zero
groups, where the sixth one may be all ones. -/
def embedsIPv4 (words : List Nat) (run : Option (Nat × Nat)) : Bool :=
  run = some (0, 6) ∨ (run = some (0, 5) ∧ (words.drop 5).head? = some 65535)

/-- The text of one group of an IPv6 address with the separator before it. Nothing is written
inside the run of zero groups but one separator at its start. -/
def groupText (value : BitVec 128) (run : Option (Nat × Nat)) (place : Nat) : List Char :=
  let inRun := run.any fun (base, length) => base ≤ place ∧ place < base + length
  let separator : List Char := if place = 0 then [] else [':']
  if inRun then (if run.any (·.1 = place) then [':'] else [])
  else if embedsIPv4 (groups value) run ∧ 6 ≤ place then
    if place = 6 then
      separator ++ dotted ((List.range 4).map fun byte => value.toNat / 256 ^ (3 - byte) % 256)
    else []
  else separator ++ Nat.toDigits 16 (((groups value).drop place).head?.getD 0)

/-- `inet_ntop` for IPv6: the groups in hexadecimal, where the first longest run of zero groups is
left out. -/
def hexadecimal (value : BitVec 128) : List Char :=
  let run := zeroRun (groups value)
  ((List.range 8).map (groupText value run)).flatten ++
    (if run.any fun (base, length) => base + length = 8 then [':'] else [])

end IPValue

/-- `show_ip`: the text of an address. A value that did not pack shows as the zero address. -/
def IPAddressLocation.showIp (location : IPAddressLocation) : List Char :=
  match location.fValid, location.ipValue with
  | true, .v4 value => IPValue.dotted (IPValue.octets value)
  | true, .v6 value => IPValue.hexadecimal value
  | false, _ => "0.0.0.0".toList

example : (IPAddressLocation.create .inet (.v4 0x0100000a) 0).showIp = "10.0.0.1".toList := by
  decide +kernel

example : (IPAddressLocation.create .inet6 (.v6 0xfe800000000000000000000000000001) 0).showIp =
    "fe80::1".toList := by
  decide +kernel

/-- `IPAddressList`: a list of addresses without duplicates, oldest first. The program also
keeps a dictionary with the same members, and raises when it is handed a family other
than its own; every caller chooses the list by the family, so the check never fires. -/
structure IPAddressList where
  ipList : List IPValue
  deriving DecidableEq, Repr

namespace IPAddressList

/-- An empty list. -/
def create : IPAddressList := { ipList := [] }

variable (list : IPAddressList) (ipValue : IPValue)

/-- Whether an address is in the list. -/
def search : Bool :=
  ipValue ∈ list.ipList

/-- Add an address. Zero is ignored. -/
def add : IPAddressList :=
  if ipValue = .zero then list
  else if ipValue ∈ list.ipList then list
  else { ipList := list.ipList ++ [ipValue] }

/-- Remove an address. -/
def remove : IPAddressList :=
  { ipList := list.ipList.filter (· ≠ ipValue) }

/-- The number of addresses. -/
def count : Nat := list.ipList.length

/-- The oldest address. -/
def getPrimary : Option IPValue := list.ipList.head?

end IPAddressList

/-- `DpsClientType`: the kinds of client a tunnel can be registered for. -/
inductive ClientType where
  | dpsServer
  | doveSwitch
  | vlanGateway
  | externalGateway
  | controller
  deriving DecidableEq, Repr

namespace ClientType

/-- `DpsClientType.types.keys()`. -/
def types : List ClientType :=
  [dpsServer, doveSwitch, vlanGateway, externalGateway, controller]

/-- The client type of a protocol code, if the code is in `DpsClientType.types`. -/
def ofCode : Nat → Option ClientType
  | 1 => some dpsServer
  | 2 => some doveSwitch
  | 3 => some vlanGateway
  | 4 => some externalGateway
  | 5 => some controller
  | _ => none

/-- The protocol code of a client type. -/
def code : ClientType → Nat
  | dpsServer => 1
  | doveSwitch => 2
  | vlanGateway => 3
  | externalGateway => 4
  | controller => 5

/-- The three client types that a registration accepts. -/
def isTunnelType : ClientType → Bool
  | doveSwitch | vlanGateway | externalGateway => true
  | dpsServer | controller => false

end ClientType

/-- `DpsTransactionType`. Codes outside the three named ones are carried along, because the
program only ever compares with the named ones. -/
inductive TransactionType where
  | normal
  | replication
  | massTransfer
  | unknown (code : Nat)
  deriving DecidableEq, Repr

/-- The operation field of an endpoint update. A code outside the table of update
functions is carried along; the table lookup fails for it. -/
inductive UpdateOperation where
  | add
  | delete
  | vipAdd
  | vipDel
  | migrateIn
  | migrateOut
  | unsupported (code : Nat)
  deriving DecidableEq, Repr

/-- The status codes an endpoint update can answer with. -/
inductive ReplyStatus where
  | none
  | invalidSrcIp
  | invalidSrcDvg
  | invalidEuid
  | invalidDomainId
  | noMemory
  | retry
  | invalidTunnel
  deriving DecidableEq, Repr

/-- `traffic_type` of a policy. -/
inductive TrafficType where
  | unicast
  | multicast
  deriving DecidableEq, Repr

/-- `DOVEGatewayTypes`, the two kinds a gateway update is queued for. -/
inductive GatewayType where
  | vlan
  | external
  deriving DecidableEq, Repr

/-- The gateway kind whose list a change of a client type's tunnels affects. -/
def ClientType.gatewayType : ClientType → Option GatewayType
  | vlanGateway => some .vlan
  | externalGateway => some .external
  | dpsServer | doveSwitch | controller => none

/-- `DOVEStatus`, as far as the modelled routines return it. -/
inductive DOVEStatus where
  | ok
  | noMemory
  | noResources
  | retry
  | invalidParameter
  | badAddress
  | alreadyExists
  | notFound
  | notSupported
  | invalidDomain
  | invalidDvg
  | invalidPolicy
  deriving DecidableEq, Repr

end OpenDove
