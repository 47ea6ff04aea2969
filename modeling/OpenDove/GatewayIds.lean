import Mathlib.Data.List.TakeWhile
import Mathlib.Tactic

/-!
# Ids of gateway objects

A gateway deletes an object through a URI that ends in an id. The sync code builds the id by
printing the key of the object into a string of decimal fields; the handler of the request cuts
the string into fields again. Both sides give every field a width, but `%05d` is a least width
when it prints and a greatest width when it scans.

Addresses are in host order. A URI is the list of its tokens, as `strtok` cuts it.
-/

namespace OpenDove

/-! ## Printing and scanning decimal fields -/

variable (width : Nat) (text : List Char)

/-- `sprintf` of a number that is not negative, with `%0wd`. -/
def printPadded (value : Nat) : List Char :=
  List.replicate (width - (Nat.toDigits 10 value).length) '0' ++ Nat.toDigits 10 value

/-- `sprintf` with `%0wd`. -/
def printField (value : Int) : List Char :=
  if value < 0 then '-' :: printPadded (width - 1) value.natAbs
  else printPadded width value.natAbs

/-- The digits of a field of `sscanf`, and what is left of the text. -/
def scanDigits : Option (Nat × List Char) :=
  let digits := (text.take width).takeWhile Char.isDigit
  if digits = [] then none else some (Nat.ofDigitChars 10 digits 0, text.drop digits.length)

/-- `sscanf` with `%wd`: white space, a sign, and digits. -/
def scanField : Option (Int × List Char) :=
  match text.dropWhile Char.isWhitespace with
  | '-' :: rest => (scanDigits (width - 1) rest).map fun found => (-found.1, found.2)
  | '+' :: rest => (scanDigits (width - 1) rest).map fun found => (found.1, found.2)
  | rest => (scanDigits width rest).map fun found => (found.1, found.2)

/-- `sscanf` with `%12s`, which writes nothing if no character is left. -/
def scanWord : Option (List Char) :=
  let word := ((text.dropWhile Char.isWhitespace).take width).takeWhile (!Char.isWhitespace ·)
  if word = [] then none else some word

variable {width value : Nat} {object : GatewayObject} {netId : Int} {c : Char} {text : List Char}
  (addr : UInt32)

theorem isDigit_of_mem_printPadded (printed : c ∈ printPadded width value) : c.isDigit := by
  rcases List.mem_append.mp printed with zero | digit
  · rw [List.eq_of_mem_replicate zero]
    rfl
  · exact Nat.isDigit_of_mem_toDigits (by decide) (by decide) digit

/-- A field is never empty, and exceeds its width exactly if the number has more digits. -/
theorem length_printPadded (width value : Nat) :
    (printPadded width value).length = max width (Nat.toDigits 10 value).length := by
  simp only [printPadded, List.length_append, List.length_replicate]
  omega

theorem length_printPadded_of_lt (positive : 0 < width) (fits : value < 10 ^ width) :
    (printPadded width value).length = width := by
  rw [length_printPadded]
  exact Nat.max_eq_left ((Nat.length_toDigits_le_iff (by decide) positive).mpr fits)

theorem ofDigitChars_printPadded (width value : Nat) :
    Nat.ofDigitChars 10 (printPadded width value) 0 = value := by
  rw [printPadded, Nat.ofDigitChars_append, Nat.ofDigitChars_replicate_zero, Nat.mul_zero,
    Nat.ofDigitChars_ten_toDigits]

/-- A scan of a text that starts with a digit finds no white space and no sign. -/
theorem scanField_of_isDigit (digit : c.isDigit) (width : Nat) (rest : List Char) :
    scanField width (c :: rest) =
      (scanDigits width (c :: rest)).map fun found => ((found.1 : Int), found.2) := by
  have noSpace : ¬c.isWhitespace := fun space => by
    simp only [Char.isWhitespace, Bool.or_eq_true, decide_eq_true_eq] at space
    rcases space with ((rfl | rfl) | rfl) | rfl <;> cases digit
  unfold scanField
  rw [List.dropWhile_cons_of_neg noSpace]
  split
  · rename_i same
    cases List.cons.inj same |>.1
    cases digit
  · rename_i same
    cases List.cons.inj same |>.1
    cases digit
  · rfl

/-- A field that keeps to its width is scanned back. -/
theorem scanField_printPadded (positive : 0 < width) (fits : value < 10 ^ width)
    (rest : List Char) :
    scanField width (printPadded width value ++ rest) = some ((value : Int), rest) := by
  have size := length_printPadded_of_lt positive fits
  have digits : (printPadded width value).takeWhile Char.isDigit = printPadded width value :=
    List.takeWhile_eq_self_iff.mpr fun _ => isDigit_of_mem_printPadded
  have cut : ((printPadded width value ++ rest).take width).takeWhile Char.isDigit =
      printPadded width value := by
    rw [List.take_left' size, digits]
  have scanned : scanDigits width (printPadded width value ++ rest) = some (value, rest) := by
    unfold scanDigits
    rw [cut, if_neg (List.ne_nil_of_length_pos (size.symm ▸ positive)),
      ofDigitChars_printPadded, List.drop_left]
  cases printed : printPadded width value with
  | nil => exact absurd (size.symm.trans (congrArg List.length printed)) (by simp; omega)
  | cons c tail =>
    rw [printed] at scanned
    have digit := isDigit_of_mem_printPadded (printed ▸ List.mem_cons_self : c ∈ printPadded _ _)
    rw [List.cons_append, scanField_of_isDigit digit, ← List.cons_append, scanned]
    rfl

theorem ofDigitChars_lt {digits : List Char} (every : ∀ c ∈ digits, c.isDigit) (initial : Nat) :
    Nat.ofDigitChars 10 digits initial < 10 ^ digits.length * (initial + 1) := by
  induction digits generalizing initial with
  | nil => simp
  | cons c digits ih =>
    have small : c.toNat - '0'.toNat ≤ 9 := by
      have digit := every c List.mem_cons_self
      simp only [Char.isDigit, Bool.and_eq_true, decide_eq_true_eq] at digit
      exact Nat.sub_le_sub_right (UInt32.le_iff_toNat_le.mp digit.2) 48
    rw [Nat.ofDigitChars_cons]
    refine Nat.lt_of_lt_of_le
      (ih (fun d listed => every d (List.mem_cons_of_mem c listed)) _) ?_
    rw [List.length_cons, Nat.pow_succ, Nat.mul_assoc]
    exact Nat.mul_le_mul_left _ (by omega)

theorem scanDigits_lt {found : Nat × List Char} (scanned : scanDigits width text = some found) :
    found.1 < 10 ^ width := by
  unfold scanDigits at scanned
  dsimp only at scanned
  split at scanned
  · cases scanned
  · rw [← Option.some.inj scanned]
    refine Nat.lt_of_lt_of_le (ofDigitChars_lt (fun c listed => List.mem_takeWhile_imp listed) 0) ?_
    rw [Nat.zero_add, Nat.mul_one]
    refine Nat.pow_le_pow_right (by decide) ?_
    exact Nat.le_trans (List.takeWhile_prefix _).length_le (List.length_take_le _ _)

/-- What is scanned into a field has no more digits than the field. -/
theorem scanField_lt {rest : List Char} {value : Int}
    (scanned : scanField width text = some (value, rest)) : value < (10 ^ width : Nat) := by
  have shorter : 10 ^ (width - 1) ≤ 10 ^ width := Nat.pow_le_pow_right (by decide) (by omega)
  unfold scanField at scanned
  split at scanned <;>
  · obtain ⟨found, read, same⟩ := Option.map_eq_some_iff.mp scanned
    have small := scanDigits_lt read
    cases same
    omega

/-! ## Objects and their ids -/

/-- The objects a gateway deletes by id, with the fields of their keys. -/
inductive GatewayObject where
  | rule (netId port protocol : Int) (ip : UInt32)
  | vlanMap (netId vlan : Int)
  | subnet (netId : Int) (ip : UInt32)
  | externalVip (minIp maxIp : UInt32) (netId : Int)
  deriving DecidableEq, Repr

/-- `IP_ID_LEN`. -/
def ipIdLen : Nat := 12
/-- `VLAN_MAP_ID_LEN`. -/
def vlanMapIdLen : Nat := 10
/-- `VIP_ID_LEN`. -/
def vipIdLen : Nat := 24

/-- `v4_addr_to_ip_id`. -/
def v4AddrToIpId (addr : UInt32) : List Char :=
  printPadded 3 (addr.toNat / 2 ^ 24 % 256) ++ (printPadded 3 (addr.toNat / 2 ^ 16 % 256) ++
    (printPadded 3 (addr.toNat / 2 ^ 8 % 256) ++ printPadded 3 (addr.toNat % 256)))

/-- `ip_id_to_v4_addr`. -/
def ipIdToV4Addr (text : List Char) : Option UInt32 := do
  guard (text.length = ipIdLen)
  let (ip1, text) ← scanField 3 text
  let (ip2, text) ← scanField 3 text
  let (ip3, text) ← scanField 3 text
  let (ip4, _) ← scanField 3 text
  return UInt32.ofNat ((ip1 % 256).toNat * 2 ^ 24 + (ip2 % 256).toNat * 2 ^ 16 +
    (ip3 % 256).toNat * 2 ^ 8 + (ip4 % 256).toNat)

/-- A URI, by its tokens. In a pattern, `*` matches every token. -/
abbrev Uri := List String

/-- `helper_evhttp_match_uri`, with the tokens that the pattern leaves open. -/
def matchUri : Uri → Uri → Option Uri
  | [], [] => some []
  | token :: pattern, text :: uri =>
    if token = "*" then (matchUri pattern uri).map (text :: ·)
    else if token = text then matchUri pattern uri
    else none
  | _, _ => none

namespace GatewayObject

/-- The URI constants `DGW_SERVICE_RULES_URI`, `DGW_SERVICE_VLANMAPS_URI`,
`DGW_SERVICE_SUBNETS_URI` and `DGW_SERVICE_EXTERNAL_VIPS_URI`. -/
def collectionUri (object : GatewayObject) : Uri :=
  ["controller", "sb", "v2", "opendove", "odmc"] ++
    match object with
    | rule _ _ _ _ => ["ext-fwd-rules"]
    | vlanMap _ _ => ["vlan-gws"]
    | subnet _ _ => ["networks", "*", "networkSubnets"]
    | externalVip _ _ _ => ["ext-gws"]

/-- The pattern that the delete handler is registered for. -/
def deletePattern (object : GatewayObject) : Uri := object.collectionUri ++ ["*"]

/-- The id that `get_del_uri` prints. -/
def id : GatewayObject → List Char
  | rule netId port protocol ip =>
    printField 5 netId ++ (printField 5 port ++ (printField 3 protocol ++ v4AddrToIpId ip))
  | vlanMap netId vlan => printField 5 netId ++ printField 5 vlan
  | subnet netId ip => printField 5 netId ++ v4AddrToIpId ip
  | externalVip minIp maxIp netId =>
    v4AddrToIpId minIp ++ (v4AddrToIpId maxIp ++ printField 10 netId)

/-- `get_del_uri`, for the description of an object: it compares the URI that the object was
fetched from, without its last token, with the constant of the collection. -/
def getDelUri (newUri : Uri) (object : GatewayObject) : Option Uri :=
  if newUri = object.collectionUri then some (newUri ++ [String.ofList object.id]) else none

/-- The key that `dgw_req_handler_service_rule` finds in its arguments. -/
def serviceRule : List (List Char) → Option GatewayObject
  | [] => none
  | text :: _ => do
    let (domainId, rest) ← scanField 5 text
    let (port, rest) ← scanField 5 rest
    let (protocol, _) ← scanField 3 rest
    let ip ← ipIdToV4Addr ((text.drop 13).take ipIdLen)
    return rule domainId port protocol ip

/-- The key that `dgw_req_handler_service_vlanmap` finds. -/
def serviceVlanmap : List (List Char) → Option GatewayObject
  | [text] => do
    guard (text.length ≤ vlanMapIdLen)
    let (domainId, rest) ← scanField 5 text
    let (vlanId, _) ← scanField 5 rest
    return vlanMap domainId vlanId
  | _ => none

/-- The key that `dgw_req_handler_service_subnet` finds. -/
def serviceSubnet : List (List Char) → Option GatewayObject
  | [text] => do
    let (domainId, rest) ← scanField 5 text
    let ip ← ipIdToV4Addr (← scanWord 12 rest)
    return subnet domainId ip
  | _ => none

/-- The key that `dgw_req_handler_svc_ext_vip` finds. -/
def svcExtVip : List (List Char) → Option GatewayObject
  | [text] => do
    guard (vipIdLen ≤ text.length)
    let minIp ← ipIdToV4Addr (text.take ipIdLen)
    let maxIp ← ipIdToV4Addr ((text.take vipIdLen).drop ipIdLen)
    let (vnid, _) ← scanField 10 ((text.drop vipIdLen).take 10)
    return externalVip minIp maxIp vnid
  | _ => none

/-- The key that the delete handler of the object's collection finds. -/
def parseKey (object : GatewayObject) (argv : Uri) : Option GatewayObject :=
  match object with
  | rule _ _ _ _ => serviceRule (argv.map String.toList)
  | vlanMap _ _ => serviceVlanmap (argv.map String.toList)
  | subnet _ _ => serviceSubnet (argv.map String.toList)
  | externalVip _ _ _ => svcExtVip (argv.map String.toList)

/-- The ranges of the fields. -/
def InRange : GatewayObject → Prop
  | rule netId port protocol _ =>
    (0 ≤ netId ∧ netId < 2 ^ 24) ∧ (0 ≤ port ∧ port < 65536) ∧ 0 ≤ protocol ∧ protocol < 256
  | vlanMap netId vlan => (0 ≤ netId ∧ netId < 2 ^ 24) ∧ 0 ≤ vlan
  | subnet netId _ => 0 ≤ netId ∧ netId < 2 ^ 24
  | externalVip _ _ netId => 0 ≤ netId ∧ netId < 2 ^ 24

/-- Some URI is built for the object, and the delete handler finds the key in it. -/
def RoundTrips (object : GatewayObject) : Prop :=
  ∃ newUri uri argv, getDelUri newUri object = some uri ∧
    matchUri object.deletePattern uri = some argv ∧ object.parseKey argv = some object

/-- The numbers keep to the width of their fields, and the object is no subnet. -/
def Fits : GatewayObject → Prop
  | rule netId _ _ _ => netId < 100000
  | vlanMap netId vlan => netId < 100000 ∧ vlan < 100000
  | subnet _ _ => False
  | externalVip _ _ _ => True

/-! ## Which ids are scanned back -/

theorem scanField_printField (width : Nat) {value : Int} (positive : 0 < width)
    (natural : 0 ≤ value) (fits : value < (10 ^ width : Nat)) (rest : List Char) :
    scanField width (printField width value ++ rest) = some (value, rest) := by
  obtain ⟨number, rfl⟩ := Int.eq_ofNat_of_zero_le natural
  rw [printField, if_neg (Int.not_lt.mpr natural), Int.natAbs_natCast]
  exact scanField_printPadded positive (Int.ofNat_lt.mp fits) rest

theorem length_printField (width : Nat) {value : Int} (positive : 0 < width)
    (natural : 0 ≤ value) (fits : value < (10 ^ width : Nat)) :
    (printField width value).length = width := by
  obtain ⟨number, rfl⟩ := Int.eq_ofNat_of_zero_le natural
  rw [printField, if_neg (Int.not_lt.mpr natural), Int.natAbs_natCast]
  exact length_printPadded_of_lt positive (Int.ofNat_lt.mp fits)

theorem length_v4AddrToIpId : (v4AddrToIpId addr).length = ipIdLen := by
  have octet : ∀ part : Nat, (printPadded 3 (part % 256)).length = 3 := fun part =>
    length_printPadded_of_lt (by decide) (by omega)
  simp [v4AddrToIpId, octet, ipIdLen]

theorem ipIdToV4Addr_v4AddrToIpId : ipIdToV4Addr (v4AddrToIpId addr) = some addr := by
  have octet : ∀ (part : Nat) (rest : List Char),
      scanField 3 (printPadded 3 (part % 256) ++ rest) = some (((part % 256 : Nat) : Int), rest) :=
    fun part rest => scanField_printPadded (by decide) (by omega) rest
  have last := octet addr.toNat []
  rw [List.append_nil] at last
  have combined : addr.toNat / 2 ^ 24 % 256 * 2 ^ 24 + addr.toNat / 2 ^ 16 % 256 * 2 ^ 16 +
      addr.toNat / 2 ^ 8 % 256 * 2 ^ 8 + addr.toNat % 256 = addr.toNat := by
    have := addr.toNat_lt
    omega
  have octetValue : ∀ part : Nat, (((part % 256 : Nat) : Int) % 256).toNat = part % 256 := by omega
  unfold ipIdToV4Addr
  rw [length_v4AddrToIpId]
  simp only [guard, if_true, v4AddrToIpId, pure_bind, octet, last, Option.bind_eq_bind,
    Option.bind_some, octetValue, combined, UInt32.ofNat_toNat]
  rfl

theorem getDelUri_eq_some_iff {newUri uri : Uri} :
    getDelUri newUri object = some uri ↔
      newUri = object.collectionUri ∧ uri = newUri ++ [String.ofList object.id] := by
  unfold getDelUri
  split
  · rename_i same
    exact ⟨fun built => ⟨same, (Option.some.inj built).symm⟩,
      fun named => congrArg some named.2.symm⟩
  · rename_i other
    exact ⟨nofun, fun named => absurd named.1 other⟩

theorem matchUri_deletePattern (object : GatewayObject) (text : String) :
    matchUri object.deletePattern (object.collectionUri ++ [text]) =
      match object with
      | subnet _ _ => some ["*", text]
      | _ => some [text] := by
  cases object <;> simp [deletePattern, collectionUri, matchUri]

/-- The handler is chosen by the collection. -/
theorem parseKey_congr {other : GatewayObject} (same : object.collectionUri = other.collectionUri) :
    object.parseKey = other.parseKey := by
  cases object <;> cases other <;> first | rfl | simp [collectionUri] at same

/-- What an object makes of its own URI: the subnet handler gets two arguments. -/
theorem roundTrips_iff (object : GatewayObject) :
    object.RoundTrips ↔ match object with
      | subnet _ _ => False
      | _ => object.parseKey [String.ofList object.id] = some object := by
  constructor
  · rintro ⟨newUri, uri, argv, built, matched, parsed⟩
    obtain ⟨rfl, rfl⟩ := getDelUri_eq_some_iff.mp built
    rw [matchUri_deletePattern] at matched
    cases object <;> cases Option.some.inj matched <;> first | exact parsed | cases parsed
  · intro parsed
    have matched := matchUri_deletePattern object (String.ofList object.id)
    cases object with
    | subnet => exact parsed.elim
    | rule | vlanMap | externalVip => exact ⟨_, _, _, if_pos rfl, matched, parsed⟩

theorem parses_of_roundTrips (trips : object.RoundTrips) :
    object.parseKey [String.ofList object.id] = some object := by
  rw [roundTrips_iff] at trips
  cases object with
  | subnet => exact trips.elim
  | rule | vlanMap | externalVip => exact trips

theorem rule_parses_iff {port protocol : Int} {ip : UInt32}
    (inRange : (rule netId port protocol ip).InRange) :
    (rule netId port protocol ip).parseKey [String.ofList (rule netId port protocol ip).id] =
      some (rule netId port protocol ip) ↔ netId < 100000 := by
  obtain ⟨⟨netIdNatural, _⟩, ⟨portNatural, portSmall⟩, protocolNatural, protocolSmall⟩ := inRange
  simp only [parseKey, serviceRule, List.map_cons, String.toList_ofList, id]
  constructor
  · intro parsed
    obtain ⟨⟨_, _⟩, first, parsed⟩ := Option.bind_eq_some_iff.mp parsed
    obtain ⟨⟨_, _⟩, _, parsed⟩ := Option.bind_eq_some_iff.mp parsed
    obtain ⟨⟨_, _⟩, _, parsed⟩ := Option.bind_eq_some_iff.mp parsed
    obtain ⟨_, _, parsed⟩ := Option.bind_eq_some_iff.mp parsed
    cases parsed
    exact scanField_lt first
  · intro fits
    have cut : (printField 5 netId ++ (printField 5 port ++ (printField 3 protocol ++
        v4AddrToIpId ip))).drop 13 = v4AddrToIpId ip := by
      rw [← List.append_assoc, ← List.append_assoc]
      refine List.drop_left' ?_
      simp only [List.length_append]
      rw [length_printField 5 (by decide) netIdNatural (by omega),
        length_printField 5 (by decide) portNatural (by omega),
        length_printField 3 (by decide) protocolNatural (by omega)]
    rw [cut, ← length_v4AddrToIpId ip, List.take_length, ipIdToV4Addr_v4AddrToIpId,
      scanField_printField 5 (by decide) netIdNatural (by omega)]
    simp only [Option.bind_eq_bind, Option.bind_some]
    rw [scanField_printField 5 (by decide) portNatural (by omega)]
    simp only [Option.bind_some]
    rw [scanField_printField 3 (by decide) protocolNatural (by omega)]
    rfl

theorem vlanMap_parses_iff {vlan : Int} (inRange : (vlanMap netId vlan).InRange) :
    (vlanMap netId vlan).parseKey [String.ofList (vlanMap netId vlan).id] =
      some (vlanMap netId vlan) ↔ netId < 100000 ∧ vlan < 100000 := by
  obtain ⟨⟨netIdNatural, _⟩, vlanNatural⟩ := inRange
  simp only [parseKey, serviceVlanmap, List.map_cons, List.map_nil, String.toList_ofList, id]
  constructor
  · intro parsed
    obtain ⟨_, _, parsed⟩ := Option.bind_eq_some_iff.mp parsed
    obtain ⟨⟨_, _⟩, first, parsed⟩ := Option.bind_eq_some_iff.mp parsed
    obtain ⟨⟨_, _⟩, second, parsed⟩ := Option.bind_eq_some_iff.mp parsed
    cases parsed
    exact ⟨scanField_lt first, scanField_lt second⟩
  · rintro ⟨netIdFits, vlanFits⟩
    have length : (printField 5 netId ++ printField 5 vlan).length = vlanMapIdLen := by
      rw [List.length_append, length_printField 5 (by decide) netIdNatural (by omega),
        length_printField 5 (by decide) vlanNatural (by omega)]
      rfl
    have last := scanField_printField 5 (by decide) vlanNatural (by omega) []
    rw [List.append_nil] at last
    rw [length, scanField_printField 5 (by decide) netIdNatural (by omega)]
    simp only [Option.bind_eq_bind, Option.bind_some, last]
    rfl

theorem externalVip_parses {minIp maxIp : UInt32}
    (inRange : (externalVip minIp maxIp netId).InRange) :
    (externalVip minIp maxIp netId).parseKey
        [String.ofList (externalVip minIp maxIp netId).id] =
      some (externalVip minIp maxIp netId) := by
  obtain ⟨natural, small⟩ := inRange
  have minLength := length_v4AddrToIpId minIp
  have maxLength := length_v4AddrToIpId maxIp
  have vnidLength := length_printField 10 (by decide) natural (by omega)
  have vnid := scanField_printField 10 (by decide) natural (by omega) []
  have vips : (v4AddrToIpId minIp ++ v4AddrToIpId maxIp).length = vipIdLen := by
    rw [List.length_append, minLength, maxLength]
    rfl
  simp only [parseKey, svcExtVip, List.map_cons, List.map_nil, String.toList_ofList, id]
  rw [List.take_left' minLength, ← List.append_assoc, List.take_left' vips, List.drop_left' vips,
    List.drop_left' minLength, List.take_of_length_le (Nat.le_of_eq vnidLength),
    ipIdToV4Addr_v4AddrToIpId, ipIdToV4Addr_v4AddrToIpId, List.length_append, vips]
  rw [List.append_nil] at vnid
  simp only [guard, if_pos (Nat.le_add_right vipIdLen _), pure_bind, Option.bind_eq_bind,
    Option.bind_some, vnid]
  rfl

/-- An object in range comes back from the id that is built for it exactly if its numbers keep to
the width of their fields and it is no subnet; and two objects that come back from one URI are
the same. -/
theorem gateway_ids_round_trip_iff_they_fit (object : GatewayObject) (inRange : object.InRange) :
    (object.RoundTrips ↔ object.Fits) ∧
      ∀ other newUri uri, object.RoundTrips → other.RoundTrips →
        getDelUri newUri object = some uri → getDelUri newUri other = some uri →
          object = other := by
  constructor
  · rw [roundTrips_iff]
    cases object with
    | subnet => exact Iff.rfl
    | externalVip => exact iff_of_true (externalVip_parses inRange) True.intro
    | rule => exact rule_parses_iff inRange
    | vlanMap => exact vlanMap_parses_iff inRange
  · intro other newUri uri trips otherTrips built otherBuilt
    obtain ⟨fetched, named⟩ := getDelUri_eq_some_iff.mp built
    obtain ⟨otherFetched, otherNamed⟩ := getDelUri_eq_some_iff.mp otherBuilt
    have sameUri : object.collectionUri = other.collectionUri := fetched.symm.trans otherFetched
    have sameId : String.ofList object.id = String.ofList other.id :=
      List.singleton_inj.mp (List.append_cancel_left (named.symm.trans otherNamed))
    have parsed := parses_of_roundTrips trips
    have otherParsed := parses_of_roundTrips otherTrips
    rw [sameId, parseKey_congr sameUri, otherParsed] at parsed
    exact (Option.some.inj parsed).symm

/-- A rule of a network with a number of five digits comes back. -/
theorem five_digits_round_trip : (rule 99999 80 6 0x0a000001).RoundTrips :=
  (gateway_ids_round_trip_iff_they_fit (rule 99999 80 6 0x0a000001)
    ⟨by decide, by decide, by decide⟩).1.mpr (by decide : (99999 : Int) < 100000)

/-- A rule of a network with a number of six digits does not come back, and no subnet does. -/
theorem six_digits_do_not_round_trip :
    ((rule 100000 80 6 0x0a000001).InRange ∧ ¬(rule 100000 80 6 0x0a000001).RoundTrips) ∧
      (subnet 1 0x0a000000).InRange ∧ ¬(subnet 1 0x0a000000).RoundTrips := by
  have inRange : (rule 100000 80 6 0x0a000001).InRange := ⟨by decide, by decide, by decide⟩
  refine ⟨⟨inRange, fun trips => ?_⟩, ⟨by decide, by decide⟩, (roundTrips_iff _).mp⟩
  exact absurd ((rule_parses_iff inRange).mp (parses_of_roundTrips trips)) (by decide)

end GatewayObject

end OpenDove
