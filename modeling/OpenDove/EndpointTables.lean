import Mathlib.Logic.Function.Basic
import OpenDove.DomainServices

/-!
# Endpoint tables

The virtual addresses of an endpoint, and the MAC and IP tables in which a domain and a
VNID find endpoints. `Domain` and `DVG` keep the same three dictionaries and maintain them
with the same four routines, so one definition serves both.

The routines write by key: a deletion removes the entry of an address whoever is stored
there. What a lookup returns afterwards is stated once for each routine, and the proofs
about endpoints use only those equations.
-/

namespace OpenDove

/-! ## Virtual addresses of an endpoint -/

/-- The `IPAddressLocation` of a virtual address. Every one of them is built from a value and
the family of that value, with port 0, so the family is not stored again. -/
structure VirtualIP where
  ipValue : IPValue
  mode : SubnetMode
  deriving DecidableEq, Repr

variable (vIPs : List VirtualIP) (set : VIPSet) (tables : EndpointTables) (family : InetType)
  (endpoint : EndpointId) (vIP : VirtualIP) (vMac other : Mac) (vIPSet : VIPSet) (value : IPValue)

namespace VirtualIP

/-- `inet_type`. -/
def inetType (vIP : VirtualIP) : InetType := vIP.ipValue.family

end VirtualIP

/-- `vIP_set`: the virtual addresses of an endpoint, each stored under its own value. -/
structure VIPSet where
  table : Dict IPValue VirtualIP
  keyed : ∀ value vIP, table.lookup value = some vIP → vIP.ipValue = value

namespace VIPSet

instance : Membership IPValue VIPSet := ⟨fun set value => value ∈ set.table⟩

instance (value : IPValue) (set : VIPSet) : Decidable (value ∈ set) :=
  inferInstanceAs (Decidable (value ∈ set.table))

/-- No addresses. -/
def empty : VIPSet := { table := ∅, keyed := by simp }

/-- Store an address under its value. -/
def add (set : VIPSet) (vIP : VirtualIP) : VIPSet where
  table := set.table.insert vIP.ipValue vIP
  keyed := by
    intro value found stored
    rw [Dict.lookup_insert] at stored
    split at stored
    · obtain rfl := Option.some.inj stored
      exact Eq.symm ‹_›
    · exact set.keyed value found stored

/-- Remove the address stored under a value. -/
def del (set : VIPSet) (value : IPValue) : VIPSet where
  table := set.table.erase value
  keyed := fun other found stored => set.keyed other found (Dict.lookup_of_erase stored)

/-- The number of addresses. -/
def size (set : VIPSet) : Nat := set.table.size

/-- The addresses, in iteration order. -/
def values (set : VIPSet) : List VirtualIP := set.table.values

@[simp] theorem notMem_empty : value ∉ empty :=
  AList.notMem_empty value

/-- An addition stores the value of the address and keeps every other value. -/
@[simp] theorem mem_add : value ∈ set.add vIP ↔ value = vIP.ipValue ∨ value ∈ set :=
  AList.mem_insert _

/-- A removal drops exactly its value. -/
@[simp] theorem mem_del (erased value : IPValue) :
    value ∈ set.del erased ↔ value ≠ erased ∧ value ∈ set :=
  AList.mem_erase

/-- The values of the iterated addresses are exactly the stored values. -/
theorem mem_iff_values : value ∈ set ↔ ∃ vIP ∈ set.values, vIP.ipValue = value := by
  constructor
  · intro member
    obtain ⟨vIP, found⟩ := (Dict.mem_iff_lookup set.table value).mp member
    exact ⟨vIP, (Dict.mem_values _ _).mpr ⟨value, found⟩, set.keyed value vIP found⟩
  · rintro ⟨vIP, member, rfl⟩
    obtain ⟨value, found⟩ := (Dict.mem_values _ _).mp member
    rw [set.keyed value vIP found]
    exact (Dict.mem_iff_lookup set.table value).mpr ⟨vIP, found⟩

/-- Distinct iterated addresses have distinct values. -/
theorem values_nodup : (set.values.map VirtualIP.ipValue).Nodup := by
  have same : set.values.map VirtualIP.ipValue = set.table.keys := by
    simp only [values, Dict.values, AList.keys, List.keys, List.map_map]
    refine List.map_congr_left fun entry member => ?_
    exact set.keyed entry.1 entry.2 (AList.mem_lookup_iff.mpr member)
  rw [same]
  exact set.table.keys_nodup

end VIPSet

/-! ## Endpoint tables of a domain and of a VNID -/

/-- The three endpoint tables that `Domain` and `DVG` both keep: `Endpoint_Hash_MAC`, and
`Endpoint_Hash_IPv4` and `Endpoint_Hash_IPv6` by family. Each address table holds values
of its own family only. -/
structure EndpointTables where
  endpointHashMAC : Dict Mac EndpointId
  endpointHashIP : InetType → Dict IPValue EndpointId
  typed : ∀ family value endpoint,
    (endpointHashIP family).lookup value = some endpoint → value.family = family

namespace EndpointTables

/-- Empty tables. -/
def empty : EndpointTables where
  endpointHashMAC := ∅
  endpointHashIP := fun _ => ∅
  typed := by simp

/-- The endpoint stored under a MAC address. -/
def findMAC (tables : EndpointTables) (vMac : Mac) : Option EndpointId :=
  tables.endpointHashMAC.lookup vMac

/-- The endpoint stored under an address, in the table of its family. -/
def findIP (tables : EndpointTables) (value : IPValue) : Option EndpointId :=
  (tables.endpointHashIP value.family).lookup value

/-- `endpoint_vIP_add`: map an address to an endpoint, whoever had it before. -/
def endpointVIPAdd (tables : EndpointTables) (endpoint : EndpointId) (vIP : VirtualIP) :
    EndpointTables where
  endpointHashMAC := tables.endpointHashMAC
  endpointHashIP := Function.update tables.endpointHashIP vIP.inetType
    ((tables.endpointHashIP vIP.inetType).insert vIP.ipValue endpoint)
  typed := by
    intro family value found stored
    rw [Function.update_apply] at stored
    split at stored
    · subst family
      rw [Dict.lookup_insert] at stored
      split at stored
      · subst value
        rfl
      · exact tables.typed _ _ _ stored
    · exact tables.typed _ _ _ stored

/-- `endpoint_vIP_del`: unmap an address, whoever has it. -/
def endpointVIPDel (tables : EndpointTables) (vIP : VirtualIP) : EndpointTables where
  endpointHashMAC := tables.endpointHashMAC
  endpointHashIP := Function.update tables.endpointHashIP vIP.inetType
    ((tables.endpointHashIP vIP.inetType).erase vIP.ipValue)
  typed := by
    intro family value found stored
    rw [Function.update_apply] at stored
    split at stored
    · subst family
      exact tables.typed _ _ _ (Dict.lookup_of_erase stored)
    · exact tables.typed _ _ _ stored

/-- `endpoint_add`: enter an endpoint under its MAC address and all its virtual addresses. -/
def endpointAdd (tables : EndpointTables) (endpoint : EndpointId) (vMac : Mac) (vIPSet : VIPSet) :
    EndpointTables :=
  vIPSet.values.foldl (fun tables vIP => tables.endpointVIPAdd endpoint vIP)
    { tables with endpointHashMAC := tables.endpointHashMAC.insert vMac endpoint }

/-- `endpoint_del`: drop a MAC address and all the given virtual addresses. -/
def endpointDel (tables : EndpointTables) (vMac : Mac) (vIPSet : VIPSet) : EndpointTables :=
  vIPSet.values.foldl (fun tables vIP => tables.endpointVIPDel vIP)
    { tables with endpointHashMAC := tables.endpointHashMAC.erase vMac }

/-- `Endpoint_Hash_MAC.clear()`. -/
def clearMAC (tables : EndpointTables) : EndpointTables := { tables with endpointHashMAC := ∅ }

/-- `Endpoint_Hash_IPv4.clear()` or `Endpoint_Hash_IPv6.clear()`. -/
def clearIP (tables : EndpointTables) (family : InetType) : EndpointTables where
  endpointHashMAC := tables.endpointHashMAC
  endpointHashIP := Function.update tables.endpointHashIP family ∅
  typed := by
    intro other value found stored
    rw [Function.update_apply] at stored
    split at stored
    · simp at stored
    · exact tables.typed _ _ _ stored

/-- An entry of either address table is found under its value. -/
theorem lookup_endpointHashIP : (tables.endpointHashIP family).lookup value = some endpoint ↔
      value.family = family ∧ tables.findIP value = some endpoint := by
  constructor
  · intro found
    obtain rfl := tables.typed family value endpoint found
    exact ⟨rfl, found⟩
  · rintro ⟨rfl, found⟩
    exact found

@[simp] theorem findMAC_empty : empty.findMAC vMac = none := rfl

@[simp] theorem findIP_empty : empty.findIP value = none := rfl

/-- Mapping an address changes the lookup of exactly that address. -/
@[simp] theorem findIP_endpointVIPAdd :
    (tables.endpointVIPAdd endpoint vIP).findIP value =
      if value = vIP.ipValue then some endpoint else tables.findIP value := by
  by_cases sameFamily : value.family = vIP.inetType
  · simp [findIP, endpointVIPAdd, sameFamily, Dict.lookup_insert]
  · have different : value ≠ vIP.ipValue := fun same => sameFamily (same ▸ rfl)
    simp [findIP, endpointVIPAdd, sameFamily, different]

/-- Unmapping an address changes the lookup of exactly that address. -/
@[simp] theorem findIP_endpointVIPDel :
    (tables.endpointVIPDel vIP).findIP value =
      if value = vIP.ipValue then none else tables.findIP value := by
  by_cases sameFamily : value.family = vIP.inetType
  · simp [findIP, endpointVIPDel, sameFamily, Dict.lookup_erase]
  · have different : value ≠ vIP.ipValue := fun same => sameFamily (same ▸ rfl)
    simp [findIP, endpointVIPDel, sameFamily, different]

/-- A loop that maps every visited address alike and keeps the MAC table. -/
private theorem foldl_addresses {body : EndpointTables → VirtualIP → EndpointTables}
    {mapped : Option EndpointId}
    (addresses : ∀ tables vIP, (body tables vIP).findIP value =
      if value = vIP.ipValue then mapped else tables.findIP value)
    (macs : ∀ tables vIP, (body tables vIP).findMAC vMac = tables.findMAC vMac) :
    let after := vIPs.foldl body tables
    after.findMAC vMac = tables.findMAC vMac ∧
      after.findIP value =
        if ∃ vIP ∈ vIPs, vIP.ipValue = value then mapped else tables.findIP value := by
  induction vIPs generalizing tables with
  | nil => simp
  | cons vIP rest ih =>
    obtain ⟨laterMacs, laterAddresses⟩ := ih (body tables vIP)
    refine ⟨laterMacs.trans (macs ..), laterAddresses.trans ?_⟩
    rw [addresses]
    by_cases later : ∃ vIP ∈ rest, vIP.ipValue = value
    · simp [later]
    · by_cases here : vIP.ipValue = value
      · simp [here]
      · simp [later, here, Ne.symm here]

@[simp] theorem findMAC_endpointAdd :
    (tables.endpointAdd endpoint vMac vIPSet).findMAC other =
      if other = vMac then some endpoint else tables.findMAC other := by
  rw [endpointAdd, (foldl_addresses _ _ _ .zero (findIP_endpointVIPAdd · endpoint · _)
    fun _ _ => rfl).1]
  simp [findMAC, Dict.lookup_insert]

/-- Entering an endpoint maps the addresses it holds. -/
@[simp] theorem findIP_endpointAdd :
    (tables.endpointAdd endpoint vMac vIPSet).findIP value =
      if value ∈ vIPSet then some endpoint else tables.findIP value := by
  rw [endpointAdd, (foldl_addresses _ _ vMac _ (findIP_endpointVIPAdd · endpoint · _) fun _ _ => rfl).2]
  simp only [VIPSet.mem_iff_values]
  rfl

@[simp] theorem findMAC_endpointDel :
    (tables.endpointDel vMac vIPSet).findMAC other =
      if other = vMac then none else tables.findMAC other := by
  rw [endpointDel, (foldl_addresses _ _ _ .zero (findIP_endpointVIPDel · · _) fun _ _ => rfl).1]
  simp [findMAC, Dict.lookup_erase]

/-- Dropping an endpoint unmaps the addresses it holds, whoever they are mapped to. -/
@[simp] theorem findIP_endpointDel :
    (tables.endpointDel vMac vIPSet).findIP value =
      if value ∈ vIPSet then none else tables.findIP value := by
  rw [endpointDel, (foldl_addresses _ _ vMac _ (findIP_endpointVIPDel · · _) fun _ _ => rfl).2]
  simp only [VIPSet.mem_iff_values]
  rfl

end EndpointTables

end OpenDove
