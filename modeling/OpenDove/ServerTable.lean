import OpenDove.HashTables
import OpenDove.Runs
import Mathlib.Data.UInt

/-!
# The client's table of policy servers

A client of the policy service keeps, for each VNID it has learnt about, the address of the server
that answers for it. The controller names the first server, which is kept under VNID 0, and later
replaces or deletes it; then the old server is purged from the table. The table is a chained hash
table over the bytes of the VNID, and the purge goes through the routine that deletes the entry of
a VNID when it has a given server.

Each routine holds the lock of the table. Allocation is taken to succeed; the socket that the first
server opens and its place in the poll table are outcomes of the environment.
-/

namespace OpenDove

/-- `ip_addr_t`. The union of the two addresses is its first four bytes, which are the IPv4
address, and its other twelve. -/
structure ServerAddr where
  family : UInt16
  port : UInt16
  xportType : UInt16
  portHttp : UInt16
  ip4 : UInt32
  ip6Rest : BitVec 96
  deriving DecidableEq, Repr

namespace ServerAddr

/-- `AF_INET`. -/
def afInet : UInt16 := 2

/-- `AF_INET6`. -/
def afInet6 : UInt16 := 10

/-- `SOCK_DGRAM`. -/
def sockDgram : UInt16 := 2

/-- `dps_vnid_entries_eq`: the same server. -/
def entriesEq (node1 node2 : ServerAddr) : Bool :=
  if node1.family = node2.family ∧ node1.port = node2.port ∧ node1.xportType = node2.xportType then
    if node1.family = afInet then node1.ip4 = node2.ip4
    else node1.ip4 = node2.ip4 ∧ node1.ip6Rest = node2.ip6Rest
  else false

/-- The comparison of `dps_server_add` between the new server and the old one. -/
def sameSeed (new old : ServerAddr) : Bool :=
  new.family = old.family ∧ new.ip4 = old.ip4 ∧ new.port = old.port

theorem entriesEq_self (node : ServerAddr) : node.entriesEq node = true := by
  simp [entriesEq]

end ServerAddr

namespace ServerTable

/-- `hash_size`, with `VNID_NODE_MAPPING_HASH_BITS` equal to 6. -/
def hashSize : Nat := 1 <<< 6

/-- `dps_vnid_node_mapping_hash` on the bytes of a VNID as they lie in memory. -/
def vnidNodeMappingHash (data : List UInt8) : UInt32 :=
  data.foldl (fun hash byte => ((hash <<< 5) + hash) + byte.toUInt32) 5381

/-- The four bytes of a VNID, the least significant one first. -/
def vnidBytes (vnId : UInt32) : List UInt8 :=
  [vnId.toUInt8, (vnId >>> 8).toUInt8, (vnId >>> 16).toUInt8, (vnId >>> 24).toUInt8]

/-- The bucket of `get_hlist_head`. -/
def hashBucket (vnId : UInt32) : UInt32 :=
  vnidNodeMappingHash (vnidBytes vnId) &&& (UInt32.ofNat hashSize - 1)

end ServerTable

/-- `dps_vnid_node_mapping_table_t`. -/
abbrev ServerTable := HashTable ServerTable.hashBucket ServerAddr

namespace ServerTable

/-- `dps_vnid_node_mapping_table_init`. -/
def tableInit : ServerTable := HashTable.empty hashBucket ServerAddr

variable (table : ServerTable) (vnId : UInt32) (svrNode : ServerAddr)

/-- `dps_vnid_node_mapping_entry_search`; no result is its error. -/
def entrySearch : Option ServerAddr := table.search vnId

/-- `dps_vnid_node_mapping_entry_add`. -/
def entryAdd : ServerTable :=
  table.assign vnId svrNode

/-- `dps_vnid_node_mapping_entry_del`, with whether it succeeded. -/
def entryDel : ServerTable × Bool :=
  match table.search vnId with
  | none => (table, false)
  | some entry => if entry.entriesEq svrNode then (table.delete vnId, true) else (table, false)

/-- `dps_vnid_node_mapping_entry_del2`, with whether it succeeded. -/
def entryDel2 : ServerTable × Bool :=
  match table.search vnId with
  | none => (table, false)
  | some _ => (table.delete vnId, true)

/-- `dps_vnid_node_mapping_del_dup_node`. The loop hands its counter, which runs over the buckets,
to a routine that takes a VNID. -/
def delDupNode : ServerTable :=
  (List.range hashSize).foldl (fun table i => (table.entryDel (UInt32.ofNat i) svrNode).1) table

end ServerTable

/-- `dps_svr_addr_list[0]`: the address of the socket, the transport and whether it is in use. -/
structure SvrAddrInfo where
  family : UInt16
  ip4Addr : UInt32
  ip6Addr : UInt32 × BitVec 96
  port : UInt16
  xportType : UInt16
  inuse : Bool

/-- The client of the policy service. -/
structure PolicyClient where
  svrAddr : SvrAddrInfo
  table : ServerTable

/-- What the operating system and the poll table answer when the first server opens its socket. -/
structure SocketOutcome where
  opened : Bool
  nonBlocking : Bool
  polled : Bool

/-- `dps_return_status`, as far as `dps_server_add` returns it. -/
inductive DpsReturnStatus where
  | success
  | error
  | errorNoResources
  deriving DecidableEq, Repr

variable (client : PolicyClient) (table : ServerTable) (vnId : UInt32) (svrNode : ServerAddr)

namespace PolicyClient

/-- `dps_update_svr_addr_list`. -/
def updateSvrAddrList (client : PolicyClient) (svrNode : ServerAddr) : PolicyClient :=
  let svrAddr :=
    if svrNode.family = ServerAddr.afInet then
      { client.svrAddr with family := ServerAddr.afInet, ip4Addr := svrNode.ip4 }
    else
      { client.svrAddr with
        family := ServerAddr.afInet6
        ip6Addr := (svrNode.ip4, svrNode.ip6Rest) }
  { client with svrAddr := { svrAddr with port := svrNode.port, xportType := svrNode.xportType } }

/-- Set whether the address of the socket is in use. -/
def setInuse (client : PolicyClient) (inuse : Bool) : PolicyClient :=
  { client with svrAddr := { client.svrAddr with inuse } }

/-- Learn the server of a VNID. -/
def entryAdd (client : PolicyClient) (vnId : UInt32) (svrNode : ServerAddr) : PolicyClient :=
  { client with table := client.table.entryAdd vnId svrNode }

/-- Purge a server. -/
def delDupNode (client : PolicyClient) (svrNode : ServerAddr) : PolicyClient :=
  { client with table := client.table.delDupNode svrNode }

/-- The part of `dps_server_add` for the first server, which opens a socket for datagrams. -/
def openSocket (client : PolicyClient) (svrNode : ServerAddr) (outcome : SocketOutcome) :
    PolicyClient × DpsReturnStatus :=
  let opening := (client.updateSvrAddrList svrNode).setInuse true
  if opening.svrAddr.xportType = ServerAddr.sockDgram then
    if ¬ outcome.opened then (opening.setInuse false, .errorNoResources)
    else if ¬ outcome.nonBlocking then (opening, .success)
    else if outcome.polled then (opening.entryAdd 0 svrNode, .success)
    else (opening.setInuse false, .error)
  else (opening, .success)

/-- `dps_server_add`. -/
def dpsServerAdd (client : PolicyClient) (svrNode : ServerAddr) (outcome : SocketOutcome) :
    PolicyClient × DpsReturnStatus :=
  if client.svrAddr.inuse then
    match client.table.entrySearch 0 with
    | some oldSvrAddr =>
      if svrNode.sameSeed oldSvrAddr then (client, .success)
      else
        (((client.delDupNode oldSvrAddr).updateSvrAddrList svrNode).entryAdd 0 svrNode, .success)
    | none => (client.entryAdd 0 svrNode, .success)
  else client.openSocket svrNode outcome

/-- `dps_server_del`. -/
def dpsServerDel (client : PolicyClient) (svrNode : ServerAddr) : PolicyClient :=
  { client with svrAddr := { client.svrAddr with ip4Addr := 0, port := 0 } }.delDupNode svrNode

@[simp] theorem table_updateSvrAddrList :
    (client.updateSvrAddrList svrNode).table = client.table := rfl

@[simp] theorem table_entryAdd :
    (client.entryAdd vnId svrNode).table = client.table.entryAdd vnId svrNode := rfl

@[simp] theorem table_delDupNode :
    (client.delDupNode svrNode).table = client.table.delDupNode svrNode := by
  rw [delDupNode]

theorem table_dpsServerDel :
    (client.dpsServerDel svrNode).table = client.table.delDupNode svrNode := by
  rw [dpsServerDel, table_delDupNode]

end PolicyClient

namespace ServerTable

/-- A VNID maps to a server. -/
def MapsTo (table : ServerTable) (vnId : UInt32) (svrNode : ServerAddr) : Prop :=
  ∃ node, table.entrySearch vnId = some node ∧ node.entriesEq svrNode

instance (table : ServerTable) (vnId : UInt32) (svrNode : ServerAddr) :
    Decidable (table.MapsTo vnId svrNode) :=
  decidable_of_iff ((table.entrySearch vnId).any (·.entriesEq svrNode)) (Option.any_eq_true _ _)

/-- No VNID maps to a server any more, and the VNIDs of other servers, apart from the excepted
ones, map where they did. -/
structure Forgets (before after : ServerTable) (svrNode : ServerAddr)
    (excepted : UInt32 → Prop) : Prop where
  gone : ∀ vnId, ¬ after.MapsTo vnId svrNode
  kept : ∀ vnId, ¬ excepted vnId → ¬ before.MapsTo vnId svrNode →
    after.entrySearch vnId = before.entrySearch vnId

theorem entryDel_eq :
    table.entryDel vnId svrNode =
      if table.MapsTo vnId svrNode then (table.delete vnId, true) else (table, false) := by
  cases found : table.entrySearch vnId with
  | none =>
    have unmapped : ¬ table.MapsTo vnId svrNode := by
      rintro ⟨node, mapped, -⟩
      rw [found] at mapped
      cases mapped
    rw [if_neg unmapped, entryDel, show table.search vnId = none from found]
  | some entry =>
    have mapped : table.MapsTo vnId svrNode ↔ entry.entriesEq svrNode := by
      constructor
      · rintro ⟨node, mapped, same⟩
        rw [found] at mapped
        cases mapped
        exact same
      · exact fun same => ⟨entry, found, same⟩
    rw [entryDel, show table.search vnId = some entry from found]
    simp only [mapped]

theorem entrySearch_entryDel (other : UInt32) :
    (table.entryDel vnId svrNode).1.entrySearch other =
      if other = vnId ∧ table.MapsTo other svrNode then none else table.entrySearch other := by
  rw [entryDel_eq]
  by_cases mapped : table.MapsTo vnId svrNode
  · rw [if_pos mapped]
    refine (table.search_delete vnId other).trans ?_
    by_cases same : other = vnId
    · rw [if_pos same, if_pos ⟨same, same ▸ mapped⟩]
    · rw [if_neg same, if_neg fun both => same both.1]
      rfl
  · rw [if_neg mapped, if_neg]
    rintro ⟨rfl, found⟩
    exact mapped found

/-- What a loop of conditional deletions leaves: the entries of its VNIDs are gone when they had
the server, and everything else stays. -/
theorem entrySearch_foldl_entryDel (list : List Nat) (table : ServerTable) (vnId : UInt32) :
    (list.foldl (fun table i => (table.entryDel (UInt32.ofNat i) svrNode).1) table).entrySearch
        vnId =
      if vnId ∈ list.map UInt32.ofNat ∧ table.MapsTo vnId svrNode then none
      else table.entrySearch vnId := by
  induction list generalizing table with
  | nil => exact (if_neg fun both => absurd both.1 List.not_mem_nil).symm
  | cons i list ih =>
    have first := table.entrySearch_entryDel (UInt32.ofNat i) svrNode vnId
    rw [List.foldl_cons, ih, List.map_cons]
    by_cases deleted : vnId = UInt32.ofNat i ∧ table.MapsTo vnId svrNode
    · rw [if_pos deleted] at first
      rw [first, ite_self, if_pos ⟨List.mem_cons.mpr (.inl deleted.1), deleted.2⟩]
    · rw [if_neg deleted] at first
      have mapped : (table.entryDel (UInt32.ofNat i) svrNode).1.MapsTo vnId svrNode ↔
          table.MapsTo vnId svrNode := by
        rw [MapsTo, MapsTo, first]
      rw [first]
      refine if_congr ?_ rfl rfl
      rw [mapped, List.mem_cons]
      constructor
      · exact fun both => ⟨.inr both.1, both.2⟩
      · rintro ⟨same | later, found⟩
        · exact absurd ⟨same, found⟩ deleted
        · exact ⟨later, found⟩

theorem mem_range_hashSize :
    vnId ∈ (List.range hashSize).map UInt32.ofNat ↔ vnId.toNat < hashSize := by
  constructor
  · intro listed
    obtain ⟨i, inRange, rfl⟩ := List.mem_map.mp listed
    exact lt_of_le_of_lt (Nat.mod_le i _) (List.mem_range.mp inRange)
  · intro small
    exact List.mem_map.mpr ⟨vnId.toNat, List.mem_range.mpr small, UInt32.ofNat_toNat⟩

/-- The purge deletes the entries of a server whose VNID is smaller than the number of buckets. -/
theorem entrySearch_delDupNode : (table.delDupNode svrNode).entrySearch vnId =
      if vnId.toNat < hashSize ∧ table.MapsTo vnId svrNode then none
      else table.entrySearch vnId := by
  rw [delDupNode, entrySearch_foldl_entryDel]
  exact if_congr (and_congr_left' (mem_range_hashSize vnId)) rfl rfl

/-- After the purge a VNID maps to the server exactly when it did and is not a bucket number. -/
theorem mapsTo_delDupNode : (table.delDupNode svrNode).MapsTo vnId svrNode ↔
      table.MapsTo vnId svrNode ∧ hashSize ≤ vnId.toNat := by
  rw [MapsTo, entrySearch_delDupNode]
  by_cases purged : vnId.toNat < hashSize ∧ table.MapsTo vnId svrNode
  · rw [if_pos purged]
    constructor
    · rintro ⟨_, impossible, -⟩
      cases impossible
    · rintro ⟨-, large⟩
      exact absurd purged.1 (not_lt.mpr large)
  · rw [if_neg purged]
    constructor
    · exact fun mapped => ⟨mapped, not_lt.mp fun small => purged ⟨small, mapped⟩⟩
    · exact fun both => both.1

/-- The purge changes no VNID of another server. -/
theorem entrySearch_delDupNode_of_not {table : ServerTable} {svrNode : ServerAddr} {vnId : UInt32}
    (other : ¬ table.MapsTo vnId svrNode) :
    (table.delDupNode svrNode).entrySearch vnId = table.entrySearch vnId := by
  rw [entrySearch_delDupNode, if_neg fun both => other both.2]

/-- The VNIDs of a server are numbers of buckets. -/
def BucketNumbersOnly (table : ServerTable) (svrNode : ServerAddr) : Prop :=
  ∀ vnId, table.MapsTo vnId svrNode → vnId.toNat < hashSize

theorem delDupNode_forgets_iff :
    Forgets table (table.delDupNode svrNode) svrNode (fun _ => False) ↔
      table.BucketNumbersOnly svrNode := by
  constructor
  · intro forgets vnId mapped
    by_contra large
    exact forgets.gone vnId ((mapsTo_delDupNode ..).mpr ⟨mapped, not_lt.mp large⟩)
  · intro small
    constructor
    case gone =>
      intro vnId mapped
      obtain ⟨before, large⟩ := (mapsTo_delDupNode ..).mp mapped
      exact absurd (small vnId before) (not_lt.mpr large)
    case kept => exact fun vnId _ other => entrySearch_delDupNode_of_not other

end ServerTable

namespace PolicyClient

open ServerTable

/-- An addition replaces the seed: the old server is forgotten, and VNID 0 maps to the new one. -/
def Replaces (client : PolicyClient) (old new : ServerAddr) (outcome : SocketOutcome) : Prop :=
  Forgets client.table (client.dpsServerAdd new outcome).1.table old (· = 0) ∧
    (client.dpsServerAdd new outcome).1.table.entrySearch 0 = some new

theorem replaces_iff {client : PolicyClient} {old new : ServerAddr} {outcome : SocketOutcome}
    (inuse : client.svrAddr.inuse = true) (seed : client.table.entrySearch 0 = some old)
    (different : ¬ new.entriesEq old) :
    client.Replaces old new outcome ↔
      client.table.BucketNumbersOnly old ∧ new.sameSeed old = false := by
  cases same : new.sameSeed old with
  | true =>
    -- The new server is taken for the old one, which stays under VNID 0.
    have unchanged : client.dpsServerAdd new outcome = (client, .success) := by
      simp only [dpsServerAdd, inuse, if_true, seed, same]
    constructor
    · rintro ⟨forgets, -⟩
      rw [unchanged] at forgets
      exact absurd ⟨old, seed, old.entriesEq_self⟩ (forgets.gone 0)
    · rintro ⟨-, impossible⟩
      cases impossible
  | false =>
    have after : (client.dpsServerAdd new outcome).1.table =
        (client.table.delDupNode old).entryAdd 0 new := by
      simp only [dpsServerAdd, inuse, if_true, seed, same, Bool.false_eq_true, if_false,
        table_entryAdd, table_updateSvrAddrList, table_delDupNode]
    have search : ∀ vnId, ((client.table.delDupNode old).entryAdd 0 new).entrySearch vnId =
        if vnId = 0 then some new else (client.table.delDupNode old).entrySearch vnId :=
      fun vnId => HashTable.search_assign (client.table.delDupNode old) 0 new vnId
    rw [Replaces, after]
    constructor
    · rintro ⟨forgets, -⟩
      refine ⟨fun vnId mapped => ?_, rfl⟩
      by_contra large
      have nonzero : vnId ≠ 0 := fun zero => large (by rw [zero]; decide)
      refine forgets.gone vnId ?_
      rw [MapsTo, search, if_neg nonzero]
      exact (mapsTo_delDupNode ..).mpr ⟨mapped, not_lt.mp large⟩
    · rintro ⟨small, -⟩
      have purged := (delDupNode_forgets_iff client.table old).mpr small
      refine ⟨⟨fun vnId => ?_, fun vnId nonzero other => ?_⟩, (search 0).trans (if_pos rfl)⟩
      · rw [MapsTo, search]
        by_cases zero : vnId = 0
        · rw [if_pos zero]
          rintro ⟨node, found, equal⟩
          cases found
          exact different equal
        · rw [if_neg zero]
          exact purged.gone vnId
      · rw [search, if_neg nonzero]
        exact purged.kept vnId id other

/-- A server that is deleted is forgotten exactly when all its VNIDs are bucket numbers. A seed that
is replaced by a different server is forgotten exactly when, besides, the two servers differ
in their family, their port or the first four bytes of their address. -/
theorem server_is_forgotten_iff (client : PolicyClient) (svrNode : ServerAddr) :
    (Forgets client.table (client.dpsServerDel svrNode).table svrNode (fun _ => False) ↔
      client.table.BucketNumbersOnly svrNode) ∧
    ∀ new outcome, client.svrAddr.inuse = true → client.table.entrySearch 0 = some svrNode →
      ¬ new.entriesEq svrNode →
      (client.Replaces svrNode new outcome ↔
        client.table.BucketNumbersOnly svrNode ∧ new.sameSeed svrNode = false) := by
  rw [table_dpsServerDel]
  exact ⟨delDupNode_forgets_iff client.table svrNode,
    fun _ _ inuse seed different => replaces_iff inuse seed different⟩

/-- A server of the witnesses. -/
def exampleServer (ip4 : UInt32) : ServerAddr :=
  { family := ServerAddr.afInet, port := 902, xportType := ServerAddr.sockDgram, portHttp := 0, ip4,
    ip6Rest := 0 }

/-- A client whose seed answers for another VNID too. -/
def exampleClient (vnId : UInt32) : PolicyClient where
  svrAddr := { family := ServerAddr.afInet, ip4Addr := 1, ip6Addr := (0, 0), port := 902,
               xportType := ServerAddr.sockDgram, inuse := true }
  table := (tableInit.entryAdd 0 (exampleServer 1)).entryAdd vnId (exampleServer 1)

theorem mapsTo_exampleClient {vnId other : UInt32} {svrNode : ServerAddr}
    (mapped : (exampleClient vnId).table.MapsTo other svrNode) : other = vnId ∨ other = 0 := by
  obtain ⟨node, found, -⟩ := mapped
  by_contra neither
  rw [not_or] at neither
  have unknown : (exampleClient vnId).table.entrySearch other = none := by
    refine (HashTable.search_assign _ vnId _ other).trans ?_
    rw [if_neg neither.1]
    refine (HashTable.search_assign _ 0 _ other).trans ?_
    rw [if_neg neither.2]
    rfl
  rw [unknown] at found
  cases found

/-- A seed that also answers for VNID 7 is forgotten when it is deleted and when it is replaced. -/
theorem seed_of_small_vnid_is_forgotten :
    Forgets (exampleClient 7).table ((exampleClient 7).dpsServerDel (exampleServer 1)).table
        (exampleServer 1) (fun _ => False) ∧
      (exampleClient 7).Replaces (exampleServer 1) (exampleServer 2)
        { opened := true, nonBlocking := true, polled := true } := by
  have small : (exampleClient 7).table.BucketNumbersOnly (exampleServer 1) := by
    intro vnId mapped
    rcases mapsTo_exampleClient mapped with rfl | rfl <;> decide
  obtain ⟨deleted, replaced⟩ := server_is_forgotten_iff (exampleClient 7) (exampleServer 1)
  exact ⟨deleted.mpr small,
    (replaced _ _ rfl (by decide) (by decide)).mpr ⟨small, by decide⟩⟩

/-- A server that answers for VNID 64 still does after it was deleted. -/
theorem server_of_large_vnid_stays :
    ¬ Forgets (exampleClient 64).table ((exampleClient 64).dpsServerDel (exampleServer 1)).table
        (exampleServer 1) (fun _ => False) := by
  intro forgets
  refine forgets.gone 64 ?_
  rw [table_dpsServerDel, mapsTo_delDupNode]
  exact ⟨by decide, by decide⟩

end PolicyClient

/-! ## The table as a map -/

namespace ServerTable

/-- `dps_vnid_node_mapping_table_get_available_entry`. -/
def tableGetAvailableEntry : Option ServerAddr :=
  (List.range hashSize).findSome? fun i => (table.chains (UInt32.ofNat i)).entries.head?.map Sigma.snd

/-- `dps_vnid_node_mapping_entry_find`. -/
def entryFind : Option ServerAddr := (table.entrySearch vnId).or table.tableGetAvailableEntry

/-- The requests that change the table. -/
inductive Request where
  | add (vnId : UInt32) (svrNode : ServerAddr)
  | del (vnId : UInt32) (svrNode : ServerAddr)
  | del2 (vnId : UInt32)

/-- The VNID that a request names. -/
def Request.named : Request → UInt32
  | .add vnId _ | .del vnId _ | .del2 vnId => vnId

/-- A request for a VNID that has the server ends its entry: an addition replaces it, and a
conditional deletion removes it if it names the same server. -/
def Request.Ends (request : Request) (vnId : UInt32) (svrNode : ServerAddr) : Prop :=
  request.named = vnId ∧ ∀ given, request = .del vnId given → svrNode.entriesEq given

/-- The table after a request. -/
def serve (table : ServerTable) : Request → ServerTable
  | .add vnId svrNode => table.entryAdd vnId svrNode
  | .del vnId svrNode => (table.entryDel vnId svrNode).1
  | .del2 vnId => (table.entryDel2 vnId).1

theorem entrySearch_entryDel2 (other : UInt32) :
    (table.entryDel2 vnId).1.entrySearch other =
      if other = vnId then none else table.entrySearch other := by
  unfold entryDel2
  split
  · rename_i absent
    split
    · subst other
      exact absent
    · rfl
  · exact table.search_delete vnId other

theorem entrySearch_serve_of_ne {request : Request} (other : vnId ≠ request.named) :
    (table.serve request).entrySearch vnId = table.entrySearch vnId := by
  cases request with
  | add => exact (table.search_assign ..).trans (if_neg other)
  | del => exact (table.entrySearch_entryDel ..).trans (if_neg fun both => other both.1)
  | del2 => exact (table.entrySearch_entryDel2 ..).trans (if_neg other)

theorem entrySearch_serve (request : Request) :
    (table.serve request).entrySearch vnId = some svrNode ↔ request = .add vnId svrNode ∨
      table.entrySearch vnId = some svrNode ∧ ¬ request.Ends vnId svrNode := by
  by_cases same : vnId = request.named
  · subst same
    cases request with
    | add vnId given =>
      simp [serve, entrySearch, entryAdd, HashTable.search_assign, Request.Ends, Request.named]
    | del vnId given =>
      simp only [serve, entrySearch_entryDel, Request.Ends, Request.named, MapsTo]
      cases table.entrySearch vnId <;> simp +contextual [and_comm, iff_iff_implies_and_implies]
    | del2 vnId => simp [serve, entrySearch_entryDel2, Request.Ends, Request.named]
  · have kept : ¬ request.Ends vnId svrNode := fun ends => same ends.1.symm
    have unnamed : request ≠ .add vnId svrNode := fun added => same (added ▸ rfl)
    simp [table.entrySearch_serve_of_ne vnId same, kept, unnamed]

/-- A server is found for a VNID exactly when no request since its addition ended the entry. -/
theorem entrySearch_run (requests : List Request) :
    (run serve tableInit requests).entrySearch vnId = some svrNode ↔
      ∃ before after, requests = before ++ .add vnId svrNode :: after ∧
        ∀ request ∈ after, ¬ request.Ends vnId svrNode := by
  induction requests using List.reverseRecOn with
  | nil => simp [run, tableInit, entrySearch, HashTable.search, HashTable.empty]
  | append_singleton requests request ih =>
    rw [run_append, show run serve _ [request] = serve _ request from rfl, entrySearch_serve, ih]
    constructor
    · rintro (rfl | ⟨⟨before, after, rfl, kept⟩, keeps⟩)
      · exact ⟨requests, [], rfl, by simp⟩
      · refine ⟨before, after ++ [request], by simp, ?_⟩
        simpa [or_imp, forall_and] using ⟨kept, keeps⟩
    · rintro ⟨before, after, split, kept⟩
      obtain rfl | ⟨after, last, rfl⟩ := List.eq_nil_or_concat after
      · exact .inl (by simpa using (List.append_inj' split rfl).2)
      · rw [List.concat_eq_append, ← List.cons_append, ← List.append_assoc] at split
        obtain ⟨rfl, same⟩ := List.append_inj' split rfl
        obtain rfl := List.singleton_inj.mp same
        exact .inr ⟨⟨before, after, rfl, fun other listed => kept other (by simp [listed])⟩,
          kept request (by simp)⟩

/-- The first entry of a chain is what its VNID has. -/
theorem entrySearch_of_head? {index : UInt32} {entry : Sigma fun _ : UInt32 => ServerAddr}
    (first : (table.chains index).entries.head? = some entry) :
    table.entrySearch entry.1 = some entry.2 := by
  obtain ⟨rest, chain⟩ := List.head?_eq_some_iff.mp first
  have placed := table.placed index entry.1 (by simp [AList.mem_keys, AList.keys, chain])
  rw [entrySearch, HashTable.search, placed, AList.lookup, chain]
  exact List.dlookup_cons_eq ..

theorem entrySearch_of_tableGetAvailableEntry
    (available : table.tableGetAvailableEntry = some svrNode) :
    ∃ vnId, table.entrySearch vnId = some svrNode := by
  obtain ⟨i, -, found⟩ := List.exists_of_findSome?_eq_some available
  obtain ⟨entry, first, rfl⟩ := Option.map_eq_some_iff.mp found
  exact ⟨entry.1, table.entrySearch_of_head? first⟩

theorem tableGetAvailableEntry_eq_none (unavailable : table.tableGetAvailableEntry = none) :
    table.entrySearch vnId = none := by
  have small : (hashBucket vnId).toNat < hashSize := by
    rw [hashBucket, UInt32.toNat_and]
    exact Nat.and_lt_two_pow _ (n := 6) (by decide)
  have first := List.findSome?_eq_none_iff.mp unavailable _ (List.mem_range.mpr small)
  rw [UInt32.ofNat_toNat, Option.map_eq_none_iff, List.head?_eq_none_iff] at first
  rw [entrySearch, HashTable.search, AList.lookup, first, List.dlookup_nil]

/-- The table is a map from VNIDs to the servers that were last added for them, and a VNID without a
server borrows one from another VNID if there is any. -/
theorem mapping_table_is_a_map (requests : List Request) :
    let table := run serve tableInit requests
    (∀ vnId svrNode, table.entrySearch vnId = some svrNode ↔
      ∃ before after, requests = before ++ .add vnId svrNode :: after ∧
        ∀ request ∈ after, ¬ request.Ends vnId svrNode) ∧
    (∀ request vnId, vnId ≠ request.named →
      (table.serve request).entrySearch vnId = table.entrySearch vnId) ∧
    ∀ vnId, table.entrySearch vnId = none →
      (∀ svrNode, table.entryFind vnId = some svrNode →
        ∃ other ≠ vnId, table.entrySearch other = some svrNode) ∧
      (table.entryFind vnId = none → ∀ other, table.entrySearch other = none) := by
  intro table
  refine ⟨fun vnId svrNode => entrySearch_run vnId svrNode requests,
    fun request vnId => table.entrySearch_serve_of_ne vnId, fun vnId absent => ?_⟩
  rw [entryFind, absent, Option.none_or]
  refine ⟨fun svrNode available => ?_, fun unavailable other =>
    table.tableGetAvailableEntry_eq_none other unavailable⟩
  obtain ⟨other, found⟩ := table.entrySearch_of_tableGetAvailableEntry svrNode available
  refine ⟨other, fun same => ?_, found⟩
  rw [same, absent] at found
  cases found

/-! ## The table in memory -/

section Memory

variable {α : Type} [DecidableEq α]

/-- The table as it lies in memory, with the nodes that the program allocates. -/
abbrev Linked (α : Type) := LinkedTable α UInt32 UInt32 ServerAddr

/-- No node is in a chain. -/
def Linked.init (key : α → UInt32) (value : α → ServerAddr) : Linked α := ⟨.empty, key, value⟩

/-- The routines on the table in memory: `vnid_node_search_in_bkt` walks along the chain of the VNID,
and then the entry it found is changed or removed, or a new node is added. -/
def Linked.serve (linked : Linked α) (steps : Nat) (new : α) (request : Request) :
    Option (Linked α) :=
  (linked.findIn hashBucket steps request.named).map
    (match request with
    | .add vnId svrNode => linked.put hashBucket vnId svrNode new
    | .del _ svrNode => linked.drop (·.entriesEq svrNode)
    | .del2 _ => linked.drop fun _ => true)

/-- A request on the table in memory, with enough steps and a node that is in no chain, ends and does
what it does on the chains. -/
theorem Linked.serve_represents {linked : Linked α} {lists : UInt32 → List α}
    (represents : linked.Represents table lists) {new : α} (free : ∀ index, new ∉ lists index)
    (request : Request) : ∃ after lists',
      (∀ steps, (lists (hashBucket request.named)).length < steps →
        linked.serve steps new request = some after) ∧
      after.Represents (table.serve request) lists' := by
  have ends (steps) (enough : (lists (hashBucket request.named)).length < steps) :
      linked.serve steps new request = some _ :=
    congrArg (Option.map _) (represents.findIn enough)
  cases request with
  | add vnId svrNode =>
    obtain ⟨lists', added⟩ := represents.put vnId svrNode free
    exact ⟨_, lists', ends, added⟩
  | del vnId svrNode =>
    obtain ⟨lists', removed⟩ := represents.drop vnId (·.entriesEq svrNode)
    refine ⟨_, lists', ends, ?_⟩
    have served : table.serve (.del vnId svrNode) =
        if (table.search vnId).any (·.entriesEq svrNode) then table.delete vnId else table := by
      rw [ServerTable.serve, entryDel]
      cases table.search vnId with
      | none => rfl
      | some entry => exact apply_ite Prod.fst ..
    exact served ▸ removed
  | del2 vnId =>
    obtain ⟨lists', removed⟩ := represents.drop vnId fun _ => true
    refine ⟨_, lists', ends, ?_⟩
    have served : table.serve (.del2 vnId) =
        if (table.search vnId).any (fun _ => true) then table.delete vnId else table := by
      rw [ServerTable.serve, entryDel2]
      cases table.search vnId <;> rfl
    exact served ▸ removed

/-- A run of requests on the table in memory. The node that is handed to a request is in no chain, as
its back link tells. -/
inductive Linked.Runs (start : Linked α) : List Request → Linked α → Prop
  | nil : Runs start [] start
  | serve {requests : List Request} {linked after : Linked α} {steps : Nat} {new : α}
      {request : Request} (before : Runs start requests linked)
      (free : linked.links.pprevious new = .null ∨ linked.links.pprevious new = .poison)
      (served : ∀ more, linked.serve (steps + more) new request = some after) :
      Runs start (requests ++ [request]) after

/-- What lies in memory after a run represents the table after the run. -/
theorem Linked.Runs.represents {key : α → UInt32} {value : α → ServerAddr} {requests : List Request}
    {linked : Linked α} (runs : Runs (.init key value) requests linked) :
    ∃ lists, linked.Represents (run ServerTable.serve tableInit requests) lists := by
  induction runs with
  | nil => exact ⟨fun _ => [], .empty, fun _ => rfl⟩
  | @serve requests linked after steps new request _ free served ih =>
    obtain ⟨lists, represents⟩ := ih
    have absent : ∀ index, new ∉ lists index := by
      intro index listed
      obtain ⟨notNull, notPoison⟩ := (represents.linked.mem_iff new).mp ⟨index, listed⟩
      exact free.elim notNull notPoison
    obtain ⟨next, lists', ends, represents'⟩ := Linked.serve_represents _ represents absent request
    have same : after = next :=
      Option.some.inj ((served ((lists (hashBucket request.named)).length + 1)).symm.trans
        (ends _ (by omega)))
    rw [run_append]
    exact ⟨lists', same ▸ represents'⟩

/-- After a run, the search along the links ends and finds what the table has. -/
theorem Linked.Runs.search {key : α → UInt32} {value : α → ServerAddr} {requests : List Request}
    {linked : Linked α} (runs : Runs (.init key value) requests linked) (vnId : UInt32) :
    ∃ bound, ∀ steps > bound, (linked.findIn hashBucket steps vnId).map (Option.map linked.value) =
      some ((run ServerTable.serve tableInit requests).entrySearch vnId) := by
  obtain ⟨lists, represents⟩ := runs.represents
  exact ⟨_, fun _ enough => represents.search enough⟩

end Memory

end ServerTable

end OpenDove
