import OpenDove.Dictionary
import OpenDove.IntrusiveLists

/-!
# Chained hash tables

A hash table keeps its entries in chains, one for each place, and a hash function says which chain
a key belongs to. The entries of a chain have different keys, so a table is a finite map: the laws
below say what a search finds after an assignment and after a deletion, for every choice of the
hash function. In memory the chains are intrusive lists whose nodes carry the keys and the values,
and the operations on the links compute those on the chains.
-/

namespace OpenDove

open Function

theorem kreplace_cons {κ ν : Type} [DecidableEq κ] (key : κ) (value : ν)
    (entry : Sigma fun _ : κ => ν) (rest : List (Sigma fun _ : κ => ν)) :
    (entry :: rest).kreplace key value =
      if key = entry.1 then ⟨key, value⟩ :: rest else entry :: rest.kreplace key value := by
  split
  · next same => exact List.lookmap_cons_some _ _ (dif_pos same)
  · next differs => exact List.lookmap_cons_none _ _ (dif_neg differs)

/-- A replaced value is found under its key. -/
theorem lookup_replace {κ ν : Type} [DecidableEq κ] {table : Dict κ ν} {key : κ} (known : key ∈ table)
    (value : ν) (other : κ) :
    (table.replace key value).lookup other =
      if other = key then some value else table.lookup other := by
  have entries (list : List (Sigma fun _ : κ => ν)) (known : key ∈ list.keys) :
      (list.kreplace key value).dlookup other =
        if other = key then some value else list.dlookup other := by
    induction list with
    | nil => cases known
    | cons entry rest ih =>
      rw [kreplace_cons]
      by_cases same : key = entry.1
      · rw [if_pos same]
        by_cases equal : other = key
        · rw [if_pos equal, equal, List.dlookup_cons_eq]
        · rw [if_neg equal, List.dlookup_cons_ne rest _ equal,
            List.dlookup_cons_ne rest entry (same ▸ equal)]
      · have later : key ∈ rest.keys := (List.mem_cons.mp known).resolve_left same
        rw [if_neg same]
        by_cases equal : other = entry.1
        · have differs : other ≠ key := fun agree => same (agree.symm.trans equal)
          subst equal
          rw [if_neg differs, List.dlookup_cons_eq, List.dlookup_cons_eq]
        · rw [List.dlookup_cons_ne _ entry equal, List.dlookup_cons_ne _ entry equal, ih later]
  exact entries table.entries known

/-- A hash table whose entries lie in the chain of their key, with different keys in a chain. -/
structure HashTable {κ ι : Type} (place : κ → ι) (ν : Type) where
  chains : ι → Dict κ ν
  placed : ∀ index, ∀ key ∈ chains index, place key = index

namespace HashTable

variable {κ ι ν : Type} [DecidableEq κ] [DecidableEq ι] {place : κ → ι}

/-- The table whose chains are all empty. -/
def empty (place : κ → ι) (ν : Type) : HashTable place ν where
  chains := fun _ => ∅
  placed := fun _ key listed => absurd listed (AList.notMem_empty key)

/-- The value of the entry with the key in the chain of the key. -/
def search (table : HashTable place ν) (key : κ) : Option ν := (table.chains (place key)).lookup key

/-- Replace the chain of a key by one whose keys belong there. -/
def setChain (table : HashTable place ν) (key : κ) (chain : Dict κ ν)
    (belongs : ∀ other ∈ chain, place other = place key) : HashTable place ν where
  chains := update table.chains (place key) chain
  placed := by
    intro index other listed
    by_cases same : index = place key
    · rw [same, update_self] at listed
      rw [same]
      exact belongs other listed
    · rw [update_of_ne same] at listed
      exact table.placed index other listed

/-- Assign a value to a key: in place when the key has an entry, at the head of its chain
otherwise. -/
def assign (table : HashTable place ν) (key : κ) (value : ν) : HashTable place ν :=
  if (table.search key).isSome then
    table.setChain key ((table.chains (place key)).replace key value)
      (fun other listed => table.placed _ other (AList.mem_replace.mp listed))
  else
    table.setChain key ((table.chains (place key)).insert key value) (fun other listed =>
      ((AList.mem_insert _).mp listed).elim (congrArg place) (table.placed _ other))

/-- Remove the entry of a key. -/
def delete (table : HashTable place ν) (key : κ) : HashTable place ν :=
  table.setChain key ((table.chains (place key)).erase key)
    (fun other listed => table.placed _ other (AList.mem_erase.mp listed).2)

variable (table : HashTable place ν)

/-- A replaced chain only matters to the keys that belong to it. -/
theorem search_setChain {key : κ} {chain : Dict κ ν}
    (belongs : ∀ other ∈ chain, place other = place key) (other : κ) :
    (table.setChain key chain belongs).search other =
      if place other = place key then chain.lookup other else table.search other := by
  by_cases same : place other = place key
  · rw [if_pos same, search, same]
    exact congrArg (AList.lookup other) (update_self ..)
  · rw [if_neg same, search]
    exact congrArg (AList.lookup other) (update_of_ne same ..)

/-- A change of a chain that concerns one key concerns no other key of the table. -/
theorem search_setChain_of_lookup {key : κ} {chain : Dict κ ν} {found : Option ν}
    (belongs : ∀ other ∈ chain, place other = place key)
    (changed : ∀ other, chain.lookup other =
      if other = key then found else (table.chains (place key)).lookup other) (other : κ) :
    (table.setChain key chain belongs).search other =
      if other = key then found else table.search other := by
  rw [search_setChain]
  by_cases same : place other = place key
  · rw [if_pos same, changed, search, same]
  · rw [if_neg same, if_neg fun equal => same (congrArg place equal)]

theorem search_assign (key : κ) (value : ν) (other : κ) :
    (table.assign key value).search other =
      if other = key then some value else table.search other := by
  unfold assign
  split
  · next found =>
    exact table.search_setChain_of_lookup _ (lookup_replace (AList.lookup_isSome.mp found) value)
      other
  · exact table.search_setChain_of_lookup _ (fun _ => Dict.lookup_insert ..) other

theorem search_delete (key other : κ) :
    (table.delete key).search other = if other = key then none else table.search other :=
  table.search_setChain_of_lookup _ (fun _ => Dict.lookup_erase ..) other

end HashTable

/-! ## Chains in memory -/

/-- A table whose chains are intrusive lists: the links of the nodes, and what they carry. -/
structure LinkedTable (α κ ι ν : Type) where
  links : LinkHeap α ι
  key : α → κ
  value : α → ν

namespace LinkedTable

variable {α κ ι ν : Type} [DecidableEq κ] (place : κ → ι) (table : LinkedTable α κ ι ν)

/-- The walk along the links to the first node with a key. It has no result if it needs more steps
than it may make or comes to a poisoned link. -/
def find (key : κ) : Nat → Link α → Option (Option α)
  | 0, _ | _, .poison => none
  | _ + 1, .null => some none
  | steps + 1, .node node =>
    if table.key node = key then some (some node) else find key steps (table.links.next node)

/-- The node of a key. -/
def findIn (steps : Nat) (key : κ) : Option (Option α) :=
  table.find key steps (table.links.first (place key))

/-- Give a value to the node of a key, or to a new node at the head of its chain. -/
def put [DecidableEq α] [DecidableEq ι] (key : κ) (value : ν) (new : α) :
    Option α → LinkedTable α κ ι ν
  | some node => { table with value := update table.value node value }
  | none =>
    { links := table.links.headAdd (place key) new
      key := update table.key new key
      value := update table.value new value }

/-- Remove the node of a key, if its value meets a condition. -/
def drop [DecidableEq α] [DecidableEq ι] (asks : ν → Bool) : Option α → LinkedTable α κ ι ν
  | some node =>
    if asks (table.value node) then { table with links := table.links.nodeRemove node } else table
  | none => table

/-- What a node carries. -/
def entry (node : α) : Sigma fun _ : κ => ν := ⟨table.key node, table.value node⟩

variable {place} {table}

/-- The links spell the chains of a table. -/
structure Represents (table : LinkedTable α κ ι ν) (chained : HashTable place ν)
    (lists : ι → List α) : Prop where
  linked : table.links.Linked lists
  entries : ∀ index, (chained.chains index).entries = (lists index).map table.entry

variable {chained : HashTable place ν} {lists : ι → List α} {steps : Nat} {key : κ}

theorem find_linkOf {back : BackLink α ι} {list : List α} (segment : table.links.Segment back list)
    (enough : list.length < steps) :
    table.find key steps (linkOf list) = some (list.find? (table.key · = key)) := by
  induction list generalizing back steps with
  | nil =>
    obtain ⟨steps, rfl⟩ := Nat.exists_eq_add_one.mpr enough
    rfl
  | cons node rest ih =>
    obtain ⟨-, forward, later⟩ := segment
    obtain ⟨steps, rfl⟩ := Nat.exists_eq_add_one.mpr (Nat.zero_lt_of_lt enough)
    rw [linkOf, find, forward]
    by_cases same : table.key node = key
    · rw [if_pos same, List.find?_cons_of_pos (by simpa using same)]
    · rw [if_neg same, List.find?_cons_of_neg (by simpa using same)]
      exact ih later (Nat.lt_of_succ_lt_succ enough)

/-- A walk along the chain of a key finds its node, if it may make enough steps. -/
theorem Represents.findIn (represents : table.Represents chained lists)
    (enough : (lists (place key)).length < steps) :
    table.findIn place steps key = some ((lists (place key)).find? (table.key · = key)) := by
  rw [LinkedTable.findIn, represents.linked.first]
  exact find_linkOf (represents.linked.segment _) enough

theorem dlookup_map_entry (list : List α) :
    (list.map table.entry).dlookup key = (list.find? (table.key · = key)).map table.value := by
  induction list with
  | nil => rfl
  | cons node rest ih =>
    by_cases same : table.key node = key
    · subst same
      rw [List.find?_cons_of_pos (by simp)]
      exact List.dlookup_cons_eq ..
    · rw [List.find?_cons_of_neg (by simpa using same), ← ih]
      exact List.dlookup_cons_ne _ (table.entry node) (Ne.symm same)

theorem Represents.search_eq (represents : table.Represents chained lists) :
    chained.search key = ((lists (place key)).find? (table.key · = key)).map table.value := by
  rw [← dlookup_map_entry, ← represents.entries]
  rfl

/-- The search along the links finds what the table has. -/
theorem Represents.search (represents : table.Represents chained lists)
    (enough : (lists (place key)).length < steps) :
    (table.findIn place steps key).map (Option.map table.value) = some (chained.search key) := by
  rw [represents.findIn enough, represents.search_eq, Option.map_some]

omit [DecidableEq κ] in
/-- Nodes without the key carry other keys. -/
theorem notMem_keys_map_entry {list : List α} (others : ∀ node ∈ list, table.key node ≠ key) :
    key ∉ (list.map table.entry).keys := by
  intro listed
  rw [List.keys, List.map_map] at listed
  obtain ⟨node, isNode, same⟩ := List.mem_map.mp listed
  exact others node isNode same

variable [DecidableEq ι]

omit [DecidableEq κ] in
/-- A table with another chain for a key, when the other nodes carry what they did. -/
theorem Represents.setChain (represents : table.Represents chained lists)
    {after : LinkedTable α κ ι ν} {chain : Dict κ ν} (list : List α)
    {belongs : ∀ other ∈ chain, place other = place key}
    (linked : after.links.Linked (update lists (place key) list))
    (here : chain.entries = list.map after.entry)
    (others : ∀ index ≠ place key, ∀ node ∈ lists index, after.entry node = table.entry node) :
    after.Represents (chained.setChain key chain belongs) (update lists (place key) list) := by
  refine ⟨linked, fun index => ?_⟩
  dsimp only [HashTable.setChain]
  by_cases same : index = place key
  · subst same
    rw [update_self, update_self, here]
  · rw [update_of_ne same, update_of_ne same, represents.entries]
    exact List.map_congr_left fun node listed => (others index same node listed).symm

variable [DecidableEq α]

omit [DecidableEq ι] in
theorem kreplace_map_entry {list : List α} {node : α} (distinct : list.Nodup)
    (found : list.find? (table.key · = key) = some node) (value : ν) :
    (list.map table.entry).kreplace key value =
      list.map (entry { table with value := update table.value node value }) := by
  induction list with
  | nil => cases found
  | cons first rest ih =>
    obtain ⟨fresh, distinct⟩ := List.nodup_cons.mp distinct
    rw [List.map_cons, kreplace_cons, List.map_cons]
    by_cases same : table.key first = key
    · rw [List.find?_cons_of_pos (by simpa using same)] at found
      obtain rfl := Option.some.inj found
      rw [if_pos (show key = (table.entry first).1 from same.symm)]
      have here : entry { table with value := update table.value first value } first =
          ⟨key, value⟩ := by simp [entry, same]
      rw [here]
      refine congrArg _ (List.map_congr_left fun other listed => ?_)
      have differs : other ≠ first := fun isFirst => fresh (isFirst ▸ listed)
      simp [entry, differs]
    · rw [List.find?_cons_of_neg (by simpa using same)] at found
      have differs : first ≠ node := by
        rintro rfl
        exact same (by simpa using List.find?_some found)
      rw [if_neg (show key ≠ (table.entry first).1 from Ne.symm same), ih distinct found]
      simp [entry, differs]

/-- An assignment along the links computes the assignment of the table. -/
theorem Represents.put (represents : table.Represents chained lists) (key : κ) (value : ν) {new : α}
    (free : ∀ index, new ∉ lists index) :
    ∃ lists', (table.put place key value new ((lists (place key)).find? (table.key · = key))).Represents
      (chained.assign key value) lists' := by
  rw [HashTable.assign, represents.search_eq]
  cases found : (lists (place key)).find? (table.key · = key) with
  | some node =>
    have listed := List.mem_of_find?_eq_some found
    rw [Option.map_some, Option.isSome_some, if_pos rfl]
    refine ⟨_, represents.setChain (lists (place key)) ?_ ?_ ?_⟩
    · rw [update_eq_self]
      exact represents.linked
    · exact (congrArg _ (represents.entries _)).trans
        (kreplace_map_entry (represents.linked.distinct _) found value)
    · intro index differs other isListed
      have isOther : other ≠ node := by
        rintro rfl
        exact differs (represents.linked.apart _ _ _ isListed listed)
      simp [LinkedTable.put, entry, isOther]
  | none =>
    have absent := notMem_keys_map_entry fun node listed => by
      simpa using List.find?_eq_none.mp found node listed
    have kept (index node) (listed : node ∈ lists index) :
        (table.put place key value new none).entry node = table.entry node := by
      have differs : node ≠ new := fun isNew => free index (isNew ▸ listed)
      simp [LinkedTable.put, entry, differs]
    rw [Option.map_none, Option.isSome_none, if_neg Bool.false_ne_true]
    refine ⟨_, represents.setChain _ (represents.linked.headAdd free (place key)) ?_
      fun index _ => kept index⟩
    change _ :: List.kerase key (chained.chains (place key)).entries = _
    rw [represents.entries, List.kerase_of_notMem_keys absent, List.map_cons,
      List.map_congr_left fun node => kept (place key) node]
    simp [LinkedTable.put, entry]

/-- The removal of the node of a key computes the deletion of the table. -/
theorem Represents.drop (represents : table.Represents chained lists) (key : κ) (asks : ν → Bool) :
    ∃ lists', (table.drop asks ((lists (place key)).find? (table.key · = key))).Represents
      (if (chained.search key).any asks then chained.delete key else chained) lists' := by
  rw [represents.search_eq]
  cases found : (lists (place key)).find? (table.key · = key) with
  | none => exact ⟨lists, represents⟩
  | some node =>
    rw [Option.map_some, Option.any_some, LinkedTable.drop]
    split
    · obtain ⟨isKey, before, behind, split, others⟩ := List.find?_eq_some_iff_append.mp found
      refine ⟨_, represents.setChain _ (represents.linked.nodeRemove split) ?_ fun _ _ _ _ => rfl⟩
      have absent : key ∉ (before.map table.entry).keys :=
        notMem_keys_map_entry fun node listed => by simpa using others node listed
      have isFirst : key = (table.entry node).1 := (of_decide_eq_true isKey).symm
      change List.kerase key (chained.chains (place key)).entries = (before ++ behind).map table.entry
      rw [represents.entries, split, List.map_append, List.map_cons,
        List.kerase_append_right absent, List.kerase_cons_eq isFirst, List.map_append]
    · exact ⟨lists, represents⟩

end LinkedTable

end OpenDove
