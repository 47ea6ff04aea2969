import Mathlib.Data.Finmap
import Mathlib.Tactic

/-!
# Finite dictionaries

The tables of the modelled program are dictionaries: one value per key, replaced by
a later store and removed by a deletion. They are Mathlib's association lists, read
here at a constant value type. This module adds the reading forms the proofs use:
what a lookup sees after a store or a deletion, the list of values a loop visits, and
the size of a dictionary.

A loop over a dictionary visits a copy of its values, so a body that changes the
dictionary does not change the list it runs over. The list order stands for the
unspecified iteration order of the program.
-/

namespace OpenDove

/-- Writing one object of a heap keeps an attribute everywhere if it keeps it there. -/
theorem update_keeps {ν α : Type} (read : ν → α) (heap : Nat → ν) {self : Nat} {value : ν}
    (keeps : read value = read (heap self)) (other : Nat) :
    read (Function.update heap self value other) = read (heap other) := by
  by_cases here : other = self
  · rw [here, Function.update_self, keeps]
  · rw [Function.update_of_ne here]

/-- A dictionary from `κ` to `ν`. -/
abbrev Dict (κ ν : Type) := AList fun _ : κ => ν

namespace Dict

variable {κ ν μ : Type} [DecidableEq κ]

/-- The values of a dictionary, in its iteration order. -/
def values (table : Dict κ ν) : List ν :=
  table.entries.map Sigma.snd

/-- The number of keys of a dictionary. -/
def size (table : Dict κ ν) : Nat :=
  table.entries.length

/-- Apply a function to every value and keep the keys. -/
def mapValues (change : ν → μ) (table : Dict κ ν) : Dict κ μ :=
  ⟨table.entries.map fun entry => ⟨entry.1, change entry.2⟩, by
    simpa [List.NodupKeys, List.keys, Function.comp_def] using table.nodupKeys⟩

variable (table : Dict κ ν)

variable (change : ν → μ) (key other : κ) (value : ν)

/-- A store changes exactly the key it names. -/
theorem lookup_insert :
    AList.lookup other (AList.insert key value table) =
      if other = key then some value else AList.lookup other table := by
  by_cases same : other = key
  · subst same
    simp
  · simp [AList.lookup_insert_ne same, same]

/-- A deletion changes exactly the key it names. -/
theorem lookup_erase :
    AList.lookup other (AList.erase key table) =
      if other = key then none else AList.lookup other table := by
  by_cases same : other = key
  · subst same
    simp
  · simp [AList.lookup_erase_ne same, same]

theorem erase_erase_self : AList.erase key (AList.erase key table) = AList.erase key table :=
  AList.ext (List.kerase_of_notMem_keys (List.notMem_keys_kerase key table.nodupKeys))

theorem lookup_of_erase {table : Dict κ ν} {key other : κ} {value : ν}
    (found : AList.lookup other (table.erase key) = some value) :
    AList.lookup other table = some value := by
  rw [lookup_erase] at found
  split at found
  · cases found
  · exact found

/-- A key is present exactly when a lookup finds a value for it. -/
theorem mem_iff_lookup : key ∈ table ↔ ∃ value, AList.lookup key table = some value := by
  rw [← AList.lookup_isSome, Option.isSome_iff_exists]

/-- A value is visited by a loop exactly when some key holds it. -/
theorem mem_values : value ∈ table.values ↔ ∃ key, AList.lookup key table = some value := by
  constructor
  · intro member
    obtain ⟨⟨key, stored⟩, inside, same⟩ := List.mem_map.mp member
    subst same
    exact ⟨key, AList.mem_lookup_iff.mpr inside⟩
  · rintro ⟨key, found⟩
    exact List.mem_map.mpr ⟨⟨key, value⟩, AList.mem_lookup_iff.mp found, rfl⟩

omit [DecidableEq κ] in
@[simp] theorem values_empty : Dict.values (∅ : Dict κ ν) = [] := rfl

omit [DecidableEq κ] in
@[simp] theorem size_empty : Dict.size (∅ : Dict κ ν) = 0 := rfl

omit [DecidableEq κ] in
theorem size_eq_zero {table : Dict κ ν} : table.size = 0 ↔ table = ∅ :=
  ⟨fun none => AList.ext (List.eq_nil_of_length_eq_zero none), fun same => same ▸ rfl⟩

/-- A dictionary is empty when no key is known. -/
theorem eq_empty_iff_lookup {table : Dict κ ν} : table = ∅ ↔ ∀ key, table.lookup key = none := by
  refine ⟨fun same key => same ▸ AList.lookup_empty key, fun unknown => size_eq_zero.mp ?_⟩
  by_contra inhabited
  obtain ⟨entry, listed⟩ := List.exists_mem_of_length_pos (Nat.pos_of_ne_zero inhabited)
  have known : table.lookup entry.1 = some entry.2 := AList.mem_lookup_iff.mpr listed
  exact Option.some_ne_none _ (known.symm.trans (unknown entry.1))

/-- Lookups commute with a change of every value. -/
theorem lookup_mapValues (table : Dict κ ν) (key : κ) :
    AList.lookup key (table.mapValues change) = (AList.lookup key table).map change := by
  simp only [AList.lookup, mapValues]
  generalize table.entries = entries
  induction entries with
  | nil => rfl
  | cons entry rest ih =>
    obtain ⟨other, value⟩ := entry
    by_cases same : other = key
    · subst same
      simp
    · rw [List.map_cons, List.dlookup_cons_ne _ _ (Ne.symm same), ih,
        List.dlookup_cons_ne _ _ (Ne.symm same)]

/-- Changing every value commutes with a deletion. -/
theorem mapValues_erase (table : Dict κ ν) (key : κ) :
    Dict.mapValues change (table.erase key) = (table.mapValues change).erase key := by
  apply AList.ext
  change (table.entries.kerase key).map _ = (table.entries.map _).kerase key
  simp only [List.kerase, List.eraseP_map]
  rfl

/-- Changing every value commutes with a store. -/
theorem mapValues_insert (table : Dict κ ν) (key : κ) (value : ν) :
    Dict.mapValues change (table.insert key value)
      = (table.mapValues change).insert key (change value) := by
  apply AList.ext
  have erased := congrArg AList.entries (mapValues_erase change table key)
  exact congrArg (Sigma.mk key (change value) :: ·) erased

/-- Storing a new key makes the dictionary larger by one. -/
theorem size_insert_of_notMem (fresh : AList.lookup key table = none) :
    Dict.size (AList.insert key value table) = table.size + 1 := by
  rw [size, AList.entries_insert_of_notMem (AList.lookup_eq_none.mp fresh), List.length_cons, size]

/-- Deleting a present key makes the dictionary smaller by one. -/
theorem size_erase_of_mem (found : AList.lookup key table = some value) :
    Dict.size (AList.erase key table) + 1 = table.size := by
  have member : key ∈ table := (mem_iff_lookup table key).mpr ⟨value, found⟩
  have keys : (AList.erase key table).keys.length + 1 = table.keys.length := by
    rw [AList.keys_erase]
    exact List.length_erase_add_one member
  simpa [size, AList.keys, List.keys] using keys

theorem size_erase_le (key : κ) : Dict.size (AList.erase key table) ≤ Dict.size table :=
  (List.kerase_sublist key table.entries).length_le

/-- A loop that stores adds at most one entry for each of its keys. -/
theorem size_foldl_insert_le (value : ν) (keys : List κ) (table : Dict κ ν) :
    Dict.size (keys.foldl (fun table key => AList.insert key value table) table) ≤
      Dict.size table + keys.length := by
  induction keys generalizing table with
  | nil => exact le_rfl
  | cons key keys ih =>
    have first : Dict.size (AList.insert key value table) ≤ Dict.size table + 1 :=
      Nat.succ_le_succ (table.size_erase_le key)
    have rest := ih (AList.insert key value table)
    simp only [List.foldl_cons, List.length_cons]
    omega

/-- A loop that stores a value for each of its keys for which something is found. -/
theorem lookup_foldl_tabulate {α : Type} (find : κ → Option α) (value : κ → α → ν) (keys : List κ)
    (table : Dict κ ν) (other : κ) :
    (keys.foldl (fun (table : Dict κ ν) key =>
        (find key).elim table fun found => table.insert key (value key found)) table).lookup other =
      if other ∈ keys then ((find other).map (value other)).or (table.lookup other)
      else table.lookup other := by
  induction keys generalizing table with
  | nil => simp
  | cons key keys ih =>
    rw [List.foldl_cons, ih]
    by_cases same : other = key
    · subst same
      cases find other <;> simp
    · cases find key <;> simp [same]

section KeyLoops

variable {σ : Type} (table : σ → Dict κ ν) {body : σ → κ → σ} {change : ν → Option ν}

variable (isLocal : ∀ s key other, (table (body s key)).lookup other =
  if other = key then ((table s).lookup other).bind change else (table s).lookup other)

include isLocal

/-- A loop over distinct keys, each round of which reads and writes only its own key, changes the
value of each of them once. -/
theorem lookup_foldl_local
    (keys : List κ) (distinct : keys.Nodup) (s : σ) (other : κ) :
    (table (keys.foldl body s)).lookup other =
      if other ∈ keys then ((table s).lookup other).bind change else (table s).lookup other := by
  induction keys generalizing s with
  | nil => simp
  | cons key keys ih =>
    obtain ⟨absent, distinct⟩ := List.nodup_cons.mp distinct
    rw [List.foldl_cons, ih distinct, isLocal]
    by_cases same : other = key
    · subst same
      simp [absent]
    · simp [same]

/-- Such a loop over the keys that the dictionary had at its start changes every value once. -/
theorem lookup_foldl_keys
    (s : σ) (other : κ) :
    (table ((table s).keys.foldl body s)).lookup other = ((table s).lookup other).bind change := by
  rw [lookup_foldl_local table isLocal _ (table s).keys_nodup]
  split
  · rfl
  next absent =>
    have unknown : (table s).lookup other = none := AList.lookup_eq_none.mpr absent
    simp [unknown]

end KeyLoops

/-- Delete every listed key. -/
def eraseAll (table : Dict κ ν) (keys : List κ) : Dict κ ν :=
  keys.foldl (fun table key => AList.erase key table) table

/-- A deletion of several keys changes exactly those. -/
theorem lookup_eraseAll (table : Dict κ ν) (keys : List κ) (other : κ) :
    AList.lookup other (table.eraseAll keys) =
      if other ∈ keys then none else AList.lookup other table := by
  unfold eraseAll
  induction keys generalizing table with
  | nil => simp
  | cons key keys ih =>
    rw [List.foldl_cons, ih, lookup_erase]
    by_cases same : other = key <;> by_cases member : other ∈ keys <;> simp [same, member]

theorem lookup_of_eraseAll {table : Dict κ ν} {keys : List κ} {other : κ} {value : ν}
    (found : AList.lookup other (table.eraseAll keys) = some value) :
    AList.lookup other table = some value := by
  rw [lookup_eraseAll] at found
  split at found
  · cases found
  · exact found

/-- A store of one value under several keys changes exactly those. -/
theorem lookup_foldl_insert (keys : List κ) (value : ν) (table : Dict κ ν) (other : κ) :
    AList.lookup other (keys.foldl (fun table key => AList.insert key value table) table) =
      if other ∈ keys then some value else AList.lookup other table := by
  induction keys generalizing table with
  | nil => simp
  | cons key keys ih =>
    rw [List.foldl_cons, ih, lookup_insert]
    by_cases same : other = key <;> by_cases member : other ∈ keys <;> simp [same, member]

/-- A loop that stores some of its items leaves the table empty only if it stores none. -/
theorem values_foldl_eq_nil {α : Type} (skips : α → Bool) (key : α → κ) (value : α → ν)
    (items : List α) (table : Dict κ ν) :
    Dict.values (items.foldl (fun table item =>
      if skips item then table else AList.insert (key item) (value item) table) table) = [] ↔
      table.values = [] ∧ ∀ item ∈ items, skips item := by
  induction items generalizing table with
  | nil => simp
  | cons item items ih =>
    rw [List.foldl_cons, ih]
    by_cases skip : skips item
    · simp [skip]
    · have stored : Dict.values (AList.insert (key item) (value item) table) ≠ [] := by
        intro empty
        have inside : value item ∈ Dict.values (AList.insert (key item) (value item) table) :=
          (mem_values ..).mpr ⟨key item, AList.lookup_insert _⟩
        rw [empty] at inside
        cases inside
      simp [skip, stored]

/-- Delete every key whose value satisfies a condition. -/
def purge (table : Dict κ ν) (condition : ν → Bool) : Dict κ ν :=
  table.eraseAll (table.keys.filter fun key => (AList.lookup key table).any condition)

end Dict

/-- A dictionary of sets. The program removes a key with the last member of its set, so no key
has an empty set. -/
structure SetDict (κ ν : Type) [DecidableEq κ] where
  table : Dict κ (List ν)
  inhabited : ∀ key, AList.lookup key table ≠ some []

namespace SetDict

variable {κ ν : Type} [DecidableEq κ]

/-- A member is in the set of a key. -/
def Has (sets : SetDict κ ν) (key : κ) (member : ν) : Prop :=
  ∃ members, AList.lookup key sets.table = some members ∧ member ∈ members

/-- No keys. -/
def empty : SetDict κ ν := { table := ∅, inhabited := by simp }

/-- Remove a key with its whole set. -/
def erase (sets : SetDict κ ν) (key : κ) : SetDict κ ν where
  table := sets.table.erase key
  inhabited other := by
    rw [Dict.lookup_erase]
    split
    · simp
    · exact sets.inhabited other

/-- The sets of two dictionaries, where the second one decides on common keys. -/
def merge (first second : SetDict κ ν) : SetDict κ ν where
  table := second.table ∪ first.table
  inhabited key := by
    intro found
    rcases AList.mem_lookup_union.mp (Option.mem_def.mpr found) with inSecond | ⟨-, inFirst⟩
    · exact second.inhabited key inSecond
    · exact first.inhabited key inFirst

variable [DecidableEq ν]

instance (sets : SetDict κ ν) (key : κ) (member : ν) : Decidable (sets.Has key member) :=
  decidable_of_iff ((AList.lookup key sets.table).any (member ∈ ·) = true) (by
    simp [Has, Option.any_eq_true])

/-- Add a member to the set of a key, which is created if needed. -/
def add (sets : SetDict κ ν) (key : κ) (member : ν) : SetDict κ ν where
  table := sets.table.insert key (((AList.lookup key sets.table).getD []).insert member)
  inhabited other := by
    rw [Dict.lookup_insert]
    split
    · intro same
      have inside : member ∈ ((AList.lookup key sets.table).getD []).insert member :=
        List.mem_insert_self
      rw [Option.some.inj same] at inside
      exact List.not_mem_nil inside
    · exact sets.inhabited other

/-- Remove a member from the set of a key, and the key with its last member. The flag tells
whether the key was removed. -/
def remove (sets : SetDict κ ν) (key : κ) (member : ν) : SetDict κ ν × Bool :=
  let rest := ((AList.lookup key sets.table).getD []).filter (· ≠ member)
  if sets.Has key member then
    if nonempty : rest ≠ [] then
      ({ table := sets.table.insert key rest
         inhabited := by
          intro other
          rw [Dict.lookup_insert]
          split
          · simpa using nonempty
          · exact sets.inhabited other }, false)
    else (sets.erase key, true)
  else (sets, false)

end SetDict

end OpenDove
