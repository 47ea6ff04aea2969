import OpenDove.Dictionary
import Mathlib.Algebra.Order.BigOperators.Group.List

/-!
# Totals over a dictionary

A running total that a program keeps beside a dictionary is compared here with the sum of a weight
over the stored values. The weights are taken in any commutative monoid, so that the same laws
serve sizes, numbers of waiters and multiplicities.
-/

namespace OpenDove

namespace Dict

variable {κ ν μ M : Type} [AddCommMonoid M]

/-- The sum of a weight over the values of a dictionary. -/
def total (weight : ν → M) (table : Dict κ ν) : M :=
  (table.values.map weight).sum

/-- Changing every value changes its weight and nothing else. -/
@[simp] theorem total_mapValues (weight : μ → M) (change : ν → μ) (table : Dict κ ν) :
    total weight (table.mapValues change) = total (weight ∘ change) table := by
  simp [total, values, mapValues, Function.comp_def]

/-- Totals of two weights add up to the total of their sum. -/
theorem total_add (first second : ν → M) (table : Dict κ ν) :
    total (fun value => first value + second value) table
      = total first table + total second table :=
  List.sum_map_add

/-- Weights that are not negative have a total that is not negative. -/
theorem total_nonneg {weight : ν → Int} (nonneg : ∀ value, 0 ≤ weight value) (table : Dict κ ν) :
    0 ≤ total weight table :=
  List.sum_nonneg fun size listed => by
    obtain ⟨value, -, rfl⟩ := List.mem_map.mp listed
    exact nonneg value

/-- The number of values that meet a condition is a total. -/
theorem length_filter_values (condition : ν → Bool) (table : Dict κ ν) :
    (((table.values.filter condition).length : Nat) : Int)
      = total (fun value => if condition value then 1 else 0) table := by
  unfold total
  induction table.values with
  | nil => rfl
  | cons value values ih =>
    by_cases met : condition value
    · simp [met, ← ih, add_comm]
    · simp [met, ← ih]

variable [DecidableEq κ]

variable (weight : ν → M)

/-- A store replaces what its key held before. -/
theorem total_insert (table : Dict κ ν) (key : κ) (value : ν) :
    total weight (table.insert key value) = weight value + total weight (table.erase key) := by
  simp [total, values, AList.insert, AList.erase, List.kinsert]

variable {key : κ} {table : Dict κ ν}

/-- A deletion takes the weight of the deleted value out of the total. -/
theorem total_erase {value : ν} (known : table.lookup key = some value) :
    weight value + total weight (table.erase key) = total weight table := by
  have listed : key ∈ table.entries.keys :=
    AList.lookup_isSome.mp (by rw [known]; rfl)
  obtain ⟨found, before, after, -, split, erased⟩ := List.exists_of_kerase listed
  have same : found = value := by
    have stored : found ∈ table.lookup key := AList.mem_lookup_iff.mpr (by simp [split])
    exact Option.some.inj (stored.symm.trans known)
  subst same
  have remaining : (table.erase key).entries = before ++ after := erased
  unfold total values
  rw [remaining, split]
  simp [add_left_comm]

/-- Deleting an unknown key does nothing. -/
theorem total_erase_of_lookup_eq_none (unknown : table.lookup key = none) :
    total weight (table.erase key) = total weight table := by
  have absent : key ∉ table.entries.keys := AList.lookup_eq_none.mp unknown
  simp only [total, values, AList.erase, List.kerase_of_notMem_keys absent]

/-- The total is what one key holds and the total of the rest. -/
theorem total_eq_add_erase (table : Dict κ ν) (key : κ) :
    total weight table
      = ((table.lookup key).map weight).getD 0 + total weight (table.erase key) := by
  cases known : table.lookup key with
  | none => simp [total_erase_of_lookup_eq_none weight known]
  | some value => simp [total_erase weight known]

/-- A store under a new key adds its weight. -/
theorem total_insert_of_lookup_eq_none (unknown : table.lookup key = none) (value : ν) :
    total weight (table.insert key value) = weight value + total weight table := by
  rw [total_insert, total_erase_of_lookup_eq_none weight unknown]

end Dict

end OpenDove
