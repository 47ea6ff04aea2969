import Mathlib.Data.Nat.ModEq

/-!
# Ring buffers

A list lies around a ring of cells when its elements are held by consecutive cells from a start on,
counted modulo the number of cells. What it means that a cell holds an element is a parameter, so a
cell may hold more than the element. The two laws say how a list that is not as long as the ring
grows at its end and how it loses its first element.
-/

namespace OpenDove

/-- The elements are held by consecutive cells of a ring from a start on. -/
def Around {α : Type} (holds : Nat → α → Prop) (capacity start : Nat) (content : List α) : Prop :=
  ∀ offset element, content[offset]? = some element → holds ((start + offset) % capacity) element

namespace Around

variable {α : Type} {holds holds' : Nat → α → Prop} {capacity start : Nat} {content : List α}

theorem nil : Around holds capacity start [] := by
  intro offset element found
  cases found

/-- Different offsets below the capacity lead to different cells. -/
theorem cell_ne (start : Nat) {first second : Nat} (order : first < second)
    (bound : second < capacity) : (start + first) % capacity ≠ (start + second) % capacity := by
  intro same
  have congruent : first % capacity = second % capacity := Nat.ModEq.add_left_cancel' start same
  rw [Nat.mod_eq_of_lt (order.trans bound), Nat.mod_eq_of_lt bound] at congruent
  exact absurd congruent (ne_of_lt order)

/-- An element is added behind the list when its cell comes to hold it and the other cells keep
what they hold. -/
theorem push (around : Around holds capacity start content) (room : content.length < capacity)
    {new : α} (written : holds' ((start + content.length) % capacity) new)
    (kept : ∀ index element, index < capacity → index ≠ (start + content.length) % capacity →
      holds index element → holds' index element) :
    Around holds' capacity start (content ++ [new]) := by
  intro offset element found
  by_cases old : offset < content.length
  · rw [List.getElem?_append_left old] at found
    exact kept _ element (Nat.mod_lt _ (Nat.zero_lt_of_lt room)) (cell_ne start old room)
      (around offset element found)
  · rw [List.getElem?_append_right (not_lt.mp old)] at found
    obtain ⟨last, same⟩ := List.getElem?_eq_some_iff.mp found
    have place : offset = content.length := by
      simp only [List.length_cons, List.length_nil] at last
      omega
    subst place
    have first : new = element := by simpa using found
    exact first ▸ written

/-- The first element is held by the cell at the start. -/
theorem head {first : α} (around : Around holds capacity start (first :: content))
    (bound : start < capacity) : holds start first := by
  have held := around 0 first rfl
  rwa [Nat.add_zero, Nat.mod_eq_of_lt bound] at held

/-- The rest of the list lies around the ring from the next cell on. -/
theorem tail {first : α} (around : Around holds capacity start (first :: content)) :
    Around holds capacity ((start + 1) % capacity) content := by
  intro offset element found
  have held := around (offset + 1) element found
  rwa [Nat.mod_add_mod, Nat.add_assoc, Nat.add_comm 1 offset]

end Around

end OpenDove
