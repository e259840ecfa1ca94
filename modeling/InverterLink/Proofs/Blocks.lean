import Mathlib.Algebra.Order.Floor.Div
import Mathlib.GroupTheory.GroupAction.Ring

/-!
# Blocks of one size

A list is cut into blocks of one size, of which only the last one may be shorter. There are as many
of them as it takes, and one behind the other they are the list.
-/

namespace InverterLink

variable {α : Type} {size : Nat} {xs : List α}

/-- A number that is not zero takes one part more than what is left of it behind the first part. -/
theorem ceilDiv_of_pos {n : Nat} (hsize : 0 < size) (hn : 0 < n) :
    n ⌈/⌉ size = (n - size) ⌈/⌉ size + 1 := by
  rw [Nat.ceilDiv_eq_add_pred_div, Nat.ceilDiv_eq_add_pred_div]
  rcases Nat.le_total n size with hle | hge
  · have hone : (n + size - 1) / size = 1 := Nat.div_eq_of_lt_le (by omega) (by omega)
    rw [hone, Nat.sub_eq_zero_of_le hle, Nat.div_eq_of_lt (by omega)]
  · rw [← Nat.add_div_right _ hsize]
    congr 1
    omega

/-- The blocks of a list. -/
def blocks (size : Nat) (xs : List α) : List (List α) :=
  (List.range (xs.length ⌈/⌉ size)).map fun k => (xs.drop (size * k)).take size

@[simp]
theorem length_blocks : (blocks size xs).length = xs.length ⌈/⌉ size := by
  simp [blocks]

theorem blocks_nil : blocks size ([] : List α) = [] := by
  simp [blocks]

/-- The first block, and those behind it. -/
theorem blocks_of_ne_nil (hsize : 0 < size) (h : xs ≠ []) :
    blocks size xs = xs.take size :: blocks size (xs.drop size) := by
  rw [blocks, ceilDiv_of_pos hsize (List.length_pos_iff.mpr h), List.range_succ_eq_map,
    List.map_cons, List.map_map, blocks, List.length_drop, Nat.mul_zero, List.drop_zero]
  congr 2
  funext k
  simp [Nat.mul_succ, Nat.add_comm]

/-- Each block begins where so many full ones end. -/
theorem of_getElem?_blocks (hsize : 0 < size) {k : Nat} {block : List α}
    (h : (blocks size xs)[k]? = some block) :
    size * k < xs.length ∧ block = (xs.drop (size * k)).take size := by
  obtain ⟨hk, hblock⟩ := List.getElem?_eq_some_iff.mp h
  rw [length_blocks, ← Nat.not_le, ceilDiv_le_iff_le_mul hsize, Nat.not_le] at hk
  refine ⟨hk, ?_⟩
  simpa [blocks] using hblock.symm

/-- **Blocks are the list again**, one behind the other. -/
theorem flatten_blocks (hsize : 0 < size) (xs : List α) : (blocks size xs).flatten = xs := by
  -- The induction is on what stands behind the first block.
  induction hlength : xs.length using Nat.strongRecOn generalizing xs with
  | _ length ih =>
    by_cases h : xs = []
    · rw [h, blocks_nil, List.flatten_nil]
    · have hshorter : (xs.drop size).length < length := by
        have := List.length_pos_iff.mpr h
        rw [List.length_drop]
        omega
      rw [blocks_of_ne_nil hsize h, List.flatten_cons, ih _ hshorter (xs.drop size) rfl,
        List.take_append_drop]

end InverterLink
