import InverterLink.Proofs.Blocks
import InverterLink.Report
import Mathlib.Logic.Function.Iterate

/-!
# Reports lose nothing

Each report takes as much as fits away from the front of what is left of a byte string. So the
reports carry its blocks, one after the other, and each block can be read off its report: behind the
identifier, as many bytes as were taken. Only the last one may have to be filled up with zeros.

## Main definitions

* `Report.unsent`: what is left behind so many reports.
* `Report.content`: the bytes of a report that were taken from the data.

## Main statements

* `Report.sequence_lossless`: what the reports of a byte string look like, and that they hold all of
  it.
-/

namespace InverterLink.Report

/-- What is left of a byte string behind so many reports, each of which takes away what it
carries. -/
def unsent (data : List UInt8) (count : Nat) : List UInt8 :=
  (fun rest => rest.drop (carried rest))^[count] data

/-- So many bytes of a report behind its identifier. -/
def content (report : List UInt8) (size : Nat) : List UInt8 :=
  (report.drop 1).take size

theorem capacity_pos : 0 < capacity := by decide

/-! ### One report -/

theorem drop_carried (data : List UInt8) : data.drop (carried data) = data.drop capacity := by
  rcases Nat.le_total data.length capacity with hle | hge
  · rw [carried, Nat.min_eq_left hle, List.drop_length, List.drop_eq_nil_of_le hle]
  · rw [carried, Nat.min_eq_right hge]

theorem length_take_capacity (data : List UInt8) : (data.take capacity).length = carried data := by
  rw [List.length_take, carried, Nat.min_comm]

/-- A report is the identifier, what it carries, and zeros. -/
theorem ofData_eq (data : List UInt8) :
    ofData data = identifier :: (data.take capacity ++
      List.replicate (capacity - carried data) 0) := by
  rw [ofData, List.rightpad, length_take_capacity]

theorem length_ofData (data : List UInt8) : (ofData data).length = capacity + 1 := by
  rw [ofData, List.length_cons, List.length_rightpad, List.length_take,
    Nat.max_eq_left (Nat.min_le_left _ _)]

/-- What a report carries can be read off it. -/
theorem content_ofData (data : List UInt8) :
    content (ofData data) (carried data) = data.take capacity := by
  rw [content, ofData_eq, List.drop_one, List.tail_cons,
    List.take_left' (length_take_capacity data)]

/-- Nothing but zeros stands behind what a report carries. -/
theorem eq_zero_of_mem_drop_ofData {data : List UInt8} {byte : UInt8}
    (h : byte ∈ (ofData data).drop (carried data + 1)) : byte = 0 := by
  rw [ofData_eq, List.drop_succ_cons, List.drop_left' (length_take_capacity data)] at h
  exact List.eq_of_mem_replicate h

/-! ### All reports -/

theorem unsent_eq_drop (data : List UInt8) (count : Nat) :
    unsent data count = data.drop (capacity * count) := by
  induction count generalizing data with
  | zero => rfl
  | succ count ih =>
    rw [unsent, Function.iterate_succ_apply, ← unsent, ih, drop_carried, List.drop_drop,
      Nat.mul_succ, Nat.add_comm]

/-- A byte string is used up by as many reports as it has blocks. -/
theorem unsent_eq_nil_iff {data : List UInt8} {count : Nat} :
    unsent data count = [] ↔ data.length ⌈/⌉ capacity ≤ count := by
  rw [unsent_eq_drop, List.drop_eq_nil_iff, ceilDiv_le_iff_le_mul capacity_pos]

/-- Before the last report, there is enough left to fill one. -/
theorem carried_unsent_of_lt {data : List UInt8} {count : Nat}
    (h : count + 1 < data.length ⌈/⌉ capacity) : carried (unsent data count) = capacity := by
  have hlong : capacity * (count + 1) < data.length := by
    rw [← Nat.not_le, ← ceilDiv_le_iff_le_mul capacity_pos, Nat.not_le]
    exact h
  rw [unsent_eq_drop, carried, List.length_drop, Nat.min_eq_right]
  rw [Nat.mul_succ] at hlong
  omega

/-- What is done with what is left each time is done with all of the data first. -/
theorem map_unsent {β : Type} (f : List UInt8 → β) {data : List UInt8} (h : data ≠ []) :
    (List.range (data.length ⌈/⌉ capacity)).map (fun k => f (unsent data k)) =
      f data :: (List.range ((data.drop (carried data)).length ⌈/⌉ capacity)).map fun k =>
        f (unsent (data.drop (carried data)) k) := by
  rw [ceilDiv_of_pos capacity_pos (List.length_pos_iff.mpr h), List.range_succ_eq_map,
    List.map_cons, List.map_map, ← List.length_drop, ← drop_carried]
  rfl

/-- The reports of a byte string are those of what is left of it each time. -/
theorem sequence_eq_map (data : List UInt8) :
    sequence data = (List.range (data.length ⌈/⌉ capacity)).map fun k =>
      ofData (unsent data k) := by
  fun_induction sequence data with
  | case1 => simp
  | case2 data hne ih => rw [ih, map_unsent ofData hne]

/-- Writing takes the same reports, if there is anything to write. -/
theorem writeAll_eq_map {data : List UInt8} (h : data ≠ []) :
    writeAll data = (List.range (data.length ⌈/⌉ capacity)).map fun k =>
      (ofData (unsent data k), carried (unsent data k)) := by
  fun_induction writeAll data with
  | case1 data hall =>
    rw [map_unsent (fun rest => (ofData rest, carried rest)) h, List.drop_eq_nil_of_le hall]
    simp
  | case2 data hpart ih =>
    have hrest : data.drop (carried data) ≠ [] := fun hnil => hpart (List.drop_eq_nil_iff.mp hnil)
    rw [ih hrest, map_unsent (fun rest => (ofData rest, carried rest)) h]

/-- What the reports carry are the blocks of the byte string. -/
theorem map_content_unsent (data : List UInt8) :
    (List.range (data.length ⌈/⌉ capacity)).map (fun k =>
      content (ofData (unsent data k)) (carried (unsent data k))) = blocks capacity data := by
  simp only [content_ofData, unsent_eq_drop, blocks]

/-- **Reports lose nothing.** If reports take away from a byte string what they carry, one after the
other, it is used up behind as many as it has blocks of eight bytes, and those are the reports of
the byte string. Each of them has nine bytes, begins with the identifier zero, and holds zeros
behind what it carries; all but the last one carry eight bytes; and what they carry, read behind the
identifiers, is the byte string. A link that writes until the interface has taken all of the data
sends the same reports, if there is anything to send. -/
theorem sequence_lossless (data : List UInt8) :
    (∀ count, unsent data count = [] ↔ data.length ⌈/⌉ 8 ≤ count) ∧
    sequence data = (List.range (data.length ⌈/⌉ 8)).map (fun k => ofData (unsent data k)) ∧
    (∀ k, (ofData (unsent data k)).length = 9 ∧ (ofData (unsent data k)).head? = some 0 ∧
      (∀ byte ∈ (ofData (unsent data k)).drop (carried (unsent data k) + 1), byte = 0) ∧
      (k + 1 < data.length ⌈/⌉ 8 → carried (unsent data k) = 8)) ∧
    ((List.range (data.length ⌈/⌉ 8)).flatMap fun k =>
      content (ofData (unsent data k)) (carried (unsent data k))) = data ∧
    (data ≠ [] → writeAll data = (List.range (data.length ⌈/⌉ 8)).map fun k =>
      (ofData (unsent data k), carried (unsent data k))) := by
  refine ⟨fun count => unsent_eq_nil_iff, sequence_eq_map data, fun k => ?_, ?_, writeAll_eq_map⟩
  · exact ⟨length_ofData _, rfl, fun byte => eq_zero_of_mem_drop_ofData, carried_unsent_of_lt⟩
  · rw [List.flatMap_def]
    exact (congrArg List.flatten (map_content_unsent data)).trans (flatten_blocks capacity_pos data)

/-- Nine bytes take two reports. -/
example : sequence [1, 2, 3, 4, 5, 6, 7, 8, 9] =
    [[0, 1, 2, 3, 4, 5, 6, 7, 8], [0, 9, 0, 0, 0, 0, 0, 0, 0]] := by
  cbv

end InverterLink.Report
