/-!
# Output reports

The report interface of the device moves eight bytes at a time. A longer byte string goes out as a
sequence of reports, each with an identifier byte in front and zeros behind what it carries.
-/

namespace InverterLink.Report

/-- The number of data bytes of a report. -/
def capacity : Nat := 8

/-- The identifier byte of every report. -/
def identifier : UInt8 := 0

/-- The report that carries as much of the data as fits. -/
def ofData (data : List UInt8) : List UInt8 :=
  identifier :: List.rightpad capacity 0 (data.take capacity)

/-- How many bytes of the data its report carries. -/
def carried (data : List UInt8) : Nat :=
  min data.length capacity

/-- The reports that carry the whole byte string, in order. -/
def sequence (data : List UInt8) : List (List UInt8) :=
  if _h : data = [] then
    []
  else
    ofData data :: sequence (data.drop (carried data))
termination_by data.length
decreasing_by
  have := List.length_pos_iff.mpr _h
  simp only [List.length_drop, carried, capacity]
  omega

/-- The reports that go out until the interface has taken all of the data, each with how many bytes
of it are taken. There is one report at least. -/
def writeAll (data : List UInt8) : List (List UInt8 × Nat) :=
  if _h : data.length ≤ carried data then
    [(ofData data, carried data)]
  else
    (ofData data, carried data) :: writeAll (data.drop (carried data))
termination_by data.length
decreasing_by
  simp only [List.length_drop, carried, capacity] at _h ⊢
  omega

end InverterLink.Report
