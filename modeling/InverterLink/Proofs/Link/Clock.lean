import InverterLink.Link
import Mathlib.Tactic.SplitIfs

/-!
# The clock of a link

Writing takes no time, and reading takes some only while nothing is pending, so the clock of a link
never goes back over an exchange, whatever becomes of it. The limit of the budget stays what it is.

## Main definitions

* `Link.Precedes`: what holds between a link before and after an exchange.

## Main statements

* `Link.precedes_of_execute`: a link precedes what the execution of a command leaves of it.
-/

namespace InverterLink

namespace Link

/-- What holds between a link and what an exchange leaves of it. -/
structure Precedes (link after : Link) : Prop where
  now_le : link.now ≤ after.now
  timeout_eq : after.timeout = link.timeout

namespace Precedes

variable {link between after : Link}

theorem refl : link.Precedes link :=
  ⟨Nat.le_refl _, rfl⟩

theorem trans (h : link.Precedes between) (h' : between.Precedes after) : link.Precedes after :=
  ⟨Nat.le_trans h.now_le h'.now_le, h'.timeout_eq.trans h.timeout_eq⟩

end Precedes

/-! ### Sending -/

/-- Writing changes the device and the log alone. -/
theorem exists_writeAll_eq (data : List UInt8) (link : Link) :
    ∃ device log, (link.writeAll data).2 = { link with device, log } := by
  fun_induction writeAll link data with
  | case1 => exact ⟨_, _, rfl⟩
  | case2 => exact ⟨_, _, rfl⟩
  | case3 link data hall hlive ih =>
    obtain ⟨device, log, h⟩ := ih
    exact ⟨device, log, h⟩

/-- Sending changes the device and the log alone. -/
theorem exists_send_eq (link : Link) (payload : List UInt8) :
    ∃ device log, (link.send payload).2 = { link with device, log } :=
  exists_writeAll_eq _ (link.note _ _)

/-! ### Receiving -/

theorem precedes_fetch (link : Link) (size : Nat) : link.Precedes (link.fetch size).2 := by
  rw [fetch]
  split_ifs with hpending
  · exact ⟨Nat.le_add_right _ _, rfl⟩
  · exact ⟨Nat.le_refl _, rfl⟩

end Link

namespace Reading

/-- The link that a step leaves behind. -/
def Progress.link : Progress → Link
  | .pending next => next.link
  | .finished _ link => link

theorem precedes_step (r : Reading) (capacity : Nat) :
    r.link.Precedes (r.step capacity).link := by
  have hfetch := r.link.precedes_fetch (capacity - r.collected.length)
  rw [step]
  generalize r.link.fetch (capacity - r.collected.length) = fetched at hfetch ⊢
  obtain ⟨bytes, link⟩ := fetched
  dsimp only at hfetch ⊢
  split_ifs
  · exact .refl
  · exact hfetch
  · exact hfetch
  · exact hfetch

theorem precedes_of_advance {capacity count : Nat} {r : Reading}
    {result : Except Error (List UInt8)} {after : Link}
    (h : r.advance capacity count = some (result, after)) : r.link.Precedes after := by
  induction count generalizing r with
  | zero => cases h
  | succ count ih =>
    have hstep := r.precedes_step capacity
    rw [advance] at h
    cases hprogress : r.step capacity with
    | finished stopped link =>
      rw [hprogress] at h hstep
      cases h
      exact hstep
    | pending next =>
      rw [hprogress] at h hstep
      exact hstep.trans (ih h)

end Reading

namespace Link

theorem precedes_of_receive {link after : Link} {capacity : Nat}
    {result : Except Error (List UInt8)} (h : link.receive capacity = some (result, after)) :
    link.Precedes after := by
  rw [receive, Option.map_eq_some_iff] at h
  obtain ⟨⟨collected, stopped⟩, hcollect, h⟩ := h
  have hstopped : link.Precedes stopped := Reading.precedes_of_advance hcollect
  cases collected with
  | error e =>
    cases h
    exact hstopped
  | ok body =>
    cases h
    exact ⟨hstopped.now_le, hstopped.timeout_eq⟩

/-! ### Exchanges -/

theorem precedes_of_run {link after : Link} {payload : List UInt8} {capacity : Nat}
    {result : Except Error (List UInt8)} (h : link.run payload capacity = some (result, after)) :
    link.Precedes after := by
  obtain ⟨device, log, hframe⟩ := exists_send_eq link.restart payload
  have hsend : link.Precedes (link.restart.send payload).2 := by
    rw [hframe]
    exact ⟨Nat.le_refl _, rfl⟩
  rw [run] at h
  -- all that matters about the first half is that it takes no time
  generalize link.restart.send payload = sending at h hsend
  obtain ⟨outcome, sent⟩ := sending
  cases outcome with
  | error e =>
    cases h
    exact hsend
  | ok =>
    dsimp only at h
    split_ifs at h with hspent
    · cases h
      exact hsend
    · exact hsend.trans (precedes_of_receive h)

/-- **An exchange goes on where a link stands**, whatever becomes of the command. -/
theorem precedes_of_execute {link after : Link} {command : Command} {args : List String}
    {outcome : Except Error Response} (h : link.execute command args = some (outcome, after)) :
    link.Precedes after := by
  rw [execute] at h
  cases hframe : command.frame args with
  | error e =>
    rw [hframe] at h
    cases h
    exact .refl
  | ok frame =>
    rw [hframe, Option.map_eq_some_iff] at h
    obtain ⟨⟨result, stopped⟩, hrun, h⟩ := h
    have hstopped := precedes_of_run hrun
    cases result with
    | error e =>
      cases h
      exact ⟨hstopped.now_le, hstopped.timeout_eq⟩
    | ok answer =>
      cases h
      exact ⟨hstopped.now_le, hstopped.timeout_eq⟩

/-- **The clock never goes back** while a command is executed. -/
theorem now_le_of_execute {link after : Link} {command : Command} {args : List String}
    {outcome : Except Error Response} (h : link.execute command args = some (outcome, after)) :
    link.now ≤ after.now :=
  (precedes_of_execute h).now_le

end Link

end InverterLink
