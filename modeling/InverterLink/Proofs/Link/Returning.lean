import InverterLink.Proofs.Link.Clock
import InverterLink.Proofs.Link.Receiving

/-!
# Exchanges that return

A link with a limit never waits forever. Each read takes a byte of the answer or a moment of what is
left of the budget, so what both amount to goes down from read to read, and the steps that a reading
is given are enough.

## Main statements

* `Reading.exists_advance`: a reading with a limit is over after as many steps as it has left.
* `Link.exists_execute`: a command that is executed with a limit comes back.
-/

namespace InverterLink

namespace Reading

variable {capacity : Nat} {r next : Reading}

/-- What a reading has left: bytes of the answer, and moments of the budget. -/
def remaining (r : Reading) : Nat :=
  r.link.device.pending.length + r.link.timeLeft?.getD 0

theorem timeLeft?_of_limit {link : Link} (hlimit : link.timeout ≠ 0) :
    link.timeLeft? = some (link.timeout * millisecond - (link.now - link.started)) :=
  if_neg hlimit

/-- A read that finds nothing takes a moment of the budget, unless it is spent. -/
theorem remaining_lt_of_idle (hlimit : r.link.timeout ≠ 0) (horder : r.link.started ≤ r.link.now)
    (hlive : (r.link.wait r.link.idleTime).isExpired = false) (collected : List UInt8) :
    remaining ⟨collected, r.link.wait r.link.idleTime⟩ < r.remaining := by
  have hleft := timeLeft?_of_limit hlimit
  have hidle : r.link.idleTime =
      min (r.link.timeout * millisecond - (r.link.now - r.link.started)) (10 * millisecond) := by
    rw [Link.idleTime, hleft]
  have hafter : (r.link.wait r.link.idleTime).timeLeft? =
      some (r.link.timeout * millisecond - (r.link.now + r.link.idleTime - r.link.started)) :=
    timeLeft?_of_limit hlimit
  rw [Link.isExpired, hafter, decide_eq_false_iff_not, Option.some_inj] at hlive
  have hmillisecond : millisecond = 1000 := rfl
  rw [remaining, remaining, hafter, hleft]
  dsimp only [Option.getD_some, Link.wait]
  omega

/-- A read that finds bytes takes one of them at least. -/
theorem remaining_lt_of_pending (hroom : r.collected.length < capacity)
    (hpending : r.link.device.pending ≠ []) (collected : List UInt8) :
    remaining ⟨collected, r.link.afterRead (capacity - r.collected.length)⟩ < r.remaining := by
  have hpositive := List.length_pos_iff.mpr hpending
  rw [remaining, remaining]
  dsimp only [Link.afterRead]
  refine Nat.add_lt_add_right ?_ _
  rw [List.length_drop]
  omega

/-- **A step that does not finish a reading with a limit uses something up.** -/
theorem remaining_lt_of_step (hlimit : r.link.timeout ≠ 0) (horder : r.link.started ≤ r.link.now)
    (h : r.step capacity = .pending next) :
    next.remaining < r.remaining ∧ next.link.timeout ≠ 0 ∧ next.link.started ≤ next.link.now := by
  rw [step] at h
  split_ifs at h with hfull
  by_cases hpending : r.link.device.pending = []
  · rw [Link.fetch, if_pos hpending] at h
    dsimp only at h
    split_ifs at h with hterminator hspent
    cases h
    exact ⟨remaining_lt_of_idle hlimit horder (Bool.eq_false_iff.mpr hspent) _, hlimit,
      Nat.le_add_right_of_le horder⟩
  · rw [Link.fetch_of_pending hpending] at h
    dsimp only at h
    split_ifs at h
    cases h
    exact ⟨remaining_lt_of_pending (Nat.lt_of_not_le hfull) hpending _, hlimit, horder⟩

/-- **A reading with a limit comes to an end.** -/
theorem exists_advance {count : Nat} (hlimit : r.link.timeout ≠ 0)
    (horder : r.link.started ≤ r.link.now) (hcount : r.remaining < count) :
    ∃ result after, r.advance capacity count = some (result, after) := by
  induction count generalizing r with
  | zero => exact absurd hcount (Nat.not_lt_zero _)
  | succ count ih =>
    cases hstep : r.step capacity with
    | finished result after => exact ⟨result, after, advance_of_finished hstep⟩
    | pending next =>
      obtain ⟨hless, hlimit', horder'⟩ := remaining_lt_of_step hlimit horder hstep
      rw [advance_of_pending hstep]
      exact ih hlimit' horder' (by omega)

end Reading

namespace Link

variable (link : Link)

theorem exists_receive (hlimit : link.timeout ≠ 0) (horder : link.started ≤ link.now)
    (capacity : Nat) : ∃ result after, link.receive capacity = some (result, after) := by
  have hcount : Reading.remaining ⟨[], link⟩ < Reading.bound ⟨[], link⟩ :=
    Nat.lt_add_of_pos_right (by decide)
  obtain ⟨result, after, hadvance⟩ : ∃ result after, link.collect capacity = some (result, after) :=
    Reading.exists_advance (r := ⟨[], link⟩) hlimit horder hcount
  rw [receive, hadvance]
  exact ⟨_, _, rfl⟩

theorem exists_run (hlimit : link.timeout ≠ 0) (payload : List UInt8) (capacity : Nat) :
    ∃ result after, link.run payload capacity = some (result, after) := by
  obtain ⟨device, log, hsend⟩ := exists_send_eq link.restart payload
  rw [run]
  generalize link.restart.send payload = sending at hsend
  obtain ⟨outcome, sent⟩ := sending
  obtain rfl : sent = { link.restart with device, log } := hsend
  cases outcome with
  | error e => exact ⟨_, _, rfl⟩
  | ok =>
    dsimp only
    split_ifs
    · exact ⟨_, _, rfl⟩
    · exact exists_receive { link.restart with device, log } hlimit (Nat.le_refl _) capacity

/-- **A command comes back** over a link with a limit, whatever the device does. -/
theorem exists_execute (hlimit : link.timeout ≠ 0) (command : Command) (args : List String) :
    ∃ outcome after, link.execute command args = some (outcome, after) := by
  rw [execute]
  cases hframe : command.frame args with
  | error e => exact ⟨_, _, rfl⟩
  | ok frame =>
    obtain ⟨result, after, hrun⟩ := exists_run (link.note _ _) hlimit (Utf8.encode frame)
      answerCapacity
    dsimp only
    rw [hrun]
    cases result with
    | error e => exact ⟨_, _, rfl⟩
    | ok answer => exact ⟨_, _, rfl⟩

end Link

end InverterLink
