import InverterLink.Proofs.Link.Answering
import InverterLink.Proofs.Link.Traffic

/-!
# Exchanges do not depend on the ones before

An exchange may end early and leave things behind: bytes that there was no room for, bytes behind a
terminator, half of an answer, a spent budget. None of this reaches the next exchange. The device
waits for a frame from its start, its next answer replaces whatever was still pending, and the
budget counts anew, so that all that an exchange can tell about the ones before is how many answers
they have used up.

The comparison is of two links that differ in the time at which they stand. Receiving looks at the
time only to see how much of the budget is spent, so links that have spent as much of it run side by
side.

## Main definitions

* `Link.Alike`: two links that receive the same.
* `Link.Exchanges`: what a number of exchanges makes of a link.
* `Link.renewed`: a link that has not exchanged anything yet.

## Main statements

* `Link.result_run_congr`: what an exchange with a device that waits for a frame depends on.
* `Link.result_run_eq_renewed`: after any exchanges, the next one ends in what it ends in on a new
  link.
-/

namespace InverterLink

namespace Link

/-! ### Links that receive the same -/

/-- Two links that receive the same: they have the same bytes to read, and have spent as much of the
same budget. -/
structure Alike (link other : Link) : Prop where
  flags_eq : link.flags = other.flags
  timeout_eq : link.timeout = other.timeout
  pending_eq : link.device.pending = other.device.pending
  elapsed_eq : link.elapsed = other.elapsed
  started_le : link.started ≤ link.now
  started_le_other : other.started ≤ other.now

namespace Alike

variable {link other : Link}

theorem timeLeft?_eq (h : link.Alike other) : link.timeLeft? = other.timeLeft? := by
  rw [timeLeft?, timeLeft?, h.timeout_eq, h.elapsed_eq]

theorem isExpired_eq (h : link.Alike other) : link.isExpired = other.isExpired := by
  rw [isExpired, isExpired, h.timeLeft?_eq]

theorem elapsedMilliseconds_eq (h : link.Alike other) :
    link.elapsedMilliseconds = other.elapsedMilliseconds := by
  rw [elapsedMilliseconds, elapsedMilliseconds, h.elapsed_eq]

theorem idleTime_eq (h : link.Alike other) : link.idleTime = other.idleTime := by
  rw [idleTime, idleTime, h.timeLeft?_eq]

theorem wait (h : link.Alike other) (time : Nat) : (link.wait time).Alike (other.wait time) where
  flags_eq := h.flags_eq
  timeout_eq := h.timeout_eq
  pending_eq := h.pending_eq
  elapsed_eq := by
    have helapsed : link.now - link.started = other.now - other.started := h.elapsed_eq
    have horder := h.started_le
    have horder' := h.started_le_other
    rw [elapsed, elapsed]
    dsimp only [Link.wait]
    omega
  started_le := Nat.le_add_right_of_le h.started_le
  started_le_other := Nat.le_add_right_of_le h.started_le_other

theorem afterRead (h : link.Alike other) (size : Nat) :
    (link.afterRead size).Alike (other.afterRead size) where
  flags_eq := h.flags_eq
  timeout_eq := h.timeout_eq
  pending_eq := congrArg (List.drop size) h.pending_eq
  elapsed_eq := h.elapsed_eq
  started_le := h.started_le
  started_le_other := h.started_le_other

/-- Links that receive the same read the same bytes, and do so afterwards. -/
theorem fetch (h : link.Alike other) (size : Nat) :
    (link.fetch size).1 = (other.fetch size).1 ∧
      (link.fetch size).2.Alike (other.fetch size).2 := by
  by_cases hpending : link.device.pending = []
  · have hpending' : other.device.pending = [] := h.pending_eq ▸ hpending
    rw [Link.fetch, Link.fetch, if_pos hpending, if_pos hpending', ← h.idleTime_eq]
    exact ⟨rfl, h.wait _⟩
  · have hpending' : other.device.pending ≠ [] := h.pending_eq ▸ hpending
    rw [fetch_of_pending hpending, fetch_of_pending hpending', ← h.pending_eq]
    exact ⟨rfl, h.afterRead size⟩

end Alike

end Link

namespace Reading

variable {r other : Reading}

/-- Two readings that have collected the same, over links that receive the same. -/
structure Alike (r other : Reading) : Prop where
  collected_eq : r.collected = other.collected
  link : r.link.Alike other.link

/-- Two steps that lead to the same. -/
inductive Progress.Alike : Progress → Progress → Prop where
  | pending {next next' : Reading} (h : next.Alike next') : Alike (.pending next) (.pending next')
  | finished (result : Except Error (List UInt8)) {link link' : Link} (h : link.Alike link') :
      Alike (.finished result link) (.finished result link')

/-- **Readings that are alike take the same step.** -/
theorem Alike.step (h : r.Alike other) (capacity : Nat) :
    (r.step capacity).Alike (other.step capacity) := by
  obtain ⟨hbytes, hafter⟩ := h.link.fetch (capacity - r.collected.length)
  rw [Reading.step, Reading.step, ← h.collected_eq]
  generalize r.link.fetch (capacity - r.collected.length) = fetched at hbytes hafter ⊢
  generalize other.link.fetch (capacity - r.collected.length) = fetched' at hbytes hafter ⊢
  obtain ⟨bytes, link⟩ := fetched
  obtain ⟨bytes', link'⟩ := fetched'
  obtain rfl : bytes = bytes' := hbytes
  dsimp only at hafter ⊢
  rw [← hafter.isExpired_eq, ← hafter.elapsedMilliseconds_eq]
  split_ifs
  · exact .finished _ h.link
  · exact .finished _ hafter
  · exact .finished _ hafter
  · exact .pending ⟨rfl, hafter⟩

/-- Readings that are alike come to the same end, if they come to one. -/
theorem Alike.advance (h : r.Alike other) (capacity count : Nat) :
    (r.advance capacity count).map (Prod.map id Link.flags) =
      (other.advance capacity count).map (Prod.map id Link.flags) := by
  -- as each step keeps the readings alike, both finish in the same one, or neither does
  induction count generalizing r other with
  | zero => rfl
  | succ count ih =>
    have hstep := h.step capacity
    rw [Reading.advance, Reading.advance]
    generalize r.step capacity = progress at hstep ⊢
    generalize other.step capacity = progress' at hstep ⊢
    cases hstep with
    | pending hnext => exact ih hnext
    | finished result hafter => exact congrArg (fun flags => some (result, flags)) hafter.flags_eq

theorem Alike.bound_eq (h : r.Alike other) : r.bound = other.bound := by
  rw [bound, bound, h.link.pending_eq, h.link.timeLeft?_eq]

end Reading

namespace Link

variable {link other : Link}

/-- **Links that are alike receive the same.** -/
theorem Alike.result_receive_eq (h : link.Alike other) (capacity : Nat) :
    (link.receive capacity).map Prod.fst = (other.receive capacity).map Prod.fst := by
  have hreadings : Reading.Alike ⟨[], link⟩ ⟨[], other⟩ := ⟨rfl, h⟩
  -- what becomes of the bytes depends on the flags besides
  have hcollect : (link.collect capacity).map (Prod.map id Link.flags) =
      (other.collect capacity).map (Prod.map id Link.flags) := by
    rw [collect, collect]
    rw [hreadings.bound_eq]
    exact hreadings.advance capacity _
  have hreceive (link : Link) : (link.receive capacity).map Prod.fst =
      ((link.collect capacity).map (Prod.map id Link.flags)).map fun read =>
        read.1 >>= fun body => (read.2.payload body).mapError .frame := by
    rw [receive, Option.map_map, Option.map_map]
    refine congrFun (congrArg Option.map (funext fun read => ?_)) _
    obtain ⟨result, after⟩ := read
    cases result with
    | error e => rfl
    | ok body => rfl
  rw [hreceive, hreceive, hcollect]

end Link

/-! ### Exchanges with devices that wait for a frame -/

namespace Link

variable {link other : Link} {payload : List UInt8}

/-- **What an exchange depends on.** At devices that wait for a frame, it ends in the same over any
two links with the same flags, the same budget and the same answers to come. -/
theorem result_run_congr (hflags : link.flags = other.flags)
    (htimeout : link.timeout = other.timeout)
    (hincoming : link.device.incoming = []) (hincoming' : other.device.incoming = [])
    (hqueue : link.device.queue = other.device.queue)
    (happend : link.device.appendChecksum = other.device.appendChecksum)
    (hpayload : Frame.terminator ∉ payload) (capacity : Nat) :
    (link.run payload capacity).map Prod.fst = (other.run payload capacity).map Prod.fst := by
  obtain ⟨sent, hrun, hsentFlags, hsentTimeout, hstarted, -, hpending⟩ :=
    run_eq_receive link hincoming hpayload capacity
  obtain ⟨sent', hrun', hsentFlags', hsentTimeout', hstarted', -, hpending'⟩ :=
    run_eq_receive other hincoming' hpayload capacity
  -- whatever was pending before is gone: the answer depends on the frame and the queue alone
  have hanswer : sent.device.pending = sent'.device.pending := by
    rw [hpending, hpending', Loopback.answerTo, Loopback.answerTo, hflags, hqueue, happend]
  have halike : sent.Alike sent' := {
    flags_eq := by rw [hsentFlags, hsentFlags', hflags]
    timeout_eq := by rw [hsentTimeout, hsentTimeout', htimeout]
    pending_eq := hanswer
    elapsed_eq := by rw [elapsed, elapsed, hstarted, hstarted', Nat.sub_self, Nat.sub_self]
    started_le := hstarted.le
    started_le_other := hstarted'.le }
  rw [hrun, hrun']
  exact halike.result_receive_eq capacity

/-! ### Runs of exchanges -/

/-- What a number of exchanges makes of a link, with any pauses between them. Each exchange is of a
payload without a terminator, with room for an answer of any size, and may end in an error. -/
inductive Exchanges (start : Link) : Nat → Link → Prop where
  | none : Exchanges start 0 start
  | wait {count : Nat} {link : Link} (h : Exchanges start count link) (time : Nat) :
      Exchanges start count (link.wait time)
  | run {count : Nat} {link after : Link} {payload : List UInt8} {capacity : Nat}
      {result : Except Error (List UInt8)} (h : Exchanges start count link)
      (hpayload : Frame.terminator ∉ payload)
      (hrun : link.run payload capacity = some (result, after)) : Exchanges start (count + 1) after

/-- A link that has not exchanged anything yet, with the same flags, budget and limit for writes, to
a device with the given answers in its queue. -/
def renewed (link : Link) (queue : List (List UInt8)) : Link where
  device := {
    appendChecksum := link.device.appendChecksum
    writeLimit? := link.device.writeLimit?
    queue }
  flags := link.flags
  timeout := link.timeout

variable {start : Link} {count : Nat}

/-- What exchanges leave of a link: each of them has taken one answer from the queue. -/
theorem Exchanges.exists_eq (h : start.Exchanges count link)
    (hincoming : start.device.incoming = []) :
    ∃ pending frames now started log, link = { start with
      device := { start.device with
        queue := start.device.queue.drop count
        incoming := []
        pending
        frames }
      now, started, log } := by
  induction h with
  | none => exact ⟨_, _, _, _, _, by rw [List.drop_zero, ← hincoming]⟩
  | wait h time ih =>
    obtain ⟨pending, frames, now, started, log, rfl⟩ := ih
    exact ⟨_, _, _, _, _, rfl⟩
  | run h hpayload hrun ih =>
    obtain ⟨pending, frames, now, started, log, rfl⟩ := ih
    obtain ⟨pending', now', log', rfl⟩ := exists_run_eq hpayload hrun
    exact ⟨_, _, _, _, _, by rw [← List.tail_drop]⟩

/-- **A failed exchange never contaminates the next one.** Whatever the exchanges before have ended
in and left behind, the device waits for a frame from its start, and the next exchange ends in what
it ends in on a new link, to a device with the answers that are left in the queue. -/
theorem result_run_eq_renewed (hincoming : start.device.incoming = [])
    (h : start.Exchanges count link) :
    link.device.incoming = [] ∧ link.device.queue = start.device.queue.drop count ∧
      ∀ (payload : List UInt8) (capacity : Nat), Frame.terminator ∉ payload →
        (link.run payload capacity).map Prod.fst =
          ((start.renewed (start.device.queue.drop count)).run payload capacity).map Prod.fst := by
  obtain ⟨pending, frames, now, started, log, rfl⟩ := h.exists_eq hincoming
  refine ⟨rfl, rfl, fun payload capacity hpayload => ?_⟩
  refine result_run_congr ?_ ?_ ?_ ?_ ?_ ?_ hpayload capacity
  all_goals rfl

/-- An answer that there is no room for leaves bytes behind, and the next one is received all the
same. -/
theorem result_run_eq_renewed_after_overflow :
    ∃ link, Exchanges { device := { queue := [Frame.onWire true (List.replicate 300 0x41),
        Frame.onWire true [0x5E, 0x31]] } } 1 link ∧
      link.device.pending ≠ [] ∧ link.device.incoming = [] ∧
      (link.run [0x5E, 0x53] 256).map Prod.fst = some (.ok [0x5E, 0x31]) := by
  set start : Link := { device := { queue := [Frame.onWire true (List.replicate 300 0x41),
    Frame.onWire true [0x5E, 0x31]] } } with hstart
  have hpayload : Frame.terminator ∉ ([0x5E, 0x53] : List UInt8) := by decide
  have hlong : Frame.terminator ∉ List.replicate 300 (0x41 : UInt8) := fun h =>
    absurd (List.eq_of_mem_replicate h) (by decide)
  obtain ⟨log, hfirst⟩ := run_of_queue start hpayload hlong rfl rfl 256
  have hexchanges := Exchanges.run .none hpayload hfirst
  obtain ⟨hincoming, -, hnext⟩ := result_run_eq_renewed rfl hexchanges
  refine ⟨_, hexchanges, ?_, hincoming, ?_⟩
  · refine List.ne_nil_of_length_pos ?_
    rw [List.length_drop, length_onWire, List.length_replicate]
    decide
  · obtain ⟨log', hrenewed⟩ :=
      run_of_queue (start.renewed [Frame.onWire true [0x5E, 0x31]]) hpayload (by decide) rfl rfl
        256
    rw [hnext _ _ hpayload]
    exact (congrArg (Option.map Prod.fst) hrenewed).trans rfl

end Link

end InverterLink
