import InverterLink.Proofs.Link.Clock
import InverterLink.Proofs.Link.Sending

/-!
# What an exchange leaves on the device

An exchange reaches the device in one place, where the request is sent; everything behind it takes
bytes of the answer away and lets time pass. So whatever becomes of the answer, the device has
recorded one frame more, the one that was sent, and waits for the next frame from its start. A
command that cannot be laid out does not reach the device.

## Main statements

* `Link.exists_run_eq`: a link after an exchange.
* `Link.exists_execute_eq`, `Link.execute_of_frame_error`: a link after a command.
-/

namespace InverterLink

/-! ### Receiving -/

/-- A read takes pending bytes away, or lets time pass. -/
theorem Link.exists_fetch_eq (link : Link) (size : Nat) :
    ∃ pending now, (link.fetch size).2 =
      { link with device := { link.device with pending }, now } := by
  rw [fetch]
  split_ifs
  · exact ⟨_, _, rfl⟩
  · exact ⟨_, _, rfl⟩

namespace Reading

theorem exists_step_eq (r : Reading) (capacity : Nat) :
    ∃ pending now, (r.step capacity).link =
      { r.link with device := { r.link.device with pending }, now } := by
  obtain ⟨pending, now, hfetch⟩ := r.link.exists_fetch_eq (capacity - r.collected.length)
  rw [step]
  generalize r.link.fetch (capacity - r.collected.length) = fetched at hfetch ⊢
  obtain ⟨bytes, link⟩ := fetched
  dsimp only at hfetch ⊢
  split_ifs
  · exact ⟨_, _, rfl⟩
  · exact ⟨pending, now, hfetch⟩
  · exact ⟨pending, now, hfetch⟩
  · exact ⟨pending, now, hfetch⟩

theorem exists_advance_eq {capacity count : Nat} {r : Reading}
    {result : Except Error (List UInt8)} {after : Link}
    (h : r.advance capacity count = some (result, after)) :
    ∃ pending now, after = { r.link with device := { r.link.device with pending }, now } := by
  induction count generalizing r with
  | zero => cases h
  | succ count ih =>
    obtain ⟨pending, now, hstep⟩ := r.exists_step_eq capacity
    rw [advance] at h
    cases hprogress : r.step capacity with
    | finished stopped link =>
      rw [hprogress] at h hstep
      cases h
      exact ⟨pending, now, hstep⟩
    | pending next =>
      rw [hprogress] at h hstep
      obtain ⟨pending', now', hnext⟩ := ih h
      obtain rfl : after = _ := hnext
      exact ⟨pending', now', by rw [show next.link = _ from hstep]⟩

end Reading

namespace Link

variable {link after : Link}

theorem exists_receive_eq {capacity : Nat} {result : Except Error (List UInt8)}
    (h : link.receive capacity = some (result, after)) :
    ∃ pending now log, after =
      { link with device := { link.device with pending }, now, log } := by
  rw [receive, Option.map_eq_some_iff] at h
  obtain ⟨⟨collected, stopped⟩, hcollect, h⟩ := h
  obtain ⟨pending, now, rfl⟩ := Reading.exists_advance_eq hcollect
  cases collected with
  | error e =>
    cases h
    exact ⟨_, _, _, rfl⟩
  | ok body =>
    cases h
    exact ⟨_, _, _, rfl⟩

/-! ### Exchanges -/

/-- **An exchange leaves one frame more** on the device, and nothing of the next one. It changes the
link in the pending bytes, the time and the log besides. -/
theorem exists_run_eq {payload : List UInt8} {capacity : Nat} {result : Except Error (List UInt8)}
    (hpayload : Frame.terminator ∉ payload)
    (h : link.run payload capacity = some (result, after)) :
    ∃ pending now log, after = { link with
      device := { link.device with
        queue := link.device.queue.tail
        incoming := []
        pending
        frames := link.device.frames ++
          [link.device.incoming ++ Frame.body link.flags.writeChecksum payload] }
      now, started := link.now, log } := by
  obtain ⟨log, hsend⟩ := send_frame hpayload link.restart link.isExpired_restart
  obtain ⟨pending, hrespond⟩ := Loopback.exists_respond_eq { link.device with
    incoming := link.device.incoming ++ Frame.body link.flags.writeChecksum payload }
  -- what the request has made of the device is all that is not undone by what comes behind it
  have hsend' : link.restart.send payload = (.ok (), { link.restart with
      device := Loopback.respond { link.device with
        incoming := link.device.incoming ++ Frame.body link.flags.writeChecksum payload }
      log }) := hsend
  rw [run, hsend', hrespond] at h
  dsimp only at h
  split_ifs at h
  · cases h
    exact ⟨_, _, _, rfl⟩
  · obtain ⟨pending', now, log', rfl⟩ := exists_receive_eq h
    exact ⟨_, _, _, rfl⟩

/-- A command that cannot be laid out leaves the link alone. -/
theorem execute_of_frame_error {command : Command} {args : List String} {e : Error}
    (hframe : command.frame args = .error e) (link : Link) :
    link.execute command args = some (.error e, link) := by
  rw [execute, hframe]

/-- **A command leaves its frame on the device**, once, whatever it ends in. -/
theorem exists_execute_eq {command : Command} {args : List String} {frame : List Char}
    {outcome : Except Error Response} (hframe : command.frame args = .ok frame)
    (hreturn : Frame.terminator ∉ Utf8.encode frame)
    (h : link.execute command args = some (outcome, after)) :
    ∃ pending now log, after = { link with
      device := { link.device with
        queue := link.device.queue.tail
        incoming := []
        pending
        frames := link.device.frames ++
          [link.device.incoming ++ Frame.body link.flags.writeChecksum (Utf8.encode frame)] }
      now, started := link.now, log } := by
  rw [execute, hframe, Option.map_eq_some_iff] at h
  obtain ⟨⟨result, stopped⟩, hrun, h⟩ := h
  obtain ⟨pending, now, log, rfl⟩ := exists_run_eq hreturn hrun
  cases result with
  | error e =>
    cases h
    exact ⟨_, _, _, rfl⟩
  | ok answer =>
    cases h
    exact ⟨_, _, _, rfl⟩

end Link

end InverterLink
