import InverterLink.Proofs.Link.Receiving
import InverterLink.Proofs.Link.Sending
import InverterLink.Proofs.Text.Utf8

/-!
# The link is transparent

Whatever a device has to answer comes out of an exchange as it went in: the checksum and the
terminator that the device adds, the pieces in which it takes the request, and the checks on the way
back leave no trace. The one limit is the room for the answer with its trailer, and it is exact.
-/

namespace InverterLink.Link

/-! ### Exchanges with an answer in the queue -/

/-- After a request that went out in time, an exchange is what comes back. -/
theorem run_of_send {link sent : Link} {payload : List UInt8}
    (hsend : link.restart.send payload = (.ok (), sent)) (hlive : sent.isExpired = false)
    (capacity : Nat) : link.run payload capacity = sent.receive capacity := by
  rw [run, hsend]
  simp only [hlive, Bool.false_eq_true, if_false]

/-- **A frame that waits in a device is received** if there is room for it, and refused if there is
not. -/
theorem receive_frame (sent : Link) {answer : List UInt8} (hanswer : Frame.terminator ∉ answer)
    (hlive : sent.isExpired = false)
    (hpending : sent.device.pending = Frame.onWire sent.flags.readChecksum answer)
    (capacity : Nat) :
    ∃ log, sent.receive capacity = some
      (if (Frame.onWire sent.flags.readChecksum answer).length ≤ capacity then .ok answer
        else .error (.frame .bufferFull),
        { sent.afterRead capacity with log }) := by
  have hbody := Frame.terminator_notMem_body sent.flags.readChecksum hanswer
  rw [Frame.onWire_eq_body] at hpending ⊢
  rw [List.length_append, List.length_singleton]
  by_cases hroom : (Frame.body sent.flags.readChecksum answer).length + 1 ≤ capacity
  · rw [if_pos hroom]
    have hmem : Frame.terminator ∈ sent.device.pending.take capacity := by
      rwa [hpending, terminator_mem_take_iff hbody]
    have hcollect := collect_of_mem hmem
    rw [hpending, takeWhile_frame hbody] at hcollect
    obtain ⟨log, hreceive⟩ := receive_of_collect_ok hcollect
    refine ⟨log, ?_⟩
    rw [hreceive, show (sent.afterRead capacity).flags = sent.flags from rfl, Flags.payload_body]
    rfl
  · rw [if_neg hroom]
    have hnotMem : Frame.terminator ∉ sent.device.pending.take capacity := by
      rwa [hpending, terminator_mem_take_iff hbody]
    have hfull : capacity ≤ sent.device.pending.length := by
      rw [hpending, List.length_append, List.length_singleton]
      omega
    exact ⟨_, receive_of_collect_error (collect_of_notMem hlive hfull hnotMem)⟩

/-- **An exchange returns the next answer in the queue** if there is room for it and its trailer,
and fails for want of room otherwise. The device has recorded the request, and what there was no
room for is left pending. -/
theorem run_of_queue (link : Link) {payload answer : List UInt8} {later : List (List UInt8)}
    (hpayload : Frame.terminator ∉ payload) (hanswer : Frame.terminator ∉ answer)
    (hincoming : link.device.incoming = [])
    (hqueue : link.device.queue = Frame.onWire link.flags.readChecksum answer :: later)
    (capacity : Nat) :
    ∃ log, link.run payload capacity = some
      (if (Frame.onWire link.flags.readChecksum answer).length ≤ capacity then .ok answer
        else .error (.frame .bufferFull),
        { link with
          device := { link.device with
            queue := later
            pending := (Frame.onWire link.flags.readChecksum answer).drop capacity
            frames := link.device.frames ++ [Frame.body link.flags.writeChecksum payload] }
          started := link.now
          log }) := by
  obtain ⟨log, hsend⟩ := send_frame hpayload link.restart link.isExpired_restart
  have hrespond := Loopback.respond_of_queue (d := { link.restart.device with
    incoming := link.restart.device.incoming ++ Frame.body link.flags.writeChecksum payload })
    hqueue
  -- the link between the halves of the exchange, with the answer ready to be read
  set sent : Link := { link.restart with
    device := { link.device with
      queue := later
      pending := Frame.onWire link.flags.readChecksum answer
      frames := link.device.frames ++ [Frame.body link.flags.writeChecksum payload] }
    log } with hsent
  have hsend' : link.restart.send payload = (.ok (), sent) := by
    rw [hsend, hsent, show link.restart.flags = link.flags from rfl, hrespond]
    simp only [restart, hincoming, List.nil_append]
  obtain ⟨log', hreceive⟩ := receive_frame sent hanswer link.isExpired_restart rfl capacity
  exact ⟨log', (run_of_send hsend' link.isExpired_restart capacity).trans hreceive⟩

/-! ### Commands with an answer in the queue -/

/-- A text without a carriage return is sent without a terminator inside it. -/
theorem terminator_notMem_encode {text : List Char} (h : '\r' ∉ text) :
    Frame.terminator ∉ Utf8.encode text :=
  fun hmem => h ((Utf8.mem_encode_iff (by decide) text).mp hmem)

/-- The number of bytes that an answer takes on the line. -/
theorem length_onWire (withChecksum : Bool) (bytes : List UInt8) :
    (Frame.onWire withChecksum bytes).length =
      bytes.length + if withChecksum then 3 else 1 := by
  rw [Frame.onWire_eq_body, List.length_append, List.length_singleton, Frame.length_body]
  cases withChecksum <;> rfl

/-- A command gets the answer that waits in the queue, or an error for want of room. -/
theorem execute_of_queue (link : Link) {command : Command} {args : List String}
    {frame : List Char} {answer : List UInt8} {later : List (List UInt8)}
    (hframe : command.frame args = .ok frame) (hreturn : '\r' ∉ frame)
    (hanswer : Frame.terminator ∉ answer) (hincoming : link.device.incoming = [])
    (hqueue : link.device.queue = Frame.onWire link.flags.readChecksum answer :: later) :
    ∃ after, link.execute command args = some
      (if (Frame.onWire link.flags.readChecksum answer).length ≤ answerCapacity then
        Response.decode command answer
      else .error (.frame .bufferFull), after) := by
  set noted := link.note .debug s!"executing {command.label} as {String.ofList frame}"
  obtain ⟨log, hrun⟩ := run_of_queue noted (terminator_notMem_encode hreturn) hanswer
    hincoming hqueue answerCapacity
  rw [execute, hframe]
  simp only [show link.note .debug _ = noted from rfl, hrun, Option.map_some]
  rw [show noted.flags = link.flags from rfl]
  split_ifs with hroom
  · exact ⟨_, rfl⟩
  · exact ⟨_, rfl⟩

/-- **The link is transparent.** A command whose answer waits in the queue gets the response that
the answer holds if the answer and its trailer of three bytes, or of one without checksums, fit into
256 bytes, and fails for want of room if they do not. -/
theorem execute_pushResponse (link : Link) (command : Command) {args : List String}
    {frame : List Char} {answer : List UInt8} (later : List (List UInt8))
    (hframe : command.frame args = .ok frame) (hreturn : '\r' ∉ frame)
    (hanswer : Frame.terminator ∉ answer) (hincoming : link.device.incoming = [])
    (hqueue : link.device.queue = [])
    (hread : link.flags.readChecksum = link.device.appendChecksum) :
    (answer.length + (if link.flags.readChecksum then 3 else 1) ≤ 256 → ∃ after,
      execute { link with device := later.foldl Loopback.pushRaw (link.device.pushResponse answer) }
        command args = some (Response.decode command answer, after)) ∧
    (256 < answer.length + (if link.flags.readChecksum then 3 else 1) → ∃ e after,
      execute { link with device := later.foldl Loopback.pushRaw (link.device.pushResponse answer) }
        command args = some (.error e, after) ∧
      e.layer = .invalidData ∧ e.message = "input buffer is not large enough") := by
  have hdevice : later.foldl Loopback.pushRaw (link.device.pushResponse answer) =
      { link.device with queue := Frame.onWire link.flags.readChecksum answer :: later } := by
    rw [Loopback.foldl_pushRaw, Loopback.pushResponse]
    simp only [hqueue, hread, List.nil_append, List.singleton_append]
  rw [hdevice]
  obtain ⟨after, hexecute⟩ := execute_of_queue
    { link with device :=
      { link.device with queue := Frame.onWire link.flags.readChecksum answer :: later } }
    hframe hreturn hanswer hincoming rfl
  rw [length_onWire] at hexecute
  constructor
  · intro hfits
    exact ⟨after, hexecute.trans (congrArg (fun r => some (r, after)) (if_pos hfits))⟩
  · intro hlong
    refine ⟨.frame .bufferFull, after, hexecute.trans ?_, rfl, rfl⟩
    exact congrArg (fun r => some (r, after)) (if_neg (Nat.not_le_of_lt hlong))

/-- A device that takes three bytes at a time, with an answer of the greatest size and with one that
is a byte longer. -/
theorem execute_pushResponse_at_limit :
    (∃ after, execute
        { device := Loopback.pushResponse { writeLimit? := some 3 } (List.replicate 253 0x5E) }
        .getWorkingMode [] =
          some (Response.decode .getWorkingMode (List.replicate 253 0x5E), after)) ∧
      ∃ e after, execute
        { device := Loopback.pushResponse { writeLimit? := some 3 } (List.replicate 254 0x5E) }
        .getWorkingMode [] = some (.error e, after) ∧
      e.layer = .invalidData ∧ e.message = "input buffer is not large enough" := by
  have hframe : Command.frame .getWorkingMode [] = .ok "^P006MOD".toList := by decide
  have hreturn : '\r' ∉ "^P006MOD".toList := by decide
  have hanswer (count : Nat) : Frame.terminator ∉ List.replicate count 0x5E := fun h =>
    absurd (List.eq_of_mem_replicate h) (by decide)
  exact ⟨(execute_pushResponse { device := { writeLimit? := some 3 } } .getWorkingMode [] hframe
      hreturn (hanswer 253) rfl rfl rfl).1 (by rw [List.length_replicate]; decide),
    (execute_pushResponse { device := { writeLimit? := some 3 } } .getWorkingMode [] hframe
      hreturn (hanswer 254) rfl rfl rfl).2 (by rw [List.length_replicate]; decide)⟩

end InverterLink.Link
