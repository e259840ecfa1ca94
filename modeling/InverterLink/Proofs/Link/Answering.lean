import InverterLink.Proofs.Link.Transparency

/-!
# Exchanges that need not wait

A device that waits for a frame answers it with what is queued next, or with a fixture. As soon as
the frame is there, so is the whole answer. If it holds a terminator, or more bytes than there is
room for, then it is read without waiting, and the exchange ends in a function of the answer,
whatever the budget. Only an answer that is cut short keeps a link waiting until the budget is
spent.

## Main definitions

* `Loopback.answerTo`: the answer of a device to a frame.
* `Loopback.IsPrompt`: a device whose next answer is read without waiting.
* `Flags.read`: what a link makes of an answer that is there as a whole.
* `Command.outcomeAt`: what a command ends in at such a device.

## Main statements

* `Link.exists_execute_of_isPrompt`: a command has this outcome.
-/

namespace InverterLink

/-! ### Answers -/

namespace Loopback

/-- The answer of a device to a frame. -/
def answerTo (d : Loopback) (frame : List UInt8) : List UInt8 :=
  d.queue.head?.getD (Frame.onWire d.appendChecksum (fixtureFor frame))

theorem pending_respond (d : Loopback) : d.respond.pending = d.answerTo d.incoming := by
  rw [respond, answerTo]
  cases d.queue with
  | nil => rfl
  | cons answer later => rfl

/-- The device waits for a frame from its start, and the end of what it answers is there, or there
is no room for it. -/
structure IsPrompt (d : Loopback) : Prop where
  incoming_eq : d.incoming = []
  ended_or_long : ∀ answer ∈ d.queue.head?,
    Frame.terminator ∈ answer ∨ Link.answerCapacity ≤ answer.length

/-- A fixture always ends in a terminator. -/
theorem IsPrompt.answerTo {d : Loopback} (h : d.IsPrompt) (frame : List UInt8) :
    Frame.terminator ∈ d.answerTo frame ∨ Link.answerCapacity ≤ (d.answerTo frame).length := by
  rw [Loopback.answerTo]
  cases hhead : d.queue.head? with
  | none => exact .inl (List.mem_append_right _ (List.mem_singleton_self _))
  | some answer => exact h.ended_or_long answer hhead

end Loopback

/-- What a link with the given room makes of an answer that is there as a whole. -/
def Flags.read (flags : Flags) (capacity : Nat) (bytes : List UInt8) : Except Error (List UInt8) :=
  if Frame.terminator ∈ bytes.take capacity then
    (flags.payload (bytes.takeWhile (· != Frame.terminator))).mapError .frame
  else .error (.frame .bufferFull)

namespace Link

variable {link : Link} {payload : List UInt8}

/-- An answer that is there as a whole is read without waiting. -/
theorem exists_receive_of_pending {capacity : Nat} (link : Link) (hlive : link.isExpired = false)
    (h : Frame.terminator ∈ link.device.pending ∨ capacity ≤ link.device.pending.length) :
    ∃ after, link.receive capacity =
      some (link.flags.read capacity link.device.pending, after) := by
  by_cases hmem : Frame.terminator ∈ link.device.pending.take capacity
  · obtain ⟨log, hreceive⟩ := receive_of_collect_ok (collect_of_mem hmem)
    rw [Flags.read, if_pos hmem]
    exact ⟨_, hreceive⟩
  · have hlong : capacity ≤ link.device.pending.length := by
      by_contra hshort
      rw [List.take_of_length_le (Nat.le_of_not_le hshort)] at hmem
      exact h.elim hmem hshort
    rw [Flags.read, if_neg hmem]
    exact ⟨_, receive_of_collect_error (collect_of_notMem hlive hlong hmem)⟩

/-- A request that is sent to a device that waits for a frame is followed by the reading of what the
device answers. -/
theorem run_eq_receive (link : Link) (hincoming : link.device.incoming = [])
    (hpayload : Frame.terminator ∉ payload) (capacity : Nat) :
    ∃ sent : Link, link.run payload capacity = sent.receive capacity ∧ sent.flags = link.flags ∧
      sent.timeout = link.timeout ∧ sent.started = sent.now ∧ sent.isExpired = false ∧
      sent.device.pending =
        link.device.answerTo (Frame.body link.flags.writeChecksum payload) := by
  obtain ⟨log, hsend⟩ := send_frame hpayload link.restart link.isExpired_restart
  refine ⟨_, run_of_send hsend link.isExpired_restart capacity, rfl, rfl, rfl,
    link.isExpired_restart, ?_⟩
  dsimp only [restart]
  rw [hincoming, List.nil_append, Loopback.pending_respond]
  rfl

end Link

/-! ### Commands -/

/-- What a command ends in at a device whose answer is read without waiting. -/
def Command.outcomeAt (flags : Flags) (d : Loopback) (command : Command) (args : List String) :
    Except Error Response := do
  let frame ← command.frame args
  let answer ← flags.read Link.answerCapacity
    (d.answerTo (Frame.body flags.writeChecksum (Utf8.encode frame)))
  Response.decode command answer

namespace Link

variable {link : Link} {command : Command} {args : List String}

/-- What an exchange brings back is read as the response to the command. -/
theorem execute_of_run {frame : List Char} {result : Except Error (List UInt8)} {after : Link}
    (hframe : command.frame args = .ok frame)
    (hrun : (link.note .debug s!"executing {command.label} as {String.ofList frame}").run
      (Utf8.encode frame) answerCapacity = some (result, after)) :
    ∃ after', link.execute command args =
      some (result >>= Response.decode command, after') := by
  rw [execute, hframe]
  dsimp only
  rw [hrun]
  cases result with
  | error e => exact ⟨_, rfl⟩
  | ok answer => exact ⟨_, rfl⟩

/-- **A command is not kept waiting** by a device that answers promptly, whatever the budget. -/
theorem exists_execute_of_isPrompt (link : Link) (hprompt : link.device.IsPrompt)
    (hplain : ∀ frame, command.frame args = .ok frame → '\r' ∉ frame) :
    ∃ after, link.execute command args =
      some (command.outcomeAt link.flags link.device args, after) := by
  rw [Command.outcomeAt]
  cases hframe : command.frame args with
  | error e => exact ⟨link, by rw [execute, hframe]; rfl⟩
  | ok frame =>
    set noted := link.note .debug s!"executing {command.label} as {String.ofList frame}" with hnoted
    obtain ⟨sent, hrun, hflags, -, -, hlive, hpending⟩ := run_eq_receive noted hprompt.incoming_eq
      (terminator_notMem_encode (hplain frame hframe)) answerCapacity
    obtain ⟨after, hreceive⟩ := exists_receive_of_pending sent hlive (hpending ▸ hprompt.answerTo _)
    rw [hflags, hpending] at hreceive
    exact execute_of_run hframe (hrun.trans hreceive)

end Link

end InverterLink
