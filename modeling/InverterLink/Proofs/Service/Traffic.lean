import InverterLink.Proofs.Link.Traffic
import InverterLink.Proofs.Link.Transparency
import InverterLink.Proofs.Service.ErrorLimit
import InverterLink.Proofs.Service.Interleaving

/-!
# What reaches the device

The device hears of a client in one case only. The client has to ask for a command, with arguments
that pass the checks; there must be no fresh answer to the same command with the same arguments; and
the command must have a frame. Then this frame is sent, once, with its checksum, whatever comes
back. All other lines are answered without the device, and those that are no accepted command leave
the session as it is.

## Main definitions

* `Line.Executes`, `Line.call?`: the lines that ask for an accepted command.
* `Session.HasFresh`: the calls that are answered without the device.
* `Session.Sends`: the frames that lines put on the device.

## Main statements

* `Request.ofWords_cases`: what words can ask for.
* `Session.exists_link_execute_of_not_hasFresh`: what a call that goes to the device leaves of the
  link.
* `Clients.frames_of_run`: the traffic that clients cause.
-/

namespace InverterLink

/-! ### Lines that ask for a command -/

/-- The line asks for a command, and passes the checks with the given arguments for the layout. -/
def Line.Executes (line : Line) (command : Command) (args : List String) : Prop :=
  ∃ text name given, line = .request text ∧ Request.words text = "exec" :: name :: given ∧
    Command.ofRequest name given = .ok (command, args)

theorem Request.single_eq_ok {args : List String} {arg : String} (h : single args = .ok arg) :
    args = [arg] := by
  rcases args with _ | ⟨first, _ | ⟨second, rest⟩⟩
  · cases h
  · cases h
    rfl
  · cases h

/-- **What words can ask for**, if they are not refused: a handshake, a format that has a name, or a
command that passes its checks. -/
theorem Request.ofWords_cases {words : List String} {request : Request}
    (h : ofWords words = .ok request) :
    (∃ text, words = ["v", text] ∧ request = .handshake) ∨
    (∃ name format, words = ["format", name] ∧ Format.ofName name = .ok format ∧
      request = .chooseFormat format) ∨
    ∃ name given command args, words = "exec" :: name :: given ∧
      Command.ofRequest name given = .ok (command, args) ∧ request = .execute command args := by
  rw [ofWords.eq_def] at h
  split at h
  · obtain ⟨text, hsingle, h⟩ := bind_eq_ok.mp h
    rw [ofVersion] at h
    split_ifs at h
    rw [single_eq_ok hsingle]
    exact .inl ⟨text, rfl, (Except.ok.inj h).symm⟩
  · obtain ⟨name, hsingle, h⟩ := bind_eq_ok.mp h
    obtain ⟨format, hname, h⟩ := bind_eq_ok.mp h
    rw [single_eq_ok hsingle]
    exact .inr (.inl ⟨name, format, rfl, hname, (Except.ok.inj h).symm⟩)
  · cases h
  · next name given =>
    obtain ⟨⟨command, args⟩, hrequest, h⟩ := bind_eq_ok.mp h
    exact .inr (.inr ⟨name, given, command, args, rfl, hrequest, (Except.ok.inj h).symm⟩)
  · cases h
  · cases h
  · cases h

/-- Words are read as a command if they ask for one and pass its checks. -/
theorem Request.ofWords_eq_execute_iff {words : List String} {command : Command}
    {args : List String} : ofWords words = .ok (execute command args) ↔
      ∃ name given, words = "exec" :: name :: given ∧
        Command.ofRequest name given = .ok (command, args) := by
  constructor
  · intro h
    obtain ⟨_, -, h⟩ | ⟨_, _, -, -, h⟩ | ⟨name, given, _, _, hwords, hrequest, h⟩ := ofWords_cases h
    · cases h
    · cases h
    · cases h
      exact ⟨name, given, hwords, hrequest⟩
  · rintro ⟨name, given, rfl, hrequest⟩
    rw [ofWords.eq_def]
    simp only [hrequest]
    rfl

theorem Line.executes_request_iff {text : List Char} {command : Command} {args : List String} :
    (Line.request text).Executes command args ↔
      Request.ofLine text = .ok (.execute command args) := by
  rw [Request.ofLine, Request.ofWords_eq_execute_iff]
  constructor
  · rintro ⟨text', name, given, heq, hwords, hrequest⟩
    cases heq
    exact ⟨name, given, hwords, hrequest⟩
  · rintro ⟨name, given, hwords, hrequest⟩
    exact ⟨text, name, given, rfl, hwords, hrequest⟩

/-- The accepted command that a line asks for, and its arguments for the layout. -/
def Line.call? : Line → Option (Command × List String)
  | .request text =>
    match Request.ofLine text with
    | .ok (.execute command args) => some (command, args)
    | _ => none
  | _ => none

theorem Line.call?_eq_some_iff {line : Line} {command : Command} {args : List String} :
    line.call? = some (command, args) ↔ line.Executes command args := by
  cases line with
  | request text =>
    rw [executes_request_iff, call?]
    rcases Request.ofLine text with e | _ | format | ⟨called, given⟩ <;> simp
  | oversized => simp [call?, Executes]
  | ended => simp [call?, Executes]

namespace Session

variable {s after : Session} {command : Command} {args : List String} {frame : List Char}
  {outcome : Except Error Response}

/-! ### Calls that are answered without the device -/

/-- An answer to the command is kept that was given for the same arguments and is not too old. -/
def HasFresh (s : Session) (command : Command) (args : List String) : Prop :=
  ∃ cached, s.cache.get? command = some cached ∧ cached.args = args ∧
    s.now - cached.obtained ≤ s.policy.cacheTimeout * millisecond

theorem hasFresh_iff_exists_cached :
    s.HasFresh command args ↔ ∃ response, s.cached? command args = some response := by
  simp only [cached?_eq_some_iff]
  constructor
  · rintro ⟨cached, hget, hargs, hage⟩
    exact ⟨cached.response, cached, hget, hargs, hage, rfl⟩
  · rintro ⟨response, cached, hget, hargs, hage, -⟩
    exact ⟨cached, hget, hargs, hage⟩

/-- A call with a fresh answer leaves a report, and nothing else. -/
theorem exists_execute_of_hasFresh (h : s.HasFresh command args) :
    ∃ response message, s.execute command args = some (.ok response, s.note .debug message) := by
  obtain ⟨response, hcached⟩ := hasFresh_iff_exists_cached.mp h
  exact ⟨response, _, executeVia_of_cached _ hcached⟩

/-- A call without a fresh answer goes to the link. -/
theorem execute_of_not_hasFresh (h : ¬ s.HasFresh command args) :
    s.execute command args =
      (((s.evict command).pace command).link.execute command args).map fun (outcome, link) =>
        (outcome.mapError Error.collapse, s.executed command args outcome link) := by
  have hcached : s.cached? command args = none := by
    by_contra hsome
    exact h (hasFresh_iff_exists_cached.mpr (Option.ne_none_iff_exists'.mp hsome))
  exact executeVia_of_not_cached _ hcached

/-- What a session makes of an outcome does not concern the link, apart from reports. -/
theorem exists_link_settle (s : Session) (command : Command) (args : List String)
    (outcome : Except Error Response) :
    ∃ log, (s.settle command args outcome).link = { s.link with log } := by
  cases outcome with
  | ok response => exact ⟨_, rfl⟩
  | error e =>
    rw [settle]
    dsimp only
    split_ifs
    · rw [countError]
      dsimp only
      split_ifs
      · exact ⟨_, rfl⟩
      · exact ⟨_, rfl⟩
    · exact ⟨_, rfl⟩

/-! ### Calls that go to the device -/

/-- **A call without a fresh answer puts its frame on the device**, whatever it ends in. -/
theorem exists_link_execute_of_not_hasFresh (hfresh : ¬ s.HasFresh command args)
    (hframe : command.frame args = .ok frame) (hplain : IsPlain frame)
    (h : s.execute command args = some (outcome, after)) :
    ∃ pending now started log, after.link = { s.link with
      device := { s.link.device with
        queue := s.link.device.queue.tail
        incoming := []
        pending
        frames := s.link.device.frames ++
          [s.link.device.incoming ++ Frame.body s.link.flags.writeChecksum (Utf8.encode frame)] }
      now, started, log } := by
  rw [execute_of_not_hasFresh hfresh, Option.map_eq_some_iff] at h
  obtain ⟨⟨result, link⟩, hexecute, h⟩ := h
  cases h
  obtain ⟨now, log, hpaced⟩ := (s.evict command).exists_pace_eq command
  obtain ⟨pending, now', log', rfl⟩ :=
    Link.exists_execute_eq hframe (Link.terminator_notMem_encode hplain) hexecute
  rw [executed_eq_settle]
  obtain ⟨log'', hlink⟩ := exists_link_settle { s.evict command with link := _ } command args result
  rw [hlink, hpaced]
  exact ⟨_, _, _, _, rfl⟩

/-- A call of a command that cannot be laid out leaves the device alone, and is not counted as an
error of the device. -/
theorem device_execute_of_frame_error {e : Error} (hfresh : ¬ s.HasFresh command args)
    (hframe : command.frame args = .error e) (h : s.execute command args = some (outcome, after)) :
    after.link.device = s.link.device ∧ after.link.flags = s.link.flags ∧
      after.deviceErrors = s.deviceErrors := by
  obtain ⟨now, log, hpaced⟩ := (s.evict command).exists_pace_eq command
  have hlevel : e.isDeviceLevel = false := by
    have hinternal := ((Command.endsIn_frame command args).of_error hframe).internal_and_isPlain.1
    rw [Error.isDeviceLevel, hinternal]
    rfl
  rw [execute_of_not_hasFresh hfresh, Link.execute_of_frame_error hframe] at h
  cases h
  rw [executed_eq_settle, settle_of_not_deviceLevel hlevel, hpaced]
  exact ⟨rfl, rfl, rfl⟩

/-- The line puts the frame on the device: it asks for an accepted command that has this frame, and
to which there is no fresh answer. -/
def Sends (s : Session) (line : Line) (frame : List Char) : Prop :=
  ∃ command args, line.Executes command args ∧ ¬ s.HasFresh command args ∧
    command.frame args = .ok frame

end Session

/-! ### One line -/

namespace Connection

variable {c next : Connection} {s after : Session} {line : Line} {command : Command}
  {args : List String} {reply : Reply} {frame : List Char}

/-- A line that asks for a command makes a call. -/
theorem exists_execute_of_executes (hline : line.Executes command args)
    (h : c.replyTo s line = some (reply, next, after)) :
    ∃ outcome, s.execute command args = some (outcome, after) := by
  obtain ⟨text, name, given, rfl, hwords, hrequest⟩ := hline
  have hofLine : Request.ofLine text = .ok (.execute command args) :=
    Line.executes_request_iff.mp ⟨text, name, given, rfl, hwords, hrequest⟩
  rw [replyTo, respond, hofLine] at h
  obtain ⟨⟨outcome, after'⟩, hexecute, h⟩ := Option.map_eq_some_iff.mp h
  cases h
  exact ⟨outcome, hexecute⟩

/-- **A line that asks for no accepted command** leaves the session as it is. -/
theorem session_eq_of_not_executes (hline : ∀ command args, ¬ line.Executes command args)
    (h : c.replyTo s line = some (reply, next, after)) : after = s := by
  cases line with
  | ended => cases h
  | oversized =>
    cases h
    rfl
  | request text =>
    rw [replyTo, respond] at h
    split at h
    · cases h
      rfl
    · cases h
      rfl
    · cases h
      rfl
    · next command args hrequest =>
      exact absurd (Line.executes_request_iff.mpr hrequest) (hline command args)

/-- A line that puts a frame on the device does so once. -/
theorem exists_link_of_sends (hsends : s.Sends line frame)
    (h : c.replyTo s line = some (reply, next, after)) :
    ∃ pending now started log, after.link = { s.link with
      device := { s.link.device with
        queue := s.link.device.queue.tail
        incoming := []
        pending
        frames := s.link.device.frames ++
          [s.link.device.incoming ++ Frame.body s.link.flags.writeChecksum (Utf8.encode frame)] }
      now, started, log } := by
  obtain ⟨command, args, hline, hfresh, hframe⟩ := hsends
  obtain ⟨outcome, hexecute⟩ := exists_execute_of_executes hline h
  obtain ⟨text, name, given, -, -, hrequest⟩ := hline
  exact Session.exists_link_execute_of_not_hasFresh hfresh hframe
    (Command.isPlain_frame hrequest hframe) hexecute

/-- A line that puts no frame on the device leaves the device alone. -/
theorem device_eq_of_not_sends (hsends : ∀ frame, ¬ s.Sends line frame)
    (h : c.replyTo s line = some (reply, next, after)) :
    after.link.device = s.link.device ∧ after.link.flags = s.link.flags ∧
      after.deviceErrors = s.deviceErrors := by
  by_cases hline : ∃ command args, line.Executes command args
  · obtain ⟨command, args, hline⟩ := hline
    obtain ⟨outcome, hexecute⟩ := exists_execute_of_executes hline h
    by_cases hfresh : s.HasFresh command args
    · obtain ⟨response, message, hcached⟩ := Session.exists_execute_of_hasFresh hfresh
      rw [hcached] at hexecute
      cases hexecute
      exact ⟨rfl, rfl, rfl⟩
    · cases hframe : command.frame args with
      | ok frame => exact absurd ⟨command, args, hline, hfresh, hframe⟩ (hsends frame)
      | error e => exact Session.device_execute_of_frame_error hfresh hframe hexecute
  · rw [session_eq_of_not_executes (fun command args hexecutes => hline ⟨_, _, hexecutes⟩) h]
    exact ⟨rfl, rfl, rfl⟩

end Connection

/-! ### All lines -/

namespace Clients

variable {start c next last : Clients} {event : Event} {events : List Event} {reply : Reply}
  {replies : List Reply}

/-- Between two lines, the device waits for a frame from its start, and the link does about
checksums what it has always done. -/
theorem idle_of_run (hincoming : start.session.link.device.incoming = [])
    (hrun : start.run events = some (replies, last)) :
    last.session.link.device.incoming = [] ∧
      last.session.link.flags = start.session.link.flags := by
  refine run_induction (P := fun c => c.session.link.device.incoming = [] ∧
    c.session.link.flags = start.session.link.flags) ?_ ⟨hincoming, rfl⟩ hrun
  intro c next event reply h hstep
  obtain ⟨connection, hreply, -⟩ := step_eq_some_iff.mp hstep
  by_cases hsends : ∃ frame, (c.before event).Sends event.line frame
  · obtain ⟨frame, hsends⟩ := hsends
    obtain ⟨pending, now, started, log, hlink⟩ := Connection.exists_link_of_sends hsends hreply
    rw [hlink]
    exact ⟨rfl, h.2⟩
  · obtain ⟨hdevice, hflags, -⟩ :=
      Connection.device_eq_of_not_sends (fun frame hframe => hsends ⟨frame, hframe⟩) hreply
    rw [hdevice, hflags]
    exact h

/-- **The device hears the accepted commands without a fresh answer, and nothing else.** Whatever
clients have asked before, in whatever order and with whatever time in between, the next line of any
of them has a reply if the link has a limit. If the line asks for an accepted command that has a
frame and no fresh answer, the device records this frame with its checksum, once; otherwise the
device stays as it is, and no error is counted. A line that asks for no accepted command leaves the
whole session as it is, and one that is answered from the cache leaves the cache, the pause and the
errors as they are. -/
theorem frames_of_run (hchecksum : start.session.link.flags.writeChecksum = true)
    (hincoming : start.session.link.device.incoming = [])
    (hrun : start.run events = some (replies, c)) (event : Event) :
    (start.session.link.timeout ≠ 0 → event.line ≠ .ended →
      ∃ reply next, c.step event = some (reply, next)) ∧
    ∀ reply next, c.step event = some (reply, next) →
      (∀ frame, (c.before event).Sends event.line frame →
        next.session.link.device.frames = c.session.link.device.frames ++
          [Utf8.encode frame ++ Checksum.toBytes (Checksum.compute (Utf8.encode frame))]) ∧
      ((∀ frame, ¬ (c.before event).Sends event.line frame) →
        next.session.link.device = c.session.link.device ∧
          next.session.deviceErrors = c.session.deviceErrors) ∧
      ((∀ command args, ¬ event.line.Executes command args) → next.session = c.before event) ∧
      ∀ command args, event.line.Executes command args → (c.before event).HasFresh command args →
        next.session.link.device = c.session.link.device ∧
          next.session.cache = c.session.cache ∧
          next.session.lastFinished? = c.session.lastFinished? ∧
          next.session.deviceErrors = c.session.deviceErrors := by
  obtain ⟨hidle, hflags⟩ := idle_of_run hincoming hrun
  refine ⟨fun hlimit => exists_step (timeout_eq_of_run hrun ▸ hlimit), fun reply next hstep => ?_⟩
  obtain ⟨connection, hreply, -⟩ := step_eq_some_iff.mp hstep
  refine ⟨fun frame hsends => ?_, fun hsends => ?_, fun hline => ?_,
    fun command args hline hfresh => ?_⟩
  · obtain ⟨pending, now, started, log, hlink⟩ := Connection.exists_link_of_sends hsends hreply
    have hwrite : (c.before event).link.flags.writeChecksum = true := by
      rw [← hchecksum, ← hflags]
      rfl
    have hempty : (c.before event).link.device.incoming = [] := hidle
    rw [hlink, hwrite, hempty]
    rfl
  · obtain ⟨hdevice, -, herrors⟩ := Connection.device_eq_of_not_sends hsends hreply
    exact ⟨hdevice, herrors⟩
  · exact Connection.session_eq_of_not_executes hline hreply
  · obtain ⟨outcome, hexecute⟩ := Connection.exists_execute_of_executes hline hreply
    obtain ⟨response, message, hcached⟩ := Session.exists_execute_of_hasFresh hfresh
    rw [hcached] at hexecute
    obtain ⟨-, hafter⟩ := Prod.mk.inj (Option.some.inj hexecute)
    rw [← hafter]
    exact ⟨rfl, rfl, rfl, rfl⟩

/-- After a handshake of another client, the device hears the first command of a client. -/
theorem frames_of_run_after_handshake :
    ∃ c reply next, Clients.run { session := { link := {} } }
        [{ client := 1, line := .request "v 1".toList }] = some ([⟨true, []⟩], c) ∧
      c.step { client := 0, line := .request "exec set-rated-defaults".toList } =
        some (reply, next) ∧
      next.session.link.device.frames =
        [[0x5E, 0x53, 0x30, 0x30, 0x35, 0x50, 0x46, 0x4E, 0x84]] := by
  obtain ⟨c, hrun, hcache, hframes⟩ : ∃ c, Clients.run { session := { link := {} } }
      [{ client := 1, line := .request "v 1".toList }] = some ([⟨true, []⟩], c) ∧
      c.session.cache = {} ∧ c.session.link.device.frames = [] := ⟨_, rfl, rfl, rfl⟩
  obtain ⟨hexists, hall⟩ := frames_of_run rfl rfl hrun
    { client := 0, line := .request "exec set-rated-defaults".toList }
  obtain ⟨reply, next, hstep⟩ := hexists (by decide) nofun
  have hline : (Line.request "exec set-rated-defaults".toList).Executes .setDefaults [] :=
    ⟨_, "set-rated-defaults", [], rfl, by decide, by decide⟩
  have hfresh : ¬ c.session.HasFresh .setDefaults [] := by
    rintro ⟨cached, hget, -⟩
    rw [hcache] at hget
    cases hget
  have hframe : Command.frame .setDefaults [] = .ok "^S005PF".toList := by decide
  have hencode : Utf8.encode "^S005PF".toList = [0x5E, 0x53, 0x30, 0x30, 0x35, 0x50, 0x46] := by
    decide
  have hchecksum : Checksum.toBytes (Checksum.compute [0x5E, 0x53, 0x30, 0x30, 0x35, 0x50, 0x46]) =
      [0x4E, 0x84] := by decide +kernel
  have hsent := (hall reply next hstep).1 "^S005PF".toList ⟨.setDefaults, [], hline, hfresh, hframe⟩
  rw [hframes, hencode, hchecksum] at hsent
  exact ⟨c, reply, next, hrun, hstep, hsent⟩

end Clients

end InverterLink
