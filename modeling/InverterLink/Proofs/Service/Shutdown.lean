import InverterLink.Proofs.Service.Traffic

/-!
# Stopping over a whole run of the server

The session decides to stop while a line is answered, and everyone hears of it later: the connection
when all lines that it has read are answered, the server when the connection is closed. So the lines
behind the decisive one are still answered as far as they have been read with it, and whatever comes
after them meets a server that does nothing any more. Since the session decides to stop exactly when
it gives the device up, the outcome of the server tells the same as the history of the whole run.

## Main definitions

* `Connection.StopsAt`: the replies to lines, with one among them that makes the session stop.
* `LineBuffer.Divides`: how far a client is read that makes the session stop.
* `Session.AnswersAll`: the replies to clients that follow each other.

## Main statements

* `Connection.Answers.exists_runRecorded`: the lines of a client as calls of the session.
* `Connection.exists_stopsAt_of_serve`: the connection during which the session decides to stop.
* `Server.serveAll_cases`: what a server can do.
* `Server.stops_of_serveAll`: how a server stops, and what it says then.
-/

namespace InverterLink

/-! ### The lines of clients as calls -/

/-- The call that a line makes, if it makes one. -/
def Line.event? (line : Line) : Option Session.Event :=
  line.call?.map fun (command, args) => .call Link.carrier command args

namespace Connection

variable {c next last : Connection} {s between after : Session} {line : Line} {lines : List Line}
  {reply : Reply} {replies : List Reply}

/-- A line is answered by the call that it makes. -/
theorem exists_runRecorded_of_replyTo (h : c.replyTo s line = some (reply, next, after))
    (history : List Execution) :
    ∃ history', Session.runRecorded (s, history) ([line].filterMap Line.event?) =
      some (after, history') := by
  rw [List.filterMap_cons, List.filterMap_nil, Line.event?]
  rcases hcall : line.call? with _ | ⟨command, args⟩
  · have hline : ∀ command args, ¬ line.Executes command args := by
      intro command args hexecutes
      cases hcall.symm.trans (Line.call?_eq_some_iff.mpr hexecutes)
    rw [session_eq_of_not_executes hline h]
    exact ⟨history, rfl⟩
  · obtain ⟨outcome, hexecute⟩ := exists_execute_of_executes (Line.call?_eq_some_iff.mp hcall) h
    rw [← Session.map_executeRecorded_link s command args history] at hexecute
    obtain ⟨⟨result, history'⟩, hrecorded, hresult⟩ := Option.map_eq_some_iff.mp hexecute
    refine ⟨history', ?_⟩
    rw [Option.map_some, Session.runRecorded, Session.stepRecorded, hrecorded]
    cases hresult
    rfl

/-- **The lines of a client are answered by the calls that they make**, in their order. -/
theorem Answers.exists_runRecorded (h : c.Answers s lines replies last after)
    (history : List Execution) :
    ∃ history', Session.runRecorded (s, history) (lines.filterMap Line.event?) =
      some (after, history') := by
  induction h generalizing history with
  | nil c s => exact ⟨history, rfl⟩
  | @cons c next last s between after line lines reply replies hreply hreplies ih =>
    obtain ⟨middle, hfirst⟩ := exists_runRecorded_of_replyTo hreply history
    obtain ⟨history', hrest⟩ := ih middle
    refine ⟨history', ?_⟩
    rw [← List.singleton_append, List.filterMap_append, Session.runRecorded_append, hfirst]
    exact hrest

/-! ### The line that makes the session stop -/

/-- Replies to lines that follow each other. One of them is answered by a session that has not
decided to stop and does so then; the others behind it are answered all the same. -/
inductive StopsAt (c : Connection) (s : Session) (first : List Line) (line : Line)
    (rest : List Line) : List Reply → Session → Prop where
  | intro {next later last : Connection} {before stopped after : Session} {reply : Reply}
    {replies behind : List Reply} (hfirst : c.Answers s first replies next before)
    (hopen : before.isShuttingDown = false)
    (hreply : next.replyTo before line = some (reply, later, stopped))
    (hstop : stopped.isShuttingDown = true) (hrest : later.Answers stopped rest behind last after) :
    StopsAt c s first line rest (replies ++ reply :: behind) after

namespace StopsAt

variable {first rest : List Line}

theorem exists_answers (h : c.StopsAt s first line rest replies after) :
    ∃ last, c.Answers s (first ++ line :: rest) replies last after := by
  obtain ⟨hfirst, -, hreply, -, hrest⟩ := h
  exact ⟨_, hfirst.append (.cons hreply hrest)⟩

/-- More lines may come before. -/
theorem of_append {lines : List Line} {earlier : List Reply}
    (h : c.Answers s lines earlier next between)
    (hstops : next.StopsAt between first line rest replies after) :
    c.StopsAt s (lines ++ first) line rest (earlier ++ replies) after := by
  obtain ⟨hfirst, hopen, hreply, hstop, hrest⟩ := hstops
  rw [← List.append_assoc]
  exact ⟨h.append hfirst, hopen, hreply, hstop, hrest⟩

end StopsAt

/-- If the session decides to stop while lines are answered, it does so with one of them. -/
theorem Answers.exists_stopsAt (h : c.Answers s lines replies last after)
    (hopen : s.isShuttingDown = false) (hstop : after.isShuttingDown = true) :
    ∃ first line rest, lines = first ++ line :: rest ∧
      c.StopsAt s first line rest replies after := by
  induction h with
  | nil c s => exact absurd hstop (ne_true_of_eq_false hopen)
  | @cons c next last s between after line lines reply replies hreply hreplies ih =>
    by_cases hbetween : between.isShuttingDown = true
    · exact ⟨[], line, lines, rfl, .intro (.nil c s) hopen hreply hbetween hreplies⟩
    · obtain ⟨first, decisive, rest, rfl, hstops⟩ := ih (eq_false_of_ne_true hbetween) hstop
      exact ⟨line :: first, decisive, rest, rfl,
        .of_append (.cons hreply (.nil next between)) hstops⟩

end Connection

/-! ### How far a client is read -/

namespace LineBuffer

/-- The lines that chunks complete. -/
def completed (b : LineBuffer) : List (List UInt8) → List Line
  | [] => []
  | chunk :: chunks => (b.feed chunk).1 ++ (b.feed chunk).2.completed chunks

/-- How the lines of a client are divided by one of them, if nothing is read behind the chunk that
completes it: all chunks before complete lines before it, and what it and this chunk complete is all
there is. A line that no chunk completes is the last one, and nothing is left behind it. -/
def Divides (b : LineBuffer) (chunks : List (List UInt8)) (first : List Line) (line : Line)
    (rest : List Line) : Prop :=
  (∃ earlier chunk later, chunks = earlier ++ chunk :: later ∧ b.completed earlier <+: first ∧
    first ++ line :: rest = Line.beforeEnded (b.completed (earlier ++ [chunk]))) ∨
  b.completed chunks <+: first ∧ first ++ line :: rest = Line.beforeEnded (b.decode chunks)

variable {b : LineBuffer} {chunk : List UInt8} {chunks : List (List UInt8)} {first rest : List Line}
  {line : Line}

/-- A chunk that leaves the connection open may come before. -/
theorem Divides.cons (hopen : .ended ∉ (b.feed chunk).1)
    (h : (b.feed chunk).2.Divides chunks first line rest) :
    b.Divides (chunk :: chunks) ((b.feed chunk).1 ++ first) line rest := by
  rcases h with ⟨earlier, decisive, later, rfl, hearlier, hlines⟩ | ⟨hearlier, hlines⟩
  · refine .inl ⟨chunk :: earlier, decisive, later, rfl, ?_, ?_⟩
    · exact (List.prefix_append_right_inj _).mpr hearlier
    · rw [List.append_assoc, hlines, List.cons_append, completed,
        Line.beforeEnded_append_of_notMem hopen]
  · refine .inr ⟨(List.prefix_append_right_inj _).mpr hearlier, ?_⟩
    rw [List.append_assoc, hlines, decode, Line.beforeEnded_append_of_notMem hopen]

end LineBuffer

namespace Connection

variable {c : Connection} {s after : Session} {b : LineBuffer} {chunks : List (List UInt8)}
  {replies : List Reply}

/-- **The connection during which the session decides to stop** answers what it has read with the
decisive line, and reads no more. -/
theorem exists_stopsAt_of_serve (h : c.serve s b chunks = some (replies, after))
    (hopen : s.isShuttingDown = false) (hstop : after.isShuttingDown = true) :
    ∃ first line rest, c.StopsAt s first line rest replies after ∧
      b.Divides chunks first line rest := by
  -- The induction is on the chunks, each of which meets a session that has not decided to stop yet.
  induction chunks generalizing c s b replies with
  | nil =>
    rw [serve_nil (ne_true_of_eq_false hopen)] at h
    obtain ⟨answered, hanswered, h⟩ := Option.map_eq_some_iff.mp h
    cases h
    obtain ⟨first, line, rest, hlines, hstops⟩ :=
      (answers_of_answer hanswered).1.exists_stopsAt hopen hstop
    exact ⟨first, line, rest, hstops, .inr ⟨List.nil_prefix, hlines.symm⟩⟩
  | cons chunk chunks ih =>
    rw [serve_cons (ne_true_of_eq_false hopen)] at h
    obtain ⟨answered, hanswered, h⟩ := Option.bind_eq_some_iff.mp h
    obtain ⟨hanswers, hended⟩ := answers_of_answer hanswered
    by_cases hbetween : answered.session.isShuttingDown = true
    · -- the line is among those of this chunk, and there is no other one
      have hall : some (answered.replies, answered.session) = some (replies, after) := by
        rw [← h, serve_of_stopped hbetween, Option.map_some, Prod.map, List.append_nil]
        exact (ite_self _).symm
      cases hall
      obtain ⟨first, line, rest, hlines, hstops⟩ := hanswers.exists_stopsAt hopen hstop
      refine ⟨first, line, rest, hstops, .inl ⟨[], chunk, chunks, rfl, List.nil_prefix, ?_⟩⟩
      rw [← hlines, List.nil_append, LineBuffer.completed, LineBuffer.completed, List.append_nil]
    · split_ifs at h with hend
      · cases h
        exact absurd hstop hbetween
      · obtain ⟨⟨later, after'⟩, hrest, h⟩ := Option.map_eq_some_iff.mp h
        cases h
        have hnotMem : .ended ∉ (b.feed chunk).1 := fun hmem => hend (hended.mpr hmem)
        rw [Line.beforeEnded_of_notMem hnotMem] at hanswers
        obtain ⟨first, line, rest, hstops, hdivides⟩ :=
          ih hrest (eq_false_of_ne_true hbetween)
        exact ⟨_, line, rest, .of_append hanswers hstops, hdivides.cons hnotMem⟩

end Connection

/-! ### Clients one after another -/

/-- Replies to the lines of clients that follow each other. Each of them has a new connection to the
session that the last one has left. -/
inductive Session.AnswersAll :
    Session → List (List Line) → List (List Reply) → Session → Prop where
  | nil (s : Session) : AnswersAll s [] [] s
  | cons {last : Connection} {s between after : Session} {lines : List Line}
    {clients : List (List Line)} {replies : List Reply} {later : List (List Reply)}
    (hfirst : Connection.Answers {} s lines replies last between)
    (hlater : AnswersAll between clients later after) :
    AnswersAll s (lines :: clients) (replies :: later) after

namespace Session.AnswersAll

variable {s between after : Session} {clients later : List (List Line)}
  {replies behind : List (List Reply)}

theorem append (h : s.AnswersAll clients replies between)
    (h' : between.AnswersAll later behind after) :
    s.AnswersAll (clients ++ later) (replies ++ behind) after := by
  induction h with
  | nil s => exact h'
  | cons hfirst hlater ih => exact .cons hfirst (ih h')

/-- The lines of clients are answered by the calls that they make. -/
theorem exists_runRecorded (h : s.AnswersAll clients replies after) (history : List Execution) :
    ∃ history', runRecorded (s, history) (clients.flatten.filterMap Line.event?) =
      some (after, history') := by
  induction h generalizing history with
  | nil s => exact ⟨history, rfl⟩
  | @cons last s between after lines clients replies later hfirst hlater ih =>
    obtain ⟨middle, hfirst⟩ := hfirst.exists_runRecorded history
    obtain ⟨history', hrest⟩ := ih middle
    refine ⟨history', ?_⟩
    rw [List.flatten_cons, List.filterMap_append, runRecorded_append, hfirst]
    exact hrest

end Session.AnswersAll

namespace Server

variable {session : Session} {connections : Registry} {server after : Server}
  {clients : List (String × List (List UInt8))} {replies : List (List Reply)}

/-- The lines that clients send before they end their connections. -/
def linesOf (clients : List (String × List (List UInt8))) : List (List Line) :=
  clients.map fun client => Line.beforeEnded (LineBuffer.decode {} client.2)

/-! ### All connections -/

/-- A server comes to an end if the link has a limit. -/
theorem exists_serveAll (hlimit : session.link.timeout ≠ 0) (connections : Registry)
    (clients : List (String × List (List UInt8))) :
    ∃ replies after, serveAll ⟨session, connections⟩ clients = some (replies, after) := by
  induction clients generalizing session connections with
  | nil => exact ⟨_, _, rfl⟩
  | cons client clients ih =>
    by_cases hstop : session.isShuttingDown = true
    · exact ⟨_, _, serveAll_of_stopped hstop connections _⟩
    · obtain ⟨next, hcons⟩ := exists_serveAll_cons_eq hstop connections client clients
      obtain ⟨first, between, hserve⟩ := Connection.exists_serve hlimit {} {} client.2
      obtain ⟨lines, last, hanswers, -⟩ := Connection.exists_answers_of_serve hserve
      have hbetween : between.link.timeout ≠ 0 := hanswers.precedes.timeout_eq ▸ hlimit
      obtain ⟨later, after, hlater⟩ := ih hbetween next
      refine ⟨first :: later, after, ?_⟩
      rw [hcons, hserve, Option.bind_some]
      dsimp only
      rw [hlater]
      rfl

/-- **What a server can do.** It serves all clients, each of them to its end. Or the session decides
to stop while it serves one of them; then this one is answered as far as it has been read, and the
others get nothing. -/
theorem serveAll_cases (h : serveAll ⟨session, connections⟩ clients = some (replies, after))
    (hopen : session.isShuttingDown = false) :
    (after.session.isShuttingDown = false ∧
      session.AnswersAll (linesOf clients) replies after.session) ∨
    (after.session.isShuttingDown = true ∧
      ∃ before address chunks behind earlier own between first line rest,
        clients = before ++ (address, chunks) :: behind ∧
        replies = earlier ++ own :: behind.map (fun _ => []) ∧
        session.AnswersAll (linesOf before) earlier between ∧
        Connection.StopsAt {} between first line rest own after.session ∧
        LineBuffer.Divides {} chunks first line rest) := by
  induction clients generalizing session connections replies with
  | nil =>
    cases h
    exact .inl ⟨hopen, .nil _⟩
  | cons client clients ih =>
    obtain ⟨next, hcons⟩ :=
      exists_serveAll_cons_eq (ne_true_of_eq_false hopen) connections client clients
    rw [hcons] at h
    obtain ⟨⟨first, between⟩, hserve, h⟩ := Option.bind_eq_some_iff.mp h
    obtain ⟨⟨later, last⟩, hlater, h⟩ := Option.map_eq_some_iff.mp h
    cases h
    by_cases hstop : between.isShuttingDown = true
    · obtain ⟨lines, line, rest, hstops, hdivides⟩ :=
        Connection.exists_stopsAt_of_serve hserve hopen hstop
      cases (serveAll_of_stopped hstop next clients).symm.trans hlater
      exact .inr ⟨hstop, [], client.1, client.2, clients, [], first, session, lines, line, rest,
        rfl, rfl, .nil session, hstops, hdivides⟩
    · obtain ⟨lines, connection, hanswers, -, hall⟩ := Connection.exists_answers_of_serve hserve
      cases hall (eq_false_of_ne_true hstop)
      obtain ⟨hstay, hanswersAll⟩ | ⟨hstops, before, address, chunks, behind, earlier, own, middle,
        lines, line, rest, rfl, hlater', hbefore, hown⟩ := ih hlater (eq_false_of_ne_true hstop)
      · exact .inl ⟨hstay, .cons hanswers hanswersAll⟩
      · refine .inr ⟨hstops, client :: before, address, chunks, behind, first :: earlier, own,
          middle, lines, line, rest, rfl, ?_, .cons hanswers hbefore, hown⟩
        exact congrArg (first :: ·) hlater'

/-- The outcome of a server tells whether the device was given up. -/
theorem outcome_iff {limit : UInt32} {history : List Execution}
    (h : server.session.Counts limit history) :
    (server.outcome = .error .deviceFailed ↔ ReachesLimit limit history) ∧
      (server.outcome = .ok () ↔ ¬ ReachesLimit limit history) := by
  rw [← h.deviceFailed_iff, outcome]
  split_ifs with hfailed
  · exact ⟨iff_of_true rfl hfailed, iff_of_false nofun (not_not_intro hfailed)⟩
  · exact ⟨iff_of_false nofun hfailed, iff_of_true rfl hfailed⟩

/-- **A server stops when the device is given up, and only then.** Whatever clients send in whatever
chunks and whatever the device answers, the lines that are served are the calls of one run of the
session; the outcome of the server is an error if and only if this run reaches the limit of device
errors. If it does not, all lines of all clients are answered. If it does, there is a decisive line:
the lines of its client are answered in order as far as they have been read with it, the clients
behind get nothing, and the session that is left is the one that this client has left. -/
theorem stops_of_serveAll (link : Link) (policy : SessionPolicy)
    (clients : List (String × List (List UInt8))) :
    (link.timeout ≠ 0 → ∃ replies after,
      serveAll { session := { link, policy } } clients = some (replies, after)) ∧
    ∀ replies after, serveAll { session := { link, policy } } clients = some (replies, after) →
      ∃ served history,
        Session.runRecorded ({ link, policy }, []) (served.flatten.filterMap Line.event?) =
          some (after.session, history) ∧
        (after.outcome = .error .deviceFailed ↔ ReachesLimit policy.errorLimit history) ∧
        (after.outcome = .ok () ↔ ¬ ReachesLimit policy.errorLimit history) ∧
        (¬ ReachesLimit policy.errorLimit history → served = linesOf clients ∧
          Session.AnswersAll { link, policy } served replies after.session) ∧
        (ReachesLimit policy.errorLimit history →
          ∃ before address chunks behind earlier own between first line rest,
            clients = before ++ (address, chunks) :: behind ∧
            served = linesOf before ++ [first ++ line :: rest] ∧
            replies = earlier ++ own :: behind.map (fun _ => []) ∧
            Session.AnswersAll { link, policy } (linesOf before) earlier between ∧
            Connection.StopsAt {} between first line rest own after.session ∧
            LineBuffer.Divides {} chunks first line rest) := by
  refine ⟨fun hlimit => exists_serveAll hlimit {} clients, fun replies after hserve => ?_⟩
  obtain ⟨hstay, hanswers⟩ | ⟨hstops, before, address, chunks, behind, earlier, own, between, first,
    line, rest, hclients, hreplies, hbefore, hown, hdivides⟩ := serveAll_cases hserve rfl
  · obtain ⟨history, hrun⟩ := hanswers.exists_runRecorded []
    have hcounts := (Session.Counts.start link policy).run hrun
    have hbelow : ¬ ReachesLimit policy.errorLimit history :=
      hcounts.isShuttingDown_iff.not.mp (ne_true_of_eq_false hstay)
    obtain ⟨herror, hok⟩ := outcome_iff hcounts
    exact ⟨_, history, hrun, herror, hok, fun _ => ⟨rfl, hanswers⟩, fun h => absurd h hbelow⟩
  · obtain ⟨last, hlines⟩ := hown.exists_answers
    obtain ⟨history, hrun⟩ := (hbefore.append (.cons hlines (.nil _))).exists_runRecorded []
    have hcounts := (Session.Counts.start link policy).run hrun
    have hreached : ReachesLimit policy.errorLimit history := hcounts.isShuttingDown_iff.mp hstops
    obtain ⟨herror, hok⟩ := outcome_iff hcounts
    exact ⟨_, history, hrun, herror, hok, fun h => absurd hreached h,
      fun _ => ⟨before, address, chunks, behind, earlier, own, between, first, line, rest, hclients,
        rfl, hreplies, hbefore, hown, hdivides⟩⟩

/-! ### A device that talks too much -/

/-- A session that allows no device error, with a device whose first answer is longer than any that
is read. -/
def strict : Session where
  link := { device := { queue := [Frame.onWire true (List.replicate 256 0x78)] } }
  policy := { errorLimit := 1 }

/-- The first command makes this session stop. -/
theorem exists_execute_strict : ∃ outcome after,
    strict.execute .setDefaults [] = some (outcome, after) ∧ after.isShuttingDown = true ∧
      after.deviceFailed = true := by
  have hframe : Command.frame .setDefaults [] = .ok "^S005PF".toList := by decide
  have hanswer : Frame.terminator ∉ List.replicate 256 (0x78 : UInt8) :=
    fun hmem => absurd (List.eq_of_mem_replicate hmem) (by decide)
  have hroom : ¬ (Frame.onWire strict.link.flags.readChecksum (List.replicate 256 0x78)).length ≤
      Link.answerCapacity := by
    rw [Link.length_onWire, List.length_replicate]
    decide
  obtain ⟨link, hexecute⟩ := strict.link.execute_of_queue hframe (by decide) hanswer rfl rfl
  rw [if_neg hroom] at hexecute
  have hfresh : ¬ strict.HasFresh .setDefaults [] := by
    rintro ⟨cached, hget, -⟩
    cases hget
  refine ⟨.error (Error.collapse (.frame .bufferFull)),
    strict.executed .setDefaults [] (.error (.frame .bufferFull)) link, ?_, rfl, rfl⟩
  rw [Session.execute_of_not_hasFresh hfresh]
  exact Option.map_eq_some_iff.mpr ⟨_, hexecute, rfl⟩

/-- A command, and a word that no request begins with. -/
def commandAndWord : List UInt8 :=
  Utf8.encode "exec set-rated-defaults\r\nx\r\n".toList

theorem feed_commandAndWord : LineBuffer.feed {} commandAndWord =
    ([.request "exec set-rated-defaults".toList, .request ['x']], {}) := by
  have hfirst : LineBuffer.next? (LineBuffer.append {} commandAndWord) =
      (some (.request "exec set-rated-defaults".toList), ⟨[0x78, 0x0D, 0x0A], false⟩) := by
    decide +kernel
  have hsecond : LineBuffer.next? ⟨[0x78, 0x0D, 0x0A], false⟩ = (some (.request ['x']), {}) := by
    decide
  have hlast : LineBuffer.drain {} = ([], {}) := LineBuffer.drain_of_none rfl
  rw [LineBuffer.feed, LineBuffer.drain_of_some hfirst, LineBuffer.drain_of_some hsecond, hlast]

/-- The word behind the command is answered, although the session is to stop. -/
theorem exists_serve_strict : ∃ failure refusal after,
    Connection.serve {} strict {} [commandAndWord] = some ([failure, refusal], after) ∧
      after.isShuttingDown = true ∧ after.deviceFailed = true := by
  obtain ⟨outcome, after, hexecute, hstop, hfailed⟩ := exists_execute_strict
  have hrequest :
      Request.ofLine "exec set-rated-defaults".toList = .ok (.execute .setDefaults []) := by
    decide
  set failure := Reply.ofOutcome .json outcome
  set refusal := Reply.ofError .json (.argument (.unknownToken "x"))
  have hanswer : Connection.answer {} strict
      [.request "exec set-rated-defaults".toList, .request ['x']] =
        some ⟨[failure, refusal], {}, after, false⟩ := by
    rw [Connection.answer, Connection.respond, hrequest]
    dsimp only
    rw [hexecute]
    rfl
  refine ⟨failure, refusal, after, ?_, hstop, hfailed⟩
  rw [Connection.serve_cons (by decide), feed_commandAndWord]
  dsimp only
  rw [hanswer, Option.bind_some]
  dsimp only
  rw [Connection.serve_of_stopped hstop]
  rfl

/-- The command of the first client is decisive. The word behind it is still refused, and the second
client, who sends the same, gets nothing. -/
theorem stops_of_serveAll_strict :
    ∃ (replies : List (List Reply)) (after : Server) (served : List (List Line))
      (history : List Execution),
      serveAll { session := strict } [("first", [commandAndWord]), ("second", [commandAndWord])] =
        some (replies, after) ∧
      replies.map List.length = [2, 0] ∧
      Session.runRecorded (strict, []) (served.flatten.filterMap Line.event?) =
        some (after.session, history) ∧
      ReachesLimit 1 history := by
  obtain ⟨failure, refusal, session, hserve, hstop, hfailed⟩ := exists_serve_strict
  have hopen : ¬ strict.isShuttingDown = true := Bool.false_ne_true
  obtain ⟨connections, hall⟩ := exists_serveAll_cons_eq hopen {}
    ("first", [commandAndWord]) [("second", [commandAndWord])]
  dsimp only at hall
  rw [hserve, Option.bind_some] at hall
  dsimp only at hall
  rw [serveAll_of_stopped hstop] at hall
  obtain ⟨-, hstops⟩ := stops_of_serveAll strict.link strict.policy
    [("first", [commandAndWord]), ("second", [commandAndWord])]
  obtain ⟨served, history, hrun, houtcome, -⟩ := hstops _ _ hall
  exact ⟨_, _, served, history, hall, rfl, hrun, houtcome.mp (if_pos hfailed)⟩

end Server

end InverterLink
