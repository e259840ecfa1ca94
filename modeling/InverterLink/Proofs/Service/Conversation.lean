import InverterLink.Proofs.Rendering
import InverterLink.Proofs.Service.Outcomes
import InverterLink.Proofs.Service.Replies
import InverterLink.Proofs.Service.Requests
import InverterLink.Service.Daemon

/-!
# One reply to each request

A connection answers the lines of its client one after another, and each reply depends on the line
and on what the lines before it have left. How the lines are spread over chunks does not matter for
this: they are answered as if all of them had come at once, unless the daemon is to stop in between.

Everything that a reply shows holds no line end. A refusal shows a word of the client, which is a
part of a line; a failure shows a plain message; a result shows what the device has sent up to its
first carriage return, or what it had sent before, which the invariant of the session covers. So the
replies can be told apart in what the client receives.

## Main definitions

* `Connection.replyTo`: the reply to one line.
* `Connection.Answers`: the replies to lines that follow each other.

## Main statements

* `Connection.endsIn_replyTo`: what one reply is like, and what it leaves.
* `Connection.Answers.isTidy`: what all replies are like, and what they leave.
* `Connection.exists_answers_of_serve`: what a client is sent are the replies to its lines.
* `Server.isTidy_of_serveAll`, `Daemon.isTidy_of_start`: every client meets a tidy session.
* `Connection.read_replies`: the client can tell the replies apart.
-/

namespace InverterLink

/-! ### Lines before the end -/

namespace Line

variable {line : Line} {lines : List Line}

theorem beforeEnded_cons (h : line ≠ ended) (lines : List Line) :
    beforeEnded (line :: lines) = line :: beforeEnded lines :=
  List.takeWhile_cons_of_pos (by simpa using h)

theorem beforeEnded_of_notMem (h : ended ∉ lines) : beforeEnded lines = lines := by
  induction lines with
  | nil => rfl
  | cons line lines ih =>
    rw [List.mem_cons, not_or] at h
    rw [beforeEnded_cons (Ne.symm h.1), ih h.2]

/-- Nothing matters behind the end of the connection. -/
theorem beforeEnded_append_of_mem (h : ended ∈ lines) (rest : List Line) :
    beforeEnded (lines ++ rest) = beforeEnded lines := by
  induction lines with
  | nil => exact absurd h List.not_mem_nil
  | cons line lines ih =>
    by_cases hline : line = ended
    · rw [hline]
      rfl
    · rw [List.cons_append, beforeEnded_cons hline, beforeEnded_cons hline,
        ih (List.mem_of_ne_of_mem (Ne.symm hline) h)]

theorem beforeEnded_append_of_notMem (h : ended ∉ lines) (rest : List Line) :
    beforeEnded (lines ++ rest) = lines ++ beforeEnded rest := by
  induction lines with
  | nil => rfl
  | cons line lines ih =>
    rw [List.mem_cons, not_or] at h
    rw [List.cons_append, beforeEnded_cons (Ne.symm h.1), ih h.2, List.cons_append]

end Line

/-! ### What a reply shows -/

namespace Reply

theorem not_hasLineEnd_ofError {e : Error} (h : ¬ HasLineEnd e.message.toList) (format : Format) :
    ¬ HasLineEnd (ofError format e).body := by
  have htidy : (Response.ofError e).IsTidy := h
  exact Response.not_hasLineEnd_render htidy format

theorem not_hasLineEnd_ofOutcome {outcome : Except Error Response}
    (h : EndsIn outcome Response.IsTidy fun e => IsPlain e.message.toList) (format : Format) :
    ¬ HasLineEnd (ofOutcome format outcome).body := by
  cases outcome with
  | ok response => exact Response.not_hasLineEnd_render h format
  | error e => exact not_hasLineEnd_ofError (IsPlain.not_hasLineEnd h) format

end Reply

namespace Connection

variable {c next last : Connection} {s between after : Session} {text : List Char} {line : Line}
  {lines : List Line} {reply : Reply} {replies : List Reply}

/-! ### One line -/

/-- **What a request can do.** It is refused, it concerns the connection alone, or it is a call of
the session. -/
theorem respond_cases (h : c.respond s text = some (reply, next, after)) :
    (∃ e, Request.ofLine text = .error e ∧ reply = Reply.ofError c.format e ∧ after = s) ∨
    (reply = ⟨true, []⟩ ∧ after = s) ∨
    ∃ command args outcome, s.execute command args = some (outcome, after) ∧
      reply = Reply.ofOutcome c.format outcome := by
  rw [respond] at h
  split at h
  · next e hrequest =>
    cases h
    exact .inl ⟨e, hrequest, rfl, rfl⟩
  · cases h
    exact .inr (.inl ⟨rfl, rfl⟩)
  · cases h
    exact .inr (.inl ⟨rfl, rfl⟩)
  · next command args _ =>
    obtain ⟨⟨outcome, after'⟩, hexecute, h⟩ := Option.map_eq_some_iff.mp h
    cases h
    exact .inr (.inr ⟨command, args, outcome, hexecute, rfl⟩)

/-- The reply to a line, with the states after it. The end of the connection has none. -/
def replyTo (c : Connection) (s : Session) : Line → Option (Reply × Connection × Session)
  | .request text => c.respond s text
  | .oversized => some (Reply.ofError c.format (.argument (.oversized Line.limit)), c, s)
  | .ended => none

/-- **The reply to an unbroken line** has no line end in its body, and leaves the session tidy. -/
theorem endsIn_replyTo (htidy : s.IsTidy) (hline : line.IsUnbroken)
    (h : c.replyTo s line = some (reply, next, after)) :
    ¬ HasLineEnd reply.body ∧ after.IsTidy := by
  cases line with
  | ended => cases h
  | oversized =>
    cases h
    have hmessage : IsPlain (Error.argument (.oversized Line.limit)).message.toList := by
      rw [Error.message_argument, ArgumentError.message.eq_def]
      simp only [isPlain_toList_append]
      exact ⟨⟨by decide, isPlain_toString _⟩, by decide⟩
    exact ⟨Reply.not_hasLineEnd_ofError hmessage.not_hasLineEnd c.format, htidy⟩
  | request text =>
    obtain ⟨e, hrequest, rfl, rfl⟩ | ⟨rfl, rfl⟩ | ⟨command, args, outcome, hexecute, rfl⟩ :=
      respond_cases h
    · have hmessage := (Request.endsIn_ofLine hline).of_error hrequest
      exact ⟨Reply.not_hasLineEnd_ofError hmessage c.format, htidy⟩
    · exact ⟨isPlain_nil.not_hasLineEnd, htidy⟩
    · obtain ⟨houtcome, hafter⟩ := Session.endsIn_execute htidy hexecute
      exact ⟨Reply.not_hasLineEnd_ofOutcome houtcome c.format, hafter⟩

theorem precedes_replyTo (h : c.replyTo s line = some (reply, next, after)) : s.Precedes after := by
  cases line with
  | ended => cases h
  | oversized =>
    cases h
    exact .refl
  | request text =>
    obtain ⟨e, -, -, rfl⟩ | ⟨-, rfl⟩ | ⟨command, args, outcome, hexecute, -⟩ := respond_cases h
    · exact .refl
    · exact .refl
    · exact Session.precedes_execute hexecute

/-- There is a reply to every line, if the link has a limit. -/
theorem exists_replyTo (hlimit : s.link.timeout ≠ 0) (c : Connection) (hline : line ≠ .ended) :
    ∃ reply next after, c.replyTo s line = some (reply, next, after) := by
  cases line with
  | ended => exact absurd rfl hline
  | oversized => exact ⟨_, _, _, rfl⟩
  | request text =>
    rw [replyTo, respond]
    split
    · exact ⟨_, _, _, rfl⟩
    · exact ⟨_, _, _, rfl⟩
    · exact ⟨_, _, _, rfl⟩
    · next command args _ =>
      obtain ⟨outcome, after, hexecute⟩ := Session.exists_execute hlimit command args
      rw [hexecute]
      exact ⟨_, _, _, rfl⟩

/-! ### All lines -/

/-- Replies to lines that follow each other, from the states before the first one to those after the
last one. -/
inductive Answers :
    Connection → Session → List Line → List Reply → Connection → Session → Prop where
  | nil (c : Connection) (s : Session) : Answers c s [] [] c s
  | cons {c next last : Connection} {s between after : Session} {line : Line} {lines : List Line}
    {reply : Reply} {replies : List Reply}
    (hreply : c.replyTo s line = some (reply, next, between))
    (hreplies : Answers next between lines replies last after) :
    Answers c s (line :: lines) (reply :: replies) last after

namespace Answers

theorem length_eq (h : c.Answers s lines replies last after) : replies.length = lines.length := by
  induction h with
  | nil c s => rfl
  | cons hreply hreplies ih => rw [List.length_cons, List.length_cons, ih]

theorem append {lines' : List Line} {replies' : List Reply}
    (h : c.Answers s lines replies next between)
    (h' : next.Answers between lines' replies' last after) :
    c.Answers s (lines ++ lines') (replies ++ replies') last after := by
  induction h with
  | nil c s => exact h'
  | cons hreply hreplies ih => exact .cons hreply (ih h')

theorem precedes (h : c.Answers s lines replies last after) : s.Precedes after := by
  induction h with
  | nil c s => exact .refl
  | cons hreply hreplies ih => exact (precedes_replyTo hreply).trans ih

/-- **The replies to unbroken lines** have no line ends in their bodies, and leave the session
tidy. -/
theorem isTidy (h : c.Answers s lines replies last after) (htidy : s.IsTidy)
    (hlines : ∀ line ∈ lines, line.IsUnbroken) :
    (∀ reply ∈ replies, ¬ HasLineEnd reply.body) ∧ after.IsTidy := by
  induction h with
  | nil c s => exact ⟨fun _ hmem => absurd hmem List.not_mem_nil, htidy⟩
  | cons hreply hreplies ih =>
    obtain ⟨hline, hlines⟩ := List.forall_mem_cons.mp hlines
    -- the session is tidy between two lines, so the next reply may come from the cache
    obtain ⟨hbody, hbetween⟩ := endsIn_replyTo htidy hline hreply
    obtain ⟨hbodies, hafter⟩ := ih hbetween hlines
    exact ⟨List.forall_mem_cons.mpr ⟨hbody, hbodies⟩, hafter⟩

end Answers

/-- The first of some lines is answered, and then the others. -/
theorem answer_cons (h : line ≠ .ended) (lines : List Line) :
    c.answer s (line :: lines) = do
      let (reply, next, between) ← c.replyTo s line
      let rest ← next.answer between lines
      return { rest with replies := reply :: rest.replies } := by
  cases line with
  | ended => exact absurd rfl h
  | oversized => rfl
  | request text => rfl

/-- The lines up to the end of the connection are answered. -/
theorem answers_of_answer {answered : Answered} (h : c.answer s lines = some answered) :
    c.Answers s (Line.beforeEnded lines) answered.replies answered.connection answered.session ∧
      (answered.isEnded = true ↔ .ended ∈ lines) := by
  induction lines generalizing c s answered with
  | nil =>
    cases h
    exact ⟨.nil c s, iff_of_false Bool.false_ne_true List.not_mem_nil⟩
  | cons line lines ih =>
    by_cases hline : line = .ended
    · rw [hline] at h ⊢
      cases h
      exact ⟨.nil c s, iff_of_true rfl List.mem_cons_self⟩
    · rw [answer_cons hline] at h
      obtain ⟨⟨reply, next, between⟩, hreply, h⟩ := Option.bind_eq_some_iff.mp h
      obtain ⟨rest, hrest, h⟩ := Option.bind_eq_some_iff.mp h
      cases h
      obtain ⟨hanswers, hended⟩ := ih hrest
      rw [Line.beforeEnded_cons hline, hended, List.mem_cons, or_iff_right (Ne.symm hline)]
      exact ⟨.cons hreply hanswers, Iff.rfl⟩

/-- A client that chooses a table and then asks for what there is not. -/
example :
    ((answer {} { link := {} } (["format table", "exec get-month-generated 2024 13", "hello", "v 2",
      "exec", "raw ^P005PI"].map fun text => .request text.toList)).map fun answered =>
        answered.replies.map fun reply => String.ofList reply.text) =
    some ["ok\r\n\r\n", "err\r\nerror: invalid month\r\n\r\n",
      "err\r\nerror: invalid token: hello\r\n\r\n",
      "err\r\nerror: invalid protocol version\r\n\r\n",
      "err\r\nerror: invalid arguments count: expected 1, got 0\r\n\r\n",
      "err\r\nerror: not implemented\r\n\r\n"] := by
  decide +kernel

/-- Lines are answered if the link has a limit. -/
theorem exists_answer (hlimit : s.link.timeout ≠ 0) (c : Connection) (lines : List Line) :
    ∃ answered, c.answer s lines = some answered := by
  induction lines generalizing c s with
  | nil => exact ⟨_, rfl⟩
  | cons line lines ih =>
    by_cases hline : line = .ended
    · rw [hline]
      exact ⟨_, rfl⟩
    · obtain ⟨reply, next, between, hreply⟩ := exists_replyTo hlimit c hline
      have hbetween := (precedes_replyTo hreply).timeout_eq
      obtain ⟨rest, hrest⟩ := ih (hbetween ▸ hlimit) next
      rw [answer_cons hline, hreply, Option.bind_eq_bind, Option.bind_some]
      dsimp only
      rw [hrest]
      exact ⟨_, rfl⟩

/-! ### All chunks -/

variable {b : LineBuffer} {chunks : List (List UInt8)}

/-- Nothing is read once the daemon is to stop. -/
theorem serve_of_stopped (h : s.isShuttingDown = true) (c : Connection) (b : LineBuffer)
    (chunks : List (List UInt8)) : c.serve s b chunks = some ([], s) := by
  cases chunks with
  | nil => rw [serve, if_pos h]
  | cons chunk chunks => rw [serve, if_pos h]

theorem serve_nil (h : ¬ s.isShuttingDown = true) : c.serve s b [] =
    (c.answer s b.finish.1).map fun answered => (answered.replies, answered.session) := by
  rw [serve, if_neg h]

/-- The lines of a chunk are answered, and then the others, unless the client has ended the
connection. -/
theorem serve_cons (h : ¬ s.isShuttingDown = true) (chunk : List UInt8)
    (chunks : List (List UInt8)) :
    c.serve s b (chunk :: chunks) = (c.answer s (b.feed chunk).1).bind fun answered =>
      if answered.isEnded then some (answered.replies, answered.session)
      else (answered.connection.serve answered.session (b.feed chunk).2 chunks).map
        (Prod.map (answered.replies ++ ·) id) := by
  rw [serve, if_neg h]
  refine congrArg (Option.bind _) (funext fun answered => ?_)
  dsimp only
  split_ifs
  · rfl
  · rw [Option.map_eq_bind]
    rfl

/-- A connection is served to its end if the link has a limit. -/
theorem exists_serve (hlimit : s.link.timeout ≠ 0) (c : Connection) (b : LineBuffer)
    (chunks : List (List UInt8)) : ∃ replies after, c.serve s b chunks = some (replies, after) := by
  induction chunks generalizing c s b with
  | nil =>
    by_cases hstop : s.isShuttingDown = true
    · exact ⟨_, _, serve_of_stopped hstop c b []⟩
    · obtain ⟨answered, hanswered⟩ := exists_answer hlimit c b.finish.1
      rw [serve_nil hstop, hanswered]
      exact ⟨_, _, rfl⟩
  | cons chunk chunks ih =>
    by_cases hstop : s.isShuttingDown = true
    · exact ⟨_, _, serve_of_stopped hstop c b (chunk :: chunks)⟩
    · obtain ⟨answered, hanswered⟩ := exists_answer hlimit c (b.feed chunk).1
      have hbetween := (answers_of_answer hanswered).1.precedes.timeout_eq
      obtain ⟨replies, after, hrest⟩ :=
        ih (hbetween ▸ hlimit) answered.connection (b.feed chunk).2
      rw [serve_cons hstop, hanswered, Option.bind_some, hrest]
      split_ifs
      · exact ⟨_, _, rfl⟩
      · exact ⟨_, _, rfl⟩

/-- A connection that is closed since the daemon is to stop has answered the first lines. -/
theorem exists_answers_of_stopped (hstop : s.isShuttingDown = true) (c : Connection)
    (all : List Line) : ∃ lines last, c.Answers s lines [] last s ∧ lines <+: all ∧
      (s.isShuttingDown = false → lines = all) := by
  refine ⟨[], c, .nil c s, List.nil_prefix, fun hstay => ?_⟩
  exact absurd hstop (ne_true_of_eq_false hstay)

/-- **What a client is sent** are the replies to its lines: to all of them, unless the daemon is to
stop, and then to the first of them. -/
theorem exists_answers_of_serve (h : c.serve s b chunks = some (replies, after)) :
    ∃ lines last, c.Answers s lines replies last after ∧
      lines <+: Line.beforeEnded (b.decode chunks) ∧
      (after.isShuttingDown = false → lines = Line.beforeEnded (b.decode chunks)) := by
  -- The induction is on the chunks. Each of them leaves other states and another buffer to the
  -- next.
  induction chunks generalizing c s b replies with
  | nil =>
    by_cases hstop : s.isShuttingDown = true
    · rw [serve_of_stopped hstop] at h
      cases h
      exact exists_answers_of_stopped hstop c _
    · rw [serve_nil hstop] at h
      obtain ⟨answered, hanswered, h⟩ := Option.map_eq_some_iff.mp h
      cases h
      exact ⟨_, _, (answers_of_answer hanswered).1, List.prefix_rfl, fun _ => rfl⟩
  | cons chunk chunks ih =>
    by_cases hstop : s.isShuttingDown = true
    · rw [serve_of_stopped hstop] at h
      cases h
      exact exists_answers_of_stopped hstop c _
    · rw [serve_cons hstop] at h
      rw [LineBuffer.decode]
      obtain ⟨answered, hanswered, h⟩ := Option.bind_eq_some_iff.mp h
      obtain ⟨hanswers, hended⟩ := answers_of_answer hanswered
      split_ifs at h with hend
      · cases h
        rw [Line.beforeEnded_append_of_mem (hended.mp hend)]
        exact ⟨_, _, hanswers, List.prefix_rfl, fun _ => rfl⟩
      · obtain ⟨⟨later, after'⟩, hrest, h⟩ := Option.map_eq_some_iff.mp h
        cases h
        have hopen : .ended ∉ (b.feed chunk).1 := fun hmem => hend (hended.mpr hmem)
        obtain ⟨lines, last, hlater, hfirst, hall⟩ := ih hrest
        rw [Line.beforeEnded_of_notMem hopen] at hanswers
        rw [Line.beforeEnded_append_of_notMem hopen]
        refine ⟨_, last, hanswers.append hlater, (List.prefix_append_right_inj _).mpr hfirst, ?_⟩
        intro hstay
        rw [hall hstay]

/-- What a client is sent holds no line ends but those around the bodies, and a tidy session stays
so. -/
theorem isTidy_of_serve (h : c.serve s {} chunks = some (replies, after)) (htidy : s.IsTidy) :
    (∀ reply ∈ replies, ¬ HasLineEnd reply.body) ∧ after.IsTidy := by
  obtain ⟨lines, last, hanswers, hfirst, -⟩ := exists_answers_of_serve h
  refine hanswers.isTidy htidy fun line hline => ?_
  exact LineBuffer.isUnbroken_of_mem_decode (hfirst.subset hline)

end Connection

/-! ### All connections -/

namespace Server

variable {session : Session} {connections : Registry} {after : Server}
  {clients : List (String × List (List UInt8))} {replies : List (List Reply)}

/-- A server that is to stop does nothing. -/
theorem serveAll_of_stopped (hstop : session.isShuttingDown = true) (connections : Registry)
    (clients : List (String × List (List UInt8))) :
    serveAll ⟨session, connections⟩ clients =
      some (clients.map fun _ => [], ⟨session, connections⟩) := by
  induction clients with
  | nil => rfl
  | cons client clients ih =>
    rw [serveAll, if_pos hstop, ih]
    rfl

/-- Otherwise it serves the first client, and then the others. -/
theorem exists_serveAll_cons_eq (hopen : ¬ session.isShuttingDown = true) (connections : Registry)
    (client : String × List (List UInt8)) (clients : List (String × List (List UInt8))) :
    ∃ next, serveAll ⟨session, connections⟩ (client :: clients) =
      (Connection.serve {} session {} client.2).bind fun (first, between) =>
        (serveAll ⟨between, next⟩ clients).map (Prod.map (first :: ·) id) := by
  obtain ⟨address, chunks⟩ := client
  refine ⟨(connections.register address).2.remove (connections.register address).1, ?_⟩
  rw [serveAll, if_neg hopen, serveConnection]
  dsimp only
  rcases Connection.serve {} session {} chunks with _ | ⟨first, between⟩
  · rfl
  · rw [Option.map_some, Option.bind_some, Option.map_eq_bind]
    rfl

/-- **A tidy session stays tidy** whatever connections are served. -/
theorem isTidy_of_serveAll (h : serveAll ⟨session, connections⟩ clients = some (replies, after))
    (htidy : session.IsTidy) : after.session.IsTidy := by
  induction clients generalizing session connections replies with
  | nil =>
    cases h
    exact htidy
  | cons client clients ih =>
    by_cases hstop : session.isShuttingDown = true
    · rw [serveAll_of_stopped hstop] at h
      cases h
      exact htidy
    · obtain ⟨next, hcons⟩ := exists_serveAll_cons_eq hstop connections client clients
      rw [hcons] at h
      obtain ⟨⟨first, between⟩, hserve, h⟩ := Option.bind_eq_some_iff.mp h
      obtain ⟨⟨later, last⟩, hlater, h⟩ := Option.map_eq_some_iff.mp h
      cases h
      exact ih hlater (Connection.isTidy_of_serve hserve htidy).2

end Server

namespace Daemon

variable {host : Host} {settings : Settings} {log : List LogEntry}

theorem isTidy_of_openSession {session : Session}
    (h : openSession host settings = (.ok session, log)) : session.IsTidy := by
  rw [openSession] at h
  split at h
  · cases h
    exact Session.isTidy_of_empty rfl
  · cases h

/-- The session of a daemon that has started is tidy. -/
theorem isTidy_of_start {server : Server} (h : start host settings = (.ok server, log)) :
    server.session.IsTidy := by
  rw [start] at h
  split at h
  · cases h
  · next session opened hopened =>
    dsimp only at h
    split at h
    · cases h
    · cases h
      exact isTidy_of_openSession hopened

end Daemon

namespace Connection

/-! ### The client -/

/-- **A client can tell the replies apart.** Whatever it sends in whatever chunks, and whatever the
device answers, it is sent one reply to each of its lines before the end of the connection, in
order, unless the daemon is to stop. Every reply ends in an empty line and has no other, in every
format, so cutting what is sent behind the empty lines gives the replies. -/
theorem read_replies (c : Connection) {s : Session} (htidy : s.IsTidy)
    (chunks : List (List UInt8)) :
    (s.link.timeout ≠ 0 → ∃ replies after, c.serve s {} chunks = some (replies, after)) ∧
      ∀ replies after, c.serve s {} chunks = some (replies, after) →
        ∃ lines last, c.Answers s lines replies last after ∧ after.IsTidy ∧
          lines <+: Line.beforeEnded (LineBuffer.decode {} chunks) ∧
          (after.isShuttingDown = false →
            lines = Line.beforeEnded (LineBuffer.decode {} chunks)) ∧
          replies.length = lines.length ∧ (∀ reply ∈ replies, IsSealed reply.bytes) ∧
          ReplyReader.read (replies.map Reply.bytes).flatten = ⟨replies.map Reply.bytes, []⟩ := by
  refine ⟨fun hlimit => exists_serve hlimit c {} chunks, fun replies after hserve => ?_⟩
  obtain ⟨lines, last, hanswers, hfirst, hall⟩ := exists_answers_of_serve hserve
  obtain ⟨hbodies, hafter⟩ := isTidy_of_serve hserve htidy
  have hsealed : ∀ reply ∈ replies, IsSealed reply.bytes := fun reply hreply =>
    Reply.isSealed_bytes (hbodies reply hreply)
  refine ⟨lines, last, hanswers, hafter, hfirst, hall, hanswers.length_eq, hsealed, ?_⟩
  refine ReplyReader.read_flatten fun part hpart => ?_
  obtain ⟨reply, hreply, rfl⟩ := List.mem_map.mp hpart
  exact hsealed reply hreply

/-- Two words that no request begins with, and the second one is not followed by a line end. A chunk
ends inside the line end of the first one. -/
theorem read_replies_of_two_words :
    ∃ replies after, Connection.serve {} { link := {} } {} [[0x78, 0x0D], [0x0A, 0x79]] =
        some (replies, after) ∧ replies.length = 2 ∧
      ReplyReader.read (replies.map Reply.bytes).flatten = ⟨replies.map Reply.bytes, []⟩ := by
  have hfirst : LineBuffer.feed {} [0x78, 0x0D] = ([], ⟨[0x78, 0x0D], false⟩) :=
    LineBuffer.drain_of_none rfl
  have hsecond : LineBuffer.feed ⟨[0x78, 0x0D], false⟩ [0x0A, 0x79] =
      ([.request ['x']], ⟨[0x79], false⟩) := by
    have hnext : LineBuffer.next? ⟨[0x78, 0x0D, 0x0A, 0x79], false⟩ =
        (some (.request ['x']), ⟨[0x79], false⟩) := rfl
    have hquiet : LineBuffer.drain ⟨[0x79], false⟩ = ([], ⟨[0x79], false⟩) :=
      LineBuffer.drain_of_none rfl
    refine (LineBuffer.drain_of_some hnext).trans ?_
    rw [hquiet]
  have hlast : (LineBuffer.finish ⟨[0x79], false⟩).1 = [.request ['y']] :=
    LineBuffer.finish_of_isQuiet rfl
  have htidy : Session.IsTidy { link := {} } := Session.isTidy_of_empty rfl
  obtain ⟨hexists, hall⟩ := read_replies {} htidy [[0x78, 0x0D], [0x0A, 0x79]]
  obtain ⟨replies, after, hserve⟩ := hexists (by decide)
  obtain ⟨lines, last, -, -, -, hlines, hlength, -, hread⟩ := hall replies after hserve
  refine ⟨replies, after, hserve, ?_, hread⟩
  have hstay : after.isShuttingDown = false := by
    simp only [serve, hfirst, hsecond, hlast] at hserve
    cases hserve
    rfl
  rw [hlength, hlines hstay, LineBuffer.decode, hfirst, LineBuffer.decode, hsecond,
    LineBuffer.decode, hlast]
  rfl

end Connection

end InverterLink
