import InverterLink.Proofs.Service.Traffic

/-!
# Clients do not notice each other

What a line comes to depends on the line and on the session alone, and how it is shown depends on
the connection alone, which only the lines of its own client change. So the lines of other clients
can make a difference in one way, through the session; and of these, only those that ask for an
accepted command reach it. When all the other lines are taken out of a run, and the time before them
is left in, a client is sent the same replies, and the device and the decision to stop are the same.

## Main definitions

* `Session.resultOf`: what a line comes to, whoever sends it.
* `Clients.chosen`: the format that a client has chosen last.
* `Clients.heardBy`: a run without the lines of others that ask for no accepted command.
* `Clients.seenBy`: the replies to a client, the device and the decision to stop.

## Main statements

* `Connection.replyTo_eq`: a reply as the result of a line, shown in the format of the connection.
* `Clients.format_of_run`: the format of a connection.
* `Clients.seenBy_run_heardBy`: what a client sees of two runs.
* `Clients.isolated_of_run`: both about all runs from the start.
-/

namespace InverterLink

/-! ### Lines that choose a format -/

namespace Line

variable {line : Line} {format : Format}

/-- The format that a line chooses. -/
def format? : Line → Option Format
  | .request text =>
    match Request.ofLine text with
    | .ok (.chooseFormat format) => some format
    | _ => none
  | _ => none

end Line

/-- Words are read as the choice of a format if they name one. -/
theorem Request.ofWords_eq_chooseFormat_iff {words : List String} {format : Format} :
    ofWords words = .ok (chooseFormat format) ↔
      ∃ name, words = ["format", name] ∧ Format.ofName name = .ok format := by
  constructor
  · intro h
    obtain ⟨_, -, h⟩ | ⟨name, _, hwords, hname, h⟩ | ⟨_, _, _, _, -, -, h⟩ := ofWords_cases h
    · cases h
    · cases h
      exact ⟨name, hwords, hname⟩
    · cases h
  · rintro ⟨name, rfl, hname⟩
    rw [ofWords.eq_def]
    simp only [single, ok_bind, hname]
    rfl

/-- **A line chooses a format** if it consists of the word for this and the name of a format. -/
theorem Line.format?_eq_some_iff {line : Line} {format : Format} : line.format? = some format ↔
    ∃ text name, line = .request text ∧ Request.words text = ["format", name] ∧
      Format.ofName name = .ok format := by
  cases line with
  | request text =>
    have hrequest : Request.ofLine text = .ok (.chooseFormat format) ↔ ∃ name,
        Request.words text = ["format", name] ∧ Format.ofName name = .ok format :=
      Request.ofWords_eq_chooseFormat_iff
    simp only [request.injEq, exists_and_left, exists_eq_left', ← hrequest, format?]
    rcases Request.ofLine text with e | _ | chosen | ⟨command, args⟩ <;> simp
  | oversized => simp [format?]
  | ended => simp [format?]

/-- Words that begin like a choice are read as one, or refused. -/
theorem Request.ofWords_format (args : List String) :
    (∃ format, ofWords ("format" :: args) = .ok (chooseFormat format)) ∨
      ∃ e, ofWords ("format" :: args) = .error e := by
  rcases hread : ofWords ("format" :: args) with e | request
  · exact .inr ⟨e, rfl⟩
  · obtain ⟨_, hwords, -⟩ | ⟨_, format, -, -, rfl⟩ | ⟨_, _, _, _, hwords, -⟩ := ofWords_cases hread
    · simp at hwords
    · exact .inl ⟨format, rfl⟩
    · simp at hwords

/-! ### Results and how they are shown -/

/-- Pauses that follow each other are one. -/
theorem Session.wait_wait (s : Session) (time time' : Nat) :
    (s.wait time).wait time' = s.wait (time + time') := by
  simp only [wait, Link.wait, Nat.add_assoc]

/-- What a line comes to, with the session after it, whoever sends it: an outcome, if there is one
to be shown. The end of a connection comes to nothing. -/
def Session.resultOf (s : Session) : Line → Option (Option (Except Error Response) × Session)
  | .ended => none
  | .oversized => some (some (.error (.argument (.oversized Line.limit))), s)
  | .request text =>
    match Request.ofLine text with
    | .error e => some (some (.error e), s)
    | .ok .handshake => some (none, s)
    | .ok (.chooseFormat _) => some (none, s)
    | .ok (.execute command args) =>
      (s.execute command args).map fun (outcome, after) => (some outcome, after)

/-- A line that asks for no accepted command comes to the same in every session, and leaves it as it
is. -/
theorem Session.exists_resultOf_eq {line : Line} (hcall : line.call? = none)
    (hline : line ≠ .ended) : ∃ result, ∀ s : Session, s.resultOf line = some (result, s) := by
  cases line with
  | ended => exact absurd rfl hline
  | oversized => exact ⟨_, fun _ => rfl⟩
  | request text =>
    simp only [resultOf]
    rw [Line.call?] at hcall
    rcases hrequest : Request.ofLine text with e | _ | format | ⟨command, args⟩
    · exact ⟨_, fun _ => rfl⟩
    · exact ⟨_, fun _ => rfl⟩
    · exact ⟨_, fun _ => rfl⟩
    · rw [hrequest] at hcall
      cases hcall

/-- The request for a format has no result if it makes a choice, and is refused otherwise; both
leave the session as it is. -/
theorem Session.resultOf_format {text : List Char} {args : List String}
    (hwords : Request.words text = "format" :: args) (s : Session) :
    (∃ format, (Line.request text).format? = some format ∧
      s.resultOf (.request text) = some (none, s)) ∨
      ∃ e, (Line.request text).format? = none ∧
        s.resultOf (.request text) = some (some (.error e), s) := by
  rw [Line.format?, resultOf, Request.ofLine, hwords]
  obtain ⟨format, hchosen⟩ | ⟨e, hrefused⟩ := Request.ofWords_format args
  · rw [hchosen]
    exact .inl ⟨format, rfl, rfl⟩
  · rw [hrefused]
    exact .inr ⟨e, rfl, rfl⟩

/-- The reply that shows what a line has come to. Where there is nothing to show, the body is
empty. -/
def Reply.ofResult (format : Format) : Option (Except Error Response) → Reply
  | none => ⟨true, []⟩
  | some outcome => ofOutcome format outcome

namespace Connection

/-- The connection after a line. -/
def following (c : Connection) (line : Line) : Connection :=
  { c with format := line.format?.getD c.format }

theorem following_of_none {line : Line} (h : line.format? = none) (c : Connection) :
    c.following line = c := by
  rw [following, h]
  rfl

/-- **A reply is the result of the line, shown in the format of the connection.** -/
theorem replyTo_eq (c : Connection) (s : Session) (line : Line) :
    c.replyTo s line = (s.resultOf line).map fun (result, after) =>
      (Reply.ofResult c.format result, c.following line, after) := by
  cases line with
  | ended => rfl
  | oversized => rfl
  | request text =>
    rw [replyTo, respond, Session.resultOf, following, Line.format?]
    rcases Request.ofLine text with e | _ | format | ⟨command, args⟩
    · rfl
    · rfl
    · rfl
    · dsimp only
      rw [Option.map_map]
      rfl

end Connection

namespace Clients

variable {start c c' : Clients} {event : Event} {events : List Event} {replies : List Reply}
  {client mine time : Nat}

/-- The clients after a line, and the session that it has left. -/
def following (c : Clients) (event : Event) (session : Session) : Clients where
  session := session
  connections := Function.update c.connections event.client
    ((c.connections event.client).following event.line)

theorem connections_following_self (c : Clients) (event : Event) (session : Session) :
    (c.following event session).connections event.client =
      (c.connections event.client).following event.line :=
  Function.update_self _ _ _

theorem connections_following_of_ne (h : event.client ≠ client) (c : Clients) (session : Session) :
    (c.following event session).connections client = c.connections client :=
  Function.update_of_ne (Ne.symm h) _ _

/-- Connections that are alike before a line are alike behind it. -/
theorem connections_following_congr (h : c.connections client = c'.connections client)
    (event : Event) (session session' : Session) :
    (c.following event session).connections client =
      (c'.following event session').connections client := by
  by_cases hclient : event.client = client
  · subst hclient
    rw [connections_following_self, connections_following_self, h]
  · rw [connections_following_of_ne hclient, connections_following_of_ne hclient, h]

/-- A step as the result of the line, shown to the client that has sent it. -/
theorem step_eq (c : Clients) (event : Event) :
    c.step event = ((c.before event).resultOf event.line).map fun (result, session) =>
      (Reply.ofResult (c.connections event.client).format result, c.following event session) := by
  rw [step, Connection.replyTo_eq, Option.map_map]
  rfl

/-! ### The format of a connection -/

/-- The format that a client has chosen last. -/
def chosen (client : Nat) (events : List Event) : Option Format :=
  ((events.filter (·.client = client)).filterMap (·.line.format?)).getLast?

/-- A choice holds until the client makes another one. -/
theorem getD_chosen_cons (client : Nat) (event : Event) (events : List Event) (format : Format) :
    (chosen client (event :: events)).getD format =
      (chosen client events).getD
        (if event.client = client then event.line.format?.getD format else format) := by
  rw [chosen, chosen, List.filter_cons]
  by_cases hclient : event.client = client
  · simp only [hclient, decide_true, if_true]
    rw [List.filterMap_cons]
    rcases hformat : event.line.format? with _ | first
    · rfl
    · simp [List.getLast?_cons]
  · simp only [hclient, decide_false, if_false, Bool.false_eq_true]

/-- **The format of a connection is the one that its client has chosen last.** -/
theorem format_of_run (hrun : start.run events = some (replies, c)) (client : Nat) :
    (c.connections client).format =
      (chosen client events).getD (start.connections client).format := by
  induction events generalizing start replies with
  | nil =>
    cases hrun
    rfl
  | cons event events ih =>
    rw [run_cons] at hrun
    obtain ⟨⟨reply, next⟩, hstep, hrun⟩ := Option.bind_eq_some_iff.mp hrun
    obtain ⟨⟨later, last⟩, hlater, hrun⟩ := Option.map_eq_some_iff.mp hrun
    cases hrun
    rw [step_eq] at hstep
    obtain ⟨⟨result, session⟩, -, hstep⟩ := Option.map_eq_some_iff.mp hstep
    cases hstep
    rw [ih hlater, getD_chosen_cons]
    by_cases hclient : event.client = client
    · subst hclient
      rw [if_pos rfl, connections_following_self, Connection.following]
    · rw [if_neg hclient, connections_following_of_ne hclient]

/-! ### Runs without the others -/

/-- Whether a line can make a difference to a client: it is its own, or it asks for an accepted
command. -/
def Event.isHeardBy (mine : Nat) (event : Event) : Bool :=
  event.client = mine || event.line.call?.isSome

/-- The lines that can make a difference to a client, the first of them after some more time. What
time passes before the others passes before the next line that is left. -/
def heardBy (mine : Nat) : Nat → List Event → List Event
  | _, [] => []
  | time, event :: events =>
    if event.isHeardBy mine then { event with pause := time + event.pause } :: heardBy mine 0 events
    else heardBy mine (time + event.pause) events

/-- The replies to a client. -/
def repliesTo (mine : Nat) (events : List Event) (replies : List Reply) : List Reply :=
  ((events.zip replies).filter (·.1.client = mine)).map (·.2)

/-- What a client sees of a run, and everyone sees of the session: the replies to the client, the
device and the decision to stop. -/
def seenBy (mine : Nat) (events : List Event) : List Reply × Clients → List Reply × Loopback × Bool
  | (replies, last) =>
    (repliesTo mine events replies, last.session.link.device, last.session.isShuttingDown)

/-- The first reply is seen by the client that it goes to. -/
theorem seenBy_cons (mine : Nat) (event : Event) (events : List Event) (reply : Reply)
    (replies : List Reply) (last : Clients) :
    seenBy mine (event :: events) (reply :: replies, last) =
      Prod.map (fun seen => if event.client = mine then reply :: seen else seen) id
        (seenBy mine events (replies, last)) := by
  have hreplies : repliesTo mine (event :: events) (reply :: replies) =
      if event.client = mine then reply :: repliesTo mine events replies
      else repliesTo mine events replies := by
    rw [repliesTo, List.zip_cons_cons, List.filter_cons]
    by_cases hclient : event.client = mine
    · simp [hclient, repliesTo]
    · simp [hclient, repliesTo]
  rw [seenBy, hreplies]
  rfl

/-- What a client sees of a run comes from its first line, and from the others. -/
theorem map_seenBy_run_cons (c : Clients) (event : Event) (events : List Event) :
    (c.run (event :: events)).map (seenBy mine (event :: events)) =
      (c.step event).bind fun (reply, next) =>
        ((next.run events).map (seenBy mine events)).map
          (Prod.map (fun seen => if event.client = mine then reply :: seen else seen) id) := by
  rw [run_cons]
  rcases c.step event with _ | ⟨reply, next⟩
  · rfl
  · simp only [Option.bind_some, Option.map_map]
    refine congrArg (Option.map · _) (funext fun ran => ?_)
    exact seenBy_cons mine event events reply ran.1 ran.2

/-- **Lines of others that ask for no accepted command are not noticed.** Two runs, one of them
without these lines, start in sessions that differ by the time that is still to pass in one of them;
the client sees the same of both. -/
theorem seenBy_run_heardBy (hsession : c.session = c'.session.wait time)
    (hconnection : c.connections mine = c'.connections mine)
    (hlines : ∀ event ∈ events, event.line ≠ .ended) :
    (c.run events).map (seenBy mine events) =
      (c'.run (heardBy mine time events)).map (seenBy mine (heardBy mine time events)) := by
  induction events generalizing c c' time with
  | nil =>
    simp only [heardBy, run, Option.map_some, seenBy, hsession]
    rfl
  | cons event events ih =>
    obtain ⟨hline, hlines⟩ := List.forall_mem_cons.mp hlines
    have hbefore : c.before event = c'.session.wait (time + event.pause) := by
      rw [before, hsession, Session.wait_wait]
    by_cases hheard : event.isHeardBy mine = true
    · -- both runs have the line, at the same time
      have hheardBy : heardBy mine time (event :: events) =
          { event with pause := time + event.pause } :: heardBy mine 0 events := by
        rw [heardBy, if_pos hheard]
      rw [hheardBy, map_seenBy_run_cons, map_seenBy_run_cons, step_eq, step_eq, hbefore]
      have hresult : (c'.before { event with pause := time + event.pause }).resultOf event.line =
          (c'.session.wait (time + event.pause)).resultOf event.line := rfl
      rw [hresult]
      rcases (c'.session.wait (time + event.pause)).resultOf event.line with _ | ⟨result, session⟩
      · rfl
      · have hnext := connections_following_congr hconnection event session session
        simp only [Option.map_some, Option.bind_some]
        have hlater : ((c.following event session).run events).map (seenBy mine events) =
            ((c'.following { event with pause := time + event.pause } session).run
              (heardBy mine 0 events)).map (seenBy mine (heardBy mine 0 events)) :=
          ih rfl hnext hlines
        rw [hlater]
        by_cases hclient : event.client = mine
        · subst hclient
          rw [hconnection]
        · simp only [hclient, if_false]
    · -- only one of them has it, and it leaves nothing behind but the time before it
      have hother : event.client ≠ mine ∧ event.line.call? = none := by
        simpa [Event.isHeardBy] using hheard
      obtain ⟨result, hresult⟩ := Session.exists_resultOf_eq hother.2 hline
      have hheardBy :
          heardBy mine time (event :: events) = heardBy mine (time + event.pause) events := by
        rw [heardBy, if_neg hheard]
      have hnext : (c.following event (c.before event)).connections mine = c'.connections mine :=
        (connections_following_of_ne hother.1 c _).trans hconnection
      rw [hheardBy, map_seenBy_run_cons, step_eq, hresult, Option.map_some, Option.bind_some]
      simp only [hother.1, if_false]
      rw [← ih hbefore hnext hlines]
      exact congrFun Option.map_id _

/-- **Clients are isolated from each other.** In every run over one session, the next reply to a
client shows what its line comes to in this session, in the format that the client itself has chosen
last; a choice that is refused leaves everything as it is. When the lines of all other clients are
left out that ask for no accepted command, what a client is sent is the same, and so are the device
with the frames that it was given and the decision to stop. Over a link with a limit there is a
reply to every line. -/
theorem isolated_of_run (session : Session) (hlines : ∀ event ∈ events, event.line ≠ .ended) :
    (session.link.timeout ≠ 0 → ∃ replies last,
      run { session } events = some (replies, last) ∧ replies.length = events.length) ∧
    (∀ replies c event reply next, run { session } events = some (replies, c) →
      c.step event = some (reply, next) →
      (∃ result, (c.before event).resultOf event.line = some (result, next.session) ∧
        reply = Reply.ofResult ((chosen event.client events).getD .json) result) ∧
      ∀ text args, event.line = .request text → Request.words text = "format" :: args →
        reply.ok = event.line.format?.isSome ∧
          (reply.ok = false → next.session = c.before event ∧ next.connections = c.connections)) ∧
    ∀ mine, (run { session } events).map (seenBy mine events) =
      (run { session } (heardBy mine 0 events)).map (seenBy mine (heardBy mine 0 events)) := by
  refine ⟨fun hlimit => exists_run hlimit hlines, fun replies c event reply next hrun hstep => ?_,
    fun mine => ?_⟩
  · rw [step_eq, Option.map_eq_some_iff] at hstep
    obtain ⟨⟨result, after⟩, hresult, hstep⟩ := hstep
    cases hstep
    refine ⟨⟨result, hresult, ?_⟩, fun text args hline hwords => ?_⟩
    · rw [format_of_run hrun]
    · rw [hline] at hresult ⊢
      obtain ⟨format, hformat, hchosen⟩ | ⟨e, hformat, hrefused⟩ :=
        (c.before event).resultOf_format hwords
      · cases hresult.symm.trans hchosen
        rw [hformat]
        exact ⟨rfl, fun hrefused => absurd hrefused Bool.true_eq_false.mp⟩
      · cases hresult.symm.trans hrefused
        rw [hformat]
        refine ⟨rfl, fun _ => ⟨rfl, ?_⟩⟩
        rw [following, hline, Connection.following_of_none hformat]
        exact Function.update_eq_self _ _
  · exact seenBy_run_heardBy rfl rfl hlines

/-- A client that has chosen no format is refused in JSON, although another one has chosen a table,
and sees the same without the other one. -/
theorem isolated_of_run_json :
    let choice : Event := { client := 1, line := .request "format table".toList }
    let own : Event := { pause := 3, client := 0, line := .request "raw".toList }
    (∃ c reply next, run { session := { link := {} } } [choice] = some ([⟨true, []⟩], c) ∧
      c.step own = some (reply, next) ∧ reply = Reply.ofError .json .unimplemented) ∧
    (run { session := { link := {} } } [choice, own]).map (seenBy 0 [choice, own]) =
      (run { session := { link := {} } } [own]).map (seenBy 0 [own]) := by
  intro choice own
  constructor
  · obtain ⟨c, hrun⟩ : ∃ c, run { session := { link := {} } } [choice] = some ([⟨true, []⟩], c) :=
      ⟨_, rfl⟩
    obtain ⟨reply, next, hstep⟩ : ∃ reply next, c.step own = some (reply, next) := by
      cases hrun
      exact ⟨_, _, rfl⟩
    have hlines : ∀ event ∈ [choice], event.line ≠ .ended := by simp [choice]
    obtain ⟨-, hall, -⟩ := isolated_of_run { link := {} } hlines
    obtain ⟨⟨result, hresult, hreply⟩, -⟩ := hall _ c own reply next hrun hstep
    have hrefused : (c.before own).resultOf own.line =
        some (some (.error .unimplemented), c.before own) := rfl
    obtain ⟨rfl, -⟩ := Prod.mk.inj (Option.some.inj (hresult.symm.trans hrefused))
    exact ⟨c, reply, next, hrun, hstep, hreply⟩
  · have hlines : ∀ event ∈ [choice, own], event.line ≠ .ended := by simp [choice, own]
    obtain ⟨-, -, hseen⟩ := isolated_of_run { link := {} } hlines
    have hheard : heardBy 0 0 [choice, own] = [own] := rfl
    rw [hseen 0, hheard]

end Clients

end InverterLink
