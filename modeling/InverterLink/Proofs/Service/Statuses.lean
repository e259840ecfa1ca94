import InverterLink.Proofs.Decoding
import InverterLink.Proofs.Service.Isolation
import InverterLink.Proofs.Service.Updates

/-!
# The word for the outcome and the result that is shown

A reply tells twice how a request went. Its first line is a word for whether there is an answer at
all, and the body, as JSON, has a field for whether the answer is a success. The two notions of
success meet in every answer but one: a setting that the device has refused is an answer like any
other, so it stands below `ok`, and shows the result `error`.

Which answers there are rests on an invariant of the session: what is kept for a command was decoded
for this command from some frame. So no error is ever kept, and a refusal only for a setting.

## Main definitions

* `Response.result?`: the result that a response shows as JSON.
* `Reply.firstLine`: the first line of a reply as it is sent.
* `Response.IsAnswerTo`, `Session.KeepsAnswers`: the answers to a command, and the invariant.

## Main statements

* `Response.result?_eq`: the result of any response.
* `Session.KeepsAnswers.resultOf`: what a line comes to, and that the invariant survives it.
* `Clients.firstLine_iff_result_of_run`: both notions of success, for every line of every run.
-/

namespace InverterLink

/-! ### Results -/

/-- The value of a field of an object. -/
def Json.field? (key : List Char) : Json → Option Json
  | object fields => fields.lookup key
  | _ => none

/-- A content that shows a success: any content but the status of a failure. -/
def Content.succeeded : Content → Bool
  | status ok _ => ok
  | _ => true

theorem Content.field?_toJson (content : Content) (simple : Bool) :
    (content.toJson simple).field? "result".toList = some (.text (outcome content.succeeded)) := by
  cases content with
  | table fields => rfl
  | list values => rfl
  | status ok message => rfl

/-- The records of all kinds show successes. -/
theorem Record.succeeded_content (r : Record) : r.content.succeeded = true := by
  rw [content]
  split
  · rfl
  · rfl

namespace Response

variable {response : Response} {command : Command}

/-- The result that a response shows as JSON, in the simple form or in the other one. -/
def result? (simple : Bool) (response : Response) : Option Json :=
  (response.content.toJson simple).field? "result".toList

/-- A response that shows a success. -/
def succeeded (response : Response) : Bool :=
  response.content.succeeded

theorem result?_eq (simple : Bool) (response : Response) :
    response.result? simple = some (.text (Content.outcome response.succeeded)) :=
  response.content.field?_toJson simple

/-- The result of a success, and of nothing else, is `ok`. -/
theorem result?_eq_ok_iff (simple : Bool) :
    response.result? simple = some (.text "ok".toList) ↔ response.succeeded = true := by
  rw [result?_eq]
  cases response.succeeded with
  | true => exact iff_of_true rfl rfl
  | false => exact iff_of_false (by simp [Content.outcome]) Bool.false_ne_true

/-- The result of a failure, and of nothing else, is `error`. -/
theorem result?_eq_error_iff (simple : Bool) :
    response.result? simple = some (.text "error".toList) ↔ response.succeeded = false := by
  rw [result?_eq]
  cases response.succeeded with
  | true => exact iff_of_false (by simp [Content.outcome]) Bool.true_eq_false.mp
  | false => exact iff_of_true rfl rfl

/-- The response that a client is shown for an outcome. -/
def ofOutcome : Except Error Response → Response
  | .ok response => response
  | .error e => ofError e

/-! ### Answers -/

/-- A response that some frame holds for a command. -/
def IsAnswerTo (command : Command) (response : Response) : Prop :=
  ∃ frame, decode command frame = .ok response

/-- **What answers there are**: acknowledgements of settings, and records for questions. -/
theorem IsAnswerTo.cases (h : response.IsAnswerTo command) :
    (command.isSetter = true ∧ ∃ accepted, response = acknowledgement accepted) ∨
      (command.isSetter = false ∧ ∃ r, response = record r) := by
  obtain ⟨frame, hdecode⟩ := h
  rw [decode] at hdecode
  cases hkind : command.recordKind? with
  | none =>
    rw [hkind] at hdecode
    refine .inl ⟨(command.recordKind?_eq_none_iff).mp hkind, ?_⟩
    cases hacknowledged : acknowledgement? frame with
    | none =>
      rw [hacknowledged] at hdecode
      cases hdecode
    | some accepted =>
      rw [hacknowledged] at hdecode
      exact ⟨accepted, (Except.ok.inj hdecode).symm⟩
  | some kind =>
    have hquestion : ¬ command.isSetter = true := fun hsetter =>
      Option.some_ne_none kind (hkind.symm.trans ((command.recordKind?_eq_none_iff).mpr hsetter))
    rw [hkind] at hdecode
    refine .inr ⟨Bool.eq_false_iff.mpr hquestion, ?_⟩
    cases hpayload : payload frame with
    | error cause =>
      rw [hpayload] at hdecode
      cases hdecode
    | ok text =>
      rw [hpayload] at hdecode
      cases hrecord : Record.ofPayload kind text with
      | error e =>
        simp only [hrecord] at hdecode
        cases hdecode
      | ok r =>
        simp only [hrecord] at hdecode
        exact ⟨r, (Except.ok.inj hdecode).symm⟩

/-- An answer is a success unless it is the refusal of a setting. -/
theorem IsAnswerTo.succeeded_iff (h : response.IsAnswerTo command) :
    response.succeeded = true ↔ response ≠ .acknowledgement false := by
  obtain ⟨-, accepted, rfl⟩ | ⟨-, r, rfl⟩ := h.cases
  · cases accepted with
    | true => exact iff_of_true rfl (by simp)
    | false => exact iff_of_false Bool.false_ne_true (fun hne => hne rfl)
  · exact iff_of_true r.succeeded_content nofun

/-- An outcome that is an error, or an answer to some command, is a success or the refusal of a
setting exactly if it is an answer. -/
theorem isOk_iff {outcome : Except Error Response}
    (h : ∀ response, outcome = .ok response → ∃ command, response.IsAnswerTo command) :
    outcome.isOk = true ↔
      (ofOutcome outcome).succeeded = true ∨ ofOutcome outcome = .acknowledgement false := by
  cases outcome with
  | error e =>
    exact iff_of_false Bool.false_ne_true (by rintro (hsuccess | hrefusal) <;> contradiction)
  | ok response =>
    obtain ⟨command, hanswer⟩ := h response rfl
    refine iff_of_true rfl ?_
    rw [ofOutcome, hanswer.succeeded_iff]
    exact (em _).symm

end Response

/-! ### First lines -/

namespace Reply

/-- The first line of a reply as it is sent. -/
def firstLine (r : Reply) : List Char :=
  r.text.takeWhile (· != '\r')

/-- The first line is the word for the outcome, whatever the body is. -/
theorem firstLine_eq (r : Reply) : r.firstLine = outcome r.ok := by
  obtain ⟨rest, htext⟩ : ∃ rest, r.text = outcome r.ok ++ '\r' :: rest := by
    rw [text, List.append_assoc, List.append_assoc]
    split_ifs
    · exact ⟨_, rfl⟩
    · exact ⟨_, rfl⟩
  rw [firstLine, htext]
  cases r.ok <;> rfl

theorem firstLine_eq_ok_iff {r : Reply} : r.firstLine = "ok".toList ↔ r.ok = true := by
  rw [firstLine_eq]
  cases r.ok <;> decide

theorem firstLine_eq_err_iff {r : Reply} : r.firstLine = "err".toList ↔ r.ok = false := by
  rw [firstLine_eq]
  cases r.ok <;> decide

/-- The body of a reply shows the response to the outcome, and its first line whether there is an
answer. -/
theorem ofOutcome_eq (format : Format) (outcome : Except Error Response) :
    ofOutcome format outcome = ⟨outcome.isOk, (Response.ofOutcome outcome).render format⟩ := by
  cases outcome with
  | ok response => rfl
  | error e => rfl

end Reply

/-! ### What a session keeps -/

/-- What the execution of a command brings is an answer to this command. -/
theorem Link.endsIn_answer {link after : Link} {command : Command} {args : List String}
    {outcome : Except Error Response} (h : link.execute command args = some (outcome, after)) :
    EndsIn outcome (·.IsAnswerTo command) fun _ => True := by
  rw [execute] at h
  cases hframe : command.frame args with
  | error e =>
    rw [hframe] at h
    cases h
    trivial
  | ok frame =>
    rw [hframe, Option.map_eq_some_iff] at h
    obtain ⟨⟨result, stopped⟩, -, h⟩ := h
    cases result with
    | error e =>
      cases h
      trivial
    | ok answer =>
      obtain ⟨hdecode, -⟩ := Prod.mk.inj h
      cases houtcome : outcome with
      | error e => trivial
      | ok response => exact ⟨answer, hdecode.trans houtcome⟩

namespace Session

variable {s after : Session} {command : Command} {args : List String}
  {outcome : Except Error Response} {line : Line} {result : Option (Except Error Response)}

/-- **What a line can do.** It brings no answer and leaves the session as it is, or it is a call. -/
theorem resultOf_cases (h : s.resultOf line = some (result, after)) :
    ((∀ response, result ≠ some (.ok response)) ∧ after = s) ∨
      ∃ command args outcome, line.call? = some (command, args) ∧
        s.execute command args = some (outcome, after) ∧ result = some outcome := by
  cases line with
  | ended => cases h
  | oversized =>
    cases h
    exact .inl ⟨by simp, rfl⟩
  | request text =>
    rw [resultOf] at h
    rw [Line.call?]
    generalize Request.ofLine text = request at h ⊢
    rcases request with e | _ | format | ⟨command, args⟩
    · cases h
      exact .inl ⟨by simp, rfl⟩
    · cases h
      exact .inl ⟨by simp, rfl⟩
    · cases h
      exact .inl ⟨by simp, rfl⟩
    · obtain ⟨⟨outcome, after'⟩, hcall, h⟩ := Option.map_eq_some_iff.mp h
      cases h
      exact .inr ⟨command, args, outcome, rfl, hcall, rfl⟩

/-- A session that keeps nothing for a command but answers to it. -/
def KeepsAnswers (s : Session) : Prop :=
  ∀ command cached, s.cache.get? command = some cached → cached.response.IsAnswerTo command

/-- A session that has not executed anything yet keeps nothing. -/
theorem keepsAnswers_of_empty (h : s.cache = {}) : s.KeepsAnswers := by
  intro command cached hget
  rw [h] at hget
  cases hget

namespace KeepsAnswers

theorem of_cache (h : s.KeepsAnswers) {s' : Session} (hcache : s'.cache = s.cache) :
    s'.KeepsAnswers := by
  rwa [KeepsAnswers, hcache]

/-- **A call** brings an answer to its command, or an error that is not kept. -/
theorem execute (h : s.KeepsAnswers) (hcall : s.execute command args = some (outcome, after)) :
    EndsIn outcome (·.IsAnswerTo command) (fun _ => True) ∧ after.KeepsAnswers := by
  obtain ⟨response, hcached, rfl, rfl⟩ | ⟨result, link, hexecute, rfl, rfl⟩ := execute_cases hcall
  · obtain ⟨cached, hget, -, -, rfl⟩ := cached?_eq_some_iff.mp hcached
    exact ⟨h command cached hget, h.of_cache rfl⟩
  · have hresult := Link.endsIn_answer hexecute
    constructor
    · cases result with
      | ok response => exact hresult
      | error e => trivial
    · intro other cached hget
      obtain ⟨rfl, response, rfl, rfl⟩ | ⟨-, hbefore⟩ := of_get?_executed hget
      · exact hresult
      · exact h other cached hbefore

/-- **What a line comes to.** If there is an answer, it is one to the command that the line asks
for, and the session keeps nothing but answers. -/
theorem resultOf (h : s.KeepsAnswers) (hresult : s.resultOf line = some (result, after)) :
    (∀ response, result = some (.ok response) →
      ∃ command args, line.call? = some (command, args) ∧ response.IsAnswerTo command) ∧
      after.KeepsAnswers := by
  obtain ⟨hnone, rfl⟩ | ⟨command, args, outcome, hline, hcall, rfl⟩ := resultOf_cases hresult
  · exact ⟨fun response hresponse => absurd hresponse (hnone response), h⟩
  · obtain ⟨hends, hafter⟩ := h.execute hcall
    refine ⟨fun response hresponse => ⟨command, args, hline, ?_⟩, hafter⟩
    rw [Option.some.inj hresponse] at hends
    exact hends

end KeepsAnswers

end Session

/-! ### Replies -/

namespace Clients

variable {session : Session} {c next : Clients} {event : Event} {events : List Event}
  {reply : Reply} {replies : List Reply}

theorem keepsAnswers_of_step (h : c.session.KeepsAnswers)
    (hstep : c.step event = some (reply, next)) : next.session.KeepsAnswers := by
  have hbefore : (c.before event).KeepsAnswers := h
  rw [step_eq, Option.map_eq_some_iff] at hstep
  obtain ⟨⟨result, after⟩, hresult, hstep⟩ := hstep
  cases hstep
  exact (hbefore.resultOf hresult).2

/-- Behind every run, the session keeps nothing but answers. -/
theorem keepsAnswers_of_run (h : c.session.KeepsAnswers)
    (hrun : c.run events = some (replies, next)) : next.session.KeepsAnswers :=
  run_induction (P := fun c => c.session.KeepsAnswers)
    (fun h hstep => keepsAnswers_of_step h hstep) h hrun

/-- **The word and the result.** After every run, for the next line of any client: if it comes to
nothing that is shown, the reply is `ok` with an empty body. Otherwise the body shows the response
to its outcome, and the first line is `ok` exactly if the result of this response as JSON is `ok` or
it is the refusal of a setting, and `err` exactly if the result is `error` and it is no such
refusal. A refusal, which shows the result `error`, is the answer to nothing but a setting. -/
theorem firstLine_iff_result_of_run (hempty : session.cache = {})
    (hrun : run { session } events = some (replies, c))
    (hstep : c.step event = some (reply, next)) :
    ∃ result, (c.before event).resultOf event.line = some (result, next.session) ∧
      (result = none → reply.firstLine = "ok".toList ∧ reply.body = []) ∧
      ∀ outcome, result = some outcome →
        reply.body = (Response.ofOutcome outcome).render (c.connections event.client).format ∧
        ∀ simple,
          (reply.firstLine = "ok".toList ↔
            (Response.ofOutcome outcome).result? simple = some (.text "ok".toList) ∨
              Response.ofOutcome outcome = .acknowledgement false) ∧
          (reply.firstLine = "err".toList ↔
            (Response.ofOutcome outcome).result? simple = some (.text "error".toList) ∧
              Response.ofOutcome outcome ≠ .acknowledgement false) ∧
          (Response.ofOutcome outcome = .acknowledgement false →
            (Response.ofOutcome outcome).result? simple = some (.text "error".toList) ∧
              ∃ command args, event.line.call? = some (command, args) ∧
                command.isSetter = true) := by
  have hbefore : (c.before event).KeepsAnswers :=
    keepsAnswers_of_run (Session.keepsAnswers_of_empty hempty) hrun
  rw [step_eq, Option.map_eq_some_iff] at hstep
  obtain ⟨⟨result, after⟩, hresult, hstep⟩ := hstep
  cases hstep
  refine ⟨result, hresult, ?_, ?_⟩
  · rintro rfl
    exact ⟨rfl, rfl⟩
  rintro outcome rfl
  rw [Reply.ofResult, Reply.ofOutcome_eq]
  refine ⟨rfl, fun simple => ?_⟩
  rw [Reply.firstLine_eq_ok_iff, Reply.firstLine_eq_err_iff, Response.result?_eq_ok_iff,
    Response.result?_eq_error_iff]
  have hanswer := (hbefore.resultOf hresult).1
  have hok : outcome.isOk = true ↔ (Response.ofOutcome outcome).succeeded = true ∨
      Response.ofOutcome outcome = .acknowledgement false := by
    refine Response.isOk_iff fun response hresponse => ?_
    obtain ⟨command, args, -, h⟩ := hanswer response (congrArg some hresponse)
    exact ⟨command, h⟩
  refine ⟨hok, ?_, fun hrefusal => ⟨?_, ?_⟩⟩
  · rw [← Bool.not_eq_true, hok, not_or, Bool.not_eq_true]
  · rw [hrefusal]
    rfl
  · cases outcome with
    | error e => cases hrefusal
    | ok response =>
      obtain ⟨command, args, hcall, hkind⟩ := hanswer response rfl
      obtain ⟨hsetter, -⟩ | ⟨-, r, hrecord⟩ := hkind.cases
      · exact ⟨command, args, hcall, hsetter⟩
      · exact absurd (hrecord.symm.trans hrefusal) nofun

/-! ### A refused setting -/

/-- The request to restore the defaults. -/
def restoring : Event where
  client := 0
  line := .request "exec set-rated-defaults".toList

/-- What the request comes to at a device that refuses it, in whatever formats the clients have
chosen. -/
theorem exists_step_restoring (connections : Nat → Connection) : ∃ next,
    Session.resultOf { link := Session.refusing } restoring.line =
        some (some (.ok (.acknowledgement false)), next.session) ∧
      step ⟨{ link := Session.refusing }, connections⟩ restoring =
        some (Reply.ofOutcome (connections 0).format (.ok (.acknowledgement false)), next) := by
  have hrequest : Request.ofLine "exec set-rated-defaults".toList =
      .ok (.execute .setDefaults []) := by decide
  obtain ⟨after, hcall⟩ : ∃ after, Session.execute { link := Session.refusing } .setDefaults [] =
      some (.ok (.acknowledgement false), after) := by
    obtain ⟨link, hexecute⟩ := Session.exists_execute_refusing
    have hcarry : Link.execute ((Session.evict { link := Session.refusing } .setDefaults).pace
        .setDefaults).link .setDefaults [] = some (.ok (.acknowledgement false), link) := hexecute
    rw [Session.execute, Session.executeVia_of_not_cached _ rfl, hcarry]
    exact ⟨_, rfl⟩
  have hresult : Session.resultOf { link := Session.refusing } restoring.line =
      some (some (.ok (.acknowledgement false)), after) := by
    simp only [Session.resultOf, restoring, hrequest, hcall, Option.map_some]
  refine ⟨following ⟨{ link := Session.refusing }, connections⟩ restoring after, hresult, ?_⟩
  have hbefore : before ⟨{ link := Session.refusing }, connections⟩ restoring =
      { link := Session.refusing } := rfl
  rw [step_eq, hbefore, hresult]
  rfl

/-- It is not so that the word is `ok` exactly if the result is: a setting that the device has
refused stands below `ok` with the result `error`. -/
theorem not_forall_firstLine_iff_result : ¬ ∀ (session : Session) (events : List Event)
    (replies : List Reply) (c next : Clients) (event : Event) (reply : Reply)
    (outcome : Except Error Response), session.cache = {} →
    run { session } events = some (replies, c) → c.step event = some (reply, next) →
    (c.before event).resultOf event.line = some (some outcome, next.session) →
    (reply.firstLine = "ok".toList ↔
      (Response.ofOutcome outcome).result? false = some (.text "ok".toList)) := by
  intro hall
  obtain ⟨next, hresult, hstep⟩ := exists_step_restoring fun _ => {}
  have hagree := hall { link := Session.refusing } [] [] _ next restoring _ _ rfl rfl hstep hresult
  have hword : (Reply.ofOutcome .json (.ok (.acknowledgement false))).firstLine = "ok".toList :=
    Reply.firstLine_eq_ok_iff.mpr rfl
  have hsuccess := (Response.result?_eq_ok_iff false).mp (hagree.mp hword)
  exact Bool.false_ne_true hsuccess

/-- The refusal in a table: the word is `ok`, and the body is `error`. -/
theorem firstLine_iff_result_of_run_refused : ∃ replies c reply next,
    run { session := { link := Session.refusing } }
        [{ client := 0, line := .request "format table".toList }] = some (replies, c) ∧
      c.step restoring = some (reply, next) ∧ reply.firstLine = "ok".toList ∧
      reply.body = "error".toList ∧
      (Response.acknowledgement false).result? false = some (.text "error".toList) := by
  obtain ⟨replies, c, hrun, hsession, hformat⟩ : ∃ replies c,
      run { session := { link := Session.refusing } }
          [{ client := 0, line := .request "format table".toList }] = some (replies, c) ∧
        c = ⟨{ link := Session.refusing }, c.connections⟩ ∧ (c.connections 0).format = .table :=
    ⟨_, _, rfl, rfl, rfl⟩
  obtain ⟨next, hresult, hstep⟩ := exists_step_restoring c.connections
  rw [← hsession] at hstep
  obtain ⟨result, hsame, -, hshown⟩ := firstLine_iff_result_of_run rfl hrun hstep
  have hbefore : c.before restoring = { link := Session.refusing } := by
    rw [hsession]
    rfl
  rw [hbefore, hresult] at hsame
  obtain ⟨rfl, -⟩ := Prod.mk.inj (Option.some.inj hsame)
  obtain ⟨hbody, hword⟩ := hshown _ rfl
  obtain ⟨hok, -, hrefusal⟩ := hword false
  have hclient : (c.connections restoring.client).format = .table := hformat
  refine ⟨replies, c, _, next, hrun, hstep, hok.mpr (.inr rfl), ?_, (hrefusal rfl).1⟩
  rw [hbody, hclient]
  rfl

end Clients

end InverterLink
