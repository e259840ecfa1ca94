import InverterLink.CommandLine.Programs
import InverterLink.Proofs.Command.Refusals
import InverterLink.Proofs.Link.Fixtures
import InverterLink.Proofs.Service.History

/-!
# The tool and the daemon agree

A command is executed by the tool, or by the daemon for one of its clients. The daemon takes the
command from a line of words, looks for an answer in its cache, paces the exchanges, and puts
checksums on its frames. The tool does none of this. What a user is shown is the same nevertheless:
the tool prints what a new session of the daemon replies, and tells a success from a failure by its
exit code as the daemon does by the first word of the reply.

## Main definitions

* `Request.executionLine`: the line that asks for a command.

## Main statements

* `Request.words_intercalate`: the words of a line are those that it was put together from.
* `Tool.exists_runOver_eq_respond`: the tool and the daemon agree.
-/

namespace InverterLink

/-! ### Lines of words -/

namespace Request

variable {name : String} {args : List String}

/-- Words that are not empty and have no blanks in them are read back from the line they make. -/
theorem words_intercalate {texts : List String} (hne : texts ≠ [])
    (h : ∀ text ∈ texts, text ≠ "" ∧ ' ' ∉ text.toList) :
    words ([' '].intercalate (texts.map String.toList)) = texts := by
  have hblanks : ∀ part ∈ texts.map String.toList, ' ' ∉ part :=
    List.forall_mem_map.mpr fun text htext => (h text htext).2
  have hparts : ∀ part ∈ texts.map String.toList, (!part.isEmpty) = true :=
    List.forall_mem_map.mpr fun text htext => by
      rw [Bool.not_eq_true', List.isEmpty_eq_false_iff]
      exact String.toList_eq_nil_iff.not.mpr (h text htext).1
  rw [words, List.splitOn_intercalate _ hblanks (List.map_eq_nil_iff.not.mpr hne),
    List.filter_eq_self.mpr hparts, List.map_map]
  simp

/-- The line that asks for a command to be executed. -/
def executionLine (name : String) (args : List String) : List Char :=
  [' '].intercalate (("exec" :: name :: args).map String.toList)

theorem ofLine_executionLine (h : ∀ word ∈ name :: args, word ≠ "" ∧ ' ' ∉ word.toList) :
    ofLine (executionLine name args) =
      (Command.ofRequest name args).map fun (command, args) => execute command args := by
  have hwords : ∀ word ∈ "exec" :: name :: args, word ≠ "" ∧ ' ' ∉ word.toList :=
    List.forall_mem_cons.mpr ⟨⟨by decide, by decide⟩, h⟩
  rw [ofLine, executionLine, words_intercalate (List.cons_ne_nil _ _) hwords, ofWords]
  rfl

end Request

/-! ### New sessions -/

/-- A session that has not executed anything leaves a command to its link. -/
theorem Session.exists_execute_of_link {link after : Link} {command : Command} {args : List String}
    {outcome : Except Error Response} (policy : SessionPolicy)
    (h : link.execute command args = some (outcome, after)) :
    ∃ s, execute { link, policy } command args = some (outcome.mapError Error.collapse, s) := by
  set start : Session := { link, policy }
  have hpaced : ((start.evict command).pace command).link = link := rfl
  rw [execute, executeVia_of_not_cached _ rfl, hpaced, h]
  exact ⟨_, rfl⟩

/-! ### Agreement -/

/-- What a program leaves behind shows what a reply shows: it has printed the body of the reply, and
its exit code is zero exactly if the reply is one of success. -/
structure Outcome.Shows (outcome : Outcome) (reply : Reply) : Prop where
  output_eq : outcome.output = Tool.line reply.body
  ok_iff : reply.ok = true ↔ outcome.exitCode = 0

namespace Tool

theorem shows_of_error (o : ToolOptions) (log : List LogEntry) (e : Error) :
    (finish o log (.error e)).Shows (Reply.ofError o.format e.collapse) where
  output_eq := rfl
  ok_iff := ⟨nofun, nofun⟩

/-- A response and an error are shown as the daemon shows them. -/
theorem shows_of_outcome (o : ToolOptions) (log : List LogEntry) (outcome : Except Error Response) :
    (finish o log (outcome.map fun response => line (response.render o.format))).Shows
      (Reply.ofOutcome o.format (outcome.mapError Error.collapse)) := by
  cases outcome with
  | ok response => exact ⟨rfl, fun _ => rfl, fun _ => rfl⟩
  | error e => exact shows_of_error o log e

/-- A request that is refused is not executed. -/
theorem query_of_error (o : ToolOptions) {name : String} {args : List String} {e : Error}
    (h : Command.ofRequest name args = .error e) (link : Link) :
    query { o with raw? := none, command? := some name, args } link = some (.error e, link) := by
  rw [query]
  dsimp only [Option.getD_some]
  rw [h]

/-- The response to a command is shown in the format that is asked for. -/
theorem query_of_execute (o : ToolOptions) {name : String} {args normalised : List String}
    {command : Command} {link after : Link} {outcome : Except Error Response}
    (h : Command.ofRequest name args = .ok (command, normalised))
    (hexecute : link.execute command normalised = some (outcome, after)) :
    query { o with raw? := none, command? := some name, args } link =
      some (outcome.map fun response => line (response.render o.format), after) := by
  rw [query]
  dsimp only [Option.getD_some]
  rw [h]
  dsimp only
  rw [hexecute]
  rfl

/-- **The tool and the daemon agree.** On devices in the same state, the tool shows what the daemon
replies to the client of a new session. -/
theorem exists_runOver_eq_respond (o : ToolOptions) {name : String} {args : List String}
    {device : Loopback} (hwords : ∀ word ∈ name :: args, word ≠ "" ∧ ' ' ∉ word.toList)
    (hprompt : device.IsPrompt) (policy : SessionPolicy) (timeout : Nat) (log : List LogEntry) :
    ∃ reply s outcome,
      Connection.respond { format := o.format } { link := { device, timeout }, policy }
        (Request.executionLine name args) = some (reply, { format := o.format }, s) ∧
      runOver { o with raw? := none, command? := some name, args } device log = some outcome ∧
      outcome.Shows reply := by
  set asked : ToolOptions := { o with raw? := none, command? := some name, args }
  rw [Connection.respond, Request.ofLine_executionLine hwords, runOver]
  cases hrequest : Command.ofRequest name args with
  | error e =>
    -- a refusal says the same to a user of either, as it is no error of the device
    have hshown := ((Command.refusal_ofRequest name args).of_error hrequest).collapse_eq
    have hshows := shows_of_error asked log e
    rw [hshown] at hshows
    rw [query_of_error o hrequest]
    exact ⟨_, _, _, rfl, rfl, hshows⟩
  | ok request =>
    obtain ⟨command, normalised⟩ := request
    set daemon : Link := { device, timeout }
    set tool : Link := { device, flags := .readOnly, timeout := asked.device.timeout, log }
    have hplain (frame : List Char) (hframe : command.frame normalised = .ok frame) :
        '\r' ∉ frame :=
      Command.isPlain_frame hrequest hframe
    obtain ⟨after, hdaemon⟩ := daemon.exists_execute_of_isPrompt hprompt hplain
    obtain ⟨after', htool⟩ := tool.exists_execute_of_isPrompt hprompt hplain
    -- the one difference between both links that the device could see is the checksum
    have houtcome : command.outcomeAt tool.flags device normalised =
        command.outcomeAt daemon.flags device normalised :=
      Command.outcomeAt_of_writeChecksum hrequest daemon.flags device false
    rw [show tool.device = device from rfl, houtcome] at htool
    obtain ⟨s, hsession⟩ := Session.exists_execute_of_link policy hdaemon
    have hshows := shows_of_outcome asked after'.log
      (command.outcomeAt daemon.flags device normalised)
    rw [query_of_execute o hrequest htool]
    refine ⟨_, s, _, ?_, rfl, hshows⟩
    dsimp only [Except.map]
    rw [hsession]
    rfl

/-- A question whose checksum stands where the mnemonic of another one would go on, to a device that
takes three bytes at a time, and a question whose answer has a wrong checksum, without a limit for
the time. -/
theorem exists_runOver_eq_respond_checksums :
    (∃ reply s outcome,
      Connection.respond { format := .table } { link := { device := { writeLimit? := some 3 } } }
        "exec get-protocol-id".toList = some (reply, { format := .table }, s) ∧
      runOver { command? := some "get-protocol-id" } { writeLimit? := some 3 } [] = some outcome ∧
      outcome.Shows reply) ∧
    ∃ reply s outcome,
      Connection.respond { format := .table }
        { link := { device := { queue := [[0x5E, 0x31, 0x00, 0x00, 0x0D]] }, timeout := 0 } }
        "exec get-year-generated 2024".toList = some (reply, { format := .table }, s) ∧
      runOver { command? := some "get-year-generated", args := ["2024"] }
        { queue := [[0x5E, 0x31, 0x00, 0x00, 0x0D]] } [] = some outcome ∧
      outcome.Shows reply := by
  have hwords : ∀ word ∈ ["get-protocol-id"], word ≠ "" ∧ ' ' ∉ word.toList := by decide
  have hwords' : ∀ word ∈ ["get-year-generated", "2024"], word ≠ "" ∧ ' ' ∉ word.toList := by decide
  have hprompt : Loopback.IsPrompt { writeLimit? := some 3 } := ⟨rfl, nofun⟩
  have hprompt' : Loopback.IsPrompt { queue := [[0x5E, 0x31, 0x00, 0x00, 0x0D]] } := by
    refine ⟨rfl, fun answer hanswer => .inl ?_⟩
    obtain rfl := Option.some.inj hanswer
    decide
  exact ⟨exists_runOver_eq_respond {} hwords hprompt {} 1000 [],
    exists_runOver_eq_respond {} hwords' hprompt' {} 0 []⟩

end Tool

end InverterLink
