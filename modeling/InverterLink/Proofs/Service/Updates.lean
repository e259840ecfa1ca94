import InverterLink.Proofs.Service.Atomicity
import InverterLink.Proofs.Service.Caching
import InverterLink.Proofs.Service.Freshness

/-!
# What becomes of settings

A session treats a setting like a question: its acknowledgement is kept, and given again to whoever
sends the same setting soon after. So an acknowledgement does not mean that the frame has gone out
in the same call. It does mean that the frame has gone out in the last execution of the setting,
with these arguments, and that this was not too long ago; and a setting that is no such repetition
always goes out. That the device was changed by other commands in between, or that it has refused
the setting, makes no difference.

Both halves rest on one invariant. What is kept for a command is what its last execution has
brought, if that was a success, and the frames on the device are those of the executions, in their
order.

## Main definitions

* `Session.Mirrors`: the cache is a function of the history.
* `Link.Records`: the frames on the device are a function of the history.
* `Session.Repeats`: a call comes soon after the last execution of the same.

## Main statements

* `Session.cached?_eq_some_iff_repeats`: the calls that are answered from the cache.
* `Session.sent_iff_not_repeats`: the settings that go out.
-/

namespace InverterLink

/-! ### The cache as a function of the history -/

/-- The answer that an execution has brought, if it was a success. -/
def Execution.answer? (e : Execution) : Option CachedResponse :=
  match e.outcome with
  | .ok response => some ⟨e.finished, e.args, response⟩
  | .error _ => none

namespace Session

variable {carrier : Carrier} {s after : Session} {command : Command} {args : List String}
  {outcome : Except Error Response} {response : Response} {history history' : List Execution}

/-- What is kept for a command is the answer that its last execution has brought. -/
def Mirrors (s : Session) (history : List Execution) : Prop :=
  ∀ command, s.cache.get? command = (lastOf? command history).bind Execution.answer?

namespace Mirrors

theorem start (h : s.cache = {}) : s.Mirrors [] := by
  intro command
  rw [h]
  rfl

/-- **An execution and what is kept of it** go together: it is the last one of its command, and
leaves what is kept for the others. -/
theorem executed (h : s.Mirrors history) (link : Link) :
    (s.executed command args outcome link).Mirrors
      (history ++ [⟨command, args, outcome, link.now⟩]) := by
  intro other
  by_cases hother : other = command
  · subst hother
    have hlast := lastOf?_append_self history ⟨other, args, outcome, link.now⟩
    rw [hlast, Option.bind_some]
    cases outcome with
    | ok response =>
      rw [cache_executed_ok, Cache.get?_insert_self]
      rfl
    | error e =>
      rw [cache_executed_error, Cache.get?_erase_self]
      rfl
  · rw [lastOf?_append_of_ne (Ne.symm hother), get?_executed_of_ne hother]
    exact h other

theorem call (h : s.Mirrors history)
    (hcall : s.executeRecorded carrier command args history = some ((outcome, after), history')) :
    after.Mirrors history' := by
  rcases executeRecorded_cases hcall with
    ⟨response, -, -, rfl, rfl⟩ | ⟨result, link, -, -, -, rfl, rfl⟩
  · exact h
  · exact h.executed link

end Mirrors

/-- The last execution of the command had the same arguments and brought the response, and it was
over no longer ago than answers are fresh. -/
def Repeats (s : Session) (history : List Execution) (command : Command) (args : List String)
    (response : Response) : Prop :=
  ∃ finished, lastOf? command history = some ⟨command, args, .ok response, finished⟩ ∧
    finished ≤ s.now ∧ s.now - finished ≤ s.policy.cacheTimeout * millisecond

/-- **A call is answered from the cache if it is a repetition**, and not otherwise. -/
theorem cached?_eq_some_iff_repeats (hmirrors : s.Mirrors history)
    (hremembers : s.Remembers history) :
    s.cached? command args = some response ↔ s.Repeats history command args response := by
  constructor
  · intro hcached
    exact hremembers.of_cached hcached
  · rintro ⟨finished, hlast, -, hage⟩
    have hget : s.cache.get? command = some ⟨finished, args, response⟩ := by
      rw [hmirrors command, hlast]
      rfl
    exact cached?_eq_some_iff.mpr ⟨_, hget, rfl, hage, rfl⟩

end Session

/-! ### The frames as a function of the history -/

namespace Link

variable {link start after : Link} {command : Command} {args : List String}
  {outcome : Except Error Response} {history : List Execution}

/-- The device has heard the frames of the executions since the start, in their order, and waits for
the next one from its beginning. Whatever succeeded had a frame. -/
structure Records (link start : Link) (history : List Execution) : Prop where
  flags_eq : link.flags = start.flags
  incoming_eq : link.device.incoming = []
  frames_eq : link.device.frames = start.device.frames ++
    history.flatMap fun e => e.command.traffic start.flags e.args
  exists_frame : ∀ e ∈ history, ∀ response, e.outcome = .ok response →
    ∃ frame, e.command.frame e.args = .ok frame

theorem Records.refl (hincoming : start.device.incoming = []) : start.Records start [] where
  flags_eq := rfl
  incoming_eq := hincoming
  frames_eq := (List.append_nil _).symm
  exists_frame _ he := absurd he List.not_mem_nil

/-- It takes no more than what a link does about checksums, and its device. -/
theorem Records.congr (h : link.Records start history) (hflags : after.flags = link.flags)
    (hdevice : after.device = link.device) : after.Records start history where
  flags_eq := hflags.trans h.flags_eq
  incoming_eq := hdevice ▸ h.incoming_eq
  frames_eq := hdevice ▸ h.frames_eq
  exists_frame := h.exists_frame

/-- **The device hears an accepted command as its frame**, if it has one. -/
theorem Records.execute (h : link.Records start history) (haccepts : command.Accepts args)
    (hexecute : link.execute command args = some (outcome, after)) :
    after.Records start (history ++ [⟨command, args, outcome, after.now⟩]) := by
  cases hframe : command.frame args with
  | error e =>
    have htraffic : command.traffic start.flags args = [] := by rw [Command.traffic, hframe]
    rw [execute_of_frame_error hframe] at hexecute
    obtain ⟨rfl, rfl⟩ := Prod.mk.inj (Option.some.inj hexecute)
    refine ⟨h.flags_eq, h.incoming_eq, ?_, ?_⟩
    · rw [List.flatMap_append, List.flatMap_singleton, htraffic, List.append_nil]
      exact h.frames_eq
    · intro later hlater response hok
      rcases List.mem_append.mp hlater with hlater | hlater
      · exact h.exists_frame later hlater response hok
      · rw [List.mem_singleton.mp hlater] at hok
        cases hok
  | ok frame =>
    have htraffic : command.traffic start.flags args =
        [Frame.body start.flags.writeChecksum (Utf8.encode frame)] := by
      rw [Command.traffic, hframe]
    obtain ⟨pending, now, log, rfl⟩ :=
      exists_execute_eq hframe (terminator_notMem_encode (haccepts.isPlain hframe)) hexecute
    refine ⟨h.flags_eq, rfl, ?_, ?_⟩
    · rw [List.flatMap_append, List.flatMap_singleton, htraffic, ← List.append_assoc, ← h.frames_eq,
        ← h.flags_eq, h.incoming_eq]
      rfl
    · intro later hlater response hok
      rcases List.mem_append.mp hlater with hlater | hlater
      · exact h.exists_frame later hlater response hok
      · rw [List.mem_singleton.mp hlater]
        exact ⟨frame, hframe⟩

end Link

namespace Session

variable {s after : Session} {link start : Link} {policy : SessionPolicy} {command : Command}
  {args : List String} {outcome : Except Error Response} {history history' : List Execution}
  {demands : List Demand}

/-- A call of an accepted command is heard as the execution that it makes, if it makes one. -/
theorem records_of_call (h : s.link.Records start history) (haccepts : command.Accepts args)
    (hcall : s.executeRecorded Link.carrier command args history =
      some ((outcome, after), history')) : after.link.Records start history' := by
  rcases executeRecorded_cases hcall with
    ⟨response, -, -, rfl, rfl⟩ | ⟨result, link, -, hcarry, -, rfl, rfl⟩
  · exact h.congr rfl rfl
  · obtain ⟨now, log, hpaced⟩ := (s.evict command).exists_pace_eq command
    have hlink : ((s.evict command).pace command).link.Records start history := by
      rw [hpaced]
      exact h.congr rfl rfl
    obtain ⟨log', hsettled⟩ := exists_link_settle { s.evict command with link } command args result
    rw [executed_eq_settle, hsettled]
    exact (hlink.execute haccepts hcarry).congr rfl rfl

/-! ### Runs -/

/-- What is asked of a session as an event at its own device. -/
def Demand.event : Demand → Event
  | .wait time => .wait time
  | .call command args => .call Link.carrier command args

/-- **What pauses and calls of accepted commands preserve, runs preserve.** -/
theorem runRecorded_demands_induction {P : Session → List Execution → Prop}
    (hwait : ∀ {s : Session} {history : List Execution} (time : Nat), P s history →
      P (s.wait time) history)
    (hcall : ∀ {s after : Session} {command : Command} {args : List String}
      {outcome : Except Error Response} {history history' : List Execution}, P s history →
      command.Accepts args →
      s.executeRecorded Link.carrier command args history = some ((outcome, after), history') →
      P after history')
    (hstart : P s history) (haccepts : ∀ call ∈ calls demands, call.1.Accepts call.2)
    (hrun : runRecorded (s, history) (demands.map Demand.event) = some (after, history')) :
    P after history' := by
  induction demands generalizing s history with
  | nil =>
    cases hrun
    exact hstart
  | cons demand demands ih =>
    obtain ⟨⟨next, between⟩, hstep, hrun⟩ := Option.bind_eq_some_iff.mp hrun
    cases demand with
    | wait time =>
      cases hstep
      exact ih (hwait time hstart) haccepts hrun
    | call command args =>
      obtain ⟨haccept, haccepts⟩ := List.forall_mem_cons.mp haccepts
      obtain ⟨⟨⟨outcome, called⟩, extended⟩, hexecute, hstep⟩ := Option.map_eq_some_iff.mp hstep
      cases hstep
      exact ih (hcall hstart haccept hexecute) haccepts hrun

/-- What holds between a session that has served accepted commands and the history of this. -/
structure Follows (s start : Session) (history : List Execution) : Prop where
  mirrors : s.Mirrors history
  remembers : s.Remembers history
  records : s.link.Records start.link history
  policy_eq : s.policy = start.policy

/-- **A session follows its history** in every run. -/
theorem follows_of_run {start : Session} (hcache : start.cache = {})
    (hincoming : start.link.device.incoming = [])
    (haccepts : ∀ call ∈ calls demands, call.1.Accepts call.2)
    (hrun : runRecorded (start, []) (demands.map Demand.event) = some (s, history)) :
    s.Follows start history := by
  refine runRecorded_demands_induction (P := fun s history => s.Follows start history) ?_ ?_
    ⟨.start hcache, .start hcache, .refl hincoming, rfl⟩ haccepts hrun
  · intro s history time h
    exact ⟨h.mirrors, h.remembers.wait time, h.records.congr rfl rfl, h.policy_eq⟩
  · intro s after command args outcome history history' h haccept hcall
    refine ⟨h.mirrors.call hcall, h.remembers.call hcall, records_of_call h.records haccept hcall,
      ?_⟩
    rcases executeRecorded_cases hcall with
      ⟨response, -, -, rfl, -⟩ | ⟨result, link, -, -, -, rfl, -⟩
    · exact h.policy_eq
    · exact (policy_executed _ _ _ _ _).trans h.policy_eq

/-! ### Settings -/

/-- The frame of a success in the history is on the device. -/
theorem Follows.exists_frame {start : Session} (h : s.Follows start history) {response : Response}
    {finished : Nat} (hmem : ⟨command, args, .ok response, finished⟩ ∈ history) :
    ∃ frame, command.frame args = .ok frame ∧
      Frame.body start.link.flags.writeChecksum (Utf8.encode frame) ∈ s.link.device.frames := by
  obtain ⟨frame, hframe⟩ := h.records.exists_frame _ hmem response rfl
  refine ⟨frame, hframe, ?_⟩
  rw [h.records.frames_eq, List.mem_append, List.mem_flatMap]
  refine .inr ⟨_, hmem, ?_⟩
  rw [Command.traffic, hframe]
  exact List.mem_singleton_self _

/-- **A setting goes out unless it is a repetition.** In every run of a session that serves accepted
commands, the frames on the device are those of the executions, in their order. When a setting is
acknowledged, its frame has gone out in this call, once, and nothing else has, unless the last
execution of the setting had the same arguments and was over no longer ago than answers are fresh.
In that case, the acknowledgement is the one of that execution, whose frame the device has heard
then, and it hears nothing in this call. -/
theorem sent_iff_not_repeats (hincoming : link.device.incoming = [])
    (haccepts : ∀ call ∈ calls demands, call.1.Accepts call.2)
    (hrun : runRecorded ({ link, policy }, []) (demands.map Demand.event) = some (s, history))
    (haccept : command.Accepts args) {accepted : Bool}
    (hcall : s.executeRecorded Link.carrier command args history =
      some ((.ok (.acknowledgement accepted), after), history')) :
    s.link.device.frames = link.device.frames ++
        history.flatMap (fun e => e.command.traffic link.flags e.args) ∧
      ∃ frame, command.frame args = .ok frame ∧
        ((∀ response, ¬ s.Repeats history command args response) →
          after.link.device.frames = s.link.device.frames ++
              [Frame.body link.flags.writeChecksum (Utf8.encode frame)] ∧
            ∃ finished, history' =
              history ++ [⟨command, args, .ok (.acknowledgement accepted), finished⟩]) ∧
        ∀ response, s.Repeats history command args response →
          response = .acknowledgement accepted ∧
            Frame.body link.flags.writeChecksum (Utf8.encode frame) ∈ s.link.device.frames ∧
            after.link.device = s.link.device ∧ history' = history := by
  have hfollows := follows_of_run rfl hincoming haccepts hrun
  have hhits (response : Response) :
      s.cached? command args = some response ↔ s.Repeats history command args response :=
    cached?_eq_some_iff_repeats hfollows.mirrors hfollows.remembers
  refine ⟨hfollows.records.frames_eq, ?_⟩
  have hrecords := records_of_call hfollows.records haccept hcall
  rcases executeRecorded_cases hcall with
    ⟨kept, hcached, hkept, rfl, rfl⟩ | ⟨result, link', hcached, -, hresult, rfl, rfl⟩
  · -- answered from the cache, so there is an execution to look back at
    cases hkept
    have hrepeats := (hhits _).mp hcached
    obtain ⟨finished, hlast, -⟩ := hrepeats
    have hmem := List.mem_reverse.mp (List.mem_of_find?_eq_some hlast)
    obtain ⟨frame, hframe, hheard⟩ := hfollows.exists_frame hmem
    refine ⟨frame, hframe, ?_, ?_⟩
    · intro hnone
      exact absurd ((hhits _).mp hcached) (hnone _)
    · intro response hresponse
      have hsame : some (Response.acknowledgement accepted) = some response :=
        hcached.symm.trans ((hhits response).mpr hresponse)
      exact ⟨(Option.some.inj hsame).symm, hheard, rfl, rfl⟩
  · -- executed, so the success is the last one of the history that the device follows
    cases result with
    | error e => cases hresult
    | ok answered =>
      cases hresult
      obtain ⟨frame, hframe⟩ := hrecords.exists_frame _ (List.mem_append_right _
        (List.mem_singleton_self _)) _ rfl
      refine ⟨frame, hframe, ?_, ?_⟩
      · intro _
        refine ⟨?_, link'.now, rfl⟩
        rw [hrecords.frames_eq, hfollows.records.frames_eq, List.flatMap_append,
          List.flatMap_singleton, Command.traffic, hframe, List.append_assoc]
      · intro response hresponse
        have hsome := (hhits response).mpr hresponse
        rw [hcached] at hsome
        cases hsome

/-! ### A refused setting -/

/-- A link to a device that refuses the first thing that it is told. -/
def refusing : Link where
  device := Loopback.pushResponse {} [0x5E, 0x30]

/-- The defaults are to be restored at a device that refuses this. -/
theorem exists_execute_refusing : ∃ link,
    refusing.execute .setDefaults [] = some (.ok (.acknowledgement false), link) := by
  have hframe : Command.frame .setDefaults [] = .ok "^S005PF".toList := by decide
  have hreturn : '\r' ∉ "^S005PF".toList := by decide
  have hanswer : Frame.terminator ∉ ([0x5E, 0x30] : List UInt8) := by decide
  obtain ⟨link, hexecute⟩ := refusing.execute_of_queue hframe hreturn hanswer rfl rfl
  have hroom :
      (Frame.onWire refusing.flags.readChecksum [0x5E, 0x30]).length ≤ Link.answerCapacity := by
    decide
  rw [if_pos hroom] at hexecute
  exact ⟨link, hexecute⟩

/-- When this is tried once more at the same time, the second call gives the refusal again and does
not reach the device. -/
theorem exists_refused_twice : ∃ s history after,
    runRecorded ({ link := refusing }, []) ([.call .setDefaults []].map Demand.event) =
        some (s, history) ∧
      s.executeRecorded Link.carrier .setDefaults [] history =
        some ((.ok (.acknowledgement false), after), history) ∧
      after.link.device = s.link.device := by
  obtain ⟨link, hexecute⟩ := exists_execute_refusing
  set first : Session := { link := refusing }
  have hcall : first.executeRecorded Link.carrier .setDefaults [] [] =
      some ((.ok (.acknowledgement false),
          first.executed .setDefaults [] (.ok (.acknowledgement false)) link),
        [⟨.setDefaults, [], .ok (.acknowledgement false), link.now⟩]) := by
    rw [executeRecorded_of_not_cached rfl]
    have hcarry :
        Link.carrier.carry ((first.evict .setDefaults).pace .setDefaults).link .setDefaults [] =
        some (.ok (.acknowledgement false), link) := hexecute
    rw [hcarry]
    rfl
  set s := first.executed .setDefaults [] (.ok (.acknowledgement false)) link with hs
  have hcached : s.cached? .setDefaults [] = some (.acknowledgement false) := by
    refine cached?_eq_some_iff.mpr ⟨⟨link.now, [], .acknowledgement false⟩, ?_, rfl, ?_, rfl⟩
    · rw [hs, cache_executed_ok, Cache.get?_insert_self]
    · rw [hs, now_executed, Nat.sub_self]
      exact Nat.zero_le _
  have hrun : runRecorded (first, []) ([.call .setDefaults []].map Demand.event) =
      some (s, [⟨.setDefaults, [], .ok (.acknowledgement false), link.now⟩]) := by
    simp only [List.map_cons, List.map_nil, Demand.event, runRecorded, stepRecorded, hcall]
    rfl
  exact ⟨s, _, _, hrun, executeRecorded_of_cached hcached _ _, rfl⟩

/-- It is not so that a setting goes out whenever it is acknowledged: a device that has refused it
does not hear of a second try. -/
theorem not_forall_sent : ¬ ∀ (link : Link) (policy : SessionPolicy) (demands : List Demand)
    (s : Session) (history : List Execution) (command : Command) (args : List String)
    (frame : List Char) (accepted : Bool) (after : Session) (history' : List Execution),
    link.device.incoming = [] → (∀ call ∈ calls demands, call.1.Accepts call.2) →
    runRecorded ({ link, policy }, []) (demands.map Demand.event) = some (s, history) →
    command.isSetter = true → command.Accepts args → command.frame args = .ok frame →
    s.executeRecorded Link.carrier command args history =
      some ((.ok (.acknowledgement accepted), after), history') →
    after.link.device.frames = s.link.device.frames ++
      [Frame.body link.flags.writeChecksum (Utf8.encode frame)] := by
  intro hall
  obtain ⟨s, history, after, hrun, hcall, hdevice⟩ := exists_refused_twice
  have haccept : Command.Accepts .setDefaults [] := ⟨"set-rated-defaults", [], by decide⟩
  have haccepts : ∀ call ∈ calls [.call .setDefaults []], call.1.Accepts call.2 := by
    simpa [calls] using haccept
  have hframe : Command.frame .setDefaults [] = .ok "^S005PF".toList := by decide
  have hsent :=
    hall refusing {} [.call .setDefaults []] s history .setDefaults [] _ false after history
    rfl haccepts hrun rfl haccept hframe hcall
  rw [hdevice] at hsent
  simpa using congrArg List.length hsent

/-- The second refusal is the first one, and the device has heard of the setting once. -/
theorem sent_iff_not_repeats_refused : ∃ s history after,
    runRecorded ({ link := refusing }, []) ([.call .setDefaults []].map Demand.event) =
        some (s, history) ∧
      s.executeRecorded Link.carrier .setDefaults [] history =
        some ((.ok (.acknowledgement false), after), history) ∧
      s.Repeats history .setDefaults [] (.acknowledgement false) ∧
      Frame.body true (Utf8.encode "^S005PF".toList) ∈ s.link.device.frames ∧
      after.link.device = s.link.device := by
  obtain ⟨s, history, after, hrun, hcall, -⟩ := exists_refused_twice
  have haccept : Command.Accepts .setDefaults [] := ⟨"set-rated-defaults", [], by decide⟩
  have haccepts : ∀ call ∈ calls [.call .setDefaults []], call.1.Accepts call.2 := by
    simpa [calls] using haccept
  obtain ⟨-, frame, hframe, hsent, hrepeated⟩ :=
    sent_iff_not_repeats rfl haccepts hrun haccept hcall
  obtain rfl : "^S005PF".toList = frame := by
    have hlaidOut : Command.frame .setDefaults [] = .ok "^S005PF".toList := by decide
    exact Except.ok.inj (hlaidOut.symm.trans hframe)
  -- nothing was sent, so the call must be a repetition
  obtain ⟨response, hresponse⟩ : ∃ response, s.Repeats history .setDefaults [] response := by
    by_contra hnone
    obtain ⟨-, finished, hlonger⟩ := hsent fun response hresponse => hnone ⟨response, hresponse⟩
    simpa using congrArg List.length hlonger
  obtain ⟨rfl, hheard, hdevice, -⟩ := hrepeated response hresponse
  exact ⟨s, history, after, hrun, hcall, hresponse, hheard, hdevice⟩

end Session

end InverterLink
