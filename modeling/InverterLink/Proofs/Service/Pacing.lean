import Mathlib.Data.List.Chain
import InverterLink.Proofs.Service.History

/-!
# The pause between exchanges

A session remembers when its last exchange was over, and lets the delay of its policy pass from
there before it gives the next command to the device. Whether the exchange has succeeded plays no
part, and an answer from the cache neither waits nor counts as an exchange.

To speak of the pause between two exchanges the record of a session has to say when each of them was
begun. The times are noted by the carrier, which is given the link at the moment when the exchange
starts; without them the record is the history of the session.

## Main definitions

* `Exchange`, `Carrier.timing`: an execution with both of its times, and a carrier that notes them.
* `Session.runTimed`: the session behind a list of events, with the exchanges that there were.
* `Session.IsPaced`: how the exchanges of a run lie in time.

## Main statements

* `Session.map_runTimed`: without the times, a timed run is a recorded run.
* `Session.IsPaced.executeTimed`: what a call preserves.
* `Session.pause_kept_of_runTimed`: the pauses of every run, and of the calls behind it.
-/

namespace InverterLink

/-- A command that was executed on the device, with the time when it was given to it. -/
structure Exchange extends Execution where
  started : Nat

/-- The carrier with a record of everything that it is given, and of when this was. -/
def Carrier.timing (carrier : Carrier) (link : Link) (command : Command) (args : List String) :
    StateT (List Exchange) Option (Except Error Response × Link) := fun exchanges =>
  (carrier.carry link command args).map fun (outcome, after) =>
    ((outcome, after), exchanges ++ [⟨⟨command, args, outcome, after.now⟩, link.now⟩])

namespace Session

variable {carrier : Carrier} {s after : Session} {command : Command} {args : List String}
  {outcome : Except Error Response} {exchanges exchanges' : List Exchange}

/-! ### The pause -/

/-- No pause is longer than the delay of the policy. -/
theorem pause_le (s : Session) : s.pause ≤ s.policy.delay * millisecond := by
  rw [pause]
  cases s.lastFinished? with
  | none => exact Nat.zero_le _
  | some finished => exact Nat.sub_le _ _

/-- The pause is all the time that passes before an exchange. -/
theorem now_pace (s : Session) (command : Command) : (s.pace command).now = s.now + s.pause := by
  rw [pace]
  split_ifs with hpause
  · rw [hpause, Nat.add_zero]
  · rfl

/-- After the pause, the delay has passed since the last exchange was over. -/
theorem delay_le_now_pace {finished : Nat} (hlast : s.lastFinished? = some finished)
    (hfinished : finished ≤ s.now) (command : Command) :
    finished + s.policy.delay * millisecond ≤ (s.pace command).now := by
  have hpause : s.pause = s.policy.delay * millisecond - (s.now - finished) := by
    rw [pause, hlast]
  rw [now_pace, hpause]
  omega

/-- Whatever an exchange ends in, the session remembers when it was over. -/
theorem lastFinished?_executed (s : Session) (command : Command) (args : List String)
    (outcome : Except Error Response) (link : Link) :
    (s.executed command args outcome link).lastFinished? = some link.now := by
  cases outcome with
  | ok response => rfl
  | error e =>
    simp only [executed, settle, countError]
    split_ifs <;> rfl

/-! ### Timed calls -/

/-- A call whose exchange is recorded with its times. -/
def executeTimed (s : Session) (carrier : Carrier) (command : Command) (args : List String)
    (exchanges : List Exchange) : Option ((Except Error Response × Session) × List Exchange) :=
  (s.executeVia carrier.timing command args).run exchanges

theorem executeTimed_of_cached {response : Response} (h : s.cached? command args = some response)
    (carrier : Carrier) (exchanges : List Exchange) :
    s.executeTimed carrier command args exchanges =
      some ((.ok response, s.note .debug s!"{command.label}: answering from cache"),
        exchanges) := by
  rw [executeTimed, executeVia_of_cached _ h]
  rfl

theorem executeTimed_of_not_cached (h : s.cached? command args = none) (carrier : Carrier)
    (exchanges : List Exchange) :
    s.executeTimed carrier command args exchanges =
      (carrier.carry ((s.evict command).pace command).link command args).map fun (result, link) =>
        ((result.mapError Error.collapse, s.executed command args result link),
          exchanges ++ [⟨⟨command, args, result, link.now⟩,
            ((s.evict command).pace command).now⟩]) := by
  rw [executeTimed, executeVia_of_not_cached _ h, StateT.run_map, Option.map_eq_map]
  exact Option.map_map _ _ _

/-- **Timing changes nothing.** Without the times, a timed call is a recorded call. -/
theorem map_executeTimed (s : Session) (carrier : Carrier) (command : Command)
    (args : List String) (exchanges : List Exchange) :
    (s.executeTimed carrier command args exchanges).map
        (fun (result, exchanges) => (result, exchanges.map Exchange.toExecution)) =
      s.executeRecorded carrier command args (exchanges.map Exchange.toExecution) := by
  cases hcached : s.cached? command args with
  | some response =>
    rw [executeTimed_of_cached hcached, executeRecorded_of_cached hcached]
    rfl
  | none =>
    rw [executeTimed_of_not_cached hcached, executeRecorded_of_not_cached hcached, Option.map_map]
    refine congrArg (Option.map · _) (funext fun (result, link) => ?_)
    simp only [Function.comp_apply, List.map_append, List.map_singleton]

/-! ### Timed runs -/

/-- The session and its exchanges after an event. -/
def stepTimed (state : Session × List Exchange) : Event → Option (Session × List Exchange)
  | .wait time => some (state.1.wait time, state.2)
  | .call carrier command args =>
    (state.1.executeTimed carrier command args state.2).map fun (result, exchanges) =>
      (result.2, exchanges)

/-- The session and its exchanges after a list of events, if every call comes back. -/
def runTimed (state : Session × List Exchange) (events : List Event) :
    Option (Session × List Exchange) :=
  events.foldlM stepTimed state

theorem runTimed_cons (state : Session × List Exchange) (event : Event) (events : List Event) :
    runTimed state (event :: events) = (stepTimed state event).bind (runTimed · events) :=
  rfl

/-- The record without the times. -/
def withoutTimes (state : Session × List Exchange) : Session × List Execution :=
  (state.1, state.2.map Exchange.toExecution)

theorem map_stepTimed (state : Session × List Exchange) (event : Event) :
    (stepTimed state event).map withoutTimes = stepRecorded (withoutTimes state) event := by
  cases event with
  | wait time => rfl
  | call carrier command args =>
    simp only [stepTimed, stepRecorded, withoutTimes, ← map_executeTimed, Option.map_map]
    rfl

/-- **Without the times, a timed run is a recorded run.** -/
theorem map_runTimed (state : Session × List Exchange) (events : List Event) :
    (runTimed state events).map withoutTimes = runRecorded (withoutTimes state) events := by
  induction events generalizing state with
  | nil => rfl
  | cons event events ih =>
    rw [runTimed_cons, runRecorded, ← map_stepTimed, Option.map_bind, Option.bind_map]
    exact congrArg (Option.bind _) (funext fun next => ih next)

/-! ### Pacing -/

/-- The exchanges of a session with the given delay lie as they should: each starts when the delay
has passed since the one before it was over, and the session remembers when the last one was. -/
structure IsPaced (delay : Nat) (s : Session) (exchanges : List Exchange) : Prop where
  policy_eq : s.policy.delay = delay
  lastFinished?_eq : s.lastFinished? = exchanges.getLast?.map (·.finished)
  finished_le : ∀ last ∈ exchanges.getLast?, last.finished ≤ s.now
  spaced : exchanges.IsChain fun earlier later =>
    earlier.finished + delay * millisecond ≤ later.started

namespace IsPaced

variable {delay : Nat}

theorem start (link : Link) (policy : SessionPolicy) :
    IsPaced policy.delay { link, policy } [] where
  policy_eq := rfl
  lastFinished?_eq := rfl
  finished_le := nofun
  spaced := .nil

theorem wait (h : IsPaced delay s exchanges) (time : Nat) :
    IsPaced delay (s.wait time) exchanges where
  policy_eq := h.policy_eq
  lastFinished?_eq := h.lastFinished?_eq
  finished_le last hlast := (h.finished_le last hlast).trans (Nat.le_add_right _ _)
  spaced := h.spaced

/-- A report changes no time. -/
theorem note (h : IsPaced delay s exchanges) (level : Level) (message : String) :
    IsPaced delay (s.note level message) exchanges :=
  ⟨h.policy_eq, h.lastFinished?_eq, h.finished_le, h.spaced⟩

/-- The next exchange starts when the delay has passed since the last one was over, if there
was one. -/
theorem delay_le_started (h : IsPaced delay s exchanges) (command : Command) {last : Exchange}
    (hlast : last ∈ exchanges.getLast?) :
    last.finished + delay * millisecond ≤ ((s.evict command).pace command).now := by
  have hfinished : (s.evict command).lastFinished? = some last.finished := by
    refine h.lastFinished?_eq.trans ?_
    rw [Option.mem_def.mp hlast, Option.map_some]
  rw [← h.policy_eq]
  exact delay_le_now_pace hfinished (h.finished_le last hlast) command

/-- The exchanges stay paced if the next one starts after the pause. -/
theorem executed (h : IsPaced delay s exchanges) (command : Command) (args : List String)
    (outcome : Except Error Response) (link : Link) :
    IsPaced delay (s.executed command args outcome link)
      (exchanges ++ [⟨⟨command, args, outcome, link.now⟩,
        ((s.evict command).pace command).now⟩]) where
  policy_eq := by rw [policy_executed, h.policy_eq]
  lastFinished?_eq := by rw [lastFinished?_executed, List.getLast?_concat, Option.map_some]
  finished_le last hlast := by
    rw [List.getLast?_concat, Option.mem_some] at hlast
    rw [now_executed, ← hlast]
  spaced := by
    refine List.isChain_append.mpr ⟨h.spaced, .singleton _, fun last hlast next hnext => ?_⟩
    rw [List.head?_singleton, Option.mem_some] at hnext
    rw [← hnext]
    exact h.delay_le_started command hlast

/-- **What a call preserves**: the exchanges stay paced, whether the call comes from the cache or
whatever its exchange ends in. -/
theorem executeTimed (h : IsPaced delay s exchanges)
    (hcall : s.executeTimed carrier command args exchanges = some ((outcome, after), exchanges')) :
    IsPaced delay after exchanges' := by
  cases hcached : s.cached? command args with
  | some response =>
    rw [executeTimed_of_cached hcached] at hcall
    cases hcall
    exact h.note _ _
  | none =>
    rw [executeTimed_of_not_cached hcached] at hcall
    obtain ⟨⟨result, link⟩, -, hcall⟩ := Option.map_eq_some_iff.mp hcall
    cases hcall
    exact h.executed command args result link

/-- The link that a call gives to the device when it finds nothing in the cache: the delay has
passed there since the last exchange, and no more than the delay since the call. -/
theorem exists_given (h : IsPaced delay s exchanges) (hcached : s.cached? command args = none) :
    ∃ given : Link, s.now ≤ given.now ∧ given.now ≤ s.now + delay * millisecond ∧
      (∀ last ∈ exchanges.getLast?, last.finished + delay * millisecond ≤ given.now) ∧
      ∀ carrier : Carrier, (s.executeTimed carrier command args exchanges).map Prod.snd =
        (carrier.carry given command args).map fun (result, left) =>
          exchanges ++ [⟨⟨command, args, result, left.now⟩, given.now⟩] := by
  have hwaited : s.now ≤ ((s.evict command).pace command).now :=
    now_le_pace (s.evict command) command
  have hsoon : ((s.evict command).pace command).now ≤ s.now + delay * millisecond := by
    rw [now_pace, ← h.policy_eq]
    exact Nat.add_le_add_left (pause_le (s.evict command)) _
  refine ⟨((s.evict command).pace command).link, hwaited, hsoon,
    fun last hlast => h.delay_le_started command hlast, fun carrier => ?_⟩
  rw [executeTimed_of_not_cached hcached, Option.map_map]
  rfl

end IsPaced

/-- **The exchanges of every run are paced**, whatever the calls come to. -/
theorem isPaced_of_runTimed {delay : Nat} {events : List Event} (hstart : IsPaced delay s exchanges)
    (hrun : runTimed (s, exchanges) events = some (after, exchanges')) :
    IsPaced delay after exchanges' := by
  induction events generalizing s exchanges with
  | nil =>
    cases hrun
    exact hstart
  | cons event events ih =>
    rw [runTimed_cons] at hrun
    obtain ⟨⟨next, between⟩, hstep, hrun⟩ := Option.bind_eq_some_iff.mp hrun
    refine ih ?_ hrun
    cases event with
    | wait time =>
      cases hstep
      exact hstart.wait time
    | call carrier command args =>
      obtain ⟨⟨⟨outcome, called⟩, extended⟩, hcall, hstep⟩ := Option.map_eq_some_iff.mp hstep
      cases hstep
      exact hstart.executeTimed hcall

/-- **The pause is kept.** Behind every run, each exchange has started when the delay had passed
since the one before it was over, with an error or without. A call that is answered from the cache
takes no time and leaves the time of the last exchange as it is. Any other call sleeps for the delay
at most before it gives the command to the device, which may then do what it likes, or never come
back. -/
theorem pause_kept_of_runTimed {link : Link} {policy : SessionPolicy} {events : List Event}
    (hrun : runTimed ({ link, policy }, []) events = some (s, exchanges)) :
    exchanges.IsChain (fun earlier later =>
        earlier.finished + policy.delay * millisecond ≤ later.started) ∧
      (∀ command args response, s.cached? command args = some response → ∀ carrier, ∃ after,
        s.executeTimed carrier command args exchanges = some ((.ok response, after), exchanges) ∧
          after.now = s.now ∧ after.lastFinished? = s.lastFinished?) ∧
      ∀ command args, s.cached? command args = none →
        ∃ given : Link, s.now ≤ given.now ∧ given.now ≤ s.now + policy.delay * millisecond ∧
          (∀ last ∈ exchanges.getLast?,
            last.finished + policy.delay * millisecond ≤ given.now) ∧
          ∀ carrier : Carrier, (s.executeTimed carrier command args exchanges).map Prod.snd =
            (carrier.carry given command args).map fun (result, left) =>
              exchanges ++ [⟨⟨command, args, result, left.now⟩, given.now⟩] := by
  have hpaced := isPaced_of_runTimed (IsPaced.start link policy) hrun
  refine ⟨hpaced.spaced, fun command args response hcached carrier => ?_,
    fun command args hcached => hpaced.exists_given hcached⟩
  exact ⟨_, executeTimed_of_cached hcached carrier exchanges, rfl, rfl⟩

/-- With a delay of a hundred milliseconds, the command after a timeout waits for all of it, and the
one that comes thirty milliseconds after an answer for the rest. To ask again takes no time. -/
theorem pause_kept_of_runTimed_after_timeout : ∃ s exchanges after,
    runTimed ({ link := {}, policy := { delay := 100 } }, [])
      [.call (.steady (.error (.timeout .reading 0)) 7000) .getWorkingMode [],
        .call (.steady (.ok (.acknowledgement true)) 5000) .setDefaults [], .wait 30000,
        .call (.steady (.ok (.acknowledgement false)) 4000) .getWorkingMode []] =
          some (s, exchanges) ∧
      exchanges.map (fun exchange => (exchange.started, exchange.finished)) =
        [(0, 7000), (107000, 112000), (212000, 216000)] ∧
      exchanges.IsChain (fun earlier later =>
        earlier.finished + 100 * millisecond ≤ later.started) ∧
      s.executeTimed (.steady (.error (.timeout .reading 0)) 7000) .getWorkingMode [] exchanges =
        some ((.ok (.acknowledgement false), after), exchanges) ∧
      after.now = 216000 ∧ after.lastFinished? = some 216000 := by
  obtain ⟨s, exchanges, hrun, htimes, hcached, hnow, hlast⟩ : ∃ s exchanges,
      runTimed ({ link := {}, policy := { delay := 100 } }, [])
        [.call (.steady (.error (.timeout .reading 0)) 7000) .getWorkingMode [],
          .call (.steady (.ok (.acknowledgement true)) 5000) .setDefaults [], .wait 30000,
          .call (.steady (.ok (.acknowledgement false)) 4000) .getWorkingMode []] =
            some (s, exchanges) ∧
        exchanges.map (fun exchange => (exchange.started, exchange.finished)) =
          [(0, 7000), (107000, 112000), (212000, 216000)] ∧
        s.cached? .getWorkingMode [] = some (.acknowledgement false) ∧
        s.now = 216000 ∧ s.lastFinished? = some 216000 :=
    ⟨_, _, rfl, rfl, rfl, rfl, rfl⟩
  obtain ⟨hspaced, hcalls, -⟩ := pause_kept_of_runTimed hrun
  obtain ⟨after, hcall, hsame, hclock⟩ :=
    hcalls _ _ _ hcached (.steady (.error (.timeout .reading 0)) 7000)
  exact ⟨s, exchanges, after, hrun, htimes, hspaced, hcall, hsame.trans hnow, hclock.trans hlast⟩

end Session

end InverterLink
