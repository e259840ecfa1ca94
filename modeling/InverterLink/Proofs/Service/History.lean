import InverterLink.Proofs.Link.Clock
import InverterLink.Service.Session

/-!
# The history of a session

What a device makes of a command is not the business of a session, so the runs here go over
*carriers*: functions that say how a command comes back and what becomes of the link, bound only to
let no time run backwards. A carrier can be made to record every command that it is given. The
recording is the same definition run in a richer monad, so nothing is recorded but what the session
really has executed, and dropping the record gives the plain call back.

## Main definitions

* `Carrier`: what a device may make of commands.
* `Execution`, `Carrier.recording`: one execution on the device, and a carrier that keeps a history.
* `Session.Event`, `Session.runRecorded`: calls and pauses, and the session behind a list of them.
-/

namespace InverterLink

/-! ### Carriers -/

/-- What a device makes of a command, if it ever comes back, with the time that this takes. -/
structure Carrier where
  carry : Link → Command → List String → Option (Except Error Response × Link)
  /-- The clock does not go back. -/
  now_le : ∀ {link command args outcome after},
    carry link command args = some (outcome, after) → link.now ≤ after.now

/-- The way over a link to the device at its end. -/
def Link.carrier : Carrier where
  carry := Link.execute
  now_le := Link.now_le_of_execute

/-- A device that has the same outcome for everything, after the same time. -/
def Carrier.steady (outcome : Except Error Response) (time : Nat) : Carrier where
  carry link _ _ := some (outcome, link.wait time)
  now_le h := by
    cases h
    exact Nat.le_add_right _ _

/-- A command that was executed on the device. -/
structure Execution where
  command : Command
  args : List String
  outcome : Except Error Response
  /-- When the execution was over. -/
  finished : Nat

/-- The carrier with a record of everything that it is given. -/
def Carrier.recording (carrier : Carrier) (link : Link) (command : Command) (args : List String) :
    StateT (List Execution) Option (Except Error Response × Link) := fun history =>
  (carrier.carry link command args).map fun (outcome, after) =>
    ((outcome, after), history ++ [⟨command, args, outcome, after.now⟩])

/-- The last execution of a command. -/
def lastOf? (command : Command) (history : List Execution) : Option Execution :=
  history.reverse.find? (·.command = command)

theorem lastOf?_append_self (history : List Execution) (e : Execution) :
    lastOf? e.command (history ++ [e]) = some e := by
  rw [lastOf?, List.reverse_append, List.reverse_singleton, List.singleton_append]
  exact List.find?_cons_of_pos (decide_eq_true rfl)

theorem lastOf?_append_of_ne {command : Command} {e : Execution} (h : e.command ≠ command)
    (history : List Execution) : lastOf? command (history ++ [e]) = lastOf? command history := by
  rw [lastOf?, List.reverse_append, List.reverse_singleton, List.singleton_append]
  exact List.find?_cons_of_neg (by simpa using h)

namespace Session

variable {carrier : Carrier} {s after : Session} {command : Command} {args : List String}
  {outcome : Except Error Response} {history history' : List Execution}

/-! ### What is kept -/

/-- A look into the cache gives the answer that is kept, if it is for the same
arguments and not too old. -/
theorem cached?_eq_some_iff {response : Response} : s.cached? command args = some response ↔
    ∃ cached, s.cache.get? command = some cached ∧ cached.args = args ∧
      s.now - cached.obtained ≤ s.policy.cacheTimeout * millisecond ∧
        cached.response = response := by
  rw [cached?]
  cases s.cache.get? command with
  | none =>
    refine iff_of_false (Option.some_ne_none response).symm ?_
    rintro ⟨cached, hget, -⟩
    exact absurd hget.symm (Option.some_ne_none cached)
  | some cached =>
    simp only [CachedResponse.isFresh, Bool.and_eq_true, decide_eq_true_iff, Option.some_inj,
      exists_eq_left']
    split_ifs with hfresh
    · rw [Option.some_inj]
      exact ⟨fun h => ⟨hfresh.2, hfresh.1, h⟩, fun h => h.2.2⟩
    · exact iff_of_false not_false fun h => hfresh ⟨h.2.1, h.1⟩

/-! ### What an execution leaves -/

theorem now_le_pace (s : Session) (command : Command) : s.now ≤ (s.pace command).now := by
  rw [pace]
  split_ifs with hpause
  · exact Nat.le_refl _
  · exact Nat.le_add_right _ _

@[simp]
theorem cache_pace (s : Session) (command : Command) : (s.pace command).cache = s.cache := by
  rw [pace]
  split_ifs <;> rfl

@[simp]
theorem policy_pace (s : Session) (command : Command) : (s.pace command).policy = s.policy := by
  rw [pace]
  split_ifs <;> rfl

/-- A device error changes the count and the flags alone. -/
theorem countError_frame (s : Session) :
    s.countError.now = s.now ∧ s.countError.cache = s.cache ∧ s.countError.policy = s.policy := by
  simp only [countError]
  split_ifs
  · exact ⟨rfl, rfl, rfl⟩
  · exact ⟨rfl, rfl, rfl⟩

/-- A failure leaves the time, the cache and the policy as they are. -/
theorem settle_error_frame (s : Session) (command : Command) (args : List String) (e : Error) :
    (s.settle command args (.error e)).now = s.now ∧
      (s.settle command args (.error e)).cache = s.cache ∧
      (s.settle command args (.error e)).policy = s.policy := by
  simp only [settle]
  split_ifs
  · exact countError_frame _
  · exact ⟨rfl, rfl, rfl⟩

/-- What becomes of the session in which a command was executed, with the link that this left. -/
def executed (s : Session) (command : Command) (args : List String)
    (outcome : Except Error Response) (link : Link) : Session :=
  { (s.evict command).pace command with link }.settle command args outcome

@[simp]
theorem now_executed (s : Session) (command : Command) (args : List String)
    (outcome : Except Error Response) (link : Link) :
    (s.executed command args outcome link).now = link.now := by
  cases outcome with
  | ok response => rfl
  | error e => exact (settle_error_frame _ command args e).1

theorem cache_executed_ok (s : Session) (command : Command) (args : List String)
    (response : Response) (link : Link) :
    (s.executed command args (.ok response) link).cache =
      (s.cache.erase command).insert command ⟨link.now, args, response⟩ := by
  rw [executed, settle]
  simp only [cache_pace, evict]
  rfl

theorem cache_executed_error (s : Session) (command : Command) (args : List String) (e : Error)
    (link : Link) : (s.executed command args (.error e) link).cache = s.cache.erase command :=
  (settle_error_frame _ command args e).2.1.trans (cache_pace _ _)

/-- What is kept after an execution is the answer that it has brought, or was kept before for
another command. -/
theorem of_get?_executed {other : Command} {cached : CachedResponse} {link : Link}
    (h : (s.executed command args outcome link).cache.get? other = some cached) :
    (other = command ∧ ∃ response, outcome = .ok response ∧ cached = ⟨link.now, args, response⟩) ∨
      (other ≠ command ∧ s.cache.get? other = some cached) := by
  by_cases hother : other = command
  · subst hother
    cases outcome with
    | ok response =>
      rw [cache_executed_ok, Cache.get?_insert_self] at h
      exact .inl ⟨rfl, response, rfl, (Option.some.inj h).symm⟩
    | error e =>
      rw [cache_executed_error, Cache.get?_erase_self] at h
      cases h
  · refine .inr ⟨hother, ?_⟩
    cases outcome with
    | ok response =>
      rwa [cache_executed_ok, Cache.get?_insert_of_ne _ _ hother,
        Cache.get?_erase_of_ne _ hother] at h
    | error e => rwa [cache_executed_error, Cache.get?_erase_of_ne _ hother] at h

@[simp]
theorem policy_executed (s : Session) (command : Command) (args : List String)
    (outcome : Except Error Response) (link : Link) :
    (s.executed command args outcome link).policy = s.policy := by
  cases outcome with
  | ok response => exact policy_pace _ _
  | error e => exact (settle_error_frame _ command args e).2.2.trans (policy_pace _ _)

/-! ### Calls -/

section

variable {m : Type → Type} [Applicative m]
  (carry : Link → Command → List String → m (Except Error Response × Link))

theorem executeVia_of_cached {response : Response} (h : s.cached? command args = some response) :
    s.executeVia carry command args =
      pure (.ok response, s.note .debug s!"{command.label}: answering from cache") := by
  rw [executeVia, h]

theorem executeVia_of_not_cached (h : s.cached? command args = none) :
    s.executeVia carry command args =
      (fun result => (result.1.mapError Error.collapse, s.executed command args result.1 result.2))
        <$> carry ((s.evict command).pace command).link command args := by
  rw [executeVia, h]
  rfl

end

/-- A recorded call. -/
def executeRecorded (s : Session) (carrier : Carrier) (command : Command) (args : List String)
    (history : List Execution) : Option ((Except Error Response × Session) × List Execution) :=
  (s.executeVia carrier.recording command args).run history

theorem executeRecorded_of_cached {response : Response}
    (h : s.cached? command args = some response) (carrier : Carrier) (history : List Execution) :
    s.executeRecorded carrier command args history =
      some ((.ok response, s.note .debug s!"{command.label}: answering from cache"), history) := by
  rw [executeRecorded, executeVia_of_cached _ h]
  rfl

theorem executeRecorded_of_not_cached (h : s.cached? command args = none) (carrier : Carrier)
    (history : List Execution) :
    s.executeRecorded carrier command args history =
      (carrier.carry ((s.evict command).pace command).link command args).map fun (result, link) =>
        ((result.mapError Error.collapse, s.executed command args result link),
          history ++ [⟨command, args, result, link.now⟩]) := by
  rw [executeRecorded, executeVia_of_not_cached _ h, StateT.run_map, Option.map_eq_map]
  exact Option.map_map _ _ _

/-- **What a call can do.** It answers from the cache and leaves the history as it is, or it finds
nothing in the cache and puts one execution behind the history, with the arguments of the call. -/
theorem executeRecorded_cases
    (h : s.executeRecorded carrier command args history = some ((outcome, after), history')) :
    (∃ response, s.cached? command args = some response ∧ outcome = .ok response ∧
      after = s.note .debug s!"{command.label}: answering from cache" ∧ history' = history) ∨
    (∃ result link, s.cached? command args = none ∧
      carrier.carry ((s.evict command).pace command).link command args = some (result, link) ∧
      outcome = result.mapError Error.collapse ∧ after = s.executed command args result link ∧
      history' = history ++ [⟨command, args, result, link.now⟩]) := by
  cases hcached : s.cached? command args with
  | some response =>
    rw [executeRecorded_of_cached hcached] at h
    cases h
    exact .inl ⟨response, rfl, rfl, rfl, rfl⟩
  | none =>
    rw [executeRecorded_of_not_cached hcached] at h
    obtain ⟨⟨result, link⟩, hcarry, h⟩ := Option.map_eq_some_iff.mp h
    cases h
    exact .inr ⟨result, link, rfl, hcarry, rfl, rfl, rfl⟩

/-- **Recording changes nothing.** Without its record, a recorded call is the call. -/
theorem map_executeRecorded (s : Session) (carrier : Carrier) (command : Command)
    (args : List String) (history : List Execution) :
    (s.executeRecorded carrier command args history).map Prod.fst =
      s.executeVia carrier.carry command args := by
  cases hcached : s.cached? command args with
  | some response => rw [executeRecorded_of_cached hcached, executeVia_of_cached _ hcached]; rfl
  | none =>
    rw [executeRecorded_of_not_cached hcached, executeVia_of_not_cached _ hcached]
    exact Option.map_map _ _ _

/-- A recorded call over the link is the call that the daemon makes. -/
theorem map_executeRecorded_link (s : Session) (command : Command) (args : List String)
    (history : List Execution) :
    (s.executeRecorded Link.carrier command args history).map Prod.fst = s.execute command args :=
  map_executeRecorded s Link.carrier command args history

/-! ### Runs -/

/-- What can happen to a session. -/
inductive Event where
  /-- Nothing is asked for a while. -/
  | wait (time : Nat)
  /-- Some connection executes a command, and the device behaves in some way. -/
  | call (carrier : Carrier) (command : Command) (args : List String)

/-- The session and its history after an event. -/
def stepRecorded (state : Session × List Execution) : Event → Option (Session × List Execution)
  | .wait time => some (state.1.wait time, state.2)
  | .call carrier command args =>
    (state.1.executeRecorded carrier command args state.2).map fun (result, history) =>
      (result.2, history)

/-- The session and its history after a list of events, if every call comes back. -/
def runRecorded (state : Session × List Execution) :
    List Event → Option (Session × List Execution)
  | [] => some state
  | event :: events => (stepRecorded state event).bind (runRecorded · events)

/-- Events that follow others start where these have ended. -/
theorem runRecorded_append (state : Session × List Execution) (events later : List Event) :
    runRecorded state (events ++ later) =
      (runRecorded state events).bind (runRecorded · later) := by
  induction events generalizing state with
  | nil => rfl
  | cons event events ih =>
    rw [List.cons_append, runRecorded, runRecorded, Option.bind_assoc]
    exact congrArg (Option.bind _) (funext fun next => ih next)

/-- **What pauses and calls preserve, runs preserve.** -/
theorem runRecorded_induction {P : Session → List Execution → Prop}
    (hwait : ∀ {s : Session} {history : List Execution} (time : Nat), P s history →
      P (s.wait time) history)
    (hcall : ∀ {s after : Session} {carrier : Carrier} {command : Command} {args : List String}
      {outcome : Except Error Response} {history history' : List Execution}, P s history →
      s.executeRecorded carrier command args history = some ((outcome, after), history') →
      P after history')
    {events : List Event} (hstart : P s history)
    (hrun : runRecorded (s, history) events = some (after, history')) : P after history' := by
  induction events generalizing s history with
  | nil =>
    cases hrun
    exact hstart
  | cons event events ih =>
    obtain ⟨⟨next, between⟩, hstep, hrun⟩ := Option.bind_eq_some_iff.mp hrun
    refine ih ?_ hrun
    cases event with
    | wait time =>
      cases hstep
      exact hwait time hstart
    | call carrier command args =>
      obtain ⟨⟨⟨outcome, called⟩, extended⟩, hexecute, hstep⟩ := Option.map_eq_some_iff.mp hstep
      cases hstep
      exact hcall hstart hexecute

end Session

end InverterLink
