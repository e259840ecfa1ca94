import InverterLink.Proofs.Service.ErrorLimit

/-!
# What a failed call leaves

A call that fails takes one thing away: the answer that was kept for its command, which is dropped
before the device is asked. It puts nothing in its place and touches no other answer, so that nobody
is given an answer to the command before the device has been asked for it again, at once or behind
any number of calls of other commands. Besides, a failure is counted if it points at the device, and
it is shown with the label of its layer if it is one of the link or of the answer.

## Main definitions

* `Error.IsReportOf`: how a failure is shown to whoever has called.
* `Session.Event.Calls`: the calls of a command.

## Main statements

* `Session.get?_of_runRecorded`: calls of other commands do not touch the answer that is kept.
* `Session.exists_history_eq`: a call without an answer that is kept asks the device.
* `Session.kept_of_executeRecorded_error`: what a failed call leaves.
-/

namespace InverterLink

/-! ### How failures are shown -/

namespace Error

/-- A failure of the link or of the answer is shown as one of the running program, with a label for
its layer in front of its message. Every other failure is shown as it is. -/
def IsReportOf (shown cause : Error) : Prop :=
  match cause.layer with
  | .device => shown.layer = .runtime ∧ shown.message = "device error: " ++ cause.message
  | .timeout => shown.layer = .runtime ∧ shown.message = "timeout: " ++ cause.message
  | .invalidData => shown.layer = .runtime ∧ shown.message = "data is invalid: " ++ cause.message
  | .invalidResponse | .parse =>
    shown.layer = .runtime ∧ shown.message = "response is invalid: " ++ cause.message
  | .invalidArgument | .internal | .runtime => shown = cause

theorem isReportOf_collapse (cause : Error) : cause.collapse.IsReportOf cause := by
  have hmessage : (collapsed cause).message =
      (cause.layer.collapsedLabel?.getD "") ++ cause.message := rfl
  rw [collapse, IsReportOf]
  rcases hlayer : cause.layer <;> rw [hlayer] at hmessage
  -- the layers with a label come first
  iterate 5 exact ⟨rfl, hmessage⟩
  iterate 3 rfl

end Error

namespace Session

variable {carrier : Carrier} {s after : Session} {command other : Command} {args : List String}
  {outcome : Except Error Response} {history history' : List Execution} {link : Link} {e : Error}

/-! ### What is kept for other commands -/

/-- The event is a call of the command. -/
def Event.Calls (command : Command) : Event → Prop
  | .wait _ => False
  | .call _ called _ => called = command

/-- An execution does not touch what is kept for other commands. -/
theorem get?_executed_of_ne (hne : other ≠ command) (s : Session) (args : List String)
    (outcome : Except Error Response) (link : Link) :
    (s.executed command args outcome link).cache.get? other = s.cache.get? other := by
  have herase := Cache.get?_erase_of_ne s.cache hne
  cases outcome with
  | ok response => rw [cache_executed_ok, Cache.get?_insert_of_ne _ _ hne, herase]
  | error e => rw [cache_executed_error, herase]

/-- Nor does a call. -/
theorem get?_of_executeRecorded (hne : other ≠ command)
    (hcall : s.executeRecorded carrier command args history = some ((outcome, after), history')) :
    after.cache.get? other = s.cache.get? other := by
  rcases executeRecorded_cases hcall with ⟨response, -, -, rfl, -⟩ | ⟨result, link, -, -, -, rfl, -⟩
  · rfl
  · exact get?_executed_of_ne hne s args result link

/-- **Calls of other commands do not touch the answer that is kept for a command**, however many
there are and whatever comes of them. -/
theorem get?_of_runRecorded {events : List Event}
    (hevents : ∀ event ∈ events, ¬ event.Calls command)
    (hrun : runRecorded (s, history) events = some (after, history')) :
    after.cache.get? command = s.cache.get? command := by
  induction events generalizing s history with
  | nil =>
    cases hrun
    rfl
  | cons event events ih =>
    obtain ⟨hevent, hevents⟩ := List.forall_mem_cons.mp hevents
    obtain ⟨⟨next, between⟩, hstep, hrun⟩ := Option.bind_eq_some_iff.mp hrun
    refine (ih hevents hrun).trans ?_
    cases event with
    | wait time =>
      cases hstep
      rfl
    | call carrier called args =>
      obtain ⟨⟨⟨outcome, last⟩, extended⟩, hcall, hstep⟩ := Option.map_eq_some_iff.mp hstep
      cases hstep
      exact get?_of_executeRecorded (Ne.symm hevent) hcall

/-! ### Calls that find nothing -/

/-- **A call that finds no answer kept asks the device**, and its history is what comes of this. -/
theorem exists_history_eq (hnone : s.cache.get? command = none) (args : List String)
    (history : List Execution) :
    ∃ now log, ∀ carrier : Carrier,
      (s.executeRecorded carrier command args history).map Prod.snd =
        (carrier.carry { s.link with now, log } command args).map fun (result, link) =>
          history ++ [⟨command, args, result, link.now⟩] := by
  have hcached : s.cached? command args = none := by rw [cached?, hnone]
  obtain ⟨now, log, hpaced⟩ := (s.evict command).exists_pace_eq command
  refine ⟨now, log, fun carrier => ?_⟩
  rw [executeRecorded_of_not_cached hcached, hpaced, Option.map_map]
  rfl

/-! ### Failed calls -/

/-- An execution that fails is counted if the failure points at the device. -/
theorem deviceErrors_executed_error (s : Session) (command : Command) (args : List String)
    (e : Error) (link : Link) :
    (s.executed command args (.error e) link).deviceErrors =
      s.deviceErrors + if e.layer ∈ [Layer.device, .timeout, .invalidData] then 1 else 0 := by
  rw [executed_eq_settle]
  by_cases hlevel : e.isDeviceLevel = true
  · rw [settle_of_deviceLevel hlevel, if_pos (Error.isDeviceLevel_iff.mp hlevel)]
    exact (countError_standing _).1
  · rw [settle_of_not_deviceLevel (Bool.eq_false_iff.mpr hlevel),
      if_neg (Error.isDeviceLevel_iff.not.mp hlevel)]
    exact (UInt32.add_zero _).symm

/-- **A failed call takes nothing away but the answer to its command.** Whatever a session has been
through and whatever the device does, a call that fails has executed its command on the device, and
shows the failure of this execution. It leaves no answer to the command and all the answers to
others, and it is counted once, in 32 bits, if the failure is one of the device, and not otherwise.
The next call of the command, with these or other arguments, goes to the device, whatever calls of
other commands and pauses come before it. -/
theorem kept_of_executeRecorded_error
    (hcall : s.executeRecorded carrier command args history = some ((.error e, after), history')) :
    (∃ cause finished, history' = history ++ [⟨command, args, .error cause, finished⟩] ∧
      e.IsReportOf cause ∧
      after.deviceErrors = s.deviceErrors +
        if cause.layer ∈ [Layer.device, .timeout, .invalidData] then 1 else 0) ∧
    after.cache.get? command = none ∧
    (∀ other, other ≠ command → after.cache.get? other = s.cache.get? other) ∧
    ∀ events later between, (∀ event ∈ events, ¬ event.Calls command) →
      runRecorded (after, history') events = some (later, between) →
      ∀ args', ∃ now log, ∀ carrier' : Carrier,
        (later.executeRecorded carrier' command args' between).map Prod.snd =
          (carrier'.carry { later.link with now, log } command args').map fun (result, link) =>
            between ++ [⟨command, args', result, link.now⟩] := by
  rcases executeRecorded_cases hcall with
    ⟨response, -, hcached, -⟩ | ⟨result, link, -, -, he, rfl, rfl⟩
  · cases hcached
  cases result with
  | ok response => cases he
  | error cause =>
    cases he
    have hnone : (s.executed command args (.error cause) link).cache.get? command = none := by
      rw [cache_executed_error]
      exact Cache.get?_erase_self _ command
    refine ⟨⟨cause, link.now, rfl, Error.isReportOf_collapse cause, ?_⟩, hnone, ?_, ?_⟩
    · exact deviceErrors_executed_error s command args cause link
    · intro other hne
      exact get?_executed_of_ne hne s args (.error cause) link
    · intro events later between hevents hrun args'
      have hlater : later.cache.get? command = none :=
        (get?_of_runRecorded hevents hrun).trans hnone
      exact exists_history_eq hlater args' between

/-- An answer that has become too old is asked for again and the device stays silent, while an
answer to another command is kept. -/
theorem kept_of_executeRecorded_error_after_timeout :
    ∃ s history e after history',
      runRecorded ({ link := {} }, [])
        [.call (.steady (.ok (.acknowledgement true)) 5) .setDefaults [], .wait 2000000,
          .call (.steady (.ok (.acknowledgement true)) 5) .clearGenerated []] = some (s, history) ∧
      s.executeRecorded (.steady (.error (.timeout .reading 7)) 7000) .setDefaults [] history =
        some ((.error e, after), history') ∧
      e.layer = .runtime ∧ e.message = "timeout: " ++ (Error.timeout .reading 7).message ∧
      after.deviceErrors = 1 ∧ after.cache.get? .setDefaults = none ∧
      (after.cache.get? .clearGenerated).isSome = true := by
  obtain ⟨s, history, e, after, hrun, hcall, herrors, hkept⟩ : ∃ s history e after,
      runRecorded ({ link := {} }, [])
        [.call (.steady (.ok (.acknowledgement true)) 5) .setDefaults [], .wait 2000000,
          .call (.steady (.ok (.acknowledgement true)) 5) .clearGenerated []] = some (s, history) ∧
      s.executeRecorded (.steady (.error (.timeout .reading 7)) 7000) .setDefaults [] history =
        some ((.error e, after),
          history ++ [⟨.setDefaults, [], .error (.timeout .reading 7), 2007010⟩]) ∧
      s.deviceErrors = 0 ∧ (s.cache.get? .clearGenerated).isSome = true :=
    ⟨_, _, _, _, rfl, rfl, rfl, rfl⟩
  obtain ⟨⟨cause, finished, hhistory, hreport, hcount⟩, hnone, hothers, -⟩ :=
    kept_of_executeRecorded_error hcall
  obtain ⟨rfl, -⟩ : Error.timeout .reading 7 = cause ∧ 2007010 = finished := by
    simpa using List.append_cancel_left hhistory
  rw [herrors] at hcount
  rw [← hothers .clearGenerated (by decide)] at hkept
  exact ⟨s, history, e, after, _, hrun, hcall, hreport.1, hreport.2, hcount, hnone, hkept⟩

end Session

end InverterLink
