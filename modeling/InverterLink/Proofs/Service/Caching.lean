import InverterLink.Proofs.Link.Fixtures
import InverterLink.Proofs.Service.Traffic

/-!
# The cache cannot be noticed

As long as the device answers every command as it has answered it before, it makes no difference to
those who ask whether an answer is kept or fetched. A device without a queue is of this kind, since
it answers from fixtures. So the calls of a run end in the same under every policy and with every
pause between them, and what keeping answers does is to spare the device some of the frames.

## Main definitions

* `Session.Demand`, `Session.run`: calls and pauses, and what the calls end in.
* `Session.NeverHits`: no call of a run is answered from the cache.
* `Session.IsSteady`: what is kept is what the device would answer now.

## Main statements

* `Session.IsSteady.exists_run`: a run, its outcomes and its traffic.
* `Session.outcomes_eq_of_calls_eq`: runs of the same calls under different policies.
-/

namespace InverterLink

/-- The command is one that requests pass the checks for, with these arguments for the layout. -/
def Command.Accepts (command : Command) (args : List String) : Prop :=
  ∃ name given, ofRequest name given = .ok (command, args)

theorem Command.Accepts.isPlain {command : Command} {args : List String}
    (h : command.Accepts args) {frame : List Char} (hframe : command.frame args = .ok frame) :
    IsPlain frame := by
  obtain ⟨name, given, hrequest⟩ := h
  exact isPlain_frame hrequest hframe

namespace Session

/-! ### Calls and pauses -/

/-- What is asked of a session. -/
inductive Demand where
  /-- Nothing, for a while. -/
  | wait (time : Nat)
  | call (command : Command) (args : List String)

/-- The calls without the pauses. -/
def calls : List Demand → List (Command × List String)
  | [] => []
  | .wait _ :: demands => calls demands
  | .call command args :: demands => (command, args) :: calls demands

/-- What the calls end in, one after the other, and what they leave. -/
def run (s : Session) : List Demand → Option (List (Except Error Response) × Session)
  | [] => some ([], s)
  | .wait time :: demands => (s.wait time).run demands
  | .call command args :: demands => do
    let (outcome, next) ← s.execute command args
    let (outcomes, last) ← next.run demands
    return (outcome :: outcomes, last)

/-- No call finds a fresh answer. -/
def NeverHits (s : Session) : List Demand → Prop
  | [] => True
  | .wait time :: demands => (s.wait time).NeverHits demands
  | .call command args :: demands => ¬ s.HasFresh command args ∧
    ∀ outcome next, s.execute command args = some (outcome, next) → next.NeverHits demands

variable {s after : Session} {command : Command} {args : List String} {flags : Flags}
  {appendChecksum : Bool} {outcome : Except Error Response}

/-! ### What is kept is what the device would answer -/

/-- The device of the session answers from fixtures, and what is kept is what it would answer
now. -/
structure IsSteady (s : Session) (flags : Flags) (appendChecksum : Bool) : Prop where
  flags_eq : s.link.flags = flags
  appendChecksum_eq : s.link.device.appendChecksum = appendChecksum
  isIdle : s.link.device.IsIdle
  obtained_le : ∀ {command cached}, s.cache.get? command = some cached → cached.obtained ≤ s.now
  outcome_eq : ∀ {command cached}, s.cache.get? command = some cached →
    command.fixtureOutcome flags appendChecksum cached.args = .ok cached.response

namespace IsSteady

/-- Nothing is kept at the start. -/
theorem start {link : Link} (hidle : link.device.IsIdle) (policy : SessionPolicy) :
    IsSteady { link, policy } link.flags link.device.appendChecksum where
  flags_eq := rfl
  appendChecksum_eq := rfl
  isIdle := hidle
  obtained_le hget := by cases hget
  outcome_eq hget := by cases hget

/-- Time alone does not change what the device would answer. -/
theorem wait (h : s.IsSteady flags appendChecksum) (time : Nat) :
    (s.wait time).IsSteady flags appendChecksum where
  flags_eq := h.flags_eq
  appendChecksum_eq := h.appendChecksum_eq
  isIdle := h.isIdle
  obtained_le hget := Nat.le_trans (h.obtained_le hget) (Nat.le_add_right _ _)
  outcome_eq := h.outcome_eq

/-- **A call that is answered from the cache** has the outcome that the device would have for it. -/
theorem exists_execute_of_hasFresh (h : s.IsSteady flags appendChecksum)
    (hfresh : s.HasFresh command args) :
    ∃ after, s.execute command args =
        some ((command.fixtureOutcome flags appendChecksum args).mapError Error.collapse, after) ∧
      after.IsSteady flags appendChecksum ∧
      after.link.device.frames = s.link.device.frames := by
  obtain ⟨cached, hget, rfl, hage⟩ := hfresh
  rw [h.outcome_eq hget, execute,
    executeVia_of_cached _ (cached?_eq_some_iff.mpr ⟨cached, hget, rfl, hage, rfl⟩)]
  exact ⟨_, rfl, ⟨h.flags_eq, h.appendChecksum_eq, h.isIdle, h.obtained_le, h.outcome_eq⟩, rfl⟩

/-- What a call that goes to the device leaves of the link. -/
theorem link_of_not_hasFresh (h : s.IsSteady flags appendChecksum)
    (haccepts : command.Accepts args) (hfresh : ¬ s.HasFresh command args)
    (hexecute : s.execute command args = some (outcome, after)) :
    after.link.flags = flags ∧ after.link.device.appendChecksum = appendChecksum ∧
      after.link.device.IsIdle ∧
      after.link.device.frames = s.link.device.frames ++ command.traffic flags args := by
  cases hframe : command.frame args with
  | ok frame =>
    obtain ⟨pending, now, started, log, hlink⟩ :=
      exists_link_execute_of_not_hasFresh hfresh hframe (haccepts.isPlain hframe) hexecute
    have htraffic : command.traffic flags args =
        [Frame.body flags.writeChecksum (Utf8.encode frame)] := by
      rw [Command.traffic, hframe]
    rw [hlink, htraffic, ← h.flags_eq, ← h.appendChecksum_eq, h.isIdle.incoming_eq]
    exact ⟨rfl, rfl, ⟨congrArg List.tail h.isIdle.queue_eq, rfl⟩, rfl⟩
  | error e =>
    obtain ⟨hdevice, hflags, -⟩ := device_execute_of_frame_error hfresh hframe hexecute
    have htraffic : command.traffic flags args = [] := by
      rw [Command.traffic, hframe]
    rw [hdevice, hflags, htraffic, List.append_nil]
    exact ⟨h.flags_eq, h.appendChecksum_eq, h.isIdle, rfl⟩

/-- **A call that goes to the device** puts the traffic of its command there, and what is kept of it
is what the device has answered. -/
theorem exists_execute_of_not_hasFresh (h : s.IsSteady flags appendChecksum)
    (haccepts : command.Accepts args) (hfresh : ¬ s.HasFresh command args) :
    ∃ after, s.execute command args =
        some ((command.fixtureOutcome flags appendChecksum args).mapError Error.collapse, after) ∧
      after.IsSteady flags appendChecksum ∧
      after.link.device.frames = s.link.device.frames ++ command.traffic flags args := by
  set paced := (s.evict command).pace command with hpaced
  obtain ⟨now, log, hpace⟩ := (s.evict command).exists_pace_eq command
  have hidle : paced.link.device.IsIdle := by
    rw [hpaced, hpace]
    exact h.isIdle
  have hflags : paced.link.flags = flags := by
    rw [hpaced, hpace]
    exact h.flags_eq
  have happend : paced.link.device.appendChecksum = appendChecksum := by
    rw [hpaced, hpace]
    exact h.appendChecksum_eq
  obtain ⟨link, hlink⟩ := Link.exists_execute_of_isIdle paced.link hidle fun _ => haccepts.isPlain
  rw [hflags, happend] at hlink
  have hnow : s.now ≤ link.now :=
    Nat.le_trans (now_le_pace (s.evict command) command) (Link.now_le_of_execute hlink)
  set result := command.fixtureOutcome flags appendChecksum args with hresult
  have hexecute : s.execute command args =
      some (result.mapError Error.collapse, s.executed command args result link) := by
    rw [execute_of_not_hasFresh hfresh, ← hpaced, hlink]
    rfl
  obtain ⟨hflags', happend', hidle', hframes⟩ := h.link_of_not_hasFresh haccepts hfresh hexecute
  refine ⟨_, hexecute, ⟨hflags', happend', hidle', ?_, ?_⟩, hframes⟩
  · intro other cached hget
    rw [now_executed]
    obtain ⟨-, response, -, rfl⟩ | ⟨-, hbefore⟩ := of_get?_executed hget
    · exact Nat.le_refl _
    · exact Nat.le_trans (h.obtained_le hbefore) hnow
  · intro other cached hget
    obtain ⟨rfl, response, hresponse, rfl⟩ | ⟨-, hbefore⟩ := of_get?_executed hget
    · exact hresponse
    · exact h.outcome_eq hbefore

/-- **A call has the outcome that the fixtures have for it**, wherever its answer comes from. It
puts the traffic of its command on the device unless it is answered from the cache. -/
theorem exists_execute (h : s.IsSteady flags appendChecksum) (haccepts : command.Accepts args) :
    ∃ after frames, s.execute command args =
        some ((command.fixtureOutcome flags appendChecksum args).mapError Error.collapse, after) ∧
      after.IsSteady flags appendChecksum ∧
      after.link.device.frames = s.link.device.frames ++ frames ∧
      frames.Sublist (command.traffic flags args) ∧
      (¬ s.HasFresh command args → frames = command.traffic flags args) := by
  by_cases hfresh : s.HasFresh command args
  · obtain ⟨after, hexecute, hafter, hframes⟩ := h.exists_execute_of_hasFresh hfresh
    refine ⟨after, [], hexecute, hafter, ?_, List.nil_sublist _, absurd hfresh⟩
    rw [hframes, List.append_nil]
  · obtain ⟨after, hexecute, hafter, hframes⟩ := h.exists_execute_of_not_hasFresh haccepts hfresh
    exact ⟨after, _, hexecute, hafter, hframes, List.Sublist.refl _, fun _ => rfl⟩

end IsSteady

/-! ### Runs -/

variable {demands : List Demand}

theorem run_call {next last : Session} {outcomes : List (Except Error Response)}
    (hexecute : s.execute command args = some (outcome, next))
    (hrun : next.run demands = some (outcomes, last)) :
    s.run (.call command args :: demands) = some (outcome :: outcomes, last) := by
  rw [run, hexecute]
  simp only [Option.bind_eq_bind, Option.bind_some, hrun]
  rfl

/-- **A run of a steady session** ends in the outcomes that the fixtures have for its calls, and
puts some of the traffic of its calls on the device: all of it if no call is answered from the
cache. -/
theorem IsSteady.exists_run (h : s.IsSteady flags appendChecksum)
    (haccepts : ∀ call ∈ calls demands, call.1.Accepts call.2) :
    ∃ after frames, s.run demands = some ((calls demands).map fun call =>
        (call.1.fixtureOutcome flags appendChecksum call.2).mapError Error.collapse, after) ∧
      after.link.device.frames = s.link.device.frames ++ frames ∧
      frames.Sublist ((calls demands).flatMap fun call => call.1.traffic flags call.2) ∧
      (s.NeverHits demands →
        frames = (calls demands).flatMap fun call => call.1.traffic flags call.2) := by
  induction demands generalizing s with
  | nil => exact ⟨s, [], rfl, (List.append_nil _).symm, .slnil, fun _ => rfl⟩
  | cons demand demands ih =>
    cases demand with
    | wait time => exact ih (h.wait time) haccepts
    | call command args =>
      obtain ⟨haccept, haccepts⟩ := List.forall_mem_cons.mp haccepts
      obtain ⟨next, first, hexecute, hnext, hfirst, hpart, hwhole⟩ := h.exists_execute haccept
      obtain ⟨after, others, hrun, hothers, hparts, hwholes⟩ := ih hnext haccepts
      refine ⟨after, first ++ others, run_call hexecute hrun, ?_, hpart.append hparts, ?_⟩
      · rw [hothers, hfirst, List.append_assoc]
      · intro hnever
        rw [hwhole hnever.1, hwholes (hnever.2 _ next hexecute)]
        rfl

/-! ### Runs without the cache -/

/-- The calls with a moment before each of them. -/
def spaced (calls : List (Command × List String)) : List Demand :=
  calls.flatMap fun (command, args) => [.wait 1, .call command args]

theorem calls_spaced (requests : List (Command × List String)) :
    calls (spaced requests) = requests := by
  induction requests with
  | nil => rfl
  | cons request requests ih => exact congrArg (List.cons request) ih

theorem policy_execute (h : s.execute command args = some (outcome, after)) :
    after.policy = s.policy := by
  obtain ⟨response, -, -, rfl⟩ | ⟨result, link, -, -, rfl⟩ := execute_cases h
  · rfl
  · exact policy_executed s command args result link

/-- Answers that are fresh for no time at all are too old a moment later. -/
theorem IsSteady.neverHits_spaced {requests : List (Command × List String)}
    (h : s.IsSteady flags appendChecksum) (hlifetime : s.policy.cacheTimeout = 0)
    (haccepts : ∀ request ∈ requests, request.1.Accepts request.2) :
    s.NeverHits (spaced requests) := by
  induction requests generalizing s with
  | nil => trivial
  | cons request requests ih =>
    obtain ⟨haccept, haccepts⟩ := List.forall_mem_cons.mp haccepts
    refine ⟨?_, fun outcome next hcall => ?_⟩
    · rintro ⟨cached, hget, -, hage⟩
      have hpast : cached.obtained ≤ s.now := h.obtained_le hget
      have hyoung : s.now + 1 - cached.obtained ≤ s.policy.cacheTimeout * millisecond := hage
      rw [hlifetime, Nat.zero_mul] at hyoung
      omega
    · obtain ⟨after, -, hexecute, hafter, -⟩ := (h.wait 1).exists_execute haccept
      obtain ⟨-, rfl⟩ := Prod.mk.inj (Option.some.inj (hexecute.symm.trans hcall))
      have hlifetime' : after.policy.cacheTimeout = 0 := by
        rw [policy_execute hcall]
        exact hlifetime
      exact ih hafter hlifetime' haccepts

/-- **The cache cannot be noticed.** At a device without a queue, the same accepted calls end in the
same outcomes, whatever the policy is and whatever time passes between them. A run in which some
calls are answered from the cache puts some of the frames on the device, in their order, that a run
puts there in which none is; and such a run there always is. -/
theorem outcomes_eq_of_calls_eq {link : Link} (hidle : link.device.IsIdle)
    (haccepts : ∀ call ∈ calls demands, call.1.Accepts call.2) (policy : SessionPolicy) :
    ∃ outcomes after, run { link, policy } demands = some (outcomes, after) ∧
      (∀ policy' demands', calls demands' = calls demands →
        ∃ after', run { link, policy := policy' } demands' = some (outcomes, after') ∧
          (NeverHits { link, policy := policy' } demands' →
            after.link.device.frames.Sublist after'.link.device.frames)) ∧
      ∃ policy' demands', calls demands' = calls demands ∧
        NeverHits { link, policy := policy' } demands' := by
  obtain ⟨after, frames, hrun, hframes, hsublist, -⟩ :=
    (IsSteady.start hidle policy).exists_run haccepts
  refine ⟨_, after, hrun, fun policy' demands' hcalls => ?_, ?_⟩
  · obtain ⟨after', frames', hrun', hframes', -, hall⟩ :=
      (IsSteady.start hidle policy').exists_run (hcalls ▸ haccepts)
    rw [hcalls] at hrun' hall
    refine ⟨after', hrun', fun hnever => ?_⟩
    rw [hframes, hframes', hall hnever]
    exact hsublist.append_left _
  · refine ⟨{ cacheTimeout := 0 }, spaced (calls demands), calls_spaced _, ?_⟩
    exact (IsSteady.start hidle _).neverHits_spaced rfl haccepts

/-- Two questions for the protocol that come at once, and two that come with a moment before each of
them while answers are fresh for no time. -/
theorem outcomes_eq_of_calls_eq_two_questions :
    ∃ outcomes after after',
      run { link := {} } [.call .getProtocolId [], .call .getProtocolId []] =
        some (outcomes, after) ∧
      run { link := {}, policy := { cacheTimeout := 0 } }
        [.wait 1, .call .getProtocolId [], .wait 1, .call .getProtocolId []] =
          some (outcomes, after') ∧
      after.link.device.frames.Sublist after'.link.device.frames := by
  have hidle : ({} : Link).device.IsIdle := ⟨rfl, rfl⟩
  have haccept : Command.Accepts .getProtocolId [] := ⟨"get-protocol-id", [], by decide⟩
  have haccepts : ∀ call ∈ calls [.call .getProtocolId [], .call .getProtocolId []],
      call.1.Accepts call.2 := by
    simpa [calls] using haccept
  have hnever : NeverHits { link := {}, policy := { cacheTimeout := 0 } }
      [.wait 1, .call .getProtocolId [], .wait 1, .call .getProtocolId []] :=
    (IsSteady.start hidle { cacheTimeout := 0 }).neverHits_spaced rfl haccepts
  obtain ⟨outcomes, after, hrun, hall, -⟩ := outcomes_eq_of_calls_eq hidle haccepts {}
  obtain ⟨after', hrun', hframes⟩ := hall { cacheTimeout := 0 }
    [.wait 1, .call .getProtocolId [], .wait 1, .call .getProtocolId []] rfl
  exact ⟨outcomes, after, after', hrun, hrun', hframes hnever⟩

end Session

end InverterLink
