import InverterLink.Proofs.Service.History
import Mathlib.Data.List.Induction
import Mathlib.Data.List.Infix

/-!
# Giving a device up

A session counts device errors, and starts again at zero with every success. What it counts can be
read off the history: the device errors behind the last success, however many failures of other
kinds lie between them and however many calls were answered from the cache. The device has failed as
soon as there have been as many of them as the limit at some time, and nothing takes that back. A
session counts in 32 bits, so its count begins again at zero behind 2³² - 1 errors. No limit is
greater than that, and so the limit has been reached before.

## Main definitions

* `errorStreak`: the number of device errors since the last success.
* `Session.Counts`: what a session knows about the errors in its history.

## Main statements

* `Session.Counts.run`: in every run, a session counts the errors of its history.
* `Session.deviceFailed_iff_of_run`: when the device is given up, and what follows from it.
-/

namespace InverterLink

/-! ### Errors in a row -/

namespace Execution

/-- The execution has a result. -/
def isSuccess (e : Execution) : Bool :=
  match e.outcome with
  | .ok _ => true
  | .error _ => false

/-- The execution has failed, and the failure is one of the device, of the time that it may take or
of the data that it sends. -/
def isDeviceError (e : Execution) : Bool :=
  match e.outcome with
  | .ok _ => false
  | .error cause => cause.layer ∈ [Layer.device, .timeout, .invalidData]

/-- These are the failures that a session counts. -/
theorem isDeviceError_of_error {e : Execution} {cause : Error} (h : e.outcome = .error cause) :
    e.isDeviceError = cause.isDeviceLevel := by
  rw [isDeviceError, h, Bool.eq_iff_iff, decide_eq_true_iff, Error.isDeviceLevel_iff]

end Execution

/-- The number of device errors since the last success. -/
def errorStreak (history : List Execution) : Nat :=
  (history.reverse.takeWhile (!·.isSuccess)).countP (·.isDeviceError)

variable {history : List Execution} {limit : UInt32}

/-- A success ends the errors in a row, a device error is one more of them, and any other failure
makes no difference. -/
theorem errorStreak_append (history : List Execution) (e : Execution) :
    errorStreak (history ++ [e]) =
      if e.isSuccess then 0 else errorStreak history + e.isDeviceError.toNat := by
  rw [errorStreak, List.reverse_append, List.reverse_singleton, List.singleton_append,
    List.takeWhile_cons]
  cases e.isSuccess with
  | true => rfl
  | false =>
    rw [Bool.not_false, if_pos rfl, List.countP_cons, if_neg Bool.false_ne_true, errorStreak]
    cases e.isDeviceError <;> rfl

/-- The errors in a row grow one by one, so they have been as many as any smaller number. -/
theorem exists_errorStreak_eq {count : Nat} (h : count ≤ errorStreak history) :
    ∃ earlier, earlier <+: history ∧ errorStreak earlier = count := by
  induction history using List.reverseRecOn with
  | nil => exact ⟨[], List.prefix_rfl, (Nat.le_zero.mp h).symm⟩
  | append_singleton history e ih =>
    by_cases hbefore : count ≤ errorStreak history
    · obtain ⟨earlier, hearlier, hcount⟩ := ih hbefore
      exact ⟨earlier, hearlier.trans (List.prefix_append _ _), hcount⟩
    · refine ⟨history ++ [e], List.prefix_rfl, Nat.le_antisymm ?_ h⟩
      have hone := e.isDeviceError.toNat_le
      rw [errorStreak_append]
      split_ifs <;> omega

/-- There have been as many device errors in a row as the limit, if there is one. -/
def ReachesLimit (limit : UInt32) (history : List Execution) : Prop :=
  0 < limit ∧ ∃ earlier, earlier <+: history ∧ errorStreak earlier = limit.toNat

theorem not_reachesLimit_nil : ¬ ReachesLimit limit [] := by
  rintro ⟨hlimit, earlier, hearlier, hstreak⟩
  rw [List.prefix_nil.mp hearlier] at hstreak
  rw [UInt32.lt_iff_toNat_lt, ← hstreak] at hlimit
  exact absurd hlimit (Nat.lt_irrefl 0)

/-- The limit has been reached before the last execution, or is reached by it. -/
theorem reachesLimit_append {e : Execution} : ReachesLimit limit (history ++ [e]) ↔
    ReachesLimit limit history ∨ 0 < limit ∧ errorStreak (history ++ [e]) = limit.toNat := by
  constructor
  · rintro ⟨hlimit, earlier, hearlier, hstreak⟩
    obtain rfl | hbefore := List.prefix_concat_iff.mp hearlier
    · exact .inr ⟨hlimit, hstreak⟩
    · exact .inl ⟨hlimit, earlier, hbefore, hstreak⟩
  · rintro (⟨hlimit, earlier, hearlier, hstreak⟩ | ⟨hlimit, hstreak⟩)
    · exact ⟨hlimit, earlier, hearlier.trans (List.prefix_append _ _), hstreak⟩
    · exact ⟨hlimit, _, List.prefix_rfl, hstreak⟩

/-- What has been reached stays so. -/
theorem ReachesLimit.mono {later : List Execution} (h : ReachesLimit limit history)
    (hlater : history <+: later) : ReachesLimit limit later := by
  obtain ⟨hlimit, earlier, hearlier, hstreak⟩ := h
  exact ⟨hlimit, earlier, hearlier.trans hlater, hstreak⟩

theorem ReachesLimit.of_le (hlimit : 0 < limit) (h : limit.toNat ≤ errorStreak history) :
    ReachesLimit limit history :=
  ⟨hlimit, exists_errorStreak_eq h⟩

/-- An execution that adds no error does not reach the limit. -/
theorem reachesLimit_append_of_le (limit : UInt32) {e : Execution}
    (h : errorStreak (history ++ [e]) ≤ errorStreak history) :
    ReachesLimit limit (history ++ [e]) ↔ ReachesLimit limit history := by
  rw [reachesLimit_append]
  exact or_iff_left_of_imp fun hnow => .of_le hnow.1 (hnow.2 ▸ h)

/-- One error more reaches the limit if it is no further away; beyond the limit, it has been reached
before. It makes no difference that the errors are counted in 32 bits. -/
theorem reachesLimit_append_of_succ (limit : UInt32) {e : Execution}
    (h : errorStreak (history ++ [e]) = errorStreak history + 1) :
    ReachesLimit limit (history ++ [e]) ↔ ReachesLimit limit history ∨
      0 < limit ∧ limit ≤ UInt32.ofNat (errorStreak history + 1) := by
  rw [reachesLimit_append, h]
  constructor
  · rintro (hbefore | ⟨hlimit, hnow⟩)
    · exact .inl hbefore
    · rw [hnow, UInt32.ofNat_toNat]
      exact .inr ⟨hlimit, UInt32.le_refl limit⟩
  · rintro (hbefore | ⟨hlimit, hcount⟩)
    · exact .inl hbefore
    · -- a count that has begun again is less than the number of errors, but never more
      have hle : limit.toNat ≤ errorStreak history + 1 :=
        Nat.le_trans (UInt32.le_iff_toNat_le.mp hcount)
          (UInt32.toNat_ofNat'.trans_le (Nat.mod_le _ _))
      obtain heq | hlt := Nat.eq_or_lt_of_le hle
      · exact .inr ⟨hlimit, heq.symm⟩
      · exact .inl (.of_le hlimit (Nat.le_of_lt_succ hlt))

namespace Session

variable {s after : Session} {command : Command} {args : List String}
  {outcome : Except Error Response} {link : Link} {carrier : Carrier} {history' : List Execution}
  {policy : SessionPolicy}

/-! ### One execution -/

/-- A pause changes the time and the log alone. -/
theorem exists_pace_eq (s : Session) (command : Command) :
    ∃ now log, s.pace command = { s with link := { s.link with now, log } } := by
  rw [pace]
  split_ifs
  · exact ⟨_, _, rfl⟩
  · exact ⟨_, _, rfl⟩

/-- The pause before an execution leaves no trace but in the link that the execution starts from. -/
theorem executed_eq_settle (s : Session) (command : Command) (args : List String)
    (outcome : Except Error Response) (link : Link) :
    s.executed command args outcome link =
      { s.evict command with link }.settle command args outcome := by
  obtain ⟨now, log, hpaced⟩ := (s.evict command).exists_pace_eq command
  rw [executed, hpaced]

/-- A failure that does not point at the device is over, and that is all. -/
theorem settle_of_not_deviceLevel {e : Error} (h : e.isDeviceLevel = false) (s : Session)
    (command : Command) (args : List String) :
    s.settle command args (.error e) = { s with lastFinished? := some s.now } := by
  rw [settle, if_neg (ne_true_of_eq_false h)]

/-- A device error is counted when it is over. -/
theorem settle_of_deviceLevel {e : Error} (h : e.isDeviceLevel = true) (s : Session)
    (command : Command) (args : List String) :
    s.settle command args (.error e) = { s with lastFinished? := some s.now }.countError := by
  rw [settle, if_pos h]

/-- A device error is one more, and decides that the device has failed if they are then as many as
the limit, or more. -/
theorem countError_standing (s : Session) :
    s.countError.deviceErrors = s.deviceErrors + 1 ∧
      (s.countError.deviceFailed = true ↔ s.deviceFailed = true ∨
        0 < s.policy.errorLimit ∧ s.policy.errorLimit ≤ s.deviceErrors + 1) ∧
      (s.countError.isShuttingDown = true ↔ s.isShuttingDown = true ∨
        0 < s.policy.errorLimit ∧ s.policy.errorLimit ≤ s.deviceErrors + 1) := by
  have hreached : 0 < s.policy.errorLimit ∧ s.policy.errorLimit ≤ s.deviceErrors + 1 ↔
      ¬ (s.policy.errorLimit = 0 || s.deviceErrors + 1 < s.policy.errorLimit) = true := by
    rw [Bool.or_eq_true, decide_eq_true_iff, decide_eq_true_iff, not_or, UInt32.not_lt,
      UInt32.pos_iff_ne_zero]
  rw [countError, hreached]
  dsimp only
  split_ifs with hbelow
  · exact ⟨rfl, (or_iff_left (not_not_intro hbelow)).symm,
      (or_iff_left (not_not_intro hbelow)).symm⟩
  · exact ⟨rfl, iff_of_true rfl (.inr hbelow), iff_of_true rfl (.inr hbelow)⟩

/-! ### What a session knows about its history -/

/-- What a session with a limit knows about the errors in its history: their number since the last
success, as 32 bits can count it, and whether they have been too many in a row. -/
structure Counts (s : Session) (limit : UInt32) (history : List Execution) : Prop where
  errorLimit_eq : s.policy.errorLimit = limit
  deviceErrors_eq : s.deviceErrors = UInt32.ofNat (errorStreak history)
  deviceFailed_iff : s.deviceFailed = true ↔ ReachesLimit limit history
  isShuttingDown_iff : s.isShuttingDown = true ↔ ReachesLimit limit history

namespace Counts

/-- A session stops when it gives the device up. -/
theorem isShuttingDown_eq (h : s.Counts limit history) : s.isShuttingDown = s.deviceFailed :=
  Bool.eq_iff_iff.mpr (h.isShuttingDown_iff.trans h.deviceFailed_iff.symm)

/-- A session that has not executed anything knows of no errors. -/
theorem start (link : Link) (policy : SessionPolicy) :
    Counts { link, policy } policy.errorLimit [] where
  errorLimit_eq := rfl
  deviceErrors_eq := rfl
  deviceFailed_iff := iff_of_false Bool.false_ne_true not_reachesLimit_nil
  isShuttingDown_iff := iff_of_false Bool.false_ne_true not_reachesLimit_nil

/-- **An execution is counted** for what it is. -/
theorem executed (h : s.Counts limit history) :
    (s.executed command args outcome link).Counts limit
      (history ++ [⟨command, args, outcome, link.now⟩]) := by
  have hpolicy := policy_executed s command args outcome link
  have hlimit : (s.executed command args outcome link).policy.errorLimit = limit :=
    hpolicy ▸ h.errorLimit_eq
  have hstreak := errorStreak_append history ⟨command, args, outcome, link.now⟩
  rw [executed_eq_settle] at hlimit ⊢
  cases outcome with
  | ok response =>
    have hzero : errorStreak (history ++ [⟨command, args, .ok response, link.now⟩]) = 0 := hstreak
    have hsame := reachesLimit_append_of_le limit (hzero ▸ Nat.zero_le _)
    exact ⟨hlimit, (congrArg UInt32.ofNat hzero).symm, h.deviceFailed_iff.trans hsame.symm,
      h.isShuttingDown_iff.trans hsame.symm⟩
  | error e =>
    rw [Execution.isDeviceError_of_error rfl] at hstreak
    cases hlevel : e.isDeviceLevel with
    | false =>
      simp only [Execution.isSuccess, hlevel, Bool.false_eq_true, if_false, Bool.toNat_false,
        Nat.add_zero] at hstreak
      have hsame := reachesLimit_append_of_le limit (Nat.le_of_eq hstreak)
      rw [settle_of_not_deviceLevel hlevel]
      exact ⟨h.errorLimit_eq, h.deviceErrors_eq.trans (congrArg UInt32.ofNat hstreak.symm),
        h.deviceFailed_iff.trans hsame.symm, h.isShuttingDown_iff.trans hsame.symm⟩
    | true =>
      simp only [Execution.isSuccess, hlevel, Bool.false_eq_true, if_false,
        Bool.toNat_true] at hstreak
      have hreached := reachesLimit_append_of_succ limit hstreak
      have hcount : UInt32.ofNat (errorStreak history + 1) = s.deviceErrors + 1 := by
        rw [UInt32.ofNat_add, ← h.deviceErrors_eq]
        rfl
      obtain ⟨herrors, hfailed, hstopping⟩ := countError_standing
        { s.evict command with link, lastFinished? := some link.now }
      rw [settle_of_deviceLevel hlevel] at hlimit ⊢
      refine ⟨hlimit, herrors.trans ?_, hfailed.trans ?_, hstopping.trans ?_⟩
      · rw [hstreak, hcount]
        rfl
      · rw [hreached, hcount, ← h.deviceFailed_iff, ← h.errorLimit_eq]
        rfl
      · rw [hreached, hcount, ← h.isShuttingDown_iff, ← h.errorLimit_eq]
        rfl

/-- A call is counted as the execution that it makes, if it makes one. -/
theorem call (h : s.Counts limit history)
    (hcall : s.executeRecorded carrier command args history = some ((outcome, after), history')) :
    after.Counts limit history' := by
  obtain ⟨response, -, -, rfl, rfl⟩ | ⟨result, link, -, -, -, rfl, rfl⟩ :=
    executeRecorded_cases hcall
  · exact ⟨h.errorLimit_eq, h.deviceErrors_eq, h.deviceFailed_iff, h.isShuttingDown_iff⟩
  · exact h.executed

/-- **A session counts the errors of its history** in every run. -/
theorem run {events : List Event} (h : s.Counts limit history)
    (hrun : runRecorded (s, history) events = some (after, history')) :
    after.Counts limit history' := by
  refine runRecorded_induction (P := fun s history => s.Counts limit history) ?_ ?_ h hrun
  · intro s history time h
    exact ⟨h.errorLimit_eq, h.deviceErrors_eq, h.deviceFailed_iff, h.isShuttingDown_iff⟩
  · intro s after carrier command args outcome history history' h hcall
    exact h.call hcall

end Counts

/-- A call adds at most one execution to the history. -/
theorem history_of_executeRecorded
    (hcall : s.executeRecorded carrier command args history = some ((outcome, after), history')) :
    history' = history ∨ ∃ e, history' = history ++ [e] := by
  obtain ⟨response, -, -, -, rfl⟩ | ⟨result, link, -, -, -, -, rfl⟩ := executeRecorded_cases hcall
  · exact .inl rfl
  · exact .inr ⟨_, rfl⟩

/-- A history only grows. -/
theorem history_prefix_of_run {events : List Event}
    (hrun : runRecorded (s, history) events = some (after, history')) : history <+: history' := by
  refine runRecorded_induction (P := fun _ later => history <+: later) (fun _ h => h) ?_
    List.prefix_rfl hrun
  intro s after carrier command args outcome before behind h hcall
  obtain rfl | ⟨e, rfl⟩ := history_of_executeRecorded hcall
  · exact h
  · exact h.trans (List.prefix_append _ _)

/-! ### When the device is given up -/

/-- **A device is given up with the error that reaches the limit, and for good.** In every run of a
session, whatever devices do, the session knows the number of device errors since the last success,
as long as this is less than 2³²; then its count begins again at zero. Without a limit it never
gives the device up. With one, it does so in the call that makes the number as great as the limit
for the first time, in no other call and not otherwise, and decides to stop in the same moment;
neither is ever taken back. For this the number need not be less than 2³², since the limit is. -/
theorem deviceFailed_iff_of_run {link : Link} {policy : SessionPolicy} {events : List Event}
    (hrun : runRecorded ({ link, policy }, []) events = some (s, history)) :
    s.deviceErrors = UInt32.ofNat (errorStreak history) ∧
      (errorStreak history < UInt32.size → s.deviceErrors.toNat = errorStreak history) ∧
      s.isShuttingDown = s.deviceFailed ∧
      (s.deviceFailed = true ↔ ReachesLimit policy.errorLimit history) ∧
      (policy.errorLimit = 0 → s.deviceFailed = false ∧ s.isShuttingDown = false) ∧
      (∀ carrier command args outcome after history',
        s.executeRecorded carrier command args history = some ((outcome, after), history') →
        s.deviceFailed = false →
        (after.deviceFailed = true ↔
          0 < policy.errorLimit ∧ errorStreak history' = policy.errorLimit.toNat) ∧
        after.isShuttingDown = after.deviceFailed) ∧
      ∀ later after history', runRecorded (s, history) later = some (after, history') →
        s.deviceFailed = true → after.deviceFailed = true ∧ after.isShuttingDown = true := by
  have hcounts := (Counts.start link policy).run hrun
  refine ⟨hcounts.deviceErrors_eq, ?_, hcounts.isShuttingDown_eq, hcounts.deviceFailed_iff,
    ?_, ?_, ?_⟩
  · intro hfew
    rw [hcounts.deviceErrors_eq, UInt32.toNat_ofNat_of_lt' hfew]
  · intro hnone
    have hfailed : s.deviceFailed = false := by
      rw [Bool.eq_false_iff, ne_eq, hcounts.deviceFailed_iff, hnone]
      exact fun hreached => absurd hreached.1 (UInt32.lt_irrefl 0)
    exact ⟨hfailed, hcounts.isShuttingDown_eq.trans hfailed⟩
  · intro carrier command args outcome after history' hcall hopen
    have hafter := hcounts.call hcall
    refine ⟨?_, hafter.isShuttingDown_eq⟩
    rw [hafter.deviceFailed_iff]
    have hbefore : ¬ ReachesLimit policy.errorLimit history :=
      hcounts.deviceFailed_iff.not.mp (ne_true_of_eq_false hopen)
    obtain rfl | ⟨e, rfl⟩ := history_of_executeRecorded hcall
    · -- nothing has been executed, and what is reached has been reached before
      exact iff_of_false hbefore fun hnow => hbefore (.of_le hnow.1 hnow.2.ge)
    · rw [reachesLimit_append, or_iff_right hbefore]
  · intro later after history' hlater hfailed
    have hafter := hcounts.run hlater
    have hreached := (hcounts.deviceFailed_iff.mp hfailed).mono (history_prefix_of_run hlater)
    exact ⟨hafter.deviceFailed_iff.mpr hreached, hafter.isShuttingDown_iff.mpr hreached⟩

/-- With a limit of two, the second timeout is one too many, although another failure and an answer
from the cache lie between it and the first one. -/
theorem deviceFailed_iff_of_run_two_timeouts :
    ∃ s history after history',
      runRecorded ({ link := {}, policy := { errorLimit := 2 } }, [])
        [.call (.steady (.ok (.acknowledgement true)) 5) .setDefaults [],
          .call (.steady (.error (.timeout .reading 0)) 5) .getWorkingMode [],
          .call (.steady (.error (.response .noMarker)) 5) .getWorkingMode [],
          .call (.steady (.ok (.acknowledgement true)) 5) .setDefaults []] = some (s, history) ∧
      s.deviceFailed = false ∧ errorStreak history = 1 ∧
      s.executeRecorded (.steady (.error (.timeout .reading 0)) 5) .getWorkingMode [] history =
        some ((.error (.timeout .reading 0 : Error).collapse, after), history') ∧
      after.deviceFailed = true ∧ after.isShuttingDown = true := by
  obtain ⟨s, history, after, history', hrun, hopen, hstreak, hstreak', hcall⟩ :
      ∃ s history after history',
      runRecorded ({ link := {}, policy := { errorLimit := 2 } }, [])
        [.call (.steady (.ok (.acknowledgement true)) 5) .setDefaults [],
          .call (.steady (.error (.timeout .reading 0)) 5) .getWorkingMode [],
          .call (.steady (.error (.response .noMarker)) 5) .getWorkingMode [],
          .call (.steady (.ok (.acknowledgement true)) 5) .setDefaults []] = some (s, history) ∧
      s.deviceFailed = false ∧ errorStreak history = 1 ∧ errorStreak history' = 2 ∧
      s.executeRecorded (.steady (.error (.timeout .reading 0)) 5) .getWorkingMode [] history =
        some ((.error (.timeout .reading 0 : Error).collapse, after), history') :=
    ⟨_, _, _, _, rfl, rfl, rfl, rfl, rfl⟩
  obtain ⟨-, -, -, -, -, hnext, -⟩ := deviceFailed_iff_of_run hrun
  obtain ⟨hgivenUp, hstops⟩ := hnext _ _ _ _ _ _ hcall hopen
  have hfailed : after.deviceFailed = true := hgivenUp.mpr ⟨by decide, hstreak'⟩
  exact ⟨s, history, after, history', hrun, hopen, hstreak, hcall, hfailed, hstops.trans hfailed⟩

end Session

end InverterLink
