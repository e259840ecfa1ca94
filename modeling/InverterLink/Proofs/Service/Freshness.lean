import InverterLink.Proofs.Service.History

/-!
# Answers from the cache are fresh

What a session keeps for a command is the answer of the last execution of that command: an execution
first drops what is kept and puts an answer in its place only when it succeeds. Together with the
check of age and arguments at every look into the cache, this makes every answer of a run either the
one that the call itself has fetched, or the one of the last execution, if that had the same
arguments and is not too long ago.
-/

namespace InverterLink.Session

variable {carrier : Carrier} {s after : Session} {command : Command} {args : List String}
  {outcome : Except Error Response} {history history' : List Execution}

/-! ### What the cache remembers -/

/-- The cache agrees with the history, and the history lies in the past. -/
structure Remembers (s : Session) (history : List Execution) : Prop where
  /-- What is kept for a command is the answer of its last execution. -/
  last : ∀ {command : Command} {cached : CachedResponse}, s.cache.get? command = some cached →
    lastOf? command history = some ⟨command, cached.args, .ok cached.response, cached.obtained⟩
  /-- No execution is over later than now. -/
  past : ∀ e ∈ history, e.finished ≤ s.now

/-- An empty cache agrees with a history in which nothing has happened. -/
theorem Remembers.start (h : s.cache = {}) : s.Remembers [] where
  last hget := by
    rw [h] at hget
    cases hget
  past e he := absurd he List.not_mem_nil

/-- Time alone does not change what is remembered. -/
theorem Remembers.wait (h : s.Remembers history) (time : Nat) :
    (s.wait time).Remembers history where
  last hget := h.last hget
  past e he := Nat.le_trans (h.past e he) (Nat.le_add_right _ _)

/-- **An execution keeps the cache and the history together**: it is the last one of its command,
and changes nothing for the others. -/
theorem Remembers.executed (h : s.Remembers history) {link : Link} (hnow : s.now ≤ link.now) :
    (s.executed command args outcome link).Remembers
      (history ++ [⟨command, args, outcome, link.now⟩]) where
  last {other cached} hget := by
    obtain ⟨rfl, response, rfl, rfl⟩ | ⟨hother, hbefore⟩ := of_get?_executed hget
    · exact lastOf?_append_self history ⟨other, args, .ok response, link.now⟩
    · rw [lastOf?_append_of_ne (Ne.symm hother)]
      exact h.last hbefore
  past e he := by
    rw [now_executed]
    obtain he | he := List.mem_append.mp he
    · exact Nat.le_trans (h.past e he) hnow
    · obtain rfl := List.mem_singleton.mp he
      exact Nat.le_refl _

/-- A call keeps the cache and the history together. -/
theorem Remembers.call (h : s.Remembers history)
    (hcall : s.executeRecorded carrier command args history = some ((outcome, after), history')) :
    after.Remembers history' := by
  obtain ⟨response, -, -, rfl, rfl⟩ | ⟨result, link, -, hcarry, -, rfl, rfl⟩ :=
    executeRecorded_cases hcall
  · exact ⟨h.last, h.past⟩
  · exact h.executed (Nat.le_trans (now_le_pace (s.evict command) command) (carrier.now_le hcarry))

/-! ### Answers -/

/-- What a look into the cache gives is the answer of the last execution, with the same arguments,
and is fresh. -/
theorem Remembers.of_cached (h : s.Remembers history) {response : Response}
    (hcached : s.cached? command args = some response) :
    ∃ finished, lastOf? command history = some ⟨command, args, .ok response, finished⟩ ∧
      finished ≤ s.now ∧ s.now - finished ≤ s.policy.cacheTimeout * millisecond := by
  obtain ⟨cached, hget, rfl, hage, rfl⟩ := cached?_eq_some_iff.mp hcached
  have hlast := h.last hget
  have hmem := List.mem_reverse.mp (List.mem_of_find?_eq_some hlast)
  exact ⟨cached.obtained, hlast, h.past _ hmem, hage⟩

/-- **Answers are fresh.** In every run of a session that starts with an empty cache, whatever
devices do and however much time passes, a call that returns a response has either executed the
command on the device with the same arguments and that result, or it has left the device alone, and
the last execution of the command had the same arguments and that result and was over at most the
lifetime of an answer ago. -/
theorem fresh_of_executeRecorded {start : Session} {events : List Event} {response : Response}
    (hstart : start.cache = {}) (hrun : runRecorded (start, []) events = some (s, history))
    (hcall : s.executeRecorded carrier command args history =
      some ((.ok response, after), history')) :
    (∃ finished, history' = history ++ [⟨command, args, .ok response, finished⟩]) ∨
    (history' = history ∧ ∃ finished,
      lastOf? command history = some ⟨command, args, .ok response, finished⟩ ∧
      finished ≤ s.now ∧ s.now - finished ≤ start.policy.cacheTimeout * millisecond) := by
  -- the invariant of the run, and the one setting that the statement mentions
  obtain ⟨hremembers, hpolicy⟩ : s.Remembers history ∧ s.policy = start.policy := by
    refine runRecorded_induction
      (P := fun s history => s.Remembers history ∧ s.policy = start.policy) ?_ ?_
      ⟨.start hstart, rfl⟩ hrun
    · intro s history time h
      exact ⟨h.1.wait time, h.2⟩
    · intro s after carrier command args outcome history history' h hcall
      refine ⟨h.1.call hcall, ?_⟩
      obtain ⟨response, -, -, rfl, -⟩ | ⟨result, link, -, -, -, rfl, -⟩ :=
        executeRecorded_cases hcall
      · exact h.2
      · exact (policy_executed _ _ _ _ _).trans h.2
  obtain ⟨cached, hcached, hresponse, -, rfl⟩ | ⟨result, link, -, -, hresult, -, rfl⟩ :=
    executeRecorded_cases hcall
  · cases hresponse
    exact .inr ⟨rfl, hpolicy ▸ hremembers.of_cached hcached⟩
  · cases result with
    | error e => cases hresult
    | ok answered =>
      cases hresult
      exact .inl ⟨link.now, rfl⟩

/-- A call that comes while the answer to the last one is just fresh enough does not reach the
device, which would fail. -/
theorem fresh_of_executeRecorded_in_time :
    ∃ s history after, runRecorded ({ link := {} }, [])
        [.call (.steady (.ok (.acknowledgement true)) 5) .setDefaults [], .wait 1000000] =
          some (s, history) ∧
      s.executeRecorded (.steady (.error .unimplemented) 5) .setDefaults [] history =
        some ((.ok (.acknowledgement true), after), history) ∧
      ((∃ finished, history =
        history ++ [⟨.setDefaults, [], .ok (.acknowledgement true), finished⟩]) ∨
      (history = history ∧ ∃ finished,
        lastOf? .setDefaults history =
          some ⟨.setDefaults, [], .ok (.acknowledgement true), finished⟩ ∧
        finished ≤ s.now ∧ s.now - finished ≤ 1000 * millisecond)) := by
  obtain ⟨s, history, after, hrun, hcall⟩ : ∃ s history after,
      runRecorded ({ link := {} }, [])
        [.call (.steady (.ok (.acknowledgement true)) 5) .setDefaults [], .wait 1000000] =
          some (s, history) ∧
      s.executeRecorded (.steady (.error .unimplemented) 5) .setDefaults [] history =
        some ((.ok (.acknowledgement true), after), history) := ⟨_, _, _, rfl, rfl⟩
  have hfresh := fresh_of_executeRecorded (by rfl) hrun hcall
  exact ⟨s, history, after, hrun, hcall, hfresh⟩

end InverterLink.Session
