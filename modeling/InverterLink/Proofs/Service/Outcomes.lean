import InverterLink.Proofs.Command.Refusals
import InverterLink.Proofs.Link.Outcomes
import InverterLink.Proofs.Link.Returning
import InverterLink.Proofs.Service.History

/-!
# What a call of a session ends in

A call is answered from the cache or over the link, so what it ends in is what an exchange ends in,
as long as the cache holds nothing else. It holds nothing else because a call puts nothing else into
it: this is the invariant of a session that the replies to its clients rest on. A session whose link
has a limit answers every call, and a session that is to stop stays so.

## Main definitions

* `Session.IsTidy`: the invariant about the cache.
* `Session.Precedes`: what a session and what a call leaves of it have in common.

## Main statements

* `Session.execute_cases`: what a call can do.
* `Session.endsIn_execute`: what a call ends in, and that the invariant survives it.
* `Session.exists_execute`: a call comes back if the link has a limit.
-/

namespace InverterLink

/-! ### Collapsed errors -/

namespace Error

variable {e : Error}

/-- Errors that are a fault of the program are shown as they are, and no others become one. -/
theorem layer_collapse : e.collapse.layer = .internal ↔ e.layer = .internal := by
  rw [collapse]
  split_ifs with hlabel
  · constructor
    · exact nofun
    · intro hinternal
      rw [hinternal] at hlabel
      cases hlabel
  · rfl

theorem isPlain_collapse (h : IsPlain e.message.toList) : IsPlain e.collapse.message.toList := by
  have hlabel : IsPlain (e.layer.collapsedLabel?.getD "").toList := by
    cases e.layer <;> decide
  rw [collapse]
  split_ifs
  · rw [message.eq_def]
    exact isPlain_toList_append.mpr ⟨hlabel, h⟩
  · exact h

end Error

namespace Session

variable {s after : Session} {command : Command} {args : List String}
  {outcome : Except Error Response}

/-! ### The cache -/

/-- A session whose cache holds tidy responses alone. -/
def IsTidy (s : Session) : Prop :=
  ∀ command cached, s.cache.get? command = some cached → cached.response.IsTidy

theorem isTidy_of_cache {s' : Session} (h : s.IsTidy) (hcache : s'.cache = s.cache) :
    s'.IsTidy := by
  rwa [IsTidy, hcache]

/-- A session that has not executed anything yet is tidy. -/
theorem isTidy_of_empty (h : s.cache = {}) : s.IsTidy := by
  intro command cached hget
  rw [h] at hget
  cases hget

theorem IsTidy.cached? (h : s.IsTidy) {response : Response}
    (hcached : s.cached? command args = some response) : response.IsTidy := by
  obtain ⟨cached, hget, -, -, rfl⟩ := cached?_eq_some_iff.mp hcached
  exact h command cached hget

/-- A session stays tidy if what an execution ends in is. -/
theorem IsTidy.executed (h : s.IsTidy) {failure : Error → Prop}
    (houtcome : EndsIn outcome Response.IsTidy failure) (link : Link) :
    (s.executed command args outcome link).IsTidy := by
  intro other cached hget
  obtain ⟨-, response, rfl, rfl⟩ | ⟨-, hbefore⟩ := of_get?_executed hget
  · exact houtcome
  · exact h other cached hbefore

/-! ### Calls -/

/-- **What a call over the link can do.** It answers from the cache, or it executes the command. -/
theorem execute_cases (h : s.execute command args = some (outcome, after)) :
    (∃ response, s.cached? command args = some response ∧ outcome = .ok response ∧
      after = s.note .debug s!"{command.label}: answering from cache") ∨
    ∃ result link,
      ((s.evict command).pace command).link.execute command args = some (result, link) ∧
      outcome = result.mapError Error.collapse ∧ after = s.executed command args result link := by
  rw [execute] at h
  cases hcached : s.cached? command args with
  | some response =>
    rw [executeVia_of_cached _ hcached] at h
    cases h
    exact .inl ⟨response, rfl, rfl, rfl⟩
  | none =>
    rw [executeVia_of_not_cached _ hcached] at h
    obtain ⟨⟨result, link⟩, hcarry, h⟩ := Option.map_eq_some_iff.mp h
    cases h
    exact .inr ⟨result, link, hcarry, rfl, rfl⟩

/-- **What a call ends in**: a tidy response or an error with a plain message. The session is tidy
afterwards. -/
theorem endsIn_execute (htidy : s.IsTidy) (h : s.execute command args = some (outcome, after)) :
    EndsIn outcome Response.IsTidy (fun e => IsPlain e.message.toList) ∧ after.IsTidy := by
  obtain ⟨response, hcached, rfl, rfl⟩ | ⟨result, link, hexecute, rfl, rfl⟩ := execute_cases h
  · exact ⟨htidy.cached? hcached, isTidy_of_cache htidy rfl⟩
  · have hresult := Link.endsIn_execute hexecute
    refine ⟨?_, htidy.executed hresult link⟩
    cases result with
    | ok response => exact hresult
    | error e =>
      refine Error.isPlain_collapse ?_
      obtain hexternal | hframe := hresult
      · exact hexternal.isPlain
      · exact ((Command.endsIn_frame command args).of_error hframe).internal_and_isPlain.2

/-! ### What a call leaves -/

/-- What holds between a session and what a call leaves of it: its link has the limit that it had,
and if it was to stop, it still is. -/
structure Precedes (s after : Session) : Prop where
  timeout_eq : after.link.timeout = s.link.timeout
  isShuttingDown : s.isShuttingDown = true → after.isShuttingDown = true

namespace Precedes

variable {between : Session}

theorem refl : s.Precedes s :=
  ⟨rfl, fun h => h⟩

theorem trans (h : s.Precedes between) (h' : between.Precedes after) : s.Precedes after :=
  ⟨h'.timeout_eq.trans h.timeout_eq, fun hstop => h'.isShuttingDown (h.isShuttingDown hstop)⟩

end Precedes

theorem precedes_pace (s : Session) (command : Command) :
    s.Precedes ((s.evict command).pace command) := by
  rw [pace]
  split_ifs
  · exact ⟨rfl, fun h => h⟩
  · exact ⟨rfl, fun h => h⟩

theorem precedes_countError (s : Session) : s.Precedes s.countError := by
  rw [countError]
  dsimp only
  split_ifs
  · exact ⟨rfl, fun h => h⟩
  · exact ⟨rfl, fun _ => rfl⟩

theorem precedes_settle (s : Session) (command : Command) (args : List String)
    (outcome : Except Error Response) : s.Precedes (s.settle command args outcome) := by
  cases outcome with
  | ok response => exact ⟨rfl, fun h => h⟩
  | error e =>
    have hcount := precedes_countError { s with lastFinished? := some s.now }
    simp only [settle]
    split_ifs
    · exact ⟨hcount.timeout_eq, hcount.isShuttingDown⟩
    · exact ⟨rfl, fun h => h⟩

/-- **A call changes neither the limit nor the decision to stop.** -/
theorem precedes_execute (h : s.execute command args = some (outcome, after)) :
    s.Precedes after := by
  obtain ⟨response, -, -, rfl⟩ | ⟨result, link, hexecute, -, rfl⟩ := execute_cases h
  · exact ⟨rfl, fun h => h⟩
  · have hpaced := precedes_pace s command
    have hlink := (Link.precedes_of_execute hexecute).timeout_eq
    have hexecuted : s.Precedes { (s.evict command).pace command with link } :=
      ⟨hlink.trans hpaced.timeout_eq, hpaced.isShuttingDown⟩
    exact hexecuted.trans (precedes_settle _ command args result)

/-- **A call comes back** if the link has a limit. -/
theorem exists_execute (hlimit : s.link.timeout ≠ 0) (command : Command) (args : List String) :
    ∃ outcome after, s.execute command args = some (outcome, after) := by
  rw [execute]
  cases hcached : s.cached? command args with
  | some response => exact ⟨_, _, executeVia_of_cached _ hcached⟩
  | none =>
    have hpaced : ((s.evict command).pace command).link.timeout ≠ 0 :=
      (precedes_pace s command).timeout_eq ▸ hlimit
    obtain ⟨result, link, hexecute⟩ := Link.exists_execute _ hpaced command args
    rw [executeVia_of_not_cached _ hcached, hexecute]
    exact ⟨_, _, rfl⟩

end Session

end InverterLink
