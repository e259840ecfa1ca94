import InverterLink.Link
import InverterLink.Proofs.Record.Outcomes

/-!
# What an exchange ends in

A link collects the bytes before a terminator, so the answer that it hands on holds none, and is
decoded to a tidy response or refused by an error of an exchange. The other errors of an exchange
are that its time runs out and that the bytes are no frame. Beyond these, there is only the command
itself that may fail to be laid out.

## Main statements

* `Link.endsIn_execute`: what the execution of a command ends in.
-/

namespace InverterLink

/-! ### Receiving -/

namespace Reading

/-- What a step of a reading without a terminator leads to. -/
theorem endsIn_step (capacity : Nat) {r : Reading} (h : Frame.terminator ∉ r.collected) :
    match r.step capacity with
    | .pending next => Frame.terminator ∉ next.collected
    | .finished result _ => EndsIn result (Frame.terminator ∉ ·) Error.IsExternal := by
  rw [step]
  generalize r.link.fetch (capacity - r.collected.length) = fetched
  obtain ⟨bytes, link⟩ := fetched
  dsimp only
  split_ifs with hfull hterminator hspent
  · exact Error.isExternal_frame _
  · refine List.mem_append.not.mpr (not_or.mpr ⟨h, fun hmem => ?_⟩)
    have hall :=
      List.all_eq_true.mp (List.all_takeWhile (p := (· != Frame.terminator)) (l := bytes))
    exact bne_iff_ne.mp (hall _ hmem) rfl
  · exact Error.isExternal_timeout _ _
  · exact List.mem_append.not.mpr (not_or.mpr ⟨h, hterminator⟩)

theorem endsIn_advance {capacity count : Nat} {r : Reading} (h : Frame.terminator ∉ r.collected)
    {result : Except Error (List UInt8)} {after : Link}
    (hadvance : r.advance capacity count = some (result, after)) :
    EndsIn result (Frame.terminator ∉ ·) Error.IsExternal := by
  induction count generalizing r with
  | zero => cases hadvance
  | succ count ih =>
    have hstep := endsIn_step capacity h
    rw [advance] at hadvance
    cases hprogress : r.step capacity with
    | finished stopped link =>
      rw [hprogress] at hadvance hstep
      cases hadvance
      exact hstep
    | pending next =>
      rw [hprogress] at hadvance hstep
      exact ih hstep hadvance

end Reading

/-- The payload of a frame is a part of it. -/
theorem Flags.endsIn_payload (flags : Flags) {body : List UInt8} (h : Frame.terminator ∉ body) :
    EndsIn ((flags.payload body).mapError .frame) (Frame.terminator ∉ ·) Error.IsExternal := by
  rw [payload]
  split_ifs
  · dsimp only
    split
    · split_ifs
      · exact Error.isExternal_frame _
      · exact fun hmem => h (List.mem_of_mem_take hmem)
    · exact Error.isExternal_frame _
  · exact h

namespace Link

variable {link after : Link}

theorem endsIn_receive {capacity : Nat} {result : Except Error (List UInt8)}
    (h : link.receive capacity = some (result, after)) :
    EndsIn result (Frame.terminator ∉ ·) Error.IsExternal := by
  rw [receive, Option.map_eq_some_iff] at h
  obtain ⟨⟨collected, stopped⟩, hcollect, h⟩ := h
  have hcollected := Reading.endsIn_advance List.not_mem_nil hcollect
  cases collected with
  | error e =>
    cases h
    exact hcollected
  | ok body =>
    cases h
    exact Flags.endsIn_payload _ hcollected

/-! ### Exchanges -/

theorem endsIn_writeAll (data : List UInt8) (link : Link) :
    EndsIn (link.writeAll data).1 (fun _ => True) Error.IsExternal := by
  fun_induction writeAll link data with
  | case1 => trivial
  | case2 => exact Error.isExternal_timeout _ _
  | case3 link data hall hlive ih => exact ih

theorem endsIn_run {payload : List UInt8} {capacity : Nat} {result : Except Error (List UInt8)}
    (h : link.run payload capacity = some (result, after)) :
    EndsIn result (Frame.terminator ∉ ·) Error.IsExternal := by
  have hsend : EndsIn (link.restart.send payload).1 (fun _ => True) Error.IsExternal :=
    endsIn_writeAll _ _
  rw [run] at h
  generalize link.restart.send payload = sending at h hsend
  obtain ⟨outcome, sent⟩ := sending
  cases outcome with
  | error e =>
    cases h
    exact hsend
  | ok =>
    dsimp only at h
    split_ifs at h with hspent
    · cases h
      exact Error.isExternal_timeout _ _
    · exact endsIn_receive h

/-- **What the execution of a command ends in**: a tidy response, an error of an exchange, or the
error that the command cannot be laid out. -/
theorem endsIn_execute {command : Command} {args : List String} {outcome : Except Error Response}
    (h : link.execute command args = some (outcome, after)) :
    EndsIn outcome Response.IsTidy fun e => e.IsExternal ∨ command.frame args = .error e := by
  rw [execute] at h
  cases hframe : command.frame args with
  | error e =>
    rw [hframe] at h
    cases h
    exact .inr rfl
  | ok frame =>
    rw [hframe, Option.map_eq_some_iff] at h
    obtain ⟨⟨result, stopped⟩, hrun, h⟩ := h
    have hresult := endsIn_run hrun
    cases result with
    | error e =>
      cases h
      exact .inl hresult
    | ok answer =>
      cases h
      exact (Response.endsIn_decode command hresult).mono (fun _ hresponse => hresponse)
        fun _ he => .inl he

end Link

end InverterLink
