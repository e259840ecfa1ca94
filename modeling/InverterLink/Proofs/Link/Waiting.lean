import InverterLink.Proofs.Link.Acceptance

/-!
# When a link stops waiting

A link with a limit always stops: what it receives is a payload, or its time runs out, or the bytes
are refused. Its budget may even be spent before it begins to read; it then reads once. A link
without a limit stops only for what is pending: for a terminator within the room, or for want of
room. In any other case each read leaves it where it was, with all the pending bytes collected at
most, and it waits forever.

## Main definitions

* `Reading.Ends`: a reading that is over after some number of steps.

## Main statements

* `Reading.IsShort.advance_of_unlimited`: a reading that is short and has no limit is never over.
* `Link.exists_receives_iff_of_unlimited`: which pending bytes end the reading of a link without a
  limit.
* `Link.receives_of_spent`: which links stop waiting, and with what.
-/

namespace InverterLink

namespace Reading

variable {capacity count : Nat} {r : Reading} {result : Except Error (List UInt8)} {after : Link}

/-- The reading is over after some number of steps. -/
def Ends (capacity : Nat) (r : Reading) : Prop :=
  ∃ count result after, r.advance capacity count = some (result, after)

/-! ### What a reading ends in -/

/-- A step that finishes a reading has found the end of the answer, no room for it or no time for
it. -/
theorem result_of_step (h : r.step capacity = .finished result after) :
    (∃ bytes, result = .ok bytes) ∨ result = .error (.frame .bufferFull) ∨
      (after.isExpired = true ∧ ∃ elapsed, result = .error (.timeout .reading elapsed)) := by
  rw [step] at h
  generalize r.link.fetch (capacity - r.collected.length) = fetched at h
  obtain ⟨bytes, link⟩ := fetched
  dsimp only at h
  split_ifs at h with hfull hterminator hspent
  · cases h
    exact .inr (.inl rfl)
  · cases h
    exact .inl ⟨_, rfl⟩
  · cases h
    exact .inr (.inr ⟨hspent, _, rfl⟩)

theorem result_of_advance (h : r.advance capacity count = some (result, after)) :
    (∃ bytes, result = .ok bytes) ∨ result = .error (.frame .bufferFull) ∨
      ∃ elapsed, result = .error (.timeout .reading elapsed) := by
  induction count generalizing r with
  | zero => cases h
  | succ count ih =>
    cases hstep : r.step capacity with
    | finished stopped link =>
      rw [advance_of_finished hstep] at h
      cases h
      exact (result_of_step hstep).imp_right (.imp_right And.right)
    | pending next =>
      rw [advance_of_pending hstep] at h
      exact ih h

/-! ### Readings that are never over -/

/-- Without a limit, the budget is never spent. -/
theorem isExpired_of_unlimited {link : Link} (h : link.timeout = 0) : link.isExpired = false := by
  rw [Link.isExpired, Link.timeLeft?, if_pos h]
  rfl

/-- A reading that is short and has no limit stays so with each step. -/
theorem IsShort.step_of_unlimited (h : r.IsShort capacity) (hunlimited : r.link.timeout = 0) :
    ∃ next, r.step capacity = .pending next ∧ next.IsShort capacity ∧ next.link.timeout = 0 := by
  have hkept := (r.precedes_step capacity).timeout_eq
  obtain ⟨elapsed, link, hstep⟩ | ⟨next, hstep, hnext⟩ := h.step
  · rw [hstep] at hkept
    have hlive : link.isExpired = false := isExpired_of_unlimited (hkept.trans hunlimited)
    obtain ⟨bytes, hbytes⟩ | hfull | ⟨hspent, -⟩ := result_of_step hstep
    · cases hbytes
    · cases hfull
    · exact absurd (hlive.symm.trans hspent) Bool.false_ne_true
  · rw [hstep] at hkept
    exact ⟨next, hstep, hnext, hkept.trans hunlimited⟩

/-- **A reading that is short and has no limit is never over.** -/
theorem IsShort.advance_of_unlimited (h : r.IsShort capacity) (hunlimited : r.link.timeout = 0)
    (count : Nat) : r.advance capacity count = none := by
  induction count generalizing r with
  | zero => rfl
  | succ count ih =>
    obtain ⟨next, hstep, hnext, hunlimited'⟩ := h.step_of_unlimited hunlimited
    rw [advance_of_pending hstep]
    exact ih hnext hunlimited'

end Reading

namespace Link

variable {link : Link} {capacity : Nat} {result : Except Error (List UInt8)}

/-- What is received is a payload, or a failure of one of two layers. -/
theorem Receives.cases (h : link.Receives capacity result) :
    (∃ payload, result = .ok payload) ∨
      ∃ e, result = .error e ∧ (e.layer = .invalidData ∨ e.layer = .timeout) := by
  obtain ⟨after, hreceive⟩ := h
  rw [receive, Option.map_eq_some_iff] at hreceive
  obtain ⟨⟨collected, stopped⟩, hcollect, hreceive⟩ := hreceive
  obtain ⟨body, rfl⟩ | rfl | ⟨elapsed, rfl⟩ := Reading.result_of_advance hcollect
  · cases hreceive
    cases stopped.flags.payload body with
    | ok payload => exact .inl ⟨payload, rfl⟩
    | error cause => exact .inr ⟨_, rfl, .inl rfl⟩
  · cases hreceive
    exact .inr ⟨_, rfl, .inl rfl⟩
  · cases hreceive
    exact .inr ⟨_, rfl, .inr rfl⟩

/-- A link that receives something has come to the end of its reading. -/
theorem Receives.ends (h : link.Receives capacity result) : Reading.Ends capacity ⟨[], link⟩ := by
  obtain ⟨after, hreceive⟩ := h
  rw [receive, Option.map_eq_some_iff] at hreceive
  obtain ⟨⟨collected, stopped⟩, hcollect, -⟩ := hreceive
  exact ⟨_, collected, stopped, hcollect⟩

/-- Without a limit, it is the pending bytes that end a reading. -/
theorem mem_or_full_of_ends (h : Reading.Ends capacity ⟨[], link⟩) (hunlimited : link.timeout = 0) :
    Frame.terminator ∈ link.device.pending.take capacity ∨
      capacity ≤ link.device.pending.length := by
  by_contra hshort
  rw [not_or, Nat.not_le] at hshort
  obtain ⟨hnone, hroom⟩ := hshort
  rw [List.take_of_length_le hroom.le] at hnone
  have hstart : Reading.IsShort capacity ⟨[], link⟩ := ⟨by simpa using hroom, hnone⟩
  obtain ⟨count, result, after, hadvance⟩ := h
  rw [hstart.advance_of_unlimited hunlimited count] at hadvance
  cases hadvance

/-- With a limit, something is always received. -/
theorem exists_receives (hlimit : link.timeout ≠ 0) (hbegun : link.started ≤ link.now)
    (capacity : Nat) : ∃ result, link.Receives capacity result := by
  obtain ⟨result, after, hreceive⟩ := link.exists_receive hlimit hbegun capacity
  exact ⟨result, after, hreceive⟩

/-- Without a limit, something is received exactly if the pending bytes end the reading. -/
theorem exists_receives_iff_of_unlimited (hunlimited : link.timeout = 0) :
    (∃ result, link.Receives capacity result) ↔
      Frame.terminator ∈ link.device.pending.take capacity ∨
        capacity ≤ link.device.pending.length := by
  constructor
  · rintro ⟨result, hreceives⟩
    exact mem_or_full_of_ends hreceives.ends hunlimited
  · intro hpending
    obtain ⟨after, hreceive⟩ := exists_receive_of_pending link
      (Reading.isExpired_of_unlimited hunlimited) (hpending.imp_left List.mem_of_mem_take)
    exact ⟨_, after, hreceive⟩

/-- Something is received exactly if the reading is over after any number of steps. -/
theorem exists_receives_iff_ends (hbegun : link.started ≤ link.now) :
    (∃ result, link.Receives capacity result) ↔ Reading.Ends capacity ⟨[], link⟩ := by
  constructor
  · rintro ⟨result, hreceives⟩
    exact hreceives.ends
  · intro hends
    by_cases hunlimited : link.timeout = 0
    · exact (exists_receives_iff_of_unlimited hunlimited).mpr (mem_or_full_of_ends hends hunlimited)
    · exact exists_receives hunlimited hbegun capacity

/-- **Which links stop waiting**, for any bytes that are pending, any room and any time that has
passed since the budget began to count. With a limit, a link always stops: it receives a payload, or
a failure for want of time or because of the bytes. Without one, it stops exactly if there is a
terminator within the room, or at least as many bytes as there is room for. In either case it stops
exactly if its reading comes to an end after any number of steps. -/
theorem receives_of_spent (link : Link) (spent capacity : Nat) :
    let entered : Link := { link with now := link.started + spent }
    (link.timeout ≠ 0 →
      (∃ payload, entered.Receives capacity (.ok payload)) ∨
        ∃ e, entered.Receives capacity (.error e) ∧
          (e.layer = .invalidData ∨ e.layer = .timeout)) ∧
    (link.timeout = 0 →
      ((∃ result, entered.Receives capacity result) ↔
        Frame.terminator ∈ link.device.pending.take capacity ∨
          capacity ≤ link.device.pending.length)) ∧
    ((∃ result, entered.Receives capacity result) ↔ Reading.Ends capacity ⟨[], entered⟩) := by
  intro entered
  have hbegun : entered.started ≤ entered.now := Nat.le_add_right link.started spent
  refine ⟨fun hlimit => ?_, fun hunlimited => ?_, exists_receives_iff_ends hbegun⟩
  · obtain ⟨result, hreceives⟩ := entered.exists_receives hlimit hbegun capacity
    obtain ⟨payload, rfl⟩ | ⟨e, rfl, hlayer⟩ := hreceives.cases
    · exact .inl ⟨payload, hreceives⟩
    · exact .inr ⟨e, hreceives, hlayer⟩
  · have hentered : entered.timeout = 0 := hunlimited
    exact exists_receives_iff_of_unlimited hentered

end Link

end InverterLink
