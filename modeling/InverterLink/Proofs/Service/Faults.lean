import InverterLink.Proofs.Service.Outcomes

/-!
# Faults of the program

An error of the layout is a fault of the program, since the checks of a request should leave nothing
for the layout to refuse. Nothing else is one: neither what a request is refused for nor what goes
wrong in an exchange. So a request fails by a fault of the program exactly if the checks have let
something pass that cannot be laid out, and that is a threshold of one kind.

## Main statements

* `Command.internal_iff_of_link`, `Command.internal_iff_of_session`: how an accepted request can
  fail.
* `Command.internal_iff_of_ofRequest`: how any request can.
-/

namespace InverterLink

namespace Command

variable {c : Command} {name : String} {args normalised : List String} {e : Error}

/-- An accepted request fails over a link by a fault of the program if it cannot be laid out. -/
theorem internal_iff_of_link {link after : Link} (h : ofRequest name args = .ok (c, normalised))
    (hexecute : link.execute c normalised = some (.error e, after)) :
    e.layer = .internal ↔ c.HasNegativeThreshold normalised := by
  have hend := Link.endsIn_execute hexecute
  cases hframe : c.frame normalised with
  | ok frame =>
    have hnone := (exists_frame_iff h).mp ⟨frame, hframe⟩
    obtain hexternal | herror := hend
    · exact iff_of_false hexternal.not_internal hnone
    · rw [hframe] at herror
      cases herror
  | error cause =>
    have hthreshold : c.HasNegativeThreshold normalised := by
      by_contra hnone
      obtain ⟨frame, hok⟩ := (exists_frame_iff h).mpr hnone
      rw [hframe] at hok
      cases hok
    rw [Link.execute, hframe] at hexecute
    cases hexecute
    exact iff_of_true
      ((endsIn_frame c normalised).of_error hframe).internal_and_isPlain.1 hthreshold

/-- The same holds of an accepted request to a session. -/
theorem internal_iff_of_session {s after : Session} (h : ofRequest name args = .ok (c, normalised))
    (hexecute : s.execute c normalised = some (.error e, after)) :
    e.layer = .internal ↔ c.HasNegativeThreshold normalised := by
  obtain ⟨response, -, hok, -⟩ | ⟨result, link, hlink, herror, -⟩ := Session.execute_cases hexecute
  · cases hok
  · cases result with
    | ok response => cases herror
    | error cause =>
      cases herror
      rw [Error.layer_collapse]
      exact internal_iff_of_link h hlink

/-- **Requests fail by a fault of the program in one case only.** A request that is refused does
not. An accepted one can be laid out, and does not fail in this way over a link or in a session,
unless it sets a threshold that is negative; then it can never be laid out, and fails so whenever it
fails. -/
theorem internal_iff_of_ofRequest (name : String) (args : List String) :
    (∀ e, ofRequest name args = .error e → e.layer ≠ .internal) ∧
      ∀ c normalised, ofRequest name args = .ok (c, normalised) →
        ((∃ frame, c.frame normalised = .ok frame) ↔ ¬ c.HasNegativeThreshold normalised) ∧
        (∀ (link after : Link) (e : Error), link.execute c normalised = some (.error e, after) →
          (e.layer = .internal ↔ c.HasNegativeThreshold normalised)) ∧
        ∀ (s after : Session) (e : Error), s.execute c normalised = some (.error e, after) →
          (e.layer = .internal ↔ c.HasNegativeThreshold normalised) := by
  constructor
  · intro e he
    exact ((endsIn_ofRequest name args).of_error he).not_internal
  · intro c normalised h
    refine ⟨exists_frame_iff h, fun link after e hexecute => ?_, fun s after e hexecute => ?_⟩
    · exact internal_iff_of_link h hexecute
    · exact internal_iff_of_session h hexecute

/-- Two thresholds that are accepted and laid out, and two of which the second one is negative. -/
theorem internal_iff_of_thresholds :
    (∃ frame, Command.frame .setBatteryChargeThresholds ["11.3", "58"] = .ok frame) ∧
      ¬ ∃ frame, Command.frame .setBatteryChargeThresholds ["11.3", "-0.0000001"] = .ok frame := by
  have hrequest : ofRequest "set-charge-thresholds" ["11.3", "58"] =
      .ok (.setBatteryChargeThresholds, ["11.3", "58"]) := by decide +kernel
  have hnegative : ofRequest "set-charge-thresholds" ["11.3", "-0.0000001"] =
      .ok (.setBatteryChargeThresholds, ["11.3", "-0.0000001"]) := by decide +kernel
  have hdecimal : ∀ v ∈ decimal? ["11.3", "58"] 1, ¬ v < 0 := by decide +kernel
  have hdecimal' : ∃ v ∈ decimal? ["11.3", "-0.0000001"] 1, v < 0 := by decide +kernel
  constructor
  · refine ((internal_iff_of_ofRequest _ _).2 _ _ hrequest).1.mpr ?_
    rintro ⟨-, v, hv, hneg⟩
    exact hdecimal v hv hneg
  · rw [((internal_iff_of_ofRequest _ _).2 _ _ hnegative).1, not_not]
    obtain ⟨v, hv, hneg⟩ := hdecimal'
    exact ⟨rfl, v, hv, hneg⟩

/-- Not all accepted requests can be laid out: a threshold may be negative. -/
theorem not_forall_exists_frame : ¬ ∀ name args c normalised,
    ofRequest name args = .ok (c, normalised) → ∃ frame, c.frame normalised = .ok frame := by
  intro hall
  have hrequest : ofRequest "set-charge-thresholds" ["11.3", "-0.0000001"] =
      .ok (.setBatteryChargeThresholds, ["11.3", "-0.0000001"]) := by decide +kernel
  have herror : Command.frame .setBatteryChargeThresholds ["11.3", "-0.0000001"] =
      .error (.pack "SetBatteryChargeThresholds" (.notDecimal 1 "-0.0000001")) := by decide +kernel
  obtain ⟨frame, hframe⟩ := hall _ _ _ _ hrequest
  rw [herror] at hframe
  cases hframe

end Command

end InverterLink
