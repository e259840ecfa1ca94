import InverterLink.Error
import Mathlib.Logic.Basic

/-!
# Where results and failures come from

A computation that may fail is put together from parts, and has a result exactly if its parts have
theirs. `EndsIn` says what a computation may end in, and carries this from the parts to the whole.
-/

namespace InverterLink

variable {α β : Type} {x : Except Error α} {f : α → Except Error β}

theorem ok_bind (a : α) : (Except.ok a >>= f) = f a := rfl

theorem error_bind (e : Error) : (Except.error e >>= f) = .error e := rfl

/-- Two computations in a row have a result if both do. -/
theorem bind_eq_ok {b : β} : (x >>= f) = .ok b ↔ ∃ a, x = .ok a ∧ f a = .ok b := by
  cases x with
  | error e => simp [bind, Except.bind]
  | ok a => simp [bind, Except.bind]

theorem pure_eq_ok {a b : α} : (pure a : Except Error α) = .ok b ↔ a = b := by
  simp [pure, Except.pure]

/-! ### What a computation ends in -/

/-- A computation whose result, if it has one, has the first property, and whose failure, if it
fails, has the second one. -/
def EndsIn (x : Except Error α) (result : α → Prop) (failure : Error → Prop) : Prop :=
  match x with
  | .ok a => result a
  | .error e => failure e

namespace EndsIn

variable {result result' : α → Prop} {next : β → Prop} {failure failure' : Error → Prop}

theorem of_error {e : Error} (h : EndsIn x result failure) (hx : x = .error e) : failure e := by
  rw [hx] at h
  exact h

theorem mono (h : EndsIn x result failure) (hresult : ∀ a, result a → result' a)
    (hfailure : ∀ e, failure e → failure' e) : EndsIn x result' failure' := by
  cases x with
  | ok a => exact hresult a h
  | error e => exact hfailure e h

/-- Two computations in a row end in what the second one ends in, or fail as the first one. -/
theorem bind (hx : EndsIn x result failure) (hf : ∀ a, result a → EndsIn (f a) next failure) :
    EndsIn (x >>= f) next failure := by
  cases x with
  | ok a => exact hf a hx
  | error e => exact hx

theorem map {g : α → β} (hx : EndsIn x result failure) (hg : ∀ a, result a → next (g a)) :
    EndsIn (x.map g) next failure := by
  cases x with
  | ok a => exact hg a hx
  | error e => exact hx

end EndsIn

end InverterLink
