import InverterLink.Proofs.Service.Conversation
import Mathlib.Logic.Function.Basic

/-!
# Clients that share a session

The lines of all clients reach the one session after each other, in any order and with any time in
between. What the connection of a client remembers is its own, and what the session remembers is
common to all of them. A run that has answered some lines is described by the replies to them, one
for each, and by the states behind the last one.

## Main definitions

* `Clients`: a session and the connections that share it.
* `Clients.step`, `Clients.run`: one line of some client, and lines that follow each other.

## Main statements

* `Clients.run_induction`: what each line preserves, runs preserve.
* `Clients.exists_run`: every line has a reply.
-/

namespace InverterLink

/-- The connections of clients, by number, and the session that they share. -/
structure Clients where
  session : Session
  connections : Nat → Connection := fun _ => {}

namespace Clients

/-- A line of some client. -/
structure Event where
  /-- For how long nothing happens before. -/
  pause : Nat := 0
  client : Nat
  line : Line

/-- The session when a line arrives. -/
def before (c : Clients) (event : Event) : Session :=
  c.session.wait event.pause

/-- The reply to a line, and what it leaves. -/
def step (c : Clients) (event : Event) : Option (Reply × Clients) :=
  ((c.connections event.client).replyTo (c.before event) event.line).map
    fun (reply, connection, session) =>
      (reply, ⟨session, Function.update c.connections event.client connection⟩)

/-- The replies to lines that follow each other, and what they leave. -/
def run (c : Clients) : List Event → Option (List Reply × Clients)
  | [] => some ([], c)
  | event :: events => do
    let (reply, next) ← c.step event
    let (replies, last) ← next.run events
    return (reply :: replies, last)

variable {c next last : Clients} {event : Event} {events : List Event} {reply : Reply}
  {replies : List Reply}

/-- A reply comes from the connection of its client. -/
theorem step_eq_some_iff : c.step event = some (reply, next) ↔ ∃ connection,
    (c.connections event.client).replyTo (c.before event) event.line =
        some (reply, connection, next.session) ∧
      next.connections = Function.update c.connections event.client connection := by
  rw [step, Option.map_eq_some_iff]
  constructor
  · rintro ⟨⟨reply', connection, session⟩, hreply, h⟩
    cases h
    exact ⟨connection, hreply, rfl⟩
  · rintro ⟨connection, hreply, hconnections⟩
    refine ⟨_, hreply, ?_⟩
    dsimp only
    rw [← hconnections]

/-- **What each line preserves, runs preserve.** -/
theorem run_induction {P : Clients → Prop}
    (hstep : ∀ {c next : Clients} {event : Event} {reply : Reply}, P c →
      c.step event = some (reply, next) → P next)
    (hstart : P c) (hrun : c.run events = some (replies, last)) : P last := by
  induction events generalizing c replies with
  | nil =>
    cases hrun
    exact hstart
  | cons event events ih =>
    obtain ⟨⟨reply, next⟩, hnext, hrun⟩ := Option.bind_eq_some_iff.mp hrun
    obtain ⟨⟨later, last'⟩, hlater, hrun⟩ := Option.bind_eq_some_iff.mp hrun
    cases hrun
    exact ih (hstep hstart hnext) hlater

/-- The first line is answered, and then the others. -/
theorem run_cons (c : Clients) (event : Event) (events : List Event) :
    c.run (event :: events) = (c.step event).bind fun (reply, next) =>
      (next.run events).map fun (replies, last) => (reply :: replies, last) := by
  rw [run]
  refine congrArg (Option.bind _) (funext fun answered => ?_)
  dsimp only
  rw [Option.map_eq_bind]
  rfl

/-- A line leaves the link the limit that it had. -/
theorem timeout_eq_of_step (hstep : c.step event = some (reply, next)) :
    next.session.link.timeout = c.session.link.timeout := by
  obtain ⟨connection, hreply, -⟩ := step_eq_some_iff.mp hstep
  exact (Connection.precedes_replyTo hreply).timeout_eq

/-- The link has the limit that it had. -/
theorem timeout_eq_of_run (hrun : c.run events = some (replies, last)) :
    last.session.link.timeout = c.session.link.timeout := by
  refine run_induction (P := fun later =>
    later.session.link.timeout = c.session.link.timeout) ?_ rfl hrun
  intro before next event reply h hnext
  exact (timeout_eq_of_step hnext).trans h

/-- Every line has a reply if the link has a limit, but for the one that ends a connection. -/
theorem exists_step (hlimit : c.session.link.timeout ≠ 0) (hline : event.line ≠ .ended) :
    ∃ reply next, c.step event = some (reply, next) := by
  have hlimit' : (c.before event).link.timeout ≠ 0 := hlimit
  obtain ⟨reply, connection, session, hreply⟩ :=
    Connection.exists_replyTo hlimit' (c.connections event.client) hline
  exact ⟨reply, ⟨session, _⟩, step_eq_some_iff.mpr ⟨connection, hreply, rfl⟩⟩

/-- **Every line has a reply** in a run over a link with a limit, if no line ends a connection. -/
theorem exists_run (hlimit : c.session.link.timeout ≠ 0)
    (hlines : ∀ event ∈ events, event.line ≠ .ended) :
    ∃ replies last, c.run events = some (replies, last) ∧ replies.length = events.length := by
  induction events generalizing c with
  | nil => exact ⟨[], c, rfl, rfl⟩
  | cons event events ih =>
    obtain ⟨hline, hlines⟩ := List.forall_mem_cons.mp hlines
    obtain ⟨reply, next, hstep⟩ := exists_step hlimit hline
    obtain ⟨replies, last, hrun, hlength⟩ := ih (timeout_eq_of_step hstep ▸ hlimit) hlines
    refine ⟨reply :: replies, last, ?_, congrArg (· + 1) hlength⟩
    rw [run_cons, hstep, Option.bind_some]
    dsimp only
    rw [hrun, Option.map_some]

end Clients

end InverterLink
