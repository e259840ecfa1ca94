import InverterLink.Service.Registry
import Mathlib.Data.List.Nodup
import Mathlib.Data.List.Perm.Subperm

/-!
# The registry lists the registrations that are held

Whoever enters a connection holds its registration until the connection closes, and drops it then.
In whatever order this happens, the registry lists the registrations that are held and no others,
under different numbers. So it is empty when all of them have been dropped, and a server that waits
for this stops with the last one.

## Main definitions

* `Registrations`: a registry, and the registrations that have been made.
* `Registrations.step`, `Registrations.run`: registrations that are made and dropped.
* `Registry.Lists`: a registry that lists some registrations.

## Main statements

* `Registry.Lists.drained?_eq`: waiting ends with the last registration.
* `Registrations.isKept_run`: every number is new, and the registry lists what is held.
* `Registrations.listed_of_run`: what this means for a registry after any events.
-/

namespace InverterLink

/-- The number and the address of a connection that has been entered. -/
abbrev Registration : Type := Nat × String

namespace Registry

variable {r : Registry} {held held' : List Registration}

/-- A registry lists these registrations and no others, each under a number of its own. -/
structure Lists (r : Registry) (held : List Registration) : Prop where
  perm : r.entries.Perm held
  nodup : (held.map Prod.fst).Nodup

namespace Lists

theorem congr (h : r.Lists held) (hperm : held.Perm held') : r.Lists held' :=
  ⟨h.perm.trans hperm, (hperm.map Prod.fst).nodup_iff.mp h.nodup⟩

theorem size_eq (h : r.Lists held) : r.size = held.length :=
  h.perm.length_eq

theorem isEmpty_iff (h : r.Lists held) : r.isEmpty = true ↔ held = [] := by
  rw [isEmpty, decide_eq_true_iff, h.size_eq, List.length_eq_zero_iff]

/-- A registration that is dropped takes away its own entry. -/
theorem remove {registration : Registration} (h : r.Lists (registration :: held)) :
    (r.remove registration.1).Lists held := by
  obtain ⟨hperm, hnodup⟩ := h
  rw [List.map_cons, List.nodup_cons] at hnodup
  refine ⟨?_, hnodup.2⟩
  have hothers : held.filter (·.1 != registration.1) = held := by
    refine List.filter_eq_self.mpr fun other hother => ?_
    rw [bne_iff_ne]
    intro heq
    exact hnodup.1 (heq ▸ List.mem_map_of_mem hother)
  calc (r.entries.filter (·.1 != registration.1)).Perm
        ((registration :: held).filter (·.1 != registration.1)) := hperm.filter _
    _ = held := by rw [List.filter_cons_of_neg (by simp), hothers]

/-- A connection under a new number takes no other one's place. -/
theorem register (h : r.Lists held) (hnew : ∀ registration ∈ held, registration.1 ≠ r.nextNumber)
    (address : String) : (r.register address).2.Lists ((r.nextNumber, address) :: held) := by
  have hothers : r.entries.filter (·.1 != r.nextNumber) = r.entries := by
    refine List.filter_eq_self.mpr fun entry hentry => ?_
    rw [bne_iff_ne]
    exact hnew entry (h.perm.mem_iff.mp hentry)
  refine ⟨?_, List.nodup_cons.mpr ⟨fun hmem => ?_, h.nodup⟩⟩
  · simp only [Registry.register, Registry.remove, hothers]
    exact h.perm.cons _
  · obtain ⟨registration, hregistration, heq⟩ := List.mem_map.mp hmem
    exact hnew registration hregistration heq

/-- **Waiting ends with the last registration**, in whatever order they are dropped, and not
before. -/
theorem drained?_eq (h : r.Lists held) {order : List Registration} (horder : order.Subperm held) :
    r.drained? (order.map Prod.fst) =
      if order.length < held.length then none else some held.length := by
  induction order generalizing r held with
  | nil =>
    rw [List.map_nil, drained?, List.length_nil]
    by_cases hempty : r.isEmpty = true
    · rw [if_pos hempty, h.isEmpty_iff.mp hempty]
      rfl
    · have hpos : 0 < held.length :=
        List.length_pos_iff.mpr fun hnil => hempty (h.isEmpty_iff.mpr hnil)
      rw [if_neg hempty, if_pos hpos]
  | cons registration order ih =>
    have hmem : registration ∈ held := horder.subset List.mem_cons_self
    have hopen : ¬ r.isEmpty = true := fun hempty => by
      rw [h.isEmpty_iff.mp hempty] at hmem
      exact absurd hmem List.not_mem_nil
    have hrest : order.Subperm (held.erase registration) := by
      have herase := horder.erase registration
      rwa [List.erase_cons_head] at herase
    have hlength : (held.erase registration).length + 1 = held.length := by
      rw [List.length_erase_of_mem hmem, Nat.sub_add_cancel (List.length_pos_of_mem hmem)]
    rw [List.map_cons, drained?, if_neg hopen,
      ih (h.congr (List.perm_cons_erase hmem)).remove hrest, ← hlength, List.length_cons]
    split_ifs with hmore hmore' hmore'
    · rfl
    · omega
    · omega
    · rfl

end Lists

end Registry

/-- A registry, and the registrations that have been made. -/
structure Registrations where
  registry : Registry := {}
  /-- Every registration, in the order in which they were made. -/
  made : List Registration := []
  /-- Those that have not been dropped yet. -/
  held : List Registration := []

namespace Registrations

/-- What happens to registrations. -/
inductive Event where
  /-- A connection from an address is entered. -/
  | entered (address : String)
  /-- The registration at this place, among those that are held, is dropped. -/
  | dropped (place : Nat)

/-- A registration is made or dropped. -/
def step (s : Registrations) : Event → Registrations
  | .entered address =>
    let (number, registry) := s.registry.register address
    { registry, made := s.made ++ [(number, address)], held := s.held ++ [(number, address)] }
  | .dropped place =>
    match s.held[place]? with
    | some registration =>
      { s with registry := s.registry.remove registration.1, held := s.held.eraseIdx place }
    | none => s

/-- Registrations behind some events. -/
def run (events : List Event) : Registrations :=
  events.foldl step {}

/-- The numbers count the registrations, and the registry lists those that are held. -/
structure IsKept (s : Registrations) : Prop where
  nextNumber_eq : s.registry.nextNumber = s.made.length
  numbers_eq : s.made.map Prod.fst = List.range s.made.length
  held_sublist : s.held.Sublist s.made
  lists : s.registry.Lists s.held

variable {s : Registrations}

/-- A number that is given out was never given out before. -/
theorem IsKept.ne_nextNumber (h : s.IsKept) {registration : Registration}
    (hheld : registration ∈ s.held) : registration.1 ≠ s.registry.nextNumber := by
  have hmade : registration.1 ∈ s.made.map Prod.fst :=
    List.mem_map_of_mem (h.held_sublist.subset hheld)
  rw [h.numbers_eq, List.mem_range] at hmade
  rw [h.nextNumber_eq]
  exact Nat.ne_of_lt hmade

/-- A registration that is held leaves the registry alone when it is dropped. -/
theorem IsKept.lists_cons (h : s.IsKept) {place : Nat} {registration : Registration}
    (hplace : s.held[place]? = some registration) :
    s.registry.Lists (registration :: s.held.eraseIdx place) := by
  obtain ⟨hlt, rfl⟩ := List.getElem?_eq_some_iff.mp hplace
  exact h.lists.congr (List.getElem_cons_eraseIdx_perm hlt).symm

/-- **One event keeps the registry**, as long as there are new numbers. -/
theorem IsKept.step (h : s.IsKept) (event : Event)
    (hmore : s.made.length + 1 < Registry.numberBound) : (s.step event).IsKept := by
  cases event with
  | entered address =>
    refine ⟨?_, ?_, h.held_sublist.append (List.Sublist.refl _), ?_⟩
    · simp only [Registrations.step, Registry.register, h.nextNumber_eq, List.length_append,
        List.length_singleton, Nat.mod_eq_of_lt hmore]
    · simp only [Registrations.step, Registry.register, List.map_append, h.numbers_eq,
        h.nextNumber_eq, List.length_append, List.length_singleton, List.range_succ, List.map_cons,
        List.map_nil]
    · exact (h.lists.register (fun _ => h.ne_nextNumber) address).congr
        (List.perm_append_singleton _ _).symm
  | dropped place =>
    rw [Registrations.step]
    split
    next registration hplace =>
      exact ⟨h.nextNumber_eq, h.numbers_eq, (List.eraseIdx_sublist _ _).trans h.held_sublist,
        (h.lists_cons hplace).remove⟩
    next => exact h

theorem length_made_step_le (s : Registrations) (event : Event) :
    (s.step event).made.length ≤ s.made.length + 1 := by
  cases event with
  | entered address => simp [step, Registry.register]
  | dropped place =>
    rw [step]
    split
    · exact Nat.le_succ _
    · exact Nat.le_succ _

theorem isKept_foldl {events : List Event} (h : s.IsKept)
    (hmore : s.made.length + events.length < Registry.numberBound) :
    (events.foldl step s).IsKept := by
  induction events generalizing s with
  | nil => exact h
  | cons event events ih =>
    rw [List.length_cons] at hmore
    have hlength := length_made_step_le s event
    rw [List.foldl_cons]
    exact ih (h.step event (by omega)) (by omega)

/-- **The registry is kept** by any events that are fewer than the numbers. -/
theorem isKept_run {events : List Event} (h : events.length < Registry.numberBound) :
    (run events).IsKept :=
  isKept_foldl ⟨rfl, rfl, List.Sublist.refl _, ⟨List.Perm.nil, List.nodup_nil⟩⟩ (by simpa using h)

/-- **The registry lists the registrations that are held.** Behind any events, fewer than there are
numbers, no number has been given out twice. The registry has an entry for each registration that
was made and has not been dropped, so its size is the number of these, and it is empty when all have
been dropped. A registration that is dropped takes away its own entry and no other. And a server
that waits for the registry to be empty, while registrations are dropped in any order, waits exactly
until the last of them has been dropped. -/
theorem listed_of_run {events : List Event} (h : events.length < Registry.numberBound) :
    ((run events).made.map Prod.fst).Nodup ∧ (run events).held.Sublist (run events).made ∧
      (run events).registry.entries.Perm (run events).held ∧
      (run events).registry.size = (run events).held.length ∧
      ((run events).registry.isEmpty = true ↔ (run events).held = []) ∧
      (∀ place registration, (run events).held[place]? = some registration →
        (run events).registry.entries.Perm
          (registration :: (run (events ++ [.dropped place])).registry.entries)) ∧
      ∀ order : List Registration, order.Subperm (run events).held →
        (run events).registry.drained? (order.map Prod.fst) =
          if order.length < (run events).held.length then none
          else some (run events).held.length := by
  have hkept := isKept_run h
  refine ⟨hkept.numbers_eq ▸ List.nodup_range, hkept.held_sublist, hkept.lists.perm,
    hkept.lists.size_eq, hkept.lists.isEmpty_iff, fun place registration hplace => ?_,
    fun order => hkept.lists.drained?_eq⟩
  have hentries : (run (events ++ [.dropped place])).registry.entries.Perm
      ((run events).held.eraseIdx place) := by
    rw [run, List.foldl_append, ← run, List.foldl_cons, List.foldl_nil, step, hplace]
    exact (hkept.lists_cons hplace).remove.perm
  exact (hkept.lists_cons hplace).perm.trans (hentries.symm.cons registration)

/-- Three connections from one address, of which the first one closes before the last one comes. -/
theorem listed_of_run_one_address :
    [Event.entered "a", .entered "a", .dropped 0, .entered "a"].length < Registry.numberBound ∧
      (run [.entered "a", .entered "a", .dropped 0, .entered "a"]).registry.size = 2 ∧
      (run [.entered "a", .entered "a", .dropped 0, .entered "a"]).registry.drained? [2] = none ∧
      (run [.entered "a", .entered "a", .dropped 0, .entered "a"]).registry.drained? [2, 1] =
        some 2 := by
  have hfew : [Event.entered "a", .entered "a", .dropped 0, .entered "a"].length <
      Registry.numberBound := by
    decide
  obtain ⟨-, -, -, hsize, -, -, hdrained⟩ := listed_of_run hfew
  refine ⟨hfew, hsize, hdrained [(2, "a")] ?_, hdrained [(2, "a"), (1, "a")] ?_⟩
  · decide
  · decide

end Registrations

end InverterLink
