import InverterLink.Response

/-!
# The cache

At most one answer is kept for each command: the last one, with the arguments it was given for and
the time at which it came. An answer is fresh for a call with the same arguments until it is too
old.
-/

namespace InverterLink

/-- An answer that is kept. -/
structure CachedResponse where
  /-- When the answer came. -/
  obtained : Nat
  args : List String
  response : Response
deriving DecidableEq

namespace CachedResponse

/-- Whether the answer may be given to a call with these arguments: it was given for the same, and
no more than `lifetime` has passed. -/
def isFresh (cached : CachedResponse) (now lifetime : Nat) (args : List String) : Bool :=
  now - cached.obtained ≤ lifetime && cached.args = args

end CachedResponse

/-- The answers that are kept, one entry for a command. -/
structure Cache where
  entries : List (Command × CachedResponse) := []
deriving DecidableEq

namespace Cache

/-- The answer that is kept for a command. -/
def get? (cache : Cache) (command : Command) : Option CachedResponse :=
  (cache.entries.find? (·.1 = command)).map (·.2)

/-- Forgets the answer to a command. -/
def erase (cache : Cache) (command : Command) : Cache :=
  ⟨cache.entries.filter (·.1 ≠ command)⟩

/-- Keeps an answer in place of the last one to the same command. -/
def insert (cache : Cache) (command : Command) (cached : CachedResponse) : Cache :=
  ⟨(command, cached) :: (cache.erase command).entries⟩

@[simp]
theorem get?_insert_self (cache : Cache) (command : Command) (cached : CachedResponse) :
    (cache.insert command cached).get? command = some cached := by
  simp [insert, get?]

theorem get?_erase_self (cache : Cache) (command : Command) :
    (cache.erase command).get? command = none := by
  simp [erase, get?]

theorem get?_erase_of_ne (cache : Cache) {command other : Command} (h : other ≠ command) :
    (cache.erase command).get? other = cache.get? other := by
  simp only [erase, get?, List.find?_filter]
  congr 2
  funext entry
  by_cases he : entry.1 = other <;> simp [he, h]

theorem get?_insert_of_ne (cache : Cache) {command other : Command} (cached : CachedResponse)
    (h : other ≠ command) : (cache.insert command cached).get? other = cache.get? other := by
  rw [← get?_erase_of_ne cache h]
  simp [insert, get?, h.symm]

end Cache

end InverterLink
