/-!
# Log entries

What the link, the session and the daemon report while they work. Entries are values: a component
that reports something keeps the entries in order, and whoever runs it decides what to show.
-/

namespace InverterLink

/-- How much attention a log entry asks for. -/
inductive Level where
  | error
  | warn
  | info
  | debug
  | trace
deriving DecidableEq

namespace Level

/-- The name under which entries of this level are shown. -/
def name : Level → String
  | error => "ERROR"
  | warn => "WARN"
  | info => "INFO"
  | debug => "DEBUG"
  | trace => "TRACE"

/-- How many levels are more urgent, counted from one. -/
def rank : Level → Nat
  | error => 1
  | warn => 2
  | info => 3
  | debug => 4
  | trace => 5

/-- Every level, from the most urgent one. -/
def all : List Level := [error, warn, info, debug, trace]

/-- The level of a name, in letters of either case. -/
def ofName? (name : List Char) : Option Level :=
  all.find? (·.name.toList == name.map Char.toUpper)

end Level

/-- One message with its level. -/
structure LogEntry where
  level : Level
  message : String
deriving DecidableEq

namespace LogEntry

/-- Whether a log that shows everything up to `limit` shows the entry. -/
def isShownAt (limit : Level) (entry : LogEntry) : Bool :=
  entry.level.rank ≤ limit.rank

end LogEntry

/-! ### What is shown -/

/-- A text without blanks around it. -/
def trimBlanks (cs : List Char) : List Char :=
  ((cs.dropWhile Char.isWhitespace).reverse.dropWhile Char.isWhitespace).reverse

/-- What a word of a filter asks for: everything up to a level, or nothing at all. A word that names
no level concerns other programs. -/
def readThreshold (word : List Char) : Option (Option Level) :=
  if word.map Char.toUpper = "OFF".toList then some none
  else (Level.ofName? word).map some

/-- The level up to which a filter shows entries, if it shows any. The last word with a level
counts, and a filter without words shows errors. -/
def logThreshold (filter : List Char) : Option Level :=
  let words := ((filter.splitOn ',').map trimBlanks).filter (!·.isEmpty)
  if words.isEmpty then some .error
  else (words.filterMap readThreshold).getLast?.getD none

/-- The entries that a filter shows. -/
def shownEntries (filter : String) (entries : List LogEntry) : List LogEntry :=
  match logThreshold filter.toList with
  | some limit => entries.filter (·.isShownAt limit)
  | none => []

end InverterLink
