import NamedQuery.Value.Json
import NamedQuery.Text.LowerCase
import NamedQuery.Inherited

/-!
# Log entries

* `LogLevel` — the five levels, from the most to the least severe;
* `Threshold` — what a console lets through: the entries at least as severe as a level, or
  everything when it was set up with a name that is no level;
* `LogEntry.line` — the line an entry is written as;
* `Logger` — where entries go.
-/

namespace NamedQuery

/-- How severe a log entry is. -/
inductive LogLevel where
  | error
  | warn
  | info
  | debug
  | trace
deriving DecidableEq, Repr

namespace LogLevel

/-- Every level, the most severe first. -/
def all : List LogLevel := [error, warn, info, debug, trace]

def name : LogLevel → String
  | error => "error"
  | warn => "warn"
  | info => "info"
  | debug => "debug"
  | trace => "trace"

/-- How the level is shown in a line. -/
def label : LogLevel → String
  | error => "ERROR"
  | warn => "WARN"
  | info => "INFO"
  | debug => "DEBUG"
  | trace => "TRACE"

/-- Levels in ascending order of severity. -/
def severity : LogLevel → Nat
  | trace => 0
  | debug => 1
  | info => 2
  | warn => 3
  | error => 4

/-- The level of that name. -/
def ofName? (name : String) : Option LogLevel :=
  all.find? fun level => level.name == name

/-- Whether a name is taken for a level. The names that every table carries are taken for levels,
too, although no entry has them. -/
def isRecognised (name : String) : Bool :=
  (ofName? name).isSome || isInherited name

/-- The console channel of a level. -/
def channel : LogLevel → String
  | error => "error"
  | warn => "warn"
  | info => "log"
  | debug | trace => "debug"

end LogLevel

/-- What a console lets through. -/
inductive Threshold where
  /-- Entries at least as severe as the level. -/
  | atLeast (level : LogLevel)
  /-- Every entry. -/
  | everything
deriving DecidableEq, Repr

/-- The threshold that a name sets. A name that is no level holds nothing back. -/
def Threshold.ofName (name : String) : Threshold :=
  match LogLevel.ofName? name with
  | some level => .atLeast level
  | none => .everything

/-- Whether an entry of that level is let through. -/
def Threshold.admits : Threshold → LogLevel → Bool
  | .atLeast least, level => least.severity ≤ level.severity
  | .everything, _ => true

/-- A message with its level and context. -/
structure LogEntry where
  level : LogLevel
  message : String
  /-- A record of what the message is about, absent if there is nothing to add. -/
  context : Value := .absent

/-- The line an entry is written as at the given time. -/
def LogEntry.line (entry : LogEntry) (time : String) : String :=
  -- A context that counts as false is left out, even if it is there.
  let context :=
    if entry.context.isTruthy then " " ++ (entry.context.json?).getD "undefined" else ""
  "[" ++ time ++ "] [" ++ entry.level.label ++ "] " ++ entry.message ++ context

/-- Whether an entry can be written. One that shows a context with an integer in it cannot. -/
def LogEntry.isWritable (entry : LogEntry) : Bool :=
  !(entry.context.isTruthy && entry.context.holdsInteger)

/-- Where log entries go. -/
inductive Logger where
  /-- Nowhere. -/
  | silent
  /-- Into the journal of the run, every one of them. -/
  | recorder
  /-- Onto the console, as far as the threshold lets them through. -/
  | console (threshold : Threshold)
deriving DecidableEq, Repr

end NamedQuery
