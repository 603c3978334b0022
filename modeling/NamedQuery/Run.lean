import NamedQuery.Log
import NamedQuery.Metrics
import NamedQuery.Store.Command

/-!
# Runs

Calls of query methods read from a store, write log entries and count things. A run carries all of
that as data: it takes the answers of the store from a script, in order, and keeps a journal of
everything it did.

* `Event` — an entry of the journal;
* `Session` — the rest of the script and the journal so far;
* `Run` — a computation in a session. What was written into the journal stays there when the
  computation fails.
-/

namespace NamedQuery

/-- A call of the store by a query method or a repository. -/
inductive StoreCall where
  | load (entity : String) (key : Key) (consistency : Option Consistency)
  | query (entity : String) (request : QueryRequest) (start : Value)
  | scan (entity : String) (request : ScanRequest) (start : Value)
  | count (entity : String) (request : PagedRequest)
  | save (entity : String) (item : Item)
  | delete (entity : String) (key : Key)
  | batchDelete (entity : String) (items : List Item)

/-- A count of an operation on a table of the store: that it was started, or that it failed. -/
structure OperationCount where
  metric : String
  operation : String
  table : TableName

/-- The measurement that a count is. Labels are texts. -/
def OperationCount.measurement (c : OperationCount) : Measurement :=
  .counter c.metric (some 1) (some [("operation", c.operation), ("table", c.table.shown)])

/-- Something a run did. -/
inductive Event where
  | call (call : StoreCall)
  | command (command : Command)
  /-- A page was asked for, from a start. -/
  | fetch (start : Value)
  /-- A page was seen. -/
  | page (page : Page)
  | log (entry : LogEntry)
  /-- An entry was written onto the console. -/
  | line (entry : LogEntry)
  | measure (measurement : Measurement)
  | counted (count : OperationCount)

/-- The answers that are still to come, and what was done so far. -/
structure Session (ρ : Type) where
  script : List (Except Thrown ρ) := []
  journal : List Event := []
  /-- The base queries that were derived so far. -/
  derived : List String := []

/-- A computation that takes answers of type `ρ` from a script and keeps a journal. -/
abbrev Run (ρ : Type) := ExceptT Thrown (StateM (Session ρ))

namespace Run

variable {ρ α : Type}

/-- Writes an event into the journal. -/
def record (event : Event) : Run ρ Unit :=
  modify fun s => { s with journal := s.journal ++ [event] }

/-- The next answer of the script; the given one when the script is used up. -/
def answer (default : ρ) : Run ρ ρ := do
  match (← get).script with
  -- A script that is used up fails nobody.
  | [] => pure default
  | reply :: rest =>
    modify fun s => { s with script := rest }
    match reply with
    | .ok reply => pure reply
    | .error thrown => throw thrown

/-- Fails with an error. -/
def fail (e : Error) : Run ρ α :=
  throw (.error e)

/-- Fails with an error where a result is missing. -/
def ofExcept : Except Error α → Run ρ α
  | .ok a => pure a
  | .error e => fail e

/-- A result with its effects, or a failure with its effects. -/
def ofState (x : StateM (Session ρ) (Except Thrown α)) : Run ρ α :=
  ExceptT.mk x

/-- More pages than a source can answer that takes each from the script. -/
def fuel : StateM (Session ρ) Nat := do
  pure ((← get).script.length + 2)

/-- What a console throws instead of writing an entry that it cannot write. -/
def unwritable : Thrown :=
  .fault "TypeError" "Do not know how to serialize a BigInt"

/-- Sends a log entry where the logger says. -/
def log (logger : Logger) (entry : LogEntry) : Run ρ Unit :=
  match logger with
  | .silent => pure ()
  | .recorder => record (.log entry)
  | .console threshold =>
    if threshold.admits entry.level then
      -- An entry below the threshold is not looked at, so it cannot fail.
      if entry.isWritable then record (.line entry) else throw unwritable
    else
      pure ()

end Run

/-- Where log entries and measurements go. -/
structure Observers where
  logger : Logger := .silent
  /-- Whether measurements are kept. -/
  metrics : Bool := false

namespace Observers

variable {ρ : Type}

/-- Writes down what was measured, if measurements are kept at all. -/
def keep (o : Observers) (event : Event) : Run ρ Unit :=
  if o.metrics then Run.record event else pure ()

def measure (o : Observers) (m : Measurement) : Run ρ Unit :=
  o.keep (.measure m)

/-- Adds one to a counter. -/
def count (o : Observers) (name : String) (labels : Labels) : Run ρ Unit :=
  o.measure (.counter name (some 1) (some labels))

/-- Counts an operation on a table. -/
def countOperation (o : Observers) (count : OperationCount) : Run ρ Unit :=
  o.keep (.counted count)

/-- Sends a log entry to the logger. -/
def log (o : Observers) (entry : LogEntry) : Run ρ Unit :=
  Run.log o.logger entry

end Observers

/-- What comes of showing a value that cannot be shown. -/
def Value.Unshown.thrown : Value.Unshown → Thrown
  | .bare => .fault "TypeError" "Cannot convert object to primitive value"
  | .symbol => .fault "TypeError" "Cannot convert a Symbol value to a string"

/-- The log entry about a call of the store that failed, unless it failed with a value that cannot
be shown. -/
def failureEntry (operation : String) (table : TableName) (thrown : Thrown) :
    Except Thrown LogEntry := do
  let about (name message : String) : Fields Value :=
    [("tableName", table.toValue), ("errorName", .text name), ("errorMessage", .text message)]
  let context ← match thrown with
    | .error e => pure (about e.report.kind.name e.report.message)
    | .fault name message => pure (about name message)
    | .value v =>
      match v.unshown? with
      | none => pure [("tableName", table.toValue), ("error", .text v.display)]
      | some cause => throw cause.thrown
  pure { level := .error, message := operation ++ " failed", context := .record context }

/-- The measurements of a journal, in order. -/
def measurements (journal : List Event) : List Measurement :=
  journal.filterMap fun
    | .measure m => some m
    | .counted count => some count.measurement
    | _ => none

end NamedQuery
