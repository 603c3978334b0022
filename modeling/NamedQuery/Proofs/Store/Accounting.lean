import NamedQuery.Proofs.Entity.Keys
import NamedQuery.Proofs.Metrics
import NamedQuery.Proofs.Store.Exchange

/-!
# Storage accounting

A configured store counts each operation that it starts, counts it again if it fails, and writes one
line about its end. None of that changes what becomes of the operation. So after any operations, in
any order and whatever the answers were, the counters and the lines tell how many there were and how
they ended.

* `Operation` — an operation of a store, with its arguments;
* `Operation.run`, `Operation.bare` — the operation as it is observed, and as it is without that;
* `ConfiguredStore.observed_does` — everything an observed operation writes down;
* `Operation.started_does`, `Operation.refused_does` — one operation, `Operation.runs_do` — any
  number of them;
* `Operation.storage_accounting` — what the collector and the logger have in the end.
-/

namespace NamedQuery

/-! ### One run after the other -/

/-- Runs in one session, one after the other. The next one runs after a failure, too. -/
def Run.each {ρ α : Type} (runs : List (Run ρ α)) :
    StateM (Session ρ) (List (Except Thrown α)) :=
  runs.mapM ExceptT.run

namespace Run

variable {ρ α : Type} {script mid rest : List (Except Thrown ρ)} {events events' : List Event}

theorem each_nil_does : NamedQuery.Does (Run.each ([] : List (Run ρ α))) script script [] [] :=
  .pure

/-- The other runs start where the first one stops, failed or not. -/
theorem each_cons_does {x : Run ρ α} {runs : List (Run ρ α)} {result : Except Thrown α}
    {results : List (Except Thrown α)} (hx : Run.Does x script mid events result)
    (hruns : NamedQuery.Does (Run.each runs) mid rest events' results) :
    NamedQuery.Does (Run.each (x :: runs)) script rest (events ++ events') (result :: results) := by
  have hmapM : Run.each (x :: runs) = x.run >>= fun result => (result :: ·) <$> Run.each runs := by
    simp only [Run.each, List.mapM_cons, map_eq_pure_bind]
  rw [hmapM]
  exact NamedQuery.Does.bind hx hruns.map

end Run

/-! ### What is written down -/

/-- The log entries of a journal, in order. -/
def logEntries (journal : List Event) : List LogEntry :=
  journal.filterMap fun
    | .log entry => some entry
    | _ => none

theorem measurements_append (journal journal' : List Event) :
    measurements (journal ++ journal') = measurements journal ++ measurements journal' :=
  List.filterMap_append

theorem logEntries_append (journal journal' : List Event) :
    logEntries (journal ++ journal') = logEntries journal ++ logEntries journal' :=
  List.filterMap_append

/-- Commands are neither measurements nor log entries. -/
theorem measurements_command (sent : List Command) : measurements (sent.map .command) = [] :=
  List.filterMap_eq_nil_iff.mpr (List.forall_mem_map.mpr fun _ _ => rfl)

theorem logEntries_command (sent : List Command) : logEntries (sent.map .command) = [] :=
  List.filterMap_eq_nil_iff.mpr (List.forall_mem_map.mpr fun _ _ => rfl)

/-- A failure that is an error, of this library or another one. -/
def Thrown.IsError : Thrown → Prop
  | .error _ | .fault _ _ => True
  | .value _ => False

/-- What a log entry tells of an error. -/
def Thrown.about : Thrown → Fields Value
  | .error e => [("errorName", .text e.report.kind.name), ("errorMessage", .text e.report.message)]
  | .fault name message => [("errorName", .text name), ("errorMessage", .text message)]
  | .value _ => []

/-- The measurement that an operation on a table was started, or that it failed. -/
def callCounted (metric operation : String) (table : TableName) : Measurement :=
  OperationCount.measurement { metric, operation, table }

/-- The measurements for an operation. -/
def callMeasurements (operation : String) (table : TableName) :
    Except Thrown Unit → List Measurement
  | .ok _ => [callCounted MetricName.storageCalls operation table]
  | .error _ =>
    [callCounted MetricName.storageCalls operation table,
      callCounted MetricName.errors operation table]

/-- The line about the end of an operation. -/
def callEntry (operation : String) (table : TableName) (entity : String) :
    Except Thrown Unit → LogEntry
  | .ok _ =>
    { level := .debug, message := operation ++ " succeeded"
      context := .record [("tableName", table.toValue), ("entity", .text entity)] }
  | .error thrown =>
    { level := .error, message := operation ++ " failed"
      context := .record (("tableName", table.toValue) :: thrown.about) }

/-- What is written down behind the commands that an operation sends. -/
def callClosing (operation : String) (table : TableName) (entity : String)
    (result : Except Thrown Unit) : List Event :=
  let counted :=
    match result with
    | .ok _ => []
    | .error _ => [.counted { metric := MetricName.errors, operation, table }]
  counted ++ [.log (callEntry operation table entity result)]

/-- Everything that an operation writes down. -/
def callJournal (operation : String) (table : TableName) (entity : String) (sent : List Command)
    (result : Except Thrown Unit) : List Event :=
  .counted { metric := MetricName.storageCalls, operation, table } ::
    (sent.map .command ++ callClosing operation table entity result)

section

variable {operation entity : String} {table : TableName} {result : Except Thrown Unit}

theorem measurements_callJournal (sent : List Command) :
    measurements (callJournal operation table entity sent result) =
      callMeasurements operation table result := by
  have hclosing : measurements (sent.map .command ++ callClosing operation table entity result) =
      measurements (callClosing operation table entity result) := by
    rw [measurements_append, measurements_command, List.nil_append]
  show _ :: measurements (sent.map .command ++ callClosing operation table entity result) = _
  rw [hclosing]
  cases result <;> rfl

theorem logEntries_callJournal (sent : List Command) :
    logEntries (callJournal operation table entity sent result) =
      [callEntry operation table entity result] := by
  show logEntries (sent.map .command ++ callClosing operation table entity result) = _
  rw [logEntries_append, logEntries_command, List.nil_append]
  cases result <;> rfl

theorem callMeasurements_isIncrement :
    ∀ m ∈ callMeasurements operation table result, m.IsIncrement := by
  intro m hm
  -- a success is one increment, and a failure is two
  cases result with
  | ok _ =>
    obtain rfl := List.mem_singleton.mp hm
    exact ⟨_, _, rfl⟩
  | error thrown =>
    rcases List.mem_pair.mp hm with rfl | rfl <;> exact ⟨_, _, rfl⟩

/-- An error has a log entry. -/
theorem failureEntry_of_isError {thrown : Thrown} (h : thrown.IsError) :
    failureEntry operation table thrown =
      .ok (callEntry operation table entity (.error thrown)) := by
  cases thrown with
  | value v => exact h.elim
  | error e => rfl
  | fault name message => rfl

end

namespace ConfiguredStore

variable {c : ConfiguredStore} {α : Type} {operation : String} {e : Entity}
  {call : TableName → Run Reply α} {script rest : List (Except Thrown Reply)} {sent : List Command}
  {result : Except Thrown α}

/-- **An observed operation** is counted in front of its commands. Its end is counted if it is a
failure, and written down. -/
theorem observed_does (hobservers : c.observers = { logger := .recorder, metrics := true })
    (h : Run.Does (call (c.tableName e)) script rest (sent.map .command) result)
    (herror : ∀ thrown, result = .error thrown → thrown.IsError) :
    Run.Does (c.observed operation e call) script rest
      (callJournal operation (c.tableName e) e.name sent (result.map fun _ => ())) result := by
  -- with these observers every measurement and every entry is written into the journal
  have hcount : ∀ (metric : String) (script : List (Except Thrown Reply)),
      Run.Does (c.observers.countOperation { metric, operation, table := c.tableName e } :
        Run Reply Unit) script script [.counted { metric, operation, table := c.tableName e }]
        (.ok ()) := by
    intro metric script
    rw [hobservers]
    exact Run.keep_does _ _
  have hlog : ∀ (entry : LogEntry) (script : List (Except Thrown Reply)),
      Run.Does (c.observers.log entry : Run Reply Unit) script script [.log entry] (.ok ()) := by
    intro entry script
    rw [hobservers]
    exact .record _
  refine (hcount MetricName.storageCalls script).bind ?_
  cases result with
  | ok a =>
    exact Run.Does.tryCatch_ok (h.bind ((hlog _ rest).bind .pure))
  | error thrown =>
    -- an error can always be shown, so the handler comes to its end and passes the failure on
    have hentry : Run.Does (Run.ofState (pure (failureEntry operation (c.tableName e) thrown)) :
        Run Reply LogEntry) rest rest []
        (.ok (callEntry operation (c.tableName e) e.name (.error thrown))) := by
      rw [failureEntry_of_isError (herror thrown rfl)]
      exact .pure
    refine Run.Does.tryCatch_error h.bind_error ((hcount MetricName.errors rest).bind ?_)
    exact hentry.bind_silent ((hlog _ rest).bind .throw)

end ConfiguredStore

/-! ### Operations -/

/-- An operation of a store, with its arguments. -/
inductive Operation where
  | load (entity : Entity) (key : Key) (consistency : Option Consistency)
  | query (entity : Entity) (request : QueryRequest) (start : Value)
  | scan (entity : Entity) (request : ScanRequest) (start : Value)
  | count (entity : Entity) (request : PagedRequest)
  | save (entity : Entity) (item : Item)
  | delete (entity : Entity) (key : Key)
  | batchDelete (entity : Entity) (items : List Item)

namespace Operation

def entity : Operation → Entity
  | load e _ _ | query e _ _ | scan e _ _ | count e _ | save e _ | delete e _ | batchDelete e _ => e

/-- The name that an operation is counted under. -/
def name : Operation → String
  | load .. => "GetItem"
  | query .. => "Query"
  | scan .. => "Scan"
  | count _ request => if request.isQuery then "QueryCount" else "ScanCount"
  | save .. => "PutItem"
  | delete .. => "DeleteItem"
  | batchDelete .. => "BatchWriteItem"

/-- Whether an operation is started. A batch delete is not if some item has no key. -/
def isStarted : Operation → Bool
  | batchDelete e items => (items.mapM e.keyOf).isOk
  | _ => true

/-- Carries an operation out. -/
def run (c : ConfiguredStore) : Operation → Run Reply Unit
  | load e key consistency => (fun _ => ()) <$> c.operations.load e key consistency
  | query e request start => (fun _ => ()) <$> c.operations.query e request start
  | scan e request start => (fun _ => ()) <$> c.operations.scan e request start
  | count e request => (fun _ => ()) <$> c.operations.count e request
  | save e item => (fun _ => ()) <$> c.operations.save e item
  | delete e key => (fun _ => ()) <$> c.operations.delete e key
  | batchDelete e items => (fun _ => ()) <$> c.operations.batchDelete e items

/-- What an operation does when nobody observes it: the commands, and nothing around them. -/
def bare (c : ConfiguredStore) (op : Operation) : Run Reply Unit :=
  let table := c.tableName op.entity
  match op with
  | load e key consistency =>
    (fun _ => ()) <$> Client.getItem table (e.keyMap key) (consistency.getD .default).flag?
  | query _ request start => (fun _ => ()) <$> Client.queryPage table request start
  | scan _ request start => (fun _ => ()) <$> Client.scanPage table request start
  | count _ request => (fun _ => ()) <$> Client.countAll table request
  | save e item => (fun _ => ()) <$> Client.putItem table (e.toStored item)
  | delete e key => (fun _ => ()) <$> Client.deleteItem table (e.keyMap key)
  | batchDelete e items => do
    let keys ← Run.ofExcept (items.mapM e.keyOf)
    (fun _ => ()) <$> Client.batchDelete table (keys.map e.keyMap)

/-- What an operation raises itself: a batch delete reports what is left undone. -/
def Raises (c : ConfiguredStore) (op : Operation) (thrown : Thrown) : Prop :=
  ∃ e items undone, op = .batchDelete e items ∧
    thrown = .error { cause := .unprocessedDeletes (c.tableName e) undone }

variable {c : ConfiguredStore} {script : List (Except Thrown Reply)} {op : Operation}

/-- The names of operations have no commas. -/
theorem comma_not_mem_name : ',' ∉ op.name.toList := by
  cases op with
  | count e request => cases request <;> simp [name, PagedRequest.isQuery]
  | _ => simp [name]

/-- **An operation that is started** exchanges commands and answers with the store. That is what is
observed, under its name. -/
theorem run_observed (c : ConfiguredStore) (hstarted : op.isStarted = true) :
    ∃ (α : Type) (call : TableName → Run Reply α),
      op.run c = (fun _ => ()) <$> c.observed op.name op.entity call ∧
      op.bare c = (fun _ => ()) <$> call (c.tableName op.entity) ∧
      Run.Exchanges (op.Raises c) (call (c.tableName op.entity)) := by
  -- what is made of the answers does not matter here
  have hconvert : ∀ {α β : Type} (x : Run Reply α) (f : α → β),
      (fun _ => ()) <$> x = (fun _ => ()) <$> (x >>= fun a => pure (f a)) := by
    intro α β x f
    simp only [map_eq_pure_bind, bind_assoc, pure_bind]
  -- each operation is one observed call, whose exchanges are those of the client
  cases op with
  | load e key consistency =>
    exact ⟨_, fun table => do
        let item ← Client.getItem table (e.keyMap key) (consistency.getD .default).flag?
        pure (item.map e.ofStored),
      rfl, hconvert _ _, (Client.getItem_exchanges _ _ _).bind fun _ => .pure⟩
  | query e request start =>
    exact ⟨_, fun table => do
        pure (ConfiguredStore.ofStoredPage e (← Client.queryPage table request start)),
      rfl, hconvert _ _, (Client.queryPage_exchanges _ _ _).bind fun _ => .pure⟩
  | scan e request start =>
    exact ⟨_, fun table => do
        pure (ConfiguredStore.ofStoredPage e (← Client.scanPage table request start)),
      rfl, hconvert _ _, (Client.scanPage_exchanges _ _ _).bind fun _ => .pure⟩
  | count e request =>
    exact ⟨_, fun table => Client.countAll table request, rfl, rfl, Client.countAll_exchanges _ _⟩
  | save e item =>
    exact ⟨_, fun table => do
        Client.putItem table (e.toStored item)
        pure item,
      rfl, hconvert _ _, (Client.putItem_exchanges _ _).bind fun _ => .pure⟩
  | delete e key =>
    exact ⟨_, fun table => do
        let item ← Client.deleteItem table (e.keyMap key)
        pure (item.map e.ofStored),
      rfl, hconvert _ _, (Client.deleteItem_exchanges _ _).bind fun _ => .pure⟩
  | batchDelete e items =>
    -- a batch delete is started only if all its items have keys
    cases hkeys : items.mapM e.keyOf with
    | error error => simp [isStarted, hkeys, Except.isOk, Except.toBool] at hstarted
    | ok keys =>
      have hrun : ∀ {α : Type} (f : List Key → Run Reply α),
          (do let keys ← Run.ofExcept (items.mapM e.keyOf); f keys) = f keys := by
        intro α f
        rw [hkeys]
        rfl
      refine ⟨_, fun table => Client.batchDelete table (keys.map e.keyMap),
        congrArg (fun x => (fun _ => ()) <$> x) (hrun _), hrun _,
        Client.batchDelete_exchanges _ fun undone => ⟨e, items, undone, rfl, rfl⟩⟩

/-- **One operation** writes its journal around its commands, and ends as it would without. -/
theorem started_does (hobservers : c.observers = { logger := .recorder, metrics := true })
    (hscript : ∀ thrown, .error thrown ∈ script → thrown.IsError)
    (hstarted : op.isStarted = true) :
    ∃ (taken : Nat) (sent : List Command) (result : Except Thrown Unit),
      Run.Does (op.bare c) script (script.drop taken) (sent.map .command) result ∧
      Run.Does (op.run c) script (script.drop taken)
        (callJournal op.name (c.tableName op.entity) op.entity.name sent result) result ∧
      ∀ thrown, result = .error thrown → .error thrown ∈ script ∨ op.Raises c thrown := by
  -- the same call is made with the observers and without them
  obtain ⟨α, call, hrun, hbare, hcall⟩ := run_observed c hstarted
  obtain ⟨taken, sent, result, hdoes, hfailure⟩ := hcall script
  -- a failure is an error, since it stems from the script or is one of the client
  have herror : ∀ thrown, result = .error thrown → thrown.IsError := by
    intro thrown hthrown
    rcases hfailure thrown hthrown with hanswer | ⟨e, items, undone, -, rfl⟩
    · exact hscript thrown hanswer
    · trivial
  refine ⟨taken, sent, result.map fun _ => (), ?_, ?_, fun thrown hthrown => ?_⟩
  · rw [hbare]
    exact hdoes.map
  · rw [hrun]
    exact (ConfiguredStore.observed_does hobservers hdoes herror).map
  · cases result with
    | ok a => cases hthrown
    | error thrown' => exact hfailure thrown (congrArg Except.error (Except.error.inj hthrown))

/-- **A batch delete that is not started** does nothing at all. -/
theorem refused_does (hstarted : op.isStarted = false) :
    ∃ error, Run.Refuses (op.bare c) [] error ∧ Run.Refuses (op.run c) [] error := by
  cases op with
  | batchDelete e items =>
    -- only a batch delete is refused before it is observed, where an item has no key
    cases hkeys : items.mapM e.keyOf with
    | ok keys => simp [isStarted, hkeys, Except.isOk, Except.toBool] at hstarted
    | error error =>
      have hrefuses : Run.Refuses (Run.ofExcept (items.mapM e.keyOf) : Run Reply (List Key)) []
          error :=
        .ofExcept hkeys
      exact ⟨error, hrefuses.bind, hrefuses.bind.map⟩
  | _ => cases hstarted

/-! ### Any number of operations -/

/-- The operations that are started, each with how it ends. -/
def startedOf (ops : List Operation) (results : List (Except Thrown Unit)) :
    List (Operation × Except Thrown Unit) :=
  (ops.zip results).filter fun (op, _) => op.isStarted

/-- Whether an operation is counted under a name and a table. The label shows the physical name of
the table as a text. -/
def isUnder (c : ConfiguredStore) (name table : String) (op : Operation) : Bool :=
  op.name == name && (c.tableName op.entity).shown == table

/-- **Any number of operations.** What is measured and what is logged comes from those that are
started, in order. Each of them ends as it would if nobody observed any of them. -/
theorem runs_do (hobservers : c.observers = { logger := .recorder, metrics := true })
    (hscript : ∀ thrown, .error thrown ∈ script → thrown.IsError) (ops : List Operation) :
    ∃ (rest : List (Except Thrown Reply)) (events events' : List Event)
      (results : List (Except Thrown Unit)),
      Does (Run.each (ops.map (·.bare c))) script rest events results ∧
      Does (Run.each (ops.map (·.run c))) script rest events' results ∧
      results.length = ops.length ∧
      measurements events' = (startedOf ops results).flatMap (fun (op, result) =>
        callMeasurements op.name (c.tableName op.entity) result) ∧
      logEntries events' = (startedOf ops results).map (fun (op, result) =>
        callEntry op.name (c.tableName op.entity) op.entity.name result) ∧
      ∀ op thrown, (op, .error thrown) ∈ startedOf ops results →
        .error thrown ∈ script ∨ op.Raises c thrown := by
  -- The induction is on the operations. Each one starts with the answers that those before it have
  -- left, and all of them are answers of the whole script.
  induction ops generalizing script with
  | nil => exact ⟨script, [], [], [], Run.each_nil_does, Run.each_nil_does, rfl, rfl, rfl,
      by simp [startedOf]⟩
  | cons op ops ih =>
    cases hstarted : op.isStarted with
    | true =>
      obtain ⟨taken, sent, result, hbare, hrun, hfailure⟩ :=
        started_does hobservers hscript hstarted
      obtain ⟨rest, events, events', results, hbares, hruns, hlength, hmeasured, hlogged,
        hfailures⟩ := ih fun thrown h => hscript thrown (List.mem_of_mem_drop h)
      -- a started operation is entered in the books with its result
      have hfirst : startedOf (op :: ops) (result :: results) =
          (op, result) :: startedOf ops results :=
        List.filter_cons_of_pos hstarted
      refine ⟨rest, _, _, result :: results, Run.each_cons_does hbare hbares,
        Run.each_cons_does hrun hruns,
        congrArg (· + 1) hlength, ?_, ?_, ?_⟩
      · -- the counters and the lines of the first call stand in front
        rw [measurements_append, measurements_callJournal, hmeasured, hfirst, List.flatMap_cons]
      · rw [logEntries_append, logEntries_callJournal, hlogged, hfirst, List.map_cons,
          List.singleton_append]
      · rw [hfirst]
        rintro op' thrown hmem
        -- a failure of the first call, or one of a later call
        rcases List.mem_cons.mp hmem with heq | hmem
        · obtain ⟨rfl, hthrown⟩ := Prod.mk.inj heq
          exact hfailure thrown hthrown.symm
        · exact (hfailures op' thrown hmem).imp_left List.mem_of_mem_drop
    | false =>
      obtain ⟨error, hbare, hrun⟩ := refused_does (c := c) hstarted
      obtain ⟨rest, events, events', results, hbares, hruns, hlength, hmeasured, hlogged,
        hfailures⟩ := ih hscript
      -- what was refused before its call is not in the books
      have hfirst : startedOf (op :: ops) (.error (.error error) :: results) =
          startedOf ops results :=
        List.filter_cons_of_neg (by simp [hstarted])
      refine ⟨rest, _, _, _ :: results, Run.each_cons_does (hbare script) hbares,
        Run.each_cons_does (hrun script) hruns,
        congrArg (· + 1) hlength, ?_, ?_, ?_⟩
      · rw [List.nil_append, hmeasured, hfirst]
      · rw [List.nil_append, hlogged, hfirst]
      · rw [hfirst]
        exact hfailures

/-! ### Counters -/

/-- What is counted in pieces is counted piece by piece. -/
theorem countP_flatMap_of_indicator {α β : Type} {f : α → List β} {p : β → Bool} {q : α → Bool}
    (h : ∀ a, (f a).countP p = if q a then 1 else 0) (as : List α) :
    (as.flatMap f).countP p = as.countP q := by
  induction as with
  | nil => rfl
  | cons a as ih =>
    rw [List.flatMap_cons, List.countP_append, List.countP_cons, h, ih, Nat.add_comm]

section

variable (c : ConfiguredStore) (op op' : Operation) (table : String) (result : Except Thrown Unit)

/-- Increments of one counter are told apart by operation and table. -/
theorem key_callCounted (metric : String) :
    ((callCounted metric op'.name (c.tableName op'.entity)).key ==
      seriesKey metric (callLabels op.name table)) = isUnder c op.name table op' := by
  rw [Bool.eq_iff_iff, beq_iff_eq, isUnder, Bool.and_eq_true, beq_iff_eq, beq_iff_eq]
  exact seriesKey_callLabels_inj comma_not_mem_name comma_not_mem_name

/-- An operation is counted once where it starts. -/
theorem countP_storageCalls :
    (callMeasurements op'.name (c.tableName op'.entity) result).countP
        (·.key == seriesKey MetricName.storageCalls (callLabels op.name table)) =
      if isUnder c op.name table op' then 1 else 0 := by
  -- a failure has another key, so it is not counted among the calls
  have herrors : ((callCounted MetricName.errors op'.name (c.tableName op'.entity)).key ==
      seriesKey MetricName.storageCalls (callLabels op.name table)) = false :=
    beq_false_of_ne (seriesKey_errors_ne _ _ _ _)
  cases result with
  | ok _ => rw [callMeasurements, List.countP_singleton, key_callCounted]
  | error thrown =>
    rw [callMeasurements, List.countP_cons, List.countP_singleton, key_callCounted, herrors,
      if_neg Bool.false_ne_true, Nat.zero_add]

/-- An operation is counted once more where it fails. -/
theorem countP_errors :
    (callMeasurements op'.name (c.tableName op'.entity) result).countP
        (·.key == seriesKey MetricName.errors (callLabels op.name table)) =
      if isUnder c op.name table op' && !result.isOk then 1 else 0 := by
  -- the key of a call is not that of an error
  have hcalls : ((callCounted MetricName.storageCalls op'.name (c.tableName op'.entity)).key ==
      seriesKey MetricName.errors (callLabels op.name table)) = false :=
    beq_false_of_ne (seriesKey_errors_ne _ _ _ _).symm
  -- a call is counted once in any case, and only a failure is counted as an error
  cases result with
  | ok _ =>
    rw [callMeasurements, List.countP_singleton, hcalls]
    simp [Except.isOk, Except.toBool]
  | error thrown =>
    rw [callMeasurements, List.countP_cons, List.countP_singleton, key_callCounted, hcalls,
      if_neg Bool.false_ne_true, Nat.add_zero]
    simp [Except.isOk, Except.toBool]

end

/-- **Storage accounting.** After any operations over any answers, the counters of each operation
and table are the numbers of the operations that were started under them and of those that failed;
each of these has one line, in order; and each ends as it would if nobody observed it. What it fails
with is an answer of the store, or its own report of what was left undone. -/
theorem storage_accounting (hobservers : c.observers = { logger := .recorder, metrics := true })
    (hscript : ∀ thrown, .error thrown ∈ script → thrown.IsError) (ops : List Operation) :
    let done := (Run.each (ops.map (·.run c))).run { script }
    let results := done.1
    let journal := done.2.journal
    let started := startedOf ops results
    let collector := Collector.addAll {} (measurements journal)
    results.length = ops.length ∧
      (∀ (op : Operation) (table : String),
        collector.counter MetricName.storageCalls (callLabels op.name table) =
            Decimal.tally (started.countP fun (op', _) => isUnder c op.name table op') ∧
          collector.counter MetricName.errors (callLabels op.name table) =
            Decimal.tally (started.countP fun (op', result) =>
              isUnder c op.name table op' && !result.isOk)) ∧
      (logEntries journal = started.map fun (op, result) =>
        callEntry op.name (c.tableName op.entity) op.entity.name result) ∧
      results = ((Run.each (ops.map (·.bare c))).run { script }).1 ∧
      ∀ op thrown, (op, .error thrown) ∈ started →
        .error thrown ∈ script ∨ op.Raises c thrown := by
  obtain ⟨rest, events, events', results, hbares, hruns, hlength, hmeasured, hlogged, hfailures⟩ :=
    runs_do hobservers hscript ops
  -- every measurement adds one to a counter
  have hincrements : ∀ m ∈ measurements events', m.IsIncrement := by
    rw [hmeasured]
    intro m hm
    obtain ⟨⟨op, result⟩, -, hm⟩ := List.mem_flatMap.mp hm
    exact callMeasurements_isIncrement m hm
  rw [hruns { script } rfl, hbares { script } rfl]
  -- a new collector has counted nothing
  have hcounter : ∀ (name : String) (labels : Option Labels),
      (Collector.addAll {} (measurements events')).counter name labels =
        Decimal.tally ((measurements events').countP (·.key == seriesKey name labels)) := by
    intro name labels
    have hcounted := @Collector.counter_addAll name labels _ hincrements {} 0 rfl
    rwa [Nat.zero_add] at hcounted
  refine ⟨hlength, fun op table => ⟨?_, ?_⟩, hlogged, rfl, hfailures⟩
  · rw [List.nil_append, hcounter, hmeasured]
    -- one call adds one to the counter of its own name and table
    exact congrArg Decimal.tally (countP_flatMap_of_indicator
      (fun entry => countP_storageCalls c op entry.1 table entry.2) _)
  · rw [List.nil_append, hcounter, hmeasured]
    exact congrArg Decimal.tally (countP_flatMap_of_indicator
      (fun entry => countP_errors c op entry.1 table entry.2) _)

/-- Orders in a table whose name every table of overrides carries. -/
def inheritedOrders : Entity :=
  { schema := { Entity.orders.schema with tableName := "constructor" }, sound := by decide }

/-- A load, a batch delete of an order without its sort key, a load that fails, a scan that counts
two pages, and a load from a table whose physical name is no text. The batch delete is neither
counted nor logged, and the last load is counted under the text that its table shows. -/
theorem storage_accounting_orders :
    let c : ConfiguredStore :=
      { config := { tableOverrides := some [] }
        observers := { logger := .recorder, metrics := true } }
    let key : Key := { partitionKey := .text "c-1", sortKey := .text "o-1" }
    let load := Operation.load .orders key none
    let ops := [load, .batchDelete .orders [[("customerId", .text "c-1")]], load,
      .count .orders (.scan {}), .load inheritedOrders key none]
    let script := [.ok {}, .error (.fault "TimeoutError" "timed out"),
      .ok { count := some 2, lastKey := .record [("orderId", .text "o-2")] },
      .ok { count := some 1 }, .ok {}]
    let done := (Run.each (ops.map (·.run c))).run { script }
    let collector := Collector.addAll {} (measurements done.2.journal)
    done.1.map Except.isOk = [true, false, false, true, true] ∧
      collector.counter MetricName.storageCalls (callLabels "GetItem" "Orders") = 2 ∧
      collector.counter MetricName.errors (callLabels "GetItem" "Orders") = 1 ∧
      collector.counter MetricName.storageCalls (callLabels "BatchWriteItem" "Orders") = 0 ∧
      collector.counter MetricName.storageCalls (callLabels "GetItem" "constructor") = 0 ∧
      collector.counter MetricName.storageCalls
        (callLabels "GetItem" "function Object() \x7b [native code] \x7d") = 1 ∧
      (logEntries done.2.journal).map (·.message) =
        ["GetItem succeeded", "GetItem failed", "ScanCount succeeded", "GetItem succeeded"] := by
  intro c key load ops script
  -- the only failure of the script is an error of the client
  have hscript : ∀ thrown, .error thrown ∈ script → thrown.IsError := by
    intro thrown hthrown
    simp only [script, List.mem_cons, List.not_mem_nil, or_false, reduceCtorEq, false_or,
      Except.error.injEq] at hthrown
    rw [hthrown]
    trivial
  obtain ⟨-, hcounters, hlogged, hresults, -⟩ := storage_accounting (c := c) rfl hscript ops
  -- the results are those of the calls without observers
  have hgiven : ((Run.each (ops.map (·.bare c))).run { script }).1 =
      [.ok (), .error (.error { cause := .itemWithoutKey "Order" "orderId" }),
        .error (.fault "TimeoutError" "timed out"), .ok (), .ok ()] := rfl
  rw [hresults, hgiven] at hcounters hlogged
  obtain ⟨hcalls, herrors⟩ := hcounters load "Orders"
  refine ⟨?_, hcalls.trans ?_, herrors.trans ?_,
    (hcounters (.batchDelete .orders []) "Orders").1.trans ?_,
    (hcounters load "constructor").1.trans ?_, (hcounters load _).1.trans ?_, ?_⟩
  · rw [hresults, hgiven]
    rfl
  · decide
  · decide
  · decide
  · decide
  · decide
  · rw [hlogged]
    rfl

end Operation

end NamedQuery
