import NamedQuery.Proofs.Run.Script
import NamedQuery.Proofs.Store.Batches
import NamedQuery.Store.Configured

/-!
# What a configured store sends

Every operation of a configured store is observed: it is counted, and a log entry is written when it
has succeeded or failed. None of that shows among the commands, and none of it can fail, except that
a failure may be a value which cannot be shown. The failure to show it is passed on then
(`Thrown.logged`).

* `ConfiguredStore.observed_leads` — an observed operation sends what the operation sends;
* `ConfiguredStore.load_leads`, `query_leads`, `scan_leads`, `save_leads` — the operations of one
  command;
* `ConfiguredStore.batchDelete_leads` — a batch delete, which sends every key;
* `ReadView.commands` — how the reads of a configured store are seen.
-/

namespace NamedQuery

/-- A map that is left out is empty. -/
theorem Client.getD_nonEmpty? {α : Type} (map : Fields α) : (nonEmpty? map).getD [] = map := by
  unfold nonEmpty?
  split
  · next hempty => rw [List.isEmpty_iff.mp hempty, Option.getD_none]
  · rfl

/-- What a failure is passed on as, once it has been logged. -/
def Thrown.logged : Thrown → Thrown
  | .value v => (v.unshown?.map Value.Unshown.thrown).getD (.value v)
  | thrown => thrown

/-- The name of a table is no integer, so it can be written. -/
@[simp]
theorem TableName.holdsInteger_toValue (table : TableName) :
    table.toValue.holdsInteger = false := by
  cases table with
  | text name => rfl
  | inherited name carried =>
    simp only [toValue, Value.inherited]
    split_ifs <;> rfl

/-- An entry about a table can be written if the rest of it can. -/
theorem isWritable_of_table {level : LogLevel} {message : String} {table : TableName}
    {fields : Fields Value} (h : Value.fieldsHoldInteger fields = false) :
    ({ level, message, context := .record (("tableName", table.toValue) :: fields) } :
      LogEntry).isWritable = true := by
  simp [LogEntry.isWritable, Value.holdsInteger, Value.fieldsHoldInteger, h]

/-- A failure either has a log entry, and the entry can be written, or it cannot be shown. -/
theorem failureEntry_cases (operation : String) (table : TableName) (thrown : Thrown) :
    (∃ entry, failureEntry operation table thrown = .ok entry ∧ entry.isWritable = true ∧
        thrown.logged = thrown) ∨
      failureEntry operation table thrown = .error thrown.logged := by
  -- only a value that is thrown may be impossible to show
  cases thrown with
  | error e => exact Or.inl ⟨_, rfl, isWritable_of_table rfl, rfl⟩
  | fault name message => exact Or.inl ⟨_, rfl, isWritable_of_table rfl, rfl⟩
  | value v =>
    simp only [failureEntry, Thrown.logged]
    cases v.unshown? with
    | none => exact Or.inl ⟨_, rfl, isWritable_of_table rfl, rfl⟩
    | some cause => exact Or.inr rfl

/-! ### Batches -/

namespace Client

variable {script : List (Except Thrown Reply)}

/-- A command that is sent takes an answer. -/
theorem send_leads (command : Command) :
    Run.Leads .commands (send command) script script.tail [command] (answerAt {} script 0) :=
  Run.Leads.bind (.record rfl) (.answer _)

/-- The keys that a command deletes in a batch. -/
def batchedKeys : Command → List Item
  | .batchWrite _ keys => keys
  | _ => []

/-- **Batches are sent in order**, all of them unless the answer to one is a failure. -/
theorem sendBatches_leads (table : TableName) (batches : List (List Item))
    (script : List (Except Thrown Reply)) :
    ∃ rest sent result,
      Run.Leads .commands (sendBatches table batches) script rest sent result ∧
      ((∃ undone, result = .ok undone ∧ sent.flatMap batchedKeys = batches.flatten) ∨
        ∃ thrown, result = .error thrown ∧ .error thrown ∈ script) := by
  rcases answered_or_fails script batches.length with
    ⟨replies, hlength, h⟩ | ⟨replies, thrown, hlength, h, hthrown⟩
  · -- every batch was replied to, so all keys were sent
    have hsent : Run.Leads .commands (sendBatches table batches) script _ _ _ :=
      (sendBatches_does hlength h).leads .commands
    rw [shows_sent] at hsent
    refine ⟨_, _, _, hsent, Or.inl ⟨_, rfl, ?_⟩⟩
    rw [List.flatMap_map, List.flatMap_def]
    exact congrArg List.flatten (List.map_id batches)
  · -- a batch has failed with an answer of the script
    exact ⟨_, _, _, (sendBatches_fails hlength h hthrown).leads .commands,
      Or.inr ⟨thrown, rfl, mem_of_answerAt_error hthrown⟩⟩

/-- **A batch delete** sends every key, unless the answer to a batch is a failure. What the store
leaves undone is reported at the end. -/
theorem batchDelete_leads (table : TableName) (keys : List Item)
    (script : List (Except Thrown Reply)) :
    ∃ rest sent result,
      Run.Leads .commands (batchDelete table keys) script rest sent result ∧
      (sent.flatMap batchedKeys = keys ∧ ((∃ deleted, result = .ok deleted) ∨
          ∃ undone, result = .error (.error { cause := .unprocessedDeletes table undone })) ∨
        ∃ thrown, result = .error thrown ∧ .error thrown ∈ script) := by
  obtain ⟨rest, sent, result, hsend, hsent⟩ :=
    sendBatches_leads table (chunksOf batchLimit keys) script
  -- the batches hold the keys in their order
  rw [(chunksOf_cutsInto (by decide) keys).flatten] at hsent
  unfold batchDelete
  rcases hsent with ⟨undone, rfl, hkeys⟩ | ⟨thrown, rfl, hthrown⟩
  · -- all batches were sent, and whether keys were left undone decides the result
    by_cases hundone : 0 < undone
    · refine ⟨rest, sent, _, hsend.bind_hidden ?_, Or.inl ⟨hkeys, Or.inr ⟨undone, rfl⟩⟩⟩
      rw [if_pos hundone]
      exact .throw
    · let deleted : BatchDeleted :=
        { processed := keys.length, batches := (chunksOf batchLimit keys).length }
      refine ⟨rest, sent, .ok deleted, hsend.bind_hidden ?_,
        Or.inl ⟨hkeys, Or.inl ⟨deleted, rfl⟩⟩⟩
      rw [if_neg hundone]
      exact .pure
  · exact ⟨rest, sent, _, hsend.bind_error, Or.inr ⟨thrown, rfl, hthrown⟩⟩

theorem getItem_leads (table : TableName) (key : Item) (consistent : Option Bool) :
    Run.Leads .commands (getItem table key consistent) script script.tail
      [.get table key consistent] ((answerAt {} script 0).map Reply.item) :=
  (send_leads _).bind_pure fun _ => .pure

theorem putItem_leads (table : TableName) (item : Item) :
    Run.Leads .commands (putItem table item) script script.tail [.put table item]
      ((answerAt {} script 0).map fun _ => ()) :=
  (send_leads _).bind_pure fun _ => .pure

theorem queryPage_leads (table : TableName) (r : QueryRequest) (start : Value) :
    Run.Leads .commands (queryPage table r start) script script.tail
      [pageCommand table (.query r) start] ((answerAt {} script 0).map Reply.page) :=
  (send_leads _).bind_pure fun _ => .pure

theorem scanPage_leads (table : TableName) (r : ScanRequest) (start : Value) :
    Run.Leads .commands (scanPage table r start) script script.tail
      [pageCommand table (.scan r) start] ((answerAt {} script 0).map Reply.page) :=
  (send_leads _).bind_pure fun _ => .pure

end Client

namespace ConfiguredStore

variable {c : ConfiguredStore} {script rest : List (Except Thrown Reply)}

/-- **Observing an operation** changes neither what it sends nor what it gives. -/
theorem observed_leads {α γ : Type} {view : JournalView γ} {operation : String} {e : Entity}
    {call : TableName → Run Reply α} {shown : List γ} {result : Except Thrown α}
    (h : Run.Leads view (call (c.tableName e)) script rest shown result) :
    Run.Leads view (c.observed operation e call) script rest shown
      (result.mapError Thrown.logged) := by
  unfold observed
  refine Run.Leads.bind_silent (.countOperation _ _) ?_
  cases result with
  | ok a =>
    -- the call succeeds, and its line can be written
    refine Run.Leads.tryCatch_ok (h.bind_hidden ?_)
    exact Run.Leads.bind_silent (.log _ (isWritable_of_table rfl)) .pure
  | error thrown =>
    -- the call fails, and the failure may be of a kind that has no entry
    refine Run.Leads.tryCatch_error h.bind_error ?_
    refine Run.Leads.bind_silent (.countOperation _ _) ?_
    show Run.Leads view _ rest rest [] (.error thrown.logged)
    rcases failureEntry_cases operation (c.tableName e) thrown with
      ⟨entry, hentry, hwritable, hlogged⟩ | hfailed
    · rw [hentry]
      refine Run.Leads.bind_silent (.ofState .pure) ?_
      rw [hlogged]
      exact Run.Leads.bind_silent (.log _ hwritable) .throw
    · rw [hfailed]
      exact Run.Leads.bind_error (.ofState .pure)

variable (c) (e : Entity) (script)

theorem load_leads (key : Key) (consistency : Option Consistency) :
    Run.Leads .commands (c.operations.load e key consistency) script script.tail
      [.get (c.tableName e) (e.keyMap key) (consistency.getD .default).flag?]
      ((((answerAt {} script 0).map Reply.item).map (Option.map e.ofStored)).mapError
        Thrown.logged) := by
  show Run.Leads .commands (c.observed "GetItem" e fun table => do
    let item ← Client.getItem table (e.keyMap key) (consistency.getD .default).flag?
    pure (item.map e.ofStored)) _ _ _ _
  refine observed_leads ?_
  refine (Client.getItem_leads _ _ _).bind_pure ?_
  exact fun _ => .pure

theorem query_leads (request : QueryRequest) (start : Value) :
    Run.Leads .commands (c.operations.query e request start) script script.tail
      [Client.pageCommand (c.tableName e) (.query request) start]
      ((((answerAt {} script 0).map Reply.page).map (ofStoredPage e)).mapError Thrown.logged) := by
  show Run.Leads .commands (c.observed "Query" e fun table => do
    pure (ofStoredPage e (← Client.queryPage table request start))) _ _ _ _
  refine observed_leads ?_
  refine (Client.queryPage_leads _ _ _).bind_pure ?_
  exact fun _ => .pure

theorem scan_leads (request : ScanRequest) (start : Value) :
    Run.Leads .commands (c.operations.scan e request start) script script.tail
      [Client.pageCommand (c.tableName e) (.scan request) start]
      ((((answerAt {} script 0).map Reply.page).map (ofStoredPage e)).mapError Thrown.logged) := by
  show Run.Leads .commands (c.observed "Scan" e fun table => do
    pure (ofStoredPage e (← Client.scanPage table request start))) _ _ _ _
  refine observed_leads ?_
  refine (Client.scanPage_leads _ _ _).bind_pure ?_
  exact fun _ => .pure

/-- An item without a key is refused before anything is sent. -/
theorem batchDelete_refused {items : List Item} {error : Error}
    (h : items.mapM e.keyOf = .error error) :
    Run.Leads .commands (c.operations.batchDelete e items) script script []
      (.error (.error error)) := by
  show Run.Leads .commands (Run.ofExcept (items.mapM e.keyOf) >>= fun keys =>
    c.observed "BatchWriteItem" e fun table => Client.batchDelete table (keys.map e.keyMap)) _ _ _ _
  rw [h]
  exact Run.Leads.bind_error .throw

/-- **A batch delete of items with keys** sends the key map of every key, unless the answer to a
batch is a failure. -/
theorem batchDelete_leads {items : List Item} {keys : List Key}
    (h : items.mapM e.keyOf = .ok keys) :
    ∃ rest sent result,
      Run.Leads .commands (c.operations.batchDelete e items) script rest sent result ∧
      (sent.flatMap Client.batchedKeys = keys.map e.keyMap ∧ ((∃ deleted, result = .ok deleted) ∨
          ∃ undone, result = .error (.error
            { cause := .unprocessedDeletes (c.tableName e) undone })) ∨
        ∃ thrown, result = .error thrown.logged ∧ .error thrown ∈ script) := by
  obtain ⟨rest, sent, result, hsend, hsent⟩ :=
    Client.batchDelete_leads (c.tableName e) (keys.map e.keyMap) script
  -- all items have keys, so the delete is that of the client with the observers around it
  have hdelete : Run.Leads .commands (c.operations.batchDelete e items) script rest sent
      (result.mapError Thrown.logged) := by
    show Run.Leads .commands (Run.ofExcept (items.mapM e.keyOf) >>= fun keys =>
      c.observed "BatchWriteItem" e fun table => Client.batchDelete table (keys.map e.keyMap))
      _ _ _ _
    rw [h]
    refine Run.Leads.bind_silent .pure ?_
    exact observed_leads hsend
  refine ⟨rest, sent, _, hdelete, ?_⟩
  rcases hsent with ⟨hkeys, ⟨deleted, rfl⟩ | ⟨undone, rfl⟩⟩ | ⟨thrown, rfl, hthrown⟩
  · exact Or.inl ⟨hkeys, Or.inl ⟨deleted, rfl⟩⟩
  · exact Or.inl ⟨hkeys, Or.inr ⟨undone, rfl⟩⟩
  · exact Or.inr ⟨thrown, rfl, hthrown⟩

theorem save_leads (item : Item) :
    Run.Leads .commands (c.operations.save e item) script script.tail
      [.put (c.tableName e) (e.toStored item)]
      ((((answerAt {} script 0).map fun _ => ()).map fun _ => item).mapError Thrown.logged) := by
  show Run.Leads .commands (c.observed "PutItem" e fun table => do
    Client.putItem table (e.toStored item)
    pure item) _ _ _ _
  refine observed_leads ?_
  refine (Client.putItem_leads _ _).bind_pure ?_
  exact fun _ => .pure

end ConfiguredStore

/-- The commands of a configured store. -/
def ReadView.commands (c : ConfiguredStore) (e : Entity) : ReadView Reply Command where
  view := .commands
  default := {}
  load r := .get (c.tableName e) (e.keyMap r.key) r.consistency.flag?
  item answer := ((answer.map Reply.item).map (Option.map e.ofStored)).mapError Thrown.logged
  page r start := Client.pageCommand (c.tableName e) r start
  items answer :=
    ((answer.map Reply.page).map (ConfiguredStore.ofStoredPage e)).mapError Thrown.logged

theorem ReadView.commands_fits (c : ConfiguredStore) (e : Entity) :
    (ReadView.commands c e).Fits c.operations e where
  load r script := c.load_leads script e r.key (some r.consistency)
  query r start script := c.query_leads script e r start
  scan r start script := c.scan_leads script e r start
  last page hpage := by
    obtain rfl : ConfiguredStore.ofStoredPage e {} = page := Except.ok.inj hpage
    rfl

end NamedQuery
