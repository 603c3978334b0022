import NamedQuery.Proofs.Method.Calls
import NamedQuery.Proofs.Run.Journal
import NamedQuery.Store.Configured

/-!
# What a configured store may send

A configured store sends the commands of its operations and nothing else, whatever the answers are:
counting, logging and failing send nothing. So if some commands are the only ones that an operation
has, no run of it sends another one.

* `Run.Sends` — a run that sends only commands which it may send;
* one rule for each operation of a configured store;
* `Method.Reads.configured` — the reads of a method, where the commands of its requests may be sent.
-/

namespace NamedQuery

/-- An entry is no command, or one that may be sent. -/
def Event.Sends (may : Command → Prop) : Event → Prop
  | .command sent => may sent
  | _ => True

/-- A run that sends only what it may send, whatever the answers are. -/
def Run.Sends {α : Type} (may : Command → Prop) (x : Run Reply α) : Prop :=
  Run.Ensures (fun _ => True) (Event.Sends may) x fun _ => True

variable {may : Command → Prop}

theorem Run.Sends.bind {α β : Type} {x : Run Reply α} {f : α → Run Reply β} (hx : Run.Sends may x)
    (hf : ∀ a, Run.Sends may (f a)) : Run.Sends may (x >>= f) :=
  Run.Ensures.bind hx fun a _ => hf a

theorem Run.Sends.pure {α : Type} {a : α} : Run.Sends may (Pure.pure a : Run Reply α) :=
  Run.Ensures.pure trivial

/-- Nothing is asked of the entries of a run that may send anything. -/
theorem Run.Sends.any {α : Type} {x : Run Reply α} (h : Run.Sends (fun _ => True) x) :
    Run.Ensures (fun _ => True) (fun _ => True) x fun _ => True :=
  Ensures.allow h fun _ _ => trivial

namespace Client

theorem send_sends {command : Command} (h : may command) : Run.Sends may (send command) := by
  have hrecord : Run.Sends may (Run.record (.command command)) := .record h
  exact hrecord.bind fun _ => .mono (.answer trivial) fun _ _ => trivial

/-- Every page is counted by the same command. -/
theorem countFrom_sends {command : Value → Command} (h : ∀ start, may (command start)) (fuel : Nat)
    (start : Value) (total : Float) : Run.Sends may (countFrom command fuel start total) := by
  -- each page sends one command, and the fuel bounds how many there are
  induction fuel generalizing start total with
  | zero => exact .pure
  | succ fuel ih =>
    unfold countFrom
    refine (send_sends (h start)).bind fun reply => ?_
    cases nextStart? reply.lastKey with
    | some next => exact ih next _
    | none => exact .pure

theorem countAll_sends {table : TableName} {r : PagedRequest}
    (h : ∀ start, may (countCommand table r start)) : Run.Sends may (countAll table r) := by
  have hfuel : Run.Sends may (ExceptT.lift Run.fuel) := by
    intro s hs
    exact ⟨[], (List.append_nil _).symm, by simp, hs, fun _ _ => trivial⟩
  exact hfuel.bind fun fuel => countFrom_sends h fuel _ _

theorem sendBatches_sends {table : TableName} (h : ∀ keys, may (.batchWrite table keys))
    (batches : List (List Item)) : Run.Sends may (sendBatches table batches) := by
  induction batches with
  | nil => exact .pure
  | cons keys batches ih =>
    exact (send_sends (h keys)).bind fun _ => ih.bind fun _ => .pure

theorem batchDelete_sends {table : TableName} (h : ∀ keys, may (.batchWrite table keys))
    (keys : List Item) : Run.Sends may (batchDelete table keys) := by
  refine (sendBatches_sends h _).bind fun undone => ?_
  show Run.Sends may (if _ then _ else _)
  split
  · exact .throw
  · exact .pure

end Client

namespace ConfiguredStore

variable (c : ConfiguredStore) {e : Entity}

/-- Reporting a failure sends nothing. -/
theorem report_sends {α : Type} (operation : String) (table : TableName) (thrown : Thrown)
    (count : OperationCount) :
    Run.Sends may (do
      c.observers.countOperation count
      c.observers.log (← Run.ofState (pure (failureEntry operation table thrown)))
      throw thrown : Run Reply α) := by
  have hcount : Run.Sends may (c.observers.countOperation count) := .countOperation trivial
  have hentry : Run.Sends may (Run.ofState (pure (failureEntry operation table thrown))) :=
    .ofState (.pure fun _ _ => trivial)
  have hlog : ∀ entry, Run.Sends may (c.observers.log entry) := fun _ => .log trivial trivial
  exact hcount.bind fun _ => hentry.bind fun entry => (hlog entry).bind fun _ => .throw

/-- Observing an operation sends nothing besides. -/
theorem observed_sends {α : Type} {operation : String} {call : TableName → Run Reply α}
    (h : Run.Sends may (call (c.tableName e))) : Run.Sends may (c.observed operation e call) := by
  -- counting and logging send nothing
  have hcount : ∀ count, Run.Sends may (c.observers.countOperation count) :=
    fun _ => .countOperation trivial
  have hlog : ∀ entry, Run.Sends may (c.observers.log entry) := fun _ => .log trivial trivial
  refine (hcount _).bind fun _ => Run.Ensures.tryCatch ?_ fun thrown => ?_
  · exact h.bind fun _ => (hlog _).bind fun _ => .pure
  · exact c.report_sends operation (c.tableName e) thrown _

theorem load_sends {key : Key} {consistency : Option Consistency}
    (h : ∀ flag, may (.get (c.tableName e) (e.keyMap key) flag)) :
    Run.Sends may (c.operations.load e key consistency) := by
  show Run.Sends may (c.observed "GetItem" e fun table => do
    let item ← Client.getItem table (e.keyMap key) (consistency.getD .default).flag?
    pure (item.map e.ofStored))
  refine c.observed_sends ?_
  refine Run.Sends.bind ?_ fun _ => .pure
  exact (Client.send_sends (h _)).bind fun _ => .pure

theorem query_sends {r : QueryRequest} {start : Value}
    (h : may (Client.pageCommand (c.tableName e) (.query r) start)) :
    Run.Sends may (c.operations.query e r start) := by
  show Run.Sends may (c.observed "Query" e fun table => do
    pure (ofStoredPage e (← Client.queryPage table r start)))
  refine c.observed_sends ?_
  refine Run.Sends.bind ?_ fun _ => .pure
  exact (Client.send_sends h).bind fun _ => .pure

theorem scan_sends {r : ScanRequest} {start : Value}
    (h : may (Client.pageCommand (c.tableName e) (.scan r) start)) :
    Run.Sends may (c.operations.scan e r start) := by
  show Run.Sends may (c.observed "Scan" e fun table => do
    pure (ofStoredPage e (← Client.scanPage table r start)))
  refine c.observed_sends ?_
  refine Run.Sends.bind ?_ fun _ => .pure
  exact (Client.send_sends h).bind fun _ => .pure

theorem count_sends {r : PagedRequest}
    (h : ∀ start, may (Client.countCommand (c.tableName e) r start)) :
    Run.Sends may (c.operations.count e r) := by
  show Run.Sends may (c.observed _ e fun table => Client.countAll table r)
  exact c.observed_sends (Client.countAll_sends h)

theorem save_sends {item : Item} (h : may (.put (c.tableName e) (e.toStored item))) :
    Run.Sends may (c.operations.save e item) := by
  show Run.Sends may (c.observed "PutItem" e fun table => do
    Client.putItem table (e.toStored item)
    pure item)
  refine c.observed_sends ?_
  refine Run.Sends.bind ?_ fun _ => .pure
  exact (Client.send_sends h).bind fun _ => .pure

theorem delete_sends {key : Key} (h : may (.delete (c.tableName e) (e.keyMap key))) :
    Run.Sends may (c.operations.delete e key) := by
  show Run.Sends may (c.observed "DeleteItem" e fun table => do
    let item ← Client.deleteItem table (e.keyMap key)
    pure (item.map e.ofStored))
  refine c.observed_sends ?_
  refine Run.Sends.bind ?_ fun _ => .pure
  exact (Client.send_sends h).bind fun _ => .pure

theorem batchDelete_sends {items : List Item}
    (h : ∀ keys, may (.batchWrite (c.tableName e) keys)) :
    Run.Sends may (c.operations.batchDelete e items) := by
  have hkeys : Run.Sends may (Run.ofExcept (items.mapM e.keyOf)) := .ofExcept fun _ _ => trivial
  refine hkeys.bind fun keys => ?_
  show Run.Sends may (c.observed "BatchWriteItem" e fun table =>
    Client.batchDelete table (keys.map e.keyMap))
  exact c.observed_sends (Client.batchDelete_sends h _)

end ConfiguredStore

/-- **The reads of a method over a configured store.** The commands for its requests may be sent:
the ones that read pages, or count them, as the shape of the call needs. -/
theorem Method.Reads.configured (c : ConfiguredStore) {ctx : Context Reply}
    (hstore : ctx.store = c.operations) {m : Method} {args : List Value} {shape : ResultShape}
    (hget : ∀ key flag, may (.get (c.tableName m.entity) key flag))
    (hpage : shape ≠ .count → ∀ r, Request.paged m.entity m.options m.path args = .ok r →
      ∀ start, may (Client.pageCommand (c.tableName m.entity) r start))
    (hcount : shape = .count → ∀ r, Request.paged m.entity m.options m.path args = .ok r →
      ∀ start, may (Client.countCommand (c.tableName m.entity) r start))
    (hbatch : ∀ keys, may (.batchWrite (c.tableName m.entity) keys)) :
    m.Reads (fun _ => True) (Event.Sends may) (fun _ => True) (fun _ => True) ctx args shape where
  measure _ := True.intro
  load _ r _ := by
    -- the store of the context is the configured one, so what it sends is known
    rw [hstore]
    exact (c.load_sends fun flag => hget _ flag).mono fun _ _ _ _ => True.intro
  loaded _ _ _ := True.intro
  query hshape _ r hr start := by
    rw [hstore]
    exact (c.query_sends (hpage hshape _ hr start)).mono fun _ _ _ _ => True.intro
  scan hshape _ r hr start := by
    rw [hstore]
    exact (c.scan_sends (hpage hshape _ hr start)).mono fun _ _ _ _ => True.intro
  count hshape _ r hr := by
    rw [hstore]
    exact c.count_sends (hcount hshape r hr)
  batchDelete items _ := by
    rw [hstore]
    exact c.batchDelete_sends hbatch

end NamedQuery
