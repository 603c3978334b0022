import NamedQuery.Store
import NamedQuery.Store.Client

/-!
# Configured stores

A configured store carries out the operations of a store by commands.

* `ConfiguredStore.tableName` — the physical name of an entity's table;
* `Entity.toStored`, `Entity.ofStored` — an item under the names its properties are stored under,
  and back;
* `ConfiguredStore.observed` — counts and logs an operation. A failure is logged and passed on as
  it is;
* `ConfiguredStore.operations` — the operations.
-/

namespace NamedQuery

/-- A store whose tables are named by a configuration. -/
structure ConfiguredStore where
  config : Config := {}
  observers : Observers := {}

/-- The console logger of a configuration. -/
def Config.consoleLogger (c : Config) : Logger :=
  .console (.ofName (c.logLevel.getD LogLevel.info.name))

/-- The key attributes of a key: the sort key only where the table has one and a value is there. The
name `__proto__` is reserved, and a sort key of that name is left out unless it is the name of the
partition key as well. -/
def keyMap (key : Key) (partitionName : String) (sortName : Option String) : Item :=
  let partition : Item := [(partitionName, key.partitionKey)]
  match sortName with
  | none | some "" => partition
  | some sortName =>
    -- A null sort key is a value, so only an absent one is left out.
    if key.sortKey.isAbsent || (sortName == "__proto__" && partitionName != sortName) then partition
    else Fields.insert partition sortName key.sortKey

namespace Entity

variable (e : Entity)

/-- The key attributes of a key, under the names they are stored under. -/
def keyMap (key : Key) : Item :=
  NamedQuery.keyMap key (e.attributeName e.partitionKey) (e.sortKey?.map e.attributeName)

/-- The value that an item has for a key property. -/
def keyPart (item : Item) (property : String) : Except Error Value :=
  let v := (Value.record item).field property
  if v.isMissing then .error { cause := .itemWithoutKey e.name property } else .ok v

/-- The key of an item. -/
def keyOf (item : Item) : Except Error Key := do
  let partitionKey ← e.keyPart item e.partitionKey
  match e.sortKey? with
  | none => pure { partitionKey := partitionKey }
  | some property =>
    let sortKey ← e.keyPart item property
    pure { partitionKey := partitionKey, sortKey }

/-- An item under the names its properties are stored under. -/
def toStored (item : Item) : Item :=
  if e.overrides.isEmpty then item
  else Fields.ofList (item.map fun (property, v) => (e.attributeName property, v))

/-- The property that is stored under a name. -/
def propertyOf (stored : String) : String :=
  -- Of several properties under one name the last declared one counts.
  let entry := e.overrides.reverse.find? fun entry => entry.2 == stored
  (entry.map Prod.fst).getD stored

/-- A stored item under the names of its properties. -/
def ofStored (item : Item) : Item :=
  if e.overrides.isEmpty then item
  else Fields.ofList (item.map fun (stored, v) => (e.propertyOf stored, v))

end Entity

namespace ConfiguredStore

variable (s : ConfiguredStore)

/-- The physical table name of an entity. -/
def tableName (e : Entity) : TableName :=
  s.config.tableName e.tableName

/-- Counts and logs an operation on an entity's table. -/
def observed {α : Type} (operation : String) (e : Entity)
    (call : (table : TableName) → Run Reply α) : Run Reply α := do
  let table := s.tableName e
  s.observers.countOperation { metric := MetricName.storageCalls, operation, table }
  tryCatch
    (do
      let result ← call table
      s.observers.log
        { level := .debug, message := operation ++ " succeeded"
          context := .record [("tableName", table.toValue), ("entity", .text e.name)] }
      pure result)
    (fun thrown => do
      s.observers.countOperation { metric := MetricName.errors, operation, table }
      s.observers.log (← Run.ofState (pure (failureEntry operation table thrown)))
      throw thrown)

/-- A page under the names of its properties. -/
def ofStoredPage (e : Entity) (page : Page) : Page :=
  { page with items := page.items.map e.ofStored }

/-- The operations of a configured store. -/
def operations : Store Reply where
  load e key consistency :=
    s.observed "GetItem" e fun table => do
      let item ← Client.getItem table (e.keyMap key) (consistency.getD .default).flag?
      pure (item.map e.ofStored)
  query e request start :=
    s.observed "Query" e fun table => do
      pure (ofStoredPage e (← Client.queryPage table request start))
  scan e request start :=
    s.observed "Scan" e fun table => do
      pure (ofStoredPage e (← Client.scanPage table request start))
  count e request :=
    s.observed (if request.isQuery then "QueryCount" else "ScanCount") e fun table =>
      Client.countAll table request
  save e item :=
    s.observed "PutItem" e fun table => do
      Client.putItem table (e.toStored item)
      pure item
  delete e key :=
    s.observed "DeleteItem" e fun table => do
      let item ← Client.deleteItem table (e.keyMap key)
      pure (item.map e.ofStored)
  batchDelete e items := do
    -- An item without a key is refused before anything is sent or counted.
    let keys ← Run.ofExcept (items.mapM e.keyOf)
    s.observed "BatchWriteItem" e fun table => Client.batchDelete table (keys.map e.keyMap)

end ConfiguredStore

end NamedQuery
