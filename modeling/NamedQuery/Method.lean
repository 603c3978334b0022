import NamedQuery.Method.Declaration
import NamedQuery.Paging
import NamedQuery.Store

/-!
# Query methods

A query method is derived once: its name is read and bound, its declaration checked and its access
path chosen, so that a misdeclared method fails early. A call then binds its arguments, builds the
request and adapts what the store answers to the shape of the result.

* `Method` — a derived method, and `Method.derive`, which derives it;
* `Method.one`, `Method.many`, `Method.stream`, `Method.count`, `Method.exists`, `Method.delete` —
  the calls, one per shape. A call of another shape than the declared one is refused;
* `Method.call` — a call in the declared shape.
-/

namespace NamedQuery

/-- A query method of an entity. -/
structure Method where
  entity : Entity
  query : Query
  path : AccessPath
  shape : ResultShape
  options : RequestOptions

/-- The permissions to scan that hold where a declaration gives none. -/
structure ScanDefaults where
  enableScan : Option Bool := none
  enableScanCount : Option Bool := none
deriving DecidableEq, Repr

/-- What a call works with: the store, and where log entries and measurements go. -/
structure Context (ρ : Type) where
  store : Store ρ
  observers : Observers := {}

/-- What a call hands back. -/
inductive Outcome (ρ : Type) where
  | one (item : Option Item)
  | many (items : List Item)
  | stream (items : ItemStream ρ Item)
  | count (n : Float)
  | exists (found : Bool)
  | delete (items : List Item)

namespace Method

/-- Derives a method from its name and declaration. -/
def derive (e : Entity) (name : String) (d : Declaration) (defaults : ScanDefaults) :
    Except Error Method := do
  let query ← Query.bind e (← MethodName.parse name)
  -- A declaration is judged before the path, so a fault in it shows even where a scan is refused.
  let shape ← (d.check e query).mapError (Cause.of · name)
  let path ← AccessPath.resolve e (d.policy defaults.enableScan defaults.enableScanCount) query
  pure { entity := e, query, path, shape, options := d.options }

/-- The name of the method. -/
def name (m : Method) : String := m.query.method

/-- The log entry about the derivation of the method. -/
def derivedEntry (m : Method) : LogEntry :=
  let properties (cs : List Criterion) : Value := .ofList (cs.map fun c => .text c.property)
  { level := .debug, message := "Resolved derived query"
    context := .record [("entity", .text m.entity.name), ("method", .text m.name),
      ("accessPath", .text m.path.describe), ("keyConditions", properties m.path.keyConditions),
      ("residualFilters", properties m.path.filters)] }

/-- Whether the method reads a single item by its key. -/
def isLoad (m : Method) : Bool :=
  m.path.kind == .directLoad

section Calls

variable {ρ : Type} (ctx : Context ρ) (m : Method) (args : List Value)

/-- A request built for the arguments. -/
def build {α : Type} (request : Except Cause α) : Run ρ α :=
  Run.ofState (pure (request.mapError (Cause.thrown · m.name)))

/-- Checks the shape and the number of arguments of a call, and counts it. -/
def start (shape : ResultShape) : Run ρ Unit := do
  if shape ≠ m.shape then
    -- A wrong call fails before it is counted.
    Run.fail ((Cause.otherShape m.shape shape).of m.name)
  if args.length ≠ m.query.parameterCount then
    Run.fail
      ((Cause.parameterCount m.query.parameterCount (Float.ofNat args.length)).of m.name)
  ctx.observers.count MetricName.queries
    [("method", m.name), ("accessPath", m.path.kind.name)]

/-- Records how many items were handed back. -/
def recordItems (count : Nat) : Run ρ Unit :=
  ctx.observers.measure
    (.histogram MetricName.itemsReturned (Float.ofNat count) (some [("method", m.name)]))

/-- Reads the item with the key that the arguments give. -/
def load : Run ρ (Option Item) := do
  let request ← m.build (Request.load m.entity m.options m.path args)
  ctx.store.load m.entity request.key (some request.consistency)

/-- The pages of a request, up to the limit of the method. Every page is counted. -/
def source (request : PagedRequest) : PageSource ρ Item where
  fetch start :=
    match request with
    | .query r => ctx.store.query m.entity r start
    | .scan r => ctx.store.scan m.entity r start
  convert item := item
  limit := m.query.limit.getD .unlimited
  onPage _ := ctx.observers.count MetricName.pagesFetched [("method", m.name)]

/-- The sequence of the items that the arguments select. -/
def pages : Run ρ (ItemStream ρ Item) := do
  let request ← m.build (Request.paged m.entity m.options m.path args)
  pure (.ofSource (m.source ctx request))

/-- A sequence of items that have been read already, as a single page. -/
def loaded (items : List Item) : ItemStream ρ Item :=
  .ofSource
    { fetch := fun _ => pure
        { items, count := Float.ofNat items.length, scannedCount := Float.ofNat items.length }
      convert := id }

/-- All items that the arguments select. -/
def collect : Run ρ (List Item) := do
  if m.isLoad then
    pure (← m.load ctx args).toList
  else
    (← m.pages ctx args).collect

/-- The first item that the arguments select. -/
def head? : Run ρ (Option Item) := do
  if m.isLoad then
    m.load ctx args
  else
    (← m.pages ctx args).head?

/-- The first match, if there is one. -/
def one : Run ρ (Option Item) := do
  m.start ctx args .one
  let item ← m.head? ctx args
  m.recordItems ctx item.toList.length
  pure item

/-- Every match. -/
def many : Run ρ (List Item) := do
  m.start ctx args .many
  let items ← m.collect ctx args
  m.recordItems ctx items.length
  pure items

/-- The lazy sequence of the matches. -/
def stream : Run ρ (ItemStream ρ Item) := do
  m.start ctx args .stream
  if m.isLoad then
    -- A single item is read at once, not when it is asked for.
    pure (loaded (← m.load ctx args).toList)
  else
    m.pages ctx args

/-- The number of matches. -/
def count : Run ρ Float := do
  m.start ctx args .count
  if m.isLoad then
    pure (Float.ofNat (← m.load ctx args).toList.length)
  else
    -- The store counts all pages, whatever the limit of the method.
    let request ← m.build (Request.paged m.entity m.options m.path args)
    ctx.store.count m.entity request

/-- Whether there is a match. -/
def «exists» : Run ρ Bool := do
  m.start ctx args .exists
  -- One item tells, so no more than that is asked for.
  pure (← m.head? ctx args).isSome

/-- Deletes every match, and gives the deleted items. -/
def delete : Run ρ (List Item) := do
  m.start ctx args .delete
  let items ← m.collect ctx args
  -- By now every page has been read: a read that fails deletes nothing.
  if !items.isEmpty then
    let _ ← ctx.store.batchDelete m.entity items
  m.recordItems ctx items.length
  pure items

/-- A call in some shape. -/
def callAs (shape : ResultShape) : Run ρ (Outcome ρ) :=
  match shape with
  | .one => .one <$> m.one ctx args
  | .many => .many <$> m.many ctx args
  | .stream => .stream <$> m.stream ctx args
  | .count => .count <$> m.count ctx args
  | .exists => .exists <$> m.exists ctx args
  | .delete => .delete <$> m.delete ctx args

/-- A call in the declared shape. -/
def call : Run ρ (Outcome ρ) :=
  m.callAs ctx args m.shape

end Calls

end Method

end NamedQuery
