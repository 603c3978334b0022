import NamedQuery.Config
import NamedQuery.Run
import NamedQuery.Store.Chunk

/-!
# Operations on the store

Each operation sends one or more commands and reads its result off the replies.

* `getItem`, `putItem`, `deleteItem` — single items by their key;
* `queryPage`, `scanPage` — one page;
* `countAll` — the number of items of a query or scan over all of its pages;
* `batchDelete` — any number of items, in batches. Requests that the store leaves undone are not
  repeated; they are reported once every batch has been sent.
-/

namespace NamedQuery.Client

/-- Sends a command. An answer that is not in the script is empty. -/
def send (command : Command) : Run Reply Reply := do
  Run.record (.command command)
  Run.answer {}

/-- The item with a key, if there is one. -/
def getItem (table : TableName) (key : Item) (consistent : Option Bool) :
    Run Reply (Option Item) := do
  pure (← send (.get table key consistent)).item

/-- Creates or replaces an item. -/
def putItem (table : TableName) (item : Item) : Run Reply Unit := do
  let _ ← send (.put table item)

/-- Deletes the item with a key and gives it back, if there was one. -/
def deleteItem (table : TableName) (key : Item) : Run Reply (Option Item) := do
  pure (← send (.delete table key)).attributes

/-- A map of placeholders, unless it is empty: the store refuses an empty one. -/
def nonEmpty? {α : Type} (map : Fields α) : Option (Fields α) :=
  if map.isEmpty then none else some map

/-- The placeholders without those of the projection. -/
def dropProjection (names : Fields String) : Fields String :=
  names.filter fun entry => !("#p".toList.isPrefixOf entry.1.toList)

/-- What a scan asks for. -/
def scanInput (table : TableName) (r : ScanRequest) : ReadInput :=
  { table, filter := r.filter, projection := r.projection
    names := nonEmpty? r.placeholders.names, values := nonEmpty? r.placeholders.values
    consistent := r.consistency.flag?, pageSize := r.pageSize }

/-- What a query asks for. -/
def queryInput (table : TableName) (r : QueryRequest) : ReadInput :=
  { scanInput table r.toScanRequest with
    index := r.index, keyCondition := some r.keyCondition, forward := r.forward }

/-- The command that reads the page from `start` on. -/
def pageCommand (table : TableName) (request : PagedRequest) (start : Value) : Command :=
  match request with
  | .query r => .query { queryInput table r with start }
  | .scan r => .scan { scanInput table r with start }

/-- One page of a query. -/
def queryPage (table : TableName) (r : QueryRequest) (start : Value) : Run Reply Page := do
  pure (← send (pageCommand table (.query r) start)).page

/-- One page of a scan. -/
def scanPage (table : TableName) (r : ScanRequest) (start : Value) : Run Reply Page := do
  pure (← send (pageCommand table (.scan r) start)).page

/-- Asks for the number of items only. A projection and its placeholders are left out then. -/
def countInput (input : ReadInput) (names : Fields String) : ReadInput :=
  { input with
    projection := none
    -- Names of the filter that look like those of a projection go with them.
    names := if input.projection.isSome then nonEmpty? (dropProjection names) else input.names
    countOnly := true }

/-- The command that counts the items of the page from `start` on. -/
def countCommand (table : TableName) (request : PagedRequest) (start : Value) : Command :=
  match request with
  | .query r => .query { countInput (queryInput table r) r.placeholders.names with start }
  | .scan r => .scan { countInput (scanInput table r) r.placeholders.names with start }

/-- Adds up the counts of the pages from `start` on. -/
def countFrom (command : Value → Command) :
    (fuel : Nat) → (start : Value) → (total : Float) → Run Reply Float
  | 0, _, total => pure total
  | fuel + 1, start, total => do
    let reply ← send (command start)
    -- A reply without a count adds nothing.
    let total := total + reply.count.getD 0
    match nextStart? reply.lastKey with
    | some start => countFrom command fuel start total
    | none => pure total

/-- The number of items over all pages. -/
def countAll (table : TableName) (request : PagedRequest) : Run Reply Float := do
  -- Each page but the last takes an answer from the script, so the fuel lasts.
  let fuel ← ExceptT.lift Run.fuel
  countFrom (countCommand table request) fuel .absent 0

/-- Sends batches of delete requests and counts those left undone. -/
def sendBatches (table : TableName) : List (List Item) → Run Reply Nat
  | [] => pure 0
  | keys :: batches => do
    let reply ← send (.batchWrite table keys)
    let more ← sendBatches table batches
    pure (reply.undone table + more)

/-- Deletes every key, in batches. -/
def batchDelete (table : TableName) (keys : List Item) : Run Reply BatchDeleted := do
  let batches := chunksOf batchLimit keys
  -- Every batch is sent before what is left undone is reported.
  let undone ← sendBatches table batches
  if 0 < undone then
    Run.fail { cause := .unprocessedDeletes table undone }
  else
    pure { processed := keys.length, batches := batches.length }

end NamedQuery.Client
