import NamedQuery.Config
import NamedQuery.Entity
import NamedQuery.Run

/-!
# Stores

What query methods and repositories need from a store. Items cross this interface under their
property names.

* `Store` — the operations;
* `Store.scripted` — a store that takes its answers from a script and writes every call into the
  journal.
-/

namespace NamedQuery

/-- The operations of a store whose answers have type `ρ`. -/
structure Store (ρ : Type) where
  /-- The item with a primary key, if there is one. -/
  load : Entity → Key → Option Consistency → Run ρ (Option Item)
  /-- One page of a query, from a start on. -/
  query : Entity → QueryRequest → (start : Value) → Run ρ Page
  /-- One page of a scan, from a start on. -/
  scan : Entity → ScanRequest → (start : Value) → Run ρ Page
  /-- The number of items over all pages. -/
  count : Entity → PagedRequest → Run ρ Float
  /-- Creates or replaces an item. -/
  save : Entity → Item → Run ρ Item
  /-- Deletes the item with a primary key and gives it back, if there was one. -/
  delete : Entity → Key → Run ρ (Option Item)
  /-- Deletes some items by their keys. -/
  batchDelete : Entity → List Item → Run ρ BatchDeleted

/-- An answer of a scripted store. Each call reads the part that it is about. -/
structure Answer where
  item : Option Item := none
  page : Page := {}
  count : Float := 0

namespace Store

/-- Writes a call into the journal and takes the next answer. -/
def ask (call : StoreCall) (default : Answer) : Run Answer Answer := do
  Run.record (.call call)
  Run.answer default

/-- A store that answers from a script. When the script is used up there are no items. -/
def scripted : Store Answer where
  load e key consistency := do
    pure (← ask (.load e.name key consistency) {}).item
  query e request start := do
    pure (← ask (.query e.name request start) {}).page
  scan e request start := do
    pure (← ask (.scan e.name request start) {}).page
  count e request := do
    pure (← ask (.count e.name request) {}).count
  save e item := do
    pure ((← ask (.save e.name item) { item := some item }).item.getD item)
  delete e key := do
    pure (← ask (.delete e.name key) {}).item
  batchDelete e items := do
    let _ ← ask (.batchDelete e.name items) {}
    pure { processed := items.length,
           batches := (items.length + batchLimit - 1) / batchLimit }

end Store

end NamedQuery
