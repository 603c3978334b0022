import NamedQuery.Method

/-!
# Repositories

A repository holds the query methods of one entity, all of them derived when it is created, and the
operations that every repository has.

* `Repository.create` — derives the declared methods in order; the first fault ends it;
* `Repository.invoke` — calls a declared method;
* `Repository.findById`, `existsById`, `deleteById`, `save` — single items;
* `Repository.findAll`, `Repository.count` — base queries over the whole table. They are derived
  when they are first used, so a missing permission to scan only fails the call that needs it.
-/

namespace NamedQuery

/-- The query methods of an entity over a store. -/
structure Repository (ρ : Type) where
  context : Context ρ
  entity : Entity
  methods : Fields Method
  defaults : ScanDefaults

namespace Repository

variable {ρ : Type}

/-- Derives a method and logs that. -/
def deriveMethod (ctx : Context ρ) (e : Entity) (defaults : ScanDefaults) (name : String)
    (d : Declaration) : Run ρ Method := do
  let m ← Run.ofExcept (Method.derive e name d defaults)
  ctx.observers.log m.derivedEntry
  pure m

/-- Derives methods in order. -/
def deriveAll (ctx : Context ρ) (e : Entity) (defaults : ScanDefaults) :
    Fields Declaration → Run ρ (Fields Method)
  | [] => pure []
  | (name, d) :: declarations => do
    let m ← deriveMethod ctx e defaults name d
    let ms ← deriveAll ctx e defaults declarations
    pure ((name, m) :: ms)

/-- Creates the repository of an entity from the declarations of its methods. -/
def create (ctx : Context ρ) (e : Entity) (declarations : Fields Declaration)
    (defaults : ScanDefaults) : Run ρ (Repository ρ) := do
  let methods ← deriveAll ctx e defaults declarations
  ctx.observers.log
    { level := .info, message := "Repository created"
      context := .record [("entity", .text e.name),
        ("methods", .number (Float.ofNat methods.length))] }
  pure { context := ctx, entity := e, methods, defaults }

variable (r : Repository ρ)

/-- The names of the declared methods, in order. -/
def methodNames : List String := r.methods.names

/-- A declared method. -/
def method (name : String) : Except Error Method :=
  match r.methods.get? name with
  | some m => .ok m
  | none => .error ((Cause.unknownMethod r.entity.name).of name)

/-- Calls a declared method. -/
def invoke (name : String) (args : List Value) : Run ρ (Outcome ρ) := do
  let m ← Run.ofExcept (r.method name)
  m.call r.context args

/-- Calls a declared method in some shape. -/
def invokeAs (name : String) (shape : ResultShape) (args : List Value) : Run ρ (Outcome ρ) := do
  let m ← Run.ofExcept (r.method name)
  m.callAs r.context args shape

/-! ### Single items -/

/-- Accepts a key that has a value for every key property. -/
def acceptKey (key : Key) : Except Error Unit :=
  if key.partitionKey.isMissing then
    .error { cause := .noPartitionKeyValue r.entity.name }
  else if r.entity.sortKey?.isSome && key.sortKey.isMissing then
    .error { cause := .noSortKeyValue r.entity.name }
  else
    .ok ()

/-- The item with a key, if there is one. -/
def findById (key : Key) : Run ρ (Option Item) := do
  Run.ofExcept (r.acceptKey key)
  r.context.store.load r.entity key none

/-- Whether there is an item with a key. -/
def existsById (key : Key) : Run ρ Bool := do
  Run.ofExcept (r.acceptKey key)
  pure (← r.context.store.load r.entity key none).isSome

/-- Deletes the item with a key and gives it back, if there was one. -/
def deleteById (key : Key) : Run ρ (Option Item) := do
  Run.ofExcept (r.acceptKey key)
  r.context.store.delete r.entity key

/-- The item of some fields: those that are there, if all of them can be stored. The name
`__proto__` is reserved and never stored. -/
def itemOf : Fields Value → Except Error Item
  | [] => .ok []
  | (property, v) :: fields =>
    if v.isAbsent then itemOf fields
    else if v.isStorable then do
      let item ← itemOf fields
      pure (if property = "__proto__" then item else (property, v) :: item)
    else
      .error { cause := .unstorableProperty property r.entity.name }

/-- Creates or replaces the item with an object's fields. -/
def save (object : Value) : Run ρ Unit := do
  let item ← Run.ofExcept (r.itemOf object.ownFields)
  let _ ← r.context.store.save r.entity item

/-! ### The whole table -/

/-- A base query. Its derivation is logged the first time it is used. -/
def baseQuery (name : String) (shape : ResultShape) : Run ρ Method := do
  -- Deriving again gives the same method, so only its log entry has to be held back.
  let m ← Run.ofExcept (Method.derive r.entity name { returns := shape.name } r.defaults)
  if !(← get).derived.contains name then
    r.context.observers.log m.derivedEntry
    modify fun s => { s with derived := name :: s.derived }
  pure m

/-- Every item of the table. -/
def findAll : Run ρ (List Item) := do
  (← r.baseQuery "findAll" .many).many r.context []

/-- The number of items in the table. -/
def count : Run ρ Float := do
  (← r.baseQuery "count" .count).count r.context []

end Repository

end NamedQuery
