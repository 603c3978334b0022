import NamedQuery.Access.Path
import NamedQuery.Request.Condition

/-!
# Requests

What is asked of the store to serve one call of a query method.

* `LoadRequest`, `QueryRequest`, `ScanRequest` — the three kinds of requests;
* `RequestOptions` — what the declaration of a method adds to its requests;
* `RequestPlan` — the part of an access path that a query or scan is built from;
* `Request.load`, `Request.query`, `Request.scan` — the request for an access path and the arguments
  of a call. A fault in an argument of a key condition is reported before one in a filter, and both
  before a collision of placeholders.
-/

namespace NamedQuery

/-- The value a primary key has, or a part of it. The sort key is absent where there is none. -/
structure Key where
  partitionKey : Value
  sortKey : Value := .absent
  /-- What a caller put beside them. It is handed to the store and says nothing about the item. -/
  others : Fields Value := []

/-- How consistent a read has to be. -/
inductive Consistency where
  | default
  | consistent
  | eventual
  /-- A word that this library passes on and does not know. -/
  | other (name : String)
deriving DecidableEq, Repr

namespace Consistency

/-- Those with a meaning of their own. -/
def known : List Consistency := [default, consistent, eventual]

def name : Consistency → String
  | default => "DEFAULT"
  | consistent => "CONSISTENT"
  | eventual => "EVENTUAL"
  | other name => name

/-- The consistency of that name. -/
def ofName (name : String) : Consistency :=
  (known.find? fun c => c.name == name).getD (other name)

/-- The flag of a read. By default the store decides. -/
def flag? : Consistency → Option Bool
  | default | other _ => none
  | consistent => some true
  | eventual => some false

end Consistency

/-- The lookup of a single item. -/
structure LoadRequest where
  key : Key
  consistency : Consistency

/-- The reading of a whole table with a filter. -/
structure ScanRequest where
  filter : Option String := none
  projection : Option String := none
  placeholders : Placeholders := {}
  consistency : Consistency := .default
  /-- How many items a page may examine. -/
  pageSize : Option Float := none

/-- A query on the keys of a table or index. -/
structure QueryRequest extends ScanRequest where
  index : Option String := none
  keyCondition : String
  /-- Whether the items come in ascending order of the range key. -/
  forward : Option Bool := none

/-- A request that is answered in pages. -/
inductive PagedRequest where
  | query (request : QueryRequest)
  | scan (request : ScanRequest)

/-- Whether a request asks for keys. -/
def PagedRequest.isQuery : PagedRequest → Bool
  | query _ => true
  | scan _ => false

/-- What the declaration of a method adds to its requests. -/
structure RequestOptions where
  pageSize : Option Float := none
  /-- The properties to read; all of them if there is no list. -/
  projection : List String := []
  /-- A filter that has to hold besides the derived one. -/
  filter : Option String := none
  /-- The placeholders of that filter. -/
  placeholders : Placeholders := {}
  consistency : Option Consistency := none

/-- What a query or a scan is built from. A path has two key conditions at most, but building goes
through any number of them. -/
structure RequestPlan where
  kind : AccessKind
  index : Option String := none
  keyConditions : List Criterion := []
  filters : List Criterion := []
  /-- Whether the items come in ascending order of the range key. -/
  forward : Option Bool := none

/-- The plan of a path. -/
def AccessPath.plan (path : AccessPath) : RequestPlan where
  kind := path.kind
  index := path.indexName?
  keyConditions := path.keyConditions
  filters := path.filters
  forward := path.forward?

namespace Request

variable (e : Entity) (options : RequestOptions) (path : AccessPath) (plan : RequestPlan)
  (args : List Value)

/-- The consistency of the requests. -/
def consistency : Consistency := options.consistency.getD .default

/-- The primary key that the id property holds. -/
def keyOfId (reference : Option Criterion) : Except Cause Key :=
  match e.compositeId? with
  | none => .error (.noCompositeId e.name)
  | some id => do
    -- Without a reference there is no argument either, and what is absent is no record.
    let raw := (reference.map (·.rawArgument args 0)).getD .absent
    if !raw.isRecord then
      throw (.idArgument id)
    let partitionKey ← acceptValue (raw.field id.partitionKey) id.partitionKey
    let sortKey ← acceptValue (raw.field id.sortKey) id.sortKey
    pure { partitionKey := partitionKey, sortKey }

/-- The primary key that the key conditions give. -/
def keyOfConditions : List Criterion → Except Cause Key
  | [] => .error .noCriterion
  | [hash] => do
    let partitionKey ← hash.argument args 0
    pure { partitionKey := partitionKey }
  | hash :: range :: _ => do
    let partitionKey ← hash.argument args 0
    let sortKey ← range.argument args 0
    pure { partitionKey := partitionKey, sortKey }

/-- The lookup of the item with the primary key that the arguments give. -/
def load : Except Cause LoadRequest := do
  let key ←
    if path.isById then keyOfId e args path.keyConditions.head?
    else keyOfConditions args path.keyConditions
  pure { key, consistency := consistency options }

/-- Adds the placeholders of a static filter to those of a request. None of them may be there
already. -/
def merge {α : Type} : (target : Fields α) → Fields α → Except Cause (Fields α)
  | target, [] => .ok target
  | target, (placeholder, v) :: more =>
    -- The names that every table carries count as being there.
    if target.has placeholder || isInherited placeholder then
      .error (.placeholderCollision placeholder)
    else
      merge (target.insert placeholder v) more

/-- The expression that asks for the derived filter and the static one. -/
def joinFilters (derived : Option String) (static : String) : String :=
  match derived with
  | none => static
  | some derived => derived ++ " AND (" ++ static ++ ")"

/-- The filter of a request, added to the placeholders of its key conditions. -/
def filter (placeholders : Placeholders) :
    Except Cause (Option String × Placeholders) := do
  let conditions ← plan.filters.mapM (Criterion.condition e args)
  let builder := (Builder.start .filter placeholders).addAll conditions
  match options.filter with
  -- Without a static filter its placeholders are left out as well.
  | none | some "" => pure (builder.expression?, builder.placeholders)
  | some static =>
    let names ← merge builder.placeholders.names options.placeholders.names
    let values ← merge builder.placeholders.values options.placeholders.values
    pure (some (joinFilters builder.expression? static), { names := names, values })

/-- The list of properties to read, if not all of them. -/
def projection (placeholders : Placeholders) : Option String × Placeholders :=
  match options.projection with
  | [] => (none, placeholders)
  | properties =>
    let (names, builder) := properties.foldl
      (fun (names, builder) property =>
        let (name, builder) := Builder.addName builder (e.attributeName property)
        (names ++ [name], builder))
      (([] : List String), Builder.start .projection placeholders)
    (some (", ".intercalate names), builder.placeholders)

/-- What queries and scans share: filter, projection and reading options. -/
def reading (placeholders : Placeholders) : Except Cause ScanRequest := do
  -- The projection comes last, so its placeholders take the place of static ones of the same name.
  let (filter, placeholders) ← filter e options plan args placeholders
  let (projection, placeholders) := projection e options placeholders
  pure { filter, projection, placeholders, consistency := consistency options,
         pageSize := options.pageSize }

/-- The query of a plan. -/
def queryOf : Except Cause QueryRequest := do
  let conditions ← plan.keyConditions.mapM (Criterion.condition e args)
  let builder := (Builder.start .key {}).addAll conditions
  match builder.expression? with
  | none => throw (.noKeyCondition plan.kind)
  | some keyCondition =>
    let shared ← reading e options plan args builder.placeholders
    pure { shared with index := plan.index, keyCondition, forward := plan.forward }

/-- The scan of a plan. -/
def scanOf : Except Cause ScanRequest :=
  reading e options plan args {}

/-- The query on the keys of the path's table or index. -/
def query : Except Cause QueryRequest :=
  queryOf e options path.plan args

/-- The scan for everything that the path's filters select. -/
def scan : Except Cause ScanRequest :=
  scanOf e options path.plan args

/-- The request of a path that is answered in pages. -/
def paged : Except Cause PagedRequest :=
  match path with
  | .scan _ => (scan e options path args).map .scan
  | _ => (query e options path args).map .query

end Request

end NamedQuery
