import NamedQuery.Query

/-!
# Access paths

How a query is served. Every criterion of the query appears exactly once, as a key condition or as a
filter on what the key conditions select.

* `AccessPath` — the four ways to serve a query;
* `AccessPath.resolve` — chooses the first way that applies: the item with the primary key, the item
  with the id, a range of a partition (by the sort key, then by a local index), a global index, a
  whole partition, and at last a scan, if the policy permits one.
-/

namespace NamedQuery

/-- What a query on keys reads. -/
inductive QueryTarget where
  | table
  | localIndex (name : String)
  | globalIndex (name : String)
deriving DecidableEq, Repr

/-- A query on the keys of a table or index. -/
structure KeyQuery where
  target : QueryTarget
  /-- The equality on the hash key. -/
  hash : Criterion
  /-- The condition on the range key. -/
  range : Option Criterion
  filters : List Criterion
  /-- The range key of what is read. -/
  rangeKey : Option String
  /-- Whether the order is ascending, if the query asks for one. -/
  forward : Option Bool
deriving DecidableEq, Repr

/-- How a query is served. -/
inductive AccessPath where
  /-- The item with the primary key that the criteria give. -/
  | load (hash : Criterion) (range : Option Criterion)
  /-- The item with the primary key that an id holds. -/
  | loadById (id : Criterion)
  | query (query : KeyQuery)
  /-- Every item of the table that the criteria select. -/
  | scan (filters : List Criterion)
deriving DecidableEq, Repr

/-- Whether a method may fall back to a scan. -/
structure ScanPolicy where
  /-- For methods that find, test or delete. -/
  enableScan : Bool
  /-- For methods that count. -/
  enableScanCount : Bool
deriving DecidableEq, Repr

namespace AccessPath

def kind : AccessPath → AccessKind
  | load .. | loadById _ => .directLoad
  | scan _ => .scan
  | query q =>
    match q.target with
    | .table => .primarySortQuery
    | .localIndex _ => .localIndexQuery
    | .globalIndex _ => .globalIndexQuery

/-- The index that is read, if it is not the table itself. -/
def indexName? : AccessPath → Option String
  | query q =>
    match q.target with
    | .table => none
    | .localIndex name | .globalIndex name => some name
  | _ => none

/-- The conditions on the keys, the one on the hash key first. -/
def keyConditions : AccessPath → List Criterion
  | load hash range => hash :: range.toList
  | loadById id => [id]
  | query q => q.hash :: q.range.toList
  | scan _ => []

/-- The conditions on what the key conditions select. -/
def filters : AccessPath → List Criterion
  | query q => q.filters
  | scan filters => filters
  | _ => []

/-- Whether the primary key comes out of an id. -/
def isById : AccessPath → Bool
  | loadById _ => true
  | _ => false

/-- The range key of what is read. -/
def rangeKey? : AccessPath → Option String
  | query q => q.rangeKey
  | _ => none

/-- Whether the order is ascending, if the query asks for one. -/
def forward? : AccessPath → Option Bool
  | query q => q.forward
  | _ => none

/-- The kind of access with the index it goes through. -/
def describe (path : AccessPath) : String :=
  match path.indexName? with
  | none => path.kind.name
  | some index => path.kind.name ++ "(" ++ index ++ ")"

/-! ### Choosing a path -/

/-- The first element that passes a test, with the others in their order. -/
def pick? {α : Type} (test : α → Bool) : List α → Option (α × List α)
  | [] => none
  | a :: rest =>
    if test a then some (a, rest)
    else (pick? test rest).map fun (found, others) => (found, a :: others)

/-- The element with the highest score, the first of several. -/
def best? {α : Type} (score : α → Nat) : List α → Option α
  | [] => none
  | a :: rest =>
    match best? score rest with
    | none => some a
    | some b => if score a < score b then some b else some a

/-- The order of the results as the range key can serve it. -/
def forwardBy (q : Query) (rangeKey : Option String) : Except Cause (Option Bool) :=
  match q.order with
  | none => .ok none
  | some order =>
    if rangeKey = some order.property then .ok (some (order.direction == .ascending))
    else .error (.orderNotServed rangeKey order.property)

/-- The query on a target with the given hash criterion; the condition on the range key is taken
from the other criteria where `keyed` says so. -/
def keyQuery (q : Query) (target : QueryTarget) (hash : Criterion) (others : List Criterion)
    (keyed : Bool) (rangeKey : Option String) : Except Cause AccessPath := do
  let (range, filters) :=
    let key := if keyed then rangeKey else none
    match key.bind fun key => pick? (Criterion.isRange key) others with
    | some (range, filters) => (some range, filters)
    | none => (none, others)
  let forward ← forwardBy q rangeKey
  pure (.query { target := target, hash, range, filters, rangeKey, forward })

/-- The load of a single item by its full primary key. A query with an order or a limit is never
served by it. -/
def directLoad? (e : Entity) (q : Query) : Option AccessPath :=
  if q.order.isSome || q.limit.isSome then none
  else
    match e.sortKey? with
    | none =>
      -- The partition key alone is the primary key.
      match q.criteria with
      | [hash] => if hash.isEquality e.partitionKey then some (.load hash none) else none
      | _ => none
    | some sortKey =>
      -- Two criteria, in any order, give the two keys.
      match pick? (Criterion.isEquality e.partitionKey) q.criteria with
      | some (hash, [range]) =>
        if range.isEquality sortKey then some (.load hash (some range)) else none
      | _ => none

/-- The load of a single item by its id, for a query about the id property. -/
def idLoad (e : Entity) (q : Query) : Except Cause (Option AccessPath) :=
  match e.compositeId? with
  | none => .ok none
  | some id =>
    match q.criteria.find? (Criterion.isId id), q.criteria with
    | none, _ => .ok none
    | some reference, [_] =>
      if reference.operator = .equals ∧ q.order = none ∧ q.limit = none then
        .ok (some (.loadById reference))
      else
        .error (.idNotAlone reference.property)
    | some reference, _ => .error (.idNotAlone reference.property)

/-- The range of a partition, by the sort key or else by the first criterion that a local index can
serve. -/
def rangeQuery (e : Entity) (q : Query) : Except Cause (Option AccessPath) :=
  match e.sortKey?, pick? (Criterion.isEquality e.partitionKey) q.criteria with
  | some sortKey, some (hash, others) =>
    -- The sort key of the table comes before every local index.
    if others.any (Criterion.isRange sortKey) then
      some <$> keyQuery q .table hash others true (some sortKey)
    else
      let indexed := others.findSome? fun c =>
        if c.operator.isKeyCondition then (e.localIndex? c.property).map fun i => (c.property, i)
        else none
      match indexed with
      | some (property, index) =>
        some <$> keyQuery q (.localIndex index) hash others true (some property)
      | none => .ok none
  | _, _ => .ok none

/-- Whether a criterion besides the one on the hash key can be a condition on the range key. -/
def hasRange (q : Query) (index : GlobalIndex) : Bool :=
  match index.rangeKey, pick? (Criterion.isEquality index.hashKey) q.criteria with
  | some rangeKey, some (_, others) => others.any (Criterion.isRange rangeKey)
  | _, _ => false

/-- Whether the index orders its items as the query asks. -/
def ordersBy (q : Query) (index : GlobalIndex) : Bool :=
  match q.order with
  | some order => index.rangeKey == some order.property
  | none => false

/-- How well an index serves a query: a condition on its range key counts more than its order. -/
def rank (q : Query) (index : GlobalIndex) : Nat :=
  (if hasRange q index then 2 else 0) + (if ordersBy q index then 1 else 0)

/-- The query on the global index that serves best. A criterion on a hash key that is no equality is
refused if no index can be used. -/
def globalQuery (e : Entity) (q : Query) : Except Cause (Option AccessPath) :=
  let candidates := e.globalIndexes.filter fun index =>
    q.criteria.any (Criterion.isEquality index.hashKey)
  match best? (rank q) candidates with
  | none =>
    -- A hash key that is compared otherwise is no reason to scan.
    let misused := q.criteria.find? fun c =>
      e.hashIndexes.has c.property && c.operator != .equals
    match misused with
    | some c => .error (.hashKeyCondition c.property c.operator)
    | none => .ok none
  | some index =>
    match pick? (Criterion.isEquality index.hashKey) q.criteria with
    | some (hash, others) =>
      some <$> keyQuery q (.globalIndex index.name) hash others (hasRange q index) index.rangeKey
    | none => .ok none

/-- A whole partition, through the local index that has the order asked for if there is one. -/
def partitionQuery (e : Entity) (q : Query) : Except Cause (Option AccessPath) :=
  match pick? (Criterion.isEquality e.partitionKey) q.criteria with
  | none => .ok none
  | some (hash, others) =>
    let ordered := q.order.bind fun order =>
      (e.localIndex? order.property).map fun index => (order.property, index)
    match ordered with
    | some (property, index) =>
      some <$> keyQuery q (.localIndex index) hash others false (some property)
    | none => some <$> keyQuery q .table hash others false e.sortKey?

/-- The scan, if it is permitted. It has no order. -/
def scanAll (q : Query) (policy : ScanPolicy) : Except Cause AccessPath :=
  -- The permission is judged before the order.
  if q.subject = .count ∧ policy.enableScanCount = false then .error .scanCountNotEnabled
  else if q.subject ≠ .count ∧ policy.enableScan = false then .error .scanNotEnabled
  else if q.order.isSome then .error .orderOnScan
  else .ok (.scan q.criteria)

/-- The first way to serve a query that applies. -/
def choose (e : Entity) (policy : ScanPolicy) (q : Query) : Except Cause AccessPath :=
  match directLoad? e q with
  | some path => .ok path
  | none => do
    if let some path ← idLoad e q then return path
    if let some path ← rangeQuery e q then return path
    if let some path ← globalQuery e q then return path
    if let some path ← partitionQuery e q then return path
    scanAll q policy

/-- How a query is served. -/
def resolve (e : Entity) (policy : ScanPolicy) (q : Query) : Except Error AccessPath :=
  (choose e policy q).mapError (Cause.of · q.method)

end AccessPath

end NamedQuery
