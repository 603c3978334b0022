import NamedQuery.Run

/-!
# Requests and pages as records

What is asked of a store and what comes back, as plain records: for log entries, recordings and
tools. What is open in a request is absent in its record.

* `PagedRequest.toValue`, `LoadRequest.toValue` — requests;
* `Page.toValue` — a page of items;
* `StoreCall.toValue` — a call of a store, with its name first.
-/

namespace NamedQuery

/-- Names with their texts, as a record. -/
def namedTexts (fields : Fields String) : Value :=
  .record (fields.mapValues Value.text)

/-- A key with its one or two parts, and what else stands in it. -/
def Key.toValue (k : Key) : Value :=
  .record ([("partitionKey", k.partitionKey), ("sortKey", k.sortKey)] ++ k.others)

/-- What the placeholders of a request stand for. -/
def Placeholders.fields (p : Placeholders) : Fields Value :=
  [("expressionAttributeNames", namedTexts p.names),
   ("expressionAttributeValues", .record p.values)]

/-- What scans and queries have in common. -/
def ScanRequest.fields (r : ScanRequest) : Fields Value :=
  r.placeholders.fields ++
  [("filterExpression", optional .text r.filter),
   ("projectionExpression", optional .text r.projection),
   ("consistency", .text r.consistency.name), ("limit", optional .number r.pageSize)]

def QueryRequest.fields (r : QueryRequest) : Fields Value :=
  r.toScanRequest.fields ++
  [("indexName", optional .text r.index), ("keyConditionExpression", .text r.keyCondition),
   ("scanIndexForward", optional .bool r.forward)]

def PagedRequest.toValue : PagedRequest → Value
  | query r => .record r.fields
  | scan r => .record r.fields

def LoadRequest.toValue (r : LoadRequest) : Value :=
  .record [("key", r.key.toValue), ("consistency", .text r.consistency.name)]

def Capacity.toValue (c : Capacity) : Value :=
  .record [("tableCapacity", optional .number c.tableCapacity),
    ("capacityUnits", optional .number c.capacityUnits)]

/-- Items as a list of records. -/
def itemValues (items : List Item) : Value :=
  .ofList (items.map Value.record)

def Page.toValue (p : Page) : Value :=
  .record [("items", itemValues p.items), ("lastEvaluatedKey", p.lastKey),
    ("count", .number p.count), ("scannedCount", .number p.scannedCount),
    ("consumedCapacity", optional Capacity.toValue p.capacity)]

def BatchDeleted.toValue (b : BatchDeleted) : Value :=
  .record [("processedCount", .number (Float.ofNat b.processed)),
    ("batches", .number (Float.ofNat b.batches))]

/-- The name of a call, and what is passed with it. A count says which of the two kinds of requests
it is about. -/
def StoreCall.toValue : StoreCall → Value
  | load entity k consistency =>
    .ofList [.text "load", .text entity, k.toValue,
      optional (fun (c : Consistency) => .text c.name) consistency]
  | query entity r start => .ofList [.text "query", .text entity, .record r.fields, start]
  | scan entity r start => .ofList [.text "scan", .text entity, .record r.fields, start]
  | count entity r =>
    .ofList [.text "count", .text entity, .text (if r.isQuery then "query" else "scan"), r.toValue]
  | save entity item => .ofList [.text "save", .text entity, .record item]
  | delete entity k => .ofList [.text "delete", .text entity, k.toValue]
  | batchDelete entity items => .ofList [.text "batchDelete", .text entity, itemValues items]

/-- The kind of a measurement, its series and its value; null where a counter goes up by one
without saying so. -/
def Measurement.toValue : Measurement → Value
  | counter name value labels =>
    .ofList [.text "counter", .text name, (value.map Value.number).getD .null,
      optional namedTexts labels]
  | histogram name value labels =>
    .ofList [.text "histogram", .text name, .number value, optional namedTexts labels]

/-- A count as a collector is told of it: the label of the table is the name itself. -/
def OperationCount.toValue (c : OperationCount) : Value :=
  .ofList [.text "counter", .text c.metric, .number 1,
    .record [("operation", .text c.operation), ("table", c.table.toValue)]]

def Summary.toValue (s : Summary) : Value :=
  .record [("count", .number (Float.ofNat s.count)), ("sum", .number s.sum),
    ("min", .number s.min), ("max", .number s.max)]

end NamedQuery
