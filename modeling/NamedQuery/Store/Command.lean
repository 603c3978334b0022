import NamedQuery.Request

/-!
# Commands

What is sent to the store, and what comes back.

* `Item`, `Page` — stored items, and a page of them;
* `Command` — the commands, with `Command.input` as their wire form. What a command leaves open is
  absent in it;
* `Reply` — the answer to a command, of which each command reads some fields; `Reply.ofWire` reads
  its wire form.
-/

namespace NamedQuery

/-- A stored item: its attributes by name. -/
abbrev Item := Fields Value

/-- The read capacity that a page used up. -/
structure Capacity where
  tableCapacity : Option Float := none
  capacityUnits : Option Float := none
deriving Inhabited

/-- A page of items. -/
structure Page where
  items : List Item := []
  /-- Where the next page starts; absent or null after the last page. -/
  lastKey : Value := .absent
  count : Float := 0
  scannedCount : Float := 0
  capacity : Option Capacity := none

/-- The start of another page, if a last key says that there is one. -/
def nextStart? (lastKey : Value) : Option Value :=
  if lastKey.isTruthy then some lastKey else none

/-- The outcome of a batch delete that left nothing behind. -/
structure BatchDeleted where
  processed : Nat
  batches : Nat
deriving DecidableEq, Repr

/-- What a query or scan command asks for. -/
structure ReadInput where
  table : TableName
  index : Option String := none
  keyCondition : Option String := none
  filter : Option String := none
  projection : Option String := none
  names : Option (Fields String) := none
  values : Option (Fields Value) := none
  consistent : Option Bool := none
  forward : Option Bool := none
  pageSize : Option Float := none
  /-- Where the page starts; absent for the first page. -/
  start : Value := .absent
  /-- Whether only the number of items is wanted. Otherwise the capacity is reported, too. -/
  countOnly : Bool := false

/-- A command to the store. -/
inductive Command where
  | get (table : TableName) (key : Item) (consistent : Option Bool)
  | query (input : ReadInput)
  | scan (input : ReadInput)
  | put (table : TableName) (item : Item)
  | delete (table : TableName) (key : Item)
  | batchWrite (table : TableName) (keys : List Item)

/-- The wire form of what a query or scan asks for. -/
def ReadInput.input (r : ReadInput) : Fields Value :=
  [("TableName", r.table.toValue), ("IndexName", optional .text r.index),
   ("KeyConditionExpression", optional .text r.keyCondition),
   ("FilterExpression", optional .text r.filter),
   ("ProjectionExpression", optional .text r.projection),
   ("ExpressionAttributeNames", optional (fun names => .record (names.mapValues .text)) r.names),
   ("ExpressionAttributeValues", optional .record r.values),
   ("ConsistentRead", optional .bool r.consistent), ("ScanIndexForward", optional .bool r.forward),
   ("Limit", optional .number r.pageSize), ("ExclusiveStartKey", r.start),
   (if r.countOnly then ("Select", .text "COUNT") else ("ReturnConsumedCapacity", .text "TOTAL"))]

namespace Command

/-- The name of a command. -/
def name : Command → String
  | get .. => "GetCommand"
  | query _ => "QueryCommand"
  | scan _ => "ScanCommand"
  | put .. => "PutCommand"
  | delete .. => "DeleteCommand"
  | batchWrite .. => "BatchWriteCommand"

/-- The wire form of a command. -/
def input : Command → Fields Value
  | get table key consistent =>
    [("TableName", table.toValue), ("Key", .record key),
     ("ConsistentRead", optional .bool consistent)]
  | query input | scan input => input.input
  | put table item => [("TableName", table.toValue), ("Item", .record item)]
  | delete table key =>
    [("TableName", table.toValue), ("Key", .record key), ("ReturnValues", .text "ALL_OLD")]
  | batchWrite table keys =>
    [("RequestItems", .record [(table.shown, .ofList (keys.map fun key =>
      .record [("DeleteRequest", .record [("Key", .record key)])]))])]

end Command

/-- The answer to a command. -/
structure Reply where
  item : Option Item := none
  attributes : Option Item := none
  items : Option (List Item) := none
  lastKey : Value := .absent
  count : Option Float := none
  scannedCount : Option Float := none
  capacity : Option Capacity := none
  /-- The report on the requests that were not carried out, by table, if there is one. -/
  unprocessed : Option (Fields (List Value)) := none

/-- The capacity that a report of the store states, if there is a report. -/
def Capacity.ofWire? (report : Value) : Option Capacity :=
  if report.isTruthy then
    some
      { tableCapacity := ((report.field "Table").field "CapacityUnits").number?
        capacityUnits := (report.field "CapacityUnits").number? }
  else
    none

/-- The answer in its wire form. -/
def Reply.ofWire (answer : Value) : Reply :=
  { item := (answer.field "Item").fields?
    attributes := (answer.field "Attributes").fields?
    items := (answer.field "Items").elements?.map fun items => items.filterMap Value.fields?
    lastKey := answer.field "LastEvaluatedKey"
    count := (answer.field "Count").number?
    scannedCount := (answer.field "ScannedCount").number?
    capacity := Capacity.ofWire? (answer.field "ConsumedCapacity")
    unprocessed := (answer.field "UnprocessedItems").fields?.map fun report =>
      report.mapValues fun requests => requests.elements?.getD [] }

/-- How many requests on a table are taken to be left undone. A report is looked up by the name of
the table, so that for a name which every report carries something is found without an entry. -/
def Reply.undone (r : Reply) (table : TableName) : Nat :=
  match r.unprocessed with
  | none => 0
  | some report =>
    ((report.get? table.shown).map List.length).getD (inheritedLength table.shown)

/-- The page in a reply. -/
def Reply.page (r : Reply) : Page :=
  { items := r.items.getD [], lastKey := r.lastKey, count := r.count.getD 0,
    scannedCount := r.scannedCount.getD 0, capacity := r.capacity }

end NamedQuery
