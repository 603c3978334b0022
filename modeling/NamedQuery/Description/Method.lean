import NamedQuery.Access.Path
import NamedQuery.Store.Command

/-!
# Methods and entities as records

What a method name says, what it is bound to and how it is served, as plain records: for tools that
show how a repository reads its methods.

* `MethodName.toValue`, `Query.toValue`, `AccessPath.toValue` — the three stages of a method;
* `Entity.toValue` — the keys and indexes of an entity.
-/

namespace NamedQuery

/-- Texts as a list. -/
def textValues (texts : List String) : Value :=
  .ofList (texts.map Value.text)

def Reading.toValue (r : Reading) : Value :=
  .record [("propertyPath", .text r.property), ("operator", .text r.operator.name)]

def UnsupportedReading.toValue (r : UnsupportedReading) : Value :=
  .record [("propertyPath", .text r.property), ("keyword", .text r.keyword)]

/-- A limit as a number; it is infinite where there is none. -/
def ItemLimit.toValue (limit : ItemLimit) : Value :=
  .number limit.toNumber

/-- A segment of the criteria with all of its readings. -/
def segmentValue (segment : String) : Value :=
  .record [("source", .text segment),
    ("readings", .ofList ((readings segment).map Reading.toValue))]

def OrderText.toValue (o : OrderText) : Value :=
  .record [("propertyPath", .text o.property), ("direction", .text o.direction.name)]

def MethodName.toValue (m : MethodName) : Value :=
  .record [("methodName", .text m.text), ("subject", .text m.subject.name),
    ("limit", optional ItemLimit.toValue m.limit),
    ("predicates", .ofList (m.criteria.map segmentValue)),
    ("orderBy", optional OrderText.toValue m.order)]

def PropertyPath.toValue (p : PropertyPath) : Value :=
  .record [("segments", textValues p.segments), ("leaf", .text p.leaf)]

def Criterion.toValue (c : Criterion) : Value :=
  .record [("propertyPath", textValues c.path.segments), ("property", .text c.property),
    ("operator", .text c.operator.name), ("argumentCount", .number (Float.ofNat c.arity)),
    ("argumentOffset", .number (Float.ofNat c.offset))]

def Order.toValue (o : Order) : Value :=
  .record [("property", .text o.property), ("direction", .text o.direction.name)]

def Query.toValue (q : Query) : Value :=
  .record [("methodName", .text q.method), ("subject", .text q.subject.name),
    ("limit", optional ItemLimit.toValue q.limit),
    ("predicates", .ofList (q.criteria.map Criterion.toValue)),
    ("orderBy", optional Order.toValue q.order),
    ("parameterCount", .number (Float.ofNat q.parameterCount))]

def AccessPath.toValue (p : AccessPath) : Value :=
  .record [("kind", .text p.kind.name), ("indexName", optional .text p.indexName?),
    ("keyConditions", .ofList (p.keyConditions.map Criterion.toValue)),
    ("residualFilters", .ofList (p.filters.map Criterion.toValue)),
    ("compositeIdLoad", .bool p.isById), ("rangeKey", optional .text p.rangeKey?),
    ("scanIndexForward", optional .bool p.forward?)]

/-- Fields in order, each as a list of its name and its value. -/
def entryValues {α : Type} (toValue : α → Value) (fields : Fields α) : Value :=
  .ofList (fields.map fun (name, v) => .ofList [.text name, toValue v])

def CompositeId.toValue (id : CompositeId) : Value :=
  .record [("property", .text id.property), ("partitionKey", .text id.partitionKey),
    ("sortKey", .text id.sortKey)]

/-- A global index under its name. -/
def GlobalIndex.entry (i : GlobalIndex) : String × Value :=
  (i.name, .record [("hashKey", .text i.hashKey), ("rangeKey", optional .text i.rangeKey)])

/-- The keys and indexes of an entity. An entity is simple if its table has no sort key. -/
def Entity.toValue (e : Entity) : Value :=
  .record [("kind", .text (if e.sortKey?.isSome then "composite" else "simple")),
    ("entityName", .text e.name), ("tableName", .text e.tableName),
    ("partitionKey", .text e.partitionKey), ("sortKey", optional .text e.sortKey?),
    ("compositeId", optional CompositeId.toValue e.compositeId?),
    ("properties", textValues e.properties), ("localIndexes", entryValues .text e.localIndexes),
    ("globalIndexHashKeys", entryValues textValues e.hashIndexes),
    ("globalIndexRangeKeys", entryValues textValues e.rangeIndexes),
    ("globalIndexes", entryValues id (e.globalIndexes.map GlobalIndex.entry)),
    ("attributeNames", entryValues .text e.overrides),
    ("wireNames", textValues (e.properties.map e.attributeName))]

end NamedQuery
