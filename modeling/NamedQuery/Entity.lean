import NamedQuery.Log
import NamedQuery.Schema

/-!
# Entities

An entity is a schema without defects. What the rest of the library wants to know about the keys
and indexes of a table is read off the schema here.

* `Entity.define` — checks a schema;
* `Entity.partitionKey`, `Entity.sortKey?`, `Entity.compositeId?` — the primary key;
* `Entity.localIndexes`, `Entity.globalIndexes` — the indexes, in the order of declaration;
* `Entity.attributeName` — the name a property is stored under;
* `Entity.warnings` — what is worth a warning about an accepted schema.
-/

namespace NamedQuery

/-- A schema without defects. -/
structure Entity where
  schema : Schema
  sound : schema.defect? = none

/-- A global index with its keys. -/
structure GlobalIndex where
  name : String
  hashKey : String
  rangeKey : Option String
deriving DecidableEq, Repr

namespace Entity

/-- Accepts a schema, or gives its first defect. -/
def define (schema : Schema) : Except SchemaDefect Entity :=
  match h : schema.defect? with
  | none => .ok ⟨schema, h⟩
  | some defect => .error defect

variable (e : Entity)

def name : String := e.schema.name

/-- The declared name of the table. -/
def tableName : String := e.schema.tableName

/-- The property that is the partition key of the table. -/
def partitionKey : String := e.schema.partitionKeys.headD ""

/-- The property that is the sort key of the table. -/
def sortKey? : Option String := e.schema.sortKeys.head?

/-- The id property that stands for the whole primary key. -/
def compositeId? : Option CompositeId := e.schema.compositeId

/-- Every property that a method name can mention: the stored ones and the id property. -/
def properties : List String :=
  e.schema.attributes.names ++ (e.compositeId?.map CompositeId.property).toList

/-- Whether a method name can mention the property. -/
def hasProperty (property : String) : Bool :=
  e.properties.contains property

/-- The properties that are the range key of a local index, with the name of the index. -/
def localIndexes : Fields String :=
  e.schema.localClaims.map fun (index, property) => (property, index)

/-- The local index with that range key. -/
def localIndex? (property : String) : Option String :=
  e.localIndexes.get? property

/-- The properties that are the hash key of global indexes, with the names of the indexes. -/
def hashIndexes : Fields (List String) :=
  (e.schema.attributes.mapValues Attribute.hashIndexes).filter fun field => !field.2.isEmpty

/-- The properties that are the range key of global indexes, with the names of the indexes. -/
def rangeIndexes : Fields (List String) :=
  (e.schema.attributes.mapValues Attribute.rangeIndexes).filter fun field => !field.2.isEmpty

/-- The names of the global indexes, in the order in which they are first mentioned. -/
def globalIndexNames : List String :=
  (e.schema.attributes.flatMap fun field => field.2.hashIndexes ++ field.2.rangeIndexes).eraseDups

/-- The global indexes with their keys. -/
def globalIndexes : List GlobalIndex :=
  e.globalIndexNames.filterMap fun index =>
    (claimants e.schema.hashClaims index).head?.map fun hashKey =>
      { name := index, hashKey, rangeKey := (claimants e.schema.rangeClaims index).head? }

/-- The properties that are stored under another name, with that name. -/
def overrides : Fields String :=
  e.schema.attributes.filterMap fun (property, a) =>
    (a.attributeName.filter (· != property)).map fun name => (property, name)

/-- The name a property is stored under. -/
def attributeName (property : String) : String :=
  (e.overrides.get? property).getD property

/-- A local index whose range key is the sort key of the table adds nothing. -/
def warnings : List LogEntry :=
  match e.sortKey? with
  | none => []
  | some sortKey =>
    (claimedIndexes e.schema.localClaims).filterMap fun index =>
      if (claimants e.schema.localClaims index).head? = some sortKey then
        some
          { level := .warn, message := "Local index range key is the table sort key"
            context := .record [("entity", .text e.name), ("indexName", .text index),
              ("property", .text sortKey)] }
      else
        none

end Entity

end NamedQuery
