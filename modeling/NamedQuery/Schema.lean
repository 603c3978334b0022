import NamedQuery.Fields
import NamedQuery.Inherited
import NamedQuery.Text.Blank

/-!
# Entity schemas

An entity schema declares a table, the stored properties of an entity and the part each plays in
the keys of the table and of its indexes.

* `Attribute` — what is declared for one property;
* `Schema` — a declaration as it was given, consistent or not;
* `Schema.localClaims`, `Schema.hashClaims`, `Schema.rangeClaims` — who claims a part in an index,
  in the order of declaration;
* `Schema.defect?` — the first inconsistency of a schema. `SchemaDefect.message` words it.
-/

namespace NamedQuery

/-- The part of one property in the keys of a table and its indexes. -/
structure Attribute where
  /-- The name the property is stored under, if it is not its own. -/
  attributeName : Option String := none
  partitionKey : Bool := false
  sortKey : Bool := false
  /-- The local index that has this property as its range key. -/
  localIndex : Option String := none
  /-- The global indexes that have this property as their hash key. -/
  hashIndexes : List String := []
  /-- The global indexes that have this property as their range key. -/
  rangeIndexes : List String := []
deriving DecidableEq, Repr

/-- An id property whose two fields hold the partition key and the sort key. -/
structure CompositeId where
  property : String
  partitionKey : String
  sortKey : String
deriving DecidableEq, Repr

/-- The declaration of an entity. -/
structure Schema where
  name : String
  tableName : String
  attributes : Fields Attribute
  compositeId : Option CompositeId := none
  /-- No property is declared twice. -/
  distinct : attributes.names.Nodup

/-- An inconsistency of a schema. -/
inductive SchemaDefect where
  | blankTable
  | blankAttribute (property : String)
  | blankIndex (property : String)
  | noPartitionKey
  | manyPartitionKeys (properties : List String)
  | manySortKeys (properties : List String)
  | partitionIsSort (property : String)
  | manyHashKeys (index : String) (properties : List String)
  | manyRangeKeys (index : String) (properties : List String)
  | rangeWithoutHash (index : String)
  | sharedLocalIndex (index : String) (properties : List String)
  | localAndGlobal (index : String)
  | localWithoutSortKey (index : String)
  | idWithoutSortKey (property : String)
  | idMapsOther (id : CompositeId) (partitionKey sortKey : String)
  | idIsStored (property : String)
deriving DecidableEq, Repr

/-- The wording of a defect. -/
def SchemaDefect.message : SchemaDefect → String
  | blankTable => "table name must be a non-empty string"
  | blankAttribute p => "empty attribute name declared on property " ++ p
  | blankIndex p => "empty index name declared on property " ++ p
  | noPartitionKey => "no partition key declared"
  | manyPartitionKeys ps => "multiple partition keys declared: " ++ ", ".intercalate ps
  | manySortKeys ps => "multiple sort keys declared: " ++ ", ".intercalate ps
  | partitionIsSort p => "property " ++ p ++ " cannot be both partition key and sort key"
  | manyHashKeys i ps =>
    "global index " ++ i ++ " declares multiple hash keys: " ++ ", ".intercalate ps
  | manyRangeKeys i ps =>
    "global index " ++ i ++ " declares multiple range keys: " ++ ", ".intercalate ps
  | rangeWithoutHash i => "global index " ++ i ++ " declares a range key but no hash key"
  | sharedLocalIndex i ps =>
    "local index " ++ i ++ " declared on multiple properties: " ++ ", ".intercalate ps
  | localAndGlobal i => "index name " ++ i ++ " is used for both a local and a global index"
  | localWithoutSortKey i => "local index " ++ i ++ " requires the table to declare a sort key"
  | idWithoutSortKey p => "composite id " ++ p ++ " requires the table to declare a sort key"
  | idMapsOther id pk sk =>
    "composite id " ++ id.property ++ " must map " ++ pk ++ " and " ++ sk ++ ", not " ++
      id.partitionKey ++ " and " ++ id.sortKey
  | idIsStored p => "composite id property " ++ p ++ " must not be a stored attribute"

namespace Schema

/-- A schema from attributes in the order of their declaration; of two declarations of one
property the later counts. -/
def declare (name tableName : String) (attributes : List (String × Attribute))
    (compositeId : Option CompositeId) : Schema :=
  { name, tableName, attributes := Fields.ofList attributes, compositeId
    distinct := Fields.ofList_nodup attributes }

variable (s : Schema)

/-- The properties declared as partition key. -/
def partitionKeys : List String :=
  (s.attributes.filter fun a => a.2.partitionKey).map Prod.fst

/-- The properties declared as sort key. -/
def sortKeys : List String :=
  (s.attributes.filter fun a => a.2.sortKey).map Prod.fst

/-- Index names with the property that claims to be their range key, over the local indexes. -/
def localClaims : List (String × String) :=
  s.attributes.flatMap fun (property, a) => a.localIndex.toList.map fun index => (index, property)

/-- Index names with the property that claims to be their hash key, over the global indexes. -/
def hashClaims : List (String × String) :=
  s.attributes.flatMap fun (property, a) => a.hashIndexes.map fun index => (index, property)

/-- Index names with the property that claims to be their range key, over the global indexes. -/
def rangeClaims : List (String × String) :=
  s.attributes.flatMap fun (property, a) => a.rangeIndexes.map fun index => (index, property)

end Schema

/-- The index names of some claims, in the order of their first claim. -/
def claimedIndexes (claims : List (String × String)) : List String :=
  -- The first occurrence of a name stays.
  (claims.map Prod.fst).eraseDups

/-- The properties that claim an index, once per claim. -/
def claimants (claims : List (String × String)) (index : String) : List String :=
  (claims.filter fun claim => claim.1 == index).map Prod.snd

namespace Schema

variable (s : Schema)

/-- A blank table name. -/
def tableDefect? : Option SchemaDefect :=
  if Text.isBlank s.tableName then some .blankTable else none

/-- A blank name in the declaration of one property. -/
def attributeDefect? (property : String) (a : Attribute) : Option SchemaDefect :=
  if a.attributeName.any Text.isBlank then some (.blankAttribute property)
  else if (a.localIndex.toList ++ a.hashIndexes ++ a.rangeIndexes).any Text.isBlank then
    some (.blankIndex property)
  else none

/-- A fault in the primary key. -/
def primaryKeyDefect? : Option SchemaDefect :=
  match s.partitionKeys, s.sortKeys with
  | [], _ => some .noPartitionKey
  -- Too many partition keys are reported before too many sort keys.
  | partitionKeys@(_ :: _ :: _), _ => some (.manyPartitionKeys partitionKeys)
  | [_], sortKeys@(_ :: _ :: _) => some (.manySortKeys sortKeys)
  | [partitionKey], [sortKey] =>
    if partitionKey = sortKey then some (.partitionIsSort partitionKey) else none
  | [_], [] => none

/-- A global index with several hash keys. -/
def hashDefect? (index : String) : Option SchemaDefect :=
  let properties := claimants s.hashClaims index
  if 1 < properties.length then some (.manyHashKeys index properties) else none

/-- A global index with several range keys, or with a range key alone. -/
def rangeDefect? (index : String) : Option SchemaDefect :=
  let properties := claimants s.rangeClaims index
  if 1 < properties.length then some (.manyRangeKeys index properties)
  else if (claimedIndexes s.hashClaims).contains index then none
  else some (.rangeWithoutHash index)

/-- A local index that is shared, that is a global index as well, or that stands beside no sort
key. -/
def localDefect? (index : String) : Option SchemaDefect :=
  let properties := claimants s.localClaims index
  if 1 < properties.length then some (.sharedLocalIndex index properties)
  else if (claimedIndexes (s.hashClaims ++ s.rangeClaims)).contains index then
    some (.localAndGlobal index)
  else if s.sortKeys.isEmpty then some (.localWithoutSortKey index)
  else none

/-- An id property that does not stand for the two keys of the table, or that is itself stored. -/
def idDefect? : Option SchemaDefect :=
  s.compositeId.bind fun id =>
    match s.partitionKeys.head?, s.sortKeys.head? with
    | some partitionKey, some sortKey =>
      if id.partitionKey ≠ partitionKey ∨ id.sortKey ≠ sortKey then
        some (.idMapsOther id partitionKey sortKey)
      else if s.attributes.has id.property || isInherited id.property then
        some (.idIsStored id.property)
      else none
    | _, _ => some (.idWithoutSortKey id.property)

/-- The first inconsistency of a schema. -/
def defect? : Option SchemaDefect :=
  -- Names first, then the primary key, the global and the local indexes, and the id at last.
  s.tableDefect? <|>
  s.attributes.findSome? (fun (property, a) => attributeDefect? property a) <|>
  s.primaryKeyDefect? <|>
  (claimedIndexes s.hashClaims).findSome? s.hashDefect? <|>
  (claimedIndexes s.rangeClaims).findSome? s.rangeDefect? <|>
  (claimedIndexes s.localClaims).findSome? s.localDefect? <|>
  s.idDefect?

end Schema

end NamedQuery
