/-!
# Kinds of access

The ways in which a query method reads its table, from the cheapest to the dearest.
-/

namespace NamedQuery

/-- How a query method reads its table. -/
inductive AccessKind where
  /-- A single item by its full primary key. -/
  | directLoad
  /-- A partition of the table. -/
  | primarySortQuery
  /-- A partition of the table through a local index. -/
  | localIndexQuery
  /-- A global index. -/
  | globalIndexQuery
  /-- The whole table. -/
  | scan
deriving DecidableEq, Repr

def AccessKind.name : AccessKind → String
  | directLoad => "DIRECT_LOAD"
  | primarySortQuery => "PRIMARY_SORT_QUERY"
  | localIndexQuery => "LOCAL_INDEX_QUERY"
  | globalIndexQuery => "GLOBAL_INDEX_QUERY"
  | scan => "SCAN"

end NamedQuery
