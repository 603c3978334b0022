import NamedQuery.TableName

/-!
# Error reports

What a caller sees of an error: its kind, a stable code, a message, the query method it belongs to
and details. The kinds form families, so that a caller can handle all configuration errors alike.

* `ErrorKind` — the kinds, with their names, codes and families;
* `Report` — a report, with one constructor function per kind that fixes the wording the kind
  always has;
* `Report.text` — the one-line form.
-/

namespace NamedQuery

/-- The kinds of errors. -/
inductive ErrorKind where
  | repository
  | configuration
  | invalidEntity
  | unknownProperty
  | parameterCount
  | scanNotEnabled
  | scanCountNotEnabled
  | unsupported
  | parameterBinding
  | batchDelete
deriving DecidableEq, Repr

namespace ErrorKind

def all : List ErrorKind :=
  [repository, configuration, invalidEntity, unknownProperty, parameterCount, scanNotEnabled,
   scanCountNotEnabled, unsupported, parameterBinding, batchDelete]

def name : ErrorKind → String
  | repository => "RepositoryError"
  | configuration => "ConfigurationError"
  | invalidEntity => "EntityValidationError"
  | unknownProperty => "PropertyResolutionError"
  | parameterCount => "ParameterCountMismatchError"
  | scanNotEnabled => "ScanNotEnabledError"
  | scanCountNotEnabled => "ScanCountNotEnabledError"
  | unsupported => "UnsupportedOperationError"
  | parameterBinding => "ParameterBindingError"
  | batchDelete => "BatchDeleteError"

/-- The code of a kind. All configuration errors share theirs. -/
def code : ErrorKind → String
  | repository => "RepositoryError"
  | unsupported => "UnsupportedOperation"
  | parameterBinding => "ParameterBinding"
  | batchDelete => "BatchDeleteFailed"
  | _ => "ConfigurationError"

/-- The family a kind belongs to: the kind itself, or the configuration errors. -/
def family : ErrorKind → ErrorKind
  | invalidEntity | unknownProperty | parameterCount | scanNotEnabled | scanCountNotEnabled =>
    configuration
  | kind => kind

/-- The families that callers handle, of those that the kind belongs to. Every kind is a
repository error. -/
def families (kind : ErrorKind) : List ErrorKind :=
  repository :: [configuration, unsupported, parameterBinding].filter (· == kind.family)

end ErrorKind

/-- What a caller sees of an error. -/
structure Report where
  kind : ErrorKind
  code : String
  message : String
  /-- The query method the error belongs to. -/
  method : Option String := none
  details : Option (Fields Value) := none

namespace Report

/-- The one-line form: code, message and, if there is one, the method. -/
def text (r : Report) : String :=
  let line := "[" ++ r.code ++ "] " ++ r.message
  match r.method with
  | some "" | none => line
  | some method => line ++ " (method " ++ method ++ ")"

/-- The report as a record. -/
def toValue (r : Report) : Value :=
  .record [("name", .text r.kind.name), ("code", .text r.code), ("message", .text r.message),
    ("methodName", optional .text r.method), ("details", optional .record r.details)]

/-- A report of some kind under the kind's own code. -/
def ofKind (kind : ErrorKind) (message : String) (method : Option String)
    (details : Option (Fields Value)) : Report :=
  { kind, code := kind.code, message, method, details }

/-- An invalid entity schema. -/
def invalidEntity (entity message : String) : Report :=
  ofKind .invalidEntity ("Invalid entity " ++ entity ++ ": " ++ message) none
    (some [("entityName", .text entity)])

/-- A property that an entity does not have. -/
def unknownProperty (path entity : String) (method : Option String) : Report :=
  ofKind .unknownProperty ("No property " ++ path ++ " found on entity " ++ entity) method
    (some [("propertyPath", .text path), ("entityName", .text entity)])

/-- A method that was declared or called with another number of arguments than it binds. -/
def parameterCount (method : String) (expected actual : Float) : Report :=
  ofKind .parameterCount
    ("Method " ++ method ++ " binds " ++ Decimal.write expected ++ " parameter(s) but " ++
      Decimal.write actual ++ " " ++ (if actual == 1 then "was" else "were") ++ " supplied")
    (some method) (some [("expected", .number expected), ("actual", .number actual)])

/-- A method that only a scan can serve, which it has no permission for. -/
def scanNotEnabled (method : String) : Report :=
  ofKind .scanNotEnabled
    ("Scanning for this query is not enabled. To enable, set enableScan on the method " ++
      "declaration, or enable scanning for all methods with the repository enableScan option")
    (some method) none

/-- A counting method that only a scan can serve, which it has no permission for. -/
def scanCountNotEnabled (method : String) : Report :=
  ofKind .scanCountNotEnabled
    ("Scanning for the total count of this query is not enabled. To enable, set " ++
      "enableScanCount on the method declaration, or enable it for all methods with the " ++
      "repository enableScanCount option")
    (some method) none

/-- A batch delete that left items behind. -/
def batchDelete (table : TableName) (unprocessed : Float) : Report :=
  ofKind .batchDelete
    ("Batch delete on " ++ table.shown ++ " left " ++ Decimal.write unprocessed ++
      " item(s) unprocessed")
    none (some [("tableName", table.toValue), ("unprocessedCount", .number unprocessed)])

end Report

end NamedQuery
