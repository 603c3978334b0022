import NamedQuery.Access.Kind
import NamedQuery.Config.Defect
import NamedQuery.Operator
import NamedQuery.Report
import NamedQuery.Schema
import NamedQuery.Subject

/-!
# Errors

Everything this library can refuse, as a cause. An error is a cause with the query method it belongs
to, if it belongs to one.

* `Cause` — the causes, in the order in which a method meets them: its name, its properties, its
  access path, its declaration, its arguments, its calls;
* `Cause.kind` — the kind of error a cause is reported as;
* `Error.report` — the report of an error, which is the only place where errors are worded;
* `Thrown` — what a run can end in instead of a result: an error of this library, or whatever came
  out of the store;
* `Cause.thrown` — what a query method ends in for a cause.
-/

namespace NamedQuery

/-- Why something was refused. -/
inductive Cause where
  /-- A method name that starts with no known verb. -/
  | noVerb
  /-- A `By` with nothing after it. -/
  | noCriteria
  /-- A limit of zero results. -/
  | limitBelowOne
  /-- Two `And` in a row. -/
  | emptySegment
  /-- An `OrderBy` without a property. -/
  | orderWithoutProperty
  | ignoreCase
  | alternatives
  | severalOrders
  | unknownProperty (path entity : String)
  | unsupportedKeyword (keyword : String)
  /-- The id property together with another criterion, with an order or a limit, or compared
  otherwise than by equality. -/
  | idNotAlone (property : String)
  | hashKeyCondition (property : String) (operator : Operator)
  | orderNotServed (rangeKey : Option String) (property : String)
  | orderOnScan
  | scanNotEnabled
  | scanCountNotEnabled
  | shapeNotAllowed (subject : Subject) (returns : String)
  | parameterCount (expected : Nat) (actual : Float)
  | pageSize
  /-- Placeholders of a static filter that look like generated ones. -/
  | reservedPlaceholders (placeholders : List String)
  | noKeyCondition (kind : AccessKind)
  /-- An argument was asked for where there is no criterion to take it for. This is a fault of the
  caller and no error of this library (`Cause.thrown`). -/
  | noCriterion
  | placeholderCollision (placeholder : String)
  | noCompositeId (entity : String)
  | idArgument (id : CompositeId)
  | nullArgument (property : String)
  | notStorable (property kind : String)
  | emptyCollection (property : String)
  | notSingle (operator : Operator) (property : String) (size : Nat)
  | otherShape (declared asked : ResultShape)
  | alreadyIterated
  | unknownMethod (entity : String)
  | noPartitionKeyValue (entity : String)
  | noSortKeyValue (entity : String)
  | unstorableProperty (property entity : String)
  | itemWithoutKey (entity property : String)
  | unprocessedDeletes (table : TableName) (count : Nat)
  | invalidSchema (entity : String) (defect : SchemaDefect)
  | invalidConfig (defect : ConfigDefect)

/-- The kind of error a cause is reported as. -/
def Cause.kind : Cause → ErrorKind
  | unknownProperty .. => .unknownProperty
  | parameterCount .. => .parameterCount
  | scanNotEnabled => .scanNotEnabled
  | scanCountNotEnabled => .scanCountNotEnabled
  | invalidSchema .. => .invalidEntity
  | ignoreCase | alternatives | severalOrders | unsupportedKeyword _ | idNotAlone _
  | hashKeyCondition .. | orderNotServed .. | orderOnScan | alreadyIterated => .unsupported
  | idArgument _ | nullArgument _ | notStorable .. | emptyCollection _ | notSingle ..
  | noPartitionKeyValue _ | noSortKeyValue _ | unstorableProperty .. | itemWithoutKey .. =>
    .parameterBinding
  | unprocessedDeletes .. => .batchDelete
  | _ => .configuration

/-- A cause with the query method it belongs to. -/
structure Error where
  cause : Cause
  method : Option String := none

/-- The error of a query method. -/
def Cause.of (cause : Cause) (method : String) : Error :=
  { cause, method := some method }

/-- The wording of a cause in the method `method`. The causes with a kind of their own are worded by
that kind. -/
def Cause.message (cause : Cause) (method : String) : String :=
  match cause with
  | noVerb =>
    "Method name " ++ method ++ " must start with find, get, read, query, count, exists or delete"
  | noCriteria => "Method name " ++ method ++ " has no criteria after By"
  | limitBelowOne => "Result limit of " ++ method ++ " must be at least 1"
  | emptySegment => "Empty criteria segment in " ++ method
  | orderWithoutProperty => "OrderBy clause of " ++ method ++ " names no property"
  | ignoreCase => "Case insensitivity not supported"
  | alternatives => "Or queries not supported"
  | severalOrders => "Sorting by multiple attributes not possible"
  | unsupportedKeyword keyword => "Unsupported keyword " ++ keyword
  | idNotAlone property =>
    "Id property " ++ property ++ " can only be used alone with an equality condition"
  | hashKeyCondition property operator =>
    "Only equality conditions are supported on index hash key " ++ property ++ ", not " ++
      operator.name
  | orderNotServed rangeKey property =>
    "Sorting only possible by [" ++ rangeKey.getD "" ++
      "] for the criteria specified and not for " ++ property
  | orderOnScan => "Sorting not possible for scan operations"
  | shapeNotAllowed subject returns =>
    "Method " ++ method ++ " must return " ++
      " or ".intercalate (subject.shapes.map ResultShape.name) ++ ", not " ++ returns
  | pageSize => "Page size of " ++ method ++ " must be a positive integer"
  | reservedPlaceholders placeholders =>
    "Filter expression placeholders of " ++ method ++ " clash with derived placeholders: " ++
      ", ".intercalate placeholders
  | noKeyCondition kind => kind.name ++ " of " ++ method ++ " has no key condition"
  | noCriterion => "Cannot read properties of undefined (reading 'argumentOffset')"
  | placeholderCollision placeholder =>
    "Placeholder " ++ placeholder ++ " of the filter expression of " ++ method ++
      " collides with a derived placeholder"
  | noCompositeId entity => "Entity " ++ entity ++ " declares no composite id"
  | idArgument id =>
    "Argument for " ++ id.property ++ " must be an object holding " ++ id.partitionKey ++ " and " ++
      id.sortKey
  | nullArgument _ => "Creating conditions on null parameters not supported"
  | notStorable property _ => "Argument for property " ++ property ++ " is not a storable value"
  | emptyCollection property => "IN on property " ++ property ++ " requires a non-empty collection"
  | notSingle operator property _ =>
    "Only a single value or a one-element collection can be used with " ++ operator.name ++
      " on property " ++ property
  | otherShape declared asked =>
    "Method " ++ method ++ " is declared to return " ++ declared.name ++ ", not " ++ asked.name
  | alreadyIterated => "Paged results can only be iterated once"
  | unknownMethod entity =>
    "No method " ++ method ++ " declared on the " ++ entity ++ " repository"
  | noPartitionKeyValue entity => "Key of " ++ entity ++ " has no partition key value"
  | noSortKeyValue entity => "Key of " ++ entity ++ " has no sort key value"
  | unstorableProperty property entity =>
    "Property " ++ property ++ " of " ++ entity ++ " holds a value that cannot be stored"
  | itemWithoutKey entity property =>
    "Item of " ++ entity ++ " has no value for key property " ++ property
  | invalidConfig defect => defect.message
  | unknownProperty path entity => (Report.unknownProperty path entity none).message
  | parameterCount expected actual =>
    (Report.parameterCount method (Float.ofNat expected) actual).message
  | scanNotEnabled => (Report.scanNotEnabled method).message
  | scanCountNotEnabled => (Report.scanCountNotEnabled method).message
  | unprocessedDeletes table count => (Report.batchDelete table (Float.ofNat count)).message
  | invalidSchema entity defect => (Report.invalidEntity entity defect.message).message

/-- The details of a cause. -/
def Cause.details? : Cause → Option (Fields Value)
  | unknownProperty path entity => (Report.unknownProperty path entity none).details
  | parameterCount expected actual =>
    (Report.parameterCount "" (Float.ofNat expected) actual).details
  | unprocessedDeletes table count => (Report.batchDelete table (Float.ofNat count)).details
  | invalidSchema entity defect => (Report.invalidEntity entity defect.message).details
  | shapeNotAllowed subject returns =>
    some [("subject", .text subject.name), ("returns", .text returns)]
  | reservedPlaceholders placeholders =>
    some [("placeholders", .ofList (placeholders.map Value.text))]
  | placeholderCollision placeholder => some [("placeholder", .text placeholder)]
  | idArgument id => some [("property", .text id.property)]
  | nullArgument property | emptyCollection property | unstorableProperty property _
  | itemWithoutKey _ property => some [("property", .text property)]
  | notStorable property kind => some [("property", .text property), ("type", .text kind)]
  | notSingle _ property size =>
    some [("property", .text property), ("size", .number (Float.ofNat size))]
  | invalidConfig (.endpointFormat _) => some [("cause", .text "Invalid URL")]
  | _ => none

/-- What a caller sees of an error. -/
def Error.report (e : Error) : Report :=
  Report.ofKind e.cause.kind (e.cause.message (e.method.getD "")) e.method e.cause.details?

/-- What a run can end in instead of a result. -/
inductive Thrown where
  | error (e : Error)
  /-- An error that is not this library's own. -/
  | fault (name message : String)
  /-- A value that is no error. -/
  | value (v : Value)

/-- What a query method ends in for a cause: an error that names the method, unless the cause is a
fault. -/
def Cause.thrown (cause : Cause) (method : String) : Thrown :=
  match cause with
  | .noCriterion => .fault "TypeError" (cause.message method)
  | _ => .error (cause.of method)

end NamedQuery
