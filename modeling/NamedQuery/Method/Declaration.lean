import NamedQuery.Access.Path
import NamedQuery.Request

/-!
# Method declarations

The name of a query method carries its criteria; its declaration carries what it hands back and the
options of its requests.

* `Declaration` — a declaration as it was given;
* `Declaration.check` — holds a declaration against its query. The shape is judged first, then the
  number of parameters, the page size, the projection and the static placeholders.
-/

namespace NamedQuery

/-- The declaration of a query method. -/
structure Declaration where
  /-- The name of the shape of the result. -/
  returns : String
  /-- The number of parameters the method is declared with. -/
  parameterCount : Option Float := none
  /-- The permission to scan; by default that of the repository. -/
  enableScan : Option Bool := none
  /-- The permission to count by a scan; by default that of the repository. -/
  enableScanCount : Option Bool := none
  options : RequestOptions := {}

/-- Whether a text is a mark, one of some letters and a numeral. -/
def isNumbered (mark : Char) (letters : List Char) (text : String) : Bool :=
  match text.toList with
  | m :: letter :: digit :: digits =>
    m == mark && letters.contains letter && (digit :: digits).all Char.isDigit
  | _ => false

/-- Whether the placeholder of an attribute name looks like a generated one. -/
def isGeneratedName (placeholder : String) : Bool :=
  isNumbered '#' ['k', 'n', 'p'] placeholder

/-- Whether the placeholder of a value looks like a generated one. -/
def isGeneratedValue (placeholder : String) : Bool :=
  isNumbered ':' ['k', 'v'] placeholder

/-- Whether a number can be a page size. -/
def isPageSize (x : Float) : Bool :=
  match Decimal.whole? x with
  | some n => 1 ≤ n
  | none => false

namespace Declaration

/-- The shape of the result, if a method with that subject may have it. -/
def shape? (d : Declaration) (subject : Subject) : Option ResultShape :=
  subject.shapes.find? fun shape => shape.name == d.returns

/-- The static placeholders that look like generated ones. -/
def reserved (d : Declaration) : List String :=
  d.options.placeholders.names.names.filter isGeneratedName ++
    d.options.placeholders.values.names.filter isGeneratedValue

/-- Holds a declaration against its query, and gives the shape of the result. -/
def check (d : Declaration) (e : Entity) (q : Query) : Except Cause ResultShape := do
  match d.shape? q.subject with
  | none => throw (.shapeNotAllowed q.subject d.returns)
  | some shape =>
    -- Compared as numbers, since a declaration may state a count that is none.
    if let some actual := d.parameterCount then
      if actual != Float.ofNat q.parameterCount then
        throw (.parameterCount q.parameterCount actual)
    if d.options.pageSize.any (!isPageSize ·) then
      throw .pageSize
    if let some property := d.options.projection.find? (!e.hasProperty ·) then
      throw (.unknownProperty property e.name)
    if !d.reserved.isEmpty then
      throw (.reservedPlaceholders d.reserved)
    pure shape

/-- The permissions of a method: its own where the declaration gives one, else the given ones. -/
def policy (d : Declaration) (enableScan enableScanCount : Option Bool) : ScanPolicy :=
  { enableScan := (d.enableScan.or enableScan).getD false
    enableScanCount := (d.enableScanCount.or enableScanCount).getD false }

end Declaration

end NamedQuery
