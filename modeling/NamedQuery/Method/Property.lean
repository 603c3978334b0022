import NamedQuery.Entity
import NamedQuery.Text.Keyword

/-!
# Property texts

A method name spells properties with a capital first letter. `resolveProperty` finds the property
that a text means:

* with an underscore, a field of the id property: `PlaylistId_UserName`;
* a property of that name: `OrderDate` is `orderDate`, while `URL` stays `URL`;
* a field of the id property, at the first capital where both parts fit: `PlaylistIdUserName`.
-/

namespace NamedQuery

/-- A property as a method name reaches it. -/
inductive PropertyPath where
  /-- The property itself. -/
  | own (property : String)
  /-- A field of the id property, which stands for the key property of the same name. -/
  | nested (id field : String)
deriving DecidableEq, Repr

namespace PropertyPath

/-- The steps of the path. -/
def segments : PropertyPath → List String
  | own property => [property]
  | nested id field => [id, field]

/-- The property a condition on the path applies to. -/
def leaf : PropertyPath → String
  | own property => property
  | nested _ field => field

end PropertyPath

namespace Text

/-- The lower-case form of a first letter. Letters beyond the basic plane stay as they are. -/
def lowerFirst (c : Char) : List Char :=
  if c.toNat < 0x10000 then lowerCase c else [c]

/-- A text with its first letter in lower case, unless its first two letters are both capitals. -/
def decapitalizeChars : List Char → List Char
  | [] => []
  | [c] => lowerFirst c
  | c :: d :: text =>
    if isCapital c && isCapital d then c :: d :: text else lowerFirst c ++ d :: text

/-- A text with its first letter in lower case, unless its first two letters are both capitals. -/
def decapitalize (text : String) : String :=
  String.ofList (decapitalizeChars text.toList)

end Text

namespace CompositeId

/-- Whether a field of the id has that name. -/
def hasField (id : CompositeId) (field : String) : Bool :=
  field == id.partitionKey || field == id.sortKey

/-- The path to a field of the id, if the two texts name the id and one of its fields. -/
def path? (id : CompositeId) (head tail : List Char) : Option PropertyPath :=
  let property := String.ofList (Text.decapitalizeChars head)
  let field := String.ofList (Text.decapitalizeChars tail)
  if property = id.property ∧ id.hasField field then some (.nested property field) else none

end CompositeId

namespace Entity

variable (e : Entity)

/-- The property that a text with an underscore means. -/
def underscorePath? (text : List Char) : Option PropertyPath :=
  match Text.pieces '_' text with
  | [head, tail] => e.compositeId?.bind fun id => id.path? head tail
  | _ => none

/-- The property that a text without an underscore means. -/
def plainPath? (text : List Char) : Option PropertyPath :=
  let property := String.ofList (Text.decapitalizeChars text)
  if e.hasProperty property then some (.own property)
  else
    e.compositeId?.bind fun id =>
      (Text.capitalCuts text).findSome? fun (head, tail) => id.path? head tail

/-- The property that a text of a method name means. -/
def resolveProperty (text : String) : Option PropertyPath :=
  let chars := text.toList
  if chars.isEmpty then none
  else if chars.contains '_' then e.underscorePath? chars
  else e.plainPath? chars

end Entity

end NamedQuery
