import NamedQuery.Fields
import NamedQuery.Decimal.Notation
import NamedQuery.Calendar
import NamedQuery.Inherited

/-!
# Values

Arguments of query methods and attributes of items are values of any kind. Only some kinds can be
stored; the others are here because callers may pass them and are told so.

* `Value` — the kinds of values. A list has gaps where it holds no value at a position;
* `Value.ofList` — the list of some values, without gaps;
* `Value.isStorable` — whether a value can be stored as an attribute: texts, numbers, truth values,
  null, bytes, sets of only texts or only numbers, and lists and records that hold such values;
* `Value.elements?` — what a list or set gives for its positions. A gap gives an absent value;
* `Value.setOf`, `Value.mapOf` — a set or map from a list, where equal elements or keys collapse;
* `Value.display` — a value as plain text, for a log line about something that is no error;
* `Value.unshown?` — what keeps a value from being shown so.
-/

namespace NamedQuery

/-- A value of any kind. `record` is a plain record of named fields and `bare` one that carries no
other names (`isInherited`). `object` is one that is more than its fields, so that it is never
stored as it is. A slot of a list is empty where the list has a gap. -/
inductive Value where
  | absent
  | null
  | bool (b : Bool)
  | number (x : Float)
  | text (s : String)
  | integer (n : Int)
  | symbol (name : String)
  | function
  | list (slots : List (Option Value))
  | set (elements : List Value)
  | bytes (octets : List UInt8)
  | instant (millis : Float)
  | map (entries : List (Value × Value))
  | record (fields : List (String × Value))
  | bare (fields : List (String × Value))
  | object (fields : List (String × Value))

namespace Value

instance : Inhabited Value := ⟨.absent⟩

/-- The list of some values, without gaps. -/
def ofList (values : List Value) : Value :=
  list (values.map some)

/-- The name of a value's kind, as error details give it. Everything that has parts is an
`object`, and so is null. -/
def kind : Value → String
  | absent => "undefined"
  | bool _ => "boolean"
  | number _ => "number"
  | text _ => "string"
  | integer _ => "bigint"
  | symbol _ => "symbol"
  | function => "function"
  | _ => "object"

/-- Whether there is no value to speak of: it is absent or null. -/
def isMissing : Value → Bool
  | absent | null => true
  | _ => false

/-- Whether the value is there at all. -/
def isAbsent : Value → Bool
  | absent => true
  | _ => false

/-- Whether the value counts as true: it is not missing, false, zero, undefined or empty text. -/
def isTruthy : Value → Bool
  | absent | null => false
  | bool b => b
  | number x => !(x == 0 || x.isNaN)
  | text s => s != ""
  | integer n => n != 0
  | _ => true

def isText : Value → Bool
  | text _ => true
  | _ => false

def isNumber : Value → Bool
  | number _ => true
  | _ => false

/-- Whether the value is a plain record. -/
def isRecord : Value → Bool
  | record _ | bare _ => true
  | _ => false

/-- What a list or set gives for its positions, in order. Where a list has a gap it gives an absent
value, so that a gap counts as an element here. -/
def elements? : Value → Option (List Value)
  | list slots => some (slots.map (·.getD absent))
  | set elements => some elements
  | _ => none

/-- A list without gaps gives the values it was made of. -/
@[simp]
theorem elements?_ofList (values : List Value) : (ofList values).elements? = some values := by
  simp [ofList, elements?, Function.comp_def]

/-- The number, if the value is one. -/
def number? : Value → Option Float
  | number x => some x
  | _ => none

/-- The fields of a record or object. -/
def fields? : Value → Option (Fields Value)
  | record fields | bare fields | object fields => some fields
  | _ => none

/-- The text form of a natural number as a field name. -/
def position (n : Nat) : String :=
  toString n

/-- The fields a value has of its own. Lists, texts and bytes have their elements under their
positions, and there is none for a gap. -/
def ownFields : Value → Fields Value
  | record fields | bare fields | object fields => fields
  -- The positions count the gaps, although a gap has no field.
  | list slots => slots.zipIdx.filterMap fun (slot, i) => slot.map (position i, ·)
  | text s => s.toList.zipIdx.map fun (c, i) => (position i, text (String.singleton c))
  | bytes octets => octets.zipIdx.map fun (b, i) => (position i, number (Float.ofNat b.toNat))
  | _ => []

/-- What a record holds under a name that it carries besides its own: a function, or an empty record
under the name of what it is derived from. -/
def inherited (name : String) : Value :=
  if name = "__proto__" then record []
  else if isInherited name then function
  else absent

/-- The value of a field of a record or object; absent where there is none. -/
def field (v : Value) (name : String) : Value :=
  match v with
  | record fields | object fields => (Fields.get? fields name).getD (inherited name)
  | bare fields => (Fields.get? fields name).getD absent
  | _ => absent

/-! ### Storable values -/

mutual

/-- Whether a value can be stored as an attribute. -/
def isStorable : Value → Bool
  | null | bool _ | number _ | text _ | bytes _ => true
  -- An empty set is one of texts and one of numbers.
  | set elements => elements.all isText || elements.all isNumber
  | list slots => areStorable slots
  | record fields | bare fields => haveStorable fields
  | _ => false

/-- Whether every value that a list holds can be stored. A gap holds none, and is passed over. -/
def areStorable : List (Option Value) → Bool
  | [] => true
  | none :: slots => areStorable slots
  | some v :: slots => isStorable v && areStorable slots

/-- Whether every field of a record can be stored. -/
def haveStorable : List (String × Value) → Bool
  | [] => true
  | (_, v) :: fields => isStorable v && haveStorable fields

end

/-! ### Sets and maps -/

/-- Whether two values count as one element of a set. The undefined number equals itself, and
values with parts are never equal. -/
def sameElement : Value → Value → Bool
  | absent, absent | null, null => true
  | bool a, bool b => a == b
  | number x, number y => x == y || (x.isNaN && y.isNaN)
  | text s, text t => s == t
  | integer m, integer n => m == n
  | _, _ => false

/-- An element as a set keeps it, or a key as a map does: a negative zero becomes zero. -/
def normalElement : Value → Value
  | number x => if x == 0 then number 0 else number x
  | v => v

/-- The set of some elements in the order in which they first occur. -/
def setOf (elements : List Value) : Value :=
  set (elements.foldl (fun kept v =>
    -- Normal first: the two zeros are one element.
    let v := normalElement v
    if kept.any (sameElement v) then kept else kept ++ [v]) [])

/-- The map of some entries. Of several entries for one key the last counts, in the place of the
first. -/
def mapOf (entries : List (Value × Value)) : Value :=
  map (entries.foldl (fun kept (key, v) =>
    let key := normalElement key
    if kept.any fun entry => sameElement key entry.1 then
      kept.map fun entry => if sameElement key entry.1 then (entry.1, v) else entry
    else kept ++ [(key, v)]) [])

/-! ### Values as plain text -/

mutual

/-- A value as plain text. A list shows its elements with commas between them, a missing one and a
gap as nothing. -/
def display : Value → String
  | absent => "undefined"
  | null => "null"
  | bool b => if b then "true" else "false"
  | number x => Decimal.write x
  | text s => s
  | integer n => toString n
  | symbol name => "Symbol(" ++ name ++ ")"
  | function => "function"
  | list slots => ",".intercalate (displaySlots slots)
  | set _ => "[object Set]"
  | bytes octets => ",".intercalate (octets.map fun b => toString b.toNat)
  | instant millis => (Calendar.long? millis).getD "Invalid Date"
  | map _ => "[object Map]"
  | record _ | bare _ | object _ => "[object Object]"

/-- The slots of a list as plain text. -/
def displaySlots : List (Option Value) → List String
  | [] => []
  | none :: slots => "" :: displaySlots slots
  | some v :: slots => (if v.isMissing then "" else display v) :: displaySlots slots

end

/-- Why a value has no plain text. -/
inductive Unshown where
  /-- It is a bare record. -/
  | bare
  /-- It is a symbol among the elements of a list. A symbol alone shows its name. -/
  | symbol
deriving DecidableEq, Repr

mutual

/-- What keeps a value from being shown as plain text. -/
def unshown? : Value → Option Unshown
  | bare _ => some .bare
  | list slots => unshownAmong? slots
  | _ => none

/-- What keeps the slots of a list from being shown, the first of them that cannot be. -/
def unshownAmong? : List (Option Value) → Option Unshown
  | [] => none
  | none :: slots => unshownAmong? slots
  | some (symbol _) :: _ => some .symbol
  | some v :: slots => (unshown? v).or (unshownAmong? slots)

end

end Value

/-- The value of something that may be left out; absent if it is. -/
def optional {α : Type} (toValue : α → Value) (x : Option α) : Value :=
  (x.map toValue).getD .absent

end NamedQuery
