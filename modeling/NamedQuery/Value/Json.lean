import NamedQuery.Value

/-!
# Values as JSON text

Log lines show their context as JSON.

* `Value.json?` — the text, or nothing for a value that has no JSON form: absent values, functions
  and symbols. Such a value is left out of a record and written as `null` in a list, as a gap is.
  Numbers that JSON cannot express are `null`, an instant is its calendar date, and sets and maps
  show no contents.
* `Value.holdsInteger` — whether a text would have to show an integer, which JSON cannot tell from a
  number. Such a value is not written at all.
-/

namespace NamedQuery

namespace Json

/-- The hexadecimal digits of a number below `2 ^ 16`. -/
def hex4 (n : Nat) : List Char :=
  [n / 4096, n / 256, n / 16, n].map fun d => (Nat.digitChar (d % 16))

/-- A character inside a quoted text. -/
def escape (c : Char) : List Char :=
  match c with
  | '"' => ['\\', '"']
  | '\\' => ['\\', '\\']
  | '\n' => ['\\', 'n']
  | '\t' => ['\\', 't']
  | '\r' => ['\\', 'r']
  | c =>
    if c.toNat == 8 then ['\\', 'b']
    else if c.toNat == 12 then ['\\', 'f']
    else if c.toNat < 32 then '\\' :: 'u' :: hex4 c.toNat
    else [c]

/-- A text in quotation marks. -/
def quote (s : String) : String :=
  String.ofList ('"' :: (s.toList.flatMap escape ++ ['"']))

/-- A number; those that are not finite are written as null. -/
def number (x : Float) : String :=
  if x.isNaN || x.isInf then "null" else Decimal.write x

/-- Parts between two brackets, with commas. -/
def enclose (opening closing : String) (parts : List String) : String :=
  opening ++ ",".intercalate parts ++ closing

end Json

namespace Value

mutual

/-- The JSON text of a value, if it has one. -/
def json? : Value → Option String
  | absent | function | symbol _ | integer _ => none
  | null => some "null"
  | bool b => some (if b then "true" else "false")
  | number x => some (Json.number x)
  | text s => some (Json.quote s)
  | list slots => some (Json.enclose "[" "]" (jsonSlots slots))
  | bytes octets => some (Json.enclose "\x7b" "\x7d" (octets.zipIdx.map fun (b, i) =>
      Json.quote (position i) ++ ":" ++ toString b.toNat))
  | instant millis =>
    some (match Calendar.iso? millis with
      | some date => Json.quote date
      | none => "null")
  | set _ | map _ => some "\x7b\x7d"
  | record fields | bare fields | object fields =>
    some (Json.enclose "\x7b" "\x7d" (jsonFields fields))

/-- The JSON texts of the slots of a list. -/
def jsonSlots : List (Option Value) → List String
  | [] => []
  | none :: slots => "null" :: jsonSlots slots
  | some v :: slots => ((json? v).getD "null") :: jsonSlots slots

/-- The JSON texts of the fields of a record that have one. -/
def jsonFields : List (String × Value) → List String
  | [] => []
  | (name, v) :: fields =>
    match json? v with
    | some written => (Json.quote name ++ ":" ++ written) :: jsonFields fields
    | none => jsonFields fields

end

mutual

/-- Whether the JSON text of a value would have to show an integer. -/
def holdsInteger : Value → Bool
  | integer _ => true
  | list slots => anyHoldsInteger slots
  | record fields | bare fields | object fields => fieldsHoldInteger fields
  | _ => false

/-- Whether the JSON text of a list would have to show an integer. -/
def anyHoldsInteger : List (Option Value) → Bool
  | [] => false
  | none :: slots => anyHoldsInteger slots
  | some v :: slots => holdsInteger v || anyHoldsInteger slots

/-- Whether the JSON text of a record would have to show an integer. -/
def fieldsHoldInteger : List (String × Value) → Bool
  | [] => false
  | (_, v) :: fields => holdsInteger v || fieldsHoldInteger fields

end

end Value

end NamedQuery
