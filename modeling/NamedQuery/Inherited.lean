/-!
# Names that every table carries

Every table carries a dozen names besides its own entries. Three look-ups ask whether a name is
present in a table of names: the check of a placeholder against the generated ones, the check of an
id property against the stored attributes, and the check of a log level. For them these names count
as present. So a placeholder of such a name always collides, and such an id property is always
refused. A look-up of a value under such a name finds something that no caller put there.
-/

namespace NamedQuery

/-- The names that are present in every table. -/
def inheritedNames : List String :=
  ["constructor", "toString", "toLocaleString", "valueOf", "hasOwnProperty", "isPrototypeOf",
   "propertyIsEnumerable", "__proto__", "__defineGetter__", "__defineSetter__",
   "__lookupGetter__", "__lookupSetter__"]

/-- Whether the name is present in every table. -/
def isInherited (name : String) : Bool :=
  inheritedNames.contains name

/-- The length of what every table carries under a name, where a length is asked for: the number of
parameters of a function. A record has no length, and that counts as zero. -/
def inheritedLength (name : String) : Nat :=
  if ["__defineGetter__", "__defineSetter__"].contains name then 2
  else if ["constructor", "hasOwnProperty", "isPrototypeOf", "propertyIsEnumerable",
      "__lookupGetter__", "__lookupSetter__"].contains name then 1
  else 0

/-- What every table carries under a name, where a text is asked for: a function shows the name it
was defined under, and a record only that it is one. -/
def inheritedText (name : String) : String :=
  if name = "__proto__" then "[object Object]"
  else
    "function " ++ (if name = "constructor" then "Object" else name) ++
      "() \x7b [native code] \x7d"

end NamedQuery
