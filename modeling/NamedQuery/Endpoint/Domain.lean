import NamedQuery.Endpoint.Domain.Label
import NamedQuery.Text.Punycode

/-!
# Domain names

A domain name is compared and sent in ASCII. It is brought to its simple and composed form first,
and labels that are not ASCII then are written in Punycode. A name may hold labels that are in
Punycode already.

* `asciiLabel?` — the ASCII form of a label;
* `ascii?` — the ASCII form of a name.
-/

namespace NamedQuery.Domain

/-- What a label in Punycode starts with. -/
def punycodeMark : List Char := "xn--".toList

/-- Whether a text in Punycode gives a label. It has to be one whose simple and composed form is the
label itself, so that a label has one ASCII form only. -/
def isPunycode (text : List Char) : Bool :=
  match Text.Punycode.decode? text with
  | some label => !label.isEmpty && Text.compose label == label && isLabel label
  | none => false

/-- The ASCII form of a label in its simple and composed form. -/
def asciiLabel? (label : List Char) : Option (List Char) :=
  match Text.after? punycodeMark label with
  | some text => if label.all Text.Punycode.isBasic && isPunycode text then some label else none
  | none =>
    if label.all Text.Punycode.isBasic then some label
    else if isLabel label then some (punycodeMark ++ Text.Punycode.encode label)
    else none

/-- The ASCII form of a name. -/
def ascii? (name : List Char) : Option (List Char) := do
  let simple ← simplifyAll? name
  let labels ← (Text.pieces '.' (Text.compose simple)).mapM asciiLabel?
  pure (['.'].intercalate labels)

example : ascii? "LocalHost".toList = some "localhost".toList := by decide +kernel

end NamedQuery.Domain
