import NamedQuery.Endpoint.Domain
import NamedQuery.Endpoint.Ipv6

/-!
# Hosts

The host of an endpoint: an address, a domain name, or for schemes that do not know domain names any
text.

* `Host` — the four kinds of hosts;
* `Host.ofDomain?` — the host that a text names under a scheme with domain names;
* `Host.opaque?` — the host that a text names under another scheme;
* `Host.write` — the text of a host.
-/

namespace NamedQuery

/-- The host of an endpoint. -/
inductive Host where
  | domain (name : String)
  /-- An address below `2 ^ 32`. -/
  | short (address : Nat)
  /-- An address of eight numbers. -/
  | long (groups : List Nat)
  | other (text : String)
deriving DecidableEq, Repr

/-- A byte as a percent sign and two hexadecimal digits. -/
def percent (byte : UInt8) : List Char :=
  let digit (n : Nat) : Char := (Nat.digitChar n).toUpper
  ['%', digit (byte.toNat / 16), digit (byte.toNat % 16)]

/-- A text in which some characters are replaced by their bytes. All characters beyond ASCII are. -/
def percentEncode (special : Char → Bool) (text : List Char) : List Char :=
  text.flatMap fun c =>
    if special c || c.toNat < 32 || 126 < c.toNat then (String.utf8EncodeChar c).flatMap percent
    else [c]

/-- The bytes of a text in which bytes stand as percent signs with two digits. -/
def percentDecode : List Char → List UInt8
  | [] => []
  | '%' :: a :: b :: text =>
    match Ipv4.digit? a, Ipv4.digit? b with
    | some high, some low => UInt8.ofNat (16 * high + low) :: percentDecode text
    | _, _ => String.utf8EncodeChar '%' ++ percentDecode (a :: b :: text)
  | c :: text => String.utf8EncodeChar c ++ percentDecode text

namespace Host

/-- The characters that no host can hold. -/
def isForbidden (c : Char) : Bool :=
  c.toNat == 0 || "\t\n\r #/:<>?@[\\]^|".toList.contains c

/-- The characters that no domain name can hold. -/
def isForbiddenInDomain (c : Char) : Bool :=
  isForbidden c || c.toNat < 32 || c == '%' || c.toNat == 127

/-- The address between brackets. -/
def bracketed? (text : List Char) : Option Host :=
  match text.getLast? with
  | some ']' => (Ipv6.address? text.dropLast).map long
  | _ => none

/-- The host that a text names where domain names are known. -/
def ofDomain? (text : List Char) : Option Host :=
  match text with
  | '[' :: text => bracketed? text
  | text => do
    let decoded ← String.fromUTF8? (percentDecode text).toByteArray
    let name ← Domain.ascii? decoded.toList
    if name.isEmpty || name.any isForbiddenInDomain then none
    else if Ipv4.endsInNumber name then (Ipv4.address? name).map short
    else some (domain (String.ofList name))

/-- The host that a text names where domain names are not known. -/
def opaque? (text : List Char) : Option Host :=
  match text with
  | '[' :: text => bracketed? text
  | text =>
    if text.any isForbidden then none
    else some (other (String.ofList (percentEncode (fun _ => false) text)))

/-- The text of a host. -/
def write : Host → String
  | domain name => name
  | short address => Ipv4.write address
  | long groups => "[" ++ Ipv6.write groups ++ "]"
  | other text => text

end Host

end NamedQuery
