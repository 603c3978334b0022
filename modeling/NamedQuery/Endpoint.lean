import NamedQuery.Endpoint.Host

/-!
# Endpoints

The address of a store is written as a URL:

```text
{scheme}:[//[{credentials}@]{host}[:{port}]][{path}][?{query}][#{fragment}]
```

Reading is lenient where the text can only be meant in one way. White space around the text and line
breaks inside it are passed over; the schemes of the web need no slashes in front of the host, take
backslashes for slashes, and always have a host.

* `Endpoint` — scheme, host, port and path;
* `Endpoint.parse?` — reads an endpoint.
-/

namespace NamedQuery

/-- The address of a store. -/
structure Endpoint where
  /-- In lower case and without its colon. -/
  scheme : String
  host : Option Host
  /-- Absent where it is the default of the scheme. -/
  port : Option Nat
  path : String
deriving DecidableEq, Repr

namespace Endpoint

/-- The schemes of the web with their default ports. -/
def webSchemes : List (String × Nat) :=
  [("http", 80), ("https", 443), ("ws", 80), ("wss", 443), ("ftp", 21)]

/-- What kind of addresses a scheme has. -/
inductive SchemeKind where
  | web
  | file
  | other
deriving DecidableEq, Repr

def SchemeKind.of (scheme : String) : SchemeKind :=
  if (webSchemes.map Prod.fst).contains scheme then .web
  else if scheme = "file" then .file
  else .other

/-- Drops white space and controls at both ends, and tabs and line breaks everywhere. -/
def clean (text : List Char) : List Char :=
  let isEdge (c : Char) : Bool := c.toNat ≤ 32
  let trimmed := ((text.dropWhile isEdge).reverse.dropWhile isEdge).reverse
  trimmed.filter fun c => !(c == '\t' || c == '\n' || c == '\r')

/-- The scheme in front of the first colon, and what follows the colon. -/
def scheme? (text : List Char) : Option (String × List Char) :=
  let isSchemeChar (c : Char) : Bool := c.isAlphanum || c == '+' || c == '-' || c == '.'
  match text.takeWhile isSchemeChar, text.dropWhile isSchemeChar with
  | c :: name, ':' :: rest =>
    if c.isAlpha then some (Text.lower (String.ofList (c :: name)), rest) else none
  | _, _ => none

/-- Whether a character ends the host and port. -/
def endsAuthority (kind : SchemeKind) (c : Char) : Bool :=
  c == '/' || c == '?' || c == '#' || (c == '\\' && kind != .other)

/-- What follows the last `@` of a text, and whether there is one. -/
def afterCredentials (text : List Char) : List Char × Bool :=
  ((text.reverse.takeWhile (· != '@')).reverse, text.contains '@')

/-- A text up to the first colon outside brackets, and what follows the colon. -/
def cutPort : (bracketed : Bool) → List Char → List Char × Option (List Char)
  | _, [] => ([], none)
  | bracketed, c :: text =>
    if c == ':' && !bracketed then ([], some text)
    else
      let inside := if c == '[' then true else if c == ']' then false else bracketed
      let (host, port) := cutPort inside text
      (c :: host, port)

/-- The port that a text means; there is none for the default of the scheme. -/
def port? (scheme : String) (text : List Char) : Option (Option Nat) :=
  if text.isEmpty then some none
  else if text.all Char.isDigit then
    match Ipv4.valueIn? 10 text with
    | some n =>
      -- A port is a number of sixteen bits.
      if 65535 < n then none
      else some (if webSchemes.lookup scheme = some n then none else some n)
    | none => none
  else none

/-- The host and port of a text. -/
def authority? (scheme : String) (kind : SchemeKind) (text : List Char) :
    Option (Host × Option Nat) := do
  let (rest, credentials) := afterCredentials text
  -- A host may only be missing where nothing else depends on it.
  let (host, port) := cutPort false rest
  guard (!(host.isEmpty && (kind == .web || credentials || port.isSome)))
  let host ← if kind == .other then Host.opaque? host else Host.ofDomain? host
  let port ← port? scheme (port.getD [])
  pure (host, port)

/-- Whether a step of a path stays where it is. -/
def isSingleDot (step : List Char) : Bool :=
  [".", "%2e"].contains (Text.lower (String.ofList step))

/-- Whether a step of a path goes up. -/
def isDoubleDot (step : List Char) : Bool :=
  ["..", ".%2e", "%2e.", "%2e%2e"].contains (Text.lower (String.ofList step))

/-- Whether a text names a drive. -/
def isDrive (text : List Char) : Bool :=
  match text with
  | [letter, mark] => letter.isAlpha && (mark == ':' || mark == '|')
  | _ => false

/-- The steps of a path after a step up; nothing where there is no way up. A file system cannot be
left, so a drive is not taken back. -/
def stepUp? (kind : SchemeKind) (taken : List (List Char)) : Option (List (List Char)) :=
  match taken with
  | [] => none
  | [step] => if kind = .file && isDrive step then none else some []
  | taken => some taken.dropLast

/-- A step as it is taken. The first one in a file system may name a drive, with a colon. -/
def takenStep (kind : SchemeKind) (taken : List (List Char)) (step : List Char) : List Char :=
  if kind = .file && taken.isEmpty && isDrive step then step.take 1 ++ [':'] else step

/-- The steps of a path from some steps already taken on. The last step is empty where the path ends
on the way. -/
def walk (kind : SchemeKind) (taken : List (List Char)) : List (List Char) → List (List Char)
  | [] => taken
  | step :: steps =>
    if isDoubleDot step then
      match stepUp? kind taken with
      | some above => if steps.isEmpty then above ++ [[]] else walk kind above steps
      | none =>
        -- At the top, a path that may be missing altogether stays missing.
        if steps.isEmpty && kind != .other then taken ++ [[]] else walk kind taken steps
    else if isSingleDot step then
      if steps.isEmpty then taken ++ [[]] else walk kind taken steps
    else walk kind (taken ++ [takenStep kind taken step]) steps

/-- The path of a text, up to a query or fragment. Only a scheme of the web or of files takes a path
without a slash in front for the same as one with it. -/
def pathOf (kind : SchemeKind) (text : List Char) : String :=
  let text := text.takeWhile fun c => !(c == '?' || c == '#')
  -- The web and file systems take a backslash for a slash.
  let text := if kind = .other then text else text.map fun c => if c == '\\' then '/' else c
  let encode := percentEncode fun c => " \"#<>?`\x7b\x7d".toList.contains c
  let write (text : List Char) : List Char :=
    (walk kind [] (Text.pieces '/' text)).flatMap fun step => '/' :: encode step
  match text with
  | '/' :: text => String.ofList (write text)
  | text =>
    if kind = .other then String.ofList (percentEncode (fun _ => false) text)
    else String.ofList (write text)

/-- Reads an endpoint whose host follows. -/
def withAuthority? (scheme : String) (kind : SchemeKind) (text : List Char) : Option Endpoint := do
  let stops := endsAuthority kind
  let rest := text.dropWhile fun c => !stops c
  let (host, port) ← authority? scheme kind (text.takeWhile fun c => !stops c)
  pure { scheme, host := some host, port, path := pathOf kind rest }

/-- Reads an endpoint in the file system. A drive is no host. -/
def file? (text : List Char) : Option Endpoint := do
  let isSlash (c : Char) : Bool := c == '/' || c == '\\'
  match text with
  | a :: b :: rest =>
    if isSlash a && isSlash b then
      let stops := endsAuthority .file
      let host := rest.takeWhile fun c => !stops c
      let after := rest.dropWhile fun c => !stops c
      if isDrive host then
        pure { scheme := "file", host := none, port := none, path := pathOf .file ('/' :: rest) }
      else if host.isEmpty then
        pure { scheme := "file", host := none, port := none, path := pathOf .file after }
      else
        let found ← Host.ofDomain? host
        let host := if found = .domain "localhost" then none else some found
        pure { scheme := "file", host, port := none, path := pathOf .file after }
    else
      pure { scheme := "file", host := none, port := none, path := pathOf .file text }
  | _ => pure { scheme := "file", host := none, port := none, path := pathOf .file text }

/-- Reads an endpoint. -/
def parse? (text : String) : Option Endpoint := do
  let (scheme, rest) ← scheme? (clean text.toList)
  let kind := SchemeKind.of scheme
  match kind, rest with
  -- A scheme of the web has a host, however many slashes stand in front of it.
  | .web, rest => withAuthority? scheme kind (rest.dropWhile fun c => c == '/' || c == '\\')
  | .file, rest => file? rest
  | .other, '/' :: '/' :: rest =>
    if (rest.takeWhile fun c => !endsAuthority kind c).isEmpty then
      pure { scheme, host := none, port := none, path := pathOf kind rest }
    else
      withAuthority? scheme kind rest
  | .other, rest => pure { scheme, host := none, port := none, path := pathOf kind rest }

end Endpoint

end NamedQuery
