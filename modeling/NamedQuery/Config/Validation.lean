import NamedQuery.Config
import NamedQuery.Endpoint
import NamedQuery.Error

/-!
# Checking a configuration

A configuration is checked entry by entry: region, endpoint, credentials, table overrides. What is
left open is accepted.

* `Config.isRegion` — the form of a region, such as `us-east-1`;
* `Config.defect?` — the first defect of a configuration;
* `Config.check` — accepts a configuration, or fails with its first defect.
-/

namespace NamedQuery.Config

/-- Whether a text consists of at least one small letter of the alphabet. -/
def isWord (text : List Char) : Bool :=
  !text.isEmpty && text.all fun c => 'a' ≤ c && c ≤ 'z'

/-- Whether a text has the form of a region: a word of two letters, at least one further word, and a
numeral, joined by hyphens. -/
def isRegion (region : String) : Bool :=
  match Text.pieces '-' region.toList with
  | area :: place :: rest =>
    -- Three parts at least: `rest` holds the numeral.
    match rest.getLast? with
    | some numeral =>
      isWord area && area.length == 2 && (place :: rest.dropLast).all isWord &&
        !numeral.isEmpty && numeral.all Char.isDigit
    | none => false
  | _ => false

/-- What is wrong with a region. -/
def regionDefect? (region : String) : Option ConfigDefect :=
  if Text.isBlank region then some .blankRegion
  else if isRegion region then none
  else some (.regionFormat region)

/-- What is wrong with an endpoint. -/
def endpointDefect? (endpoint : String) : Option ConfigDefect :=
  if Text.isBlank endpoint then some .blankEndpoint
  else
    match Endpoint.parse? endpoint with
    | none => some (.endpointFormat endpoint)
    | some parsed =>
      if ["http", "https"].contains parsed.scheme then none else some .endpointScheme

/-- What is wrong with credentials. -/
def credentialsDefect? : Credentials → Option ConfigDefect
  | .static accessKeyId secretAccessKey _ =>
    if Text.isBlank accessKeyId then some .blankAccessKey
    else if Text.isBlank secretAccessKey then some .blankSecretKey
    else none
  | .profile name => if Text.isBlank name then some .blankProfile else none
  | .environment | .other _ => none

/-- What is wrong with the physical name of a table. -/
def overrideDefect? (table physical : String) : Option ConfigDefect :=
  if Text.isBlank physical then some (.blankOverride table) else none

/-- The first defect of a configuration. -/
def defect? (c : Config) : Option ConfigDefect :=
  c.region.bind regionDefect? <|>
  c.endpoint.bind endpointDefect? <|>
  c.credentials.bind credentialsDefect? <|>
  (c.tableOverrides.getD []).findSome? fun (table, physical) => overrideDefect? table physical

/-- Accepts a configuration without defects. -/
def check (c : Config) : Except Error Unit :=
  match c.defect? with
  | none => .ok ()
  | some defect => .error { cause := .invalidConfig defect }

end NamedQuery.Config
