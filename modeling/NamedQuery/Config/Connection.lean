import NamedQuery.Config
import NamedQuery.Config.Region
import NamedQuery.Endpoint.Query
import NamedQuery.Run

/-!
# Connections

What a configuration says about the connection to the store, with the defaults filled in.

* `Connection` — region, endpoint and credentials of a connection, and how values are converted;
* `connectedRegion`, `connectedEndpoint` — the region and the endpoint that texts name;
* `Config.connection` — the connection of a configuration. A region that cannot be part of a host
  name and an endpoint that cannot be read are faults.
-/

namespace NamedQuery

/-- An access key of its own, as opposed to one that is found elsewhere. -/
structure AccessKey where
  id : String
  secret : String
  sessionToken : Option String
deriving DecidableEq, Repr

/-- The settings of a connection to the store. -/
structure Connection where
  region : String
  endpoint : Option Endpoint := none
  accessKey : Option AccessKey := none
  /-- Whether absent fields are dropped from items that are stored. -/
  removeAbsent : Bool := true
  /-- Whether objects are stored by their fields, like records. -/
  convertObjects : Bool := true
  /-- Whether numbers are handed back with all their digits instead of as plain numbers. -/
  wrapNumbers : Bool := false
deriving DecidableEq, Repr

/-- The access key among credentials. -/
def Credentials.accessKey? : Credentials → Option AccessKey
  | .static id secret sessionToken => some { id := id, secret, sessionToken }
  | _ => none

/-- The region of a connection under a name. -/
def connectedRegion (name : String) : Except Thrown String :=
  let region := Region.ofName name
  -- An empty name is not replaced by the default.
  if name = "" then
    .error (.fault "Error" "Region is missing")
  else if Region.isAccepted region then
    .ok region
  else
    .error (.fault "Error"
      ("Region not accepted: region=\"" ++ region ++ "\" is not a valid hostname component."))

/-- The endpoint of a connection under a text. -/
def connectedEndpoint (text : String) : Except Thrown Endpoint :=
  match Endpoint.parse? text with
  | none => .error (.fault "TypeError" "Invalid URL")
  | some endpoint =>
    if Endpoint.isQueryReadable (Endpoint.queryOf text) then .ok endpoint
    else .error (.fault "URIError" "URI malformed")

/-- The connection of a configuration. -/
def Config.connection (c : Config) : Except Thrown Connection := do
  let region ← connectedRegion (c.region.getD defaultRegion)
  let endpoint ← c.endpoint.mapM connectedEndpoint
  pure { region, endpoint, accessKey := c.credentials.bind Credentials.accessKey? }

end NamedQuery
