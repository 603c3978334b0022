/-!
# Configuration defects

What can be wrong with a configuration, and how it is worded.
-/

namespace NamedQuery

/-- A fault in a configuration. -/
inductive ConfigDefect where
  | blankRegion
  | regionFormat (region : String)
  | blankEndpoint
  | endpointFormat (endpoint : String)
  | endpointScheme
  | blankAccessKey
  | blankSecretKey
  | blankProfile
  | blankOverride (table : String)
deriving DecidableEq, Repr

/-- The wording of a defect. -/
def ConfigDefect.message : ConfigDefect → String
  | blankRegion => "Region must be a non-empty string"
  | regionFormat region =>
    "Invalid region format: " ++ region ++ ". Expected format like 'us-east-1' or 'eu-west-2'"
  | blankEndpoint => "Endpoint must be a non-empty string"
  | endpointFormat endpoint => "Invalid endpoint URL: " ++ endpoint
  | endpointScheme => "Endpoint URL must use http: or https: protocol"
  | blankAccessKey => "Static credentials require non-empty accessKeyId"
  | blankSecretKey => "Static credentials require non-empty secretAccessKey"
  | blankProfile => "Profile credentials require non-empty profileName"
  | blankOverride table => "Table name override for " ++ table ++ " must be a non-empty string"

end NamedQuery
