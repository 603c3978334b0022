import NamedQuery.Config
import NamedQuery.Log
import NamedQuery.Text.LowerCase

/-!
# Configuration from the environment

A configuration can be read from variables of the environment. An empty variable counts as unset,
except for a switch, which an empty variable turns off.

* `Environment` — variables by name;
* `Environment.switch` — a variable that is on or off;
* `Environment.isVariable` — whether a name can be one of a variable that is set or not;
* `Config.ofEnvironment` — the configuration that the variables give.
-/

namespace NamedQuery

/-- Variables by name. -/
abbrev Environment := Fields String

namespace Environment

variable (env : Environment)

/-- The value of a variable that is not empty. -/
def nonEmpty? (name : String) : Option String :=
  (env.get? name).filter (· != "")

/-- Whether a name is that of a variable, set or not. A name that every table carries is the name of
something else, as long as no variable takes it. -/
def isVariable (name : String) : Bool :=
  env.has name || !isInherited name

/-- Whether a variable is on: it says `true` in any case, or `1`. An unset variable has the given
state. -/
def switch (name : String) (unset : Bool) : Bool :=
  match env.get? name with
  | none => unset
  | some v => Text.lower v == "true" || v == "1"

/-- The credentials that the variables give: an access key, or else a profile, or else whatever the
environment has to offer. -/
def credentials : Credentials :=
  match env.nonEmpty? "AWS_ACCESS_KEY_ID", env.nonEmpty? "AWS_SECRET_ACCESS_KEY" with
  | some id, some secret => .static id secret (env.get? "AWS_SESSION_TOKEN")
  | _, _ =>
    match env.nonEmpty? "AWS_PROFILE" with
    | some profile => .profile profile
    | none => .environment

/-- The endpoint that the variables give. -/
def endpoint? : Option String :=
  (env.nonEmpty? "DYNAMODB_ENDPOINT").or
    (if env.switch "DYNAMODB_LOCAL" false then some localEndpoint else none)

/-- The log level that the variables give, if it is one. -/
def logLevel? : Option String :=
  ((env.nonEmpty? "DYNAMODB_LOG_LEVEL").map Text.lower).filter LogLevel.isRecognised

end Environment

/-- The configuration that the variables of an environment give. Region and credentials are always
set. -/
def Config.ofEnvironment (env : Environment) : Config :=
  { region := some
      (((env.nonEmpty? "AWS_REGION").or (env.nonEmpty? "AWS_DEFAULT_REGION")).getD defaultRegion)
    credentials := some env.credentials
    endpoint := env.endpoint?
    tablePrefix := env.nonEmpty? "DYNAMODB_TABLE_PREFIX"
    logLevel := env.logLevel? }

end NamedQuery
