import NamedQuery.Config.Connection
import NamedQuery.Description.Request

/-!
# Configurations as records

* `Config.toValue` — a configuration; what it leaves open is absent;
* `Connection.toValue` — the settings of a connection.
-/

namespace NamedQuery

def Credentials.toValue : Credentials → Value
  | static id secret token =>
    .record [("type", .text "static"), ("accessKeyId", .text id),
      ("secretAccessKey", .text secret), ("sessionToken", optional .text token)]
  | profile name => .record [("type", .text "profile"), ("profileName", .text name)]
  | environment => .record [("type", .text "environment")]
  | other source => .record [("type", .text source)]

def Config.toValue (c : Config) : Value :=
  .record [("region", optional .text c.region), ("endpoint", optional .text c.endpoint),
    ("credentials", optional Credentials.toValue c.credentials),
    ("tableNamePrefix", optional .text c.tablePrefix),
    ("tableNameOverrides", optional namedTexts c.tableOverrides),
    ("logLevel", optional .text c.logLevel)]

def Endpoint.toValue (e : Endpoint) : Value :=
  .record [("protocol", .text (e.scheme ++ ":")),
    ("hostname", .text ((e.host.map Host.write).getD "")),
    ("port", optional (fun n => .number (Float.ofNat n)) e.port), ("path", .text e.path)]

def AccessKey.toValue (k : AccessKey) : Value :=
  .record [("accessKeyId", .text k.id), ("secretAccessKey", .text k.secret),
    ("sessionToken", optional .text k.sessionToken)]

def Connection.toValue (c : Connection) : Value :=
  .record [("region", .text c.region), ("endpoint", optional Endpoint.toValue c.endpoint),
    ("credentials", optional AccessKey.toValue c.accessKey),
    ("marshallOptions", .record [("removeUndefinedValues", .bool c.removeAbsent),
      ("convertClassInstanceToMap", .bool c.convertObjects)]),
    ("unmarshallOptions", .record [("wrapNumbers", .bool c.wrapNumbers)])]

end NamedQuery
