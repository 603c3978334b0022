import NamedQuery.TableName

/-!
# Configuration

Which tables, which store and which credentials a program works with.

* `Config` — a configuration; everything in it may be left open;
* `Config.tableName` — the physical name of a declared table;
* the `with…` functions — changes of one entry each.
-/

namespace NamedQuery

/-- The version of this library. -/
def version : String := "0.1.0"

/-- The region where none is configured. -/
def defaultRegion : String := "us-east-1"

/-- The endpoint of a store on the same machine. -/
def localEndpoint : String := "http://localhost:8000"

/-- How many delete requests one batch may hold. -/
def batchLimit : Nat := 25

/-- Where credentials come from. -/
inductive Credentials where
  | static (accessKeyId secretAccessKey : String) (sessionToken : Option String)
  | profile (name : String)
  /-- The variables of the environment. -/
  | environment
  /-- A source that this library leaves alone. -/
  | other (source : String)
deriving DecidableEq, Repr

/-- The configuration of a program. -/
structure Config where
  region : Option String := none
  endpoint : Option String := none
  credentials : Option Credentials := none
  /-- What stands in front of every physical table name. -/
  tablePrefix : Option String := none
  /-- Physical table names by declared name. They take precedence over the prefix. -/
  tableOverrides : Option (Fields String) := none
  /-- The name of the threshold of the console. -/
  logLevel : Option String := none
deriving DecidableEq, Repr

namespace Config

/-- The physical name of a declared table: the override for it, or else its own name behind the
prefix. Where there are overrides at all, the names that every table carries are found among them,
too. -/
def tableName (c : Config) (table : String) : TableName :=
  match c.tableOverrides with
  | none => .text (c.tablePrefix.getD "" ++ table)
  | some overrides =>
    match overrides.get? table with
    | some physical => .text physical
    | none =>
      -- Nobody has to put this entry there: an empty table of overrides carries it.
      if carried : isInherited table = true then .inherited table carried
      else .text (c.tablePrefix.getD "" ++ table)

def withRegion (c : Config) (region : String) : Config :=
  { c with region := some region }

def withEndpoint (c : Config) (endpoint : String) : Config :=
  { c with endpoint := some endpoint }

def withStaticCredentials (c : Config) (accessKeyId secretAccessKey : String)
    (sessionToken : Option String) : Config :=
  { c with credentials := some (.static accessKeyId secretAccessKey sessionToken) }

def withProfileCredentials (c : Config) (name : String) : Config :=
  { c with credentials := some (.profile name) }

def withEnvironmentCredentials (c : Config) : Config :=
  { c with credentials := some .environment }

def withTablePrefix (c : Config) (tablePrefix : String) : Config :=
  { c with tablePrefix := some tablePrefix }

/-- Gives one declared table a physical name and keeps the other overrides. -/
def withTableOverride (c : Config) (table physical : String) : Config :=
  { c with tableOverrides := some (Fields.insert (c.tableOverrides.getD []) table physical) }

def withLogLevel (c : Config) (level : String) : Config :=
  { c with logLevel := some level }

end Config

end NamedQuery
