/-
# Where the database is

A database is named by the last part of the path of its address.  To create it, one connects to
the database for maintenance that every server has: its address is the same up to the last slash.
-/

namespace PaymentPlans.Database

/-- How many connections may be open unless another number is chosen. -/
def Config.defaultMaxConnections : Nat := 5

/-- Where the database is, and how many connections to it may be open. -/
structure Config where
  url : String
  /-- The most connections that may be open. -/
  maxConnections : Nat := Config.defaultMaxConnections
deriving DecidableEq, Repr

namespace Config

/-- The address that is used when none is given. -/
def defaultUrl : String := "postgresql://localhost:5432/paylater"

/-- The variable of the environment that gives an address. -/
def urlVariable : String := "PAYLATER_DATABASE_URL"

/-- The configuration that the environment gives. -/
def ofEnvironment (url : Option String) : Config := { url := url.getD defaultUrl }

end Config

/-- What stands behind the last slash of an address, all of it if there is none. -/
def lastPart (cs : List Char) : List Char := (cs.reverse.takeWhile (· ≠ '/')).reverse

/-- What stands before the last slash of an address, if there is one. -/
def beforeLastSlash? (cs : List Char) : Option (List Char) :=
  match cs.reverse.dropWhile (· ≠ '/') with
  | [] => none
  | _ :: before => some before.reverse

/-- What an address ends with is a name: it is not empty and holds no `:` and no `@`. -/
def isName (cs : List Char) : Bool := !cs.isEmpty && cs.all fun c => c ≠ ':' && c ≠ '@'

namespace Config

/-- The name of the database: what stands behind the last slash, without the query behind it. -/
def databaseName? (config : Config) : Option String :=
  let name := (lastPart config.url.toList).takeWhile (· ≠ '?')
  if isName name then some (String.ofList name) else none

/-- The address of the database for maintenance on the same server. -/
def maintenanceUrl (config : Config) : String :=
  match beforeLastSlash? config.url.toList with
  | some server => String.ofList (server ++ "/postgres".toList)
  | none => config.url

end Config

/-- Whether a character may stand in the name of a database that is created. -/
def isPlain (c : Char) : Bool := c.isAlphanum || c == '_'

end PaymentPlans.Database
